/-
  File:      DroneSim/Electromagnet/Payload.lean
  Subject:   The payload request policy (electromagnet/payload.py).

  `PayloadAuthority.decide` looks at one world and one request and answers with a wire command or
  a refusal. Coordinates are exact rationals, so `math.hypot` against a bound is `hypotLe`.
  `decide_cases` takes a decision apart: a refusal, or a command with its conditions met
  (`Commanded`; `MayAttach` names those of an attach command).
-/
import DroneSim.Library.Dict
import DroneSim.Library.Exact

namespace DroneSim

open Library

/-! ## 1. Requests and worlds -/

structure PickupZone where
  centerXM : ℚ
  centerYM : ℚ
  widthM : ℚ
  heightM : ℚ

/-- `PickupZone.contains`. -/
def PickupZone.contains (z : PickupZone) (xy : ℚ × ℚ) : Bool :=
  decide (|xy.1 - z.centerXM| ≤ z.widthM / 2) && decide (|xy.2 - z.centerYM| ≤ z.heightM / 2)

structure PayloadRequest where
  runId : String
  arucoId : ℕ
  action : String
  commandId : String
  deriving DecidableEq, Repr

structure PayloadDecision where
  accepted : Bool
  code : String
  wireCommand : Option String
  deriving DecidableEq, Repr

structure PayloadWorld where
  vehicleXy : ℚ × ℚ
  vehicleGrounded : Bool
  payloadXy : ℚ × ℚ
  payloadGrounded : Bool
  attachedId : Option ℕ

/-- `PayloadAuthority`: the two fields below the data are what the constructor checks. A marker
    without a region has the empty list. -/
structure PayloadAuthority where
  runId : String
  pickupZones : Dict String PickupZone
  payloadZones : Dict ℕ (List String)
  maxCenterErrorM : ℚ
  maxCenterErrorM_pos : 0 < maxCenterErrorM
  configured : (payloadZones.items.all fun p =>
    p.2.all fun name => (pickupZones.get name).isSome) = true

namespace PayloadAuthority

/-! ## 2. Decisions -/

/-- `_COMMAND_ID.fullmatch`: 1 to 128 letters, digits or `_.:-`. -/
def commandIdMatches (commandId : String) : Bool :=
  decide (1 ≤ commandId.toList.length) && decide (commandId.toList.length ≤ 128) &&
    commandId.toList.all fun ch => ch.isAlphanum || ['_', '.', ':', '-'].contains ch

/-- `self._pickup_zones[name].contains(xy)`. -/
def zoneContains (a : PayloadAuthority) (name : String) (xy : ℚ × ℚ) : Bool :=
  (a.pickupZones.get name).any fun zone => zone.contains xy

/-- `center_error` is at most the bound, or above it by no more than `1e-12`. -/
def centered (a : PayloadAuthority) (world : PayloadWorld) : Bool :=
  let dx := world.vehicleXy.1 - world.payloadXy.1
  let dy := world.vehicleXy.2 - world.payloadXy.2
  hypotLe dx dy a.maxCenterErrorM || hypotLe dx dy (a.maxCenterErrorM + 1 / 1000000000000)

def refusal (code : String) : PayloadDecision := ⟨false, code, none⟩

/-- The text of a command for the coordinator. -/
def wire (commandId action : String) : String := "payload-command-v1|" ++ commandId ++ "|" ++ action

/-- `decide`. -/
def decide (a : PayloadAuthority) (world : PayloadWorld) (request : PayloadRequest) :
    PayloadDecision :=
  if request.runId ≠ a.runId then refusal "STALE_RUN"
  else if !commandIdMatches request.commandId then refusal "INVALID_COMMAND_ID"
  else
    match a.payloadZones.get request.arucoId with
    | none => refusal "UNKNOWN_MARKER"
    | some allowedZones =>
      if !(["attach", "release"].contains request.action) then refusal "INVALID_ACTION"
      else if request.action = "release" then
        if world.attachedId ≠ some request.arucoId then refusal "NOT_ATTACHED"
        else ⟨true, "OK", some (wire request.commandId "detach")⟩
      else if allowedZones.isEmpty then refusal "WRONG_PICKUP_ZONE"
      else if !world.vehicleGrounded then refusal "NOT_LANDED"
      else
        let vehicleZones := allowedZones.filter fun name => a.zoneContains name world.vehicleXy
        if vehicleZones.isEmpty then refusal "OUTSIDE_PICKUP_ZONE"
        else
          let payloadZones := allowedZones.filter fun name => a.zoneContains name world.payloadXy
          if !vehicleZones.any fun name => payloadZones.contains name then
            refusal "WRONG_PICKUP_ZONE"
          else if !world.payloadGrounded then refusal "PAYLOAD_NOT_GROUNDED"
          else if world.attachedId.isSome then refusal "CAPACITY_OCCUPIED"
          else if !a.centered world then refusal "CENTER_ERROR"
          else ⟨true, "OK", some (wire request.commandId "attach")⟩

/-! ## 3. What a command needs -/

/-- The request is one the authority knows. -/
structure Addressed (a : PayloadAuthority) (request : PayloadRequest) : Prop where
  run : request.runId = a.runId
  commandId : commandIdMatches request.commandId = true
  marker : (a.payloadZones.get request.arucoId).isSome = true

/-- **The conditions of an attach command**: vehicle and payload stand on the ground in one allowed
    zone, close to each other, and nothing is attached. -/
structure MayAttach (a : PayloadAuthority) (world : PayloadWorld) (marker : ℕ) : Prop where
  zone : ∃ zones name, a.payloadZones.get marker = some zones ∧ name ∈ zones ∧
    a.zoneContains name world.vehicleXy = true ∧ a.zoneContains name world.payloadXy = true
  vehicle : world.vehicleGrounded = true
  payload : world.payloadGrounded = true
  capacity : world.attachedId = none
  center : a.centered world = true

/-- **Where there is a command**, the request is known, and its action has its conditions met. -/
inductive Commanded (a : PayloadAuthority) (world : PayloadWorld) (request : PayloadRequest) :
    PayloadDecision → Prop where
  | attach (haddressed : a.Addressed request) (haction : request.action = "attach")
      (h : a.MayAttach world request.arucoId) :
      Commanded a world request ⟨true, "OK", some (wire request.commandId "attach")⟩
  | release (haddressed : a.Addressed request) (haction : request.action = "release")
      (h : world.attachedId = some request.arucoId) :
      Commanded a world request ⟨true, "OK", some (wire request.commandId "detach")⟩

/-- A check of the decision: it refuses, or the decision goes on. -/
theorem refused_or {c : Prop} [Decidable c] {code : String} {d decision : PayloadDecision}
    (h : (if c then refusal code else d) = decision) :
    (∃ code, decision = refusal code) ∨ ¬ c ∧ d = decision := by
  by_cases hc : c
  · rw [if_pos hc] at h
    exact Or.inl ⟨code, h.symm⟩
  · rw [if_neg hc] at h
    exact Or.inr ⟨hc, h⟩

/-- **A decision is a refusal or a command.** -/
theorem decide_cases (a : PayloadAuthority) (world : PayloadWorld) (request : PayloadRequest) :
    (∃ code, a.decide world request = refusal code) ∨
      Commanded a world request (a.decide world request) := by
  generalize hd : a.decide world request = decision
  unfold decide at hd
  obtain hrefused | ⟨hrun, hd⟩ := refused_or hd
  · exact Or.inl hrefused
  obtain hrefused | ⟨hid, hd⟩ := refused_or hd
  · exact Or.inl hrefused
  cases hzones : a.payloadZones.get request.arucoId with
  | none =>
    rw [hzones] at hd
    exact Or.inl ⟨_, hd.symm⟩
  | some zones =>
    rw [hzones] at hd
    have haddressed : a.Addressed request :=
      ⟨not_not.mp hrun, by simpa using hid, by rw [hzones]; rfl⟩
    obtain hrefused | ⟨haction, hd⟩ := refused_or hd
    · exact Or.inl hrefused
    by_cases hrelease : request.action = "release"
    · rw [if_pos hrelease] at hd
      obtain hrefused | ⟨hattached, rfl⟩ := refused_or hd
      · exact Or.inl hrefused
      · exact Or.inr (.release haddressed hrelease (not_not.mp hattached))
    · rw [if_neg hrelease] at hd
      have hattach : request.action = "attach" := by simpa [hrelease] using haction
      obtain hrefused | ⟨-, hd⟩ := refused_or hd
      · exact Or.inl hrefused
      obtain hrefused | ⟨hvehicle, hd⟩ := refused_or hd
      · exact Or.inl hrefused
      obtain hrefused | ⟨-, hd⟩ := refused_or hd
      · exact Or.inl hrefused
      obtain hrefused | ⟨hcommon, hd⟩ := refused_or hd
      · exact Or.inl hrefused
      obtain hrefused | ⟨hpayload, hd⟩ := refused_or hd
      · exact Or.inl hrefused
      obtain hrefused | ⟨hcapacity, hd⟩ := refused_or hd
      · exact Or.inl hrefused
      obtain hrefused | ⟨hcenter, rfl⟩ := refused_or hd
      · exact Or.inl hrefused
      refine Or.inr (.attach haddressed hattach ⟨?_, by simpa using hvehicle,
        by simpa using hpayload, by simpa using hcapacity, by simpa using hcenter⟩)
      rw [Bool.not_eq_true, Bool.not_eq_false', List.any_eq_true] at hcommon
      obtain ⟨name, hname, hin⟩ := hcommon
      rw [List.mem_filter] at hname
      rw [List.contains_iff_mem, List.mem_filter] at hin
      exact ⟨zones, name, hzones, hname.1, hname.2, hin.2⟩

theorem decide_command {a : PayloadAuthority} {world : PayloadWorld} {request : PayloadRequest}
    {text : String} (h : (a.decide world request).wireCommand = some text) :
    Commanded a world request (a.decide world request) := by
  rcases a.decide_cases world request with ⟨code, hcode⟩ | hcommand
  · rw [hcode] at h
    cases h
  · exact hcommand

/-- **A decision without a command is not accepted.** -/
theorem decide_refused {a : PayloadAuthority} {world : PayloadWorld} {request : PayloadRequest}
    (h : (a.decide world request).wireCommand = none) :
    (a.decide world request).accepted = false := by
  rcases a.decide_cases world request with ⟨code, hcode⟩ | hcommand
  · rw [hcode]
    rfl
  · generalize a.decide world request = decision at hcommand h
    cases hcommand with
    | attach => cases h
    | release => cases h

end PayloadAuthority

end DroneSim
