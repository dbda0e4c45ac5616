/-
  File:      DroneSim/Electromagnet/GatewaySteps.lean
  Subject:   What one move of the payload gateway can do.

  `Went a s m t effects` lists the moves of `GatewaySystem.step`, one constructor for each way a
  move can go, with the tests that were passed on it; `step_went` takes a step apart into them.
  Every invariant of a run is proved by cases on `Went`, none by unfolding `step`.

  The state has two halves: what the samples write and what the executions write. `SameWorld` says
  that a move leaves the first as it was.
-/
import DroneSim.Electromagnet.Gateway
import DroneSim.Library.Fallible

namespace DroneSim

open Library

namespace PayloadGateway

variable (a : PayloadAuthority) (g : PayloadGateway) (marker : ℕ)

/-! ## 1. The two halves of the state -/

/-- Samples and flags are as before. -/
structure SameWorld (g h : PayloadGateway) : Prop where
  vehicle : h.vehicle = g.vehicle
  payloads : h.payloads = g.payloads
  vehicleHistory : h.vehicleHistory = g.vehicleHistory
  payloadHistories : h.payloadHistories = g.payloadHistories

/-- The state after a vehicle sample that counts. -/
def sawVehicle (fact : VehicleFact) : PayloadGateway :=
  { g with
    vehicle := some fact
    vehicleHistory := g.vehicleHistory.set fact.timestampNs fact }.prune

/-- The state after a payload sample that counts. -/
def sawPayload (fact : PayloadFact) : PayloadGateway :=
  { g with
    payloads := g.payloads.set marker fact
    payloadHistories := g.setHistory marker fact }.prune

theorem acceptVehicle_cases (runId : String) (t : ℕ) (xy : ℚ × ℚ) (grounded : Bool) :
    g.acceptVehicle a runId t xy grounded = (g, []) ∨
    (∀ v, g.vehicle = some v → v.timestampNs < t) ∧
      g.acceptVehicle a runId t xy grounded =
        (g.sawVehicle ⟨t, xy, grounded⟩, [.vehicle ⟨t, xy, grounded⟩]) := by
  unfold acceptVehicle
  split
  · exact Or.inl rfl
  · split
    · exact Or.inl rfl
    · rename_i hnew
      refine Or.inr ⟨fun v hv => ?_, rfl⟩
      rw [hv, Option.any_some, decide_eq_true_eq] at hnew
      omega

theorem acceptPayload_cases (runId : String) (t marker : ℕ) (xy : ℚ × ℚ)
    (grounded attached : Bool) : g.acceptPayload a runId t marker xy grounded attached = (g, []) ∨
    marker ∈ markers ∧ (∀ f, g.payloads.get marker = some f → f.timestampNs < t) ∧
      g.acceptPayload a runId t marker xy grounded attached =
        (g.sawPayload marker ⟨t, xy, grounded, attached⟩,
          [.payload marker ⟨t, xy, grounded, attached⟩]) := by
  unfold acceptPayload
  split
  · exact Or.inl rfl
  · rename_i hguard
    split
    · exact Or.inl rfl
    · rename_i hnew
      rw [Bool.or_eq_true, not_or, Bool.not_eq_true', Bool.not_eq_false] at hguard
      refine Or.inr ⟨List.contains_iff_mem.mp hguard.2, fun f hf => ?_, rfl⟩
      rw [hf, Option.any_some, decide_eq_true_eq] at hnew
      omega

/-- The slot is open for a result of this marker. -/
def Open (commandId : String) (marker : ℕ) : Prop :=
  g.pending.get commandId = some ⟨marker, none⟩

/-- The state after a result that fills its slot. -/
def filled (result : PhysicalResult) : PayloadGateway :=
  { g with pending := g.pending.set result.commandId ⟨marker, some result⟩ }

theorem acceptResult_cases (wire : String) : g.acceptResult marker wire = g ∨
    ∃ result, parsePhysicalResult wire = .ok result ∧ g.Open result.commandId marker ∧
      g.acceptResult marker wire = g.filled marker result := by
  unfold acceptResult
  split
  · exact Or.inl rfl
  · rename_i result hparse
    split
    · exact Or.inl rfl
    · rename_i pending hpending
      split
      · exact Or.inl rfl
      · rename_i hopen
        obtain ⟨markerId, value⟩ := pending
        simp only [ne_eq, Bool.or_eq_true, decide_eq_true_eq, not_or, not_not, Bool.not_eq_true,
          Option.isSome_eq_false_iff, Option.isNone_iff_eq_none] at hopen
        obtain ⟨rfl, rfl⟩ := hopen
        exact Or.inr ⟨result, hparse, hpending, rfl⟩

/-- The response that a section makes. -/
def reply (request : PayloadRequest) (accepted : Bool) (code detail : String) : PayloadResponse :=
  ⟨accepted, code, detail, request.commandId, g.responseSequence + 1⟩

/-- The state after a response that is not cached. -/
def counted : PayloadGateway :=
  { g with responseSequence := g.responseSequence + 1 }

/-- The state after a response that is. -/
def cached (request : PayloadRequest) (response : PayloadResponse) : PayloadGateway :=
  { g with
    responseSequence := g.responseSequence + 1
    responses := g.responses.set request.commandId (request, response) }

/-- The state with a fresh slot. -/
def opened (request : PayloadRequest) : PayloadGateway :=
  { g with pending := g.pending.set request.commandId ⟨request.arucoId, none⟩ }

/-- The state with the slot taken away. -/
def closed (request : PayloadRequest) : PayloadGateway :=
  { g with pending := g.pending.erase request.commandId }

/-- The fact a confirmed command leaves in place of the newest one. -/
def flagged (fact : PayloadFact) (request : PayloadRequest) : PayloadFact :=
  { fact with attached := decide (request.action = "attach") }

/-- The time of an event: the newest of the vehicle's and the payload's samples. -/
def eventTime (fact : PayloadFact) : ℕ :=
  max ((g.vehicle.map VehicleFact.timestampNs).getD 0) fact.timestampNs

/-- The event of a confirmed command. -/
def eventRecord (request : PayloadRequest) (physical : PhysicalResult) (fact : PayloadFact) :
    PayloadEventRecord :=
  ⟨a.runId, g.eventTime fact, g.eventId, request.arucoId, request.commandId, request.action,
    physical.state, physical.code⟩

/-- The state after the section that makes the event. -/
def written (request : PayloadRequest) (fact : PayloadFact) : PayloadGateway :=
  { g with
    payloads := g.payloads.set request.arucoId (flagged fact request)
    payloadHistories := g.setHistory request.arucoId (flagged fact request)
    eventId := g.eventId + 1 }

end PayloadGateway

/-! ## 2. The moves -/

namespace GatewaySystem

/-- **The ways a move can go.** -/
inductive Went (a : PayloadAuthority) (g : PayloadGateway) : Option Executing → Move →
    PayloadGateway → Option Executing → List GatewayEffect → Prop where
  /-- a sample that does not count, or a result without an open slot -/
  | vehicleIgnored {e : Option Executing} (runId : String) (t : ℕ) (xy : ℚ × ℚ) (grounded : Bool) :
      Went a g e (.vehicle runId t xy grounded) g e []
  | payloadIgnored {e : Option Executing} (runId : String) (t marker : ℕ) (xy : ℚ × ℚ)
      (grounded attached : Bool) :
      Went a g e (.payload runId t marker xy grounded attached) g e []
  | resultIgnored {e : Option Executing} (marker : ℕ) (wire : String) :
      Went a g e (.result marker wire) g e []
  | vehicle {e : Option Executing} (runId : String) (fact : VehicleFact)
      (hnew : ∀ v, g.vehicle = some v → v.timestampNs < fact.timestampNs) :
      Went a g e (.vehicle runId fact.timestampNs fact.xy fact.grounded) (g.sawVehicle fact) e
        [.vehicle fact]
  | payload {e : Option Executing} (runId : String) (marker : ℕ) (fact : PayloadFact)
      (hmarker : marker ∈ PayloadGateway.markers)
      (hnew : ∀ f, g.payloads.get marker = some f → f.timestampNs < fact.timestampNs) :
      Went a g e (.payload runId fact.timestampNs marker fact.xy fact.grounded fact.attached)
        (g.sawPayload marker fact) e [.payload marker fact]
  | result {e : Option Executing} (marker : ℕ) (wire : String) (result : PhysicalResult)
      (hparse : parsePhysicalResult wire = .ok result) (hopen : g.Open result.commandId marker) :
      Went a g e (.result marker wire) (g.filled marker result) e []
  | execute (request : PayloadRequest) :
      Went a g none (.execute request) g (some (.entered request)) []
  | hit (request : PayloadRequest) (response : PayloadResponse)
      (h : g.responses.get request.commandId = some (request, response)) :
      Went a g (some (.entered request)) .proceed g none [.returned request response]
  | conflict (request first : PayloadRequest) (response reply : PayloadResponse)
      (h : g.responses.get request.commandId = some (first, response)) (hne : first ≠ request)
      (hreply : reply = g.reply request false "COMMAND_ID_CONFLICT"
        "command_id was already used by a different request") :
      Went a g (some (.entered request)) .proceed g.counted none
        [.responded request reply, .returned request reply]
  | missed (request : PayloadRequest) (h : g.responses.get request.commandId = none) :
      Went a g (some (.entered request)) .proceed g (some (.missed request)) []
  | unready (request : PayloadRequest) (code detail : String) :
      Went a g (some (.missed request)) .proceed g
        (some (.refusing request false code detail)) []
  | refused (request : PayloadRequest) (world : PayloadWorld) (decision : PayloadDecision)
      (hdecision : a.decide world request = decision) (h : decision.wireCommand = none) :
      Went a g (some (.missed request)) .proceed g
        (some (.refusing request decision.accepted decision.code decision.code)) []
  | warranted (request : PayloadRequest) (world : PayloadWorld) (wire : String)
      (hworld : g.snapshot request = .ok world)
      (h : (a.decide world request).wireCommand = some wire) :
      Went a g (some (.missed request)) .proceed g (some (.commanding request wire)) []
  | responded (request : PayloadRequest) (accepted : Bool) (code detail : String)
      (reply : PayloadResponse) (hreply : reply = g.reply request accepted code detail) :
      Went a g (some (.refusing request accepted code detail)) .proceed (g.cached request reply)
        none [.responded request reply, .returned request reply]
  | registered (request : PayloadRequest) (wire : String) :
      Went a g (some (.commanding request wire)) .proceed (g.opened request)
        (some (.registered request wire)) []
  | published (request : PayloadRequest) (wire : String) :
      Went a g (some (.registered request wire)) (.publish false) g (some (.waiting request))
        [.command request wire]
  | publishRaised (request : PayloadRequest) (wire : String) :
      Went a g (some (.registered request wire)) (.publish true) g (some (.abandoning request))
        [.command request wire]
  | abandoned (request : PayloadRequest) (code detail : String) :
      Went a g (some (.abandoning request)) .proceed (g.closed request)
        (some (.refusing request false code detail)) []
  | woken (request : PayloadRequest) (signaled : Bool)
      (h : signaled = true →
        (g.pending.get request.commandId).any (fun p => p.value.isSome) = true) :
      Went a g (some (.waiting request)) (.wake signaled) g (some (.woken request signaled)) []
  | timedOut (request : PayloadRequest) (confirmed : Bool) (code detail : String)
      (h : confirmed = true → (g.pending.get request.commandId).bind PendingResult.value = none) :
      Went a g (some (.woken request confirmed)) .proceed (g.closed request)
        (some (.refusing request false code detail)) []
  | rejected (request : PayloadRequest) (physical : PhysicalResult) (code detail : String)
      (h : (g.pending.get request.commandId).bind PendingResult.value = some physical)
      (hno : physical.accepts request.action = false) :
      Went a g (some (.woken request true)) .proceed (g.closed request)
        (some (.refusing request false code detail)) []
  | confirmed (request : PayloadRequest) (physical : PhysicalResult)
      (h : (g.pending.get request.commandId).bind PendingResult.value = some physical)
      (hyes : physical.accepts request.action = true) :
      Went a g (some (.woken request true)) .proceed (g.closed request)
        (some (.confirming request physical)) []
  | keyError (request : PayloadRequest) (physical : PhysicalResult)
      (h : g.payloads.get request.arucoId = none) :
      Went a g (some (.confirming request physical)) .proceed g none [.raised request "KeyError"]
  | recorded (request : PayloadRequest) (physical : PhysicalResult) (fact : PayloadFact)
      (h : g.payloads.get request.arucoId = some fact) :
      Went a g (some (.confirming request physical)) .proceed (g.written request fact)
        (some (.recorded request (g.eventRecord a request physical fact) physical.state))
        [.flag request.arucoId (PayloadGateway.flagged fact request)]
  | accepted (request : PayloadRequest) (event : PayloadEventRecord) (state : String)
      (reply : PayloadResponse)
      (hreply : reply = g.reply request true "OK" ("physical payload " ++ state)) :
      Went a g (some (.recorded request event state)) .proceed (g.cached request reply)
        (some (.announcing request event reply)) [.responded request reply]
  | announced (request : PayloadRequest) (event : PayloadEventRecord)
      (response : PayloadResponse) :
      Went a g (some (.announcing request event response)) .proceed g none
        [.event event, .returned request response]

theorem proceed_went {a : PayloadAuthority} {g : PayloadGateway} {e : Executing}
    {t : GatewaySystem} {effects : List GatewayEffect} (h : proceed a g e = .ok (t, effects)) :
    Went a g (some e) .proceed t.gateway t.executing effects := by
  cases e with
  | entered request =>
    simp only [proceed] at h
    split at h
    · rename_i previous hget
      obtain ⟨first, response⟩ := previous
      split at h
      · rename_i heq
        cases h
        have heq : first = request := heq
        subst heq
        exact .hit _ _ hget
      · rename_i hne
        cases h
        exact .conflict _ _ _ _ hget hne rfl
    · rename_i hget
      cases h
      exact .missed _ hget
  | missed request =>
    simp only [proceed] at h
    split at h
    · cases h
      exact .unready _ _ _
    · rename_i world hworld
      split at h
      · rename_i hwire
        cases h
        exact .refused _ world _ rfl hwire
      · rename_i wire hwire
        cases h
        exact .warranted _ world _ hworld hwire
  | refusing request accepted code detail =>
    cases h
    exact .responded _ _ _ _ _ rfl
  | commanding request wire =>
    cases h
    exact .registered _ _
  | registered request wire => cases h
  | abandoning request =>
    cases h
    exact .abandoned _ _ _
  | waiting request => cases h
  | woken request confirmed =>
    simp only [proceed] at h
    split at h
    · rename_i physical hphysical
      split at h
      · rename_i hyes
        cases h
        exact .confirmed _ _ hphysical hyes
      · rename_i hno
        cases h
        exact .rejected _ _ _ _ hphysical (by simpa using hno)
    · rename_i hnone
      cases h
      refine .timedOut _ _ _ _ fun hc => ?_
      cases hp : (g.pending.get request.commandId).bind PendingResult.value with
      | none => rfl
      | some physical => exact absurd hp (hnone physical hc)
  | confirming request physical =>
    simp only [proceed, PayloadGateway.record] at h
    cases hget : g.payloads.get request.arucoId with
    | none =>
      rw [hget] at h
      cases h
      exact .keyError _ _ hget
    | some fact =>
      rw [hget] at h
      cases h
      exact .recorded _ _ _ hget
  | recorded request event state =>
    cases h
    exact .accepted _ _ _ _ rfl
  | announcing request event response =>
    cases h
    exact .announced _ _ _

/-- **A step goes one of the ways.** -/
theorem step_went {a : PayloadAuthority} {s t : GatewaySystem} {m : Move} {effects : List GatewayEffect}
    (h : step a s m = .ok (t, effects)) :
    Went a s.gateway s.executing m t.gateway t.executing effects := by
  obtain ⟨g, e⟩ := s
  cases m with
  | vehicle runId timestampNs xy grounded =>
    rcases PayloadGateway.acceptVehicle_cases a g runId timestampNs xy grounded with
      heq | ⟨hnew, heq⟩
    · simp only [step, heq] at h
      cases h
      exact .vehicleIgnored _ _ _ _
    · simp only [step, heq] at h
      cases h
      exact .vehicle _ ⟨timestampNs, xy, grounded⟩ hnew
  | payload runId timestampNs marker xy grounded attached =>
    rcases PayloadGateway.acceptPayload_cases a g runId timestampNs marker xy grounded attached with
      heq | ⟨hmarker, hnew, heq⟩
    · simp only [step, heq] at h
      cases h
      exact .payloadIgnored _ _ _ _ _ _
    · simp only [step, heq] at h
      cases h
      exact .payload _ _ ⟨timestampNs, xy, grounded, attached⟩ hmarker hnew
  | result marker wire =>
    rcases PayloadGateway.acceptResult_cases g marker wire with
      heq | ⟨result, hparse, hopen, heq⟩
    · simp only [step, heq] at h
      cases h
      exact .resultIgnored _ _
    · simp only [step, heq] at h
      cases h
      exact .result _ _ result hparse hopen
  | execute request =>
    cases e with
    | none =>
      cases h
      exact .execute _
    | some e => cases h
  | proceed =>
    cases e with
    | none => cases h
    | some e => exact proceed_went h
  | publish raised =>
    simp only [step] at h
    split at h
    · cases h
      cases raised with
      | false => exact .published _ _
      | true => exact .publishRaised _ _
    · cases h
  | wake signaled =>
    simp only [step] at h
    split at h
    · rename_i request
      split at h
      · cases h
      · rename_i hset
        cases h
        refine .woken _ _ fun hs => ?_
        rw [hs, Bool.true_and, Bool.not_eq_true', Bool.not_eq_false] at hset
        exact hset
    · cases h

end GatewaySystem

end DroneSim
