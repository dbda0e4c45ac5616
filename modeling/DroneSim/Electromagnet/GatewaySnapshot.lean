/-
  File:      DroneSim/Electromagnet/GatewaySnapshot.lean
  Subject:   What a snapshot of the payload gateway says.

  `Snapshot g request world t vehicle facts`: the histories have at `t` the vehicle's fact and one
  fact of each marker, the newest facts have the same flags, and `world` is read off these facts
  alone. `snapshot_ok` finds them for every world that `snapshot` answers with.

  A command that is decided on such a world then says something about the facts:
  `AttachFacts` for an attach command, `ReleaseFacts` for a detach command (`commanded_facts`).
-/
import DroneSim.Electromagnet.Gateway

namespace DroneSim

open Library

namespace PayloadGateway

/-! ## 1. Facts at one timestamp -/

/-- **A world and the facts it is made of.** -/
structure Snapshot (g : PayloadGateway) (request : PayloadRequest) (world : PayloadWorld) (t : ℕ)
    (vehicle : VehicleFact) (facts : ℕ → PayloadFact) : Prop where
  vehicleFact : g.vehicleHistory.get t = some vehicle
  payloadFact : ∀ m ∈ markers, (g.payloadHistories m).get t = some (facts m)
  vehicleFlag : ∃ newest, g.vehicle = some newest ∧ newest.grounded = vehicle.grounded
  payloadFlags : ∀ m ∈ markers, ∃ newest, g.payloads.get m = some newest ∧
    newest.grounded = (facts m).grounded ∧ newest.attached = (facts m).attached
  vehicleXy : world.vehicleXy = vehicle.xy
  vehicleGrounded : world.vehicleGrounded = vehicle.grounded
  payload : request.arucoId ∈ markers → world.payloadXy = (facts request.arucoId).xy ∧
    world.payloadGrounded = (facts request.arucoId).grounded
  stranger : request.arucoId ∉ markers → world.payloadGrounded = false
  attached : ∀ m, world.attachedId = some m →
    m ∈ markers ∧ ∀ m' ∈ markers, (facts m').attached = true ↔ m' = m
  free : world.attachedId = none → ∀ m ∈ markers, (facts m).attached = false

variable {g : PayloadGateway} {facts : ℕ → PayloadFact}

theorem complete_isSome (h : g.complete = true) :
    ∀ m ∈ markers, ∃ fact, g.payloads.get m = some fact := by
  intro m hm
  rw [complete, Bool.and_eq_true] at h
  have hkey := List.all_eq_true.mp h.2 m hm
  rw [List.contains_iff_mem] at hkey
  exact Option.isSome_iff_exists.mp (Dict.mem_keys.mp hkey)

theorem mem_commonTimestamps {t : ℕ} (h : t ∈ g.commonTimestamps) :
    ∀ m ∈ markers, ∃ fact, (g.payloadHistories m).get t = some fact := by
  intro m hm
  rw [commonTimestamps, List.mem_filter, List.all_eq_true] at h
  exact Option.isSome_iff_exists.mp (h.2 m hm)

/-- The facts of a common timestamp, as `payloads` lists them. -/
theorem payloadsAt_eq {t : ℕ} {ms : List ℕ}
    (h : ∀ m ∈ ms, (g.payloadHistories m).get t = some (facts m)) :
    (ms.filterMap fun m => ((g.payloadHistories m).get t).map fun fact => (m, fact)) =
      ms.map fun m => (m, facts m) := by
  induction ms with
  | nil => rfl
  | cons m ms ih =>
    rw [List.filterMap_cons, h m (by simp), List.map_cons]
    simp only [Option.map_some]
    rw [ih fun m' hm' => h m' (by simp [hm'])]

theorem attachedIds_eq (facts : ℕ → PayloadFact) (ms : List ℕ) :
    attachedIds (ms.map fun m => (m, facts m)) = ms.filter fun m => (facts m).attached := by
  rw [attachedIds, List.filter_map, List.map_map]
  exact List.map_id _

theorem soleId_eq_some {l : List ℕ} {m : ℕ} (h : soleId l = some m) : l = [m] := by
  unfold soleId at h
  split at h
  · rename_i m'
    rw [Option.some.inj h]
  · cases h

theorem soleId_eq_none {l : List ℕ} (hle : ¬ 1 < l.length) (h : soleId l = none) : l = [] := by
  match l, hle, h with
  | [], _, _ => rfl
  | [_], _, h => cases h
  | _ :: _ :: _, hle, _ => simp at hle

theorem find_fact {ms : List ℕ} {m : ℕ} :
    (((ms.map fun m => (m, facts m)).find? fun p => p.1 = m).map Prod.snd) =
      if m ∈ ms then some (facts m) else none := by
  induction ms with
  | nil => rfl
  | cons m' ms ih =>
    rw [List.map_cons, List.find?_cons]
    by_cases hm : m' = m
    · simp [hm]
    · rw [decide_eq_false hm]
      simp only [List.mem_cons, Ne.symm hm, false_or]
      exact ih

/-! ## 2. What `snapshot` answers with -/

theorem snapshotAt_ok {newest vehicle : VehicleFact} {t : ℕ} {request : PayloadRequest}
    {world : PayloadWorld} (h : g.snapshotAt newest t vehicle request.arucoId = .ok world)
    (hnewest : g.vehicle = some newest) (hcomplete : g.complete = true)
    (hvehicle : g.vehicleHistory.get t = some vehicle)
    (hfacts : ∀ m ∈ markers, (g.payloadHistories m).get t = some (facts m)) :
    g.Snapshot request world t vehicle facts := by
  have hpayloads : g.payloadsAt t = markers.map fun m => (m, facts m) := payloadsAt_eq hfacts
  simp only [snapshotAt, hpayloads, attachedIds_eq, find_fact] at h
  split at h
  · cases h
  · rename_i hlength
    split at h
    · cases h
    · split at h
      · cases h
      · rename_i hflags
        obtain rfl := Except.ok.inj h
        simp only [Bool.or_eq_true, not_or, bne_iff_ne, ne_eq, not_not, List.any_eq_true,
          List.mem_map, not_exists, not_and, forall_exists_index, and_imp,
          Bool.not_eq_true] at hflags
        obtain ⟨⟨-, hgrounded⟩, hsame⟩ := hflags
        refine ⟨hvehicle, hfacts, ⟨newest, hnewest, hgrounded⟩, fun m hm => ?_, rfl, rfl, ?_, ?_,
          fun m hsole => ?_, fun hsole m hm => ?_⟩
        · obtain ⟨now, hnow⟩ := complete_isSome hcomplete m hm
          have hno := hsame _ m hm rfl
          rw [flagsDiffer, hnow, Option.any_some, Bool.or_eq_false_iff, bne_eq_false_iff_eq,
            bne_eq_false_iff_eq] at hno
          exact ⟨now, hnow, hno⟩
        · intro hm
          simp only [if_pos hm, Option.getD_some, and_self]
        · intro hm
          simp only [if_neg hm, Option.getD_none]
        · have hids := soleId_eq_some hsole
          have hiff : ∀ m', m' ∈ markers.filter (fun m => (facts m).attached) ↔ m' = m := by
            intro m'
            rw [hids, List.mem_singleton]
          refine ⟨(List.mem_filter.mp ((hiff m).mpr rfl)).1, fun m' hm' => ?_⟩
          rw [← hiff m', List.mem_filter, and_iff_right hm']
        · have hids := soleId_eq_none hlength hsole
          by_contra hattached
          have hmem : m ∈ markers.filter fun m => (facts m).attached :=
            List.mem_filter.mpr ⟨hm, by simpa using hattached⟩
          rw [hids] at hmem
          cases hmem

/-- **A world is made of the facts at one common timestamp.** -/
theorem snapshot_ok {request : PayloadRequest} {world : PayloadWorld}
    (h : g.snapshot request = .ok world) :
    ∃ t vehicle facts, g.Snapshot request world t vehicle facts := by
  unfold snapshot at h
  split at h
  · cases h
  · rename_i newest hnewest
    split at h
    · cases h
    · rename_i hcomplete
      rw [Bool.not_eq_true', Bool.not_eq_false] at hcomplete
      split at h
      · cases h
      · rename_i t hmax
        have hcommon := mem_commonTimestamps (List.max?_mem hmax)
        split at h
        · cases h
        · rename_i vehicle hvehicle
          refine ⟨t, vehicle, fun m => ((g.payloadHistories m).get t).getD
            ⟨0, (0, 0), false, false⟩, snapshotAt_ok h hnewest hcomplete hvehicle fun m hm => ?_⟩
          obtain ⟨fact, hfact⟩ := hcommon m hm
          rw [hfact, Option.getD_some]

/-! ## 3. What a command says about the facts -/

/-- The world of a vehicle and a payload where nothing is attached. -/
def freeWorld (vehicle : VehicleFact) (payload : PayloadFact) : PayloadWorld :=
  ⟨vehicle.xy, vehicle.grounded, payload.xy, payload.grounded, none⟩

/-- **The facts an attach command needs**: no payload is attached, and vehicle and payload meet the
    conditions of `decide`. -/
structure AttachFacts (a : PayloadAuthority) (marker : ℕ) (vehicle : VehicleFact)
    (facts : ℕ → PayloadFact) : Prop where
  may : a.MayAttach (freeWorld vehicle (facts marker)) marker
  capacity : ∀ m ∈ markers, (facts m).attached = false

/-- **The facts a detach command needs**: the named payload is attached and no other one. -/
def ReleaseFacts (marker : ℕ) (facts : ℕ → PayloadFact) : Prop :=
  ∀ m ∈ markers, (facts m).attached = true ↔ m = marker

/-- The command is for a marker with facts, and its facts are there. -/
inductive Warranted (a : PayloadAuthority) (request : PayloadRequest) (vehicle : VehicleFact)
    (facts : ℕ → PayloadFact) : String → Prop where
  | attach (haction : request.action = "attach")
      (h : AttachFacts a request.arucoId vehicle facts) :
      Warranted a request vehicle facts (PayloadAuthority.wire request.commandId "attach")
  | release (haction : request.action = "release") (h : ReleaseFacts request.arucoId facts) :
      Warranted a request vehicle facts (PayloadAuthority.wire request.commandId "detach")

/-- **A command on a snapshot is warranted by its facts.** -/
theorem commanded_facts {a : PayloadAuthority} {request : PayloadRequest} {world : PayloadWorld}
    {t : ℕ} {vehicle : VehicleFact} {text : String} (hs : g.Snapshot request world t vehicle facts)
    (h : (a.decide world request).wireCommand = some text) :
    request.arucoId ∈ markers ∧ Warranted a request vehicle facts text := by
  have hcommand := PayloadAuthority.decide_command h
  generalize hd : a.decide world request = decision at hcommand h
  cases hcommand with
  | attach haddressed haction hmay =>
    obtain rfl := Option.some.inj h
    have hmarker : request.arucoId ∈ markers := by
      by_contra hno
      exact absurd hmay.payload (by simp [hs.stranger hno])
    obtain ⟨hxy, hgrounded⟩ := hs.payload hmarker
    have hworld : world = freeWorld vehicle (facts request.arucoId) := by
      rw [freeWorld, ← hs.vehicleXy, ← hs.vehicleGrounded, ← hxy, ← hgrounded, ← hmay.capacity]
    exact ⟨hmarker, .attach haction ⟨hworld ▸ hmay, hs.free hmay.capacity⟩⟩
  | release haddressed haction hattached =>
    obtain rfl := Option.some.inj h
    obtain ⟨hmarker, hsole⟩ := hs.attached _ hattached
    exact ⟨hmarker, .release haction hsole⟩

end PayloadGateway

end DroneSim
