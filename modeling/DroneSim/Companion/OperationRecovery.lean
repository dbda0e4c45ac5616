/-
  File:      DroneSim/Companion/OperationRecovery.lean
  Subject:   The recovery's number names the operation that is active after the stop.

  Every stop of the operations (an operation that fails, an abort, a request for the recovery) is
  noted. `Named` is the invariant; it is lawful for every kind of call but `recover_land` on an
  expired attempt, whose failed landing is recorded in place of the recovery at home that its failure
  began.
-/
import DroneSim.Companion.OperationLives

namespace DroneSim

open Library Library.Attempt Library.Acting MachineFloat

namespace DroneOperations

section

variable {R : Type} [MachineFloat R] {e : Equipment R}

/-! ## 1. The invariant -/

omit [MachineFloat R] in
/-- After the stop an active operation is the recovery. -/
def Named (recovery : Option ℕ) (s : DroneOperations R) (os : List (OperationNote R)) : Prop :=
  .stopped ∈ os → ∀ a, s.active = some a → recovery = some a.status.operationId

omit [MachineFloat R] in
/-- A move keeps the active operation's entry, or ends it. -/
theorem work_active {s t : DroneOperations R} {o : List (OperationNote R)} (h : Work s o t)
    {a' : ActiveOperation R} (hactive' : t.active = some a') :
    .stopped ∉ o ∧ ∃ a, s.active = some a ∧ a.status = a'.status := by
  have hown : ∀ {a b : ActiveOperation R}, s.active = some a → t.active = some b →
      b.status = a.status → ∃ a, s.active = some a ∧ a.status = a'.status := by
    intro a b hactive hafter hstatus
    cases hafter.symm.trans hactive'
    exact ⟨a, hactive, hstatus.symm⟩
  cases h with
  | quiet h => exact ⟨List.not_mem_nil, a', h.active.symm.trans hactive', rfl⟩
  | noted hnote =>
    refine ⟨fun hmem => ?_, a', hactive', rfl⟩
    rw [← List.mem_singleton.mp hmem] at hnote
    cases hnote
  | sent _ _ => exact ⟨by simp, a', hactive', rfl⟩
  | worked h hstatus _ _ _ _ => exact ⟨by simp, hown h rfl hstatus⟩
  | looked h _ _ => exact ⟨by simp, hown h rfl rfl⟩
  | begun h _ _ _ _ _ => exact ⟨by simp, hown h rfl rfl⟩
  | steered h _ _ _ => exact ⟨by simp, hown h rfl rfl⟩
  | retried h _ _ _ _ => exact ⟨by simp, hown h rfl rfl⟩
  | targeted h _ _ _ =>
    obtain ⟨hactive, -, -, -, -, -, -, rfl⟩ := h
    exact ⟨by simp, hown hactive rfl rfl⟩
  | finished e state error _ _ => cases hactive'
  | haltedIdle reason h => cases h.symm.trans hactive'
  | halted e state reason _ _ _ => cases hactive'

omit [MachineFloat R] in
theorem named_of_work {recovery : Option ℕ} {s t : DroneOperations R}
    {o os : List (OperationNote R)} (h : Named recovery s os) (hwork : Work s o t) :
    Named recovery t (os ++ o) := by
  intro hmem a' hactive'
  obtain ⟨hnot, a, hactive, hstatus⟩ := work_active hwork hactive'
  have hbefore := (List.mem_append.mp hmem).resolve_right hnot
  rw [← hstatus]
  exact h hbefore a hactive

/-- **The law of every call but one.** -/
theorem lawful_named : Lawful (R := R) Named True True False where
  work h hwork := named_of_work h hwork
  frame h _ hactive _ hmem a ha := h hmem a (hactive.symm.trans ha)
  again hmem h _ := h hmem
  started tool timeoutNs timeoutSimS _ hnever _ _ hmem := by
    rcases List.mem_append.mp hmem with hmem | hmem
    · exact absurd hmem hnever
    · simp [startNotes] at hmem
  recovered tool timeoutNs timeoutSimS _ _ _ _ a hactive := by
    cases hactive
    rfl
  home course _ _ _ _ a hactive := by
    cases hactive
    rfl
  lost _ hactive _ _ _ a ha := by
    unfold loseHome at ha
    rw [hactive] at ha
    cases ha
  orphan tool _ hidle _ _ a hactive := by cases hidle.symm.trans hactive
  reenter h := h.elim

omit [MachineFloat R] in
/-- What holds of no note and no operation. -/
theorem good_created {K : Option ℕ → DroneOperations R → List (OperationNote R) → Prop}
    (h : K none created []) : Good K (created : DroneOperations R) [] :=
  ⟨h, by simp [created], fun hsome => by cases hsome⟩

/-! ## 2. Runs -/

/-- **`recovery_id` names the active operation after the stop**, in every run in which no
    `recover_land` begins on an expired attempt with the way home open. -/
theorem recovery_id_names_active {is : List (Call R)} {os : List (OperationNote R)}
    {t : DroneOperations R}
    (hrun : Run (Meeting (Calling (answer e)) fun s i => ¬ Reenters e s i) created is os t)
    (hstopped : OperationNote.stopped ∈ os) {a : ActiveOperation R} (hactive : t.active = some a) :
    t.recoveryId = some a.status.operationId := by
  have hgood := good_run lawful_named
    (fun _ _ hmeets => ⟨Or.inl trivial, Or.inl trivial, Or.inr hmeets⟩) hrun
    (good_created (fun hmem => absurd hmem List.not_mem_nil))
  exact hgood.kept hstopped a hactive

end

/-! ## 3. A recovery, and one on an expired attempt -/

/-- A note of the stop. -/
def isStop {R : Type} : OperationNote R → Bool
  | .stopped => true
  | _ => false

theorem stopped_mem {R : Type} {os : List (OperationNote R)} (h : os.any isStop = true) :
    .stopped ∈ os := by
  obtain ⟨note, hmem, hnote⟩ := List.any_eq_true.mp h
  cases note with
  | stopped => exact hmem
  | _ => cases hnote

/-- Armed flight in GUIDED at home. -/
def guidedTelemetry : Telemetry ExactNumber where
  timestampNs := 1000000000
  heartbeat := true
  mode := some "GUIDED"
  armed := some true
  landed := some false
  relativeAltitudeM := some (ofRat 5)
  homeLatitudeDeg := some (ofRat 0)
  homeLongitudeDeg := some (ofRat 0)

/-- A course with its home at the origin. -/
def homeCourse : OperationCourse ExactNumber where
  waypoints name := if name = "H" then some (ofRat 0, ofRat 0) else none
  durationNs := 600000000000
  approvalTimeoutNs := 60000000000
  recoveryTimeoutNs := 60000000000
  acquisitionAglM := ofRat 5
  minimumAglM := ofRat 2
  transitAglM := ofRat 10

/-- What the operations are built with for an attempt. -/
def attemptEquipment : Equipment ExactNumber where
  course := some homeCourse
  scenario := none
  vision := true
  rangefinder := true
  payloads := true
  phases := true
  attempt := true

/-- A call within the attempt. -/
def inTime (input : Input ExactNumber) : Call ExactNumber := ⟨input, {}⟩

/-- A call on the expired attempt. -/
def expired (input : Input ExactNumber) : Call ExactNumber :=
  ⟨input, { activeElapsedNs := 600000000000 }⟩

/-- A hold, an abort and the recovery. -/
def abortedHold : List (Call ExactNumber) :=
  [inTime (.observe guidedTelemetry), inTime (.start (.hold (ofRat 5)) (ofRat 60)),
    inTime (.abort "operator abort"), inTime (.recoverLand (ofRat 60))]

/-- An abort, and the recovery once the attempt has expired. -/
def lateRecovery : List (Call ExactNumber) :=
  [inTime (.observe guidedTelemetry), inTime (.abort "operator abort"),
    expired (.recoverLand (ofRat 60))]

/-- **The recovery of an aborted hold** is the landing that is active. -/
theorem recovery_id_names_active_abortedHold :
    ∃ os t a, Run (Meeting (Calling (answer attemptEquipment)) fun s i =>
        ¬ Reenters attemptEquipment s i) created abortedHold os t ∧ OperationNote.stopped ∈ os ∧
      t.active = some a ∧ t.recoveryId = some a.status.operationId := by
  have hrun : Run (Meeting (Calling (answer attemptEquipment)) fun s i =>
      ¬ Reenters attemptEquipment s i) created abortedHold _ _ := calls_meeting (by decide +kernel)
  have hstopped : OperationNote.stopped ∈ (calls (answer attemptEquipment) created abortedHold).2 :=
    stopped_mem (by decide +kernel)
  have hbusy : (calls (answer attemptEquipment) created abortedHold).1.active.isSome = true := by
    decide +kernel
  obtain ⟨a, hactive⟩ := Option.isSome_iff_exists.mp hbusy
  exact ⟨_, _, a, hrun, hstopped, hactive, recovery_id_names_active hrun hstopped hactive⟩

/-- **After `recover_land` on the expired attempt** the failed landing is recorded, and the recovery at
    home is active. -/
theorem expired_recovery_misnamed :
    ∃ os t a, Run (Calling (answer attemptEquipment)) created lateRecovery os t ∧ OperationNote.stopped ∈ os ∧
      t.active = some a ∧ t.recoveryId = some 0 ∧ a.status.operationId = 1 := by
  have hrun := calls_run (answer attemptEquipment) lateRecovery created
  have hstopped : OperationNote.stopped ∈ (calls (answer attemptEquipment) created lateRecovery).2 :=
    stopped_mem (by decide +kernel)
  have hid : (calls (answer attemptEquipment) created lateRecovery).1.active.map
      (fun a => a.status.operationId) = some 1 := by
    decide +kernel
  obtain ⟨a, hactive, hone⟩ := Option.map_eq_some_iff.mp hid
  exact ⟨_, _, a, hrun, hstopped, hactive, by decide +kernel, hone⟩

end DroneOperations

end DroneSim
