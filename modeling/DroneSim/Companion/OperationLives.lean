/-
  File:      DroneSim/Companion/OperationLives.lean
  Subject:   What holds of the drone operations after every call.

  A property `K recovery s log` of the state and of all that was done, in which `recovery` is the
  number of the recovery, is `Lawful` when the moves of the active operation keep it and an operation
  may begin in it. `good_answer` brings a lawful property over one call, whatever the call raises, and
  `good_run` over every run. Three kinds of call need a law of their own (`Overflows`, `LosesHome`,
  `Reenters`) and are left out for a property without it.
-/
import DroneSim.Companion.OperationTools

namespace DroneSim

open Library Library.Attempt Library.Acting MachineFloat

namespace DroneOperations

variable {R : Type} [MachineFloat R] {tool : ToolCall R}
variable (e : Equipment R) (s : DroneOperations R)

/-! ## 1. Calls with a law of their own -/

/-- The recovery at home would begin and finds no home position. -/
def HomeLost : Prop :=
  s.recoveryId = none ∧ s.homeAdmissible = true ∧ s.modeIs "LAND" = false ∧
    ∃ error, resolveCourseTarget e (.waypoint "H") s = .error error

/-- The evaluation ends the active operation on an expired attempt and loses home. -/
def ExpiresLost (w : Surroundings R) (s : DroneOperations R) : Prop :=
  ∃ a, s.active = some a ∧ a.tool.isRecovery = false ∧
    (expiryReason e w s.clockNs).isSome = true ∧ HomeLost e s

/-- The state at a clock reading. -/
def at' (clockNs : ℤ) (s : DroneOperations R) : DroneOperations R := { s with clockNs := clockNs }

/-- The telemetry ends the active operation before its evaluation. -/
def endedBy (telemetry : Telemetry R) (s : DroneOperations R) : Bool :=
  telemetry.invalid.isSome ||
    s.active.any fun a => telemetry.ack.any fun ack =>
      a.expectedAck == some ack.command && !ack.accepted

/-- **The timeout overflows**: the entry of the operation is made, and no operation is active. -/
def Overflows (i : Call R) : Prop :=
  match i.input with
  | .start tool timeoutSimS =>
    startRefusal tool timeoutSimS s = none ∧ nanoseconds timeoutSimS = none
  | .recoverLand timeoutSimS =>
    s.admitsRecovery = true ∧ validTimeout timeoutSimS = true ∧ nanoseconds timeoutSimS = none
  | _ => False

/-- **The recovery at home begins and finds no home position.** -/
def LosesHome (i : Call R) : Prop :=
  match i.input with
  | .start tool timeoutSimS =>
    startRefusal tool timeoutSimS s = none ∧ (nanoseconds timeoutSimS).isSome = true ∧
      (expiryReason e i.around s.clockNs).isSome = true ∧ HomeLost e s
  | .tick (some timestamp) => s.clockNs ≤ timestamp ∧ ExpiresLost e i.around (s.at' timestamp)
  | .observe telemetry =>
    s.clockNs ≤ telemetry.timestampNs ∧ s.endedBy telemetry = false ∧
      ExpiresLost e i.around (sense telemetry (s.at' telemetry.timestampNs))
  | .recoverLand timeoutSimS =>
    s.admitsRecovery = true ∧ validTimeout timeoutSimS = true ∧
      (nanoseconds timeoutSimS).isSome = true ∧
      (expiryReason e i.around s.clockNs).isSome = true ∧ HomeLost e s
  | _ => False

/-- **`recover_land` begins on an expired attempt**: its landing fails at once, and the failure begins
    the recovery at home. -/
def Reenters (i : Call R) : Prop :=
  match i.input with
  | .recoverLand timeoutSimS =>
    s.admitsRecovery = true ∧ validTimeout timeoutSimS = true ∧
      (nanoseconds timeoutSimS).isSome = true ∧
      (expiryReason e i.around s.clockNs).isSome = true ∧ s.homeAdmissible = true
  | _ => False

theorem isError_iff {α : Type} {x : Except String α} : x.toBool = false ↔ ∃ e, x = .error e := by
  cases x with
  | error e => exact ⟨fun _ => ⟨e, rfl⟩, fun _ => rfl⟩
  | ok a =>
    constructor
    · intro h
      cases h
    · rintro ⟨_, h⟩
      cases h

instance (e : Equipment R) (s : DroneOperations R) : Decidable (HomeLost e s) :=
  haveI := decidable_of_iff _ (isError_iff (x := resolveCourseTarget e (.waypoint "H") s))
  inferInstanceAs (Decidable (_ ∧ _ ∧ _ ∧ _))

instance (e : Equipment R) (w : Surroundings R) (s : DroneOperations R) :
    Decidable (ExpiresLost e w s) :=
  match hactive : s.active with
  | none => isFalse fun ⟨_, h, _⟩ => by cases hactive.symm.trans h
  | some a =>
    decidable_of_iff (a.tool.isRecovery = false ∧ (expiryReason e w s.clockNs).isSome = true ∧
      HomeLost e s)
      ⟨fun h => ⟨a, hactive, h⟩, fun ⟨_, h, h'⟩ => by
        cases hactive.symm.trans h
        exact h'⟩

instance (s : DroneOperations R) : (i : Call R) → Decidable (Overflows s i)
  | ⟨.start .., _⟩ => inferInstanceAs (Decidable (_ ∧ _))
  | ⟨.recoverLand _, _⟩ => inferInstanceAs (Decidable (_ ∧ _ ∧ _))
  | ⟨.observe _, _⟩ | ⟨.tick _, _⟩ | ⟨.abort _, _⟩ => isFalse id

instance (e : Equipment R) (s : DroneOperations R) : (i : Call R) → Decidable (LosesHome e s i)
  | ⟨.start .., _⟩ => inferInstanceAs (Decidable (_ ∧ _ ∧ _ ∧ _))
  | ⟨.recoverLand _, _⟩ => inferInstanceAs (Decidable (_ ∧ _ ∧ _ ∧ _ ∧ _))
  | ⟨.observe _, _⟩ => inferInstanceAs (Decidable (_ ∧ _ ∧ _))
  | ⟨.tick (some _), _⟩ => inferInstanceAs (Decidable (_ ∧ _))
  | ⟨.tick none, _⟩ | ⟨.abort _, _⟩ => isFalse id

instance (e : Equipment R) (s : DroneOperations R) : (i : Call R) → Decidable (Reenters e s i)
  | ⟨.recoverLand _, _⟩ => inferInstanceAs (Decidable (_ ∧ _ ∧ _ ∧ _ ∧ _))
  | ⟨.start .., _⟩ | ⟨.observe _, _⟩ | ⟨.tick _, _⟩ | ⟨.abort _, _⟩ => isFalse id

/-! ## 2. Lawful properties -/

/-- The state once a tool has been started. -/
def startedWith (tool : ToolCall R) (timeoutNs : ℤ) (s : DroneOperations R) : DroneOperations R :=
  activate s.operations.length tool timeoutNs (openStart tool s)

/-- What the start of a tool notes. -/
def startNotes (tool : ToolCall R) (timeoutSimS : R) (s : DroneOperations R) :
    List (OperationNote R) :=
  [OperationNote.opened s.operations.length,
    .emitted s.clockNs (.operationStarted s.operations.length tool timeoutSimS)]

/-- **The laws of a property.** -/
structure Lawful (K : Option ℕ → DroneOperations R → List (OperationNote R) → Prop)
    (lost orphan reenter : Prop) : Prop where
  work {rec s os o t} : K rec s os → Work s o t → K rec t (os ++ o)
  frame {rec s t os} : K rec s os → t.operations = s.operations → t.active = s.active →
    t.lastMarkerSequence = s.lastMarkerSequence → K rec t os
  again {rec s os} : OperationNote.stopped ∈ os → K rec s os → K rec s (os ++ [OperationNote.stopped])
  started {rec s os} (tool : ToolCall R) (timeoutNs : ℤ) (timeoutSimS : R) : s.active = none →
    .stopped ∉ os → nanoseconds timeoutSimS = some timeoutNs → K rec s os →
      K rec (s.startedWith tool timeoutNs) (os ++ s.startNotes tool timeoutSimS)
  recovered {s os} (tool : ToolCall R) (timeoutNs : ℤ) (timeoutSimS : R) : s.active = none →
    nanoseconds timeoutSimS = some timeoutNs → K none s os →
      K (some s.operations.length) (s.startedWith tool timeoutNs)
        (os ++ s.startNotes tool timeoutSimS)
  home {s os} (course : OperationCourse R) : s.active = none → OperationNote.stopped ∈ os → K none s os →
    K (some s.operations.length) (openHome course s)
      (os ++ [OperationNote.opened s.operations.length, .stopped])
  lost {rec s os a} : lost → s.active = some a → a.tool.isRecovery = true → K rec s os →
    K rec s.loseHome os
  orphan {rec s os} (tool : ToolCall R) : orphan → s.active = none → K rec s os →
    K rec (openStart tool s) (os ++ [OperationNote.opened s.operations.length])
  reenter {rec rec' s os} : reenter → K rec s os → K rec' s os

/-- A lawful property with the recovery's number, and the stop. -/
structure Good (K : Option ℕ → DroneOperations R → List (OperationNote R) → Prop)
    (s : DroneOperations R) (os : List (OperationNote R)) : Prop where
  kept : K s.recoveryId s os
  stopped : OperationNote.stopped ∈ os ↔ s.stoppedReason.isSome = true
  named : s.recoveryId.isSome = true → s.stoppedReason.isSome = true

/-! ## 3. What the active operation leaves alone -/

section Work

variable {s t : DroneOperations R} {o os : List (OperationNote R)}

omit [MachineFloat R] in
theorem work_clockNs (h : Work s o t) : t.clockNs = s.clockNs := by
  cases h with
  | quiet h => exact h.clockNs
  | targeted h _ _ _ =>
    rw [h.state]
    rfl
  | _ => rfl

omit [MachineFloat R] in
theorem work_recoveryId (h : Work s o t) : t.recoveryId = s.recoveryId := by
  cases h with
  | quiet h => exact h.recoveryId
  | targeted h _ _ _ =>
    rw [h.state]
    rfl
  | _ => rfl

omit [MachineFloat R] in
theorem mem_cancelNotes {e : Equipment R} {state : OperationState} {note : OperationNote R}
    (h : note ∈ cancelNotes e state tool) :
    note = .markersCancelled ∨ note = .payloadsCancelled := by
  have hif : ∀ {c : Bool} {n : OperationNote R}, note ∈ (if c then [n] else []) → note = n := by
    intro c n hmem
    cases c with
    | false => exact absurd hmem List.not_mem_nil
    | true => exact List.mem_singleton.mp hmem
  unfold cancelNotes at h
  cases tool with
  | findMarker _ => exact Or.inl (hif h)
  | precisionLand _ => exact Or.inl (hif h)
  | attachPayload _ => exact Or.inr (hif h)
  | releasePayload _ _ => exact Or.inr (hif h)
  | _ => exact absurd h List.not_mem_nil

omit [MachineFloat R] in
theorem mem_finishNotes {e : Equipment R} {a : ActiveOperation R} {state : OperationState}
    {clockNs : ℤ} {error : String} {note : OperationNote R} :
    note ∈ finishNotes e a state clockNs error ↔ note ∈ cancelNotes e state a.tool ∨
      (state ≠ .succeeded ∧ note = .stopped) ∨ note = .emitted clockNs
        (.operationFinished a.status.operationId a.status.tool state error) := by
  unfold finishNotes
  by_cases hstate : state = .succeeded
  · simp [hstate]
  · simp [hstate]

omit [MachineFloat R] in
theorem stopped_mem_finishNotes (a : ActiveOperation R) (state : OperationState) (clockNs : ℤ)
    (error : String) : .stopped ∈ finishNotes e a state clockNs error ↔ state ≠ .succeeded := by
  rw [mem_finishNotes]
  refine ⟨fun h => ?_, fun h => Or.inr (Or.inl ⟨h, rfl⟩)⟩
  rcases h with h | ⟨h, -⟩ | h
  · rcases mem_cancelNotes h with h | h
    · cases h
    · cases h
  · exact h
  · cases h

omit [MachineFloat R] in
/-- **The stop is noted** when it is made, and never taken back. -/
theorem work_stopped (h : Work s o t) (hs : OperationNote.stopped ∈ os ↔ s.stoppedReason.isSome = true) :
    .stopped ∈ os ++ o ↔ t.stoppedReason.isSome = true := by
  rw [List.mem_append]
  have hquiet : OperationNote.stopped ∉ o → t.stoppedReason = s.stoppedReason →
      (OperationNote.stopped ∈ os ∨ OperationNote.stopped ∈ o ↔ t.stoppedReason.isSome = true) := by
    intro hnot hsame
    rw [hsame, ← hs]
    exact or_iff_left hnot
  have hstop : OperationNote.stopped ∈ o → t.stoppedReason.isSome = true →
      (OperationNote.stopped ∈ os ∨ OperationNote.stopped ∈ o ↔ t.stoppedReason.isSome = true) :=
    fun hmem hsome => ⟨fun _ => hsome, fun _ => Or.inr hmem⟩
  cases h with
  | quiet h => exact hquiet List.not_mem_nil h.stoppedReason
  | noted hnote =>
    refine hquiet (fun hmem => ?_) rfl
    rw [← List.mem_singleton.mp hmem] at hnote
    cases hnote
  | sent _ _ => exact hquiet (by simp) rfl
  | worked _ _ _ _ _ _ => exact hquiet (by simp) rfl
  | looked _ _ _ => exact hquiet (by simp) rfl
  | begun _ _ _ _ _ _ => exact hquiet (by simp) rfl
  | steered _ _ _ _ => exact hquiet (by simp) rfl
  | retried _ _ _ _ _ => exact hquiet (by simp) rfl
  | targeted h _ _ _ => exact hquiet (by simp) (by rw [h.state]; rfl)
  | finished e state error _ _ =>
    by_cases hstate : state = .succeeded
    · refine hquiet (fun hmem => (stopped_mem_finishNotes _ _ _ _ _).mp hmem hstate) ?_
      unfold finishedAs
      rw [if_pos hstate]
    · refine hstop ((stopped_mem_finishNotes _ _ _ _ _).mpr hstate) ?_
      unfold finishedAs
      rw [if_neg hstate]
      rfl
  | haltedIdle _ _ => exact hstop (by simp) rfl
  | halted e state reason _ _ hfailed =>
    refine hstop (by simp) ?_
    unfold finishedAs
    rw [if_neg hfailed]
    rfl

end Work

/-! ## 4. The recovery at home -/

section Specs

variable {K : Option ℕ → DroneOperations R → List (OperationNote R) → Prop}
  {lost orphan reenter : Prop} {e : Equipment R} {w : Surroundings R}
  {r : Acting (DroneOperations R) (OperationNote R)} {os : List (OperationNote R)} {timeoutSimS : R}
  {s : DroneOperations R}

/-- A good state, by all that was done: before the call, and in it. -/
abbrev Since (K : Option ℕ → DroneOperations R → List (OperationNote R) → Prop)
    (os : List (OperationNote R)) (r : Acting (DroneOperations R) (OperationNote R)) : Prop :=
  Good K r.state (os ++ r.log)

theorem Good.work {s t : DroneOperations R} {o : List (OperationNote R)}
    (hK : Lawful K lost orphan reenter) (h : Good K s os) (hwork : Work s o t) :
    Good K t (os ++ o) where
  kept := by
    rw [work_recoveryId hwork]
    exact hK.work h.kept hwork
  stopped := work_stopped hwork h.stopped
  named hsome := by
    rw [work_recoveryId hwork] at hsome
    have hstopped := h.stopped.mpr (h.named hsome)
    exact (work_stopped hwork h.stopped).mp (List.mem_append_left _ hstopped)

theorem stable_since (hK : Lawful K lost orphan reenter) : Stable Work (Since K os) := by
  intro r o t hr hwork
  show Good K t (os ++ (r.log ++ o))
  rw [← List.append_assoc]
  exact hr.work hK hwork

omit [MachineFloat R] in
/-- A good state without the stop's note. -/
theorem Good.unstopped (h : Good K s os) (hs : s.stoppedReason = none) : .stopped ∉ os := by
  intro hmem
  have hsome := h.stopped.mp hmem
  rw [hs] at hsome
  cases hsome

/-- **The way home** stays within the moves, where home is there. -/
theorem wp_headHome (hK : Lawful K lost orphan reenter) (course : OperationCourse R)
    (hdoing : Doing .attemptRecovery r.state)
    (hhome : lost ∨ (r.state.modeIs "LAND" = false →
      ∀ error, resolveCourseTarget e (.waypoint "H") r.state ≠ .error error))
    (hr : Since K os r) :
    wp (headHome e w course) (fun _ => Since K os) (fun _ => Since K os) r := by
  unfold headHome
  rw [wp_bind, wp_current]
  split
  · have hnone : (ToolCall.attemptRecovery (R := R)).landingMarker = none := rfl
    have hland := stable_since hK r [] _ hr (work_homeLand hnone hdoing)
    rw [List.append_nil] at hland
    exact hland
  · rename_i hmode
    split
    · rename_i error herror
      rcases hhome with hlost | hhome
      · obtain ⟨a, hactive, htool⟩ := hdoing
        rw [wp_update]
        have hloss : r.state.loseHome = r.state.settled { a.status with
            state := .failed
            finishedAtNs := some r.state.clockNs
            error := "home recovery target is unavailable" } := by
          unfold loseHome
          rw [hactive]
        have hkept := hK.lost hlost hactive (by rw [htool]; rfl) hr.kept
        rw [hloss] at hkept ⊢
        exact ⟨hkept, hr.stopped, hr.named⟩
      · exact absurd herror (hhome (by simpa using hmode) error)
    · rename_i target _
      rw [wp_bind, wp_update]
      have hway := stable_since hK r [] _ hr (work_withContext (f := fun _ =>
        .homeReturn target.1 target.2 (larger r.state.altitude course.transitAglM)) hdoing rfl
        fun _ => rfl)
      rw [List.append_nil] at hway
      obtain ⟨a, hactive, -⟩ := doing_withContext (f := fun _ =>
        .homeReturn target.1 target.2 (larger r.state.altitude course.transitAglM)) hdoing
      have hsent := stable_since hK ⟨_, r.log⟩ _ _ hway (@Work.sent _ _ _
        (.sendWaypoint target.1 target.2 (larger r.state.altitude course.transitAglM)) hactive rfl)
      exact wp_request w _ hsent fun _ => hsent

/-- **The recovery at home begins** in a stopped state without a recovery. -/
theorem wp_startHomeRecovery (hK : Lawful K lost orphan reenter) (hr : Since K os r)
    (hidle : r.state.active = none) (hstopped : r.state.stoppedReason.isSome = true)
    (hhome : lost ∨ ¬ HomeLost e r.state) :
    wp (startHomeRecovery e w) (fun _ => Since K os) (fun _ => Since K os) r := by
  unfold startHomeRecovery
  rw [wp_bind, wp_current]
  split
  · exact hr
  · rename_i hopen
    have hnone : r.state.recoveryId = none := by
      cases hid : r.state.recoveryId with
      | none => rfl
      | some id =>
        rw [hid] at hopen
        exact absurd rfl hopen
    have hadmissible : r.state.homeAdmissible = true := by
      simpa [hnone] using hopen
    split
    · exact hr
    · rename_i course _
      rw [wp_bind, wp_update, wp_bind, wp_perform, wp_bind, wp_perform]
      refine wp_headHome hK course ⟨_, rfl, rfl⟩ (hhome.imp_right fun hhome hmode error herror => ?_) ?_
      · exact hhome ⟨hnone, hadmissible, hmode, error, herror⟩
      · have hmem := hr.stopped.mpr hstopped
        have hkept := hr.kept
        rw [hnone] at hkept
        have hopened := hK.home course hidle hmem hkept
        have hlog : os ++ (r.log ++ [OperationNote.opened r.state.operations.length] ++ [OperationNote.stopped]) =
            os ++ r.log ++ [OperationNote.opened r.state.operations.length, .stopped] := by simp
        show Good K (openHome course r.state) (os ++ (r.log ++ [_] ++ [_]))
        rw [hlog]
        exact ⟨hopened, by simp [openHome], fun _ => rfl⟩

/-- **An operation ends on an expired attempt.** -/
theorem wp_expire (hK : Lawful K lost orphan reenter) (reason : String) (hr : Since K os r)
    (hbusy : Busy r.state) (hhome : lost ∨ ¬ HomeLost e r.state) :
    wp (expire e w reason) (fun _ => Since K os) (fun _ => Since K os) r := by
  obtain ⟨a, hactive⟩ := hbusy
  unfold expire
  rw [wp_bind, wp_finish]
  refine ⟨fun hnone => ?_, fun a' hactive' => ?_⟩
  · cases hactive.symm.trans hnone
  have hended := stable_since hK r _ _ hr
    (.finished e .failed reason hactive' fun h => by cases h)
  exact wp_startHomeRecovery hK hended rfl rfl hhome

/-! ## 5. Evaluation and start -/

/-- **The evaluation.** -/
theorem wp_evaluate (hK : Lawful K lost orphan reenter) (hr : Since K os r)
    (hhome : lost ∨ ¬ ExpiresLost e w r.state) :
    wp (evaluate e w) (fun _ => Since K os) (fun _ => Since K os) r := by
  unfold evaluate
  rw [wp_bind, wp_current]
  split
  · exact hr
  · rename_i a hactive
    have hstay : wp (evaluateActive e w a) (fun _ => Since K os) (fun _ => Since K os) r :=
      (within_evaluateActive e w _ (stable_since hK) r hr hactive).mono (fun _ _ ht => ht.1)
        fun _ _ ht => ht
    split
    · exact hstay
    · rename_i htool
      split
      · rename_i reason hreason
        refine wp_expire hK reason hr ⟨a, hactive⟩ (hhome.imp_right fun hhome hlost => hhome ?_)
        exact ⟨a, hactive, by simpa using htool, by rw [hreason]; rfl, hlost⟩
      · exact hstay

/-- **The evaluation where no attempt has expired** stays within the moves. -/
theorem within_evaluate (hexpiry : expiryReason e w r.state.clockNs = none)
    {P : Acting (DroneOperations R) (OperationNote R) → Prop} (hP : Stable Work P) (hr : P r) :
    wp (evaluate e w) (fun _ => P) (fun _ => P) r := by
  unfold evaluate
  rw [wp_bind, wp_current]
  split
  · exact hr
  · rename_i a hactive
    have hstay : wp (evaluateActive e w a) (fun _ => P) (fun _ => P) r :=
      (within_evaluateActive e w P hP r hr hactive).mono (fun _ _ ht => ht.1) fun _ _ ht => ht
    rw [hexpiry]
    split
    · exact hstay
    · exact hstay

/-- **A tool is launched**: it stays within the moves and raises nothing. -/
theorem wp_launch (hexpiry : expiryReason e w r.state.clockNs = none)
    (hlaunched : Launched tool r.state) {P : Acting (DroneOperations R) (OperationNote R) → Prop}
    (hP : Stable Work P) (hr : P r) : wp (launch e w tool) (fun _ => P) (fun _ _ => False) r := by
  have hclock : Stable Work (fun u => P u ∧ u.state.clockNs = r.state.clockNs) :=
    fun u o t hu hwork => ⟨hP u o t hu.1 hwork, (work_clockNs hwork).trans hu.2⟩
  have hfinish : ∀ (error : String) u, P u →
      wp (finish e .failed error) (fun _ => P) (fun _ _ => False) u := by
    intro error u hu
    rw [wp_finish]
    exact ⟨fun _ => hu, fun a hactive => hP u _ _ hu (.finished e .failed error hactive
      fun h => by cases h)⟩
  unfold launch
  rw [wp_tryCatch, wp_bind]
  refine (within_dispatch e w tool _ hclock r ⟨hr, rfl⟩ hlaunched).mono (fun _ u hu => ?_)
    fun error u hu => hfinish error u hu.1
  obtain ⟨⟨hu, hsame⟩, -⟩ := hu
  refine (within_evaluate (by rw [hsame]; exact hexpiry) hP hu).mono (fun _ _ ht => ht)
    fun error t ht => hfinish error t ht

/-- **A tool begins**: not at all where its timeout overflows, else it expires or is launched. -/
theorem wp_begin' {Q : ℕ → Acting (DroneOperations R) (OperationNote R) → Prop}
    {E : String → Acting (DroneOperations R) (OperationNote R) → Prop}
    (hnone : nanoseconds timeoutSimS = none → ∀ error, E error
      ⟨openStart tool r.state, r.log ++ [OperationNote.opened r.state.operations.length]⟩)
    (hsome : ∀ timeoutNs, nanoseconds timeoutSimS = some timeoutNs →
      (∀ reason, expiryReason e w r.state.clockNs = some reason →
        wp (expire e w reason) (fun _ => Q r.state.operations.length) E
          ⟨r.state.startedWith tool timeoutNs, r.log ++ r.state.startNotes tool timeoutSimS⟩) ∧
      (expiryReason e w r.state.clockNs = none →
        wp (launch e w tool) (fun _ => Q r.state.operations.length) E
          ⟨r.state.startedWith tool timeoutNs, r.log ++ r.state.startNotes tool timeoutSimS⟩)) :
    wp (begin' e w tool timeoutSimS) Q E r := by
  unfold begin'
  rw [wp_bind, wp_current, wp_bind, wp_update, wp_bind, wp_perform]
  split
  · rename_i hoverflow
    exact hnone hoverflow _
  · rename_i timeoutNs hns
    rw [wp_bind, wp_update, wp_bind, wp_emit]
    have hlog : r.log ++ [OperationNote.opened r.state.operations.length] ++
        [OperationNote.emitted r.state.clockNs (.operationStarted r.state.operations.length tool timeoutSimS)] =
        r.log ++ r.state.startNotes tool timeoutSimS := by
      rw [List.append_assoc]
      rfl
    split
    · rename_i reason hreason
      have hexpires := (hsome timeoutNs hns).1 reason hreason
      rw [← hlog] at hexpires
      rw [wp_bind]
      exact hexpires
    · rename_i hexpiry
      have hlaunches := (hsome timeoutNs hns).2 hexpiry
      rw [← hlog] at hlaunches
      rw [wp_bind]
      exact hlaunches

omit [MachineFloat R] in
theorem launched_startedWith (tool : ToolCall R) (timeoutNs : ℤ) (s : DroneOperations R) :
    Launched tool (s.startedWith tool timeoutNs) := ⟨_, rfl, rfl, rfl, rfl⟩

/-- What `start` lets pass. -/
theorem startRefusal_none (h : startRefusal tool timeoutSimS s = none) :
    validTimeout timeoutSimS = true ∧ s.active = none ∧ s.stoppedReason = none := by
  unfold startRefusal at h
  split at h
  · cases h
  · split at h
    · cases h
    · rename_i hvalid
      split at h
      · cases h
      · rename_i hidle
        refine ⟨by simpa using hvalid, by simpa using hidle, ?_⟩
        cases hreason : s.stoppedReason with
        | none => rfl
        | some reason =>
          rw [hreason] at h
          cases h

/-- **`start`.** -/
theorem wp_start (hK : Lawful K lost orphan reenter) (hr : Since K os r)
    (horphan : orphan ∨ ¬(startRefusal tool timeoutSimS r.state = none ∧
      nanoseconds timeoutSimS = none))
    (hhome : lost ∨ ¬(startRefusal tool timeoutSimS r.state = none ∧
      (nanoseconds timeoutSimS).isSome = true ∧
      (expiryReason e w r.state.clockNs).isSome = true ∧ HomeLost e r.state)) :
    wp (start e w tool timeoutSimS) (fun _ => Since K os) (fun _ => Since K os) r := by
  unfold start
  rw [wp_bind, wp_current]
  split
  · exact hr
  · rename_i hpass
    obtain ⟨-, hidle, hopen⟩ := startRefusal_none hpass
    have hnever := hr.unstopped hopen
    refine wp_begin' (fun hoverflow _ => ?_) fun timeoutNs hns => ?_
    · rcases horphan with horphan | horphan
      · have hkept := hK.orphan tool horphan hidle hr.kept
        refine ⟨?_, ?_, hr.named⟩
        · rw [← List.append_assoc]
          exact hkept
        · rw [← List.append_assoc]
          show _ ↔ r.state.stoppedReason.isSome = true
          simpa using hr.stopped
      · exact absurd ⟨hpass, hoverflow⟩ horphan
    · have hstarted : Since K os ⟨r.state.startedWith tool timeoutNs,
          r.log ++ r.state.startNotes tool timeoutSimS⟩ := by
        refine ⟨?_, ?_, hr.named⟩
        · rw [← List.append_assoc]
          exact hK.started tool timeoutNs timeoutSimS hidle hnever hns hr.kept
        · rw [← List.append_assoc]
          show _ ↔ r.state.stoppedReason.isSome = true
          simpa [startNotes] using hr.stopped
      refine ⟨fun reason hreason => ?_, fun hexpiry => ?_⟩
      · refine wp_expire hK reason hstarted ⟨_, rfl⟩ (hhome.imp_right fun hhome hlost => hhome ?_)
        exact ⟨hpass, by rw [hns]; rfl, by rw [hreason]; rfl, hlost⟩
      · exact (wp_launch (r := ⟨r.state.startedWith tool timeoutNs, _⟩) hexpiry
          (launched_startedWith tool timeoutNs r.state) (stable_since hK) hstarted).mono (fun _ _ ht => ht) fun _ _ ht => ht.elim

/-! ## 6. Stops, ticks and telemetry -/

/-- **A stop** ends the active operation and leaves what was observed. -/
theorem wp_haltGood (hK : Lawful K lost orphan reenter) {state : OperationState}
    (hstate : state ≠ .running) (hfailed : state ≠ .succeeded) (reason : String)
    (hr : Since K os r) :
    wp (halt e state reason) (fun _ u => Since K os u ∧ u.state.active = none ∧
      u.state.stoppedReason.isSome = true ∧ u.state.sensed = r.state.sensed ∧
      u.state.clockNs = r.state.clockNs ∧ u.state.recoveryId = r.state.recoveryId)
      (fun _ _ => False) r := by
  have hwithin := within_halt (A := fun _ => True) e hstate hfailed reason _ (stable_since hK) r hr
    trivial
  rw [wp_halt] at hwithin ⊢
  refine ⟨fun hidle => ⟨(hwithin.1 hidle).1, hidle, rfl, rfl, rfl, rfl⟩, fun a hactive => ?_⟩
  refine ⟨(hwithin.2 a hactive).1, rfl, ?_, rfl, rfl, rfl⟩
  unfold finishedAs
  rw [if_neg hfailed]
  rfl

/-- **The clock advances**, or the operations stop. -/
theorem wp_advance (hK : Lawful K lost orphan reenter) (timestampNs : Option ℤ) (hr : Since K os r) :
    wp (advance e timestampNs) (fun _ u => Since K os u ∧ ∃ timestamp, timestampNs = some timestamp ∧
      r.state.clockNs ≤ timestamp ∧ u = ⟨r.state.at' timestamp, r.log⟩)
      (fun _ => Since K os) r := by
  have hregress : wp (do
        halt e .failed "simulation timestamp regressed or invalid"
        throw "simulation timestamp regressed or invalid" : Operating R Unit)
      (fun _ u => Since K os u ∧ ∃ timestamp, timestampNs = some timestamp ∧
        r.state.clockNs ≤ timestamp ∧ u = ⟨r.state.at' timestamp, r.log⟩)
      (fun _ => Since K os) r := by
    rw [wp_bind]
    refine (wp_haltGood hK (fun h => by cases h) (fun h => by cases h) _ hr).mono
      (fun _ u hu => hu.1) fun _ _ hu => hu.elim
  unfold advance
  rw [wp_bind, wp_current]
  split
  · exact hregress
  · rename_i timestamp
    split
    · exact hregress
    · rename_i hlate
      rw [wp_update]
      exact ⟨⟨hK.frame hr.kept rfl rfl rfl, hr.stopped, hr.named⟩, timestamp, rfl, by omega, rfl⟩

/-- **`tick`.** -/
theorem wp_tick (hK : Lawful K lost orphan reenter) (timestampNs : Option ℤ) (hr : Since K os r)
    (hhome : lost ∨ ∀ timestamp, timestampNs = some timestamp → r.state.clockNs ≤ timestamp →
      ¬ ExpiresLost e w (r.state.at' timestamp)) :
    wp (tick e w timestampNs) (fun _ => Since K os) (fun _ => Since K os) r := by
  unfold tick
  rw [wp_bind]
  refine (wp_advance hK timestampNs hr).mono (fun _ u hu => ?_) fun _ _ hu => hu
  obtain ⟨hgood, timestamp, rfl, hlate, rfl⟩ := hu
  exact wp_evaluate hK hgood (hhome.imp_right fun hhome => hhome timestamp rfl hlate)

omit [MachineFloat R] in
/-- The same observations, and no other operation. -/
structure Kin (s t : DroneOperations R) : Prop where
  sensed : t.sensed = s.sensed
  clockNs : t.clockNs = s.clockNs
  recoveryId : t.recoveryId = s.recoveryId
  active : ∀ a', t.active = some a' →
    ∃ a, s.active = some a ∧ a.tool = a'.tool ∧ a.expectedAck = a'.expectedAck

omit [MachineFloat R] in
theorem Kin.trans {s t u : DroneOperations R} (h : Kin s t) (h' : Kin t u) : Kin s u where
  sensed := h'.sensed.trans h.sensed
  clockNs := h'.clockNs.trans h.clockNs
  recoveryId := h'.recoveryId.trans h.recoveryId
  active a'' hactive := by
    obtain ⟨a', hactive', htool', hack'⟩ := h'.active a'' hactive
    obtain ⟨a, hactive, htool, hack⟩ := h.active a' hactive'
    exact ⟨a, hactive, htool.trans htool', hack.trans hack'⟩

/-- What is lost after is lost before. -/
theorem Kin.expiresLost {s t : DroneOperations R} (h : Kin s t) (hlost : ExpiresLost e w t) :
    ExpiresLost e w s := by
  obtain ⟨a', hactive', htool', hexpiry, hid, hadmissible, hmode, error, herror⟩ := hlost
  obtain ⟨a, hactive, htool, -⟩ := h.active a' hactive'
  refine ⟨a, hactive, by rw [htool]; exact htool', by rw [← h.clockNs]; exact hexpiry,
    by rw [← h.recoveryId]; exact hid, ?_, ?_, error, ?_⟩
  · unfold homeAdmissible isDown fresh flagIs modeIs value at hadmissible ⊢
    rw [h.sensed, h.clockNs] at hadmissible
    exact hadmissible
  · unfold modeIs value at hmode ⊢
    rw [h.sensed] at hmode
    exact hmode
  · unfold resolveCourseTarget at herror ⊢
    rw [h.sensed] at herror
    exact herror

/-- An invalid reading leaves no operation active. -/
theorem wp_rejectReadings (hK : Lawful K lost orphan reenter) (telemetry : Telemetry R)
    (hr : Since K os r) :
    wp (rejectReadings e telemetry) (fun _ u => Since K os u ∧ Kin r.state u.state ∧
      (Busy u.state → telemetry.invalid = none)) (fun _ => Since K os) r := by
  have hsame : Kin r.state r.state := ⟨rfl, rfl, rfl, fun a h => ⟨a, h, rfl, rfl⟩⟩
  unfold rejectReadings
  split
  · rename_i hvalid
    exact ⟨hr, hsame, fun _ => hvalid⟩
  · rw [wp_finish]
    refine ⟨fun hidle => ⟨hr, hsame, fun hbusy => ?_⟩, fun a hactive => ⟨?_, ?_, fun hbusy => ?_⟩⟩
    · obtain ⟨a, hactive⟩ := hbusy
      cases hidle.symm.trans hactive
    · exact stable_since hK r _ _ hr (.finished e .failed _ hactive fun h => by cases h)
    · exact ⟨rfl, rfl, rfl, fun a' hactive' => by cases hactive'⟩
    · obtain ⟨a', hactive'⟩ := hbusy
      cases hactive'

theorem wp_noteArmed (hK : Lawful K lost orphan reenter) (telemetry : Telemetry R)
    (hr : Since K os r) :
    wp (noteArmed telemetry) (fun _ u => Since K os u ∧ Kin r.state u.state) (fun _ => Since K os)
      r := by
  unfold noteArmed
  rw [wp_bind, wp_current]
  split
  · rw [wp_bind, wp_update, wp_emit]
    refine ⟨?_, rfl, rfl, rfl, fun a h => ⟨a, h, rfl, rfl⟩⟩
    have harmed : Since K os ⟨{ r.state with armedAtNs := some r.state.clockNs }, r.log⟩ :=
      ⟨hK.frame hr.kept rfl rfl rfl, hr.stopped, hr.named⟩
    exact stable_since hK _ _ _ harmed (.noted rfl)
  · exact ⟨hr, rfl, rfl, rfl, fun a h => ⟨a, h, rfl, rfl⟩⟩

/-- A rejecting ACK leaves no operation active. -/
theorem wp_takeAck (hK : Lawful K lost orphan reenter) (telemetry : Telemetry R)
    (hr : Since K os r) :
    wp (takeAck e telemetry) (fun _ u => Since K os u ∧ Kin r.state u.state ∧
      ∀ a, r.state.active = some a → Busy u.state → (telemetry.ack.any fun ack =>
        a.expectedAck == some ack.command && !ack.accepted) = false) (fun _ => Since K os) r := by
  have hsame : Kin r.state r.state := ⟨rfl, rfl, rfl, fun a h => ⟨a, h, rfl, rfl⟩⟩
  unfold takeAck
  rw [wp_bind, wp_current]
  split
  · rename_i a ack hactive hack
    have hother : ∀ a', r.state.active = some a' → a' = a := fun a' hactive' =>
      Option.some.inj (hactive'.symm.trans hactive)
    split
    · rename_i hdifferent
      refine ⟨hr, hsame, fun a' hactive' _ => ?_⟩
      rw [hother a' hactive', hack]
      simp [hdifferent]
    · split
      · rename_i haccepted
        rw [wp_update, hactive]
        have hacked := stable_since hK r [] _ hr (@Work.worked _ _ _
          { a with acknowledged := true } hactive rfl rfl rfl (Or.inl rfl) (Or.inl rfl))
        rw [List.append_nil] at hacked
        refine ⟨hacked, ⟨rfl, rfl, rfl, fun a' hactive' => ?_⟩, fun a' hactive' _ => ?_⟩
        · cases hactive'
          exact ⟨a, hactive, rfl, rfl⟩
        · rw [hack]
          simp [haccepted]
      · rw [wp_finish]
        refine ⟨fun hidle => ?_, fun a' hactive' => ⟨?_, ?_, fun _ _ hbusy => ?_⟩⟩
        · cases hidle.symm.trans hactive
        · exact stable_since hK r _ _ hr (.finished e .failed _ hactive' fun h => by cases h)
        · exact ⟨rfl, rfl, rfl, fun a' hactive' => by cases hactive'⟩
        · obtain ⟨a'', hactive''⟩ := hbusy
          cases hactive''
  · rename_i hnone
    refine ⟨hr, hsame, fun a hactive _ => ?_⟩
    cases hack : telemetry.ack with
    | none => rfl
    | some ack => exact absurd hack (hnone a ack hactive)

/-- **`observe`.** -/
theorem wp_observe (hK : Lawful K lost orphan reenter) (telemetry : Telemetry R) (hr : Since K os r)
    (hhome : lost ∨ ¬(r.state.clockNs ≤ telemetry.timestampNs ∧
      r.state.endedBy telemetry = false ∧
      ExpiresLost e w (sense telemetry (r.state.at' telemetry.timestampNs)))) :
    wp (observe e w telemetry) (fun _ => Since K os) (fun _ => Since K os) r := by
  unfold observe
  rw [wp_bind]
  refine (wp_advance hK _ hr).mono (fun _ u hu => ?_) fun _ _ hu => hu
  obtain ⟨hgood, timestamp, htimestamp, hlate, rfl⟩ := hu
  cases htimestamp
  rw [wp_bind, wp_update, wp_bind]
  have hsensed : Since K os ⟨sense telemetry (r.state.at' telemetry.timestampNs), r.log⟩ :=
    ⟨hK.frame hgood.kept rfl rfl rfl, hgood.stopped, hgood.named⟩
  refine (wp_rejectReadings hK telemetry hsensed).mono (fun _ u hu => ?_) fun _ _ hu => hu
  obtain ⟨hu, hkin, hvalid⟩ := hu
  rw [wp_bind]
  refine (wp_noteArmed hK telemetry hu).mono (fun _ v hv => ?_) fun _ _ hv => hv
  obtain ⟨hv, hkin'⟩ := hv
  rw [wp_bind]
  refine (wp_takeAck hK telemetry hv).mono (fun _ x hx => ?_) fun _ _ hx => hx
  obtain ⟨hx, hkin'', hacked⟩ := hx
  refine wp_evaluate hK hx (hhome.imp_right fun hhome hexpires => hhome ⟨hlate, ?_, ?_⟩)
  · -- an operation that is still active was ended by no reading and no ACK
    obtain ⟨a₃, hactive₃, -⟩ := hexpires
    obtain ⟨a₂, hactive₂, -, hack₂⟩ := hkin''.active a₃ hactive₃
    obtain ⟨a₁, hactive₁, -, hack₁⟩ := hkin'.active a₂ hactive₂
    obtain ⟨a, hactive, -, hack⟩ := hkin.active a₁ hactive₁
    have hstart : r.state.active = some a := hactive
    unfold endedBy
    rw [hvalid ⟨a₁, hactive₁⟩, hstart]
    have hrejects := hacked a₂ hactive₂ ⟨a₃, hactive₃⟩
    rw [← hack₁, ← hack] at hrejects
    exact hrejects
  · exact ((hkin.trans hkin').trans hkin'').expiresLost hexpires

/-! ## 7. `recover_land` -/

/-- A lawful property together with the stop is lawful. -/
theorem Lawful.stopped (hK : Lawful K lost orphan reenter) :
    Lawful (fun rec s os => K rec s os ∧ OperationNote.stopped ∈ os) lost orphan reenter where
  work h hwork := ⟨hK.work h.1 hwork, List.mem_append_left _ h.2⟩
  frame h hoperations hactive hmarker := ⟨hK.frame h.1 hoperations hactive hmarker, h.2⟩
  again hmem h := ⟨hK.again hmem h.1, List.mem_append_left _ h.2⟩
  started _ _ _ _ hnever _ h := absurd h.2 hnever
  recovered tool timeoutNs timeoutSimS hidle hns h :=
    ⟨hK.recovered tool timeoutNs timeoutSimS hidle hns h.1, List.mem_append_left _ h.2⟩
  home course hidle hmem h := ⟨hK.home course hidle hmem h.1, List.mem_append_left _ h.2⟩
  lost hlost hactive htool h := ⟨hK.lost hlost hactive htool h.1, h.2⟩
  orphan tool horphan hidle h := ⟨hK.orphan tool horphan hidle h.1, List.mem_append_left _ h.2⟩
  reenter hreenter h := ⟨hK.reenter hreenter h.1, h.2⟩

/-- Once stopped, stopped again. -/
theorem Good.again (hK : Lawful K lost orphan reenter) (reason : String)
    (hkept : K s.recoveryId s os) (hmem : OperationNote.stopped ∈ os) :
    Good K { s with stoppedReason := some reason } (os ++ [OperationNote.stopped]) :=
  ⟨hK.again hmem (hK.frame hkept rfl rfl rfl), by simp, fun _ => rfl⟩

theorem wp_stopAgain (hK : Lawful K lost orphan reenter) (reason : String)
    (hkept : K r.state.recoveryId r.state (os ++ r.log)) (hmem : OperationNote.stopped ∈ os ++ r.log) :
    wp (stop reason) (fun _ => Since K os) (fun _ => Since K os) r := by
  rw [wp_stop]
  show Good K _ (os ++ (r.log ++ [OperationNote.stopped]))
  rw [← List.append_assoc]
  exact .again hK reason hkept hmem

/-- **An expired landing ends in the recovery at home**, where the property does not tell the two
    apart, or in none where it may not begin. -/
theorem wp_expireLanding (hK : Lawful K lost orphan reenter) (reason : String) {id : ℕ}
    (hkept : K (some id) r.state (os ++ r.log)) (hmem : OperationNote.stopped ∈ os ++ r.log)
    (hbusy : Busy r.state) (hhome : lost ∨ ¬ HomeLost e r.state)
    (hreenter : reenter ∨ r.state.homeAdmissible = false) :
    wp (expire e w reason)
      (fun _ u => K (some id) u.state (os ++ u.log) ∧ OperationNote.stopped ∈ os ++ u.log)
      (fun _ u => K u.state.recoveryId u.state (os ++ u.log) ∧ OperationNote.stopped ∈ os ++ u.log) r := by
  obtain ⟨a, hactive⟩ := hbusy
  unfold expire
  rw [wp_bind, wp_finish]
  refine ⟨fun hidle => ?_, fun a' hactive' => ?_⟩
  · cases hidle.symm.trans hactive
  have hended := hK.stopped.work ⟨hkept, hmem⟩
    (.finished e .failed reason hactive' fun h => by cases h)
  rw [List.append_assoc] at hended
  rcases hreenter with hreenter | hclosed
  · have hgood : Since (fun rec s os => K rec s os ∧ OperationNote.stopped ∈ os) os
        ⟨r.state.finishedAs a' .failed reason,
          r.log ++ finishNotes e a' .failed r.state.clockNs reason⟩ := by
      refine ⟨hK.stopped.reenter hreenter hended, ?_, fun _ => rfl⟩
      exact ⟨fun _ => rfl, fun _ => hended.2⟩
    exact (wp_startHomeRecovery hK.stopped hgood rfl rfl hhome).mono
      (fun _ _ hu => hK.stopped.reenter hreenter hu.kept) fun _ _ hu => hu.kept
  · unfold startHomeRecovery
    rw [wp_bind, wp_current]
    have hrefused : ((r.state.finishedAs a' .failed reason).recoveryId.isSome ||
        !(r.state.finishedAs a' .failed reason).homeAdmissible) = true := by
      have hsame : (r.state.finishedAs a' .failed reason).homeAdmissible = false := hclosed
      rw [hsame]
      simp
    rw [if_pos hrefused]
    exact hended

/-- **The landing of `recover_land`**, in a stopped state whose stop is lifted for it. -/
theorem wp_landAgain (hK : Lawful K lost orphan reenter) (reason : String)
    (hkept : K none r.state (os ++ r.log)) (hmem : OperationNote.stopped ∈ os ++ r.log)
    (hidle : r.state.active = none) (hnone : r.state.recoveryId = none)
    (horphan : orphan ∨ ¬(validTimeout timeoutSimS = true ∧ nanoseconds timeoutSimS = none))
    (hhome : lost ∨ ¬(validTimeout timeoutSimS = true ∧ (nanoseconds timeoutSimS).isSome = true ∧
      (expiryReason e w r.state.clockNs).isSome = true ∧ HomeLost e r.state))
    (hreenter : reenter ∨ ¬(validTimeout timeoutSimS = true ∧
      (nanoseconds timeoutSimS).isSome = true ∧
      (expiryReason e w r.state.clockNs).isSome = true ∧ r.state.homeAdmissible = true)) :
    wp (landAgain e w timeoutSimS reason) (fun _ => Since K os) (fun _ => Since K os) r := by
  have hraise : ∀ (error : String) (u : Acting (DroneOperations R) (OperationNote R)),
      K u.state.recoveryId u.state (os ++ u.log) ∧ OperationNote.stopped ∈ os ++ u.log →
      wp (do
        stop reason
        throw error : Operating R Unit) (fun _ v => wp (stop reason) (fun _ => Since K os)
          (fun _ => Since K os) v) (fun _ => Since K os) u := by
    intro error u hu
    rw [wp_bind]
    exact wp_stopAgain hK reason hu.1 hu.2
  have hname : ∀ (id : ℕ) (u : Acting (DroneOperations R) (OperationNote R)),
      K (some id) u.state (os ++ u.log) ∧ OperationNote.stopped ∈ os ++ u.log →
      wp (update fun s => { s with recoveryId := some id }) (fun _ v => wp (stop reason)
        (fun _ => Since K os) (fun _ => Since K os) v) (fun error v => wp (do
          stop reason
          throw error : Operating R Unit) (fun _ v => wp (stop reason) (fun _ => Since K os)
            (fun _ => Since K os) v) (fun _ => Since K os) v) u := by
    intro id u hu
    rw [wp_update]
    exact wp_stopAgain hK reason (hK.frame hu.1 rfl rfl rfl) hu.2
  unfold landAgain
  rw [wp_bind, wp_tryCatch, wp_bind]
  unfold start
  rw [wp_bind, wp_current]
  split
  · rename_i error _
    exact hraise error r ⟨by rw [hnone]; exact hkept, hmem⟩
  · rename_i hpass
    obtain ⟨hvalid, -, -⟩ := startRefusal_none hpass
    refine wp_begin' (fun hoverflow error => hraise error _ ?_) fun timeoutNs hns => ?_
    · rcases horphan with horphan | horphan
      · have hopened := hK.stopped.orphan .land horphan hidle ⟨hkept, hmem⟩
        rw [List.append_assoc] at hopened
        show K r.state.recoveryId _ _ ∧ _
        rw [hnone]
        exact hopened
      · exact absurd ⟨hvalid, hoverflow⟩ horphan
    · have hstarted := hK.stopped.recovered .land timeoutNs timeoutSimS hidle hns ⟨hkept, hmem⟩
      rw [List.append_assoc] at hstarted
      have hsome : (nanoseconds timeoutSimS).isSome = true := by rw [hns]; rfl
      refine ⟨fun expiry hexpiry => ?_, fun hexpiry => ?_⟩
      · have hsome' : (expiryReason e w r.state.clockNs).isSome = true := by rw [hexpiry]; rfl
        refine (wp_expireLanding (r := ⟨r.state.startedWith .land timeoutNs, _⟩) hK expiry hstarted.1
          hstarted.2 ⟨_, rfl⟩ ?_ ?_).mono (fun _ u hu => hname _ u hu)
          fun error u hu => hraise error u hu
        · exact hhome.imp_right fun hhome hlost => hhome ⟨hvalid, hsome, hsome', hlost⟩
        · refine hreenter.imp_right fun hreenter => eq_false_of_ne_true fun hadmissible => ?_
          exact hreenter ⟨hvalid, hsome, hsome', hadmissible⟩
      · have hstable : Stable Work fun u : Acting (DroneOperations R) (OperationNote R) =>
            K (some r.state.operations.length) u.state (os ++ u.log) ∧ OperationNote.stopped ∈ os ++ u.log := by
          intro u o t hu hwork
          have hmoved := hK.stopped.work hu hwork
          rw [List.append_assoc] at hmoved
          exact hmoved
        exact (wp_launch (r := ⟨r.state.startedWith .land timeoutNs, _⟩) hexpiry
          (launched_startedWith .land timeoutNs r.state) hstable hstarted).mono
          (fun _ u hu => hname _ u hu) fun _ _ hu => hu.elim

/-- **`recover_land`.** -/
theorem wp_recoverLand (hK : Lawful K lost orphan reenter) (hr : Since K os r)
    (horphan : orphan ∨ ¬(r.state.admitsRecovery = true ∧ validTimeout timeoutSimS = true ∧
      nanoseconds timeoutSimS = none))
    (hhome : lost ∨ ¬(r.state.admitsRecovery = true ∧ validTimeout timeoutSimS = true ∧
      (nanoseconds timeoutSimS).isSome = true ∧
      (expiryReason e w r.state.clockNs).isSome = true ∧ HomeLost e r.state))
    (hreenter : reenter ∨ ¬(r.state.admitsRecovery = true ∧ validTimeout timeoutSimS = true ∧
      (nanoseconds timeoutSimS).isSome = true ∧
      (expiryReason e w r.state.clockNs).isSome = true ∧ r.state.homeAdmissible = true)) :
    wp (recoverLand e w timeoutSimS) (fun _ => Since K os) (fun _ => Since K os) r := by
  unfold recoverLand
  rw [wp_bind, wp_current]
  split
  · rename_i hadmits
    have hnone : r.state.recoveryId = none := by
      have hadmits' := hadmits
      unfold admitsRecovery at hadmits'
      simp only [Bool.and_eq_true, Option.isNone_iff_eq_none] at hadmits'
      exact hadmits'.1.1.1
    rw [wp_bind]
    unfold abort
    refine (wp_haltGood hK (fun h => by cases h) (fun h => by cases h) _ hr).mono
      (fun _ u hu => ?_) fun _ _ hu => hu.elim
    obtain ⟨hgood, hidle, hstopped, hsensed, hclock, hid⟩ := hu
    rw [wp_bind, wp_update]
    have hkept := hgood.kept
    rw [hid, hnone] at hkept
    have hadmissible : ({ u.state with stoppedReason := none } : DroneOperations R).homeAdmissible =
        r.state.homeAdmissible := by
      unfold homeAdmissible isDown fresh flagIs modeIs value
      rw [hsensed, hclock]
    have hlost : HomeLost e ({ u.state with stoppedReason := none } : DroneOperations R) →
        HomeLost e r.state := by
      rintro ⟨-, hhome, hmode, error, herror⟩
      refine ⟨hnone, hadmissible.symm.trans hhome, ?_, error, ?_⟩
      · unfold modeIs value at hmode ⊢
        rw [← hsensed]
        exact hmode
      · unfold resolveCourseTarget at herror ⊢
        rw [← hsensed]
        exact herror
    refine wp_landAgain (r := ⟨{ u.state with stoppedReason := none }, u.log⟩) hK _
      (hK.frame hkept rfl rfl rfl) (hgood.stopped.mpr hstopped) hidle (hid.trans hnone) ?_ ?_ ?_
    · exact horphan.imp_right fun h h' => h ⟨hadmits, h'⟩
    · refine hhome.imp_right fun h ⟨hvalid, hsome, hexpiry, hloss⟩ => ?_
      exact h ⟨hadmits, hvalid, hsome, by rw [← hclock]; exact hexpiry, hlost hloss⟩
    · refine hreenter.imp_right fun h ⟨hvalid, hsome, hexpiry, hhome⟩ => ?_
      exact h ⟨hadmits, hvalid, hsome, by rw [← hclock]; exact hexpiry,
        hadmissible.symm.trans hhome⟩
  · exact hr

/-! ## 8. Calls and runs -/

/-- The kinds of call that the property has a law for, and all others. -/
def Admitted (lost orphan reenter : Prop) (e : Equipment R) (s : DroneOperations R) (i : Call R) :
    Prop := (lost ∨ ¬ LosesHome e s i) ∧ (orphan ∨ ¬ Overflows s i) ∧ (reenter ∨ ¬ Reenters e s i)

/-- **One call keeps a good state**, whatever it raises. -/
theorem good_answer (hK : Lawful K lost orphan reenter) {i : Call R} (h : Good K s os)
    (hadmitted : Admitted lost orphan reenter e s i) :
    Good K (call (answer e i) s).2.1 (os ++ (call (answer e i) s).2.2) := by
  obtain ⟨hlost, horphan, hreenter⟩ := hadmitted
  have hr : Since K os ⟨s, []⟩ := by
    show Good K s (os ++ [])
    rw [List.append_nil]
    exact h
  refine call_state (P := Since K os) ?_
  obtain ⟨input, around⟩ := i
  unfold answer
  cases input with
  | start tool timeoutSimS =>
    rw [wp_bind]
    exact wp_start hK hr horphan hlost
  | observe telemetry => exact wp_observe hK telemetry hr hlost
  | tick timestampNs =>
    refine wp_tick hK timestampNs hr (hlost.imp_right fun hlost timestamp htimestamp hlate hloses => ?_)
    subst htimestamp
    exact hlost ⟨hlate, hloses⟩
  | abort reason =>
    exact (wp_haltGood hK (fun h => by cases h) (fun h => by cases h) reason hr).mono
      (fun _ _ hu => hu.1) fun _ _ hu => hu.elim
  | recoverLand timeoutSimS => exact wp_recoverLand hK hr horphan hlost hreenter

/-- **Every run keeps a good state.** -/
theorem good_run (hK : Lawful K lost orphan reenter) {C : DroneOperations R → Call R → Prop}
    (hC : ∀ s i, C s i → Admitted lost orphan reenter e s i) {s t : DroneOperations R}
    {is : List (Call R)} {os' : List (OperationNote R)}
    (hrun : Run (Meeting (Calling (answer e)) C) s is os' t) (h : Good K s os) :
    Good K t (os ++ os') := by
  induction hrun with
  | start =>
    rw [List.append_nil]
    exact h
  | @step is os' t i o u _ hs ih =>
    obtain ⟨hcall, hmeets⟩ := hs
    have hnext := good_answer hK ih (hC t i hmeets)
    unfold Calling at hcall
    rw [hcall] at hnext
    rw [← List.append_assoc]
    exact hnext

end Specs

end DroneOperations

end DroneSim
