/-
  File:      DroneSim/Comp2026/OwnerRules.lean
  Subject:   What other threads do to the supervisor, and what the owner's questions leave as it was.

  No thread but the owner begins or finishes a command: `Side` are the moves that are left, and every
  section of another thread comes to them (`side_of_section`). `Lasting c P` says that `P` is kept by
  every step of another thread and by every note of a question; so it is by the owner's questions.
-/
import DroneSim.Comp2026.ExecutionOwner

namespace DroneSim

open Library Library.Attempt Library.Acting QgcCommand

namespace MissionSupervisor

variable {c : SupervisorConfig} {s t : MissionSupervisor} {notes : List SupervisorNote}
  {α β : Type} {envelope : CommandEnvelope}

/-! ## 1. Moves beside the owner's -/

/-- No command begins or ends. -/
def SideNote : SupervisorNote → Prop
  | .began _ => False
  | .finished _ _ => False
  | _ => True

/-- **The moves of other threads.** -/
def Side (c : SupervisorConfig) (s : MissionSupervisor) (notes : List SupervisorNote)
    (t : MissionSupervisor) : Prop :=
  Move c .all s notes t ∧ ∀ n ∈ notes, SideNote n

/-- A run of moves without a beginning or an end is one of other threads. -/
theorem side_run {js : List Unit} (h : Run (Free (Move c .all)) s js notes t)
    (hnotes : ∀ n ∈ notes, SideNote n) : Run (Free (Side c)) s js notes t := by
  induction h with
  | start => exact .start
  | step _ hmove ih =>
    refine .step (ih fun n hn => hnotes n (List.mem_append_left _ hn)) ⟨hmove, fun n hn => ?_⟩
    exact hnotes n (List.mem_append_right _ hn)

/-- From `s` on no command began or ended, and only the abort command has an immediate result that
    it had not. -/
structure SideNoted (s : MissionSupervisor) (r : Acting MissionSupervisor SupervisorNote) :
    Prop where
  notes : ∀ n ∈ r.log, SideNote n
  immediate : ∀ p, p ≠ abortAndRecover →
    r.state.immediateResults.get p = s.immediateResults.get p

theorem SideNoted.start (s : MissionSupervisor) : SideNoted s ⟨s, []⟩ :=
  ⟨fun _ h => absurd h List.not_mem_nil, fun _ _ => rfl⟩

/-- What other threads do in one section. -/
def SideOp (x : Op α) : Prop := ∀ s, Keeps (SideNoted s) x

theorem SideOp.pure (a : α) : SideOp (pure a : Op α) := fun _ => .pure a

theorem SideOp.throw (e : SupervisorError) : SideOp (throw e : Op α) := fun _ => .throw e

theorem SideOp.ofExcept (x : Except SupervisorError α) : SideOp (ofExcept x : Op α) :=
  fun _ => .ofExcept x

theorem SideOp.bind {x : Op α} {f : α → Op β} (hx : SideOp x) (hf : ∀ a, SideOp (f a)) :
    SideOp (x >>= f) := fun s => .bind (hx s) fun a => hf a s

theorem SideOp.ite {b : Prop} [Decidable b] {x y : Op α} (hx : SideOp x) (hy : SideOp y) :
    SideOp (if b then x else y) := fun s => .ite (hx s) (hy s)

theorem SideOp.perform {n : SupervisorNote} (hn : SideNote n) : SideOp (perform n : Op Unit) := by
  intro s r hr
  refine ⟨fun m hm => ?_, hr.immediate⟩
  rcases List.mem_append.mp hm with hm | hm
  · exact hr.notes m hm
  · rw [List.mem_singleton.mp hm]
    exact hn

theorem SideOp.update {f : MissionSupervisor → MissionSupervisor}
    (h : ∀ s p, p ≠ abortAndRecover → (f s).immediateResults.get p = s.immediateResults.get p) :
    SideOp (update f : Op Unit) :=
  fun _ r hr => ⟨hr.notes, fun p hp => (h r.state p hp).trans (hr.immediate p hp)⟩

theorem SideOp.current {f : MissionSupervisor → Op β} (h : ∀ s, SideOp (f s)) :
    SideOp (current >>= f) := fun s r hr => by
  rw [wp_bind, wp_current]
  exact h r.state s r hr

theorem side_applyOutputAbort : SideOp applyOutputAbort := by
  refine .current fun s => ?_
  cases s.outputAbortReason with
  | none => exact .pure ()
  | some reason =>
    refine .ite (.pure ()) (.ite (.bind (.update fun s p _ => ?_) fun _ => ?_) (.pure ()))
    · rw [withAbort_immediateResults]
    · exact .perform trivial

theorem side_reserveAbort (h : envelope.command = abortAndRecover) :
    SideOp (reserveAbort envelope) := by
  refine .bind side_applyOutputAbort fun _ => .current fun _ => .ite (.pure false)
    (.ite (.throw _) (.bind ?_ fun _ => .bind (.perform trivial) fun _ => .pure true))
  refine .update fun s p hp => ?_
  rw [h]
  exact Dict.get_set_of_ne _ _ hp

theorem side_abandonAbort (h : envelope.command = abortAndRecover) :
    SideOp (abandonAbort envelope) := by
  refine .current fun _ => .ite (.update fun s p hp => ?_) (.pure ())
  rw [h]
  exact Dict.get_erase_of_ne _ hp

theorem side_acceptAbort (h : envelope.command = abortAndRecover) :
    SideOp (acceptAbort envelope) := by
  refine .bind side_applyOutputAbort fun _ => .bind (.update fun s p hp => ?_) fun _ =>
    .perform trivial
  rw [h]
  exact Dict.get_set_of_ne _ _ hp

theorem immediate_withReason (reason : String) (s : MissionSupervisor) :
    (withReason reason s).immediateResults = s.immediateResults := by
  unfold withReason
  split
  · rfl
  · rfl

theorem side_latchAbort : SideOp latchAbort := .update fun s p _ => by rw [immediate_withReason]

theorem side_requestAbort (reason : String) (site : AbortSite) :
    SideOp (requestAbort reason site) := by
  refine .bind (.ite (.throw _) (.update fun s p _ => ?_)) fun _ => .current fun _ =>
    .ite (.throw _) (.ite side_applyOutputAbort (.pure ()))
  rw [immediate_withReason]

theorem side_admitCommand (envelope : CommandEnvelope) (check consumer : CheckAnswer) :
    SideOp (admitCommand c envelope check consumer) := by
  refine .bind (.ofExcept _) fun _ => .bind (.ofExcept _) fun _ => .current fun s =>
    .ite (.pure false) ?_
  cases refusal c s envelope.command with
  | some error => exact .throw _
  | none =>
    refine .bind (.ite ?_ (.pure ())) fun _ => ?_
    · exact .bind (.ofExcept _) fun _ => .bind (.perform trivial) fun _ => .update fun _ _ _ => rfl
    · exact .bind (.update fun _ _ _ => rfl) fun _ => .bind (.perform trivial) fun _ => .pure true

/-- **A section of another thread is a run of its moves.** -/
theorem side_of_section {x : Op α} (hmoves : Moves (Move c .all) x) (hside : SideOp x)
    (s : MissionSupervisor) : ∃ js os, Run (Free (Side c)) s js os (call x s).2.1 := by
  obtain ⟨js, hrun⟩ := hmoves.call s
  have hnoted : SideNoted s ⟨(call x s).2.1, (call x s).2.2⟩ :=
    call_state (hside s _ (.start s))
  exact ⟨js, _, side_run hrun hnoted.notes⟩

/-- It gives no other command than the abort an immediate result. -/
theorem immediate_of_section {x : Op α} (hside : SideOp x) (s : MissionSupervisor) {p : ℤ}
    (hp : p ≠ abortAndRecover) :
    (call x s).2.1.immediateResults.get p = s.immediateResults.get p := by
  have hnoted : SideNoted s ⟨(call x s).2.1, (call x s).2.2⟩ :=
    call_state (hside s _ (.start s))
  exact hnoted.immediate p hp

/-! ## 2. What they leave as it is -/

/-- **What other threads can do** to the states and the results of commands. -/
structure Beside (s t : MissionSupervisor) : Prop where
  results : ∀ p r, s.results.get p = some r → t.results.get p = some r
  /-- A new result is that of an abort. -/
  fresh : ∀ p r, t.results.get p = some r → s.results.get p = some r ∨ r = .aborted
  running : ∀ p, t.states.get p = some .running ↔ s.states.get p = some .running
  terminal : ∀ p, s.states.get p = some .terminal → t.states.get p = some .terminal
  queued : ∀ p, s.states.get p = some .queued →
    t.states.get p = some .queued ∨ t.states.get p = some .terminal ∧ t.results.get p = some .aborted

theorem Beside.refl (s : MissionSupervisor) : Beside s s :=
  ⟨fun _ _ h => h, fun _ _ h => Or.inl h, fun _ => Iff.rfl, fun _ h => h, fun _ h => Or.inl h⟩

/-- Neither states nor results change. -/
theorem Beside.of_same (hstates : t.states = s.states) (hresults : t.results = s.results) :
    Beside s t := by
  have h := Beside.refl s
  refine ⟨?_, ?_, ?_, ?_, ?_⟩
  · rw [hresults]
    exact h.results
  · rw [hresults]
    exact h.fresh
  · rw [hstates]
    exact h.running
  · rw [hstates]
    exact h.terminal
  · rw [hstates, hresults]
    exact h.queued

theorem Beside.trans {u : MissionSupervisor} (h : Beside s t) (h' : Beside t u) : Beside s u := by
  refine ⟨fun p r hr => h'.results p r (h.results p r hr), fun p r hr => ?_,
    fun p => (h'.running p).trans (h.running p), fun p hp => h'.terminal p (h.terminal p hp),
    fun p hp => ?_⟩
  · rcases h'.fresh p r hr with hr | hr
    · exact h.fresh p r hr
    · exact Or.inr hr
  · rcases h.queued p hp with hp | ⟨hterminal, haborted⟩
    · exact h'.queued p hp
    · exact Or.inr ⟨h'.terminal p hterminal, h'.results p _ haborted⟩

theorem beside_withAbort (h : Sound c s) (reason : String) : Beside s (withAbort reason s) := by
  refine ⟨fun p r hr => ?_, fun p r hr => ?_, fun p => ?_, fun p hp => ?_, fun p hp => ?_⟩
  · have hended := (h.ended p).mp (by rw [hr]; rfl)
    rw [get_results_withAbort, hended]
    simpa using hr
  · rw [get_results_withAbort] at hr
    split at hr
    · exact Or.inr (Option.some.inj hr).symm
    · exact Or.inl hr
  · rw [get_states_withAbort]
    split
    · rename_i hqueued
      rw [hqueued.2]
      simp
    · exact Iff.rfl
  · rw [get_states_withAbort, hp]
    simp
  · rw [get_states_withAbort, get_results_withAbort]
    by_cases hphase : p ∈ phaseCommands
    · rw [if_pos ⟨hphase, hp⟩, if_pos ⟨hphase, hp⟩]
      exact Or.inr ⟨rfl, rfl⟩
    · rw [if_neg fun hq => hphase hq.1]
      exact Or.inl hp

theorem beside_queued (active : Bool) (hnew : s.states.get envelope.command = none) :
    Beside s (withQueued envelope { s with attemptActive := active }) := by
  have hstates : ∀ p, (withQueued envelope { s with attemptActive := active }).states.get p =
      if p = envelope.command then some .queued else s.states.get p := fun p => Dict.get_set ..
  have hkeeps : ∀ p state, s.states.get p = some state →
      (withQueued envelope { s with attemptActive := active }).states.get p = some state := by
    intro p state hp
    rw [hstates, if_neg fun heq => ?_]
    · exact hp
    · rw [heq, hnew] at hp
      cases hp
  refine ⟨fun _ _ h => h, fun _ _ h => Or.inl h, fun p => ⟨fun hp => ?_, hkeeps p _⟩,
    fun p => hkeeps p _, fun p hp => Or.inl (hkeeps p _ hp)⟩
  rw [hstates] at hp
  split at hp
  · cases hp
  · exact hp

/-- **A move of another thread.** -/
theorem Side.beside (h : Sound c s) (hside : Side c s notes t) : Beside s t := by
  obtain ⟨hmove, hnotes⟩ := hside
  cases hmove with
  | latched reason =>
    unfold withReason
    split
    · exact .of_same rfl rfl
    · exact .refl s
  | applied hreason hopen hfirst => exact beside_withAbort h _
  | reserved envelope hall hnew hopen => exact .of_same rfl rfl
  | abandoned envelope hall hheld => exact .of_same rfl rfl
  | accepted envelope hall hsettled => exact .of_same rfl rfl
  | queued envelope hlater hnew hpass => exact beside_queued s.attemptActive hnew
  | queuedFirst envelope hfirst hnew hpass => exact beside_queued true hnew
  | began hqueued => exact (hnotes _ List.mem_cons_self).elim
  | finished result hends hrunning hsettled => exact (hnotes _ List.mem_cons_self).elim

/-- **Over a run of them.** -/
theorem beside_run {js : List Unit} (h : Sound c s) (hrun : Run (Free (Side c)) s js notes t) :
    Sound c t ∧ Beside s t := by
  induction hrun with
  | start => exact ⟨h, .refl s⟩
  | step _ hside ih => exact ⟨ih.1.move hside.1, ih.2.trans (Side.beside ih.1 hside)⟩

/-! ## 3. The owner's sections -/

/-- **`begin`** of a queued command; of any other it is rejected. -/
theorem call_begin (s : MissionSupervisor) (p : ℤ) :
    (s.states.get p = some .queued ∧ (call (begin p) s).1 = .ok () ∧
      (call (begin p) s).2.1 = { s with states := s.states.set p .running }) ∨
    ∃ error, (call (begin p) s).1 = .error error ∧ (call (begin p) s).2.1 = s := by
  refine call_spec (x := begin p) (P := fun a q =>
    (s.states.get p = some .queued ∧ a = .ok () ∧
      q.state = { s with states := s.states.set p .running }) ∨
    ∃ error, a = .error error ∧ q.state = s) ?_
  unfold begin
  rw [wp_bind, wp_current]
  split
  · rename_i hqueued
    rw [wp_bind, wp_update, wp_perform]
    exact Or.inl ⟨hqueued, rfl, rfl⟩
  · exact Or.inr ⟨_, rfl, rfl⟩

/-- What the abort that waits does when it is applied. -/
structure Applied (s t : MissionSupervisor) : Prop where
  beside : Beside s t
  immediate : t.immediateResults = s.immediateResults
  absent : ∀ p, t.states.get p = none ↔ s.states.get p = none

theorem Applied.refl (s : MissionSupervisor) : Applied s s := ⟨.refl s, rfl, fun _ => Iff.rfl⟩

theorem applied_withAbort (h : Sound c s) (reason : String) : Applied s (withAbort reason s) := by
  refine ⟨beside_withAbort h _, withAbort_immediateResults _ _, fun p => ?_⟩
  rw [get_states_withAbort]
  split
  · rename_i hqueued
    rw [hqueued.2]
    simp
  · exact Iff.rfl

theorem applied_spec (h : Sound c s) (os : List SupervisorNote) :
    wp applyOutputAbort (fun _ q => Applied s q.state) (fun _ _ => False) ⟨s, os⟩ := by
  unfold applyOutputAbort
  rw [wp_bind, wp_current]
  split
  · exact .refl s
  · split
    · exact .refl s
    · split
      · rw [wp_bind, wp_update, wp_perform]
        exact applied_withAbort h _
      · exact .refl s

/-- **`finish`** of a running command: its result is recorded, with the abort applied before. -/
theorem call_finish (h : Sound c s) {p : ℤ} (hrunning : s.states.get p = some .running)
    (result : TerminalResult) :
    ∃ mid, Applied s mid ∧
      (call (finish c p result.name) s).2.1 = withFinished c p (recordedResult mid p result) mid := by
  refine call_state (x := finish c p result.name) (P := fun q => ∃ mid, Applied s mid ∧
    q.state = withFinished c p (recordedResult mid p result) mid) ?_
  unfold finish
  rw [TerminalResult.ofText_name]
  change wp (applyOutputAbort >>= _) _ _ _
  rw [wp_bind]
  refine (applied_spec h []).mono (fun _ q hq => ?_) fun _ _ hfalse => hfalse.elim
  rw [wp_bind, wp_current, if_pos ((hq.beside.running p).mpr hrunning), wp_bind, wp_update,
    wp_perform]
  exact ⟨q.state, hq, rfl⟩

/-- A success is recorded of none but a success. -/
theorem recordedResult_succeeded {p : ℤ} {result : TerminalResult}
    (h : recordedResult s p result = .succeeded) : result = .succeeded := by
  unfold recordedResult at h
  split at h
  · cases h
  · exact h

/-- **What the record says** of a finished command. -/
theorem admissionResult_terminal {p : ℤ} {result : TerminalResult}
    (himmediate : s.immediateResults.get p = none) (hterminal : s.states.get p = some .terminal)
    (hresult : s.results.get p = some result) : s.admissionResult p = some (.result result) := by
  unfold admissionResult
  rw [himmediate, hterminal, hresult]
  rfl

end MissionSupervisor

open MissionSupervisor

/-! ## 4. One step beside the owner's -/

/-- The command that a callback is in the sections of the abort command's `admit` with. -/
def CallbackPhase.aborting : CallbackPhase → Option CommandEnvelope
  | .reserved _ e => some e
  | .latched _ e => some e
  | _ => none

namespace CommandSystem

variable {c : SupervisorConfig} {profile : QgcProfile} {s t u : CommandSystem} {α : Type}
variable (thread : ℕ) (packet : QgcPacket) (e : CommandEnvelope)

/-- It is the abort command. -/
def Reserving (s : CommandSystem) : Prop :=
  ∀ thread e, (s.callback thread).aborting = some e → e.command = abortAndRecover

theorem received_aborting (receivedAt : Option ℚ) :
    (received profile packet receivedAt).aborting = none := by
  unfold received
  split
  · split
    · rfl
    · split
      · rfl
      · split
        · split
          · rfl
          · rfl
        · rfl
  · rfl

/-- **What other threads do** to the supervisor and to the rest of the system. -/
structure Sideways (c : SupervisorConfig) (s t : CommandSystem) : Prop where
  side : ∃ js os, Run (Free (Side c)) s.supervisor js os t.supervisor
  immediate : ∀ p, p ≠ abortAndRecover →
    t.supervisor.immediateResults.get p = s.supervisor.immediateResults.get p
  outcome : t.recoveryOutcome = s.recoveryOutcome
  started : t.recoveryStarted = s.recoveryStarted
  timing : t.deadline = s.deadline
  reserving : s.Reserving → t.Reserving

theorem Sideways.refl (s : CommandSystem) : Sideways c s s :=
  ⟨⟨[], [], .start⟩, fun _ _ => rfl, rfl, rfl, rfl, id⟩

theorem Sideways.trans (h : Sideways c s t) (h' : Sideways c t u) : Sideways c s u := by
  obtain ⟨js, os, hrun⟩ := h.side
  obtain ⟨js', os', hrun'⟩ := h'.side
  exact ⟨⟨_, _, hrun.append hrun'⟩, fun p hp => (h'.immediate p hp).trans (h.immediate p hp),
    h'.outcome.trans h.outcome, h'.started.trans h.started, h'.timing.trans h.timing,
    fun hs => h'.reserving (h.reserving hs)⟩

/-- The callback goes to a phase outside of `admit` of the abort command, or with that command. -/
theorem sideways_enter {phase : CallbackPhase}
    (hphase : ∀ e, phase.aborting = some e → e.command = abortAndRecover) :
    Sideways c s (s.enter thread phase) := by
  refine ⟨⟨[], [], .start⟩, fun _ _ => rfl, rfl, rfl, rfl, fun hs thread' e he => ?_⟩
  change (Function.update s.callback thread phase thread').aborting = _ at he
  by_cases heq : thread' = thread
  · subst heq
    rw [Function.update_self] at he
    exact hphase e he
  · rw [Function.update_of_ne heq] at he
    exact hs thread' e he

theorem sideways_leave {phase : CallbackPhase}
    (hphase : ∀ e, phase.aborting = some e → e.command = abortAndRecover) :
    Sideways c s (s.leave thread phase) := by
  have h := sideways_enter (c := c) (s := s) thread hphase
  exact ⟨h.side, h.immediate, h.outcome, h.started, h.timing, h.reserving⟩

theorem sideways_supervised {x : Op α} (hmoves : Moves (Move c .all) x) (hside : SideOp x) :
    Sideways c s (s.supervised x) :=
  ⟨side_of_section hmoves hside _, fun _ hp => immediate_of_section hside _ hp, rfl, rfl, rfl, id⟩

theorem sideways_refuse (lost : Bool) (error : SupervisorError) :
    Sideways c s (s.refuse thread packet e lost error) := by
  unfold refuse
  cases refusedAs lost error with
  | none => exact sideways_leave thread fun _ h => by cases h
  | some text => exact sideways_leave thread fun _ h => by cases h

theorem reserving_moves (check : CheckAnswer) : Moves (Move c .all) (reserving c e check) :=
  .bind (.ofExcept _) fun _ => .bind (.ofExcept _) fun _ => reserveAbort_moves e

theorem side_reserving {e : CommandEnvelope} (h : e.command = abortAndRecover)
    (check : CheckAnswer) : SideOp (reserving c e check) :=
  .bind (.ofExcept _) fun _ => .bind (.ofExcept _) fun _ => side_reserveAbort h

theorem sideways_admitEnvelope (check consumer : CheckAnswer) (lost : Bool) :
    Sideways c s (s.admitEnvelope c thread packet e check consumer lost) := by
  unfold admitEnvelope
  by_cases habort : e.command = abortAndRecover
  · rw [if_pos habort]
    have hsection : Sideways c s (s.supervised (reserving c e check)) :=
      sideways_supervised (reserving_moves e check) (side_reserving habort check)
    split
    · exact hsection.trans (sideways_refuse thread packet e lost _)
    · rename_i reserved _
      refine hsection.trans (sideways_enter thread fun e' h => ?_)
      cases reserved with
      | false => cases h
      | true =>
        cases h
        exact habort
  · rw [if_neg habort]
    have hsection : Sideways c s (s.supervised (admitCommand c e check consumer)) :=
      sideways_supervised (admitCommand_moves e check consumer) (side_admitCommand e check consumer)
    split
    · exact hsection.trans (sideways_refuse thread packet e lost _)
    · exact hsection.trans (sideways_enter thread fun _ h => by cases h)

theorem sideways_latch (hs : s.Reserving) {thread : ℕ} {packet : QgcPacket} {e : CommandEnvelope}
    (hphase : s.callback thread = .reserved packet e) (gate : Option String) :
    Sideways c s (s.latch thread packet e gate) := by
  have habort : e.command = abortAndRecover := hs thread e (by rw [hphase]; rfl)
  unfold latch
  cases gate with
  | some error =>
    have hsection : Sideways c s (s.supervised (abandonAbort e)) :=
      sideways_supervised (abandonAbort_moves e) (side_abandonAbort habort)
    exact hsection.trans (sideways_leave thread fun _ h => by cases h)
  | none =>
    have hsection : Sideways c s (s.supervised latchAbort) :=
      sideways_supervised latchAbort_moves side_latchAbort
    refine hsection.trans (sideways_enter thread fun e' h => ?_)
    cases h
    exact habort

/-- **One step of a callback.** -/
theorem sideways_callbackStep (hs : s.Reserving) (thread : ℕ) (step : CallbackStep) :
    Sideways c s (s.callbackStep c profile thread step).1 := by
  unfold callbackStep
  split
  · refine sideways_enter thread fun _ h => ?_
    rw [received_aborting] at h
    cases h
  · unfold look
    split
    · split
      · exact sideways_enter thread fun _ h => by cases h
      · exact sideways_enter thread fun _ h => by cases h
    · exact sideways_enter thread fun _ h => by cases h
  · unfold lookUp
    split
    · split
      · exact sideways_enter thread fun _ h => by cases h
      · rename_i packet e _ _ _ _
        have h : Sideways c s (s.enter thread (.deciding packet e)) :=
          sideways_enter thread fun _ h => by cases h
        exact ⟨h.side, h.immediate, h.outcome, h.started, h.timing, h.reserving⟩
    · exact .refl s
  · exact sideways_admitEnvelope thread _ _ _ _ _
  · rename_i hphase
    exact sideways_latch hs hphase _
  · rename_i packet e hphase
    have habort : e.command = abortAndRecover := hs thread e (by rw [hphase]; rfl)
    have hsection : Sideways c s (s.supervised (acceptAbort e)) :=
      sideways_supervised (acceptAbort_moves e) (side_acceptAbort habort)
    exact hsection.trans (sideways_enter thread fun _ h => by cases h)
  · rename_i packet e enqueue _
    have h : Sideways c s (s.enter thread (.recorded packet e)) :=
      sideways_enter thread fun _ h => by cases h
    exact ⟨h.side, h.immediate, h.outcome, h.started, h.timing, h.reserving⟩
  · exact sideways_leave thread fun _ h => by cases h
  · exact sideways_enter thread fun _ h => by cases h
  · exact sideways_enter thread fun _ h => by cases h
  · exact .refl s

/-- **The supervisor is sound**, and the abort command alone is admitted in sections. -/
structure Orderly (c : SupervisorConfig) (s : CommandSystem) : Prop where
  sound : Sound c s.supervisor
  reserving : s.Reserving
  immediate : ∀ p, p ≠ abortAndRecover → s.supervisor.immediateResults.get p = none

theorem Orderly.sideways (h : Orderly c s) (hside : Sideways c s t) :
    Orderly c t ∧ Beside s.supervisor t.supervisor := by
  obtain ⟨js, os, hrun⟩ := hside.side
  obtain ⟨hsound, hbeside⟩ := beside_run h.sound hrun
  exact ⟨⟨hsound, hside.reserving h.reserving,
    fun p hp => (hside.immediate p hp).trans (h.immediate p hp)⟩, hbeside⟩

/-- **What a step of another thread leaves as it is.** -/
structure Aside (c : SupervisorConfig) (s t : CommandSystem) : Prop where
  orderly : Orderly c t
  beside : Beside s.supervisor t.supervisor
  outcome : ∀ o, s.recoveryOutcome = some o → t.recoveryOutcome = some o
  started : t.recoveryStarted = s.recoveryStarted

theorem Aside.refl (h : Orderly c s) : Aside c s s := ⟨h, .refl _, fun _ ho => ho, rfl⟩

theorem Orderly.aside (h : Orderly c s) (hside : Sideways c s t) : Aside c s t := by
  obtain ⟨horderly, hbeside⟩ := h.sideways hside
  refine ⟨horderly, hbeside, fun o ho => ?_, hside.started⟩
  rw [hside.outcome, ho]

theorem Orderly.withRecovery (h : Orderly c s) (outcome : Option RecoveryOutcome) :
    Aside c s (s.withRecovery outcome) := by
  refine ⟨⟨h.sound, h.reserving, h.immediate⟩, .refl _, fun o ho => ?_, rfl⟩
  show (s.recoveryOutcome <|> outcome) = some o
  rw [ho]
  rfl

theorem Orderly.otherStep (h : Orderly c s) (i : OtherStep) :
    Aside c s (s.otherStep c profile i).1 := by
  cases i with
  | callback thread step => exact h.aside (sideways_callbackStep h.reserving thread step)
  | requestAbort reason site =>
    exact h.aside (sideways_supervised (requestAbort_moves reason site)
      (side_requestAbort reason site))
  | applyAbort => exact h.aside (sideways_supervised applyOutputAbort_moves side_applyOutputAbort)
  | recordRecovery outcome => exact h.withRecovery _
  | put item => exact ⟨⟨h.sound, h.reserving, h.immediate⟩, .refl _, fun _ ho => ho, rfl⟩

end CommandSystem

namespace ExecutionOwner

variable {c : OwnerSetup} {w : OwnerWorld} {P : Acting CommandSystem OwnerNote → Prop} {α β : Type}

theorem orderly_started (c : OwnerSetup) : (started c).Orderly c.config where
  sound := sound_created c.config
  reserving _ _ h := by cases h
  immediate _ _ := rfl

/-! ## 5. What lasts -/

/-- A question, or a turn of the others. -/
def Question : OwnerNote → Prop
  | .turn => True
  | .clock _ _ => True
  | .handled _ _ => True
  | .permission _ => True
  | _ => False

/-- **What other threads, questions and the start of the deadline leave as it is.** -/
structure Lasting (c : OwnerSetup) (P : Acting CommandSystem OwnerNote → Prop) : Prop where
  other : ∀ r i, P r → P ⟨(r.state.otherStep c.config c.profile i).1,
    r.log ++ (r.state.otherStep c.config c.profile i).2⟩
  question : ∀ r n, Question n → P r → P ⟨r.state, r.log ++ [n]⟩
  timing : ∀ r start deadline, P r →
    P ⟨{ r.state with missionStart := start, deadline := deadline }, r.log⟩

theorem returns_current {f : CommandSystem → Owning β} (h : ∀ s, Returns P (f s)) :
    Returns P (current >>= f) := fun r hr => by
  rw [wp_bind, wp_current]
  exact h r.state r hr

theorem keeps_current {f : CommandSystem → Owning β} (h : ∀ s, Keeps P (f s)) :
    Keeps P (current >>= f) := fun r hr => by
  rw [wp_bind, wp_current]
  exact h r.state r hr

theorem keeps_raise (error : OwnerRaised) : Keeps P (raise error : Owning α) := .throw _

namespace Lasting

theorem takeTurns (hP : Lasting c P) (is : List OtherStep) : Returns P (takeTurns c is) := by
  induction is with
  | nil => exact .pure ()
  | cons i is ih => exact .bind (.modify fun r hr => hP.other r i hr) fun _ => ih

/-- **A turn of the others.** -/
theorem turn (hP : Lasting c P) : Returns P (turn c w) := by
  intro r hr
  unfold ExecutionOwner.turn
  rw [wp_bind, wp_get, wp_bind, wp_perform]
  exact hP.takeTurns _ _ (hP.question r .turn trivial hr)

/-- **A question.** -/
theorem ask (hP : Lasting c P) {answer : ℕ → Except OwnerRaised α}
    {note : Except OwnerRaised α → OwnerNote}
    (hnote : ∀ r a, P r → P ⟨r.state, r.log ++ [note a]⟩) : Keeps P (ask c w answer note) := by
  refine .bind hP.turn.keeps fun _ r hr => ?_
  rw [wp_bind, wp_get, wp_bind, wp_perform]
  exact Keeps.ofExcept _ _ (hnote r _ hr)

theorem supervise (hP : Lasting c P) {x : Op α}
    (hx : ∀ r, P r → P ⟨r.state.supervised x, r.log⟩) : Returns P (supervise c w x) :=
  .bind hP.turn fun _ => returns_current fun _ => .bind (.modify hx) fun _ => .pure _

variable {r : Acting CommandSystem OwnerNote}

/-- **A section of the supervisor, and how it ends.** -/
theorem supervise_spec (hP : Lasting c P) (hr : P r) {x : Op α}
    {Q : Except SupervisorError α → Acting CommandSystem OwnerNote → Prop}
    (hx : ∀ t, P t → Q (call x t.state.supervisor).1 ⟨t.state.supervised x, t.log⟩) :
    wp (ExecutionOwner.supervise c w x) Q (fun _ _ => False) r := by
  unfold ExecutionOwner.supervise
  rw [wp_bind]
  refine (hP.turn r hr).mono (fun _ t ht => ?_) fun _ _ hfalse => hfalse
  rw [wp_bind, wp_current, wp_bind, wp_update]
  exact hx t ht

theorem applied (hP : Lasting c P) (r : Acting CommandSystem OwnerNote) (hr : P r) :
    P ⟨r.state.supervised applyOutputAbort, r.log⟩ := by
  have h := hP.other r .applyAbort hr
  change P ⟨_, r.log ++ []⟩ at h
  rwa [List.append_nil] at h

theorem requested (hP : Lasting c P) (reason : String) (site : AbortSite)
    (r : Acting CommandSystem OwnerNote) (hr : P r) :
    P ⟨r.state.supervised (MissionSupervisor.requestAbort reason site), r.log⟩ := by
  have h := hP.other r (.requestAbort reason site) hr
  change P ⟨_, r.log ++ []⟩ at h
  rwa [List.append_nil] at h

theorem requestAbort (hP : Lasting c P) (reason : String) : Returns P (requestAbort c w reason) := by
  intro r hr
  unfold ExecutionOwner.requestAbort
  rw [wp_bind, wp_get]
  exact Returns.bind (hP.supervise (hP.requested reason _)) (fun _ => .pure ()) r hr

theorem aborting (hP : Lasting c P) : Returns P (aborting c w) :=
  .bind (hP.supervise hP.applied) fun _ => returns_current fun _ => .pure _

theorem terminalResult (hP : Lasting c P) (hr : P r) :
    wp (terminalResult c w) (fun result t => P t ∧ result = t.state.supervisor.terminalResult)
      (fun _ _ => False) r := by
  unfold ExecutionOwner.terminalResult
  rw [wp_bind]
  refine (hP.supervise hP.applied r hr).mono (fun _ t ht => ?_) fun _ _ hfalse => hfalse
  rw [wp_bind, wp_current]
  exact ⟨ht, rfl⟩

theorem recoveryOutcome (hP : Lasting c P) (hr : P r) :
    wp (recoveryOutcome c w) (fun o t => P t ∧ o = t.state.recoveryOutcome)
      (fun _ _ => False) r := by
  unfold ExecutionOwner.recoveryOutcome
  rw [wp_bind]
  refine (hP.turn r hr).mono (fun _ t ht => ?_) fun _ _ hfalse => hfalse
  rw [wp_bind, wp_current]
  exact ⟨ht, rfl⟩

theorem now (hP : Lasting c P) (place : ClockPlace) : Keeps P (now c w place) := by
  refine .bind (hP.ask fun r a => hP.question r _ trivial) fun value => ?_
  cases value with
  | some value => exact .pure value
  | none => exact keeps_raise _

theorem expired (hP : Lasting c P) (place : ClockPlace) : Keeps P (expired c w place) := by
  refine keeps_current fun s => ?_
  cases s.deadline with
  | none => exact .pure false
  | some deadline => exact .bind (hP.now place) fun _ => .pure _

theorem interrupted (hP : Lasting c P) (place : ClockPlace) : Keeps P (interrupted c w place) := by
  refine .bind hP.aborting.keeps fun abort => .ite (.pure true) (.bind (hP.expired place) fun late => ?_)
  exact .ite (.bind (hP.requestAbort _).keeps fun _ => .pure true) (.pure false)

theorem requireBeforeDeadline (hP : Lasting c P) : Keeps P (requireBeforeDeadline c w) :=
  .bind (hP.expired _) fun _ =>
    .ite (.bind (hP.requestAbort _).keeps fun _ => keeps_raise _) (.pure ())

theorem startAttempt (hP : Lasting c P) (e : CommandEnvelope) : Keeps P (startAttempt c w e) :=
  keeps_current fun _ => .ite
    (.bind (hP.now _) fun _ => .modify fun r hr => hP.timing r _ _ hr) (.pure ())

end Lasting

end ExecutionOwner

end DroneSim
