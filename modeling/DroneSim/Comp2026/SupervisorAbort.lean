/-
  File:      DroneSim/Comp2026/SupervisorAbort.lean
  Subject:   The abort command between the calls of other threads.

  `admit` of the abort command takes the state lock, the output gate and the state lock again, and
  other threads run between. `step` is one section of one thread: any number of threads admit the
  abort command, request aborts, begin and finish commands, and put out under the gate.

  * `accepted_abort_effective` -- an abort that was accepted takes effect, in every interleaving
    in which the last phase does not succeed between the reservation and the latch;
  * `abort_accepted_too_late` -- one in which it does, and the accepted abort changes nothing.
-/
import DroneSim.Comp2026.SupervisorOrder

namespace DroneSim

open Library Library.Attempt Library.Acting QgcCommand MissionSupervisor

/-! ## 1. Threads -/

/-- Where a thread is in `admit` of the abort command. -/
inductive AbortStage where
  | reserved (envelope : CommandEnvelope)
  | latched (envelope : CommandEnvelope)

/-- The recovery deadline of the thread that puts out, and whether it has expired. -/
inductive OutputDeadline where
  | absent
  | live
  | expired
  deriving DecidableEq, Repr

/-- The supervisor, where each thread is, and the thread in the output gate with the number of
    outputs it is in. -/
structure SupervisorThreads where
  supervisor : MissionSupervisor
  stage : ℕ → Option AbortStage
  output : Option (ℕ × ℕ)

/-- What a section notes; an output is noted when its operation begins. -/
inductive ThreadNote where
  | supervisor (note : SupervisorNote)
  | outputRan (thread : ℕ) (deadline : OutputDeadline)
  deriving DecidableEq, Repr

/-- The sections. `applyAbort` is the second half of `request_abort`, and what every reader of
    the attempt's state does first. -/
inductive ThreadStep where
  | reserve (thread : ℕ) (envelope : CommandEnvelope) (check : CheckAnswer)
  | latch (thread : ℕ)
  | interrupt (thread : ℕ)
  | accept (thread : ℕ)
  | admitEnvelope (envelope : CommandEnvelope) (check consumer : CheckAnswer)
  | begin (command : ℤ)
  | finish (command : ℤ) (result : String)
  | requestAbort (thread : ℕ) (reason : String)
  | applyAbort
  | enterOutput (thread : ℕ) (deadline : OutputDeadline)
  | exitOutput (thread : ℕ)

namespace SupervisorThreads

variable (c : SupervisorConfig) (th : SupervisorThreads) (thread : ℕ) (envelope : CommandEnvelope)

/-- No thread is in a call. -/
def started : SupervisorThreads := ⟨created c, fun _ => none, none⟩

/-- The thread gets the output gate, which lets its holder in again. -/
def gateOpen : Bool :=
  match th.output with
  | none => true
  | some (holder, _) => holder = thread

/-- The thread at another stage. -/
def withStage (stage : Option AbortStage) : SupervisorThreads :=
  { th with stage := Function.update th.stage thread stage }

/-- One more output of the thread. -/
def withOutput : SupervisorThreads :=
  { th with output := some (thread, (th.output.elim 0 Prod.snd) + 1) }

/-- The output gate after the thread's last output is over. -/
def leaveOutput : Option (ℕ × ℕ) :=
  match th.output with
  | some (holder, depth + 2) => if holder = thread then some (holder, depth + 1) else th.output
  | some (holder, _) => if holder = thread then none else th.output
  | none => none

/-- A sectionOfs notes among the threads'. -/
def noted (notes : List SupervisorNote) : List ThreadNote := notes.map .supervisor

/-- A section that changes nothing but the supervisor. -/
def sectionOf {α : Type} (x : Op α) (th : SupervisorThreads) :
    SupervisorThreads × List ThreadNote :=
  ({ th with supervisor := (call x th.supervisor).2.1 }, noted (call x th.supervisor).2.2)

/-- `admit` of the abort command up to its first release of the lock. -/
def reservation (check : CheckAnswer) : Op Bool := do
  ofExcept (validateEnvelope c envelope)
  ofExcept (checkAdmission check)
  reserveAbort envelope

/-- Whether the thread has a reservation to go on with. -/
def goesOn : Except SupervisorError Bool → Bool
  | .ok reserved => reserved
  | .error _ => false

/-- **One section of one thread**; it is refused where the thread is not at it. -/
def step : ThreadStep → Except String (SupervisorThreads × List ThreadNote)
  | .reserve thread envelope check =>
    if envelope.command = abortAndRecover ∧ (th.stage thread).isNone then
      let r := call (reservation c envelope check) th.supervisor
      .ok ({ th with
        supervisor := r.2.1
        stage := if goesOn r.1 then Function.update th.stage thread (some (.reserved envelope))
          else th.stage }, noted r.2.2)
    else .error "another command, or in a call"
  | .latch thread =>
    match th.stage thread with
    | some (.reserved envelope) =>
      if th.gateOpen thread then
        .ok (sectionOf latchAbort (th.withStage thread (some (.latched envelope))))
      else .error "the output gate is held"
    | _ => .error "nothing reserved"
  | .interrupt thread =>
    match th.stage thread with
    | some (.reserved envelope) => .ok (sectionOf (abandonAbort envelope) (th.withStage thread none))
    | _ => .error "nothing reserved"
  | .accept thread =>
    match th.stage thread with
    | some (.latched envelope) => .ok (sectionOf (acceptAbort envelope) (th.withStage thread none))
    | _ => .error "nothing latched"
  | .admitEnvelope envelope check consumer =>
    if envelope.command = abortAndRecover then .error "the abort command"
    else .ok (sectionOf (admitCommand c envelope check consumer) th)
  | .begin command => .ok (sectionOf (MissionSupervisor.begin command) th)
  | .finish command result => .ok (sectionOf (MissionSupervisor.finish c command result) th)
  | .requestAbort thread reason =>
    if th.gateOpen thread then .ok (sectionOf (latchRequest reason) th)
    else .error "the output gate is held"
  | .applyAbort => .ok (sectionOf applyOutputAbort th)
  | .enterOutput thread deadline =>
    if th.gateOpen thread then
      -- an aborted attempt puts out within a recovery only, a recovery until its deadline
      if th.supervisor.outputAbortReason.isSome ∧ deadline = .absent then .ok (th, [])
      else if deadline = .expired then .ok (th, [])
      else .ok (th.withOutput thread, [.outputRan thread deadline])
    else .error "the output gate is held"
  | .exitOutput thread => .ok ({ th with output := th.leaveOutput thread }, [])

/-! ## 2. What a section does -/

variable {c : SupervisorConfig} {scope : MoveScope} {s t : MissionSupervisor}
  {th u : SupervisorThreads} {notes : List SupervisorNote} {log : List ThreadNote}
  {r : Acting MissionSupervisor SupervisorNote} {i : ThreadStep}

/-- **The turns of the threads.** -/
inductive Turn (c : SupervisorConfig) (th : SupervisorThreads) :
    ThreadStep → List ThreadNote → SupervisorThreads → Prop where
  | plain {i : ThreadStep} {s : MissionSupervisor} {notes : List SupervisorNote}
    (hmoves : Moved (Move c .plain) th.supervisor ⟨s, notes⟩) :
    Turn c th i (noted notes) { th with supervisor := s }
  | finished (command : ℤ) (result : String) :
    Turn c th (.finish command result)
      (sectionOf (MissionSupervisor.finish c command result) th).2
      (sectionOf (MissionSupervisor.finish c command result) th).1
  | reserved {i : ThreadStep} {s : MissionSupervisor} {notes : List SupervisorNote} (thread : ℕ)
    (envelope : CommandEnvelope)
    (hmoves : Moved (Move c .plain) th.supervisor ⟨s, notes⟩)
    (hcommand : envelope.command = abortAndRecover)
    (hnew : s.immediateResults.get abortAndRecover = none) (hopen : s.attemptTerminal = false) :
    Turn c th i (noted (notes ++ [SupervisorNote.abortReserved]))
      { th with
        supervisor := { s with
          immediateResults := s.immediateResults.set abortAndRecover .inProgress
          envelopes := s.envelopes.set abortAndRecover envelope }
        stage := Function.update th.stage thread (some (.reserved envelope)) }
  | latched {i : ThreadStep} {thread envelope} (hstage : th.stage thread = some (.reserved envelope)) :
    Turn c th i []
      { th.withStage thread (some (.latched envelope)) with
        supervisor := withReason "QGC abort command" th.supervisor }
  | interrupted {i : ThreadStep} {thread envelope} (hstage : th.stage thread = some (.reserved envelope)) :
    Turn c th i (sectionOf (abandonAbort envelope) (th.withStage thread none)).2
      (sectionOf (abandonAbort envelope) (th.withStage thread none)).1
  | accepted {i : ThreadStep} {s : MissionSupervisor} {notes : List SupervisorNote} {thread envelope}
    (hstage : th.stage thread = some (.latched envelope))
    (hmoves : Moved (Move c .plain) th.supervisor ⟨s, notes⟩) (hsettled : Settled s) :
    Turn c th i (noted (notes ++ [SupervisorNote.abortAccepted]))
      { th.withStage thread none with
        supervisor := { s with
          immediateResults := s.immediateResults.set envelope.command .accepted } }
  | outputRan {i : ThreadStep} (thread : ℕ) (deadline : OutputDeadline)
    (hpass : deadline = .absent → th.supervisor.outputAbortReason = none) :
    Turn c th i [.outputRan thread deadline] (th.withOutput thread)
  | outputLeft {i : ThreadStep} (output : Option (ℕ × ℕ)) :
    Turn c th i [] { th with output := output }

theorem Turn.of_moves {α : Type} {x : Op α} (h : Moves (Move c .plain) x) :
    Turn c th i (sectionOf x th).2 (sectionOf x th).1 := .plain (h.call th.supervisor)

theorem Turn.stutter : Turn c th i [] th := .outputLeft th.output

/-- What `reserveAbort` did, by what it returned. -/
theorem reservation_spec (check : CheckAnswer) (hcommand : envelope.command = abortAndRecover)
    (s : MissionSupervisor) : wp (reservation c envelope check)
      (fun reserved r => if reserved then
          ∃ (s' : MissionSupervisor) (notes : List SupervisorNote),
            Moved (Move c .plain) s ⟨s', notes⟩ ∧
            s'.immediateResults.get abortAndRecover = none ∧ s'.attemptTerminal = false ∧
            r = ⟨{ s' with
              immediateResults := s'.immediateResults.set abortAndRecover .inProgress
              envelopes := s'.envelopes.set abortAndRecover envelope }, notes ++ [SupervisorNote.abortReserved]⟩
        else Moved (Move c .plain) s r)
      (fun _ r => Moved (Move c .plain) s r) ⟨s, []⟩ := by
  unfold reservation
  rw [wp_bind, wp_ofExcept]
  refine ⟨fun _ _ => ?_, fun _ _ => .start⟩
  rw [wp_bind, wp_ofExcept]
  refine ⟨fun _ _ => ?_, fun _ _ => .start⟩
  unfold reserveAbort
  rw [wp_bind]
  have happly := applyOutputAbort_spec (.start : Moved (Move c .plain) s ⟨s, []⟩)
  refine happly.mono (fun _ r hr => ?_) fun _ _ hfalse => hfalse.elim
  rw [wp_bind, wp_current]
  split
  · exact hr.1
  · rename_i hnew
    split
    · exact hr.1
    · rename_i hactive
      rw [not_or] at hactive
      rw [hcommand] at hnew ⊢
      exact ⟨r.state, r.log, hr.1, by simpa using hnew, by simpa using hactive.2, rfl⟩

theorem acceptAbort_spec (s : MissionSupervisor) : wp (acceptAbort envelope)
      (fun _ r => ∃ (s' : MissionSupervisor) (notes : List SupervisorNote),
        Moved (Move c .plain) s ⟨s', notes⟩ ∧ Settled s' ∧
        r = ⟨{ s' with
          immediateResults := s'.immediateResults.set envelope.command .accepted },
          notes ++ [SupervisorNote.abortAccepted]⟩)
      (fun _ _ => False) ⟨s, []⟩ := by
  unfold acceptAbort
  rw [wp_bind]
  have happly := applyOutputAbort_spec (.start : Moved (Move c .plain) s ⟨s, []⟩)
  refine happly.mono (fun _ r hr => ?_) fun _ _ hfalse => hfalse.elim
  exact ⟨r.state, r.log, hr.1, hr.2, rfl⟩

theorem call_abandonAbort (hheld : s.immediateResults.get envelope.command = some .inProgress) :
    (call (abandonAbort envelope) s).2.1 =
      { s with
        immediateResults := s.immediateResults.erase envelope.command
        envelopes := s.envelopes.erase envelope.command } := by
  refine call_state (P := fun r => r.state = _) ?_
  unfold abandonAbort
  rw [wp_bind, wp_current, if_pos hheld, wp_update]

/-- **Every section is a turn.** -/
theorem step_turn (h : step c th i = .ok (u, log)) : Turn c th i log u := by
  cases i with
  | reserve thread envelope check =>
    rw [step] at h
    split at h
    · rename_i hcond
      cases h
      have hspec := reservation_spec (c := c) envelope check hcond.1 th.supervisor
      unfold wp at hspec
      unfold Acting.call
      generalize (reservation c envelope check).exec ⟨th.supervisor, []⟩ = e at hspec ⊢
      rcases e with ⟨error | reserved, r⟩
      · exact .plain hspec
      · cases reserved with
        | false => exact .plain hspec
        | true =>
          obtain ⟨s', notes, hmoves, hnew, hopen, rfl⟩ := hspec
          exact .reserved thread envelope hmoves hcond.1 hnew hopen
    · cases h
  | latch thread =>
    rw [step] at h
    split at h
    · rename_i envelope hstage
      split at h
      · cases h
        exact .latched hstage
      · cases h
    · cases h
  | interrupt thread =>
    rw [step] at h
    split at h
    · rename_i envelope hstage
      cases h
      exact .interrupted hstage
    · cases h
  | accept thread =>
    rw [step] at h
    split at h
    · rename_i envelope hstage
      cases h
      have hspec := acceptAbort_spec (c := c) envelope th.supervisor
      show Turn c th _ (noted (call (acceptAbort envelope) th.supervisor).2.2)
        { th.withStage thread none with
          supervisor := (call (acceptAbort envelope) th.supervisor).2.1 }
      obtain ⟨s', notes, hmoves, hsettled, heq⟩ :=
        call_state (hspec.mono (fun _ _ hr => hr) fun _ _ hfalse => hfalse.elim)
      obtain ⟨hstate, hlog⟩ := Acting.mk.inj heq
      rw [hstate, hlog]
      exact .accepted hstage hmoves hsettled
    · cases h
  | admitEnvelope envelope check consumer =>
    rw [step] at h
    split at h
    · cases h
    · cases h
      exact .of_moves (admitCommand_moves envelope check consumer)
  | «begin» command =>
    cases h
    exact .of_moves (begin_moves command)
  | finish command result =>
    cases h
    exact .finished command result
  | requestAbort thread reason =>
    rw [step] at h
    split at h
    · cases h
      exact .of_moves (latchRequest_moves reason)
    · cases h
  | applyAbort =>
    cases h
    exact .of_moves applyOutputAbort_moves
  | enterOutput thread deadline =>
    rw [step] at h
    split at h
    · split at h
      · cases h
        exact .stutter
      · rename_i hpass
        split at h
        · cases h
          exact .stutter
        · cases h
          refine .outputRan thread deadline fun habsent => ?_
          by_contra hreason
          exact hpass ⟨Option.isSome_iff_ne_none.mpr hreason, habsent⟩
    · cases h
  | exitOutput thread =>
    cases h
    exact .outputLeft _

/-! ## 3. What the moves of a section carry over -/

theorem Move.carries (hscope : scope ≠ .all) (hmove : Move c scope s notes t) :
    t.immediateResults = s.immediateResults ∧
      (s.outputAbortReason ≠ none → t.outputAbortReason ≠ none) := by
  cases hmove with
  | latched reason =>
    unfold withReason
    split
    · exact ⟨rfl, fun _ => by simp⟩
    · exact ⟨rfl, id⟩
  | applied hreason hopen hfirst => exact ⟨by simp, by simp⟩
  | reserved envelope hall hnew hopen => exact absurd hall hscope
  | abandoned envelope hall hheld => exact absurd hall hscope
  | accepted envelope hall hsettled => exact absurd hall hscope
  | queued envelope hlater hnew hpass => exact ⟨rfl, id⟩
  | queuedFirst envelope hfirst hnew hpass => exact ⟨rfl, id⟩
  | began hqueued => exact ⟨rfl, id⟩
  | finished result hends hrunning hsettled => exact ⟨by simp, by simp⟩

/-- Only the end of a command wins the attempt. -/
theorem Move.plain_won (hmove : Move c .plain s notes t)
    (hwon : t.terminalResult = some .succeeded) : s.terminalResult = some .succeeded := by
  cases hmove with
  | latched reason =>
    unfold withReason at hwon
    split at hwon
    · exact hwon
    · exact hwon
  | applied hreason hopen hfirst =>
    rw [withAbort_terminalResult] at hwon
    cases hwon
  | reserved envelope hall hnew hopen => exact hwon
  | abandoned envelope hall hheld => exact hwon
  | accepted envelope hall hsettled => exact hwon
  | queued envelope hlater hnew hpass => exact hwon
  | queuedFirst envelope hfirst hnew hpass => exact hwon
  | began hqueued => exact hwon
  | finished result hends hrunning hsettled => exact absurd rfl hends

/-- What a section's moves leave of the abort and of the results. -/
structure Carried (c : SupervisorConfig) (s t : MissionSupervisor) : Prop where
  sound : Sound c t
  immediate : t.immediateResults = s.immediateResults
  reason : s.outputAbortReason ≠ none → t.outputAbortReason ≠ none
  results : ResultsStay s t

theorem Carried.terminal (h : Carried c s t) (hsound : Sound c s)
    (hterminal : s.attemptTerminal = true) : t.attemptTerminal = true := by
  rw [hsound.terminal, Option.isSome_iff_exists] at hterminal
  obtain ⟨r, hr⟩ := hterminal
  rw [h.sound.terminal, h.results.1 r hr]
  rfl

theorem carried_of_moved (hscope : scope ≠ .all) (h : Sound c s)
    (hmoves : Moved (Move c scope) s r) :
    Carried c s r.state := by
  obtain ⟨is, hrun⟩ := hmoves
  refine ⟨sound_run h hrun, ?_, ?_, resultsStay_run h hrun⟩
  · exact hrun.invariant (P := fun t => t.immediateResults = s.immediateResults) rfl
      fun _ _ _ _ hs hmove => (Move.carries hscope hmove).1.trans hs
  · exact fun hreason => hrun.invariant (P := fun t => t.outputAbortReason ≠ none) hreason
      fun _ _ _ _ hs hmove => (Move.carries hscope hmove).2 hs

theorem plain_won (hmoves : Moved (Move c .plain) s r)
    (hwon : r.state.terminalResult = some .succeeded) : s.terminalResult = some .succeeded := by
  obtain ⟨is, hrun⟩ := hmoves
  by_contra hlost
  exact hrun.invariant (P := fun t => t.terminalResult ≠ some .succeeded) hlost
    (fun _ _ _ _ hs hmove hwins => hs (Move.plain_won hmove hwins)) hwon

/-- In an attempt that is over, no phase finishes as a success. -/
theorem no_success (h : Sound c s) (hterminal : s.attemptTerminal = true)
    (hmoves : Moved (Move c scope) s r) {phase : ℤ} (hphase : phase ∈ phaseCommands) :
    .finished phase .succeeded ∉ r.log := by
  obtain ⟨is, hrun⟩ := hmoves
  have hkept : ∀ s i o t, Sound c s ∧ s.attemptTerminal = true → Free (Move c scope) s i o t →
      Sound c t ∧ t.attemptTerminal = true := by
    intro s i o t hs hmove
    refine ⟨hs.1.move hmove, ?_⟩
    obtain ⟨r, hr⟩ := Option.isSome_iff_exists.mp (hs.1.terminal ▸ hs.2)
    rw [(hs.1.move hmove).terminal, (Move.resultsStay hs.1 hmove).1 r hr]
    rfl
  have hnone := hrun.outputs (Q := fun note => note ≠ .finished phase .succeeded)
    ⟨h, hterminal⟩ hkept fun s i o t hs hmove note hnote heq => ?_
  · exact fun hmem => hnone _ hmem rfl
  · subst heq
    have hmove' : Move c scope s o t := hmove
    cases hmove' with
    | @finished command result hends hrunning hsettled =>
      injection List.mem_singleton.mp hnote with hcommand hresult
      subst hcommand
      -- a running phase of an attempt that is over was aborted
      have habort : s.abortReason.isSome = true := by
        rcases hs.1.flying _ hphase (Or.inr hrunning) with hopen | habort
        · have hover := hs.1.terminal
          rw [hs.2, hopen] at hover
          cases hover
        · exact habort
      unfold recordedResult at hresult
      rw [if_pos ⟨hphase, habort⟩] at hresult
      cases hresult
    | _ => simp at hnote

/-- A finished command that wins the attempt is the last phase, and it succeeded. -/
theorem withFinished_won (h : Sound c s) {command : ℤ} {result : TerminalResult}
    (hrunning : s.states.get command = some .running)
    (hlost : s.terminalResult ≠ some .succeeded)
    (hwon : (withFinished c command result s).terminalResult = some .succeeded) :
    result = .succeeded ∧ c.enabledPhases.getLast? = some command ∧ s.terminalResult = none := by
  by_cases hphase : command ∈ phaseCommands
  · rcases Option.eq_none_or_eq_some s.terminalResult with hopen | ⟨outcome, hsome⟩
    · obtain ⟨before, after, heq, -⟩ := h.phases
      obtain rfl := h.in_flight hphase (Or.inr hrunning)
      by_cases hsucceeded : result = .succeeded
      · subst hsucceeded
        cases after with
        | nil =>
          refine ⟨rfl, ?_, hopen⟩
          rw [heq]
          simp
        | cons next after =>
          rw [withFinished_next hphase hopen heq] at hwon
          exact absurd hwon hlost
      · rw [withFinished_lost hphase hopen hsucceeded] at hwon
        exact absurd (Option.some.inj hwon) hsucceeded
    · rw [withFinished_settled (by rw [hsome]; rfl)] at hwon
      exact absurd hwon hlost
  · rw [withFinished_other hphase] at hwon
    exact absurd hwon hlost

theorem ofText_succeeded {text : String} (h : TerminalResult.ofText text = some .succeeded) :
    text = "SUCCEEDED" := by
  unfold TerminalResult.ofText at h
  split at h
  · rename_i heq
    exact heq
  · split at h
    · cases h
    · split at h
      · cases h
      · cases h

/-- The call of `finish` takes the last phase to its success while no abort is latched. -/
def WinsUnlatched (c : SupervisorConfig) (s : MissionSupervisor) (command : ℤ) (text : String) :
    Prop :=
  text = "SUCCEEDED" ∧ c.enabledPhases.getLast? = some command ∧
    s.states.get command = some .running ∧ s.outputAbortReason = none

instance (command : ℤ) (text : String) : Decidable (WinsUnlatched c s command text) :=
  inferInstanceAs (Decidable (_ ∧ _ ∧ _ ∧ _))

/-- **What it takes to win the attempt** in one call of `finish`. -/
theorem finish_won (h : Sound c s) {command : ℤ} {text : String}
    (hlost : s.terminalResult ≠ some .succeeded) (hwins : ¬ WinsUnlatched c s command text) :
    (call (MissionSupervisor.finish c command text) s).2.1.terminalResult ≠ some .succeeded := by
  have hspec : wp (MissionSupervisor.finish c command text)
      (fun _ r => r.state.terminalResult ≠ some .succeeded)
      (fun _ r => r.state.terminalResult ≠ some .succeeded) ⟨s, []⟩ := by
    unfold MissionSupervisor.finish
    split
    · exact hlost
    · rename_i result hresult
      rw [wp_bind]
      by_cases hreason : s.outputAbortReason = none
      · unfold applyOutputAbort
        rw [wp_bind, wp_current]
        simp only [hreason, wp_pure, wp_bind, wp_current]
        split
        · rename_i hrunning
          intro hwon
          obtain ⟨hrecorded, hlast, hopen⟩ := withFinished_won h hrunning hlost hwon
          unfold recordedResult at hrecorded
          split at hrecorded
          · cases hrecorded
          · subst hrecorded
            exact hwins ⟨ofText_succeeded hresult, hlast, hrunning, hreason⟩
        · exact hlost
      · have happly := applyOutputAbort_spec (.start : Moved (Move c .plain) s ⟨s, []⟩)
        refine happly.mono (fun _ r hr => ?_) fun _ _ hfalse => hfalse.elim
        have hcarried := carried_of_moved (by decide) h hr.1
        have hlost' : r.state.terminalResult ≠ some .succeeded := fun hw => hlost (plain_won hr.1 hw)
        rw [wp_bind, wp_current]
        split
        · rename_i hrunning
          intro hwon
          obtain ⟨-, -, hopen⟩ := withFinished_won hcarried.sound hrunning hlost' hwon
          -- the latched abort was applied, so the attempt was over
          rcases hr.2 with hnone | hterminal | habort
          · exact hcarried.reason hreason hnone
          · rw [hcarried.sound.terminal, hopen] at hterminal
            cases hterminal
          · rw [hcarried.sound.aborted habort] at hopen
            cases hopen
        · exact hlost'
  exact call_state
    (P := fun r : Acting MissionSupervisor SupervisorNote =>
      r.state.terminalResult ≠ some .succeeded) hspec

/-! ## 4. The abort between its sections -/

/-- Nobody wins the attempt between the reservation of the abort and its latch. -/
def undisturbed (c : SupervisorConfig) (th : SupervisorThreads) : ThreadStep → Bool
  | .finish command text =>
    !(decide (th.supervisor.immediateResults.get abortAndRecover = some .inProgress) &&
      decide (WinsUnlatched c th.supervisor command text))
  | _ => true

theorem undisturbed_finish {command : ℤ} {text : String}
    (h : undisturbed c th (.finish command text) = true)
    (hreserved : th.supervisor.immediateResults.get abortAndRecover = some .inProgress) :
    ¬ WinsUnlatched c th.supervisor command text := by
  simpa [undisturbed, hreserved] using h

/-- **The invariant of the threads**: at most one is on its way through the abort's admission,
    and an attempt with an abort reserved or accepted is not won. -/
structure Watched (c : SupervisorConfig) (th : SupervisorThreads) : Prop where
  sound : Sound c th.supervisor
  reserved : ∀ thread envelope, th.stage thread = some (.reserved envelope) →
    envelope.command = abortAndRecover ∧
      th.supervisor.immediateResults.get abortAndRecover = some .inProgress
  latched : ∀ thread envelope, th.stage thread = some (.latched envelope) →
    envelope.command = abortAndRecover ∧
      th.supervisor.immediateResults.get abortAndRecover = some .inProgress ∧
      th.supervisor.outputAbortReason ≠ none
  alone : ∀ thread other, th.stage thread ≠ none → th.stage other ≠ none → thread = other
  accepted : th.supervisor.immediateResults.get abortAndRecover = some .accepted →
    th.supervisor.outputAbortReason ≠ none ∧ th.supervisor.attemptTerminal = true
  lost : th.supervisor.immediateResults.get abortAndRecover ≠ none →
    th.supervisor.terminalResult ≠ some .succeeded

namespace Watched

theorem started (c : SupervisorConfig) : Watched c (started c) where
  sound := sound_created c
  reserved thread envelope h := by cases h
  latched thread envelope h := by cases h
  alone thread other h := absurd rfl h
  accepted h := by cases h
  lost h := absurd rfl h

variable {thread : ℕ}

/-- A thread at a stage of the admission. -/
theorem in_progress (h : Watched c th) (hstage : th.stage thread ≠ none) :
    th.supervisor.immediateResults.get abortAndRecover = some .inProgress := by
  obtain ⟨stage, hsome⟩ := Option.ne_none_iff_exists'.mp hstage
  cases stage with
  | reserved envelope => exact (h.reserved thread envelope hsome).2
  | latched envelope => exact (h.latched thread envelope hsome).2.1

/-- The supervisor moved, no thread went on with the admission. -/
theorem carried (h : Watched c th) (hcarried : Carried c th.supervisor t)
    (hlost : th.supervisor.immediateResults.get abortAndRecover ≠ none →
      t.terminalResult ≠ some .succeeded) : Watched c { th with supervisor := t } where
  sound := hcarried.sound
  reserved thread envelope hstage := by
    rw [hcarried.immediate]
    exact h.reserved thread envelope hstage
  latched thread envelope hstage := by
    obtain ⟨hcommand, hprogress, hreason⟩ := h.latched thread envelope hstage
    rw [hcarried.immediate]
    exact ⟨hcommand, hprogress, hcarried.reason hreason⟩
  alone := h.alone
  accepted haccepted := by
    have haccepted' : t.immediateResults.get abortAndRecover = some .accepted := haccepted
    rw [hcarried.immediate] at haccepted'
    obtain ⟨hreason, hterminal⟩ := h.accepted haccepted'
    exact ⟨hcarried.reason hreason, hcarried.terminal h.sound hterminal⟩
  lost hheld := by
    have hheld' : t.immediateResults.get abortAndRecover ≠ none := hheld
    rw [hcarried.immediate] at hheld'
    exact hlost hheld'

/-- The stage of a thread that was set is that thread's. -/
theorem update_stage {thread other : ℕ} {stage : Option AbortStage} {at' : Option AbortStage}
    {stages : ℕ → Option AbortStage} (h : Function.update stages thread stage other = at') :
    other = thread ∧ stage = at' ∨ other ≠ thread ∧ stages other = at' := by
  by_cases heq : other = thread
  · subst heq
    rw [Function.update_self] at h
    exact Or.inl ⟨rfl, h⟩
  · rw [Function.update_of_ne heq] at h
    exact Or.inr ⟨heq, h⟩

/-- A thread that is alone leaves the admission, and nobody is in it. -/
theorem left (h : Watched c th) (hstage : th.stage thread ≠ none) (other : ℕ) :
    Function.update th.stage thread none other = none := by
  by_cases heq : other = thread
  · subst heq
    exact Function.update_self ..
  · rw [Function.update_of_ne heq]
    by_contra hother
    exact heq (h.alone other thread hother hstage)

theorem reserve (h : Watched c th) (thread : ℕ) (envelope : CommandEnvelope)
    (hcarried : Carried c th.supervisor s) (hcommand : envelope.command = abortAndRecover)
    (hnew : s.immediateResults.get abortAndRecover = none) (hopen : s.attemptTerminal = false) :
    Watched c { th with
      supervisor := { s with
        immediateResults := s.immediateResults.set abortAndRecover .inProgress
        envelopes := s.envelopes.set abortAndRecover envelope }
      stage := Function.update th.stage thread (some (.reserved envelope)) } := by
  have hnobody : ∀ other, th.stage other = none := by
    intro other
    by_contra hstage
    have hprogress := h.in_progress hstage
    rw [← hcarried.immediate, hnew] at hprogress
    cases hprogress
  have hprogress : (s.immediateResults.set abortAndRecover .inProgress).get abortAndRecover =
      some .inProgress := Dict.get_set_self _ _ _
  refine ⟨hcarried.sound.of_same rfl rfl rfl rfl rfl rfl rfl, ?_, ?_, ?_, ?_, ?_⟩
  · intro other e hstage
    rcases update_stage hstage with ⟨-, heq⟩ | ⟨-, heq⟩
    · cases heq
      exact ⟨hcommand, hprogress⟩
    · rw [hnobody] at heq
      cases heq
  · intro other e hstage
    rcases update_stage hstage with ⟨-, heq⟩ | ⟨-, heq⟩
    · cases heq
    · rw [hnobody] at heq
      cases heq
  · intro one other hone hother
    have hself : ∀ t, Function.update th.stage thread (some (.reserved envelope)) t ≠ none →
        t = thread := by
      intro t ht
      by_contra hne
      exact ht ((Function.update_of_ne hne _ _).trans (hnobody t))
    rw [hself one hone, hself other hother]
  · intro haccepted
    cases hprogress.symm.trans haccepted
  · intro _ hwon
    have hwon' : s.terminalResult = some .succeeded := hwon
    rw [hcarried.sound.not_won hopen] at hwon'
    cases hwon'

theorem latch (h : Watched c th) {envelope : CommandEnvelope}
    (hstage : th.stage thread = some (.reserved envelope)) (reason : String) :
    Watched c { th.withStage thread (some (.latched envelope)) with
      supervisor := withReason reason th.supervisor } := by
  have hmove : Moved (Move c .plain) th.supervisor ⟨withReason reason th.supervisor, []⟩ :=
    Moved.start.silent (.latched reason)
  have hcarried := carried_of_moved (by decide) h.sound hmove
  have hreason : (withReason reason th.supervisor).outputAbortReason ≠ none := by
    unfold withReason
    split
    · simp
    · rename_i hne
      exact hne
  have hbase := h.carried hcarried fun hheld hwon => h.lost hheld (plain_won hmove hwon)
  refine ⟨hbase.sound, ?_, ?_, ?_, hbase.accepted, hbase.lost⟩
  · intro other e hother
    rcases update_stage hother with ⟨-, heq⟩ | ⟨-, heq⟩
    · cases heq
    · exact hbase.reserved other e heq
  · intro other e hother
    rcases update_stage hother with ⟨-, heq⟩ | ⟨-, heq⟩
    · cases heq
      obtain ⟨hcommand, hprogress⟩ := hbase.reserved thread envelope hstage
      exact ⟨hcommand, hprogress, hreason⟩
    · exact hbase.latched other e heq
  · intro one other hone hother
    have hkept : ∀ t, Function.update th.stage thread (some (.latched envelope)) t ≠ none →
        th.stage t ≠ none := by
      intro t ht hnone
      by_cases heq : t = thread
      · rw [heq, hstage] at hnone
        cases hnone
      · exact ht ((Function.update_of_ne heq _ _).trans hnone)
    exact h.alone one other (hkept one hone) (hkept other hother)

theorem interrupt (h : Watched c th) {envelope : CommandEnvelope}
    (hstage : th.stage thread = some (.reserved envelope)) :
    Watched c (sectionOf (abandonAbort envelope) (th.withStage thread none)).1 := by
  obtain ⟨hcommand, hprogress⟩ := h.reserved thread envelope hstage
  have hnobody := h.left (by rw [hstage]; simp : th.stage thread ≠ none)
  have hcall := call_abandonAbort (s := th.supervisor) envelope (by rw [hcommand]; exact hprogress)
  have hnone : (th.supervisor.immediateResults.erase envelope.command).get abortAndRecover =
      none := by
    rw [hcommand]
    exact Dict.get_erase_self _ _
  show Watched c { th.withStage thread none with
    supervisor := (call (abandonAbort envelope) th.supervisor).2.1 }
  rw [hcall]
  refine ⟨h.sound.of_same rfl rfl rfl rfl rfl rfl rfl, ?_, ?_, ?_, ?_, ?_⟩
  · intro other e hother
    cases (hnobody other).symm.trans hother
  · intro other e hother
    cases (hnobody other).symm.trans hother
  · exact fun one other hone => absurd (hnobody one) hone
  · intro haccepted
    cases hnone.symm.trans haccepted
  · exact fun hheld => absurd hnone hheld

theorem accept (h : Watched c th) {envelope : CommandEnvelope}
    (hstage : th.stage thread = some (.latched envelope)) (hcarried : Carried c th.supervisor s)
    (hsettled : Settled s) (hlost : s.terminalResult ≠ some .succeeded) :
    Watched c { th.withStage thread none with
      supervisor := { s with
        immediateResults := s.immediateResults.set envelope.command .accepted } } := by
  obtain ⟨hcommand, -, hreason⟩ := h.latched thread envelope hstage
  have hnobody := h.left (by rw [hstage]; simp : th.stage thread ≠ none)
  have hterminal : s.attemptTerminal = true := by
    rcases hsettled with hnone | hterminal | habort
    · exact absurd hnone (hcarried.reason hreason)
    · exact hterminal
    · rw [hcarried.sound.terminal, hcarried.sound.aborted habort]
      rfl
  refine ⟨hcarried.sound.of_same rfl rfl rfl rfl rfl rfl rfl, ?_, ?_, ?_, ?_, ?_⟩
  · intro other e hother
    cases (hnobody other).symm.trans hother
  · intro other e hother
    cases (hnobody other).symm.trans hother
  · exact fun one other hone => absurd (hnobody one) hone
  · exact fun _ => ⟨hcarried.reason hreason, hterminal⟩
  · exact fun _ => hlost

/-- **Every section keeps it** where nobody wins the attempt under a reserved abort. -/
theorem stepped (h : Watched c th) (hstep : step c th i = .ok (u, log))
    (hquiet : undisturbed c th i = true) : Watched c u := by
  cases step_turn hstep with
  | plain hmoves =>
    exact h.carried (carried_of_moved (by decide) h.sound hmoves) fun hheld hwon =>
      h.lost hheld (plain_won hmoves hwon)
  | finished command result =>
    have hmoves := (@finish_moves c .finish (by decide) command result).call th.supervisor
    refine h.carried (carried_of_moved (by decide) h.sound hmoves) fun hheld =>
      finish_won h.sound (h.lost hheld) fun hwins => ?_
    -- an abort that is latched was applied first; one that is only reserved is left undisturbed
    rcases Option.ne_none_iff_exists'.mp hheld with ⟨immediate, hsome⟩
    cases immediate with
    | inProgress => exact undisturbed_finish hquiet hsome hwins
    | accepted => exact (h.accepted hsome).1 hwins.2.2.2
  | reserved thread envelope hmoves hcommand hnew hopen =>
    exact h.reserve thread envelope (carried_of_moved (by decide) h.sound hmoves) hcommand hnew hopen
  | latched hstage => exact h.latch hstage _
  | interrupted hstage => exact h.interrupt hstage
  | @accepted _ s notes thread envelope hstage hmoves hsettled =>
    obtain ⟨-, hprogress, -⟩ := h.latched thread envelope hstage
    exact h.accept hstage (carried_of_moved (by decide) h.sound hmoves) hsettled fun hwon =>
      h.lost (by rw [hprogress]; simp) (plain_won hmoves hwon)
  | outputRan thread deadline hpass => exact ⟨h.sound, h.reserved, h.latched, h.alone, h.accepted, h.lost⟩
  | outputLeft output => exact ⟨h.sound, h.reserved, h.latched, h.alone, h.accepted, h.lost⟩

end Watched

/-! ## 5. After the acceptance -/

/-- The abort was accepted and has taken effect. -/
structure Effective (c : SupervisorConfig) (th : SupervisorThreads) : Prop where
  watched : Watched c th
  accepted : th.supervisor.immediateResults.get abortAndRecover = some .accepted

namespace Effective

theorem nobody (h : Effective c th) (thread : ℕ) : th.stage thread = none := by
  by_contra hstage
  cases (h.watched.in_progress hstage).symm.trans h.accepted

/-- The abort stays accepted, whatever a thread does. -/
theorem stepped (h : Effective c th) (hstep : step c th i = .ok (u, log)) : Effective c u := by
  have hquiet : undisturbed c th i = true := by
    cases i with
    | finish command result => simp [undisturbed, h.accepted]
    | _ => rfl
  have hwatched := h.watched.stepped hstep hquiet
  refine ⟨hwatched, ?_⟩
  have hkept : ∀ {scope : MoveScope} {r : Acting MissionSupervisor SupervisorNote}, scope ≠ .all →
      Moved (Move c scope) th.supervisor r →
      r.state.immediateResults.get abortAndRecover = some .accepted := by
    intro scope r hscope hmoves
    rw [(carried_of_moved hscope h.watched.sound hmoves).immediate]
    exact h.accepted
  cases step_turn hstep with
  | plain hmoves => exact hkept (by decide) hmoves
  | finished command result =>
    exact hkept (by decide)
      ((@finish_moves c .finish (by decide) command result).call th.supervisor)
  | reserved thread envelope hmoves hcommand hnew hopen =>
    cases hnew.symm.trans (hkept (by decide) hmoves)
  | latched hstage => cases (h.nobody _).symm.trans hstage
  | interrupted hstage => cases (h.nobody _).symm.trans hstage
  | accepted hstage hmoves hsettled => cases (h.nobody _).symm.trans hstage
  | outputRan thread deadline hpass => exact h.accepted
  | outputLeft output => exact h.accepted

/-- No phase succeeds, and no ordinary output runs. -/
theorem silent (h : Effective c th) (hstep : step c th i = .ok (u, log)) :
    (∀ phase ∈ phaseCommands, ThreadNote.supervisor (.finished phase .succeeded) ∉ log) ∧
      ∀ thread, .outputRan thread .absent ∉ log := by
  obtain ⟨hreason, hterminal⟩ := h.watched.accepted h.accepted
  have hquiet : ∀ {scope : MoveScope} {r : Acting MissionSupervisor SupervisorNote},
      Moved (Move c scope) th.supervisor r →
      (∀ phase ∈ phaseCommands, ThreadNote.supervisor (.finished phase .succeeded) ∉ noted r.log) ∧
        ∀ thread, .outputRan thread .absent ∉ noted r.log := by
    intro scope r hmoves
    refine ⟨fun phase hphase hmem => ?_, fun thread hmem => ?_⟩
    · obtain ⟨note, hnote, heq⟩ := List.mem_map.mp hmem
      cases heq
      exact no_success h.watched.sound hterminal hmoves hphase hnote
    · obtain ⟨note, -, heq⟩ := List.mem_map.mp hmem
      cases heq
  cases step_turn hstep with
  | plain hmoves => exact hquiet hmoves
  | finished command result =>
    exact hquiet ((@finish_moves c .finish (by decide) command result).call th.supervisor)
  | reserved thread envelope hmoves hcommand hnew hopen =>
    have hkept := (carried_of_moved (by decide) h.watched.sound hmoves).immediate
    rw [hkept] at hnew
    cases hnew.symm.trans h.accepted
  | latched hstage => cases (h.nobody _).symm.trans hstage
  | interrupted hstage => cases (h.nobody _).symm.trans hstage
  | accepted hstage hmoves hsettled => cases (h.nobody _).symm.trans hstage
  | outputRan thread deadline hpass =>
    refine ⟨fun phase _ => by simp, fun other hmem => ?_⟩
    cases List.mem_singleton.mp hmem
    exact hreason (hpass rfl)
  | outputLeft output => exact ⟨fun phase _ => by simp, fun thread => by simp⟩

end Effective

theorem admissionResult_accepted (h : s.admissionResult abortAndRecover = some .accepted) :
    s.immediateResults.get abortAndRecover = some .accepted := by
  unfold admissionResult at h
  split at h
  · cases h
  · rename_i haccepted
    exact haccepted
  · split at h
    · cases h
    · cases h
    · obtain ⟨r, -, hr⟩ := Option.map_eq_some_iff.mp h
      cases hr
    · cases h

/-- **An accepted abort takes effect**, in every interleaving in which the last phase does not
    succeed while the abort is reserved and not yet latched: the attempt is not won, and from then
    on no phase succeeds and no output runs outside a recovery. -/
theorem accepted_abort_effective {is : List ThreadStep} {os : List ThreadNote}
    (hrun : Run (Meeting (Steps (step c)) fun s i => undisturbed c s i = true) (started c) is os
      th)
    (haccepted : th.supervisor.admissionResult abortAndRecover = some .accepted) :
    th.supervisor.terminalResult ≠ some .succeeded ∧
      ∀ js ps u, Run (Steps (step c)) th js ps u →
        u.supervisor.terminalResult ≠ some .succeeded ∧
        (∀ phase ∈ phaseCommands, ThreadNote.supervisor (.finished phase .succeeded) ∉ ps) ∧
        ∀ thread, .outputRan thread .absent ∉ ps := by
  have hwatched : Watched c th := hrun.invariant (.started c)
    fun _ _ _ _ hs hstep => hs.stepped hstep.1 hstep.2
  have heffective : Effective c th := ⟨hwatched, admissionResult_accepted haccepted⟩
  refine ⟨hwatched.lost (by rw [heffective.accepted]; simp), fun js ps u hlater => ?_⟩
  have hend : Effective c u := hlater.invariant heffective fun _ _ _ _ hs hstep => hs.stepped hstep
  refine ⟨hend.watched.lost (by rw [hend.accepted]; simp), fun phase hphase hmem => ?_,
    fun thread hmem => ?_⟩
  · exact hlater.outputs (Q := fun note => note ≠ .supervisor (.finished phase .succeeded))
      heffective (fun _ _ _ _ hs hstep => hs.stepped hstep)
      (fun _ _ _ _ hs hstep note hnote heq => (hs.silent hstep).1 phase hphase (heq ▸ hnote))
      _ hmem rfl
  · exact hlater.outputs (Q := fun note => note ≠ .outputRan thread .absent)
      heffective (fun _ _ _ _ hs hstep => hs.stepped hstep)
      (fun _ _ _ _ hs hstep note hnote heq => (hs.silent hstep).2 thread (heq ▸ hnote))
      _ hmem rfl

/-- The sections of a phase up to its beginning. -/
def beginPhase (command : ℤ) : List ThreadStep :=
  [.admitEnvelope (requestOf command) .nothing .nothing, .begin command]

/-- The first phase flown, the second under way, and the abort reserved. -/
def abortReserved : List ThreadStep :=
  beginPhase fm1 ++ ThreadStep.finish fm1 "SUCCEEDED" :: beginPhase fm2 ++
    [ThreadStep.reserve 1 (requestOf abortAndRecover) .nothing]

/-- The last phase ends after the latch: the abort takes effect. -/
theorem accepted_abort_effective_latched : ∃ th : SupervisorThreads,
    th.supervisor.admissionResult abortAndRecover = some .accepted ∧
      th.supervisor.terminalResult ≠ some .succeeded := by
  obtain ⟨th, os, hrun, haccepted⟩ := exists_run
    (f := step twoPhases) (C := undisturbed twoPhases) (s := started twoPhases)
    (l := abortReserved ++ [ThreadStep.latch 1, .finish fm2 "SUCCEEDED", .accept 1])
    (p := fun th _ => decide (th.supervisor.admissionResult abortAndRecover = some .accepted))
    (by decide +kernel)
  exact ⟨th, of_decide_eq_true haccepted,
    (accepted_abort_effective hrun (of_decide_eq_true haccepted)).1⟩

/-- **An abort accepted too late**: the last phase succeeds after the abort was reserved and
    before it is latched; the abort is accepted, and the attempt is won. -/
theorem abort_accepted_too_late : ∃ (is : List ThreadStep) (os : List ThreadNote)
    (th : SupervisorThreads), Run (Steps (step twoPhases)) (started twoPhases) is os th ∧
      th.supervisor.admissionResult abortAndRecover = some .accepted ∧
      th.supervisor.terminalResult = some .succeeded := by
  obtain ⟨th, os, hrun, hend⟩ := exists_run
    (f := step twoPhases) (C := fun _ _ => true) (s := started twoPhases)
    (l := abortReserved ++ [ThreadStep.finish fm2 "SUCCEEDED", .latch 1, .accept 1])
    (p := fun th _ => decide (th.supervisor.admissionResult abortAndRecover = some .accepted ∧
      th.supervisor.terminalResult = some .succeeded))
    (by decide +kernel)
  obtain ⟨haccepted, hwon⟩ := of_decide_eq_true hend
  exact ⟨_, os, th, hrun.of_meeting, haccepted, hwon⟩

end SupervisorThreads

end DroneSim
