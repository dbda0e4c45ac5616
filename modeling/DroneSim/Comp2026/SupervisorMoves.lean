/-
  File:      DroneSim/Comp2026/SupervisorMoves.lean
  Subject:   What a section of the mission supervisor can do, and the invariant of its state.

  `Move c s notes t` has one constructor for each thing a section does to the state, with the
  tests passed on the way to it; every call is a sequence of moves (`called_moves`). `Sound` is
  what holds of the phases, the results and the abort in every state the moves reach.
-/
import DroneSim.Comp2026.MissionSupervisor

namespace DroneSim

open Library Library.Attempt Library.Acting QgcCommand

namespace MissionSupervisor

/-! ## 1. Moves -/

/-- No abort waits to be applied. -/
def Settled (s : MissionSupervisor) : Prop :=
  s.outputAbortReason = none ∨ s.attemptTerminal = true ∨ s.abortReason.isSome = true

/-- Which moves a section may make: none of the commands' ends and nothing of the abort command's
    admission; the ends too; all. -/
inductive MoveScope where
  | plain
  | finish
  | all
  deriving DecidableEq

/-- **The moves.** -/
inductive Move (c : SupervisorConfig) (scope : MoveScope) :
    MissionSupervisor → List SupervisorNote → MissionSupervisor → Prop where
  | latched {s} (reason : String) : Move c scope s [] (withReason reason s)
  | applied {s reason} (hreason : s.outputAbortReason = some reason)
    (hopen : s.attemptTerminal = false) (hfirst : s.abortReason = none) :
    Move c scope s [.abortApplied] (withAbort reason s)
  | reserved {s} (envelope : CommandEnvelope) (hall : scope = .all)
    (hnew : s.immediateResults.get envelope.command = none) (hopen : s.attemptTerminal = false) :
    Move c scope s [.abortReserved]
      { s with
        immediateResults := s.immediateResults.set envelope.command .inProgress
        envelopes := s.envelopes.set envelope.command envelope }
  | abandoned {s} (envelope : CommandEnvelope) (hall : scope = .all)
    (hheld : s.immediateResults.get envelope.command = some .inProgress) :
    Move c scope s []
      { s with
        immediateResults := s.immediateResults.erase envelope.command
        envelopes := s.envelopes.erase envelope.command }
  | accepted {s} (envelope : CommandEnvelope) (hall : scope = .all) (hsettled : Settled s) :
    Move c scope s [.abortAccepted]
      { s with immediateResults := s.immediateResults.set envelope.command .accepted }
  | queued {s} (envelope : CommandEnvelope) (hlater : envelope.command ≠ fm1)
    (hnew : s.states.get envelope.command = none) (hpass : refusal c s envelope.command = none) :
    Move c scope s [.queued envelope.command] (withQueued envelope s)
  | queuedFirst {s} (envelope : CommandEnvelope) (hfirst : envelope.command = fm1)
    (hnew : s.states.get envelope.command = none) (hpass : refusal c s envelope.command = none) :
    Move c scope s [.consumed c.attemptId, .queued envelope.command]
      (withQueued envelope { s with attemptActive := true })
  | began {s command} (hqueued : s.states.get command = some .queued) :
    Move c scope s [.began command] { s with states := s.states.set command .running }
  | finished {s command} (result : TerminalResult) (hends : scope ≠ .plain)
    (hrunning : s.states.get command = some .running) (hsettled : Settled s) :
    Move c scope s [.finished command (recordedResult s command result)]
      (withFinished c command (recordedResult s command result) s)

variable {c : SupervisorConfig} {scope : MoveScope} {s t : MissionSupervisor}
  {r : Acting MissionSupervisor SupervisorNote}

/-! ## 2. The applied abort -/

/-- The loop over the phases changes their states and results only. -/
theorem foldl_abortQueued (phases : List ℤ) (s : MissionSupervisor) :
    ∃ states results, phases.foldl abortQueued s =
      { s with states := states, results := results } := by
  induction phases generalizing s with
  | nil => exact ⟨s.states, s.results, rfl⟩
  | cons phase phases ih =>
    obtain ⟨states, results, heq⟩ := ih (abortQueued s phase)
    refine ⟨states, results, ?_⟩
    rw [List.foldl_cons, heq]
    unfold abortQueued
    split
    · rfl
    · rfl

section

variable (reason : String) (s : MissionSupervisor)

theorem withAbort_frame : ∃ states results, withAbort reason s =
    { s with
      abortReason := some reason
      attemptTerminal := true
      terminalResult := some .aborted
      states := states
      results := results } := foldl_abortQueued _ _

@[simp] theorem withAbort_attemptTerminal : (withAbort reason s).attemptTerminal = true := by
  obtain ⟨states, results, heq⟩ := withAbort_frame reason s
  rw [heq]

@[simp] theorem withAbort_abortReason : (withAbort reason s).abortReason = some reason := by
  obtain ⟨states, results, heq⟩ := withAbort_frame reason s
  rw [heq]

@[simp] theorem withAbort_terminalResult :
    (withAbort reason s).terminalResult = some .aborted := by
  obtain ⟨states, results, heq⟩ := withAbort_frame reason s
  rw [heq]

@[simp] theorem withAbort_attemptActive :
    (withAbort reason s).attemptActive = s.attemptActive := by
  obtain ⟨states, results, heq⟩ := withAbort_frame reason s
  rw [heq]

@[simp] theorem withAbort_expectedPhase :
    (withAbort reason s).expectedPhase = s.expectedPhase := by
  obtain ⟨states, results, heq⟩ := withAbort_frame reason s
  rw [heq]

@[simp] theorem withAbort_immediateResults :
    (withAbort reason s).immediateResults = s.immediateResults := by
  obtain ⟨states, results, heq⟩ := withAbort_frame reason s
  rw [heq]

@[simp] theorem withAbort_outputAbortReason :
    (withAbort reason s).outputAbortReason = s.outputAbortReason := by
  obtain ⟨states, results, heq⟩ := withAbort_frame reason s
  rw [heq]

end

theorem get_foldl_abortQueued (phases : List ℤ) (s : MissionSupervisor) (command : ℤ) :
    ((phases.foldl abortQueued s).states.get command =
      if command ∈ phases ∧ s.states.get command = some .queued then some .terminal
      else s.states.get command) ∧
    (phases.foldl abortQueued s).results.get command =
      if command ∈ phases ∧ s.states.get command = some .queued then some .aborted
      else s.results.get command := by
  induction phases generalizing s with
  | nil => simp
  | cons phase phases ih =>
    obtain ⟨hstates, hresults⟩ := ih (s.abortQueued phase)
    rw [List.foldl_cons, hstates, hresults]
    unfold abortQueued
    by_cases hqueued : s.states.get phase = some .queued
    · rw [if_pos hqueued]
      by_cases heq : command = phase
      · subst heq
        simp [hqueued]
      · simp [Dict.get_set_of_ne _ _ heq, heq]
    · rw [if_neg hqueued]
      by_cases heq : command = phase
      · subst heq
        simp [hqueued]
      · simp [heq]

/-- The applied abort ends the queued phases. -/
theorem get_states_withAbort (reason : String) (s : MissionSupervisor) (command : ℤ) :
    (withAbort reason s).states.get command =
      if command ∈ phaseCommands ∧ s.states.get command = some .queued then some .terminal
      else s.states.get command := (get_foldl_abortQueued _ _ _).1

theorem get_results_withAbort (reason : String) (s : MissionSupervisor) (command : ℤ) :
    (withAbort reason s).results.get command =
      if command ∈ phaseCommands ∧ s.states.get command = some .queued then some .aborted
      else s.results.get command := (get_foldl_abortQueued _ _ _).2

/-! ## 3. The sections are moves -/

theorem applyOutputAbort_spec (h : Moved (Move c scope) s r) :
    wp applyOutputAbort (fun _ r' => Moved (Move c scope) s r' ∧ Settled r'.state) (fun _ _ => False)
      r := by
  unfold applyOutputAbort
  rw [wp_bind, wp_current]
  split
  · rename_i hnone
    exact ⟨h, Or.inl hnone⟩
  · rename_i reason hreason
    by_cases hterminal : r.state.attemptTerminal = true
    · rw [if_pos hterminal]
      exact ⟨h, Or.inr (Or.inl hterminal)⟩
    · rw [if_neg hterminal]
      split
      · rename_i hfirst
        rw [wp_bind, wp_update, wp_perform]
        exact ⟨h.move (.applied hreason (by simpa using hterminal) hfirst),
          Or.inr (Or.inl (withAbort_attemptTerminal _ _))⟩
      · rename_i hlater
        exact ⟨h, Or.inr (Or.inr (Option.isSome_iff_ne_none.mpr hlater))⟩

theorem applyOutputAbort_moves : Moves (Move c scope) applyOutputAbort := fun _ _ h =>
  (applyOutputAbort_spec h).mono (fun _ _ hr => hr.1) fun _ _ hfalse => hfalse.elim

theorem reserveAbort_moves (envelope : CommandEnvelope) :
    Moves (Move c .all) (reserveAbort envelope) := by
  intro s r h
  unfold reserveAbort
  rw [wp_bind]
  refine (applyOutputAbort_spec h).mono (fun _ r' hr => ?_) fun _ _ hfalse => hfalse.elim
  rw [wp_bind, wp_current]
  split
  · exact hr.1
  · rename_i hnew
    split
    · exact hr.1
    · rename_i hactive
      rw [not_or] at hactive
      exact hr.1.move (.reserved envelope rfl (by simpa using hnew) (by simpa using hactive.2))

theorem latchAbort_moves : Moves (Move c scope) latchAbort := fun _ _ h => h.silent (.latched _)

theorem abandonAbort_moves (envelope : CommandEnvelope) :
    Moves (Move c .all) (abandonAbort envelope) := by
  intro s r h
  unfold abandonAbort
  rw [wp_bind, wp_current]
  split
  · rename_i hheld
    exact h.silent (.abandoned envelope rfl hheld)
  · exact h

theorem acceptAbort_moves (envelope : CommandEnvelope) :
    Moves (Move c .all) (acceptAbort envelope) := by
  intro s r h
  unfold acceptAbort
  rw [wp_bind]
  refine (applyOutputAbort_spec h).mono (fun _ r' hr => ?_) fun _ _ hfalse => hfalse.elim
  exact hr.1.move (.accepted envelope rfl hr.2)

theorem admitAbort_moves (envelope : CommandEnvelope) (check : CheckAnswer)
    (gate : Option String) : Moves (Move c .all) (admitAbort c envelope check gate) := by
  refine .bind (.ofExcept _) fun _ => .bind (.ofExcept _) fun _ =>
    .bind (reserveAbort_moves envelope) fun reserved => .ite ?_ (.pure _)
  cases gate with
  | some error => exact .bind (abandonAbort_moves envelope) fun _ => .throw _
  | none => exact .bind latchAbort_moves fun _ => .bind (acceptAbort_moves envelope) fun _ => .pure _

theorem admitCommand_moves (envelope : CommandEnvelope) (check consumer : CheckAnswer) :
    Moves (Move c scope) (admitCommand c envelope check consumer) := by
  refine .bind (.ofExcept _) fun _ => .bind (.ofExcept _) fun _ => fun s r h => ?_
  rw [wp_bind, wp_current]
  split
  · exact h
  · rename_i hnew
    have hnone : r.state.states.get envelope.command = none := by simpa using hnew
    split
    · exact h
    · rename_i hpass
      rw [wp_bind]
      unfold consumeFor
      split
      · rename_i hfirst
        rw [wp_bind, wp_ofExcept]
        refine ⟨fun _ _ => ?_, fun _ _ => h⟩
        have hmoved := h.move (.queuedFirst envelope hfirst hnone hpass)
        simpa only [wp_bind, wp_perform, wp_update, wp_pure, List.append_assoc,
          List.cons_append, List.nil_append] using hmoved
      · rename_i hlater
        exact h.move (.queued envelope hlater hnone hpass)

theorem begin_moves (command : ℤ) : Moves (Move c scope) (begin command) := by
  intro s r h
  unfold begin
  rw [wp_bind, wp_current]
  split
  · rename_i hqueued
    exact h.move (.began hqueued)
  · exact h

theorem finish_moves (hends : scope ≠ .plain) (command : ℤ) (text : String) :
    Moves (Move c scope) (finish c command text) := by
  unfold finish
  split
  · exact .throw _
  · rename_i result hresult
    intro s r h
    rw [wp_bind]
    refine (applyOutputAbort_spec h).mono (fun _ r' hr => ?_) fun _ _ hfalse => hfalse.elim
    rw [wp_bind, wp_current]
    split
    · rename_i hrunning
      exact hr.1.move (.finished result hends hrunning hr.2)
    · exact hr.1

theorem latchRequest_moves (reason : String) : Moves (Move c scope) (latchRequest reason) :=
  .ite (.throw _) fun _ _ h => h.silent (.latched _)

theorem requestAbort_moves (reason : String) (site : AbortSite) :
    Moves (Move c scope) (requestAbort reason site) :=
  .bind (latchRequest_moves reason) fun _ => .bind (fun _ _ h => h) fun _ =>
    .ite (.throw _) (.ite applyOutputAbort_moves (.pure _))

/-- **Every call is a sequence of moves.** -/
theorem body_moves (call : SupervisorCall) : Moves (Move c .all) (body c call) := by
  cases call with
  | admitEnvelope envelope check consumer gate =>
    exact .bind (.ite (admitAbort_moves envelope check gate)
      (admitCommand_moves envelope check consumer)) fun _ => .pure _
  | «begin» command => exact begin_moves command
  | finish command result => exact finish_moves (by decide) command result
  | requestAbort reason site => exact requestAbort_moves reason site

/-- **Calls one after another are a run of moves.** -/
theorem called_moves {is : List SupervisorCall} {os : List SupervisorNote}
    (hrun : Run (Called c) s is os t) : ∃ js, Run (Free (Move c .all)) s js os t :=
  run_of_moves body_moves hrun

/-! ## 4. The invariant -/

/-- The command is on its way. -/
def InFlight (s : MissionSupervisor) (command : ℤ) : Prop :=
  s.states.get command = some .queued ∨ s.states.get command = some .running

/-- **The invariant**: the phases before the expected one succeeded, those after it were not
    admitted, and the attempt's result agrees with its phases. -/
structure Sound (c : SupervisorConfig) (s : MissionSupervisor) : Prop where
  terminal : s.attemptTerminal = s.terminalResult.isSome
  aborted : s.abortReason.isSome = true → s.terminalResult = some .aborted
  active : s.attemptActive = (s.states.get fm1).isSome
  ended : ∀ p, (s.results.get p).isSome = true ↔ s.states.get p = some .terminal
  phases : ∃ before after, c.enabledPhases = before ++ s.expectedPhase :: after ∧
    (∀ p ∈ before, s.results.get p = some .succeeded) ∧
    (∀ p ∈ after, s.states.get p = none) ∧
    (s.results.get s.expectedPhase = some .succeeded →
      after = [] ∧ s.terminalResult = some .succeeded)
  disabled : ∀ p ∈ phaseCommands, p ∉ c.enabledPhases → s.states.get p = none
  flying : ∀ p ∈ phaseCommands, s.InFlight p → s.terminalResult = none ∨ s.abortReason.isSome = true
  won : s.terminalResult = some .succeeded → ∀ p ∈ c.enabledPhases, s.results.get p = some .succeeded

theorem enabled_nodup (c : SupervisorConfig) : c.enabledPhases.Nodup := by
  rcases c.supported with h | h
  · rw [h]
    decide
  · rw [h]
    decide

theorem enabled_phase (c : SupervisorConfig) {p : ℤ} (hp : p ∈ c.enabledPhases) :
    p ∈ phaseCommands := by
  rcases c.supported with h | h
  · rw [h] at hp
    exact List.mem_of_mem_take hp
  · rwa [h] at hp

theorem sound_created (c : SupervisorConfig) : Sound c (created c) where
  terminal := rfl
  aborted h := by cases h
  active := rfl
  ended p := by simp [created]
  phases := by
    refine ⟨[], c.enabledPhases.tail, ?_, ?_, fun p _ => rfl, fun h => by cases h⟩
    · show c.enabledPhases = c.firstPhase :: c.enabledPhases.tail
      rcases c.supported with h | h
      · simp [SupervisorConfig.firstPhase, h, phaseCommands]
      · simp [SupervisorConfig.firstPhase, h, phaseCommands]
    · exact fun p hp => absurd hp List.not_mem_nil
  disabled p _ _ := rfl
  flying p _ h := by rcases h with h | h <;> cases h
  won h := by cases h

namespace Sound

/-- Only the expected phase is on its way. -/
theorem in_flight (h : Sound c s) {p : ℤ} (hp : p ∈ phaseCommands) (hfly : s.InFlight p) :
    p = s.expectedPhase := by
  obtain ⟨before, after, heq, hbefore, hafter, -⟩ := h.phases
  have hstate : s.states.get p ≠ none := by
    rcases hfly with hq | hr
    · rw [hq]
      simp
    · rw [hr]
      simp
  have hmem : p ∈ c.enabledPhases := by
    by_contra hout
    exact hstate (h.disabled p hp hout)
  rw [heq, List.mem_append, List.mem_cons] at hmem
  rcases hmem with hmem | rfl | hmem
  · have hended := (h.ended p).mp (by rw [hbefore p hmem]; rfl)
    rcases hfly with hq | hr
    · rw [hended] at hq
      cases hq
    · rw [hended] at hr
      cases hr
  · rfl
  · exact absurd (hafter p hmem) hstate

/-- What the invariant speaks of is the same in both states. -/
theorem of_same (h : Sound c s) (hstates : t.states = s.states) (hresults : t.results = s.results)
    (hexpected : t.expectedPhase = s.expectedPhase) (hactive : t.attemptActive = s.attemptActive)
    (hterminal : t.attemptTerminal = s.attemptTerminal) (habort : t.abortReason = s.abortReason)
    (hresult : t.terminalResult = s.terminalResult) : Sound c t := by
  obtain ⟨h1, h2, h3, h4, h5, h6, h7, h8⟩ := h
  unfold InFlight at h7
  constructor
  · rwa [hterminal, hresult]
  · rwa [habort, hresult]
  · rwa [hactive, hstates]
  · rwa [hresults, hstates]
  · rwa [hexpected, hresults, hstates, hresult]
  · rwa [hstates]
  · unfold InFlight
    rwa [hstates, hresult, habort]
  · rwa [hresult, hresults]

theorem not_won (h : Sound c s) (hopen : s.attemptTerminal = false) : s.terminalResult = none := by
  have hterminal := h.terminal
  rw [hopen] at hterminal
  simpa using hterminal.symm

theorem applied (h : Sound c s) (hopen : s.attemptTerminal = false) (reason : String) :
    Sound c (withAbort reason s) := by
  have hnone := h.not_won hopen
  obtain ⟨before, after, heq, hbefore, hafter, hlast⟩ := h.phases
  have hqueued : ∀ p, (s.results.get p).isSome = true → s.states.get p ≠ some .queued := by
    intro p hp hq
    rw [(h.ended p).mp hp] at hq
    cases hq
  have hsame : ∀ p r, s.results.get p = some r → (withAbort reason s).results.get p = some r := by
    intro p r hp
    rw [get_results_withAbort, if_neg fun hq => hqueued p (by rw [hp]; rfl) hq.2]
    exact hp
  have hkept : ∀ p, s.states.get p = none → (withAbort reason s).states.get p = none := by
    intro p hp
    rw [get_states_withAbort, if_neg fun hq => by rw [hp] at hq; cases hq.2]
    exact hp
  constructor
  · simp
  · simp
  · rw [withAbort_attemptActive, h.active, get_states_withAbort]
    split
    · rename_i hq
      rw [hq.2]
      rfl
    · rfl
  · intro p
    rw [get_results_withAbort, get_states_withAbort]
    split
    · simp
    · exact h.ended p
  · refine ⟨before, after, by rw [withAbort_expectedPhase]; exact heq,
      fun p hp => hsame p _ (hbefore p hp), fun p hp => hkept p (hafter p hp), fun hwon => ?_⟩
    rw [withAbort_expectedPhase, get_results_withAbort] at hwon
    split at hwon
    · cases hwon
    · rw [(hlast hwon).2] at hnone
      cases hnone
  · exact fun p hp hout => hkept p (h.disabled p hp hout)
  · exact fun p _ _ => Or.inr (by simp)
  · intro hwon
    rw [withAbort_terminalResult] at hwon
    cases hwon

end Sound

/-- **What an enqueued command has passed.** -/
theorem refusal_none {command : ℤ} (hpass : refusal c s command = none) :
    s.attemptTerminal = false ∧ (command ∈ mutationCommands → s.attemptActive = false) ∧
      (command ∈ phaseCommands → command ∈ c.enabledPhases ∧ command = s.expectedPhase ∧
        ∀ p ∈ phaseCommands, ¬ s.InFlight p) := by
  unfold refusal at hpass
  split at hpass
  · cases hpass
  · rename_i hopen
    split at hpass
    · cases hpass
    · rename_i hactive
      refine ⟨by simpa using hopen, fun hm => ?_, fun hp => ?_⟩
      · by_contra hne
        exact hactive ⟨hm, by simpa using hne⟩
      · rw [if_pos hp] at hpass
        unfold phaseRefusal at hpass
        split at hpass
        · cases hpass
        · rename_i henabled
          split at hpass
          · cases hpass
          · rename_i hexpected
            split at hpass
            · cases hpass
            · rename_i hbusy
              refine ⟨not_not.mp henabled, not_not.mp hexpected, fun p hmem hfly => hbusy ?_⟩
              exact List.any_eq_true.mpr ⟨p, hmem, decide_eq_true hfly⟩

namespace Sound

/-- A command is enqueued; `FM1` makes the attempt active. -/
theorem queued (h : Sound c s) {envelope : CommandEnvelope}
    (hnew : s.states.get envelope.command = none)
    (hpass : refusal c s envelope.command = none) (active : Bool)
    (hactive : active = (s.attemptActive || decide (envelope.command = fm1))) :
    Sound c (withQueued envelope { s with attemptActive := active }) := by
  obtain ⟨hopen, -, hphase⟩ := refusal_none hpass
  have hnone := h.not_won hopen
  obtain ⟨before, after, heq, hbefore, hafter, hlast⟩ := h.phases
  have hstates : ∀ p, (withQueued envelope { s with attemptActive := active }).states.get p =
      if p = envelope.command then some .queued else s.states.get p := fun p => Dict.get_set _ _ _ _
  have hother : ∀ p, p ≠ envelope.command →
      (withQueued envelope { s with attemptActive := active }).states.get p = s.states.get p :=
    fun p hne => (hstates p).trans (if_neg hne)
  have hresult : s.results.get envelope.command = none := by
    have hended := h.ended envelope.command
    rw [hnew] at hended
    simpa using hended
  constructor
  · exact h.terminal
  · exact h.aborted
  · show active = _
    rw [hstates, hactive, h.active]
    by_cases hfirst : envelope.command = fm1
    · simp [hfirst]
    · simp [hfirst, Ne.symm hfirst]
  · intro p
    rw [hstates]
    by_cases heqp : p = envelope.command
    · subst heqp
      rw [if_pos rfl]
      show (s.results.get envelope.command).isSome = true ↔ _
      rw [hresult]
      simp
    · rw [if_neg heqp]
      exact h.ended p
  · refine ⟨before, after, heq, hbefore, fun p hp => ?_, hlast⟩
    rw [hother p fun heqp => ?_]
    · exact hafter p hp
    · subst heqp
      have hmem : envelope.command ∈ c.enabledPhases := by
        rw [heq]
        exact List.mem_append_right _ (List.mem_cons_of_mem _ hp)
      obtain ⟨-, hexpected, -⟩ := hphase (enabled_phase c hmem)
      have hnodup := enabled_nodup c
      rw [heq, List.nodup_append] at hnodup
      exact (List.nodup_cons.mp hnodup.2.1).1 (hexpected ▸ hp)
  · intro p hp hout
    rw [hother p fun heqp => ?_]
    · exact h.disabled p hp hout
    · subst heqp
      exact hout (hphase hp).1
  · exact fun p _ _ => Or.inl hnone
  · intro hwon
    have hwon' : s.terminalResult = some .succeeded := hwon
    rw [hnone] at hwon'
    cases hwon'

theorem began (h : Sound c s) {command : ℤ} (hqueued : s.states.get command = some .queued) :
    Sound c { s with states := s.states.set command .running } := by
  obtain ⟨before, after, heq, hbefore, hafter, hlast⟩ := h.phases
  have hstates : ∀ p, (s.states.set command .running).get p =
      if p = command then some .running else s.states.get p := fun p => Dict.get_set _ _ _ _
  have hnone : ∀ p, s.states.get p = none → (s.states.set command .running).get p = none := by
    intro p hp
    rw [hstates, if_neg fun heqp => ?_]
    · exact hp
    · rw [heqp, hqueued] at hp
      cases hp
  refine ⟨h.terminal, h.aborted, ?_, fun p => ?_, ⟨before, after, heq, hbefore,
    fun p hp => hnone p (hafter p hp), hlast⟩, fun p hp hout => hnone p (h.disabled p hp hout),
    fun p hp hfly => ?_, h.won⟩
  · show s.attemptActive = ((s.states.set command .running).get fm1).isSome
    rw [hstates, h.active]
    split
    · rename_i heqp
      rw [heqp, hqueued]
      rfl
    · rfl
  · show (s.results.get p).isSome = true ↔ (s.states.set command .running).get p = some .terminal
    rw [hstates, h.ended p]
    split
    · rename_i heqp
      rw [heqp, hqueued]
      simp
    · rfl
  · by_cases heqp : p = command
    · subst heqp
      exact h.flying p hp (Or.inl hqueued)
    · refine h.flying p hp ?_
      unfold InFlight at hfly ⊢
      rwa [show ({ s with states := s.states.set command .running } : MissionSupervisor).states.get p
        = s.states.get p from Dict.get_set_of_ne _ _ heqp] at hfly

end Sound

/-! ## 5. A finished command -/

/-- What settling a phase leaves alone. -/
theorem settlePhase_frame (c : SupervisorConfig) (command : ℤ) (result : TerminalResult)
    (s : MissionSupervisor) : ∃ expected terminal outcome, settlePhase c command result s =
      { s with
        expectedPhase := expected
        attemptTerminal := terminal
        terminalResult := outcome } := by
  unfold settlePhase
  repeat' split
  all_goals exact ⟨_, _, _, rfl⟩

section

variable {command : ℤ} {result : TerminalResult}

theorem withFinished_frame : ∃ expected terminal outcome, withFinished c command result s =
    { s with
      states := s.states.set command .terminal
      results := s.results.set command result
      expectedPhase := expected
      attemptTerminal := terminal
      terminalResult := outcome } := settlePhase_frame _ _ _ _

theorem get_states_withFinished (p : ℤ) : (withFinished c command result s).states.get p =
    if p = command then some .terminal else s.states.get p := by
  obtain ⟨expected, terminal, outcome, heq⟩ := @withFinished_frame c s command result
  rw [heq]
  exact Dict.get_set _ _ _ _

theorem get_results_withFinished (p : ℤ) : (withFinished c command result s).results.get p =
    if p = command then some result else s.results.get p := by
  obtain ⟨expected, terminal, outcome, heq⟩ := @withFinished_frame c s command result
  rw [heq]
  exact Dict.get_set _ _ _ _

@[simp] theorem withFinished_abortReason :
    (withFinished c command result s).abortReason = s.abortReason := by
  obtain ⟨expected, terminal, outcome, heq⟩ := @withFinished_frame c s command result
  rw [heq]

@[simp] theorem withFinished_attemptActive :
    (withFinished c command result s).attemptActive = s.attemptActive := by
  obtain ⟨expected, terminal, outcome, heq⟩ := @withFinished_frame c s command result
  rw [heq]

@[simp] theorem withFinished_immediateResults :
    (withFinished c command result s).immediateResults = s.immediateResults := by
  obtain ⟨expected, terminal, outcome, heq⟩ := @withFinished_frame c s command result
  rw [heq]

@[simp] theorem withFinished_outputAbortReason :
    (withFinished c command result s).outputAbortReason = s.outputAbortReason := by
  obtain ⟨expected, terminal, outcome, heq⟩ := @withFinished_frame c s command result
  rw [heq]

end

/-- The state with the command's state and result set, nothing settled. -/
def recorded (command : ℤ) (result : TerminalResult) (s : MissionSupervisor) : MissionSupervisor :=
  { s with
    states := s.states.set command .terminal
    results := s.results.set command result }

theorem withFinished_other {command : ℤ} {result : TerminalResult}
    (hother : command ∉ phaseCommands) :
    withFinished c command result s = recorded command result s := if_pos hother

namespace Sound

/-- The invariant's parts that finishing a command keeps whatever it settles. -/
theorem finished_states (h : Sound c s) {command : ℤ} (result : TerminalResult)
    (hrunning : s.states.get command = some .running) :
    (withFinished c command result s).attemptActive =
        ((withFinished c command result s).states.get fm1).isSome ∧
      (∀ p, ((withFinished c command result s).results.get p).isSome = true ↔
        (withFinished c command result s).states.get p = some .terminal) ∧
      ∀ p, s.states.get p = none → (withFinished c command result s).states.get p = none := by
  refine ⟨?_, fun p => ?_, fun p hp => ?_⟩
  · rw [withFinished_attemptActive, get_states_withFinished, h.active]
    split
    · rename_i heq
      rw [heq, hrunning]
      rfl
    · rfl
  · rw [get_results_withFinished, get_states_withFinished]
    split
    · simp
    · exact h.ended p
  · rw [get_states_withFinished, if_neg fun heq => ?_]
    · exact hp
    · rw [heq, hrunning] at hp
      cases hp

/-- A command that is no phase is finished. -/
theorem finished_other (h : Sound c s) {command : ℤ} (result : TerminalResult)
    (hrunning : s.states.get command = some .running) (hother : command ∉ phaseCommands) :
    Sound c (withFinished c command result s) := by
  obtain ⟨hactive, hended, hnone⟩ := h.finished_states result hrunning
  obtain ⟨before, after, heq, hbefore, hafter, hlast⟩ := h.phases
  have hsettle := @withFinished_other c s command result hother
  have hresult : ∀ p ∈ c.enabledPhases,
      (withFinished c command result s).results.get p = s.results.get p := by
    intro p hp
    rw [get_results_withFinished, if_neg fun e : p = command => hother (e ▸ enabled_phase c hp)]
  have hfly : ∀ p ∈ phaseCommands, (withFinished c command result s).InFlight p → s.InFlight p := by
    intro p hp hfly
    unfold InFlight at hfly ⊢
    rwa [get_states_withFinished, if_neg fun e : p = command => hother (e ▸ hp)] at hfly
  have hmem : ∀ p, p ∈ before ∨ p = s.expectedPhase → p ∈ c.enabledPhases := by
    intro p hp
    rw [heq, List.mem_append, List.mem_cons]
    rcases hp with hp | hp
    · exact Or.inl hp
    · exact Or.inr (Or.inl hp)
  refine ⟨?_, ?_, hactive, hended, ⟨before, after, ?_, fun p hp => ?_,
    fun p hp => hnone p (hafter p hp), ?_⟩, fun p hp hout => hnone p (h.disabled p hp hout),
    fun p hp hf => ?_, fun hwon p hp => ?_⟩
  · rw [hsettle]
    exact h.terminal
  · rw [hsettle]
    exact h.aborted
  · rw [hsettle]
    exact heq
  · rw [hresult p (hmem p (Or.inl hp))]
    exact hbefore p hp
  · rw [show (withFinished c command result s).expectedPhase = s.expectedPhase by rw [hsettle]; rfl,
      show (withFinished c command result s).terminalResult = s.terminalResult by rw [hsettle]; rfl,
      hresult _ (hmem _ (Or.inr rfl))]
    exact hlast
  · rw [show (withFinished c command result s).terminalResult = s.terminalResult by rw [hsettle]; rfl,
      withFinished_abortReason]
    exact h.flying p hp (hfly p hp hf)
  · rw [show (withFinished c command result s).terminalResult = s.terminalResult by rw [hsettle]; rfl]
      at hwon
    rw [hresult p hp]
    exact h.won hwon p hp

end Sound

section

variable {command : ℤ} {result : TerminalResult}

theorem withFinished_settled (h : s.terminalResult.isSome = true) :
    withFinished c command result s = recorded command result s := by
  unfold withFinished settlePhase
  by_cases hother : command ∉ phaseCommands
  · rw [if_pos hother]
    rfl
  · rw [if_neg hother, if_pos h]
    rfl

theorem withFinished_lost (hphase : command ∈ phaseCommands) (hnone : s.terminalResult = none)
    (hlost : result ≠ .succeeded) : withFinished c command result s =
      { recorded command result s with attemptTerminal := true, terminalResult := some result } := by
  unfold withFinished settlePhase
  rw [if_neg (not_not.mpr hphase), if_neg (by rw [hnone]; simp), if_pos hlost]
  rfl

/-- The position of a phase, from the phases before it. -/
theorem idxOf_phase {before after : List ℤ} (heq : c.enabledPhases = before ++ command :: after) :
    c.enabledPhases.idxOf command = before.length := by
  have hnodup := enabled_nodup c
  rw [heq, List.nodup_append] at hnodup
  have hout : command ∉ before := fun hmem =>
    hnodup.2.2 command hmem command List.mem_cons_self rfl
  rw [heq, List.idxOf_append_of_notMem hout, List.idxOf_cons_self, Nat.add_zero]

theorem withFinished_last (hphase : command ∈ phaseCommands) (hnone : s.terminalResult = none)
    {before : List ℤ} (heq : c.enabledPhases = before ++ [command]) :
    withFinished c command .succeeded s =
      { recorded command .succeeded s with
        attemptTerminal := true
        terminalResult := some .succeeded } := by
  unfold withFinished settlePhase
  rw [if_neg (not_not.mpr hphase), if_neg (by rw [hnone]; simp), if_neg (not_not.mpr rfl),
    if_pos (by rw [idxOf_phase heq, heq]; simp)]
  rfl

theorem withFinished_next (hphase : command ∈ phaseCommands) (hnone : s.terminalResult = none)
    {before after : List ℤ} {next : ℤ}
    (heq : c.enabledPhases = before ++ command :: next :: after) :
    withFinished c command .succeeded s =
      { recorded command .succeeded s with expectedPhase := next } := by
  have hlength : c.enabledPhases.length = before.length + (after.length + 2) := by
    rw [heq, List.length_append, List.length_cons, List.length_cons]
  have hnext : c.enabledPhases.getD (before.length + 1) fm1 = next := by
    rw [heq]
    simp [List.getD_eq_getElem?_getD]
  unfold withFinished settlePhase
  rw [if_neg (not_not.mpr hphase), if_neg (by rw [hnone]; simp), if_neg (not_not.mpr rfl),
    if_neg (by rw [idxOf_phase heq]; omega), idxOf_phase heq, hnext]
  rfl

end

namespace Sound

/-- A phase is finished: it is the expected one, and what it settles depends on its result. -/
theorem finished_phase (h : Sound c s) {command : ℤ} {result : TerminalResult}
    (hrunning : s.states.get command = some .running) (hphase : command ∈ phaseCommands)
    (hlost : s.abortReason.isSome = true → result ≠ .succeeded) :
    Sound c (withFinished c command result s) := by
  obtain ⟨hactive, hended, hnone⟩ := h.finished_states result hrunning
  obtain ⟨before, after, heq, hbefore, hafter, -⟩ := h.phases
  obtain rfl := h.in_flight hphase (Or.inr hrunning)
  have hnodup := enabled_nodup c
  rw [heq, List.nodup_append] at hnodup
  have hrest : ∀ p ∈ after, p ≠ s.expectedPhase := by
    intro p hp e
    exact (List.nodup_cons.mp hnodup.2.1).1 (e ▸ hp)
  have hdone : ∀ p ∈ before, (withFinished c s.expectedPhase result s).results.get p =
      some .succeeded := by
    intro p hp
    rw [get_results_withFinished,
      if_neg fun e : p = s.expectedPhase => hnodup.2.2 p hp _ List.mem_cons_self e]
    exact hbefore p hp
  have hafter' : ∀ p ∈ after, (withFinished c s.expectedPhase result s).states.get p = none :=
    fun p hp => hnone p (hafter p hp)
  have hdisabled : ∀ p ∈ phaseCommands, p ∉ c.enabledPhases →
      (withFinished c s.expectedPhase result s).states.get p = none :=
    fun p hp hout => hnone p (h.disabled p hp hout)
  have hresult : (withFinished c s.expectedPhase result s).results.get s.expectedPhase =
      some result := by
    rw [get_results_withFinished, if_pos rfl]
  -- no phase is on its way any more
  have hfly : ∀ p ∈ phaseCommands, ¬ (withFinished c s.expectedPhase result s).InFlight p := by
    intro p hp hfly
    unfold InFlight at hfly
    rw [get_states_withFinished] at hfly
    split at hfly
    · rcases hfly with hf | hf
      · cases hf
      · cases hf
    · rename_i hne
      exact hne (h.in_flight hp hfly)
  rcases Option.eq_none_or_eq_some s.terminalResult with hopen | ⟨outcome, hsome⟩
  · have habort : s.abortReason.isSome = false := by
      by_contra hne
      have haborted := h.aborted (by rwa [Bool.not_eq_false] at hne)
      rw [hopen] at haborted
      cases haborted
    by_cases hwon : result = .succeeded
    · subst hwon
      cases after with
      | nil =>
        have hw := @withFinished_last c s s.expectedPhase hphase hopen before heq
        refine ⟨by rw [hw]; rfl, fun ha => ?_, hactive, hended,
          ⟨before, [], by rw [hw]; exact heq, hdone, hafter', fun _ => ⟨rfl, by rw [hw]⟩⟩,
          hdisabled, fun p hp hf => absurd hf (hfly p hp), fun _ p hp => ?_⟩
        · rw [withFinished_abortReason, habort] at ha
          cases ha
        · rw [heq, List.mem_append, List.mem_singleton] at hp
          rcases hp with hp | rfl
          · exact hdone p hp
          · exact hresult
      | cons next after =>
        have hw := @withFinished_next c s s.expectedPhase hphase hopen before after next heq
        have hnext : (withFinished c s.expectedPhase .succeeded s).expectedPhase = next := by
          rw [hw]
        refine ⟨by rw [hw]; exact h.terminal, fun ha => ?_, hactive, hended,
          ⟨before ++ [s.expectedPhase], after, ?_, fun p hp => ?_,
            fun p hp => hafter' p (List.mem_cons_of_mem _ hp), fun hsucceeded => ?_⟩,
          hdisabled, fun p hp hf => absurd hf (hfly p hp), fun hsucceeded => ?_⟩
        · rw [withFinished_abortReason, habort] at ha
          cases ha
        · rw [hnext, List.append_assoc]
          exact heq
        · rcases List.mem_append.mp hp with hp | hp
          · exact hdone p hp
          · rw [List.mem_singleton.mp hp]
            exact hresult
        · rw [hnext] at hsucceeded
          have hstate := (hended next).mp (by rw [hsucceeded]; rfl)
          rw [hafter' next List.mem_cons_self] at hstate
          cases hstate
        · rw [hw] at hsucceeded
          rw [show s.terminalResult = some .succeeded from hsucceeded] at hopen
          cases hopen
    · have hw := @withFinished_lost c s s.expectedPhase result hphase hopen hwon
      refine ⟨by rw [hw]; rfl, fun ha => ?_, hactive, hended,
        ⟨before, after, by rw [hw]; exact heq, hdone, hafter', fun hsucceeded => ?_⟩,
        hdisabled, fun p hp hf => absurd hf (hfly p hp), fun hsucceeded => ?_⟩
      · rw [withFinished_abortReason, habort] at ha
        cases ha
      · rw [show (withFinished c s.expectedPhase result s).expectedPhase = s.expectedPhase by
          rw [hw]; rfl, hresult] at hsucceeded
        exact absurd (Option.some.inj hsucceeded) hwon
      · rw [hw] at hsucceeded
        exact absurd (Option.some.inj hsucceeded) hwon
  · have habort : s.abortReason.isSome = true := by
      rcases h.flying _ hphase (Or.inr hrunning) with hf | hf
      · rw [hsome] at hf
        cases hf
      · exact hf
    have hw := @withFinished_settled c s s.expectedPhase result (by rw [hsome]; rfl)
    have haborted := h.aborted habort
    refine ⟨by rw [hw]; exact h.terminal, fun _ => by rw [hw]; exact haborted, hactive, hended,
      ⟨before, after, by rw [hw]; exact heq, hdone, hafter', fun hsucceeded => ?_⟩,
      hdisabled, fun p hp hf => absurd hf (hfly p hp), fun hsucceeded => ?_⟩
    · rw [show (withFinished c s.expectedPhase result s).expectedPhase = s.expectedPhase by
        rw [hw]; rfl, hresult] at hsucceeded
      exact absurd (Option.some.inj hsucceeded) (hlost habort)
    · rw [hw] at hsucceeded
      rw [show s.terminalResult = some .succeeded from hsucceeded] at haborted
      cases haborted

/-- **Every move keeps the invariant.** -/
theorem move (h : Sound c s) {notes : List SupervisorNote} (hmove : Move c scope s notes t) :
    Sound c t := by
  cases hmove with
  | latched reason =>
    unfold withReason
    split
    · exact h.of_same rfl rfl rfl rfl rfl rfl rfl
    · exact h
  | applied hreason hopen hfirst => exact h.applied hopen _
  | reserved envelope hall hnew hopen => exact h.of_same rfl rfl rfl rfl rfl rfl rfl
  | abandoned envelope hall hheld => exact h.of_same rfl rfl rfl rfl rfl rfl rfl
  | accepted envelope hall hsettled => exact h.of_same rfl rfl rfl rfl rfl rfl rfl
  | queued envelope hlater hnew hpass =>
    exact h.queued hnew hpass s.attemptActive (by simp [hlater])
  | queuedFirst envelope hfirst hnew hpass => exact h.queued hnew hpass true (by simp [hfirst])
  | began hqueued => exact h.began hqueued
  | @finished command result hends hrunning hsettled =>
    by_cases hphase : command ∈ phaseCommands
    · refine h.finished_phase hrunning hphase fun habort => ?_
      unfold recordedResult
      rw [if_pos ⟨hphase, habort⟩]
      decide
    · exact h.finished_other _ hrunning hphase

end Sound

/-- **The invariant holds along every run.** -/
theorem sound_run {js : List Unit} {os : List SupervisorNote} (h : Sound c s)
    (hrun : Run (Free (Move c scope)) s js os t) : Sound c t :=
  hrun.invariant h fun _ _ _ _ hs hmove => hs.move hmove

end MissionSupervisor

end DroneSim
