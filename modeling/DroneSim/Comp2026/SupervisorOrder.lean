/-
  File:      DroneSim/Comp2026/SupervisorOrder.lean
  Subject:   The order of the phases and the finality of results.

  `Logged` ties what the calls noted to the state they reached, `Warranted` says what a note
  stands on. From both:

  * `supervisor_order` -- over every sequence of calls, the phases go in order, the attempt is
    consumed once and with `FM1`, no coordinate changes after `FM1`, a result once set stays, and
    the attempt succeeds exactly when every enabled phase does.
-/
import DroneSim.Comp2026.SupervisorMoves
import DroneSim.Library.Emission

namespace DroneSim

open Library Library.Attempt Library.Acting QgcCommand

namespace MissionSupervisor

variable {c : SupervisorConfig} {scope : MoveScope} {s t : MissionSupervisor} {os notes : List SupervisorNote}

/-! ## 1. Finality -/

/-- The results of `s` are results of `t`. -/
def ResultsStay (s t : MissionSupervisor) : Prop :=
  (∀ r, s.terminalResult = some r → t.terminalResult = some r) ∧
    ∀ p r, s.results.get p = some r → t.results.get p = some r

theorem ResultsStay.refl (s : MissionSupervisor) : ResultsStay s s :=
  ⟨fun _ h => h, fun _ _ h => h⟩

theorem ResultsStay.trans {u : MissionSupervisor} (h : ResultsStay s t) (h' : ResultsStay t u) :
    ResultsStay s u :=
  ⟨fun r hr => h'.1 r (h.1 r hr), fun p r hr => h'.2 p r (h.2 p r hr)⟩

/-- **A move changes no result.** -/
theorem Move.resultsStay (h : Sound c s) (hmove : Move c scope s notes t) : ResultsStay s t := by
  cases hmove with
  | latched reason =>
    unfold withReason
    split
    · exact .refl s
    · exact .refl s
  | applied hreason hopen hfirst =>
    refine ⟨fun r hr => ?_, fun p r hr => ?_⟩
    · rw [h.not_won hopen] at hr
      cases hr
    · rw [get_results_withAbort, if_neg fun hq => ?_]
      · exact hr
      · rw [(h.ended p).mp (by rw [hr]; rfl)] at hq
        cases hq.2
  | reserved envelope hall hnew hopen => exact .refl s
  | abandoned envelope hall hheld => exact .refl s
  | accepted envelope hall hsettled => exact .refl s
  | queued envelope hlater hnew hpass => exact .refl s
  | queuedFirst envelope hfirst hnew hpass => exact .refl s
  | began hqueued => exact .refl s
  | @finished command result hends hrunning hsettled =>
    refine ⟨fun r hr => ?_, fun p r hr => ?_⟩
    · rw [withFinished_settled (by rw [hr]; rfl)]
      exact hr
    · rw [get_results_withFinished, if_neg fun heq : p = command => ?_]
      · exact hr
      · rw [← heq, (h.ended p).mp (by rw [hr]; rfl)] at hrunning
        cases hrunning

/-- **Results stay over a run.** -/
theorem resultsStay_run {js : List Unit} (h : Sound c s)
    (hrun : Run (Free (Move c scope)) s js os t) : ResultsStay s t := by
  induction hrun with
  | start => exact .refl s
  | step hbefore hmove ih => exact ih.trans (Move.resultsStay (sound_run h hbefore) hmove)

/-! ## 2. What was noted -/

/-- **What a note stands on.** -/
def Warranted (c : SupervisorConfig) (before : List SupervisorNote) : SupervisorNote → Prop
  | .queued command =>
    .queued command ∉ before ∧ (command ∈ mutationCommands → SupervisorNote.queued fm1 ∉ before) ∧
      ∀ (k : ℕ) (phase : ℤ), c.enabledPhases[k]? = some phase →
        c.enabledPhases[k + 1]? = some command → SupervisorNote.finished phase .succeeded ∈ before
  | .finished command .succeeded => command ∈ phaseCommands → SupervisorNote.abortApplied ∉ before
  | _ => True

/-- What was noted, as the state has it. -/
structure Logged (c : SupervisorConfig) (os : List SupervisorNote) (s : MissionSupervisor) :
    Prop where
  queued : ∀ p, SupervisorNote.queued p ∈ os ↔ (s.states.get p).isSome = true
  finished : ∀ p, SupervisorNote.finished p .succeeded ∈ os ↔ s.results.get p = some .succeeded
  applied : SupervisorNote.abortApplied ∈ os ↔ s.abortReason.isSome = true
  warranted : Grounded (Warranted c) os

theorem logged_created (c : SupervisorConfig) : Logged c [] (created c) where
  queued p := by simp [created]
  finished p := by simp [created]
  applied := by simp [created]
  warranted := .nil

namespace Logged

/-- Notes of other kinds, on a state with the same phases. -/
theorem of_same (h : Logged c os s) (note : SupervisorNote)
    (hstates : ∀ p, (t.states.get p).isSome = (s.states.get p).isSome)
    (hresults : ∀ p, t.results.get p = some .succeeded ↔ s.results.get p = some .succeeded)
    (habort : t.abortReason = s.abortReason)
    (hqueued : ∀ p, note ≠ .queued p) (hfinished : ∀ p, note ≠ .finished p .succeeded)
    (happlied : note ≠ .abortApplied) (hwarranted : Warranted c os note) :
    Logged c (os ++ [note]) t where
  queued p := by
    rw [List.mem_append, List.mem_singleton, h.queued, hstates]
    exact or_iff_left fun heq => hqueued p heq.symm
  finished p := by
    rw [List.mem_append, List.mem_singleton, h.finished, hresults]
    exact or_iff_left fun heq => hfinished p heq.symm
  applied := by
    rw [List.mem_append, List.mem_singleton, h.applied, habort]
    exact or_iff_left fun heq => happlied heq.symm
  warranted := h.warranted.snoc hwarranted

/-- No note, on a state with the same phases. -/
theorem of_silent (h : Logged c os s) (hstates : t.states = s.states)
    (hresults : t.results = s.results) (habort : t.abortReason = s.abortReason) : Logged c os t where
  queued p := by rw [hstates]; exact h.queued p
  finished p := by rw [hresults]; exact h.finished p
  applied := by rw [habort]; exact h.applied
  warranted := h.warranted

theorem abortApplied (h : Logged c os s) (hsound : Sound c s) (reason : String) :
    Logged c (os ++ [SupervisorNote.abortApplied]) (withAbort reason s) where
  queued p := by
    rw [List.mem_append, h.queued, get_states_withAbort]
    split
    · rename_i hq
      simp [hq.2]
    · simp
  finished p := by
    rw [List.mem_append, h.finished, get_results_withAbort]
    split
    · rename_i hq
      have hnone : s.results.get p ≠ some .succeeded := by
        intro hsome
        rw [(hsound.ended p).mp (by rw [hsome]; rfl)] at hq
        cases hq.2
      simp [hnone]
    · simp
  applied := by simp
  warranted := h.warranted.snoc trivial

/-- The phase before the expected one has succeeded. -/
theorem succeeded_before (h : Logged c os s) (hsound : Sound c s) {k : ℕ} {phase : ℤ}
    (hphase : c.enabledPhases[k]? = some phase)
    (hnext : c.enabledPhases[k + 1]? = some s.expectedPhase) :
    .finished phase .succeeded ∈ os := by
  obtain ⟨before, after, heq, hbefore, -, -⟩ := hsound.phases
  have hlength : before.length = k + 1 := by
    have hindex := idxOf_phase heq
    obtain ⟨hlt, hget⟩ := List.getElem?_eq_some_iff.mp hnext
    have hk := (enabled_nodup c).idxOf_getElem (k + 1) hlt
    rw [hget] at hk
    omega
  have hmem : phase ∈ before := by
    rw [heq, List.getElem?_append_left (by omega)] at hphase
    exact List.mem_of_getElem? hphase
  exact (h.finished phase).mpr (hbefore phase hmem)

/-- An enqueued command stands on what was noted. -/
theorem warrant (h : Logged c os s) (hsound : Sound c s) {command : ℤ}
    (hnew : s.states.get command = none) (hpass : refusal c s command = none)
    {before : List SupervisorNote} (hbefore : before = os ∨ before = os ++ [SupervisorNote.consumed c.attemptId]) :
    Warranted c before (.queued command) := by
  obtain ⟨-, hmutation, hphase⟩ := refusal_none hpass
  have hmem : ∀ p, SupervisorNote.queued p ∈ before ↔ (s.states.get p).isSome = true := by
    intro p
    rw [← h.queued p]
    rcases hbefore with rfl | rfl
    · rfl
    · simp
  have hkept : ∀ note ∈ os, note ∈ before := by
    intro note hnote
    rcases hbefore with rfl | rfl
    · exact hnote
    · exact List.mem_append_left _ hnote
  refine ⟨?_, fun hm => ?_, fun k phase hget hnext => hkept _ ?_⟩
  · rw [hmem, hnew]
    simp
  · rw [hmem, ← hsound.active, hmutation hm]
    simp
  · obtain ⟨-, hexpected, -⟩ := hphase (enabled_phase c (List.mem_of_getElem? hnext))
    rw [hexpected] at hnext
    exact h.succeeded_before hsound hget hnext

theorem enqueued (h : Logged c os s) {envelope : CommandEnvelope} (active : Bool)
    {added : List SupervisorNote} (hadded : added = [] ∨ added = [SupervisorNote.consumed c.attemptId])
    (hwarranted : Grounded (Warranted c) (os ++ (added ++ [SupervisorNote.queued envelope.command]))) :
    Logged c (os ++ (added ++ [SupervisorNote.queued envelope.command]))
      (withQueued envelope { s with attemptActive := active }) where
  queued p := by
    have hget : (withQueued envelope { s with attemptActive := active }).states.get p =
        if p = envelope.command then some .queued else s.states.get p := Dict.get_set _ _ _ _
    rw [List.mem_append, h.queued, hget]
    rcases hadded with rfl | rfl
    · by_cases heq : p = envelope.command
      · simp [heq]
      · simp [heq]
    · by_cases heq : p = envelope.command
      · simp [heq]
      · simp [heq]
  finished p := by
    rw [List.mem_append, h.finished]
    rcases hadded with rfl | rfl
    · exact or_iff_left (by simp)
    · exact or_iff_left (by simp)
  applied := by
    rw [List.mem_append, h.applied]
    rcases hadded with rfl | rfl
    · exact or_iff_left (by simp)
    · exact or_iff_left (by simp)
  warranted := hwarranted

theorem finish (h : Logged c os s) (hsound : Sound c s) {command : ℤ} (result : TerminalResult)
    (hrunning : s.states.get command = some .running) :
    Logged c (os ++ [SupervisorNote.finished command (recordedResult s command result)])
      (withFinished c command (recordedResult s command result) s) where
  queued p := by
    rw [List.mem_append, h.queued, get_states_withFinished]
    split
    · rename_i heq
      rw [heq, hrunning]
      simp
    · simp
  finished p := by
    rw [List.mem_append, h.finished, get_results_withFinished]
    split
    · rename_i heq
      have hnone : s.results.get p ≠ some .succeeded := by
        intro hsome
        rw [← heq, (hsound.ended p).mp (by rw [hsome]; rfl)] at hrunning
        cases hrunning
      rw [or_iff_right hnone, List.mem_singleton, heq]
      constructor
      · intro hnote
        injection hnote with _ hresult
        rw [hresult]
      · intro hresult
        rw [Option.some.inj hresult]
    · rename_i hne
      exact or_iff_left fun hmem => hne (by injection List.mem_singleton.mp hmem)
  applied := by
    rw [List.mem_append, h.applied, withFinished_abortReason]
    exact or_iff_left (by simp)
  warranted := by
    refine h.warranted.snoc ?_
    -- a phase whose result is recorded as success was finished before any abort
    unfold recordedResult
    by_cases hlost : command ∈ phaseCommands ∧ s.abortReason.isSome = true
    · rw [if_pos hlost]
      exact trivial
    · rw [if_neg hlost]
      cases result with
      | succeeded =>
        intro hphase happlied
        exact hlost ⟨hphase, h.applied.mp happlied⟩
      | failed => exact trivial
      | aborted => exact trivial

/-- **A move and what it notes.** -/
theorem move (h : Logged c os s) (hsound : Sound c s) (hmove : Move c scope s notes t) :
    Logged c (os ++ notes) t := by
  cases hmove with
  | latched reason =>
    rw [List.append_nil]
    unfold withReason
    split
    · exact h.of_silent rfl rfl rfl
    · exact h
  | applied hreason hopen hfirst => exact h.abortApplied hsound _
  | reserved envelope hall hnew hopen =>
    exact h.of_same .abortReserved (fun _ => rfl) (fun _ => Iff.rfl) rfl (by simp) (by simp)
      (by simp) trivial
  | abandoned envelope hall hheld =>
    rw [List.append_nil]
    exact h.of_silent rfl rfl rfl
  | accepted envelope hall hsettled =>
    exact h.of_same .abortAccepted (fun _ => rfl) (fun _ => Iff.rfl) rfl (by simp) (by simp)
      (by simp) trivial
  | queued envelope hlater hnew hpass =>
    exact h.enqueued s.attemptActive (Or.inl rfl)
      (h.warranted.snoc (h.warrant hsound hnew hpass (Or.inl rfl)))
  | queuedFirst envelope hfirst hnew hpass =>
    refine h.enqueued true (Or.inr rfl) ?_
    have hconsumed : Grounded (Warranted c) (os ++ [SupervisorNote.consumed c.attemptId]) :=
      h.warranted.snoc trivial
    have hboth := hconsumed.snoc (h.warrant hsound hnew hpass (Or.inr rfl))
    rwa [List.append_assoc] at hboth
  | @began command hqueued =>
    refine h.of_same (.began command) (fun p => ?_) (fun _ => Iff.rfl) rfl (by simp) (by simp)
      (by simp) trivial
    show ((s.states.set command .running).get p).isSome = (s.states.get p).isSome
    rw [Dict.get_set]
    split
    · rename_i heq
      rw [heq, hqueued]
      rfl
    · rfl
  | finished result hends hrunning hsettled => exact h.finish hsound result hrunning

end Logged

/-- **What was noted over a run.** -/
theorem logged_run {js : List Unit} (hrun : Run (Free (Move c scope)) (created c) js os t) :
    Logged c os t := by
  induction hrun with
  | start => exact logged_created c
  | step hbefore hmove ih => exact ih.move (sound_run (sound_created c) hbefore) hmove

/-! ## 3. The attempt is consumed with `FM1` -/

theorem Move.consumed_queued (hmove : Move c scope s notes t) :
    notes.count (.consumed c.attemptId) = notes.count (.queued fm1) := by
  cases hmove with
  | queued envelope hlater hnew hpass => simp [hlater]
  | queuedFirst envelope hfirst hnew hpass => simp [hfirst]
  | latched reason => rfl
  | applied hreason hopen hfirst => simp
  | reserved envelope hall hnew hopen => simp
  | abandoned envelope hall hheld => rfl
  | accepted envelope hall hsettled => simp
  | began hqueued => simp
  | finished result hends hrunning hsettled => simp

theorem consumed_queued {js : List Unit} (hrun : Run (Free (Move c scope)) s js os t) :
    os.count (.consumed c.attemptId) = os.count (.queued fm1) := by
  induction hrun with
  | start => rfl
  | step _ hmove ih => rw [List.count_append, List.count_append, ih, Move.consumed_queued hmove]

/-! ## 4. The order of the phases -/

theorem Logged.queued_once (h : Logged c os s) (command : ℤ) : os.count (.queued command) ≤ 1 := by
  refine h.warranted.single fun before note hwarranted heq => ?_
  rw [beq_iff_eq] at heq
  subst heq
  exact List.count_eq_zero.mpr hwarranted.1

/-- **The attempt is won where every enabled phase is.** -/
theorem Sound.succeeded_iff (h : Sound c s) : s.terminalResult = some .succeeded ↔
    ∀ phase ∈ c.enabledPhases, s.results.get phase = some .succeeded := by
  refine ⟨h.won, fun hall => ?_⟩
  obtain ⟨before, after, heq, -, -, hlast⟩ := h.phases
  refine (hlast (hall _ ?_)).2
  rw [heq]
  exact List.mem_append_right _ List.mem_cons_self

/-- **The order of the phases and the finality of results**, over every sequence of calls: each
    phase is admitted once, the next one after the last one's success; the attempt is consumed at
    most once, in the call that admits `FM1`; after it no coordinate command is admitted; results
    stay; and the attempt has succeeded iff every enabled phase has, with no abort before. -/
theorem supervisor_order {is : List SupervisorCall} (hrun : Run (Called c) (created c) is os s) :
    (∀ phase ∈ phaseCommands, os.count (.queued phase) ≤ 1) ∧
    (∀ (k : ℕ) (phase next : ℤ) (before after : List SupervisorNote),
      c.enabledPhases[k]? = some phase → c.enabledPhases[k + 1]? = some next →
      os = before ++ SupervisorNote.queued next :: after → SupervisorNote.finished phase .succeeded ∈ before) ∧
    os.count (.consumed c.attemptId) ≤ 1 ∧
    (∀ call notes t, Called c s call notes t →
      (SupervisorNote.consumed c.attemptId ∈ notes ↔ SupervisorNote.queued fm1 ∈ notes)) ∧
    (∀ (before after : List SupervisorNote), os = before ++ SupervisorNote.queued fm1 :: after →
      ∀ command ∈ mutationCommands, SupervisorNote.queued command ∉ after) ∧
    (∀ js ps t, Run (Called c) s js ps t →
      (∀ r, s.terminalResult = some r → t.terminalResult = some r) ∧
        ∀ command r, s.results.get command = some r → t.results.get command = some r) ∧
    (s.terminalResult = some .succeeded ↔
      ∀ phase ∈ c.enabledPhases, ∃ before after,
        os = before ++ SupervisorNote.finished phase .succeeded :: after ∧ SupervisorNote.abortApplied ∉ before) := by
  obtain ⟨js, hmoves⟩ := called_moves hrun
  have hsound := sound_run (sound_created c) hmoves
  have hlogged := logged_run hmoves
  refine ⟨fun phase _ => hlogged.queued_once phase, ?_, ?_, ?_, ?_, ?_, ?_⟩
  · intro k phase next before after hphase hnext hos
    exact (hlogged.warranted before _ after hos).2.2 k phase hphase hnext
  · rw [consumed_queued hmoves]
    exact hlogged.queued_once fm1
  · intro call notes t hcall
    obtain ⟨ks, hnow⟩ := called_moves (.single hcall)
    have hcount := consumed_queued hnow
    rw [← List.count_pos_iff, hcount, List.count_pos_iff]
  · intro before after hos command hmutation hmem
    obtain ⟨mid, rest, rfl⟩ := List.append_of_mem hmem
    have hgrounds := hlogged.warranted (before ++ SupervisorNote.queued fm1 :: mid) (.queued command) rest
      (by rw [hos, List.append_assoc, List.cons_append])
    exact hgrounds.2.1 hmutation (List.mem_append_right _ List.mem_cons_self)
  · intro js ps t hlater
    obtain ⟨ks, hmore⟩ := called_moves hlater
    exact resultsStay_run hsound hmore
  · rw [hsound.succeeded_iff]
    refine forall₂_congr fun phase hphase => ?_
    rw [← hlogged.finished]
    constructor
    · intro hmem
      obtain ⟨before, after, hos⟩ := List.append_of_mem hmem
      exact ⟨before, after, hos, hlogged.warranted before _ after hos (enabled_phase c hphase)⟩
    · rintro ⟨before, after, hos, -⟩
      rw [hos]
      exact List.mem_append_right _ List.mem_cons_self

/-- The seventh attempt, with two phases. -/
def twoPhases : SupervisorConfig where
  attemptId := 7
  enabledPhases := [fm1, fm2]
  validId := by decide
  supported := Or.inl rfl

/-- A request of the ground station for the seventh attempt. -/
def requestOf (command : ℤ) : CommandEnvelope where
  sourceSystem := 200
  sourceComponent := 190
  targetSystem := 1
  targetComponent := 191
  command := command
  attemptId := 7
  params := [.float 7, .float 0, .float 0, .float 0, .float 0, .float 0, .float 0]
  receivedAt := .float 1

/-- A phase from its request to its success. -/
def flyPhase (command : ℤ) : List SupervisorCall :=
  [.admitEnvelope (requestOf command) .nothing .nothing none, .begin command, .finish command "SUCCEEDED"]

/-- Both phases flown. -/
theorem supervisor_order_flown :
    (calls (body twoPhases) (created twoPhases) (flyPhase fm1 ++ flyPhase fm2)).1.terminalResult =
        some .succeeded ∧
      ∀ phase ∈ phaseCommands,
        (calls (body twoPhases) (created twoPhases) (flyPhase fm1 ++ flyPhase fm2)).2.count
          (.queued phase) ≤ 1 :=
  ⟨by decide +kernel, (supervisor_order (calls_run _ _ _)).1⟩

end MissionSupervisor

end DroneSim
