/-
  File:      DroneSim/Scorekeeper/CompetitionOrder.lean
  Subject:   The score of a competition run and the order in which its streams arrive.

  Two scorers that were fed the same streams hold the same events, the same start and the same
  samples from the start on (`Ran.trimmed_eq`), and both have noted a fault or neither. So they
  score the same (`score_orderFree`), unless a state of an unknown marker is older than the start:
  it is a fault when it comes before the start is known, and passed over when it comes after
  (`score_differs_on_oldUnknown`).
-/
import DroneSim.Scorekeeper.CompetitionIntake
import DroneSim.Scorekeeper.CompetitionTrim

namespace DroneSim

open Library

/-- What is kept of a stream, from the start on. -/
theorem KeptStream.trim {α : Type} {f : α → ℕ} {start : Option ℕ} {l kept : List α}
    (h : KeptStream f start l kept) :
    (kept.filter fun a => start.all fun (s : ℕ) => s ≤ f a) =
      l.filter fun a => start.all fun (s : ℕ) => s ≤ f a := by
  cases start with
  | none => rw [h.all rfl]
  | some s => exact h.later s rfl

namespace CompetitionScorer

variable {runId : String} {rules : CompetitionRules} {f : CompetitionStreams}
  {c d : CompetitionScorer}

/-! ## 1. What the evaluation reads -/

theorem Ran.rising (h : Ran runId rules f c) (hio : f.InOrder) : c.Rising :=
  fun m hm => List.Pairwise.sublist (h.states m hm).sub (hio.states m)

/-- **From the start on, two scorers that were fed the same streams hold the same.** -/
theorem Ran.trimmed_eq (hc : Ran runId rules f c) (hd : Ran runId rules f d) :
    c.trimmed = { d.trimmed with diagnostic := c.diagnostic } := by
  have htruths : c.trimmed.groundTruth = d.trimmed.groundTruth := by
    rw [trimmed, trimmed]
    dsimp only
    rw [hc.start, hd.start, hc.truths.trim, hd.truths.trim]
  have hstates : c.trimmed.payloadStates = d.trimmed.payloadStates := by
    rw [trimmed, trimmed]
    dsimp only
    rw [hc.start, hd.start]
    funext m
    by_cases hm : m ∈ markers
    · rw [(hc.states m hm).trim, (hd.states m hm).trim]
    · rw [hc.unknown m hm, hd.unknown m hm]
  have hrun : c.trimmed.runId = d.trimmed.runId := hc.run.trans hd.run.symm
  have hpolicy : c.trimmed.rules = d.trimmed.rules := hc.policy.trans hd.policy.symm
  have hstart : c.trimmed.startSimTimeNs = d.trimmed.startSimTimeNs := hc.start.trans hd.start.symm
  have hpayload : c.trimmed.payloadEvents = d.trimmed.payloadEvents :=
    hc.payload.trans hd.payload.symm
  have hmission : c.trimmed.missionEvents = d.trimmed.missionEvents :=
    hc.mission.trans hd.mission.symm
  dsimp only
  rw [← hrun, ← hpolicy, ← hstart, ← htruths, ← hstates, ← hpayload, ← hmission]
  rfl

/-- The evaluation of the samples from the start on is the evaluation. -/
theorem evaluate_trimmed (hrising : c.Rising) :
    c.trimmed.evaluate.1 = c.evaluate.1 ∧ c.trimmed.evaluate.2.1 = c.evaluate.2.1 := by
  have hstart : c.trimmed.startSimTimeNs = c.startSimTimeNs := rfl
  have hdiagnostic : c.trimmed.diagnostic = c.diagnostic := rfl
  have hmissing : c.trimmed.homeDisarmMissing = c.homeDisarmMissing := rfl
  rw [evaluate, evaluate, hstart, hdiagnostic]
  split
  · exact ⟨rfl, rfl⟩
  · cases c.diagnostic with
    | none =>
      dsimp only
      rw [outcomes_trimmed hrising, completes_trimmed, hmissing]
      exact ⟨rfl, rfl⟩
    | some reason => exact ⟨rfl, rfl⟩

/-- Which fault was noted makes no difference to the outcomes. -/
theorem evaluate_diagnostic (c : CompetitionScorer) {o : Option String}
    (ho : o = none ↔ c.diagnostic = none) :
    (evaluate { c with diagnostic := o }).1 = c.evaluate.1 ∧
      (evaluate { c with diagnostic := o }).2.1 = c.evaluate.2.1 := by
  have houtcomes : outcomes { c with diagnostic := o } = c.outcomes := rfl
  have hcompletes : completes { c with diagnostic := o } = c.completes := rfl
  have hmissing : homeDisarmMissing { c with diagnostic := o } = c.homeDisarmMissing := rfl
  rw [evaluate, evaluate, houtcomes, hcompletes, hmissing]
  dsimp only
  split
  · exact ⟨rfl, rfl⟩
  · cases hd : c.diagnostic with
    | none =>
      rw [ho.mpr hd]
      exact ⟨rfl, rfl⟩
    | some reason =>
      cases o with
      | none => exact absurd (hd.symm.trans (ho.mp rfl)) (Option.some_ne_none _)
      | some reason' => exact ⟨rfl, rfl⟩

/-- **Two scorers that were fed the same streams come to the same outcomes.** -/
theorem Ran.evaluate_eq (hc : Ran runId rules f c) (hd : Ran runId rules f d) (hio : f.InOrder) :
    c.evaluate.1 = d.evaluate.1 ∧ c.evaluate.2.1 = d.evaluate.2.1 := by
  obtain ⟨hc1, hc2⟩ := evaluate_trimmed (hc.rising hio)
  obtain ⟨hd1, hd2⟩ := evaluate_trimmed (hd.rising hio)
  have hnone : c.diagnostic = none ↔ d.trimmed.diagnostic = none :=
    hc.diagnostic.trans hd.diagnostic.symm
  obtain ⟨h1, h2⟩ := d.trimmed.evaluate_diagnostic hnone
  rw [← hc.trimmed_eq hd] at h1 h2
  exact ⟨hc1.symm.trans (h1.trans hd1), hc2.symm.trans (h2.trans hd2)⟩

/-! ## 2. The score -/

/-- What a run is scored. -/
def score (runId : String) (rules : CompetitionRules) (is : List CompetitionInput) :
    CompetitionResult := ((initial runId rules).acceptAll is).finalize

theorem finalize_awarded (c : CompetitionScorer) : c.finalize.awarded =
    (c.rules.points.zip c.evaluate.1).map fun p => if p.2 then p.1 else 0 := rfl

/-- The faults that the scorer may note are those of the streams, by the gaps of the whole of each
    of them. -/
def NotesFaults (runId : String) (rules : CompetitionRules) (is : List CompetitionInput) : Prop :=
  (((initial runId rules).acceptAll is).diagnostic = none ↔
    Faultless rules.sampleIntervalNs (streamsOf runId is)) ∧
  ∀ reason, ((initial runId rules).acceptAll is).diagnostic = some reason →
    FaultOf rules.sampleIntervalNs (streamsOf runId is) reason

/-- **The score of a run does not depend on the order between its streams**, if no state of an
    unknown marker is older than the mission. -/
theorem score_orderFree (rules : CompetitionRules) {is js : List CompetitionInput}
    (hsame : streamsOf runId is = streamsOf runId js) (hio : (streamsOf runId is).InOrder)
    (hold : NoOldUnknown (streamsOf runId is)) :
    (score runId rules is).complete = (score runId rules js).complete ∧
      (score runId rules is).outcomes = (score runId rules js).outcomes ∧
      (score runId rules is).awarded = (score runId rules js).awarded ∧
      (score runId rules is).achieved = (score runId rules js).achieved ∧
      NotesFaults runId rules is ∧ NotesFaults runId rules js := by
  have hc := ran_run runId rules is hio hold
  have hd := ran_run runId rules js (hsame ▸ hio) (hsame ▸ hold)
  have hnotes : NotesFaults runId rules is ∧ NotesFaults runId rules js :=
    ⟨⟨hc.diagnostic, hc.named⟩, hd.diagnostic, hd.named⟩
  rw [← hsame] at hd
  obtain ⟨houtcomes, hcomplete⟩ := hc.evaluate_eq hd hio
  have hawarded : (score runId rules is).awarded = (score runId rules js).awarded := by
    rw [score, score, finalize_awarded, finalize_awarded, houtcomes, hc.policy, hd.policy]
  exact ⟨hcomplete, houtcomes, hawarded, congrArg List.sum hawarded, hnotes⟩

/-- A truth of the vehicle on the ground at L. -/
def landedTruth (t : ℕ) : MovingTruthSample :=
  { runId := "run", simTimestampNs := t, positionXyz := ⟨-9144 / 100, 0, 0⟩, inContact := true,
    linearVelocityXyz := ⟨0, 0, 0⟩ }

/-- A state of a payload at rest. -/
def restingState (m t : ℕ) : PayloadStateSample :=
  { runId := "run", simTimestampNs := t, arucoId := m, positionXyz := ⟨0, 0, 0⟩,
    orientationXyzw := ⟨0, 0, 0, 1⟩, linearVelocityXyz := ⟨0, 0, 0⟩, grounded := true,
    attached := false, orientation_ne := Xyzw.unit_normSq }

/-- FM1 starts and is complete at one time, with the vehicle at L. -/
def landing1 : List CompetitionInput :=
  [.missionEvent ⟨"run", 100, 0, "FM1", "STARTED", ""⟩,
    .missionEvent ⟨"run", 100, 1, "FM1", "COMPLETE", ""⟩, .groundTruth (landedTruth 100)]

theorem score_orderFree_landing1 :
    (score "run" competitionV1 landing1).achieved = 50 ∧
    (score "run" competitionV1 (landing1.drop 2 ++ landing1.take 2)).achieved = 50 := by
  have hsame : streamsOf "run" landing1 = streamsOf "run" (landing1.drop 2 ++ landing1.take 2) := rfl
  have hscore : (score "run" competitionV1 landing1).achieved = 50 := by decide +kernel
  have hfree := score_orderFree competitionV1 hsame
    ⟨List.pairwise_singleton _ _, fun _ => List.Pairwise.nil⟩ (fun _ _ _ _ _ hx => nomatch hx)
  exact ⟨hscore, hfree.2.2.2.1 ▸ hscore⟩

/-- A state of the unknown marker 5 that is older than the start, fed before and after it. -/
def unknownFirst : List CompetitionInput := .payloadState (restingState 5 50) :: landing1

def unknownAfter : List CompetitionInput := landing1 ++ [CompetitionInput.payloadState (restingState 5 50)]

/-- **One order is scored 50 points, the other none.** -/
theorem score_differs_on_oldUnknown :
    streamsOf "run" unknownFirst = streamsOf "run" unknownAfter ∧
    (streamsOf "run" unknownFirst).InOrder ∧
    (sift missionFits (streamsOf "run" unknownFirst).missionEvents).2 = true ∧
    (sift payloadFits (streamsOf "run" unknownFirst).payloadEvents).2 = true ∧
    (score "run" competitionV1 unknownFirst).achieved = 0 ∧
    (score "run" competitionV1 unknownAfter).achieved = 50 := by
  refine ⟨rfl, ⟨List.pairwise_singleton _ _, fun m => ?_⟩, by decide +kernel, by decide +kernel,
    by decide +kernel, by decide +kernel⟩
  change List.Pairwise _ (if m = 5 then [restingState 5 50] else [])
  split
  · exact List.pairwise_singleton _ _
  · exact List.Pairwise.nil

end CompetitionScorer

end DroneSim
