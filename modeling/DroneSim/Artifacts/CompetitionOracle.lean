/-
  File:      DroneSim/Artifacts/CompetitionOracle.lean
  Subject:   When a released payload has settled: the scorer (scorekeeper/competition.py,
             `_settled_timestamp`) and the validator (artifacts/competition_score_validation.py,
             `_PhysicalOracle._settled`).

  The validator has its own rules, its own rows and its own loop. Both loops are the walk
  `firstSettled` over the rows after the release (`settleLoop_eq`, `settledLoop_evidence`), and the
  scorer only ever holds rows with rising timestamps (`acceptAll_rising`). So both answer the least
  timestamp at which a run of eligible rows spans the settle time (`settled_exact`).
-/
import DroneSim.Library.Settling
import DroneSim.Scorekeeper.CompetitionIntake
import DroneSim.Scorekeeper.CompetitionScoring

namespace DroneSim

open Library

/-! ## 1. The validator -/

/-- `_Rules` of the validator, without the checksum. -/
structure PhysicalRules where
  intervalNs : ℕ
  pickupToleranceM : ℚ
  releaseToleranceM : ℚ
  releaseSpeedMps : ℚ
  releaseStabilityNs : ℕ
  settleNs : ℕ
  releaseAglM : ℚ
  deadlineNs : ℕ
  points : List ℚ

/-- What `_load_rules` keeps of the rules that the scorer was given: both read the same file. -/
def CompetitionRules.physical (rules : CompetitionRules) : PhysicalRules where
  intervalNs := rules.sampleIntervalNs
  pickupToleranceM := rules.pickupCenterToleranceM
  releaseToleranceM := rules.releasePositionToleranceM
  releaseSpeedMps := rules.releaseHorizontalSpeedMps
  releaseStabilityNs := rules.releaseStabilityNs
  settleNs := rules.payloadSettleNs
  releaseAglM := rules.releaseAglM
  deadlineNs := rules.deadlineNs
  points := rules.points

/-- `PayloadStateEvidence`: `_payload_state_evidence` refuses an orientation without a norm. -/
structure PayloadStateEvidence where
  simTimestampNs : ℕ
  arucoId : ℕ
  positionXyz : Xyz
  orientationXyzw : Xyzw
  linearVelocityXyz : Xyz
  grounded : Bool
  attached : Bool
  orientation_ne : orientationXyzw.normSq ≠ 0

/-- The row of the bag that records a payload state. -/
def PayloadStateSample.evidence (sample : PayloadStateSample) : PayloadStateEvidence where
  simTimestampNs := sample.simTimestampNs
  arucoId := sample.arucoId
  positionXyz := sample.positionXyz
  orientationXyzw := sample.orientationXyzw
  linearVelocityXyz := sample.linearVelocityXyz
  grounded := sample.grounded
  attached := sample.attached
  orientation_ne := sample.orientation_ne

/-- `_PhysicalOracle`, as far as a settled payload asks it. -/
structure PhysicalOracle where
  rules : PhysicalRules
  payloadStates : ℕ → List PayloadStateEvidence

namespace PhysicalOracle

/-- `_WAYPOINTS["F2"]` of the validator. -/
def waypointF2 : CompetitionWaypoint := ⟨-15240 / 100, 0, 9144 / 10000, 9144 / 10000⟩

/-- `_inside_f2` of the validator. -/
def insideF2 (row : PayloadStateEvidence) : Bool :=
  let (s, c) := yawArguments row.orientationXyzw
  let halfX : ℚ := 1524 / 10000 / 2
  let halfY : ℚ := 1524 / 10000 / 2
  let w := waypointF2
  extentLe halfX halfY s c (w.width / 2 - |row.positionXyz.x - w.x|) &&
    extentLe halfY halfX s c (w.height / 2 - |row.positionXyz.y - w.y|)

/-- `eligible` of `_settled`. -/
def eligible (rules : PhysicalRules) (row : PayloadStateEvidence) : Bool :=
  row.grounded && !row.attached && speedLe row.linearVelocityXyz rules.releaseSpeedMps &&
    insideF2 row

/-- The loop of `_settled`. -/
def settledLoop (rules : PhysicalRules) (releaseNs : ℕ) :
    Option ℕ → Option ℕ → List PayloadStateEvidence → Option ℕ
  | _, _, [] => none
  | started, previous, row :: rest =>
    if row.simTimestampNs ≤ releaseNs then settledLoop rules releaseNs started previous rest
    else
      let eligible := eligible rules row
      let started :=
        if !eligible || previous.all fun (previous : ℕ) =>
            (row.simTimestampNs : ℤ) - previous ≠ rules.intervalNs then
          if eligible then some row.simTimestampNs else none
        else started
      match eligible, started with
      | true, some first =>
        if (rules.settleNs : ℤ) ≤ (row.simTimestampNs : ℤ) - first then some row.simTimestampNs
        else settledLoop rules releaseNs started (some row.simTimestampNs) rest
      | _, _ => settledLoop rules releaseNs started none rest

/-- `_settled`. -/
def settled (oracle : PhysicalOracle) (marker releaseNs : ℕ) : Option ℕ :=
  settledLoop oracle.rules releaseNs none none (oracle.payloadStates marker)

end PhysicalOracle

/-! ## 2. Both loops are the walk -/

namespace CompetitionRules

variable (rules : CompetitionRules)

/-- The loop of the scorer is the walk over the samples after the release. -/
theorem settleLoop_eq (releaseNs : ℕ) (ends : Option (ℕ × ℕ)) (states : List PayloadStateSample) :
    rules.settleLoop releaseNs (ends.map Prod.fst) (ends.map Prod.snd) states =
      firstSettled rules.settling PayloadStateSample.simTimestampNs rules.sampleIntervalNs
        rules.payloadSettleNs ends (states.filter fun s => releaseNs < s.simTimestampNs) := by
  induction states generalizing ends with
  | nil => rfl
  | cons sample rest ih =>
    rw [settleLoop]
    split
    · rename_i hold
      rw [List.filter_cons_of_neg (by simpa using hold)]
      exact ih ends
    · rename_i hlater
      rw [List.filter_cons_of_pos (by simpa using hlater), firstSettled]
      have hspan (first : ℕ) : ((rules.payloadSettleNs : ℤ) ≤
          (sample.simTimestampNs : ℤ) - first) ↔
          first + rules.payloadSettleNs ≤ sample.simTimestampNs := by omega
      cases hset : rules.settling sample with
      | false =>
        rw [runOn_failing hset]
        simp only [Bool.not_false, Bool.true_or, if_true, Bool.false_eq_true, if_false]
        exact ih none
      | true =>
        cases ends with
        | none =>
          rw [runOn_first hset]
          simp only [Bool.not_true, Bool.false_or, Option.map_none, Option.all_none, if_true,
            hspan]
          rw [← ih]
          rfl
        | some ends =>
          obtain ⟨first, last⟩ := ends
          by_cases hon : sample.simTimestampNs = last + rules.sampleIntervalNs
          · have hgap : ¬((sample.simTimestampNs : ℤ) - last ≠ rules.sampleIntervalNs) := by omega
            rw [runOn_next hset hon]
            simp only [Bool.not_true, Bool.false_or, Option.map_some, Option.all_some,
              decide_eq_true_eq, if_neg hgap, hspan]
            rw [← ih]
            rfl
          · have hgap : (sample.simTimestampNs : ℤ) - last ≠ rules.sampleIntervalNs := by omega
            rw [runOn_gap hset hon]
            simp only [Bool.not_true, Bool.false_or, Option.map_some, Option.all_some, if_true,
              decide_eq_true_eq, if_pos hgap, hspan]
            rw [← ih]
            rfl

/-- The loop of the validator takes the steps of the scorer's loop. -/
theorem settledLoop_evidence (releaseNs : ℕ) (started previous : Option ℕ)
    (states : List PayloadStateSample) :
    PhysicalOracle.settledLoop rules.physical releaseNs started previous
        (states.map PayloadStateSample.evidence) =
      rules.settleLoop releaseNs started previous states := by
  induction states generalizing started previous with
  | nil => rfl
  | cons sample rest ih =>
    have heligible : PhysicalOracle.eligible rules.physical sample.evidence =
        rules.settling sample := rfl
    have hstamp : sample.evidence.simTimestampNs = sample.simTimestampNs := rfl
    rw [List.map_cons, PhysicalOracle.settledLoop, settleLoop]
    simp only [heligible, hstamp, ih]
    rfl

/-- **The least timestamp at which a run of eligible samples spans the settle time**, over any
    list whose timestamps rise; a run begins after the release. -/
theorem settledTimestamp_least (releaseNs : ℕ) {states : List PayloadStateSample}
    (h : Increasing PayloadStateSample.simTimestampNs states) :
    (∀ t, rules.settledTimestamp releaseNs states = some t ↔
      IsLeast {t | SettledAt rules.settling PayloadStateSample.simTimestampNs
        rules.sampleIntervalNs rules.payloadSettleNs
        (states.filter fun s => releaseNs < s.simTimestampNs) t} t) ∧
    (rules.settledTimestamp releaseNs states = none ↔
      ∀ t, ¬SettledAt rules.settling PayloadStateSample.simTimestampNs rules.sampleIntervalNs
        rules.payloadSettleNs (states.filter fun s => releaseNs < s.simTimestampNs) t) := by
  have hloop := rules.settleLoop_eq releaseNs none states
  rw [Option.map_none, Option.map_none] at hloop
  rw [settledTimestamp, hloop]
  exact ⟨fun t => firstSettled_some (h.sublist List.filter_sublist), firstSettled_none⟩

end CompetitionRules

/-! ## 3. The rows that the scorer holds -/

namespace CompetitionScorer

/-- The timestamps of every payload's rows rise. -/
def HistoriesRise (c : CompetitionScorer) : Prop :=
  ∀ marker, Increasing PayloadStateSample.simTimestampNs (c.payloadStates marker)

theorem acceptPayloadState_rising {c : CompetitionScorer} (h : c.HistoriesRise)
    (sample : PayloadStateSample) : (c.acceptPayloadState sample).HistoriesRise := by
  unfold acceptPayloadState
  split
  · exact h
  split
  · exact h
  split
  · exact h
  dsimp only
  split
  · exact h
  rename_i hnew
  intro marker
  obtain ⟨o, heq, _⟩ := latestTimestampGap_eq
    { c with payloadStates := fun m => if m = sample.arucoId
        then c.payloadStates sample.arucoId ++ [sample] else c.payloadStates m }
    ((c.payloadStates sample.arucoId).getLast?.map fun s => s.simTimestampNs)
    sample.simTimestampNs (payloadGapName sample.arucoId)
  rw [heq]
  dsimp only
  split
  · refine (h sample.arucoId).snoc fun row hrow => ?_
    obtain ⟨before, last, hlast⟩ : ∃ before last, c.payloadStates sample.arucoId =
        before ++ [last] :=
      ⟨_, _, (List.dropLast_append_getLast (List.ne_nil_of_mem hrow)).symm⟩
    have hrising := h sample.arucoId
    rw [hlast] at hnew hrow hrising
    have hnewer : last.simTimestampNs < sample.simTimestampNs := by simpa using hnew
    rcases List.mem_append.mp hrow with hrow | hrow
    · exact (hrising.across hrow (List.mem_singleton_self last)).trans hnewer
    · rw [List.mem_singleton.mp hrow]
      exact hnewer
  · exact h marker

theorem acceptPayloadEvent_states (c : CompetitionScorer) (sample : CodedPayloadEvent) :
    (c.acceptPayloadEvent sample).payloadStates = c.payloadStates := by
  unfold acceptPayloadEvent
  split
  · rfl
  split
  · rfl
  split <;> split <;> first | rfl | (split <;> rfl)

theorem noteStart_states (c : CompetitionScorer) (sample : MissionEventSample) :
    (c.noteStart sample).payloadStates = c.payloadStates := by
  unfold noteStart
  split
  · obtain ⟨o, heq, _⟩ := gaps_eq { c with startSimTimeNs := some sample.simTimestampNs }
    rw [heq]
  · rfl

theorem acceptMissionEvent_states (c : CompetitionScorer) (sample : MissionEventSample) :
    (c.acceptMissionEvent sample).payloadStates = c.payloadStates := by
  unfold acceptMissionEvent
  split
  · rfl
  split
  · split
    · rfl
    split
    · rfl
    · exact noteStart_states _ sample
  · split
    · rfl
    · exact noteStart_states _ sample

theorem acceptGroundTruth_states (c : CompetitionScorer) (sample : MovingTruthSample) :
    (c.acceptGroundTruth sample).payloadStates = c.payloadStates := by
  unfold acceptGroundTruth
  split
  · rfl
  split
  · rfl
  dsimp only
  split
  · rfl
  · obtain ⟨o, heq, _⟩ := latestTimestampGap_eq
      { c with groundTruth := c.groundTruth ++ [sample] }
      (c.groundTruth.getLast?.map fun s => s.simTimestampNs) sample.simTimestampNs
      "ground_truth_timestamp_gap"
    rw [heq]

/-- One sample. -/
theorem accept_rising {c : CompetitionScorer} (h : c.HistoriesRise) (i : CompetitionInput) :
    (c.accept i).HistoriesRise := by
  cases i with
  | groundTruth sample => exact fun m => acceptGroundTruth_states c sample ▸ h m
  | payloadState sample => exact acceptPayloadState_rising h sample
  | payloadEvent sample => exact fun m => acceptPayloadEvent_states c sample ▸ h m
  | missionEvent sample => exact fun m => acceptMissionEvent_states c sample ▸ h m

/-- **In every run the scorer holds rows with rising timestamps.** -/
theorem acceptAll_rising (runId : String) (rules : CompetitionRules)
    (inputs : List CompetitionInput) :
    ((initial runId rules).acceptAll inputs).HistoriesRise := by
  have hall : ∀ c : CompetitionScorer, c.HistoriesRise → (c.acceptAll inputs).HistoriesRise := by
    induction inputs with
    | nil => exact fun _ h => h
    | cons i inputs ih => exact fun c h => ih (c.accept i) (accept_rising h i)
  exact hall _ fun _ => List.Pairwise.nil

end CompetitionScorer

/-! ## 4. The settling time -/

/-- A run of eligible samples of the history that begins after the release, with every sample one
    interval after the one before, spans the settle time and ends at timestamp `t`. -/
def CompetitionRules.SettlesAt (rules : CompetitionRules) (releaseNs : ℕ)
    (history : List PayloadStateSample) (t : ℕ) : Prop :=
  ∃ run first last, UnbrokenRun rules.settling PayloadStateSample.simTimestampNs
      rules.sampleIntervalNs history run ∧
    run.head? = some first ∧ run.getLast? = some last ∧ releaseNs < first.simTimestampNs ∧
    first.simTimestampNs + rules.payloadSettleNs ≤ last.simTimestampNs ∧ last.simTimestampNs = t

/-- In a history whose timestamps rise, the samples after the release are its end. -/
theorem later_suffix {releaseNs : ℕ} {history : List PayloadStateSample}
    (h : Increasing PayloadStateSample.simTimestampNs history) :
    (history.filter fun s => releaseNs < s.simTimestampNs) <:+ history := by
  induction history with
  | nil => exact List.suffix_refl []
  | cons sample rest ih =>
    obtain ⟨hfirst, hrest⟩ := List.pairwise_cons.mp h
    by_cases hlater : releaseNs < sample.simTimestampNs
    · have hall : (sample :: rest).filter (fun s => releaseNs < s.simTimestampNs) =
          sample :: rest := by
        refine List.filter_eq_self.mpr fun s hs => ?_
        rcases List.mem_cons.mp hs with rfl | hs
        · simpa using hlater
        · have hlt := hfirst s hs
          exact decide_eq_true (by omega)
      rw [hall]
    · rw [List.filter_cons_of_neg (by simpa using hlater)]
      exact (ih hrest).trans (List.suffix_cons sample rest)

/-- A run after the release is a run of the samples after the release. -/
theorem settlesAt_iff {rules : CompetitionRules} {releaseNs t : ℕ}
    {history : List PayloadStateSample}
    (h : Increasing PayloadStateSample.simTimestampNs history) :
    rules.SettlesAt releaseNs history t ↔
      SettledAt rules.settling PayloadStateSample.simTimestampNs rules.sampleIntervalNs
        rules.payloadSettleNs (history.filter fun s => releaseNs < s.simTimestampNs) t := by
  constructor
  · rintro ⟨run, first, last, ⟨⟨before, after, rfl⟩, hpass, hspaced⟩, hfirst, hlast, hlater, hlong,
      hend⟩
    refine ⟨run, first, last, ⟨?_, hpass, hspaced⟩, hfirst, hlast, hlong, hend⟩
    have hrun : run.filter (fun s => releaseNs < s.simTimestampNs) = run := by
      refine List.filter_eq_self.mpr fun s hs => ?_
      cases run with
      | nil => cases hfirst
      | cons c rest =>
        obtain rfl : c = first := Option.some.inj hfirst
        have hrising : Increasing PayloadStateSample.simTimestampNs (c :: rest) :=
          List.Pairwise.sublist (List.infix_append before (c :: rest) after).sublist h
        rcases List.mem_cons.mp hs with rfl | hs
        · exact decide_eq_true hlater
        · have hlt := (List.pairwise_cons.mp hrising).1 s hs
          exact decide_eq_true (by omega)
    rw [List.filter_append, List.filter_append, hrun]
    exact List.infix_append _ run _
  · rintro ⟨run, first, last, ⟨hpart, hpass, hspaced⟩, hfirst, hlast, hlong, hend⟩
    refine ⟨run, first, last, ⟨hpart.trans (later_suffix h).isInfix, hpass, hspaced⟩, hfirst,
      hlast, ?_, hlong, hend⟩
    have hmem : first ∈ history.filter fun s => releaseNs < s.simTimestampNs :=
      hpart.subset (List.mem_of_mem_head? hfirst)
    simpa using (List.mem_filter.mp hmem).2

/-- **The settling time is exact.** Over every history the scorer can hold it is the least timestamp
    that ends a run of the settle time after the release, and nothing where there is none; over
    every history at all the validator answers the same. -/
theorem settled_exact (runId : String) (rules : CompetitionRules)
    (inputs : List CompetitionInput) (marker releaseNs : ℕ) :
    let history := ((CompetitionScorer.initial runId rules).acceptAll inputs).payloadStates marker
    (∀ t, rules.settledTimestamp releaseNs history = some t ↔
      IsLeast {t | rules.SettlesAt releaseNs history t} t) ∧
    (rules.settledTimestamp releaseNs history = none ↔
      ∀ t, ¬rules.SettlesAt releaseNs history t) ∧
    ∀ histories : ℕ → List PayloadStateSample,
      PhysicalOracle.settled
          ⟨rules.physical, fun m => (histories m).map PayloadStateSample.evidence⟩
          marker releaseNs =
        rules.settledTimestamp releaseNs (histories marker) := by
  intro history
  have hrising : Increasing PayloadStateSample.simTimestampNs history :=
    CompetitionScorer.acceptAll_rising runId rules inputs marker
  obtain ⟨hsome, hnone⟩ := rules.settledTimestamp_least releaseNs hrising
  simp only [settlesAt_iff hrising]
  exact ⟨hsome, hnone, fun histories => rules.settledLoop_evidence releaseNs none none _⟩

end DroneSim
