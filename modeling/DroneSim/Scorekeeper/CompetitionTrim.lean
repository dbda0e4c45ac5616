/-
  File:      DroneSim/Scorekeeper/CompetitionTrim.lean
  Subject:   The competition rules read the samples from the start of the mission on, and no others.

  `trimmed` drops the samples that are older than the start. One lemma a rule says that the rule
  comes out the same; `outcomes_trimmed` and `completes_trimmed` are made of them. A pickup compares
  a state with the one before it, so the states of a marker have to rise (`Rising`): the state
  before the first one from the start on is then older than the start, which the rule refuses.
-/
import DroneSim.Scorekeeper.CompetitionScoring
import DroneSim.Library.Streams

namespace DroneSim

open Library

namespace CompetitionScorer

/-! ## 1. The scorer from the start on -/

/-- The scorer without the samples that are older than the start. -/
def trimmed (c : CompetitionScorer) : CompetitionScorer :=
  { c with
    groundTruth := c.groundTruth.filter fun s => c.startSimTimeNs.all fun (start : ℕ) =>
      start ≤ s.simTimestampNs
    payloadStates := fun m => (c.payloadStates m).filter fun s =>
      c.startSimTimeNs.all fun (start : ℕ) => start ≤ s.simTimestampNs }

/-- The kept states of each marker rise. -/
def Rising (c : CompetitionScorer) : Prop :=
  ∀ m ∈ markers, Increasing PayloadStateSample.simTimestampNs (c.payloadStates m)

variable {c : CompetitionScorer} {start : ℕ}

theorem trimmed_groundTruth (hs : c.startSimTimeNs = some start) :
    c.trimmed.groundTruth = c.groundTruth.filter fun s => start ≤ s.simTimestampNs := by
  rw [trimmed, hs]
  rfl

theorem trimmed_payloadStates (hs : c.startSimTimeNs = some start) (m : ℕ) :
    c.trimmed.payloadStates m = (c.payloadStates m).filter fun s => start ≤ s.simTimestampNs := by
  rw [trimmed, hs]
  rfl

theorem trimmed_none (hs : c.startSimTimeNs = none) : c.trimmed = c := by
  have htruth : (c.groundTruth.filter fun s => c.startSimTimeNs.all fun (start : ℕ) =>
      start ≤ s.simTimestampNs) = c.groundTruth := by
    rw [hs]
    exact List.filter_true _
  have hstates : (fun m => (c.payloadStates m).filter fun s =>
      c.startSimTimeNs.all fun (start : ℕ) => start ≤ s.simTimestampNs) = c.payloadStates := by
    rw [hs]
    funext m
    exact List.filter_true _
  rw [trimmed, htruth, hstates]

/-- A mission event after the start is no older than it. -/
theorem start_le_mission (hs : c.startSimTimeNs = some start) {e : MissionEventSample}
    (he : e ∈ c.missionAfterStart) : start ≤ e.simTimestampNs := by
  rw [missionAfterStart, hs] at he
  exact of_decide_eq_true (List.mem_filter.mp he).2

/-- A payload event that a rule looks at is no older than the start. -/
theorem start_le_payload (hs : c.startSimTimeNs = some start) {marker : ℕ} {action : String}
    {e : CodedPayloadEvent} (he : c.payloadEvent marker action = some e) :
    start ≤ e.simTimestampNs := by
  have hmem := List.mem_of_find?_eq_some he
  rw [payloadAfterStart, hs] at hmem
  exact of_decide_eq_true (List.mem_filter.mp hmem).2

/-! ## 2. One rule after another -/

theorem vehicleAt_trimmed (c : CompetitionScorer) (t : ℕ) :
    c.trimmed.vehicleAt t = c.vehicleAt t := by
  cases hs : c.startSimTimeNs with
  | none => rw [trimmed_none hs]
  | some start =>
    have hs' : c.trimmed.startSimTimeNs = some start := hs
    rw [vehicleAt, vehicleAt, hs, hs', trimmed_groundTruth hs]
    dsimp only
    refine congrArg List.getLast? (filter_trim fun a ha => ?_)
    rw [Bool.and_eq_true, Bool.and_eq_true] at ha
    exact ha.1.1

theorem landing_trimmed (c : CompetitionScorer) (phase : CompetitionPhase)
    (waypoint : CompetitionWaypoint) : c.trimmed.landing phase waypoint = c.landing phase waypoint := by
  unfold landing
  simp only [vehicleAt_trimmed]
  rfl

theorem physicalHomeLanding_trimmed (hs : c.startSimTimeNs = some start)
    {started : MissionEventSample} (hle : start ≤ started.simTimestampNs) :
    c.trimmed.physicalHomeLanding started = c.physicalHomeLanding started := by
  rw [physicalHomeLanding, physicalHomeLanding, trimmed_groundTruth hs]
  refine congrArg _ (find?_trim fun a ha => ?_)
  rw [Bool.and_eq_true, decide_eq_true_eq] at ha
  exact decide_eq_true (hle.trans ha.1)

theorem landedAtHome_trimmed (c : CompetitionScorer) (t : ℕ) :
    c.trimmed.landedAtHome t = c.landedAtHome t := by
  rw [landedAtHome, landedAtHome, vehicleAt_trimmed]
  rfl

theorem homeEvents_mem {e : MissionEventSample × MissionEventSample × MissionEventSample}
    (he : c.homeEvents = some e) : e.1 ∈ c.missionAfterStart := by
  unfold homeEvents at he
  dsimp only at he
  split at he
  · cases he
  · obtain ⟨started, h8, he⟩ := Option.bind_eq_some_iff.mp he
    obtain ⟨disarmed, _, he⟩ := Option.bind_eq_some_iff.mp he
    obtain ⟨complete, _, he⟩ := Option.bind_eq_some_iff.mp he
    obtain rfl := Option.some.inj he
    exact List.mem_of_getElem? h8

theorem homeLandingTimestamp_trimmed (c : CompetitionScorer) :
    c.trimmed.homeLandingTimestamp = c.homeLandingTimestamp := by
  cases hs : c.startSimTimeNs with
  | none => rw [trimmed_none hs]
  | some start =>
    have hevents : c.trimmed.homeEvents = c.homeEvents := rfl
    unfold homeLandingTimestamp
    rw [hevents]
    cases he : c.homeEvents with
    | none => rfl
    | some e =>
      obtain ⟨started, disarmed, complete⟩ := e
      have hle : start ≤ started.simTimestampNs := start_le_mission hs (homeEvents_mem he)
      dsimp only
      rw [physicalHomeLanding_trimmed hs hle]
      cases hl : c.physicalHomeLanding started with
      | none => rfl
      | some landing =>
        have hland : start ≤ landing := by
          rw [physicalHomeLanding] at hl
          obtain ⟨a, ha, rfl⟩ := Option.map_eq_some_iff.mp hl
          have hp := List.find?_some ha
          rw [Bool.and_eq_true, decide_eq_true_eq] at hp
          exact hle.trans hp.1
        have hall : (c.trimmed.groundTruth.all fun s => decide ((decide (landing ≤ s.simTimestampNs) &&
              decide (s.simTimestampNs ≤ complete.simTimestampNs)) = true →
                c.trimmed.rules.isLanded s .h = true)) =
            c.groundTruth.all fun s => decide ((decide (landing ≤ s.simTimestampNs) &&
              decide (s.simTimestampNs ≤ complete.simTimestampNs)) = true →
                c.rules.isLanded s .h = true) := by
          rw [trimmed_groundTruth hs]
          refine all_trim fun a ha => ?_
          rw [decide_eq_false_iff_not, Classical.not_imp, Bool.and_eq_true, decide_eq_true_eq] at ha
          exact decide_eq_true (hland.trans ha.1.1)
        dsimp only
        rw [landedAtHome_trimmed, landedAtHome_trimmed, hall]

theorem homeCheckpointBoundary_trimmed (c : CompetitionScorer) :
    c.trimmed.homeCheckpointBoundary = c.homeCheckpointBoundary := by
  cases hs : c.startSimTimeNs with
  | none => rw [trimmed_none hs]
  | some start =>
    have hmission : c.trimmed.missionAfterStart = c.missionAfterStart := rfl
    have hprefix : c.trimmed.missionPrefix 9 = c.missionPrefix 9 := rfl
    unfold homeCheckpointBoundary
    rw [hmission, hprefix]
    dsimp only
    cases h8 : c.missionAfterStart[CompetitionPhase.home.index]? with
    | none => rfl
    | some started =>
      have hle := start_le_mission hs (List.mem_of_getElem? h8)
      dsimp only
      rw [physicalHomeLanding_trimmed hs hle]

theorem releaseGate_trimmed (c : CompetitionScorer) (event : CodedPayloadEvent) :
    c.trimmed.releaseGate event = c.releaseGate event := by
  cases hs : c.startSimTimeNs with
  | none => rw [trimmed_none hs]
  | some start =>
    have hs' : c.trimmed.startSimTimeNs = some start := hs
    have hrules : c.trimmed.rules = c.rules := rfl
    rw [releaseGate, releaseGate, hs, hs', hrules]
    dsimp only
    split
    · rfl
    · rename_i hearly
      have hwindow : (c.trimmed.groundTruth.filter fun s =>
            decide (event.simTimestampNs - c.rules.releaseStabilityNs ≤ s.simTimestampNs) &&
              decide (s.simTimestampNs ≤ event.simTimestampNs)) =
          c.groundTruth.filter fun s =>
            decide (event.simTimestampNs - c.rules.releaseStabilityNs ≤ s.simTimestampNs) &&
              decide (s.simTimestampNs ≤ event.simTimestampNs) := by
        rw [trimmed_groundTruth hs]
        refine filter_trim fun a ha => ?_
        rw [Bool.and_eq_true, decide_eq_true_eq] at ha
        refine decide_eq_true (Nat.le_trans ?_ ha.1)
        omega
      rw [hwindow]

theorem stateBefore_trimmed (c : CompetitionScorer) (marker t : ℕ) :
    c.trimmed.stateBefore marker t = c.stateBefore marker t := by
  cases hs : c.startSimTimeNs with
  | none => rw [trimmed_none hs]
  | some start =>
    have hs' : c.trimmed.startSimTimeNs = some start := hs
    rw [stateBefore, stateBefore, hs, hs', trimmed_payloadStates hs]
    dsimp only
    refine congrArg List.getLast? (filter_trim fun a ha => ?_)
    rw [Bool.and_eq_true] at ha
    exact ha.1

theorem detachedWithin_trimmed (hs : c.startSimTimeNs = some start) {t : ℕ} (ht : start ≤ t)
    (marker : ℕ) : detachedWithin c.rules t (c.trimmed.payloadStates marker) =
      detachedWithin c.rules t (c.payloadStates marker) := by
  rw [detachedWithin, detachedWithin, trimmed_payloadStates hs]
  refine find?_trim fun a ha => ?_
  rw [Bool.and_eq_true, Bool.and_eq_true, decide_eq_true_eq] at ha
  exact decide_eq_true (ht.trans ha.1.1)

theorem physicalRelease_trimmed (hs : c.startSimTimeNs = some start) {event : CodedPayloadEvent}
    (he : start ≤ event.simTimestampNs) (marker : ℕ) :
    c.trimmed.physicalRelease marker event = c.physicalRelease marker event := by
  have hdetached := detachedWithin_trimmed hs he marker
  have hrules : c.trimmed.rules = c.rules := rfl
  rw [physicalRelease, physicalRelease, stateBefore_trimmed, hrules, hdetached]

theorem settleLoop_trim {rules : CompetitionRules} {t : ℕ} (ht : start ≤ t)
    (l : List PayloadStateSample) (started previous : Option ℕ) :
    rules.settleLoop t started previous (l.filter fun s => start ≤ s.simTimestampNs) =
      rules.settleLoop t started previous l := by
  induction l generalizing started previous with
  | nil => rfl
  | cons a l ih =>
    by_cases ha : start ≤ a.simTimestampNs
    · rw [List.filter_cons_of_pos (by simpa using ha), CompetitionRules.settleLoop,
        CompetitionRules.settleLoop]
      simp only [ih]
    · rw [List.filter_cons_of_neg (by simpa using ha), CompetitionRules.settleLoop,
        if_pos (by omega), ih]

theorem settledTimestamp_trimmed (hs : c.startSimTimeNs = some start) {t : ℕ} (ht : start ≤ t)
    (marker : ℕ) : c.rules.settledTimestamp t (c.trimmed.payloadStates marker) =
      c.rules.settledTimestamp t (c.payloadStates marker) := by
  rw [trimmed_payloadStates hs]
  exact settleLoop_trim ht _ _ _

theorem capacityValid_trimmed (c : CompetitionScorer) :
    c.trimmed.capacityValid = c.capacityValid := by
  cases hs : c.startSimTimeNs with
  | none => rw [trimmed_none hs]
  | some start =>
    have hs' : c.trimmed.startSimTimeNs = some start := hs
    rw [capacityValid, capacityValid, hs, hs']
    dsimp only
    refine congrArg capacityHolds (List.flatMap_congr fun m _ => ?_)
    rw [trimmed_payloadStates hs]
    exact filter_trim fun _ ha => ha

/-! ## 3. Pickups -/

/-- Where the states from the start on have no pair, the pair of all states has its first half
    before the start. -/
theorem attachPair_parts (rules : CompetitionRules) {t : ℕ} (ht : start ≤ t)
    {old : List PayloadStateSample} (new : List PayloadStateSample) (hold : ∀ s ∈ old, s.simTimestampNs < start) :
    attachPair rules t (old ++ new) = attachPair rules t new ∨
      attachPair rules t new = none ∧
        ∀ p, attachPair rules t (old ++ new) = some p → p.1.simTimestampNs < start := by
  have hnone : attachedIndex rules t old = none := by
    refine List.findIdx?_eq_none_iff.mpr fun s hs => ?_
    rw [decide_eq_false (by have := hold s hs; omega), Bool.false_and, Bool.false_and]
  have hindex : attachedIndex rules t (old ++ new) =
      (attachedIndex rules t new).map fun i => i + old.length := by
    rw [attachedIndex, List.findIdx?_append]
    have hnone' := hnone
    rw [attachedIndex] at hnone'
    rw [hnone', Option.none_or]
    rfl
  cases hn : attachedIndex rules t new with
  | none =>
    rw [hn, Option.map_none] at hindex
    exact .inl (by rw [attachPair, attachPair, hindex, hn])
  | some i =>
    rw [hn, Option.map_some] at hindex
    cases i with
    | zero =>
      refine .inr ⟨by rw [attachPair, hn], fun p hp => ?_⟩
      rw [attachPair, hindex, Nat.zero_add] at hp
      cases hlen : old.length with
      | zero =>
        rw [hlen] at hp
        cases hp
      | succ n =>
        rw [hlen] at hp
        obtain ⟨previous, hprevious, hp⟩ := Option.bind_eq_some_iff.mp hp
        obtain ⟨current, _, hp⟩ := Option.bind_eq_some_iff.mp hp
        obtain rfl := Option.some.inj hp
        rw [List.getElem?_append_left (by omega)] at hprevious
        exact hold _ (List.mem_of_getElem? hprevious)
    | succ n =>
      have hat : ∀ k, (old ++ new)[k + old.length]? = new[k]? := by
        intro k
        rw [List.getElem?_append_right (Nat.le_add_left _ _), Nat.add_sub_cancel]
      refine .inl ?_
      rw [attachPair, attachPair, hindex, hn, Nat.add_right_comm]
      dsimp only
      rw [hat, Nat.add_right_comm, hat]

theorem physicalAttach_trimmed (hs : c.startSimTimeNs = some start) {marker : ℕ}
    (hrise : Increasing PayloadStateSample.simTimestampNs (c.payloadStates marker))
    {event : CodedPayloadEvent} (he : start ≤ event.simTimestampNs) :
    c.trimmed.physicalAttach marker event = c.physicalAttach marker event := by
  have hs' : c.trimmed.startSimTimeNs = some start := hs
  have hrules : c.trimmed.rules = c.rules := rfl
  rw [physicalAttach, physicalAttach, hs, hs', hrules, trimmed_payloadStates hs]
  simp only [vehicleAt_trimmed]
  have hold : ∀ s ∈ (c.payloadStates marker).filter fun s => s.simTimestampNs < start,
      s.simTimestampNs < start := fun s hs => of_decide_eq_true (List.mem_filter.mp hs).2
  have hparts := attachPair_parts c.rules he ((c.payloadStates marker).filter
    fun s => start ≤ s.simTimestampNs) hold
  rw [← hrise.parts start] at hparts
  obtain hsame | ⟨hnone, hfirst⟩ := hparts
  · rw [hsame]
  · rw [hnone]
    cases hpair : attachPair c.rules event.simTimestampNs (c.payloadStates marker) with
    | none => rfl
    | some p =>
      have hlt := hfirst p hpair
      obtain ⟨previous, current⟩ := p
      dsimp only
      split
      · rename_i hstart
        obtain rfl := Option.some.inj hstart
        rw [decide_eq_false (Nat.not_le.mpr hlt)]
        simp only [Bool.false_and]
      · rfl

/-! ## 4. The outcomes -/

theorem attachedInPhase_trimmed (hs : c.startSimTimeNs = some start) {marker : ℕ}
    (hrise : Increasing PayloadStateSample.simTimestampNs (c.payloadStates marker))
    (events : MissionEventSample × MissionEventSample) (release : CodedPayloadEvent) :
    c.trimmed.attachedInPhase marker events release = c.attachedInPhase marker events release := by
  have hevent : c.trimmed.payloadEvent marker "attach" = c.payloadEvent marker "attach" := rfl
  rw [attachedInPhase, attachedInPhase, hevent]
  cases ha : c.payloadEvent marker "attach" with
  | none => rfl
  | some attach =>
    dsimp only
    rw [physicalAttach_trimmed hs hrise (start_le_payload hs ha)]

/-- **A delivery depends on the samples from the start on alone.** -/
theorem delivery_trimmed (hrising : c.Rising) {marker : ℕ} (hm : marker ∈ markers)
    (phase : CompetitionPhase) (before : Option ℕ) :
    c.trimmed.delivery marker phase before = c.delivery marker phase before := by
  cases hs : c.startSimTimeNs with
  | none => rw [trimmed_none hs]
  | some start =>
    have hphase : c.trimmed.phaseEvents phase = c.phaseEvents phase := rfl
    have hevent : c.trimmed.payloadEvent marker "release" = c.payloadEvent marker "release" := rfl
    have hprefix : ∀ n, c.trimmed.payloadPrefix n = c.payloadPrefix n := fun _ => rfl
    have hrules : c.trimmed.rules = c.rules := rfl
    rw [delivery, delivery, hphase, hevent]
    cases c.phaseEvents phase with
    | none => rfl
    | some events =>
      cases hr : c.payloadEvent marker "release" with
      | none => rfl
      | some release =>
        have hle := start_le_payload hs hr
        dsimp only
        rw [released, released, hprefix, releaseGate_trimmed, physicalRelease_trimmed hs hle,
          attachedInPhase_trimmed hs (hrising _ hm), hrules, settledTimestamp_trimmed hs hle]

theorem settlementOrderValid_trimmed (c : CompetitionScorer) (marker : ℕ) (boundary : Option ℕ) :
    c.trimmed.settlementOrderValid marker boundary = c.settlementOrderValid marker boundary := by
  cases hs : c.startSimTimeNs with
  | none => rw [trimmed_none hs]
  | some start =>
    have hevent : c.trimmed.payloadEvent marker "release" = c.payloadEvent marker "release" := rfl
    have hrules : c.trimmed.rules = c.rules := rfl
    cases boundary with
    | none => rfl
    | some b =>
      unfold settlementOrderValid
      rw [hevent]
      cases hr : c.payloadEvent marker "release" with
      | none => rfl
      | some release =>
        dsimp only
        rw [hrules, settledTimestamp_trimmed hs (start_le_payload hs hr)]

theorem outcomes_trimmed (hrising : c.Rising) : c.trimmed.outcomes = c.outcomes := by
  have hprefix : ∀ n, c.trimmed.missionPrefix n = c.missionPrefix n := fun _ => rfl
  have hattach : ∀ m, c.trimmed.attachBoundary m = c.attachBoundary m := fun _ => rfl
  unfold outcomes
  simp only [landing_trimmed, hprefix, hattach, homeCheckpointBoundary_trimmed,
    capacityValid_trimmed, delivery_trimmed hrising (show (2 : ℕ) ∈ markers by decide),
    delivery_trimmed hrising (show (3 : ℕ) ∈ markers by decide),
    delivery_trimmed hrising (show (4 : ℕ) ∈ markers by decide)]

theorem settlementsValid_trimmed (c : CompetitionScorer) :
    c.trimmed.settlementsValid = c.settlementsValid := by
  have hattach : ∀ m, c.trimmed.attachBoundary m = c.attachBoundary m := fun _ => rfl
  unfold settlementsValid
  simp only [settlementOrderValid_trimmed, hattach, homeCheckpointBoundary_trimmed]

theorem completes_trimmed (c : CompetitionScorer) : c.trimmed.completes = c.completes := by
  have hmission : c.trimmed.missionValid = c.missionValid := rfl
  have hpayload : c.trimmed.payloadValid = c.payloadValid := rfl
  have hdeadline : c.trimmed.deadlineValid = c.deadlineValid := rfl
  unfold completes
  rw [hmission, hpayload, hdeadline, capacityValid_trimmed, settlementsValid_trimmed,
    homeLandingTimestamp_trimmed]

end CompetitionScorer

end DroneSim
