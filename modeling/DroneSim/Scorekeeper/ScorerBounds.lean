/-
  File:      DroneSim/Scorekeeper/ScorerBounds.lean
  Subject:   Bounds and accounts of the score.

  With the official rules and decisions of a judge for three payloads no component of a result
  exceeds its maximum, the penalties are deducted one by one, and the total lies between 0 and
  380. The bound of the payload points rests on what the judge can name: every payload at most
  once (`judged_length`).

  * `Bounded` -- the invariant of the scorer's state;
  * `Accounted` -- what a result must satisfy;
  * `score_accounted` -- in every run every result does, and a second one has the same total.
-/
import DroneSim.Scorekeeper.JudgeFm2
import DroneSim.Scorekeeper.ScorerRuns
import Mathlib.Algebra.Order.BigOperators.Group.List
import Mathlib.Tactic.Linarith

namespace DroneSim

open Library

/-- The rules `load_vfs_rules` lets pass, whatever the bytes of their file. -/
def VfsRules.Official (rules : VfsRules) : Prop :=
  rules = { rules2027 with scoringChecksum := rules.scoringChecksum }

/-- The scenario has three payloads, each with its target. -/
def VfsScenario.ThreePayloads (scenario : VfsScenario) : Prop := scenario.targets.keys.length = 3

/-! ## 1. Decisions of a judge -/

namespace VfsJudge

variable {c : JudgeSetup}

/-- The decision is one of a run of the judge. -/
def Judged (c : JudgeSetup) (d : JudgeDecision) : Prop :=
  ∃ ks ds j, Run (Accepts c) init ks ds j ∧ d ∈ ds

/-- The markers are different ones of the scenario. -/
def NamesOnce (c : JudgeSetup) (eligible : List ℕ) : Prop :=
  eligible.Nodup ∧ ∀ marker ∈ eligible, marker ∈ c.scenario.targets.keys

theorem namesOnce_nil : NamesOnce c [] :=
  ⟨List.nodup_nil, fun _ h => absurd h List.not_mem_nil⟩

theorem namesOnce_eligible (j : VfsJudge) (stamp : ℕ) : NamesOnce c (j.eligible c stamp) := by
  have hperm : c.scenario.markers.Perm c.scenario.targets.keys := List.perm_insertionSort _ _
  constructor
  · exact (hperm.nodup_iff.mpr c.scenario.targets.nodup).filter _
  · intro marker hmarker
    exact hperm.mem_iff.mp (List.mem_of_mem_filter hmarker)

/-- **Every decision names each payload at most once.** -/
theorem judged_namesOnce {d : JudgeDecision} (h : Judged c d) :
    NamesOnce c d.eligibleArucoIds := by
  obtain ⟨ks, ds, j, hrun, hd⟩ := h
  induction hrun generalizing d with
  | start => exact absurd hd List.not_mem_nil
  | @step ks os j k ds t hrun hs ih =>
    rcases List.mem_append.mp hd with hd | hd
    · exact ih hd
    · have hspec := accepts_spec hs
      cases hspec with
      | repeated _ event _ _ _ checkpoint requestId d' _ hp =>
        obtain rfl := List.mem_singleton.mp hd
        exact ih (answered_of_stored hrun d ⟨requestId, _, _, hp⟩)
      | refused _ _ _ _ _ _ d' _ _ he =>
        obtain rfl := List.mem_singleton.mp hd
        rw [he]
        exact namesOnce_nil
      | approved event _ _ checkpoint requestId _ _ _ reason refs eligible i happ d' hd' =>
        obtain rfl := List.mem_singleton.mp hd
        rw [hd']
        cases happ with
        | fm1 => exact namesOnce_nil
        | fm2 => exact namesOnce_eligible j _
        | fm3 => exact namesOnce_nil
      | groundTruth => exact absurd hd List.not_mem_nil
      | vehicleStatus => exact absurd hd List.not_mem_nil
      | payloadState => exact absurd hd List.not_mem_nil
      | payloadEvent => exact absurd hd List.not_mem_nil
      | started => exact absurd hd List.not_mem_nil
      | ignored => exact absurd hd List.not_mem_nil

theorem judged_length {d : JudgeDecision} (hthree : c.scenario.ThreePayloads) (h : Judged c d) :
    d.eligibleArucoIds.length ≤ 3 := by
  obtain ⟨hnodup, hnamed⟩ := judged_namesOnce h
  exact (List.subperm_of_subset hnodup hnamed).length_le.trans hthree.le

end VfsJudge

namespace VfsScorer

variable {c : ScorerSetup} {jc : JudgeSetup} {s : VfsScorer}

/-! ## 2. Bounds -/

/-- A value between zero and a maximum. -/
def Within (value available : ℚ) : Prop := 0 ≤ value ∧ value ≤ available

theorem within_zero {available : ℚ} (h : 0 ≤ available) : Within 0 available := ⟨le_refl 0, h⟩

theorem within_ite {p : Prop} [Decidable p] {value available : ℚ} (h : Within value available) :
    Within (if p then value else 0) available := by
  split
  · exact h
  · exact within_zero (h.1.trans h.2)

/-- **The invariant of the score.** -/
structure Bounded (c : ScorerSetup) (s : VfsScorer) : Prop where
  a : Within s.a 65
  bp : Within s.bp 90
  cp : Within s.cp 90
  ba : Within s.ba 15
  ca : Within s.ca 15
  timeBonus : Within s.t 15
  frozen : s.fm2EligibleIds.length ≤ 3
  deducted : s.deductions - c.rules.deductionPoints * s.penalties.length = 0

theorem bounded_init (c : ScorerSetup) : Bounded c init where
  a := within_zero (by norm_num)
  bp := within_zero (by norm_num)
  cp := within_zero (by norm_num)
  ba := within_zero (by norm_num)
  ca := within_zero (by norm_num)
  timeBonus := within_zero (by norm_num)
  frozen := Nat.zero_le 3
  deducted := by
    show (0 : ℚ) - c.rules.deductionPoints * ((0 : ℕ) : ℚ) = 0
    rw [Nat.cast_zero, mul_zero, sub_zero]

theorem Bounded.of_frame {t : VfsScorer} (h : Bounded c s) (hframe : Frame c s t) :
    Bounded c t where
  a := hframe.a ▸ h.a
  bp := hframe.bp ▸ h.bp
  cp := hframe.cp ▸ h.cp
  ba := hframe.ba ▸ h.ba
  ca := hframe.ca ▸ h.ca
  timeBonus := hframe.timeBonus ▸ h.timeBonus
  frozen := hframe.frozen ▸ h.frozen
  deducted := hframe.deducted.trans h.deducted

/-- Up to three payloads at up to 30 points. -/
theorem within_ninety {points : List ℚ} (hlength : points.length ≤ 3)
    (hpoints : ∀ x ∈ points, Within x 30) : Within points.sum 90 := by
  refine ⟨List.sum_nonneg fun x hx => (hpoints x hx).1, ?_⟩
  have hsum := List.sum_le_card_nsmul points 30 fun x hx => (hpoints x hx).2
  have hlength' : (points.length : ℚ) ≤ 3 := by exact_mod_cast hlength
  rw [nsmul_eq_mul] at hsum
  linarith

theorem length_of_mapM {targets : ℕ → Option Target} :
    ∀ {markers : List ℕ} {found : List Target}, markers.mapM targets = some found →
      found.length = markers.length
  | [], found, h => by
    rw [List.mapM_nil] at h
    obtain rfl : [] = found := Option.some.inj h
    rfl
  | marker :: markers, found, h => by
    rw [List.mapM_cons] at h
    obtain ⟨target, _, h⟩ := Option.bind_eq_some_iff.mp h
    obtain ⟨rest, hrest, h⟩ := Option.bind_eq_some_iff.mp h
    rw [← Option.some.inj h, List.length_cons, List.length_cons, length_of_mapM hrest]

/-- The points of up to three payloads on their targets. -/
theorem within_targetSum (hrules : c.rules.Official) {eligible : List ℕ} {points : ℚ}
    (hlength : eligible.length ≤ 3) (h : targetSum c eligible = .ok points) :
    Within points 90 := by
  unfold targetSum at h
  split at h
  · rename_i targets htargets
    rw [← Except.ok.inj h]
    refine within_ninety ?_ fun x hx => ?_
    · rw [List.length_map, length_of_mapM htargets]
      exact hlength
    · obtain ⟨target, _, rfl⟩ := List.mem_map.mp hx
      rw [hrules]
      cases target <;> constructor <;> norm_num [rules2027]
  · cases h

/-- No more payloads are delivered than were frozen. -/
theorem delivered_length (c : ScorerSetup) (s : VfsScorer) :
    (s.deliveredMarkers c).length ≤ s.fm2EligibleIds.length := by
  have hsub : (s.deliveredMarkers c).Sublist s.payloads.keys :=
    List.filter_sublist.map Prod.fst
  refine (List.subperm_of_subset (s.payloads.nodup.sublist hsub) fun marker hmarker => ?_).length_le
  obtain ⟨entry, hentry, rfl⟩ := List.mem_map.mp hmarker
  have htest := (List.mem_filter.mp hentry).2
  rw [Bool.and_eq_true, Bool.and_eq_true] at htest
  exact List.contains_iff_mem.mp htest.1.1

/-- The time bonus of the official table. -/
theorem within_timeBonus (hrules : c.rules.Official) (remainingNs : ℤ) :
    Within (c.rules.timeBonus remainingNs) 15 := by
  have hrows : ∀ points ∈ ((c.rules.timeBonuses.filter fun row =>
      (row.1 : ℚ) ≤ (remainingNs : ℚ) / 1000000000).map Prod.snd), Within points 15 := by
    intro points hpoints
    obtain ⟨row, hrow, rfl⟩ := List.mem_map.mp hpoints
    have hmem := List.mem_of_mem_filter hrow
    rw [hrules] at hmem
    have hall : ∀ row ∈ rules2027.timeBonuses, 0 ≤ row.2 ∧ row.2 ≤ 15 := by decide +kernel
    exact hall row hmem
  unfold VfsRules.timeBonus
  dsimp only
  cases hmax : ((c.rules.timeBonuses.filter fun row =>
      (row.1 : ℚ) ≤ (remainingNs : ℚ) / 1000000000).map Prod.snd).max? with
  | none => exact within_zero (by norm_num)
  | some points => exact hrows points (List.max?_mem hmax)

/-- The condition on a call: a decision is one of a judge. -/
def DecidedBy (jc : JudgeSetup) (_ : VfsScorer) : Call → Prop
  | .judgeDecision decision => VfsJudge.Judged jc decision
  | _ => True

theorem Bounded.settle (hrules : c.rules.Official) (h : Bounded c s) :
    Bounded c (s.settle c) := by
  obtain ⟨u, hframe, hsame | ⟨_, remaining, hbonus⟩⟩ := settle_spec c s
  · rw [hsame]
    exact h.of_frame hframe
  · rw [hbonus]
    exact { h.of_frame hframe with timeBonus := within_timeBonus hrules remaining }

/-- **Every call keeps the bounds.** -/
theorem Bounded.step (hrules : c.rules.Official) (hscenario : jc.scenario = c.scenario)
    (hthree : c.scenario.ThreePayloads) {call : Call} {notes : List Note} {t : VfsScorer}
    (h : Bounded c s) (hdecided : DecidedBy jc s call) (hstep : StepSpec c s call t notes) :
    Bounded c t := by
  have hbonus : Within c.rules.autonomyBonus 15 := by
    rw [hrules]
    constructor <;> norm_num [rules2027]
  cases hstep with
  | plain _ _ hframe => exact h.of_frame hframe
  | lowRelease sample u hframe =>
    exact { h.of_frame hframe with bp := within_zero (by norm_num) }
  | lostRecovery sample reason u _ hframe =>
    exact { h.of_frame hframe with cp := within_zero (by norm_num) }
  | fm1 decision autonomous ref u hframe =>
    refine { h.of_frame hframe with a := ?_ }
    rw [recordFm1, hrules]
    dsimp only
    split
    · split <;> constructor <;> norm_num [rules2027]
    · exact within_zero (by norm_num)
  | fm2Raised decision u _ hframe =>
    refine { h.of_frame hframe with frozen := ?_ }
    exact VfsJudge.judged_length (hscenario ▸ hthree) hdecided
  | fm2 decision autonomous ref u v t _ hframe hrecord hframe' =>
    have hlength := VfsJudge.judged_length (hscenario ▸ hthree) hdecided
    obtain ⟨points, hpoints, rfl⟩ := map_ok hrecord
    have hwithin := within_targetSum hrules hlength hpoints
    have hu := h.of_frame hframe
    have hbp : Within (if u.bpInvalid.isSome then 0 else points) 90 := by
      split
      · exact within_zero (by norm_num)
      · exact hwithin
    refine Bounded.of_frame ?_ hframe'
    exact ⟨hu.a, hbp, hu.cp, within_ite hbonus, hu.ca, hu.timeBonus, hlength, hu.deducted⟩
  | fm3 decision autonomous ref u t hframe hframe' =>
    have hu := h.of_frame hframe
    have hlength := (delivered_length c u).trans hu.frozen
    have hcp : Within (if u.cpInvalid.isSome then 0 else
        (u.deliveredMarkers c).length * c.rules.recoveryPoints) 90 := by
      split
      · exact within_zero (by norm_num)
      · have hdelivered : ((u.deliveredMarkers c).length : ℚ) ≤ 3 := by exact_mod_cast hlength
        have hnonneg : (0 : ℚ) ≤ (u.deliveredMarkers c).length := Nat.cast_nonneg _
        rw [hrules]
        dsimp only [rules2027]
        constructor <;> linarith
    refine Bounded.of_frame ?_ hframe'
    exact ⟨hu.a, hu.bp, hcp, hu.ba, within_ite hbonus, hu.timeBonus, hu.frozen, hu.deducted⟩
  | finalize timestampNs => exact h.settle hrules

theorem bounded_run (hrules : c.rules.Official) (hscenario : jc.scenario = c.scenario)
    (hthree : c.scenario.ThreePayloads) {calls : List Call} {os : List Note}
    (h : Run (Meeting (Feeds c) (DecidedBy jc)) init calls os s) : Bounded c s := by
  refine h.invariant (bounded_init c) fun s call notes t hbounded hstep => ?_
  have hspec := step_spec c s call
  rw [← hstep.1] at hspec
  exact hbounded.step hrules hscenario hthree hstep.2 hspec

/-! ## 3. Results -/

/-- The event is of a penalty. -/
def isPenalty (eventType : String) : Bool :=
  "competition_2027.penalty.".toList.isPrefixOf eventType.toList

/-- **What a result must satisfy** beside these penalties: bounds, an event and a deduction for each
    penalty, the formula of the total, event ids without gaps. -/
structure Accounted (c : ScorerSetup) (penalties : List (String × String)) (r : ScoreResult) :
    Prop where
  total : Within r.achievedScore 380
  components : ∀ row ∈ r.ruleResults, row.ruleId ≠ "deductions" →
    Within row.awardedPoints row.availablePoints
  available : r.ruleResults.map (fun row => (row.ruleId, row.availablePoints)) =
    [("A", 65), ("BP", 90), ("CP", 90), ("R", 1.5), ("BA", 15), ("CA", 15), ("T", 15),
      ("deductions", 0)]
  charged : (r.events.filter fun event => isPenalty event.eventType).map
      (fun event => (event.eventType, event.value, event.evidenceRef)) =
    penalties.map fun p =>
      ("competition_2027.penalty." ++ p.1, -c.rules.deductionPoints, p.2)
  deducted : (r.award "deductions").map Prod.fst =
    some (c.rules.deductionPoints * (r.events.countP fun event => isPenalty event.eventType))
  formula : ∃ a bp cp multiplier ba ca t deductions,
    ["A", "BP", "CP", "R", "BA", "CA", "T", "deductions"].map (fun name =>
      (r.award name).map Prod.fst) =
      [a, bp, cp, multiplier, ba, ca, t, deductions].map some ∧
    r.achievedScore = max 0 (a + multiplier * (bp + cp) + ba + ca + t - deductions)
  ids : r.events.map ScoreEvent.eventId = List.range r.events.length

/-- The multiplier of the official table. -/
theorem within_multiplier (hrules : c.rules.Official) (weightLb : ℚ) :
    1 ≤ c.rules.multiplier weightLb ∧ c.rules.multiplier weightLb ≤ 1.5 := by
  have hall : ∀ row ∈ rules2027.weightMultipliers, 1 ≤ row.2 ∧ row.2 ≤ 1.5 := by decide +kernel
  have hrows : ∀ row ∈ c.rules.weightMultipliers, 1 ≤ row.2 ∧ row.2 ≤ 1.5 := by
    rw [hrules]
    exact hall
  unfold VfsRules.multiplier
  split
  · rename_i row hrow
    exact hrows row (List.mem_of_find?_eq_some hrow)
  · exact hrows _ (List.getLast_mem c.rules.weightMultipliers_ne)

/-- The penalty rows among the rows of a result are its penalties. -/
theorem filter_eventRows (c : ScorerSetup) (s : VfsScorer) :
    ((s.eventRows c).filter fun row => isPenalty row.1) = s.penalties.map fun p =>
      ("competition_2027.penalty." ++ p.1, -c.rules.deductionPoints, p.2) := by
  have hpenalties : ∀ row ∈ (s.penalties.map fun p =>
      ("competition_2027.penalty." ++ p.1, -c.rules.deductionPoints, p.2)),
      isPenalty row.1 = true := by
    intro row hrow
    obtain ⟨p, _, rfl⟩ := List.mem_map.mp hrow
    rw [isPenalty, String.toList_append]
    exact List.isPrefixOf_iff_prefix.mpr (List.prefix_append _ _)
  have hcomponents : ∀ row ∈ (((s.components c).map s.ruleResult).map (fun row =>
      ("competition_2027." ++ row.ruleId, row.awardedPoints, row.evidenceRef))),
      ¬isPenalty row.1 = true := by
    have hnames : ∀ name ∈ ["A", "BP", "CP", "R", "BA", "CA", "T", "deductions"],
        isPenalty ("competition_2027." ++ name) = false := by decide
    intro row hrow
    obtain ⟨result, hresult, rfl⟩ := List.mem_map.mp hrow
    obtain ⟨component, hcomponent, rfl⟩ := List.mem_map.mp hresult
    have hname : component.1 ∈ ["A", "BP", "CP", "R", "BA", "CA", "T", "deductions"] :=
      List.mem_map_of_mem (f := Prod.fst) hcomponent
    exact Bool.eq_false_iff.mp (hnames _ hname)
  have hrest : ∀ row ∈ [("competition_2027.unloaded_weight_lb", c.weightLb,
        "configuration/scenario.yaml#aircraft_empty_mass_kg"),
      ("score.finalized", s.achieved c, "scoring/result.json")], ¬isPenalty row.1 = true := by
    simp only [List.forall_mem_cons]
    exact ⟨by decide, by decide, fun _ h => absurd h List.not_mem_nil⟩
  unfold eventRows
  rw [List.filter_append, List.filter_append, List.filter_eq_nil_iff.mpr hcomponents,
    List.filter_eq_self.mpr hpenalties, List.filter_eq_nil_iff.mpr hrest, List.nil_append,
    List.append_nil]

/-- The penalty events of a result are its penalties. -/
theorem charged_finalize (c : ScorerSetup) (s : VfsScorer) (timestampNs : Option ℕ) :
    ((s.finalize c timestampNs).2.events.filter fun event => isPenalty event.eventType).map
        (fun event => (event.eventType, event.value, event.evidenceRef)) =
      (s.settle c).penalties.map fun p =>
        ("competition_2027.penalty." ++ p.1, -c.rules.deductionPoints, p.2) := by
  have hrows : ((s.finalize c timestampNs).2.events.map fun event =>
      (event.eventType, event.value, event.evidenceRef)) = (s.settle c).eventRows c := by
    unfold finalize
    dsimp only
    rw [List.map_map]
    exact List.zipIdx_map_fst 0 ((s.settle c).eventRows c)
  rw [← filter_eventRows, ← hrows, List.filter_map]
  rfl

theorem countP_penalties (c : ScorerSetup) (s : VfsScorer) (timestampNs : Option ℕ) :
    ((s.finalize c timestampNs).2.events.countP fun event => isPenalty event.eventType) =
      (s.settle c).penalties.length := by
  have hlength := congrArg List.length (charged_finalize c s timestampNs)
  rw [List.length_map, List.length_map] at hlength
  rw [List.countP_eq_length_filter, hlength]

theorem ids_finalize (c : ScorerSetup) (s : VfsScorer) (timestampNs : Option ℕ) :
    (s.finalize c timestampNs).2.events.map ScoreEvent.eventId =
      List.range (s.finalize c timestampNs).2.events.length := by
  unfold finalize
  dsimp only
  rw [List.map_map, List.length_map, List.length_zipIdx]
  exact (List.zipIdx_map_snd 0 _).trans (List.range_eq_range').symm

/-- **A result of a state within the bounds.** -/
theorem accounted_finalize (hrules : c.rules.Official) (h : Bounded c s)
    (timestampNs : Option ℕ) :
    Accounted c (s.settle c).penalties (s.finalize c timestampNs).2 := by
  have hs := h.settle hrules
  have hmultiplier := within_multiplier hrules c.weightLb
  have hdeductions : (s.settle c).deductions =
      c.rules.deductionPoints * (s.settle c).penalties.length := sub_eq_zero.mp hs.deducted
  constructor
  · have hpoints : c.rules.multiplier c.weightLb * ((s.settle c).bp + (s.settle c).cp) ≤
        1.5 * 180 := by
      refine mul_le_mul hmultiplier.2 ?_ (add_nonneg hs.bp.1 hs.cp.1) (by norm_num)
      linarith [hs.bp.2, hs.cp.2]
    have hnonneg : 0 ≤ (s.settle c).deductions := by
      rw [hdeductions, hrules]
      exact mul_nonneg (by norm_num [rules2027]) (Nat.cast_nonneg _)
    refine ⟨le_max_left _ _, max_le (by norm_num) ?_⟩
    linarith [hs.a.2, hs.ba.2, hs.ca.2, hs.timeBonus.2]
  · intro row hrow hname
    obtain ⟨component, hcomponent, rfl⟩ := List.mem_map.mp hrow
    have hall : ∀ component ∈ (s.settle c).components c, component.1 ≠ "deductions" →
        Within component.2.1 component.2.2 := by
      simp only [components, List.forall_mem_cons, ne_eq, not_true_eq_false, false_imp_iff]
      exact ⟨fun _ => hs.a, fun _ => hs.bp, fun _ => hs.cp,
        fun _ => ⟨by linarith [hmultiplier.1], hmultiplier.2⟩, fun _ => hs.ba, fun _ => hs.ca,
        fun _ => hs.timeBonus, trivial, fun _ h => absurd h List.not_mem_nil⟩
    exact hall component hcomponent hname
  · rfl
  · exact charged_finalize c s timestampNs
  · rw [countP_penalties, ← hdeductions]
    rfl
  · exact ⟨_, _, _, _, _, _, _, _, rfl, rfl⟩
  · exact ids_finalize c s timestampNs

/-- The late-home penalty is given once. -/
theorem lateHome_addPenalty (c : ScorerSetup) (s : VfsScorer) (evidenceRef : String) :
    (s.addPenalty c "late_home" evidenceRef).lateHome c = false := by
  unfold lateHome addPenalty
  dsimp only
  rw [List.all_append, Bool.and_eq_false_iff]
  refine Or.inr ?_
  rw [Bool.and_eq_false_iff]
  exact Or.inr rfl

/-- There is a time bonus: points for the recovery and the vehicle home in time. -/
def HasBonus (c : ScorerSetup) (s : VfsScorer) (active : ℤ) : Prop :=
  s.activeNs = some active ∧ s.cp > 0 ∧ s.homeBeforeDeadline = true ∧
    active ≤ c.course.durationNs

theorem settle_bonus (h : s.lateHome c = false) {active : ℤ} (hbonus : HasBonus c s active) :
    s.settle c = { s with t := c.rules.timeBonus (c.course.durationNs - active) } := by
  unfold settle
  rw [h, if_neg Bool.false_ne_true]
  dsimp only
  rw [hbonus.1]
  exact if_pos hbonus.2

theorem settle_same (h : s.lateHome c = false) (hnone : ∀ active, ¬HasBonus c s active) :
    s.settle c = s := by
  unfold settle
  rw [h, if_neg Bool.false_ne_true]
  dsimp only
  split
  · rename_i active hactive
    exact if_neg fun hbonus => hnone active ⟨hactive, hbonus⟩
  · rfl

/-- The time bonus, where there is one, is the same the second time. -/
theorem settle_of_late (h : s.lateHome c = false) : (s.settle c).settle c = s.settle c := by
  by_cases hex : ∃ active, HasBonus c s active
  · obtain ⟨active, hbonus⟩ := hex
    rw [settle_bonus h hbonus]
    exact settle_bonus (s := { s with t := c.rules.timeBonus (c.course.durationNs - active) }) h
      hbonus
  · have hsame := settle_same h (not_exists.mp hex)
    rw [hsame, hsame]

/-- **A second finalisation finds nothing more to add.** -/
theorem settle_settle (c : ScorerSetup) (s : VfsScorer) :
    (s.settle c).settle c = s.settle c := by
  by_cases hlate : s.lateHome c = true
  · have hsettle : s.settle c =
        (s.addPenalty c "late_home" "attempt-status#active-deadline").settle c := by
      conv_rhs => unfold settle
      rw [lateHome_addPenalty]
      unfold settle
      rw [hlate]
      rfl
    rw [hsettle]
    exact settle_of_late (lateHome_addPenalty c s _)
  · exact settle_of_late (Bool.eq_false_iff.mpr hlate)

/-- **Bounds and accounts of the score**: with the official rules and three payloads, in every run
    whose decisions are a judge's, every result satisfies them beside the penalties of the run up
    to it, and so does the next one, whose total a further finalisation repeats. -/
theorem score_accounted (hrules : c.rules.Official) (hscenario : jc.scenario = c.scenario)
    (hthree : c.scenario.ThreePayloads) {calls : List Call} {os : List Note}
    (hrun : Run (Meeting (Feeds c) (DecidedBy jc)) init calls os s) :
    (∀ before r after, os = before ++ .result r :: after → ∃ js t timestampNs,
      js ++ [.finalize timestampNs] <+: calls ∧
      Run (Meeting (Feeds c) (DecidedBy jc)) init js before t ∧
      r = (t.finalize c timestampNs).2 ∧ Accounted c (t.settle c).penalties r) ∧
    ∀ first second, Accounted c (s.settle c).penalties (s.finalize c first).2 ∧
      ((s.finalize c first).1.finalize c second).2.achievedScore =
        (s.finalize c first).2.achievedScore := by
  refine ⟨?_, fun first second => ⟨?_, ?_⟩⟩
  · rintro before r after rfl
    obtain ⟨js, t, timestampNs, hcalls, hbefore, rfl⟩ := result_of_run hrun
    refine ⟨js, t, timestampNs, hcalls, hbefore, rfl, ?_⟩
    exact accounted_finalize hrules (bounded_run hrules hscenario hthree hbefore) timestampNs
  · exact accounted_finalize hrules (bounded_run hrules hscenario hthree hrun) first
  · show ((s.settle c).settle c).achieved c = (s.settle c).achieved c
    rw [settle_settle]

open Sample2027

/-- The vehicle touches down off the course. -/
def offCourseCalls : List Call :=
  [.groundTruth (aloftAt (ms 10)), .groundTruth (truthAt (ms 20) 500 500 0 true)]

/-- After that the judge freezes payload 2: the result gives its points and has the penalty. -/
theorem score_accounted_frozen :
    ∃ d s os, d.eligibleArucoIds = [2] ∧
      Run (Meeting (Feeds scorer2027) (DecidedBy (setup2027 [("", "a"), ("", "b")]))) init
        (offCourseCalls ++ [Call.judgeDecision d]) os s ∧
      ("off_course_contact", "ground-truth#20000000") ∈ (s.settle scorer2027).penalties ∧
      Accounted scorer2027 (s.settle scorer2027).penalties (s.finalize scorer2027 none).2 := by
  obtain ⟨j, ds, hjudge, htest⟩ := exists_run
    (f := VfsJudge.call (setup2027 [("", "a"), ("", "b")])) (C := fun _ _ => true)
    (s := VfsJudge.init) (l := VfsJudge.refreezeCalls)
    (p := fun _ ds => ds.any fun d => d.eligibleArucoIds == [2]) (by decide +kernel)
  obtain ⟨d, hd, heligible⟩ := List.any_eq_true.mp htest
  have hdecided : ∀ s, DecidedBy (setup2027 [("", "a"), ("", "b")]) s (.judgeDecision d) :=
    fun _ => ⟨_, ds, j, hjudge.of_meeting, hd⟩
  have hdown : Run (Meeting (Feeds scorer2027) (DecidedBy (setup2027 [("", "a"), ("", "b")])))
      init offCourseCalls _ _ :=
    (Run.single (i := Call.groundTruth (aloftAt (ms 10))) ⟨rfl, trivial⟩).step
      (i := Call.groundTruth (truthAt (ms 20) 500 500 0 true)) ⟨rfl, trivial⟩
  have hrun := hdown.step (i := Call.judgeDecision d) ⟨rfl, hdecided _⟩
  have hgrown : ∀ t : VfsScorer,
      t.penalties <+: ((t.afterDecision scorer2027 d).settle scorer2027).penalties := fun t =>
    penalties_grow (c := scorer2027) ((Run.single (i := Call.judgeDecision d) rfl).step
      (i := Call.finalize none) rfl)
  have hofficial : scorer2027.rules.Official := rfl
  have hthree : scorer2027.scenario.ThreePayloads := rfl
  refine ⟨d, _, _, beq_iff_eq.mp heligible, hrun, (hgrown _).subset (by decide +kernel), ?_⟩
  exact ((score_accounted hofficial rfl hthree hrun).2 none none).1

end VfsScorer

end DroneSim
