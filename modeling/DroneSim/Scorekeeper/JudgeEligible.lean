/-
  File:      DroneSim/Scorekeeper/JudgeEligible.lean
  Subject:   Judge and validator on the eligible payloads.

  The judge measures how long a payload has stood still on the ground and looks for its target
  only in the last sample; the validator measures how long it has stood still on its target. Both
  are runs of a test along the marker's samples (`tracked_run`, `followMarker_foldl`), so what
  each side asks is a statement about the samples (`eligibleMarker_iff`, `settled_iff`).

  The two agree on every payload but for three kinds of histories (`Parted`), and on each of these
  they do not (`eligible_iff`). A payload that slid into its circle is eligible for the judge alone
  (`eligibilityAgrees_fails_on_slid_in`).
-/
import DroneSim.Artifacts.VfsScoreValidation
import DroneSim.Artifacts.VfsValidators
import DroneSim.Library.Held
import DroneSim.Scorekeeper.Config2027
import DroneSim.Scorekeeper.JudgeCalls

namespace DroneSim

open Library

namespace VfsJudge

variable {c : JudgeSetup} {j j' : VfsJudge} {ks : List Call} {ds : List JudgeDecision}
  {xs : List PayloadStateSample} {T marker : ℕ}

/-! ## 1. The recording of a run -/

/-- The payload samples the calls deliver. -/
def payloadSamples (ks : List Call) : List PayloadStateSample :=
  ks.filterMap fun k => match k with
    | .payloadState sample => some sample
    | _ => none

/-- **What is recorded of the calls**, stream by stream. -/
def recording (ks : List Call) : PhysicalBagEvidence where
  groundTruth := ks.filterMap fun k => match k with
    | .groundTruth sample => some sample
    | _ => none
  payloadStates := payloadSamples ks
  missionEvents := ks.filterMap eventOf
  vehicleStatuses := ks.filterMap fun k => match k with
    | .vehicleStatus sample => some sample
    | _ => none

/-- The samples of a marker. -/
def samplesOf (marker : ℕ) (xs : List PayloadStateSample) : List PayloadStateSample :=
  xs.filter fun x => x.arucoId = marker

/-- The samples up to a stamp. -/
def upTo (T : ℕ) (xs : List PayloadStateSample) : List PayloadStateSample :=
  xs.filter fun x => x.simTimestampNs ≤ T

theorem payloadSamples_snoc (ks : List Call) (k : Call) :
    payloadSamples (ks ++ [k]) = payloadSamples ks ++ payloadSamples [k] := List.filterMap_append

theorem samplesOf_snoc (marker : ℕ) (xs : List PayloadStateSample) (x : PayloadStateSample) :
    samplesOf marker (xs ++ [x]) =
      if x.arucoId = marker then samplesOf marker xs ++ [x] else samplesOf marker xs := by
  unfold samplesOf
  by_cases h : x.arucoId = marker <;> simp [h]

theorem marker_of_mem {x : PayloadStateSample} (h : x ∈ samplesOf marker xs) :
    x.arucoId = marker := by
  simpa using (List.mem_filter.mp h).2

/-! ## 2. The judge's side -/

/-- The payload stands still on the ground. -/
def still (sample : PayloadStateSample) : Bool := sample.grounded && slow sample

/-- **The judge's books on the payloads**, read off the samples. -/
structure Tracked (xs : List PayloadStateSample) (j : VfsJudge) : Prop where
  rising : ∀ m, Increasing PayloadStateSample.simTimestampNs (samplesOf m xs)
  latest : ∀ m, j.payloads.get m = (samplesOf m xs).getLast?
  since : ∀ m, j.payloadGroundedSince.get m =
    heldSince still PayloadStateSample.simTimestampNs (samplesOf m xs)

theorem tracked_init : Tracked [] init where
  rising _ := List.Pairwise.nil
  latest _ := rfl
  since _ := rfl

/-- A payload sample extends the history of its marker. -/
theorem Tracked.payloadState (h : Tracked xs j) {x : PayloadStateSample}
    (hts : ∀ p, j.payloads.get x.arucoId = some p → p.simTimestampNs < x.simTimestampNs) :
    Tracked (xs ++ [x]) (j.notePayload x) where
  rising m := by
    rw [samplesOf_snoc]
    split
    · rename_i hm
      refine (h.rising m).snoc ((h.rising m).lt_of_received fun t ht => ?_)
      obtain ⟨p, hp, rfl⟩ := Option.map_eq_some_iff.mp ht
      exact hts p (by rw [hm, h.latest, hp])
    · exact h.rising m
  latest m := by
    have hget : (j.notePayload x).payloads.get m = _ := Dict.get_set _ _ _ _
    rw [hget, samplesOf_snoc]
    by_cases hm : m = x.arucoId
    · rw [if_pos hm, if_pos hm.symm, List.getLast?_concat]
    · rw [if_neg hm, if_neg fun hx => hm hx.symm, h.latest]
  since m := by
    rw [samplesOf_snoc]
    by_cases hm : m = x.arucoId
    · rw [if_pos hm.symm, heldSince_snoc, holdOn, ← h.since, hm]
      show (if (x.grounded && slow x) = true then _ else _ : Dict ℕ ℕ).get x.arucoId = _
      unfold still
      split
      · rw [Dict.get_setdefault, if_pos rfl]
      · rw [Dict.get_erase_self]
    · rw [if_neg fun hx => hm hx.symm, ← h.since]
      show (if (x.grounded && slow x) = true then _ else _ : Dict ℕ ℕ).get m = _
      split
      · rw [Dict.get_setdefault, if_neg hm]
      · rw [Dict.get_erase_of_ne _ hm]

/-- Where the payloads are left alone the history stays. -/
theorem Tracked.frame (h : Tracked xs j) (hp : j'.payloads = j.payloads)
    (hg : j'.payloadGroundedSince = j.payloadGroundedSince) : Tracked xs j' where
  rising := h.rising
  latest m := by rw [hp, h.latest]
  since m := by rw [hg, h.since]

/-- **After every run the books hold the histories of the markers.** -/
theorem tracked_run (h : Run (Accepts c) init ks ds j) : Tracked (payloadSamples ks) j := by
  induction h with
  | start => exact tracked_init
  | @step ks _ i k _ u _ hs ih =>
    have hquiet : payloadSamples [k] = [] → u.payloads = i.payloads →
        u.payloadGroundedSince = i.payloadGroundedSince → Tracked (payloadSamples (ks ++ [k])) u := by
      intro hno hp hg
      rw [payloadSamples_snoc, hno, List.append_nil]
      exact ih.frame hp hg
    cases accepts_spec hs with
    | groundTruth sample =>
      have hsame := sameRecord_advance c i sample
      exact hquiet rfl hsame.payloads hsame.payloadGroundedSince
    | vehicleStatus sample =>
      have hsame := sameRecord_noteStatus c i sample
      exact hquiet rfl hsame.payloads hsame.payloadGroundedSince
    | payloadState sample hrun hts =>
      rw [payloadSamples_snoc]
      exact ih.payloadState hts
    | payloadEvent => exact hquiet rfl rfl rfl
    | started => exact hquiet rfl rfl rfl
    | ignored _ event hk => exact hquiet (by cases k <;> first | rfl | cases hk) rfl rfl
    | repeated _ event hk => exact hquiet (by cases k <;> first | rfl | cases hk) rfl rfl
    | refused _ event hk => exact hquiet (by cases k <;> first | rfl | cases hk) rfl rfl
    | approved _ _ _ _ _ _ _ _ _ _ _ i' happ =>
      cases happ <;> exact hquiet rfl rfl rfl

/-- The test has held for the settle time at the sample `last`. -/
def HeldLong (c : JudgeSetup) (p : PayloadStateSample → Bool) (ys : List PayloadStateSample)
    (last : PayloadStateSample) : Prop :=
  ∃ t, HeldFrom p PayloadStateSample.simTimestampNs ys t ∧
    c.scenario.settleNs ≤ (last.simTimestampNs : ℤ) - t

/-- The sample is the last of the history, and recent enough at `T`. -/
def FreshLast (T : ℕ) (ys : List PayloadStateSample) (last : PayloadStateSample) : Prop :=
  ys.getLast? = some last ∧ fresh T last.simTimestampNs evidenceFreshnessNs = true

/-- The judge finds the sample contained in the target of its marker. -/
def containedInTarget (c : JudgeSetup) (sample : PayloadStateSample) : Bool :=
  (c.scenario.targets.get sample.arucoId).any fun target => contained c sample target.zone

/-- The judge's settle test at the last sample: without a run it asks for no time at all. -/
theorem Tracked.settled (h : Tracked xs j) {last : PayloadStateSample}
    (hlast : (samplesOf marker xs).getLast? = some last) :
    (last.simTimestampNs : ℤ) - ((j.payloadGroundedSince.get marker).getD last.simTimestampNs : ℕ) ≥
        c.scenario.settleNs ↔
      c.scenario.settleNs ≤ 0 ∨ HeldLong c still (samplesOf marker xs) last := by
  have hrising := h.rising marker
  have hheld := held_iff (p := still) hrising (last.simTimestampNs : ℤ) c.scenario.settleNs
  rw [h.since, HeldLong, ← hheld]
  cases hs : heldSince still PayloadStateSample.simTimestampNs (samplesOf marker xs) with
  | none =>
    rw [Option.getD_none]
    constructor
    · intro hle
      exact Or.inl (by omega)
    · rintro (hle | ⟨u, hu, _⟩)
      · omega
      · cases hu
  | some u =>
    rw [Option.getD_some]
    -- a run that has begun is not younger than the last sample
    obtain ⟨⟨x, hx, hxu⟩, _⟩ := heldSince_spec hrising hs
    obtain ⟨t, ht, hle⟩ := hrising.le_received hx
    rw [received, hlast, Option.map_some] at ht
    have ht := Option.some.inj ht
    constructor
    · intro hge
      exact Or.inr ⟨u, rfl, hge⟩
    · rintro (hneg | ⟨v, hv, hge⟩)
      · omega
      · rw [Option.some.inj hv]
        exact hge

/-- **What the judge asks of the history of a marker.** -/
theorem eligibleMarker_iff (h : Tracked xs j) (T marker : ℕ) :
    j.eligibleMarker c T marker = true ↔ ∃ last, FreshLast T (samplesOf marker xs) last ∧
      containedInTarget c last = true ∧
      (c.scenario.settleNs ≤ 0 ∨ HeldLong c still (samplesOf marker xs) last) := by
  unfold eligibleMarker FreshLast
  rw [h.latest]
  cases hlast : (samplesOf marker xs).getLast? with
  | none => simp
  | some last =>
    have hmarker : last.arucoId = marker := marker_of_mem (List.mem_of_getLast? hlast)
    cases htarget : c.scenario.targets.get marker with
    | none =>
      refine iff_of_false Bool.false_ne_true ?_
      rintro ⟨_, ⟨hl, _⟩, hcontained, _⟩
      rw [← Option.some.inj hl, containedInTarget, hmarker, htarget] at hcontained
      cases hcontained
    | some target =>
      have hcontained : containedInTarget c last = contained c last target.zone := by
        rw [containedInTarget, hmarker, htarget]
        rfl
      dsimp only
      rw [Bool.and_eq_true, Bool.and_eq_true, decide_eq_true_eq, h.settled hlast, ← hcontained]
      constructor
      · rintro ⟨⟨hfresh, hsettled⟩, hin⟩
        exact ⟨last, ⟨rfl, hfresh⟩, hin, hsettled⟩
      · rintro ⟨_, ⟨hl, hfresh⟩, hin, hsettled⟩
        obtain rfl := Option.some.inj hl
        exact ⟨⟨hfresh, hsettled⟩, hin⟩

/-! ## 3. The validator's side -/

/-- The loop keeps the run of the test along the samples up to the decision. -/
theorem followMarker_foldl (c : JudgeSetup) (T marker : ℕ) (xs : List PayloadStateSample) :
    xs.foldl (followMarker c.course c.scenario T marker) (none, none) =
      (heldSince (stableOnTarget c.course c.scenario) PayloadStateSample.simTimestampNs
          (upTo T (samplesOf marker xs)), (upTo T (samplesOf marker xs)).getLast?) := by
  induction xs using List.reverseRecOn with
  | nil => rfl
  | append_singleton xs x ih =>
    rw [List.foldl_append, List.foldl_cons, List.foldl_nil, ih, samplesOf_snoc, followMarker]
    by_cases hm : x.arucoId = marker
    · by_cases hT : x.simTimestampNs > T
      · have hsame : upTo T (samplesOf marker xs ++ [x]) = upTo T (samplesOf marker xs) := by
          simp [upTo, hT]
        rw [if_pos (Or.inr hT), if_pos hm, hsame]
      · have hsnoc : upTo T (samplesOf marker xs ++ [x]) = upTo T (samplesOf marker xs) ++ [x] := by
          simp only [upTo, List.filter_append]
          rw [List.filter_cons_of_pos (by simpa using hT), List.filter_nil]
        rw [if_neg (by simp [hm, hT]), if_pos hm, hsnoc, heldSince_snoc, List.getLast?_concat, holdOn]
        split
        · cases heldSince (stableOnTarget c.course c.scenario) PayloadStateSample.simTimestampNs
            (upTo T (samplesOf marker xs)) <;> rfl
        · rfl
    · rw [if_pos (Or.inl hm), if_neg hm]

/-- **What the validator asks of the history of a marker.** -/
theorem settled_iff (h : Tracked xs j) (T marker : ℕ) :
    settledOnTarget c.scenario T
        (xs.foldl (followMarker c.course c.scenario T marker) (none, none)) = true ↔
      ∃ last, FreshLast T (upTo T (samplesOf marker xs)) last ∧
        HeldLong c (stableOnTarget c.course c.scenario) (upTo T (samplesOf marker xs)) last := by
  have hrising : Increasing PayloadStateSample.simTimestampNs (upTo T (samplesOf marker xs)) :=
    (h.rising marker).sublist List.filter_sublist
  rw [followMarker_foldl]
  unfold FreshLast HeldLong
  cases hlast : (upTo T (samplesOf marker xs)).getLast? with
  | none =>
    refine iff_of_false ?_ ?_
    · cases heldSince (stableOnTarget c.course c.scenario) PayloadStateSample.simTimestampNs
        (upTo T (samplesOf marker xs)) <;> exact Bool.false_ne_true
    · rintro ⟨_, ⟨hl, _⟩, _⟩
      cases hl
  | some last =>
    have hheld := held_iff (p := stableOnTarget c.course c.scenario) hrising
      (last.simTimestampNs : ℤ) c.scenario.settleNs
    have hrhs : (∃ l, (some last = some l ∧
        fresh T l.simTimestampNs evidenceFreshnessNs = true) ∧ ∃ t,
          HeldFrom (stableOnTarget c.course c.scenario) PayloadStateSample.simTimestampNs
            (upTo T (samplesOf marker xs)) t ∧
              c.scenario.settleNs ≤ (l.simTimestampNs : ℤ) - t) ↔
        fresh T last.simTimestampNs evidenceFreshnessNs = true ∧ ∃ u,
          heldSince (stableOnTarget c.course c.scenario) PayloadStateSample.simTimestampNs
            (upTo T (samplesOf marker xs)) = some u ∧
              c.scenario.settleNs ≤ (last.simTimestampNs : ℤ) - u := by
      rw [hheld]
      constructor
      · rintro ⟨_, ⟨hl, hfresh⟩, hlong⟩
        obtain rfl := Option.some.inj hl
        exact ⟨hfresh, hlong⟩
      · rintro ⟨hfresh, hlong⟩
        exact ⟨last, ⟨rfl, hfresh⟩, hlong⟩
    rw [hrhs]
    cases heldSince (stableOnTarget c.course c.scenario) PayloadStateSample.simTimestampNs
        (upTo T (samplesOf marker xs)) with
    | none => simp [settledOnTarget]
    | some u => simp [settledOnTarget]

/-! ## 4. Where the two part -/

/-- **The histories of a marker on which judge and validator part.** A sample came after the
    decision; or the payload stood still for the settle time and is contained at the end, but was
    not on its target all that time; or it was on its target in the eyes of the validator, and is
    not contained in those of the judge. -/
inductive Parted (c : JudgeSetup) (T : ℕ) (ys : List PayloadStateSample) : Prop where
  | late (x last : PayloadStateSample) (hx : x ∈ ys) (hafter : T < x.simTimestampNs)
      (hlast : FreshLast T (upTo T ys) last)
      (hlong : HeldLong c (stableOnTarget c.course c.scenario) (upTo T ys) last)
  | slidIn (last : PayloadStateSample) (hlast : FreshLast T ys last)
      (hin : containedInTarget c last = true)
      (hstill : c.scenario.settleNs ≤ 0 ∨ HeldLong c still ys last)
      (hnot : ¬ HeldLong c (stableOnTarget c.course c.scenario) ys last)
  | disputed (last : PayloadStateSample) (hlast : FreshLast T ys last)
      (hlong : HeldLong c (stableOnTarget c.course c.scenario) ys last)
      (hout : containedInTarget c last = false)

/-- What stands still on its target stands still. -/
theorem still_of_stable {sample : PayloadStateSample}
    (h : stableOnTarget c.course c.scenario sample = true) : still sample = true := by
  rw [stableOnTarget, Bool.and_eq_true, payloadContactsTarget, Option.any_eq_true] at h
  obtain ⟨hslow, target, _, hcontact⟩ := h
  rw [payloadContactsWaypoint, Bool.and_eq_true] at hcontact
  rw [still, Bool.and_eq_true]
  exact ⟨hcontact.1, hslow⟩

theorem HeldLong.still {ys : List PayloadStateSample} {last : PayloadStateSample}
    (h : HeldLong c (stableOnTarget c.course c.scenario) ys last) : HeldLong c still ys last := by
  obtain ⟨t, ht, hle⟩ := h
  exact ⟨t, ht.mono fun _ _ => still_of_stable, hle⟩

/-- A history with a fresh last sample ends by the decision. -/
theorem FreshLast.upTo_eq {ys : List PayloadStateSample} {last : PayloadStateSample}
    (h : FreshLast T ys last) (hrising : Increasing PayloadStateSample.simTimestampNs ys) :
    upTo T ys = ys := by
  refine List.filter_eq_self.mpr fun x hx => decide_eq_true ?_
  obtain ⟨t, ht, hle⟩ := hrising.le_received hx
  rw [received, h.1, Option.map_some] at ht
  have hfresh := (fresh_iff.mp h.2).1
  have ht := Option.some.inj ht
  omega

/-- **Judge and validator differ on a marker exactly on a parted history.** -/
theorem differ_iff (h : Tracked xs j) (T marker : ℕ) :
    j.eligibleMarker c T marker ≠ settledOnTarget c.scenario T
        (xs.foldl (followMarker c.course c.scenario T marker) (none, none)) ↔
      Parted c T (samplesOf marker xs) := by
  have hjudge := eligibleMarker_iff (c := c) h T marker
  have hvalidator := settled_iff (c := c) h T marker
  have hrising := h.rising marker
  generalize samplesOf marker xs = ys at hjudge hvalidator hrising ⊢
  rw [ne_eq, Bool.eq_iff_iff, hjudge, hvalidator]
  constructor
  · intro hdiffer
    by_cases hafter : ∃ x ∈ ys, T < x.simTimestampNs
    · -- the judge has no fresh sample, so the validator alone finds the payload eligible
      obtain ⟨x, hx, hT⟩ := hafter
      have hnot : ¬ ∃ last, FreshLast T ys last ∧ containedInTarget c last = true ∧
          (c.scenario.settleNs ≤ 0 ∨ HeldLong c VfsJudge.still ys last) := by
        rintro ⟨last, hlast, _⟩
        have hmem : x ∈ upTo T ys := by
          rw [hlast.upTo_eq hrising]
          exact hx
        have hle := of_decide_eq_true (List.mem_filter.mp hmem).2
        omega
      by_contra hp
      refine hdiffer (iff_of_false hnot ?_)
      rintro ⟨last, hlast, hlong⟩
      exact hp (.late x last hx hT hlast hlong)
    · have hsame : upTo T ys = ys := by
        refine List.filter_eq_self.mpr fun x hx => decide_eq_true ?_
        by_contra hle
        exact hafter ⟨x, hx, by omega⟩
      rw [hsame] at hdiffer
      by_contra hp
      refine hdiffer ⟨?_, ?_⟩
      · rintro ⟨last, hlast, hin, hstill⟩
        refine ⟨last, hlast, ?_⟩
        by_contra hnot
        exact hp (.slidIn last hlast hin hstill hnot)
      · rintro ⟨last, hlast, hlong⟩
        refine ⟨last, hlast, ?_, Or.inr hlong.still⟩
        cases hin : containedInTarget c last with
        | true => rfl
        | false => exact absurd (.disputed last hlast hlong hin) hp
  · intro hp hiff
    cases hp with
    | late x last hx hT hlast hlong =>
      obtain ⟨last', hlast', _⟩ := hiff.mpr ⟨last, hlast, hlong⟩
      have hmem : x ∈ upTo T ys := by
        rw [hlast'.upTo_eq hrising]
        exact hx
      have hle := of_decide_eq_true (List.mem_filter.mp hmem).2
      omega
    | slidIn last hlast hin hstill hnot =>
      obtain ⟨last', hlast', hlong⟩ := hiff.mp ⟨last, hlast, hin, hstill⟩
      rw [hlast.upTo_eq hrising] at hlast' hlong
      have hll : last = last' := Option.some.inj (hlast.1.symm.trans hlast'.1)
      exact hnot (hll ▸ hlong)
    | disputed last hlast hlong hout =>
      have hv : ∃ last, FreshLast T (upTo T ys) last ∧
          HeldLong c (stableOnTarget c.course c.scenario) (upTo T ys) last := by
        rw [hlast.upTo_eq hrising]
        exact ⟨last, hlast, hlong⟩
      obtain ⟨last', hlast', hin, _⟩ := hiff.mpr hv
      have hll : last = last' := Option.some.inj (hlast.1.symm.trans hlast'.1)
      rw [hll, hin] at hout
      cases hout

/-- **Judge and validator agree on the eligible payloads if and only if no target's history is
    parted**, after every run of the judge and at every time. -/
theorem eligible_iff (h : Run (Accepts c) init ks ds j) (T : ℕ) :
    j.eligible c T = eligibleFromPhysics T (recording ks) c.course c.scenario ↔
      ∀ marker ∈ c.scenario.markers, ¬ Parted c T (samplesOf marker (payloadSamples ks)) := by
  have htracked := tracked_run h
  have hiff : ∀ marker, ¬ Parted c T (samplesOf marker (payloadSamples ks)) ↔
      j.eligibleMarker c T marker = settledOnTarget c.scenario T
        ((recording ks).payloadStates.foldl (followMarker c.course c.scenario T marker)
          (none, none)) := by
    intro marker
    rw [← differ_iff htracked, not_not]
    rfl
  constructor
  · intro heq marker hm
    rw [hiff, Bool.eq_iff_iff]
    have hmem : marker ∈ j.eligible c T ↔
        marker ∈ eligibleFromPhysics T (recording ks) c.course c.scenario := by rw [heq]
    unfold eligible eligibleFromPhysics at hmem
    rw [List.mem_filter, List.mem_filter, and_iff_right hm, and_iff_right hm] at hmem
    exact hmem
  · intro hall
    exact List.filter_congr fun marker hm => (hiff marker).mp (hall marker hm)

section SlidIn

open Sample2027

/-- Payload 2 slides at a tenth of a metre a second, `y` metres before the middle of circle C. -/
def slidingAt (ns : ℕ) (y : ℚ) : PayloadStateSample :=
  { restingAt ns 2 (-86.106) (-3.048 + y) with linearVelocityXyz := ⟨0, -0.1, 0⟩ }

/-- From outside the circle of 0.4572 metres onto its rim. -/
def slidIn : List Call :=
  [.payloadState (slidingAt 0 0.6), .payloadState (slidingAt (ms 1000) 0.5)]

def delivered : List Call :=
  [.payloadState (deliveredAt 0 2), .payloadState (deliveredAt (ms 1000) 2)]

theorem run_of_test (ks : List Call) (ids : List ℕ)
    (h : (exec (call (setup2027 [])) (fun _ _ => true) init ks).any (fun r =>
      decide (r.1.eligible (setup2027 []) (ms 1000) = ids)) = true) :
    ∃ j ds, Run (Accepts (setup2027 [])) init ks ds j ∧
      j.eligible (setup2027 []) (ms 1000) = ids := by
  obtain ⟨j, ds, hrun, hp⟩ :=
    exists_run (p := fun (j : VfsJudge) _ => decide (j.eligible (setup2027 []) (ms 1000) = ids)) h
  exact ⟨j, ds, hrun.of_meeting, of_decide_eq_true hp⟩

/-- A payload that stands in its circle is eligible for both. -/
theorem eligible_iff_delivered : ∃ j ds, Run (Accepts (setup2027 [])) init delivered ds j ∧
    j.eligible (setup2027 []) (ms 1000) = [2] ∧
    (j.eligible (setup2027 []) (ms 1000) =
        eligibleFromPhysics (ms 1000) (recording delivered) course2027 scenario2027 ↔
      ∀ marker ∈ scenario2027.markers,
        ¬ Parted (setup2027 []) (ms 1000) (samplesOf marker (payloadSamples delivered))) := by
  obtain ⟨j, ds, h, hp⟩ := run_of_test delivered [2] (by decide +kernel)
  exact ⟨j, ds, h, hp, eligible_iff h (ms 1000)⟩

/-- Judge and validator find the same payloads eligible, in every accepted configuration. -/
def EligibilityAgrees : Prop :=
  ∀ (c : JudgeSetup) ks ds j T, AcceptedConfiguration c.course c.scenario →
    Run (Accepts c) init ks ds j →
      j.eligible c T = eligibleFromPhysics T (recording ks) c.course c.scenario

theorem accepted2027 : AcceptedConfiguration course2027 scenario2027 :=
  ⟨by decide +kernel, by decide +kernel, by decide +kernel⟩

/-- **A payload that slid into its circle within the settle time is eligible for the judge, and is
    not for the validator.** -/
theorem eligibilityAgrees_fails_on_slid_in : ¬ EligibilityAgrees := by
  intro hclaim
  obtain ⟨j, ds, h, hp⟩ := run_of_test slidIn [2] (by decide +kernel)
  have heq := hclaim (setup2027 []) _ _ j (ms 1000) accepted2027 h
  have hnone : eligibleFromPhysics (ms 1000) (recording slidIn) course2027 scenario2027 = [] := by
    decide +kernel
  rw [hp] at heq
  exact absurd (heq.trans hnone) (List.cons_ne_nil _ _)

end SlidIn

end VfsJudge

end DroneSim
