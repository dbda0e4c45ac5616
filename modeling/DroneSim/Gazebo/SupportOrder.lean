/-
  File:      DroneSim/Gazebo/SupportOrder.lean
  Subject:   VEHICLE SUPPORT EPOCH BY EPOCH, AND IN EVERY ORDER OF ARRIVAL.

  A run of the tracker puts out the epochs `i`, `2i`, `3i`, ... each with its own odometry and the
  payload support of exactly that epoch (`exactEpochs`). A payload sample that skips an epoch
  faults at once. Where the odometry skips an epoch, that epoch and all later ones stay inside,
  and the run faults when its lookahead is full.

  An epoch is put out as soon as one leg contact of its interval is known. A positive contact of
  the same interval that comes after that is accepted and lost, so the output depends on the
  order of arrival (`lateContact`). Where every positive contact is `onTime` the output is the
  same in every order, and says what the streams say (`contactTruth_onTime`).
-/
import DroneSim.Gazebo.SupportEpochs

namespace DroneSim

open Library

namespace VehicleSupportTracker

variable {ids : List ℕ} {i n k : ℕ} {f : SupportFacts} {s t : VehicleSupportTracker}
  {input : SupportInput} {out : Support} {is js : List SupportInput} {os ps : List Support}

/-! ## 1. Facts that come later -/

theorem Touched.add (h : Touched i f k) (input : SupportInput) : Touched i (f.add input) k := by
  obtain ⟨l, hl, heq⟩ := h
  cases input with
  | legContact stamp inContact => exact ⟨l, List.mem_append_left _ hl, heq⟩
  | odometry sample => exact ⟨l, hl, heq⟩
  | payload marker stamp grounded attached => exact ⟨l, hl, heq⟩

/-- The odometry that was received stays. -/
theorem odometry_add {o : NativeOdometry} (h : o ∈ f.odometry) (input : SupportInput) :
    o ∈ (f.add input).odometry := by
  cases input with
  | legContact stamp inContact => exact h
  | odometry sample => exact List.mem_append_left _ h
  | payload marker stamp grounded attached => exact h

/-- **The payload support of an epoch that is out does not change.** -/
theorem Holds.supported_add (h : Holds ids i f n s) (hs : s.accept input = .ok t) (hk : k < n) :
    Supported ids i (f.add input) k ↔ Supported ids i f k := by
  cases input with
  | legContact stamp inContact => exact Iff.rfl
  | odometry sample => exact Iff.rfl
  | payload marker stamp grounded attached =>
    refine exists_congr fun m => and_congr_right fun hm => ?_
    simp only [SupportFacts.add]
    split
    · rename_i heq
      subst heq
      rw [List.mem_append, List.mem_singleton, or_iff_left]
      intro hnew
      have hepoch : (k + 1) * i = stamp := congrArg Prod.fst hnew
      -- the new sample has the next stamp of its stream, and the epoch has one already
      have hpaced := (h.accept hs).paced m
      simp only [SupportFacts.add, if_true] at hpaced
      have hstamp := hpaced.stamp (k := (f.payloads m).length) (List.getElem?_concat_length ..)
      have hlength := h.payload_behind hm
      have heq := Nat.eq_of_mul_eq_mul_right h.pos (hepoch.trans hstamp)
      omega
    · exact Iff.rfl

/-! ## 2. Runs -/

/-- An epoch's odometry with its support, as far as the order of arrival does not matter: payload
    support is never missed, and support is never made up. -/
structure Belongs (ids : List ℕ) (i : ℕ) (f : SupportFacts) (k : ℕ) (out : Support) : Prop where
  odometry : out.1 ∈ f.odometry
  stamp : out.1.simTimestampNs = (k + 1) * i
  supported : Supported ids i f k → out.2 = true
  flag : out.2 = true → Supported ids i f k ∨ Touched i f k

theorem Carries.belongs (h : Carries ids i f k out) : Belongs ids i f k out :=
  ⟨h.odometry, h.stamp, fun hs => h.flag.mpr (Or.inl hs), h.flag.mp⟩

/-- **What holds after a run.** -/
structure Ran (ids : List ℕ) (i : ℕ) (is : List SupportInput) (os : List Support)
    (s : VehicleSupportTracker) : Prop where
  holds : Holds ids i (supportFacts is) os.length s
  joined : Joined (Ready ids i (supportFacts is)) (Belongs ids i (supportFacts is)) os
  done : ¬ Ready ids i (supportFacts is) os.length
  room : s.odometryEpochs.keys.length ≤ completedCapacity

theorem Ran.start (hne : ids ≠ []) (hnodup : ids.Nodup) (hpos : 0 < i) :
    Ran ids i [] [] (initial ids i hne hnodup hpos) where
  holds := Holds.start hne hnodup hpos
  joined := .start
  done := by
    rintro ⟨hpayload, -, -⟩
    obtain ⟨m, hm⟩ := List.exists_mem_of_ne_nil ids hne
    obtain ⟨p, hp, -⟩ := hpayload m hm
    exact absurd hp List.not_mem_nil
  room := Nat.zero_le _

theorem Ran.step (h : Ran ids i is os s) (hs : s.step input = .ok (t, ps)) :
    Ran ids i (is ++ [input]) (os ++ ps) t := by
  obtain ⟨u, hu, -⟩ := bind_ok hs
  obtain ⟨hholds, hcarries, hstop, hroom⟩ := h.holds.step hs
  rw [← supportFacts_snoc, ← List.length_append] at hholds hstop
  refine ⟨hholds, (h.joined.mono ?_ ?_).append ?_ ?_, hstop, hroom⟩
  · intro k hready
    rw [supportFacts_snoc]
    exact hready.add input
  · intro k out hk hb
    have hsame := h.holds.supported_add hu hk
    rw [supportFacts_snoc]
    exact ⟨odometry_add hb.odometry input, hb.stamp, fun hsup => hb.supported (hsame.mp hsup),
      fun hout => (hb.flag hout).imp hsame.mpr fun ht => ht.add input⟩
  · intro k hk
    rw [← List.length_append] at hk
    exact hholds.past k hk
  · intro k out hk
    rw [supportFacts_snoc]
    exact (hcarries k out hk).belongs

theorem ran (hne : ids ≠ []) (hnodup : ids.Nodup) (hpos : 0 < i)
    (h : Run (Steps step) (initial ids i hne hnodup hpos) is os s) : Ran ids i is os s := by
  induction h with
  | start => exact Ran.start hne hnodup hpos
  | step _ hs ih => exact ih.step hs

/-! ## 3. Epochs -/

/-- The odometry has a sample behind the `k`-th epoch and none of it. -/
def Skips (i : ℕ) (f : SupportFacts) (k : ℕ) : Prop :=
  (∃ o ∈ f.odometry, (k + 1) * i < o.simTimestampNs) ∧
    ∀ o ∈ f.odometry, o.simTimestampNs ≠ (k + 1) * i

/-- **The epochs of a run**: they are stamped `i`, `2i`, `3i`, ... in order, each has its odometry,
    one support fact of each payload, and a flag that these facts and a leg contact of the
    interval account for; payload streams skip no epoch. -/
structure ExactEpochs (ids : List ℕ) (i : ℕ) (f : SupportFacts) (os : List Support) : Prop where
  stamps : os.map (fun out => out.1.simTimestampNs) =
    (List.range os.length).map fun k => (k + 1) * i
  odometry : ∀ out ∈ os, out.1 ∈ f.odometry
  payloads : ∀ k < os.length, ∀ m ∈ ids, ∃! p, p ∈ f.payloads m ∧ p.1 = (k + 1) * i
  flag : ∀ k out, os[k]? = some out → (Supported ids i f k → out.2 = true) ∧
    (out.2 = true → Supported ids i f k ∨ Touched i f k)
  paced : ∀ m, Paced Prod.fst i (f.payloads m)

/-- **Where an epoch is skipped**: it stays inside with all that follow, and no more than the
    lookahead's odometry samples can come after it. -/
structure Stuck (i : ℕ) (f : SupportFacts) (os : List Support) (k : ℕ) : Prop where
  nothing : os.length ≤ k
  room : (f.odometry.filter fun o => (k + 1) * i < o.simTimestampNs).length ≤ completedCapacity

theorem Ran.epochs (h : Ran ids i is os s) : ExactEpochs ids i (supportFacts is) os where
  stamps := by
    refine List.ext_getElem? fun k => ?_
    rw [List.getElem?_map, List.getElem?_map]
    cases hk : os[k]? with
    | none =>
      have hlength := List.getElem?_eq_none_iff.mp hk
      rw [List.getElem?_eq_none (by rwa [List.length_range])]
      rfl
    | some out =>
      have hlt := (List.getElem?_eq_some_iff.mp hk).1
      rw [List.getElem?_range hlt, Option.map_some, Option.map_some, (h.joined.value k out hk).stamp]
  odometry := by
    intro out hout
    obtain ⟨k, hk⟩ := List.getElem?_of_mem hout
    exact (h.joined.value k out hk).odometry
  payloads := by
    intro k hk m hm
    obtain ⟨p, hp, hstamp⟩ := (h.joined.ready k hk).payload m hm
    exact ⟨p, ⟨hp, hstamp⟩, fun q ⟨hq, hstamp'⟩ =>
      ((h.holds.paced m).increasing h.holds.pos).eq_of_stamp hq hp (hstamp'.trans hstamp.symm)⟩
  flag := fun k out hk => ⟨(h.joined.value k out hk).supported, (h.joined.value k out hk).flag⟩
  paced := h.holds.paced

theorem Ran.stuck (h : Ran ids i is os s) (hskips : Skips i (supportFacts is) k) :
    Stuck i (supportFacts is) os k := by
  have hnothing : os.length ≤ k := by
    by_contra hlt
    obtain ⟨o, ho, hstamp⟩ := (h.joined.ready k (by omega)).odometry
    exact hskips.2 o ho hstamp
  refine ⟨hnothing, Nat.le_trans ?_ h.room⟩
  -- the samples behind the skipped epoch are all held, under different stamps
  have hnodup : (((supportFacts is).odometry.filter fun o => (k + 1) * i < o.simTimestampNs).map
      NativeOdometry.simTimestampNs).Nodup := by
    refine List.Nodup.sublist (List.filter_sublist.map _) ?_
    exact List.pairwise_map.mpr (h.holds.odometry.imp fun hlt => Nat.ne_of_lt hlt)
  have hsub : ((supportFacts is).odometry.filter fun o => (k + 1) * i < o.simTimestampNs).map
      NativeOdometry.simTimestampNs ⊆ s.odometryEpochs.keys := by
    intro stamp hmem
    obtain ⟨o, ho, rfl⟩ := List.mem_map.mp hmem
    obtain ⟨ho, hlt⟩ := List.mem_filter.mp ho
    have hbehind : os.length * i < o.simTimestampNs := by
      have hle := (lt_epoch_iff h.holds.pos).mpr hnothing
      have hlt := of_decide_eq_true hlt
      omega
    rw [Dict.mem_keys, h.holds.odometryEpochs, if_pos hbehind, stamped, List.find?_isSome]
    exact ⟨o, ho, decide_eq_true rfl⟩
  have hle := (hnodup.subperm hsub).length_le
  rwa [List.length_map] at hle

theorem supportFacts_odometry (is js : List SupportInput) :
    (supportFacts (is ++ js)).odometry = (supportFacts is).odometry ++ (supportFacts js).odometry :=
  List.filterMap_append

/-- A skipped epoch stays skipped. -/
theorem Skips.append (h : Skips i (supportFacts is) k) (hr : Ran ids i (is ++ js) os s) :
    Skips i (supportFacts (is ++ js)) k := by
  obtain ⟨⟨o, ho, hlt⟩, hnone⟩ := h
  have hodometry := hr.holds.odometry
  rw [supportFacts_odometry] at hodometry
  rw [Skips, supportFacts_odometry]
  refine ⟨⟨o, List.mem_append_left _ ho, hlt⟩, fun p hp => ?_⟩
  rcases List.mem_append.mp hp with hp | hp
  · exact hnone p hp
  · have hafter := hodometry.across ho hp
    omega

/-- The next payload sample is one of the next epoch. -/
theorem Ran.payload_stamp (h : Ran ids i is os s) {marker stamp : ℕ} {grounded attached : Bool}
    (hs : s.step (.payload marker stamp grounded attached) = .ok (t, ps)) :
    stamp = (((supportFacts is).payloads marker).length + 1) * i := by
  obtain ⟨u, hu, -⟩ := bind_ok hs
  have hpaced := (h.holds.accept hu).paced marker
  simp only [SupportFacts.add, if_true] at hpaced
  exact hpaced.stamp (k := ((supportFacts is).payloads marker).length)
    (List.getElem?_concat_length ..)

/-- **Support epochs are exact**: a run puts out the epochs in order, each once, with its own
    odometry and payload support. A payload sample that is not one of the next epoch faults. Where
    the odometry skips an epoch, nothing of it and of what follows is put out, now or later, and
    the run faults before its lookahead's samples are exceeded. -/
theorem exactEpochs (hne : ids ≠ []) (hnodup : ids.Nodup) (hpos : 0 < i)
    (h : Run (Steps step) (initial ids i hne hnodup hpos) is os s) :
    ExactEpochs ids i (supportFacts is) os ∧
    (∀ m stamp grounded attached, stamp ≠ (((supportFacts is).payloads m).length + 1) * i →
      ∃ fault, s.step (.payload m stamp grounded attached) = .error fault) ∧
    ∀ k, Skips i (supportFacts is) k → ∀ js ps t, Run (Steps step) s js ps t →
      Stuck i (supportFacts (is ++ js)) (os ++ ps) k := by
  have hran := ran hne hnodup hpos h
  refine ⟨hran.epochs, fun m stamp grounded attached hstamp => ?_,
    fun k hskips js ps t hrest => ?_⟩
  · cases hs : s.step (.payload m stamp grounded attached) with
    | error fault => exact ⟨fault, rfl⟩
    | ok p => exact absurd (hran.payload_stamp hs) hstamp
  · have hran' := ran hne hnodup hpos (h.append hrest)
    exact hran'.stuck (hskips.append hran')

/-- The odometry of a vehicle at rest. -/
def atRest (stamp : ℕ) : NativeOdometry :=
  ⟨stamp, ⟨0, 0, 0⟩, ⟨0, 0, 0, 1⟩, ⟨0, 0, 0⟩, ⟨0, 0, 0⟩⟩

/-- One interval of ten with all its samples. -/
def oneEpoch : List SupportInput :=
  [SupportInput.legContact 4 true, .payload 2 10 false false, .payload 3 10 true false,
    .payload 4 10 false true, .odometry (atRest 10)]

theorem exactEpochs_one : ∃ os, os.length = 1 ∧
    ExactEpochs [2, 3, 4] 10 (supportFacts oneEpoch) os := by
  obtain ⟨s, os, hrun, hp⟩ := exists_run (f := step) (C := fun _ _ => true)
    (s := initial [2, 3, 4] 10 (by decide) (by decide) (by decide)) (l := oneEpoch)
    (p := fun _ (os : List Support) => decide (os.length = 1)) (by decide +kernel)
  exact ⟨os, of_decide_eq_true hp, (exactEpochs _ _ _ hrun.of_meeting).1⟩

/-- **A skipped epoch alone is no fault**: the run below has no odometry of its first epoch. -/
theorem skippedEpoch_accepted : ∃ os s,
    Run (Steps step) (initial [2, 3, 4] 10 (by decide) (by decide) (by decide))
      [.odometry (atRest 20)] os s ∧
    Skips 10 (supportFacts [.odometry (atRest 20)]) 0 := by
  obtain ⟨s, os, hrun, -⟩ := exists_run (f := step) (C := fun _ _ => true)
    (s := initial [2, 3, 4] 10 (by decide) (by decide) (by decide)) (l := [.odometry (atRest 20)])
    (p := fun _ _ => true) (by decide +kernel)
  refine ⟨os, s, hrun.of_meeting, ⟨atRest 20, List.mem_singleton_self _, by decide⟩, ?_⟩
  intro o ho
  rw [List.mem_singleton.mp ho]
  decide

/-! ## 4. Orders of arrival -/

/-- The epoch is out: every payload has come up to it, and its support is no longer held. -/
def emitted (s : VehicleSupportTracker) (epoch : ℕ) : Bool :=
  (s.payloadIds.all fun m => (s.lastPayloadStamps.get m).any fun stamp => epoch ≤ stamp) &&
    (s.payloadEpochs.get epoch).isNone

/-- A positive leg contact comes before its epoch is out. -/
def onTime (s : VehicleSupportTracker) : SupportInput → Bool
  | .legContact stamp true => !s.emitted (s.epoch stamp)
  | _ => true

/-- The steps that take each positive contact before its epoch is out. -/
def OnTimeSteps : VehicleSupportTracker → SupportInput → List Support → VehicleSupportTracker →
    Prop :=
  Meeting (Steps step) fun s input => s.onTime input = true

theorem Holds.emitted (h : Holds ids i f n s) (hk : k < n) : s.emitted ((k + 1) * i) = true := by
  rw [VehicleSupportTracker.emitted, Bool.and_eq_true, List.all_eq_true, h.payloadIds]
  constructor
  · intro m hm
    have hlength := h.payload_behind hm
    cases hr : received Prod.fst (f.payloads m) with
    | none =>
      rw [received_eq_none.mp hr, List.length_nil] at hlength
      omega
    | some stamp =>
      have hle : (k + 1) * i ≤ (f.payloads m).length * i := Nat.mul_le_mul_right i (by omega)
      rw [h.lastPayload, hr, Option.any_some, decide_eq_true_eq, (h.paced m).received_eq hr]
      exact hle
  · rw [Option.isNone_iff_eq_none]
    by_contra hne
    obtain ⟨d, hd⟩ := Option.ne_none_iff_exists'.mp hne
    obtain ⟨m, b, hb⟩ := h.inhabited _ d hd
    have hbehind := ((h.payloadEpochs _ m b).mp ⟨d, hd, hb⟩).1
    rw [lt_epoch_iff h.pos] at hbehind
    omega

/-- **A sample that is on time says nothing new of an epoch that is out.** -/
theorem Holds.touched_add (h : Holds ids i f n s) (hk : k < n) (honTime : s.onTime input = true) :
    Touched i (f.add input) k ↔ Touched i f k := by
  refine ⟨fun ⟨l, hl, hepoch, hpositive⟩ => ?_, fun ht => ht.add input⟩
  cases input with
  | legContact stamp inContact =>
    rcases List.mem_append.mp hl with hl | hl
    · exact ⟨l, hl, hepoch, hpositive⟩
    · obtain rfl := List.mem_singleton.mp hl
      obtain rfl : inContact = true := hpositive
      have hout := h.emitted hk
      rw [← hepoch, ← h.interval] at hout
      rw [onTime, epoch, hout] at honTime
      exact absurd honTime (by decide)
  | odometry sample => exact ⟨l, hl, hepoch, hpositive⟩
  | payload marker stamp grounded attached => exact ⟨l, hl, hepoch, hpositive⟩

theorem joined_onTime (hne : ids ≠ []) (hnodup : ids.Nodup) (hpos : 0 < i)
    (h : Run OnTimeSteps (initial ids i hne hnodup hpos) is os s) :
    Joined (Ready ids i (supportFacts is)) (Carries ids i (supportFacts is)) os := by
  induction h with
  | start => exact .start
  | @step is os s input ps t hrun hs ih =>
    obtain ⟨hs, honTime⟩ := hs
    have hran := ran hne hnodup hpos hrun.of_meeting
    obtain ⟨u, hu, -⟩ := bind_ok hs
    obtain ⟨hholds, hcarries, -⟩ := hran.holds.step hs
    rw [supportFacts_snoc]
    refine (ih.mono (fun k hready => hready.add input) ?_).append ?_ hcarries
    · intro k out hk hc
      exact ⟨odometry_add hc.odometry input, hc.stamp,
        hc.flag.trans (or_congr (hran.holds.supported_add hu hk)
          (hran.holds.touched_add hk honTime)).symm⟩
    · exact fun k hk => hholds.past k hk

/-- An epoch carries one output. -/
theorem Carries.unique {p q : Support}
    (hodometry : Increasing NativeOdometry.simTimestampNs f.odometry) (hp : Carries ids i f k p) (hq : Carries ids i f k q) : p = q := by
  refine Prod.ext (hodometry.eq_of_stamp hp.odometry hq.odometry (hp.stamp.trans hq.stamp.symm)) ?_
  exact Bool.eq_iff_iff.mpr (hp.flag.trans hq.flag.symm)

/-- **Contact truth does not depend on the order of arrival** where each positive leg contact comes
    before its epoch is out: two runs over the same streams put out the same, the flag of an epoch
    says whether a leg contact of its interval is positive or a payload supports the vehicle, and
    no positive contact of an epoch that is out is lost. -/
theorem contactTruth_onTime (hne : ids ≠ []) (hnodup : ids.Nodup) (hpos : 0 < i)
    {s' : VehicleSupportTracker}
    (h : Run OnTimeSteps (initial ids i hne hnodup hpos) is os s)
    (h' : Run OnTimeSteps (initial ids i hne hnodup hpos) js ps s')
    (hsame : supportFacts is = supportFacts js) :
    os = ps ∧ (∀ k out, os[k]? = some out →
      (out.2 = true ↔ Touched i (supportFacts is) k ∨ Supported ids i (supportFacts is) k)) ∧
    ∀ l ∈ (supportFacts is).legs, l.2 = true → ∀ (k : ℕ) (out : Support), os[k]? = some out →
      epochOf i l.1 = out.1.simTimestampNs → out.2 = true := by
  have hjoined := joined_onTime hne hnodup hpos h
  have hjoined' := joined_onTime hne hnodup hpos h'
  have hran := ran hne hnodup hpos h.of_meeting
  have hdone' := (ran hne hnodup hpos h'.of_meeting).done
  refine ⟨?_, fun k out hk => ((hjoined.value k out hk).flag).trans or_comm,
    fun l hl hpositive k out hk hepoch => ?_⟩
  · rw [← hsame] at hjoined' hdone'
    exact hjoined.unique hjoined' hran.done hdone'
      fun _ _ _ hp hq => hp.unique hran.holds.odometry hq
  · have hcarries := hjoined.value k out hk
    exact hcarries.flag.mpr (Or.inr ⟨l, hl, hepoch.trans hcarries.stamp, hpositive⟩)

/-- The payload support and odometry of the first interval. -/
def firstEpoch : List SupportInput :=
  [.payload 2 10 false false, .payload 3 10 true false, .payload 4 10 false true,
    .odometry (atRest 10)]

/-- A negative and a positive leg contact of one interval, the second after or before the rest. -/
def lateContact : List SupportInput := .legContact 9 false :: firstEpoch ++ [SupportInput.legContact 10 true]

def earlyContact : List SupportInput := [SupportInput.legContact 9 false, .legContact 10 true] ++ firstEpoch

/-- **The late contact is lost**: the same streams in two orders, both without a fault. -/
theorem contactTruth_fails_on_lateContact : supportFacts lateContact = supportFacts earlyContact ∧
    ∃ s t, Run (Steps step) (initial [2, 3, 4] 10 (by decide) (by decide) (by decide)) lateContact
      [(atRest 10, false)] s ∧
    Run (Steps step) (initial [2, 3, 4] 10 (by decide) (by decide) (by decide)) earlyContact
      [(atRest 10, true)] t := by
  obtain ⟨s, os, hrun, hos⟩ := exists_run (f := step) (C := fun _ _ => true)
    (s := initial [2, 3, 4] 10 (by decide) (by decide) (by decide)) (l := lateContact)
    (p := fun _ (os : List Support) => decide (os = [(atRest 10, false)])) (by decide +kernel)
  obtain ⟨t, ps, hrun', hps⟩ := exists_run (f := step) (C := fun _ _ => true)
    (s := initial [2, 3, 4] 10 (by decide) (by decide) (by decide)) (l := earlyContact)
    (p := fun _ (os : List Support) => decide (os = [(atRest 10, true)])) (by decide +kernel)
  rw [of_decide_eq_true hos] at hrun
  rw [of_decide_eq_true hps] at hrun'
  refine ⟨?_, s, t, hrun.of_meeting, hrun'.of_meeting⟩
  refine SupportFacts.mk.injEq .. |>.mpr ⟨rfl, rfl, funext fun m => ?_⟩
  simp [lateContact, earlyContact, firstEpoch, SupportInput.payloadOf, List.filterMap_cons]

/-- With both contacts after the rest of the payloads and before the odometry. -/
theorem contactTruth_onTime_first :
    supportFacts earlyContact = supportFacts (firstEpoch.take 3 ++ earlyContact.take 2 ++
      firstEpoch.drop 3) ∧
    ∃ os ps : List Support, os.length = 1 ∧ os = ps := by
  have hsame : supportFacts earlyContact = supportFacts (firstEpoch.take 3 ++
      earlyContact.take 2 ++ firstEpoch.drop 3) := by
    refine SupportFacts.mk.injEq .. |>.mpr ⟨rfl, rfl, funext fun m => ?_⟩
    simp [earlyContact, firstEpoch, SupportInput.payloadOf, List.filterMap_cons]
  obtain ⟨s, os, hrun, hos⟩ := exists_run (f := step) (C := onTime)
    (s := initial [2, 3, 4] 10 (by decide) (by decide) (by decide)) (l := earlyContact)
    (p := fun _ (os : List Support) => decide (os.length = 1)) (by decide +kernel)
  obtain ⟨t, ps, hrun', -⟩ := exists_run (f := step) (C := onTime)
    (s := initial [2, 3, 4] 10 (by decide) (by decide) (by decide))
    (l := firstEpoch.take 3 ++ earlyContact.take 2 ++ firstEpoch.drop 3)
    (p := fun _ _ => true) (by decide +kernel)
  exact ⟨hsame, os, ps, of_decide_eq_true hos, (contactTruth_onTime _ _ _ hrun hrun' hsame).1⟩

end VehicleSupportTracker

end DroneSim
