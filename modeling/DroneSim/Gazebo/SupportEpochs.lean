/-
  File:      DroneSim/Gazebo/SupportEpochs.lean
  Subject:   What the vehicle support tracker holds, in terms of what it received.

  `SupportFacts` are the streams received so far, one per topic. The tracker that put out `n` epochs
  `Holds` of them what lies behind the `n`-th epoch: payload support and odometry by epoch, and of
  the legs whether a contact of the epoch was seen and whether one was positive. The intake keeps
  this (`Holds.accept`), and the drain puts out the epochs that are `Ready`, one after another,
  until the next one is not (`Holds.drain`).
-/
import DroneSim.Gazebo.VehicleSupport
import DroneSim.Library.Fallible
import DroneSim.Library.Join

namespace DroneSim

open Library

/-! ## 1. Streams -/

/-- **The streams received so far**: leg contacts and payload support with their stamps. -/
structure SupportFacts where
  legs : List (ℕ × Bool)
  odometry : List NativeOdometry
  payloads : ℕ → List (ℕ × Bool)

namespace SupportInput

def legOf : SupportInput → Option (ℕ × Bool)
  | legContact stamp inContact => some (stamp, inContact)
  | _ => none

def odometryOf : SupportInput → Option NativeOdometry
  | odometry sample => some sample
  | _ => none

/-- Payload support: grounded and attached. -/
def payloadOf (marker : ℕ) : SupportInput → Option (ℕ × Bool)
  | payload m stamp grounded attached =>
    if m = marker then some (stamp, grounded && attached) else none
  | _ => none

end SupportInput

/-- The streams of a run. -/
def supportFacts (is : List SupportInput) : SupportFacts where
  legs := is.filterMap SupportInput.legOf
  odometry := is.filterMap SupportInput.odometryOf
  payloads := fun marker => is.filterMap (SupportInput.payloadOf marker)

/-- The streams with one more sample. -/
def SupportFacts.add (f : SupportFacts) : SupportInput → SupportFacts
  | .legContact stamp inContact => { f with legs := f.legs ++ [(stamp, inContact)] }
  | .odometry sample => { f with odometry := f.odometry ++ [sample] }
  | .payload marker stamp grounded attached =>
    { f with
      payloads := fun m =>
        if m = marker then f.payloads m ++ [(stamp, grounded && attached)] else f.payloads m }

theorem supportFacts_snoc (is : List SupportInput) (input : SupportInput) :
    supportFacts (is ++ [input]) = (supportFacts is).add input := by
  unfold supportFacts
  simp only [List.filterMap_append]
  cases input with
  | legContact stamp inContact =>
    have hpayload : ∀ m, [SupportInput.legContact stamp inContact].filterMap
        (SupportInput.payloadOf m) = [] := fun _ => rfl
    simp only [hpayload, List.append_nil]
    simp [SupportFacts.add, SupportInput.legOf, SupportInput.odometryOf]
  | odometry sample =>
    have hpayload : ∀ m, [SupportInput.odometry sample].filterMap
        (SupportInput.payloadOf m) = [] := fun _ => rfl
    simp only [hpayload, List.append_nil]
    simp [SupportFacts.add, SupportInput.legOf, SupportInput.odometryOf]
  | payload marker stamp grounded attached =>
    have hpayload : ∀ m, [SupportInput.payload marker stamp grounded attached].filterMap
        (SupportInput.payloadOf m) =
          if m = marker then [(stamp, grounded && attached)] else [] := fun m => by
      by_cases hm : m = marker
      · simp [SupportInput.payloadOf, hm]
      · simp [SupportInput.payloadOf, hm, Ne.symm hm]
    simp only [hpayload]
    simp only [SupportFacts.add, SupportFacts.mk.injEq]
    refine ⟨List.append_nil _, List.append_nil _, funext fun m => ?_⟩
    split
    · rename_i hm
      rw [hm]
    · exact List.append_nil _

namespace VehicleSupportTracker

/-! ## 2. Epochs -/

section Epochs

variable {i t u k : ℕ}

theorem epochOf_mono (h : t ≤ u) : epochOf i t ≤ epochOf i u :=
  Nat.mul_le_mul_right i (Nat.div_le_div_right (by omega))

/-- Epochs are multiples of the interval. -/
theorem lt_epoch_iff {n : ℕ} (hi : 0 < i) : n * i < (k + 1) * i ↔ n ≤ k := by
  rw [Nat.mul_lt_mul_right hi, Nat.lt_succ_iff]

end Epochs

/-! ## 3. What the tracker holds -/

variable {ids : List ℕ} {i n k : ℕ} {f : SupportFacts} {s t : VehicleSupportTracker}
  {input : SupportInput} {out : Support}

/-- A leg touches the ground in the interval of the `k`-th epoch. -/
def Touched (i : ℕ) (f : SupportFacts) (k : ℕ) : Prop :=
  ∃ l ∈ f.legs, epochOf i l.1 = (k + 1) * i ∧ l.2 = true

/-- An attached payload is grounded at the `k`-th epoch. -/
def Supported (ids : List ℕ) (i : ℕ) (f : SupportFacts) (k : ℕ) : Prop :=
  ∃ m ∈ ids, ((k + 1) * i, true) ∈ f.payloads m

/-- **The `k`-th epoch can be put out**: every payload and the odometry are there, and the legs are
    known or closed by something later. -/
structure Ready (ids : List ℕ) (i : ℕ) (f : SupportFacts) (k : ℕ) : Prop where
  payload : ∀ m ∈ ids, ∃ p ∈ f.payloads m, p.1 = (k + 1) * i
  odometry : ∃ o ∈ f.odometry, o.simTimestampNs = (k + 1) * i
  leg : (∃ l ∈ f.legs, (k + 1) * i ≤ epochOf i l.1) ∨
    ∃ o ∈ f.odometry, (k + 1) * i < o.simTimestampNs

/-- **What the `k`-th epoch puts out**: its odometry, and whether a leg or a payload supports the
    vehicle. -/
structure Carries (ids : List ℕ) (i : ℕ) (f : SupportFacts) (k : ℕ) (out : Support) : Prop where
  odometry : out.1 ∈ f.odometry
  stamp : out.1.simTimestampNs = (k + 1) * i
  flag : out.2 = true ↔ Supported ids i f k ∨ Touched i f k

/-- **The tracker holds what lies behind the `n`-th epoch.** -/
structure Holds (ids : List ℕ) (i : ℕ) (f : SupportFacts) (n : ℕ) (s : VehicleSupportTracker) :
    Prop where
  past : ∀ k < n, Ready ids i f k
  payloadIds : s.payloadIds = ids
  interval : s.intervalNs = i
  lastLeg : s.lastLegStamp = received Prod.fst f.legs
  legs : Increasing Prod.fst f.legs
  legPos : ∀ l ∈ f.legs, 0 < l.1
  lastOdometry : s.lastOdometryStamp = received NativeOdometry.simTimestampNs f.odometry
  odometry : Increasing NativeOdometry.simTimestampNs f.odometry
  aligned : ∀ o ∈ f.odometry, ∃ k, o.simTimestampNs = (k + 1) * i
  lastPayload : ∀ m, s.lastPayloadStamps.get m = received Prod.fst (f.payloads m)
  paced : ∀ m, Paced Prod.fst i (f.payloads m)
  known : ∀ m, f.payloads m ≠ [] → m ∈ ids
  payloadEpochs : ∀ e m b, (∃ d, s.payloadEpochs.get e = some d ∧ d.get m = some b) ↔
    n * i < e ∧ (e, b) ∈ f.payloads m
  inhabited : ∀ e d, s.payloadEpochs.get e = some d → ∃ m b, d.get m = some b
  odometryEpochs : ∀ e, s.odometryEpochs.get e =
    if n * i < e then stamped NativeOdometry.simTimestampNs f.odometry e else none
  legEpochs : ∀ e, n * i < e → s.legEpochs.get e =
    if f.legs.any fun l => epochOf i l.1 = e then
      some (f.legs.any fun l => epochOf i l.1 = e && l.2) else none

theorem Holds.pos (h : Holds ids i f n s) : 0 < i := h.interval ▸ s.intervalNs_pos

theorem Holds.start (hne : ids ≠ []) (hnodup : ids.Nodup) (hpos : 0 < i) :
    Holds ids i (supportFacts []) 0 (initial ids i hne hnodup hpos) where
  past := fun _ hk => absurd hk (Nat.not_lt_zero _)
  payloadIds := rfl
  interval := rfl
  lastLeg := rfl
  legs := .nil
  legPos := fun _ hl => absurd hl List.not_mem_nil
  lastOdometry := rfl
  odometry := .nil
  aligned := fun _ ho => absurd ho List.not_mem_nil
  lastPayload := fun _ => rfl
  paced := fun _ => .nil
  known := fun _ h => absurd rfl h
  payloadEpochs := by
    intro e m b
    constructor
    · rintro ⟨d, hd, -⟩
      exact absurd hd (Option.some_ne_none d).symm
    · rintro ⟨-, hb⟩
      exact absurd hb List.not_mem_nil
  inhabited := fun _ d hd => absurd hd (Option.some_ne_none d).symm
  odometryEpochs := by
    intro e
    split
    · rfl
    · rfl
  legEpochs := fun _ _ => rfl

/-! ## 4. Intake -/

theorem acceptLegContact_ok {stamp : ℕ} {inContact : Bool}
    (h : s.acceptLegContact stamp inContact = .ok t) :
    0 < stamp ∧ (∀ last, s.lastLegStamp = some last → last < stamp) ∧
    t = { s with
      lastLegStamp := some stamp
      legEpochs := s.legEpochs.set (s.epoch stamp)
        ((s.legEpochs.get (s.epoch stamp)).getD false || inContact) } := by
  unfold acceptLegContact at h
  split at h
  · cases h
  · rename_i hpos
    split at h
    · cases h
    · rename_i hlast
      exact ⟨Nat.pos_of_ne_zero hpos, lt_of_any_false hlast, (Except.ok.inj h).symm⟩

theorem acceptOdometry_ok {odometry : NativeOdometry} (h : s.acceptOdometry odometry = .ok t) :
    0 < odometry.simTimestampNs ∧ odometry.simTimestampNs % s.intervalNs = 0 ∧
    (∀ last, s.lastOdometryStamp = some last → last < odometry.simTimestampNs) ∧
    t = { s with
      lastOdometryStamp := some odometry.simTimestampNs
      odometryEpochs := s.odometryEpochs.set odometry.simTimestampNs odometry } := by
  unfold acceptOdometry at h
  split at h
  · cases h
  · rename_i hpos
    split at h
    · cases h
    · rename_i haligned
      split at h
      · cases h
      · rename_i hlast
        exact ⟨Nat.pos_of_ne_zero hpos, not_not.mp haligned, lt_of_any_false hlast,
          (Except.ok.inj h).symm⟩

theorem acceptPayload_ok {marker stamp : ℕ} {grounded attached : Bool}
    (h : s.acceptPayload marker stamp grounded attached = .ok t) :
    marker ∈ s.payloadIds ∧
    (s.lastPayloadStamps.get marker = none → stamp = s.intervalNs) ∧
    (∀ previous, s.lastPayloadStamps.get marker = some previous →
      stamp = previous + s.intervalNs) ∧
    t = { s with
      lastPayloadStamps := s.lastPayloadStamps.set marker stamp
      payloadEpochs := s.payloadEpochs.set stamp
        (((s.payloadEpochs.get stamp).getD .empty).set marker (grounded && attached)) } := by
  unfold acceptPayload at h
  split at h
  · cases h
  · rename_i hmarker
    rw [Bool.not_eq_true', Bool.not_eq_false, List.contains_iff_mem] at hmarker
    refine ⟨hmarker, ?_⟩
    split at h
    · cases h
    · dsimp only at h
      split at h
      · rename_i hnone
        split at h
        · cases h
        · rename_i hfirst
          refine ⟨fun _ => not_not.mp hfirst, fun previous hp => ?_, (Except.ok.inj h).symm⟩
          rw [hnone] at hp
          cases hp
      · rename_i last hlast
        split at h
        · cases h
        · rename_i hnext
          refine ⟨fun hnone => ?_, fun previous hp => ?_, (Except.ok.inj h).symm⟩
          · rw [hnone] at hlast
            cases hlast
          · rw [hlast] at hp
            obtain rfl := Option.some.inj hp
            omega

/-- **What was ready stays ready.** -/
theorem Ready.add (h : Ready ids i f k) (input : SupportInput) : Ready ids i (f.add input) k := by
  obtain ⟨hpayload, hodometry, hleg⟩ := h
  cases input with
  | legContact stamp inContact =>
    exact ⟨hpayload, hodometry, hleg.imp_left fun ⟨l, hl, hle⟩ =>
      ⟨l, List.mem_append_left _ hl, hle⟩⟩
  | odometry sample =>
    obtain ⟨o, ho, hstamp⟩ := hodometry
    exact ⟨hpayload, ⟨o, List.mem_append_left _ ho, hstamp⟩, hleg.imp_right fun ⟨o, ho, hlt⟩ =>
      ⟨o, List.mem_append_left _ ho, hlt⟩⟩
  | payload marker stamp grounded attached =>
    refine ⟨fun m hm => ?_, hodometry, hleg⟩
    obtain ⟨p, hp, hstamp⟩ := hpayload m hm
    refine ⟨p, ?_, hstamp⟩
    simp only [SupportFacts.add]
    split
    · exact List.mem_append_left _ hp
    · exact hp

theorem Holds.acceptLegContact (h : Holds ids i f n s) {stamp : ℕ} {inContact : Bool}
    (ht : s.acceptLegContact stamp inContact = .ok t) :
    Holds ids i (f.add (.legContact stamp inContact)) n t := by
  obtain ⟨hpos, hlast, rfl⟩ := acceptLegContact_ok ht
  have hafter : ∀ l ∈ f.legs, l.1 < stamp := by
    refine h.legs.lt_of_received (b := (stamp, inContact)) fun last hr => hlast last ?_
    rw [h.lastLeg, hr]
  refine { h with
    past := fun k hk => (h.past k hk).add _
    lastLeg := (received_snoc (f := Prod.fst) (l := f.legs) (b := (stamp, inContact))).symm
    legs := h.legs.snoc hafter
    legPos := ?_
    legEpochs := ?_ }
  · intro l hl
    rcases List.mem_append.mp hl with hl | hl
    · exact h.legPos l hl
    · rw [List.mem_singleton.mp hl]
      exact hpos
  · intro e he
    have hold := h.legEpochs e he
    have hepoch : s.epoch stamp = epochOf i stamp := by rw [epoch, h.interval]
    -- where no contact of the epoch was seen, none was positive
    have hnone : (f.legs.any fun l => epochOf i l.1 = e) = false →
        (f.legs.any fun l => epochOf i l.1 = e && l.2) = false := by
      simp only [List.any_eq_false, decide_eq_true_eq, Bool.and_eq_true]
      exact fun hno l hl hl2 => hno l hl hl2.1
    simp only [SupportFacts.add, List.any_append, List.any_cons, List.any_nil, Bool.or_false]
    rw [Dict.get_set, hepoch]
    by_cases heq : e = epochOf i stamp
    · subst heq
      rw [if_pos rfl, hold]
      simp only [decide_true, Bool.or_true, if_true, Bool.true_and]
      split
      · rfl
      · rename_i hseen
        rw [hnone (Bool.not_eq_true _ ▸ hseen)]
        rfl
    · have hne : epochOf i stamp ≠ e := fun h => heq h.symm
      rw [if_neg heq, hold]
      simp only [hne, decide_false, Bool.or_false, Bool.false_and]

/-- A later odometry sample lies behind the epochs that are out. -/
theorem Holds.odometry_behind (h : Holds ids i f n s) {stamp : ℕ} (hpos : 0 < stamp)
    (hafter : ∀ o ∈ f.odometry, o.simTimestampNs < stamp) : n * i < stamp := by
  cases n with
  | zero => rwa [Nat.zero_mul]
  | succ n =>
    obtain ⟨o, ho, hstamp⟩ := (h.past n (Nat.lt_succ_self n)).odometry
    rw [← hstamp]
    exact hafter o ho

theorem Holds.acceptOdometry (h : Holds ids i f n s) {odometry : NativeOdometry}
    (ht : s.acceptOdometry odometry = .ok t) : Holds ids i (f.add (.odometry odometry)) n t := by
  obtain ⟨hpos, haligned, hlast, rfl⟩ := acceptOdometry_ok ht
  have hafter : ∀ o ∈ f.odometry, o.simTimestampNs < odometry.simTimestampNs := by
    refine h.odometry.lt_of_received fun last hr => hlast last ?_
    rw [h.lastOdometry, hr]
  have hbehind := h.odometry_behind hpos hafter
  refine { h with
    past := fun k hk => (h.past k hk).add _
    lastOdometry := (received_snoc (f := NativeOdometry.simTimestampNs) (l := f.odometry)
      (b := odometry)).symm
    odometry := h.odometry.snoc hafter
    aligned := ?_
    odometryEpochs := ?_ }
  · intro o ho
    rcases List.mem_append.mp ho with ho | ho
    · exact h.aligned o ho
    · rw [List.mem_singleton.mp ho]
      rw [h.interval] at haligned
      obtain ⟨k, hk⟩ := Nat.dvd_of_mod_eq_zero haligned
      cases k with
      | zero => omega
      | succ k => exact ⟨k, by rw [hk, Nat.mul_comm]⟩
  · intro e
    rw [Dict.get_set, h.odometryEpochs, SupportFacts.add, stamped_snoc hafter]
    by_cases he : e = odometry.simTimestampNs
    · rw [if_pos he, if_pos he, if_pos (by omega)]
    · rw [if_neg he, if_neg he]

/-- The next payload sample lies behind the epochs that are out. -/
theorem Holds.payload_behind (h : Holds ids i f n s) {marker : ℕ} (hmarker : marker ∈ ids) :
    n ≤ (f.payloads marker).length := by
  cases n with
  | zero => exact Nat.zero_le _
  | succ n =>
    obtain ⟨p, hp, hstamp⟩ := (h.past n (Nat.lt_succ_self n)).payload marker hmarker
    obtain ⟨k, hk, heq⟩ := (h.paced marker).exists_index hp
    rw [heq] at hstamp
    have hkn := Nat.eq_of_mul_eq_mul_right h.pos hstamp
    omega

theorem Holds.acceptPayload (h : Holds ids i f n s) {marker stamp : ℕ} {grounded attached : Bool}
    (ht : s.acceptPayload marker stamp grounded attached = .ok t) :
    Holds ids i (f.add (.payload marker stamp grounded attached)) n t := by
  obtain ⟨hmarker, hfirst, hnext, rfl⟩ := acceptPayload_ok ht
  rw [h.payloadIds] at hmarker
  rw [h.lastPayload, h.interval] at hfirst
  rw [h.interval] at hnext
  have hpaced : Paced Prod.fst i (f.payloads marker ++ [(stamp, grounded && attached)]) :=
    (h.paced marker).next hfirst fun last hlast => hnext last (by rw [h.lastPayload, hlast])
  have hstamp : stamp = ((f.payloads marker).length + 1) * i :=
    hpaced.stamp (a := (stamp, grounded && attached)) (List.getElem?_concat_length ..)
  have hbehind : n * i < stamp := by
    rw [hstamp, lt_epoch_iff h.pos]
    exact h.payload_behind hmarker
  have hpayloads : ∀ m, (f.add (.payload marker stamp grounded attached)).payloads m =
      if m = marker then f.payloads m ++ [(stamp, grounded && attached)] else f.payloads m :=
    fun _ => rfl
  refine { h with
    past := fun k hk => (h.past k hk).add _
    lastPayload := fun m => ?_
    paced := fun m => ?_
    known := fun m => ?_
    payloadEpochs := fun e m b => ?_
    inhabited := fun e d hd => ?_ }
  · rw [Dict.get_set, hpayloads]
    split
    · exact (received_snoc (f := Prod.fst) (b := (stamp, grounded && attached))).symm
    · exact h.lastPayload m
  · rw [hpayloads]
    split
    · rename_i hm
      rw [hm]
      exact hpaced
    · exact h.paced m
  · rw [hpayloads]
    split
    · rename_i hm
      exact fun _ => hm ▸ hmarker
    · exact h.known m
  · rw [hpayloads, Dict.get_set]
    have hold := h.payloadEpochs e m b
    by_cases he : e = stamp
    · subst he
      rw [if_pos rfl]
      -- the epoch's entry before the sample, also where there was none
      have hentry : (((s.payloadEpochs.get e).getD .empty).get m = some b) ↔
          n * i < e ∧ (e, b) ∈ f.payloads m := by
        rw [← hold]
        cases s.payloadEpochs.get e with
        | none => simp
        | some d => simp
      simp only [Option.some.injEq, exists_eq_left', Dict.get_set]
      by_cases hm : m = marker
      · subst hm
        rw [if_pos rfl, if_pos rfl, List.mem_append, List.mem_singleton, and_iff_right hbehind]
        have hnew : (e, b) ∉ f.payloads m := by
          intro hmem
          obtain ⟨k, hk, hke⟩ := (h.paced m).exists_index hmem
          have hlt := (lt_epoch_iff h.pos).mpr (show k + 1 ≤ (f.payloads m).length from hk)
          omega
        rw [or_iff_right hnew, Prod.mk.injEq, and_iff_right rfl, Option.some.injEq, eq_comm]
      · rw [if_neg hm, if_neg hm]
        exact hentry
    · rw [if_neg he, hold]
      refine and_congr_right fun _ => ?_
      split
      · rw [List.mem_append, List.mem_singleton, Prod.mk.injEq]
        exact ⟨Or.inl, fun hmem => hmem.resolve_right fun heq => he heq.1⟩
      · exact Iff.rfl
  · rw [Dict.get_set] at hd
    split at hd
    · rw [← Option.some.inj hd]
      exact ⟨marker, _, Dict.get_set_self _ _ _⟩
    · exact h.inhabited e d hd

theorem Holds.accept (h : Holds ids i f n s) (ht : s.accept input = .ok t) :
    Holds ids i (f.add input) n t := by
  cases input with
  | legContact stamp inContact => exact h.acceptLegContact ht
  | odometry sample => exact h.acceptOdometry ht
  | payload marker stamp grounded attached => exact h.acceptPayload ht

/-! ## 5. The drain -/

theorem Holds.closes_iff (h : Holds ids i f n s) (e : ℕ) : s.closes e = true ↔
    (∃ l ∈ f.legs, e < epochOf i l.1) ∨ ∃ o ∈ f.odometry, e < o.simTimestampNs := by
  rw [closes, Bool.or_eq_true, h.lastLeg, h.lastOdometry]
  simp only [Option.any_eq_true, decide_eq_true_eq, epoch, h.interval]
  refine or_congr ⟨?_, ?_⟩ ⟨?_, ?_⟩
  · rintro ⟨stamp, hr, hlt⟩
    obtain ⟨l, hl, rfl⟩ := mem_of_received hr
    exact ⟨l, hl, hlt⟩
  · rintro ⟨l, hl, hlt⟩
    obtain ⟨stamp, hr, hle⟩ := h.legs.le_received hl
    exact ⟨stamp, hr, Nat.lt_of_lt_of_le hlt (epochOf_mono hle)⟩
  · rintro ⟨stamp, hr, hlt⟩
    obtain ⟨o, ho, rfl⟩ := mem_of_received hr
    exact ⟨o, ho, hlt⟩
  · rintro ⟨o, ho, hlt⟩
    obtain ⟨stamp, hr, hle⟩ := h.odometry.le_received ho
    exact ⟨stamp, hr, Nat.lt_of_lt_of_le hlt hle⟩

/-- The legs of the next epoch are known iff they are ready, and then rightly. -/
theorem Holds.legContact_spec (h : Holds ids i f n s) :
    ((s.legContact ((n + 1) * i)).isSome = true ↔
      (∃ l ∈ f.legs, (n + 1) * i ≤ epochOf i l.1) ∨
        ∃ o ∈ f.odometry, (n + 1) * i < o.simTimestampNs) ∧
    ∀ leg, s.legContact ((n + 1) * i) = some leg → (leg = true ↔ Touched i f n) := by
  have hepoch := h.legEpochs ((n + 1) * i) ((lt_epoch_iff h.pos).mpr (Nat.le_refl n))
  have htouched : (f.legs.any fun l => epochOf i l.1 = (n + 1) * i && l.2) = true ↔
      Touched i f n := by
    rw [List.any_eq_true]
    simp only [Touched, Bool.and_eq_true, decide_eq_true_eq]
  rw [legContact, hepoch]
  by_cases hseen : (f.legs.any fun l => epochOf i l.1 = (n + 1) * i) = true
  · rw [if_pos hseen]
    rw [List.any_eq_true] at hseen
    obtain ⟨l, hl, heq⟩ := hseen
    rw [decide_eq_true_eq] at heq
    exact ⟨⟨fun _ => Or.inl ⟨l, hl, Nat.le_of_eq heq.symm⟩, fun _ => rfl⟩,
      fun leg hleg => Option.some.inj hleg ▸ htouched⟩
  · rw [if_neg hseen]
    have hnone : ∀ l ∈ f.legs, epochOf i l.1 ≠ (n + 1) * i := by
      rw [List.any_eq_true] at hseen
      exact fun l hl heq => hseen ⟨l, hl, decide_eq_true heq⟩
    have hlegs : (∃ l ∈ f.legs, (n + 1) * i ≤ epochOf i l.1) ↔
        ∃ l ∈ f.legs, (n + 1) * i < epochOf i l.1 := by
      refine exists_congr fun l => and_congr_right fun hl => ?_
      have hne := hnone l hl
      omega
    rw [hlegs, ← h.closes_iff]
    dsimp only
    split
    · rename_i hcloses
      refine ⟨⟨fun _ => hcloses, fun _ => rfl⟩, fun leg hleg => ?_⟩
      rw [← Option.some.inj hleg]
      exact ⟨fun hf => absurd hf Bool.false_ne_true, fun ⟨l, hl, heq, _⟩ =>
        absurd heq (hnone l hl)⟩
    · rename_i hopen
      exact ⟨⟨fun hf => absurd hf Bool.false_ne_true, fun hc => absurd hc hopen⟩,
        fun leg hleg => absurd hleg (Option.some_ne_none leg).symm⟩

/-- The payload support of an epoch behind those that are out. -/
theorem Holds.payloads_spec (h : Holds ids i f n s) {e : ℕ} {d : Dict ℕ Bool}
    (hd : s.payloadEpochs.get e = some d) :
    (s.coversIds d = true ↔ ∀ m ∈ ids, ∃ p ∈ f.payloads m, p.1 = e) ∧
    ((d.items.any fun p => p.2) = true ↔ ∃ m ∈ ids, (e, true) ∈ f.payloads m) := by
  have hget : ∀ m b, d.get m = some b ↔ n * i < e ∧ (e, b) ∈ f.payloads m := by
    intro m b
    rw [← h.payloadEpochs e m b, hd]
    constructor
    · exact fun hb => ⟨d, rfl, hb⟩
    · rintro ⟨d', hd', hb⟩
      exact Option.some.inj hd' ▸ hb
  have hbehind : n * i < e := by
    obtain ⟨m, b, hb⟩ := h.inhabited e d hd
    exact ((hget m b).mp hb).1
  have hids : ∀ m b, (e, b) ∈ f.payloads m → m ∈ ids := fun m b hb =>
    h.known m (List.ne_nil_of_mem hb)
  constructor
  · rw [coversIds, Bool.and_eq_true, List.all_eq_true, List.all_eq_true, h.payloadIds]
    simp only [List.contains_iff_mem, Dict.mem_keys, Option.isSome_iff_exists]
    constructor
    · rintro ⟨-, hall⟩ m hm
      obtain ⟨b, hb⟩ := hall m hm
      exact ⟨(e, b), ((hget m b).mp hb).2, rfl⟩
    · intro hall
      refine ⟨fun m hm => ?_, fun m hm => ?_⟩
      · obtain ⟨b, hb⟩ := hm
        exact hids m b ((hget m b).mp hb).2
      · obtain ⟨⟨e', b⟩, hp, rfl⟩ := hall m hm
        exact ⟨b, (hget m b).mpr ⟨hbehind, hp⟩⟩
  · rw [List.any_eq_true]
    constructor
    · rintro ⟨⟨m, b⟩, hmem, hb⟩
      have hb : b = true := hb
      subst hb
      have hp := ((hget m true).mp (Dict.mem_items.mp hmem)).2
      exact ⟨m, hids m true hp, hp⟩
    · rintro ⟨m, -, hp⟩
      exact ⟨(m, true), Dict.mem_items.mpr ((hget m true).mpr ⟨hbehind, hp⟩), rfl⟩

/-- **The next epoch comes out iff it is ready, and then as it should.** -/
theorem Holds.completed_spec (h : Holds ids i f n s) :
    (∀ out, s.completed ((n + 1) * i) = some out → Ready ids i f n ∧ Carries ids i f n out) ∧
    (s.completed ((n + 1) * i) = none → ¬ Ready ids i f n) := by
  have hbehind : n * i < (n + 1) * i := (lt_epoch_iff h.pos).mpr (Nat.le_refl n)
  obtain ⟨hlegReady, hlegValue⟩ := h.legContact_spec
  unfold completed
  cases hd : s.payloadEpochs.get ((n + 1) * i) with
  | none =>
    refine ⟨fun out hout => absurd hout (Option.some_ne_none out).symm, fun _ hready => ?_⟩
    obtain ⟨m, hm⟩ := List.exists_mem_of_ne_nil _ (h.payloadIds ▸ s.payloadIds_ne)
    obtain ⟨⟨e, b⟩, hp, rfl⟩ := hready.payload m hm
    obtain ⟨d, hd', -⟩ := (h.payloadEpochs _ m b).mpr ⟨hbehind, hp⟩
    rw [hd] at hd'
    cases hd'
  | some d =>
    obtain ⟨hcovers, hany⟩ := h.payloads_spec hd
    have hodometry := h.odometryEpochs ((n + 1) * i)
    rw [if_pos hbehind] at hodometry
    dsimp only
    by_cases hc : s.coversIds d = true
    · rw [hc, Bool.not_true, if_neg Bool.false_ne_true]
      cases ho : s.odometryEpochs.get ((n + 1) * i) with
      | none =>
        refine ⟨fun out hout => absurd hout (Option.some_ne_none out).symm, fun _ hready => ?_⟩
        obtain ⟨o, hmem, hstamp⟩ := hready.odometry
        rw [ho] at hodometry
        exact stamped_eq_none.mp hodometry.symm o hmem hstamp
      | some o =>
        rw [ho] at hodometry
        obtain ⟨hmem, hstamp⟩ := stamped_spec hodometry.symm
        cases hl : s.legContact ((n + 1) * i) with
        | none =>
          refine ⟨fun out hout => absurd hout (Option.some_ne_none out).symm, fun _ hready => ?_⟩
          have hsome := hlegReady.mpr hready.leg
          rw [hl] at hsome
          cases hsome
        | some leg =>
          refine ⟨fun out hout => ?_, fun hout => absurd hout (Option.some_ne_none _)⟩
          obtain rfl := Option.some.inj hout
          refine ⟨⟨hcovers.mp hc, ⟨o, hmem, hstamp⟩, hlegReady.mp (by rw [hl]; rfl)⟩,
            ⟨hmem, hstamp, ?_⟩⟩
          rw [Bool.or_eq_true, hany, hlegValue leg hl, or_comm]
          rfl
    · rw [Bool.not_eq_true] at hc
      rw [hc, Bool.not_false, if_pos rfl]
      refine ⟨fun out hout => absurd hout (Option.some_ne_none out).symm, fun _ hready => ?_⟩
      rw [hcovers.mpr hready.payload] at hc
      cases hc

theorem Holds.pop (h : Holds ids i f n s) (hready : Ready ids i f n) :
    Holds ids i f (n + 1) (s.pop ((n + 1) * i)) := by
  have hbehind : n * i < (n + 1) * i := (lt_epoch_iff h.pos).mpr (Nat.le_refl n)
  -- of the epochs behind the n-th only the next one is not behind the next one
  have hlater : ∀ k, n * i < (k + 1) * i → (k + 1) * i ≠ (n + 1) * i →
      (n + 1) * i < (k + 1) * i := by
    intro k hk hne
    rw [lt_epoch_iff h.pos] at hk ⊢
    rcases Nat.lt_or_eq_of_le hk with hlt | heq
    · exact hlt
    · exact absurd (by rw [heq]) hne
  refine { h with
    past := fun k hk => ?_
    payloadEpochs := fun e m b => ?_
    inhabited := fun e d hd => ?_
    odometryEpochs := fun e => ?_
    legEpochs := fun e he => ?_ }
  · rcases Nat.lt_succ_iff_lt_or_eq.mp hk with hk | rfl
    · exact h.past k hk
    · exact hready
  · have hold := h.payloadEpochs e m b
    rw [VehicleSupportTracker.pop, Dict.get_erase]
    by_cases he : e = (n + 1) * i
    · rw [if_pos he]
      constructor
      · rintro ⟨d, hd, -⟩
        cases hd
      · rintro ⟨hlt, -⟩
        omega
    · rw [if_neg he, hold]
      refine and_congr_left fun hmem => ⟨fun hlt => ?_, fun hlt => Nat.lt_trans hbehind hlt⟩
      obtain ⟨k, -, hk⟩ := (h.paced m).exists_index hmem
      have hk : e = (k + 1) * i := hk
      subst hk
      exact hlater k hlt he
  · rw [VehicleSupportTracker.pop, Dict.get_erase] at hd
    split at hd
    · cases hd
    · exact h.inhabited e d hd
  · rw [VehicleSupportTracker.pop, Dict.get_erase, h.odometryEpochs]
    by_cases he : e = (n + 1) * i
    · rw [if_pos he, if_neg (by omega)]
    · rw [if_neg he]
      by_cases hlt : (n + 1) * i < e
      · rw [if_pos hlt, if_pos (Nat.lt_trans hbehind hlt)]
      · rw [if_neg hlt]
        split
        · rename_i hn
          refine stamped_eq_none.mpr fun o ho hstamp => ?_
          obtain ⟨k, hk⟩ := h.aligned o ho
          rw [← hstamp, hk] at hn he hlt
          exact hlt (hlater k hn he)
        · rfl
  · rw [VehicleSupportTracker.pop, Dict.get_filterKeys, if_pos (decide_eq_true he)]
    exact h.legEpochs e (Nat.lt_trans hbehind he)

/-- The list has the epochs with payload support, oldest first. -/
def Sorted (s : VehicleSupportTracker) (epochs : List ℕ) : Prop :=
  epochs.Pairwise (· < ·) ∧ ∀ e, e ∈ epochs ↔ (s.payloadEpochs.get e).isSome = true

/-- The epochs with payload support are behind those that are out, and none is left out. -/
theorem Holds.first_epoch (h : Holds ids i f n s) {e : ℕ} {epochs : List ℕ}
    (hsorted : s.Sorted (e :: epochs)) : e = (n + 1) * i := by
  obtain ⟨d, hd⟩ := Option.isSome_iff_exists.mp ((hsorted.2 e).mp (by simp))
  obtain ⟨m, b, hb⟩ := h.inhabited e d hd
  obtain ⟨hbehind, hmem⟩ := (h.payloadEpochs e m b).mp ⟨d, hd, hb⟩
  obtain ⟨k, hk, hke⟩ := (h.paced m).exists_index hmem
  have hke : e = (k + 1) * i := hke
  have hnk : n ≤ k := (lt_epoch_iff h.pos).mp (hke ▸ hbehind)
  -- the payload of that epoch has the next one too, and it is not before the first
  obtain ⟨⟨e', b'⟩, hmem', he'⟩ := (h.paced m).exists_stamp (k := n) (by omega)
  have he' : e' = (n + 1) * i := he'
  subst he'
  obtain ⟨d', hd', -⟩ := (h.payloadEpochs ((n + 1) * i) m b').mpr
    ⟨(lt_epoch_iff h.pos).mpr (Nat.le_refl n), hmem'⟩
  have hin := (hsorted.2 ((n + 1) * i)).mpr (by rw [hd']; rfl)
  have hle : (n + 1) * i ≤ e := by
    rw [hke]
    exact Nat.mul_le_mul_right i (by omega)
  rcases List.mem_cons.mp hin with heq | hin
  · exact heq.symm
  · have hlt := (List.pairwise_cons.mp hsorted.1).1 _ hin
    omega

/-- **The loop puts out the ready epochs, one after another, and stops at the first that is not
    ready.** -/
theorem Holds.drainEpochs (h : Holds ids i f n s) {epochs : List ℕ} (hsorted : s.Sorted epochs)
    {os : List Support} (hdrain : s.drainEpochs epochs = (t, os)) :
    Holds ids i f (n + os.length) t ∧
    (∀ k out, os[k]? = some out → Carries ids i f (n + k) out) ∧
    ¬ Ready ids i f (n + os.length) := by
  induction epochs generalizing n s os with
  | nil =>
    obtain ⟨rfl, rfl⟩ := Prod.mk.inj hdrain
    refine ⟨h, fun k out hout => by simp at hout, fun hready => ?_⟩
    obtain ⟨m, hm⟩ := List.exists_mem_of_ne_nil _ (h.payloadIds ▸ s.payloadIds_ne)
    obtain ⟨⟨e, b⟩, hp, rfl⟩ := hready.payload m hm
    obtain ⟨d, hd, -⟩ := (h.payloadEpochs _ m b).mpr
      ⟨(lt_epoch_iff h.pos).mpr (Nat.le_refl n), hp⟩
    exact absurd ((hsorted.2 _).mpr (by rw [hd]; rfl)) List.not_mem_nil
  | cons e epochs ih =>
    obtain rfl := h.first_epoch hsorted
    obtain ⟨hsome, hnone⟩ := h.completed_spec
    unfold VehicleSupportTracker.drainEpochs at hdrain
    split at hdrain
    · rename_i hc
      obtain ⟨rfl, rfl⟩ := Prod.mk.inj hdrain
      exact ⟨h, fun k out hout => by simp at hout, hnone hc⟩
    · rename_i support hc
      obtain ⟨hready, hcarries⟩ := hsome support hc
      have hrest : (s.pop ((n + 1) * i)).Sorted epochs := by
        refine ⟨(List.pairwise_cons.mp hsorted.1).2, fun e => ?_⟩
        rw [VehicleSupportTracker.pop, Dict.get_erase]
        have hmem := hsorted.2 e
        rw [List.mem_cons] at hmem
        by_cases he : e = (n + 1) * i
        · rw [if_pos he]
          exact ⟨fun hin => by
            have hlt := (List.pairwise_cons.mp hsorted.1).1 e hin
            omega, fun hf => absurd hf Bool.false_ne_true⟩
        · rw [if_neg he, ← hmem, or_iff_right he]
      generalize hd : (s.pop ((n + 1) * i)).drainEpochs epochs = r at hdrain
      obtain ⟨u, rest⟩ := r
      obtain ⟨rfl, rfl⟩ := Prod.mk.inj hdrain
      obtain ⟨hholds, hout, hstop⟩ := ih (h.pop hready) hrest hd
      have hlength : n + (support :: rest).length = n + 1 + rest.length := by
        rw [List.length_cons]
        omega
      rw [hlength]
      refine ⟨hholds, fun k out hk => ?_, hstop⟩
      cases k with
      | zero =>
        obtain rfl := Option.some.inj hk
        exact hcarries
      | succ k =>
        rw [List.getElem?_cons_succ] at hk
        have hnext := hout k out hk
        rwa [show n + 1 + k = n + (k + 1) by omega] at hnext

theorem sorted_keys (s : VehicleSupportTracker) :
    s.Sorted (s.payloadEpochs.keys.insertionSort (· ≤ ·)) := by
  refine ⟨?_, fun e => ?_⟩
  · have hle := List.pairwise_insertionSort (· ≤ ·) s.payloadEpochs.keys
    have hnodup : (s.payloadEpochs.keys.insertionSort (· ≤ ·)).Nodup :=
      (List.perm_insertionSort _ _).nodup_iff.mpr s.payloadEpochs.nodup
    exact (hle.and hnodup).imp fun h => Nat.lt_of_le_of_ne h.1 h.2
  · rw [List.mem_insertionSort, Dict.mem_keys]

/-- **One sample**: the tracker holds one sample more, and puts out what has become ready. -/
theorem Holds.step (h : Holds ids i f n s) {os : List Support} (hs : s.step input = .ok (t, os)) :
    Holds ids i (f.add input) (n + os.length) t ∧
    (∀ k out, os[k]? = some out → Carries ids i (f.add input) (n + k) out) ∧
    ¬ Ready ids i (f.add input) (n + os.length) ∧
    t.odometryEpochs.keys.length ≤ completedCapacity := by
  obtain ⟨u, hu, hd⟩ := bind_ok hs
  unfold drain at hd
  generalize hloop : u.drainEpochs (u.payloadEpochs.keys.insertionSort (· ≤ ·)) = r at hd
  obtain ⟨v, out⟩ := r
  dsimp only at hd
  split at hd
  · cases hd
  · rename_i hroom
    rw [Bool.or_eq_true, not_or, decide_eq_true_eq, decide_eq_true_eq] at hroom
    cases hd
    obtain ⟨hholds, hout, hstop⟩ := (h.accept hu).drainEpochs (sorted_keys u) hloop
    exact ⟨hholds, hout, hstop, Nat.not_lt.mp hroom.2⟩

end VehicleSupportTracker

end DroneSim
