/-
  File:      DroneSim/Gazebo/PayloadJoin.lean
  Subject:   THE PAYLOAD JOIN DOES NOT DEPEND ON THE ORDER OF ARRIVAL.

  `PayloadFacts` are the streams a tracker has taken: poses and joint facts, paced at one interval,
  and contacts. A tracker that put out `n` ticks `Holds` of them what lies behind the `n`-th tick,
  and of the contacts those that are at most one interval older. What it puts out at a tick is
  `Exact`, a statement about the streams alone which more facts do not change (`Exact.mono`) and
  which leaves one value (`Exact.unique`). So two orders of the same streams put out the same, or,
  after a fault, a part of the same (`payloadJoin_orderFree`).
-/
import DroneSim.Gazebo.PayloadTracker
import DroneSim.Library.Fallible
import DroneSim.Library.Join
import DroneSim.Library.Latch

namespace DroneSim

open Library

variable {V Q : Type}

/-! ## 1. Streams -/

/-- **The streams**: poses, joint facts and contacts with their stamps. -/
structure PayloadFacts (V Q : Type) where
  poses : List (ℕ × V × Q)
  joints : List (ℕ × Bool)
  contacts : List (ℕ × Bool)

namespace PayloadInput

def poseOf : PayloadInput V Q → Option (ℕ × V × Q)
  | pose stamp position orientation => some (stamp, position, orientation)
  | _ => none

/-- Joint facts that say neither attached nor detached are none. -/
def jointOf : PayloadInput V Q → Option (ℕ × Bool)
  | attachment stamp physicalState => physicalState.attached.map (stamp, ·)
  | _ => none

def contactOf : PayloadInput V Q → Option (ℕ × Bool)
  | contact stamp grounded => some (stamp, grounded)
  | _ => none

end PayloadInput

/-- The streams of a list of inputs. -/
def payloadFacts (is : List (PayloadInput V Q)) : PayloadFacts V Q where
  poses := is.filterMap PayloadInput.poseOf
  joints := is.filterMap PayloadInput.jointOf
  contacts := is.filterMap PayloadInput.contactOf

/-- The streams with one more sample. -/
def PayloadFacts.add (f : PayloadFacts V Q) : PayloadInput V Q → PayloadFacts V Q
  | .contact stamp grounded => { f with contacts := f.contacts ++ [(stamp, grounded)] }
  | .attachment stamp state =>
    { f with joints := f.joints ++ (state.attached.map (stamp, ·)).toList }
  | .pose stamp position orientation =>
    { f with poses := f.poses ++ [(stamp, position, orientation)] }

theorem payloadFacts_snoc (is : List (PayloadInput V Q)) (input : PayloadInput V Q) :
    payloadFacts (is ++ [input]) = (payloadFacts is).add input := by
  unfold payloadFacts
  simp only [List.filterMap_append]
  cases input with
  | contact stamp grounded =>
    simp [PayloadFacts.add, PayloadInput.poseOf, PayloadInput.jointOf, PayloadInput.contactOf]
  | attachment stamp state =>
    cases hstate : state.attached with
    | none =>
      simp [PayloadFacts.add, PayloadInput.poseOf, PayloadInput.jointOf, PayloadInput.contactOf,
        hstate]
    | some attached =>
      simp [PayloadFacts.add, PayloadInput.poseOf, PayloadInput.jointOf, PayloadInput.contactOf,
        hstate]
  | pose stamp position orientation =>
    simp [PayloadFacts.add, PayloadInput.poseOf, PayloadInput.jointOf, PayloadInput.contactOf]

namespace PayloadFacts

variable {f g h : PayloadFacts V Q}

/-- `g` has the streams of `f` and perhaps more behind them. -/
structure Within (f g : PayloadFacts V Q) : Prop where
  poses : f.poses <+: g.poses
  joints : f.joints <+: g.joints
  contacts : f.contacts <+: g.contacts

theorem within_add (f : PayloadFacts V Q) (input : PayloadInput V Q) : f.Within (f.add input) := by
  cases input with
  | contact stamp grounded => exact ⟨List.prefix_rfl, List.prefix_rfl, List.prefix_append _ _⟩
  | attachment stamp state => exact ⟨List.prefix_rfl, List.prefix_append _ _, List.prefix_rfl⟩
  | pose stamp position orientation =>
    exact ⟨List.prefix_append _ _, List.prefix_rfl, List.prefix_rfl⟩

/-- A part of the inputs gives a part of the streams. -/
theorem within_of_prefix {is js : List (PayloadInput V Q)} (h : is <+: js) :
    (payloadFacts is).Within (payloadFacts js) := by
  obtain ⟨ks, rfl⟩ := h
  refine ⟨?_, ?_, ?_⟩
  · exact ⟨_, (List.filterMap_append ..).symm⟩
  · exact ⟨_, (List.filterMap_append ..).symm⟩
  · exact ⟨_, (List.filterMap_append ..).symm⟩

/-- The longer one of two lists. -/
def longer {α : Type} (l m : List α) : List α := if l.length ≤ m.length then m else l

theorem longer_spec {α : Type} {l m n : List α} (hl : l <+: n) (hm : m <+: n) {P : List α → Prop}
    (hPl : P l) (hPm : P m) : l <+: longer l m ∧ m <+: longer l m ∧ P (longer l m) := by
  unfold longer
  split
  · rename_i hle
    exact ⟨List.prefix_of_prefix_length_le hl hm hle, List.prefix_rfl, hPm⟩
  · rename_i hlt
    exact ⟨List.prefix_rfl, List.prefix_of_prefix_length_le hm hl (by omega), hPl⟩

/-- Poses and joint facts come at one interval, contacts in order. -/
structure InStep (i : ℕ) (f : PayloadFacts V Q) : Prop where
  poses : Paced Prod.fst i f.poses
  joints : Paced Prod.fst i f.joints
  contacts : Increasing Prod.fst f.contacts

/-- **Two parts of the same streams lie within a third.** -/
theorem exists_within {i : ℕ} (hf : f.Within h) (hg : g.Within h) (hfi : f.InStep i)
    (hgi : g.InStep i) : ∃ k : PayloadFacts V Q, f.Within k ∧ g.Within k ∧ k.InStep i := by
  obtain ⟨hp1, hp2, hp⟩ := longer_spec hf.poses hg.poses hfi.poses hgi.poses
  obtain ⟨hj1, hj2, hj⟩ := longer_spec hf.joints hg.joints hfi.joints hgi.joints
  obtain ⟨hc1, hc2, hc⟩ := longer_spec hf.contacts hg.contacts hfi.contacts hgi.contacts
  exact ⟨⟨_, _, _⟩, ⟨hp1, hj1, hc1⟩, ⟨hp2, hj2, hc2⟩, ⟨hp, hj, hc⟩⟩

end PayloadFacts

namespace PayloadTracker

/-! ## 2. What a tick puts out -/

variable {rules : VectorRules V Q} {i n k : ℕ} {f g : PayloadFacts V Q}
  {s t : PayloadTracker V Q} {input : PayloadInput V Q} {out p q : PublicPayloadState V Q}

/-- The newest contact at or before `t`, and no older than one interval. -/
structure Newest (i : ℕ) (contacts : List (ℕ × Bool)) (t : ℕ) (c : ℕ × Bool) : Prop where
  mem : c ∈ contacts
  le : c.1 ≤ t
  young : t ≤ c.1 + i
  newest : ∀ d ∈ contacts, d.1 ≤ t → d.1 ≤ c.1

/-- **The public state of the `k`-th tick.** -/
structure Exact (rules : VectorRules V Q) (i : ℕ) (name : String × ℕ) (f : PayloadFacts V Q) (k : ℕ)
    (out : PublicPayloadState V Q) : Prop where
  stamp : out.simTimestampNs = (k + 1) * i
  named : (out.runId, out.arucoId) = name
  pose : ((k + 1) * i, out.position, out.orientation) ∈ f.poses
  first : k = 0 → out.linearVelocity = rules.zero
  velocity : 0 < k → ∃ previous ∈ f.poses, previous.1 = k * i ∧
    rules.velocity i out.position previous.2.1 = some out.linearVelocity
  attached : ((k + 1) * i, out.attached) ∈ f.joints
  grounded : ∃ c, Newest i f.contacts ((k + 1) * i) c ∧ out.grounded = c.2
  closed : ∃ c ∈ f.contacts, (k + 1) * i ≤ c.1

/-- The tick's pose and joint fact are there, and a contact at the tick or behind it. -/
structure Ready (i : ℕ) (f : PayloadFacts V Q) (k : ℕ) : Prop where
  pose : k < f.poses.length
  joint : k < f.joints.length
  closed : ∃ c ∈ f.contacts, (k + 1) * i ≤ c.1

theorem Ready.mono (h : Ready i f k) (hw : f.Within g) : Ready i g k :=
  ⟨Nat.lt_of_lt_of_le h.pose hw.poses.length_le, Nat.lt_of_lt_of_le h.joint hw.joints.length_le,
    let ⟨c, hc, hle⟩ := h.closed
    ⟨c, hw.contacts.subset hc, hle⟩⟩

/-- **More facts do not change what is exact.** -/
theorem Exact.mono {name : String × ℕ} (h : Exact rules i name f k out) (hw : f.Within g)
    (hg : g.InStep i) : Exact rules i name g k out := by
  refine { h with
    pose := hw.poses.subset h.pose
    velocity := fun hk => ?_
    attached := hw.joints.subset h.attached
    grounded := ?_
    closed := ?_ }
  · obtain ⟨previous, hmem, hrest⟩ := h.velocity hk
    exact ⟨previous, hw.poses.subset hmem, hrest⟩
  · obtain ⟨c, ⟨hmem, hle, hyoung, hnewest⟩, hc⟩ := h.grounded
    obtain ⟨last, hlast, hclosed⟩ := h.closed
    refine ⟨c, ⟨hw.contacts.subset hmem, hle, hyoung, fun d hd hdle => ?_⟩, hc⟩
    -- a contact that is not in `f` is behind the one that closes the tick
    have hcontacts := hg.contacts
    obtain ⟨more, heq⟩ := hw.contacts
    rw [← heq] at hd hcontacts
    rcases List.mem_append.mp hd with hd | hd
    · exact hnewest d hd hdle
    · have hlt := hcontacts.across hlast hd
      omega
  · obtain ⟨c, hc, hle⟩ := h.closed
    exact ⟨c, hw.contacts.subset hc, hle⟩

/-- **A tick has one exact public state.** -/
theorem Exact.unique {name : String × ℕ} (hpos : 0 < i) (hf : f.InStep i)
    (hp : Exact rules i name f k p) (hq : Exact rules i name f k q) : p = q := by
  have hposes := hf.poses.increasing hpos
  have hpose := hposes.eq_of_stamp hp.pose hq.pose rfl
  have hjoint := (hf.joints.increasing hpos).eq_of_stamp hp.attached hq.attached rfl
  obtain ⟨c, hc, hpc⟩ := hp.grounded
  obtain ⟨d, hd, hqd⟩ := hq.grounded
  have hcd : c = d := by
    have h1 := hd.newest c hc.mem hc.le
    have h2 := hc.newest d hd.mem hd.le
    exact hf.contacts.eq_of_stamp hc.mem hd.mem (by omega)
  obtain ⟨hrun, hid⟩ := Prod.mk.inj (hp.named.trans hq.named.symm)
  obtain ⟨hposition, horientation⟩ := Prod.mk.inj (Prod.mk.inj hpose).2
  have hvelocity : p.linearVelocity = q.linearVelocity := by
    rcases Nat.eq_zero_or_pos k with hk | hk
    · rw [hp.first hk, hq.first hk]
    · obtain ⟨u, hu, hustamp, hpu⟩ := hp.velocity hk
      obtain ⟨v, hv, hvstamp, hqv⟩ := hq.velocity hk
      rw [hposes.eq_of_stamp hu hv (hustamp.trans hvstamp.symm), hposition, hqv] at hpu
      exact (Option.some.inj hpu).symm
  refine PublicPayloadState.ext hrun (hp.stamp.trans hq.stamp.symm) hid hposition horientation
    hvelocity ?_ (Prod.mk.inj hjoint).2
  rw [hpc, hqd, hcd]

/-! ## 3. What the tracker holds -/

/-- **The tracker holds what lies behind the `n`-th tick.** -/
structure Holds (rules : VectorRules V Q) (i : ℕ) (name : String × ℕ) (f : PayloadFacts V Q)
    (n : ℕ) (s : PayloadTracker V Q) : Prop where
  past : ∀ k < n, Ready i f k
  interval : s.intervalNs = i
  named : (s.runId, s.arucoId) = name
  fault : s.faultReason = none
  inStep : f.InStep i
  lastPose : s.lastPoseInputTimestampNs = received Prod.fst f.poses
  lastJoint : s.lastAttachmentTimestampNs = received Prod.fst f.joints
  lastContact : s.lastContactTimestampNs = received Prod.fst f.contacts
  poses : Keeps s.poses f.poses fun e => n * i < e
  joints : Keeps s.attachments f.joints fun e => n * i < e
  contacts : Keeps s.contacts f.contacts fun e => n * i ≤ e + i
  start : n = 0 → s.lastPosition = none
  lastPosition : 0 < n → ∃ previous ∈ f.poses, previous.1 = n * i ∧
    s.lastPosition = some previous.2.1

variable {name : String × ℕ}

theorem Holds.pos (h : Holds rules i name f n s) : 0 < i := h.interval ▸ s.intervalNs_pos

theorem Holds.initial (runId : String) (arucoId intervalNs : ℕ) (hid : arucoId ≤ 65535)
    (hpos : 0 < intervalNs) : Holds rules intervalNs (runId, arucoId) (payloadFacts []) 0
      (PayloadTracker.initial runId arucoId intervalNs hid hpos : PayloadTracker V Q) where
  past := fun _ hk => absurd hk (Nat.not_lt_zero _)
  interval := rfl
  named := rfl
  fault := rfl
  inStep := ⟨.nil, .nil, .nil⟩
  lastPose := rfl
  lastJoint := rfl
  lastContact := rfl
  poses := .empty
  joints := .empty
  contacts := .empty
  start := fun _ => rfl
  lastPosition := fun hlt => absurd hlt (Nat.lt_irrefl 0)

/-! ## 4. Intake -/

theorem acceptContact_ok {stamp : ℕ} {grounded : Bool}
    (h : s.acceptContact stamp grounded = .ok t) :
    (∀ last, s.lastContactTimestampNs = some last → last < stamp) ∧
    t = { s with
      lastContactTimestampNs := some stamp
      contacts := s.contacts.set stamp grounded } := by
  unfold acceptContact at h
  split at h
  · cases h
  · split at h
    · cases h
    · rename_i hlast
      exact ⟨lt_of_any_false hlast, (Except.ok.inj h).symm⟩

theorem acceptAttachment_ok {stamp : ℕ} {state : PhysicalState}
    (h : s.acceptAttachment stamp state = .ok t) :
    ∃ attached, state.attached = some attached ∧
    s.paces s.lastAttachmentTimestampNs stamp = true ∧
    t = { s with
      lastAttachmentTimestampNs := some stamp
      attachments := s.attachments.set stamp attached } := by
  unfold acceptAttachment at h
  split at h
  · cases h
  · split at h
    · cases h
    · rename_i attached hstate
      split at h
      · cases h
      · rename_i hpaces
        rw [Bool.not_eq_true', Bool.not_eq_false] at hpaces
        exact ⟨attached, hstate, hpaces, (Except.ok.inj h).symm⟩

theorem acceptPose_ok {stamp : ℕ} {position : V} {orientation : Q}
    (h : s.acceptPose rules stamp position orientation = .ok t) :
    s.paces s.lastPoseInputTimestampNs stamp = true ∧
    t = { s with
      lastPoseInputTimestampNs := some stamp
      poses := s.poses.set stamp (position, orientation) } := by
  unfold acceptPose at h
  split at h
  · cases h
  · split at h
    · cases h
    · split at h
      · cases h
      · split at h
        · cases h
        · rename_i hpaces
          rw [Bool.not_eq_true', Bool.not_eq_false] at hpaces
          exact ⟨hpaces, (Except.ok.inj h).symm⟩

/-- **The next stamp of a paced stream**, and where it lies. -/
theorem Holds.paced_next (h : Holds rules i name f n s) {α : Type} {l : List (ℕ × α)} {b : ℕ × α}
    (hl : Paced Prod.fst i l) (hn : n ≤ l.length)
    (hpaces : s.paces (received Prod.fst l) b.1 = true) :
    Paced Prod.fst i (l ++ [b]) ∧ (∀ a ∈ l, a.1 < b.1) ∧ n * i < b.1 := by
  have hnext : Paced Prod.fst i (l ++ [b]) := by
    refine hl.next (fun hnone => ?_) fun last hlast => ?_
    · rw [hnone, paces, decide_eq_true_eq, h.interval] at hpaces
      exact hpaces
    · rw [hlast, paces, decide_eq_true_eq, h.interval] at hpaces
      show b.1 = last + i
      omega
  refine ⟨hnext, fun a ha => ?_, ?_⟩
  · exact (hnext.increasing h.pos).across ha (List.mem_singleton_self b)
  · rw [hnext.stamp (k := l.length) (List.getElem?_concat_length ..)]
    exact Nat.mul_lt_mul_of_pos_right (by omega) h.pos

theorem Holds.poses_le (h : Holds rules i name f n s) : n ≤ f.poses.length := by
  cases n with
  | zero => exact Nat.zero_le _
  | succ n => exact (h.past n (Nat.lt_succ_self n)).pose

theorem Holds.joints_le (h : Holds rules i name f n s) : n ≤ f.joints.length := by
  cases n with
  | zero => exact Nat.zero_le _
  | succ n => exact (h.past n (Nat.lt_succ_self n)).joint

/-- **The intake keeps what the tracker holds.** -/
theorem Holds.intake (h : Holds rules i name f n s) (ht : s.intake rules input = .ok t) :
    Holds rules i name (f.add input) n t := by
  have hpast : ∀ k < n, Ready i (f.add input) k := fun k hk =>
    (h.past k hk).mono (PayloadFacts.within_add f input)
  cases input with
  | contact stamp grounded =>
    obtain ⟨hlast, rfl⟩ := acceptContact_ok ht
    have hafter : ∀ c ∈ f.contacts, c.1 < stamp :=
      h.inStep.contacts.lt_of_received (b := (stamp, grounded)) fun last hr =>
        hlast last (by rw [h.lastContact, hr])
    -- a contact closed the last tick that is out
    have hyoung : n * i ≤ stamp + i := by
      cases n with
      | zero => omega
      | succ n =>
        obtain ⟨c, hc, hle⟩ := (h.past n (Nat.lt_succ_self n)).closed
        have hlt := hafter c hc
        omega
    refine { h with
      past := hpast
      inStep := { h.inStep with contacts := h.inStep.contacts.snoc hafter }
      lastContact := (received_snoc (f := Prod.fst) (b := (stamp, grounded))).symm
      contacts := ?_ }
    exact h.contacts.set (b := (stamp, grounded)) hafter (decide_eq_true hyoung)
  | attachment stamp state =>
    obtain ⟨attached, hstate, hpaces, rfl⟩ := acceptAttachment_ok ht
    rw [h.lastJoint] at hpaces
    obtain ⟨hnext, hafter, hbehind⟩ :=
      h.paced_next (b := (stamp, attached)) h.inStep.joints h.joints_le hpaces
    have hjoints : (f.add (.attachment stamp state)).joints = f.joints ++ [(stamp, attached)] := by
      rw [PayloadFacts.add, hstate]
      rfl
    refine { h with
      past := hpast
      inStep := { h.inStep with joints := hjoints ▸ hnext }
      lastJoint := ?_
      joints := ?_ }
    · rw [hjoints]
      exact (received_snoc (f := Prod.fst) (b := (stamp, attached))).symm
    · rw [hjoints]
      exact h.joints.set (b := (stamp, attached)) hafter (decide_eq_true hbehind)
  | pose stamp position orientation =>
    obtain ⟨hpaces, rfl⟩ := acceptPose_ok ht
    rw [h.lastPose] at hpaces
    obtain ⟨hnext, hafter, hbehind⟩ :=
      h.paced_next (b := (stamp, position, orientation)) h.inStep.poses h.poses_le hpaces
    refine { h with
      past := hpast
      inStep := { h.inStep with poses := hnext }
      lastPose := (received_snoc (f := Prod.fst) (b := (stamp, position, orientation))).symm
      poses := ?_
      lastPosition := fun hn => ?_ }
    · exact h.poses.set (b := (stamp, position, orientation)) hafter (decide_eq_true hbehind)
    · obtain ⟨previous, hmem, hrest⟩ := h.lastPosition hn
      exact ⟨previous, List.mem_append_left _ hmem, hrest⟩

/-! ## 5. The drain -/

/-- **The oldest pose held is the one of the next tick.** -/
theorem Holds.nextPose_eq (h : Holds rules i name f n s) : s.nextPose = f.poses[n]? := by
  have hincreasing := h.inStep.poses.increasing h.pos
  have hkeys : ∀ e, e ∈ s.poses.keys ↔ n * i < e ∧ ∃ v, (e, v) ∈ f.poses := fun e => by
    rw [h.poses.mem_keys hincreasing, decide_eq_true_eq]
  have hindex : ∀ e, e ∈ s.poses.keys → (n + 1) * i ≤ e ∧ n < f.poses.length := by
    intro e he
    obtain ⟨hlt, v, hv⟩ := (hkeys e).mp he
    obtain ⟨k, hk, heq⟩ := h.inStep.poses.exists_index hv
    have heq : e = (k + 1) * i := heq
    rw [heq] at hlt
    have hnk := Nat.lt_of_mul_lt_mul_right hlt
    exact ⟨heq ▸ Nat.mul_le_mul_right i hnk, by omega⟩
  unfold nextPose
  cases hn : f.poses[n]? with
  | none =>
    have hlength := List.getElem?_eq_none_iff.mp hn
    have hempty : s.poses.keys = [] := List.eq_nil_iff_forall_not_mem.mpr fun e he => by
      have hlt := (hindex e he).2
      omega
    rw [hempty]
    rfl
  | some p =>
    obtain ⟨stamp, pose⟩ := p
    have hstamp : stamp = (n + 1) * i := h.inStep.poses.stamp hn
    have hmem := List.mem_of_getElem? hn
    have hbehind : n * i < stamp := by
      rw [hstamp]
      exact Nat.mul_lt_mul_of_pos_right (Nat.lt_succ_self n) h.pos
    have hmin : s.poses.keys.min? = some stamp := by
      refine List.min?_eq_some_iff.mpr ⟨(hkeys stamp).mpr ⟨hbehind, pose, hmem⟩, fun e he => ?_⟩
      rw [hstamp]
      exact (hindex e he).1
    have hget := (h.poses.get_eq_some hincreasing).mpr ⟨decide_eq_true hbehind, hmem⟩
    rw [hmin, Option.bind_eq_bind, Option.bind_some, hget]
    rfl

/-- The newest contact held is the newest of all. -/
theorem Holds.eligibleContact_spec (h : Holds rules i name f n s) {e : ℕ} (he : n * i ≤ e) :
    (s.eligibleContact e = none → ∀ c ∈ f.contacts, c.1 ≠ e) ∧
    ∀ stamp, s.eligibleContact e = some stamp → ∃ grounded, (stamp, grounded) ∈ f.contacts ∧
      s.contacts.get stamp = some grounded ∧ stamp ≤ e ∧
      ∀ d ∈ f.contacts, d.1 ≤ e → d.1 ≤ stamp := by
  have hkeys : ∀ u, u ∈ s.contacts.keys ↔ n * i ≤ u + i ∧ ∃ v, (u, v) ∈ f.contacts := fun u => by
    rw [h.contacts.mem_keys h.inStep.contacts, decide_eq_true_eq]
  constructor
  · intro hnone c hc heq
    rw [eligibleContact, List.max?_eq_none_iff, List.filter_eq_nil_iff] at hnone
    refine hnone c.1 ((hkeys c.1).mpr ⟨by omega, c.2, hc⟩) ?_
    rw [heq, decide_eq_true_eq]
  · intro stamp hsome
    obtain ⟨hmem, hmax⟩ := List.max?_eq_some_iff.mp hsome
    obtain ⟨hkey, hle⟩ := List.mem_filter.mp hmem
    obtain ⟨hkept, v, hv⟩ := (hkeys stamp).mp hkey
    refine ⟨v, hv, (h.contacts.get_eq_some h.inStep.contacts).mpr ⟨decide_eq_true hkept, hv⟩,
      of_decide_eq_true hle, fun d hd hde => ?_⟩
    by_cases hdkept : n * i ≤ d.1 + i
    · exact hmax d.1 (List.mem_filter.mpr
        ⟨(hkeys d.1).mpr ⟨hdkept, d.2, hd⟩, decide_eq_true hde⟩)
    · omega

theorem Holds.lastContact_any (h : Holds rules i name f n s) (e : ℕ) :
    (s.lastContactTimestampNs.any fun last => e < last) = true ↔ ∃ c ∈ f.contacts, e < c.1 := by
  rw [h.lastContact, Option.any_eq_true]
  constructor
  · rintro ⟨last, hr, hlt⟩
    obtain ⟨c, hc, rfl⟩ := mem_of_received hr
    exact ⟨c, hc, of_decide_eq_true hlt⟩
  · rintro ⟨c, hc, hlt⟩
    obtain ⟨last, hr, hle⟩ := h.inStep.contacts.le_received hc
    exact ⟨last, hr, decide_eq_true (by omega)⟩

/-- **The contact that decides the next tick**, or that none does yet. -/
theorem Holds.contactAt_spec (h : Holds rules i name f n s) :
    (s.contactAt ((n + 1) * i) = .ok none → ∀ c ∈ f.contacts, c.1 < (n + 1) * i) ∧
    ∀ stamp, s.contactAt ((n + 1) * i) = .ok (some stamp) →
      ∃ c, Newest i f.contacts ((n + 1) * i) c ∧ s.contacts.get stamp = some c.2 ∧
        ∃ d ∈ f.contacts, (n + 1) * i ≤ d.1 := by
  have hle : n * i ≤ (n + 1) * i := Nat.mul_le_mul_right i (Nat.le_succ n)
  obtain ⟨hnone, hsome⟩ := h.eligibleContact_spec hle
  have hlast := h.lastContact_any ((n + 1) * i)
  generalize (n + 1) * i = e at hnone hsome hlast ⊢
  unfold contactAt
  cases hel : s.eligibleContact e with
  | none =>
    dsimp only
    split
    · exact ⟨fun heq => (by cases heq), fun _ heq => by cases heq⟩
    · rename_i hopen
      refine ⟨fun _ c hc => ?_, fun _ heq => by cases heq⟩
      have hne := hnone hel c hc
      have hnot : ¬ e < c.1 := fun hlt => hopen (hlast.mpr ⟨c, hc, hlt⟩)
      omega
  | some stamp =>
    obtain ⟨grounded, hmem, hget, hstamp, hnewest⟩ := hsome stamp hel
    dsimp only
    split
    · rename_i heq
      refine ⟨fun heq => (by cases heq), fun stamp' heq' => ?_⟩
      obtain rfl := Option.some.inj (Except.ok.inj heq')
      exact ⟨(stamp, grounded), ⟨hmem, hstamp, by dsimp only; omega, hnewest⟩, hget,
        (stamp, grounded), hmem, Nat.le_of_eq heq.symm⟩
    · rename_i hne
      split
      · rename_i hopen
        rw [Bool.not_eq_true', Bool.eq_false_iff, ne_eq, hlast] at hopen
        refine ⟨fun _ c hc => ?_, fun _ heq => by cases heq⟩
        have hnot : ¬ e < c.1 := fun hlt => hopen ⟨c, hc, hlt⟩
        have hne' : c.1 ≠ e := fun heq => by
          have hle' := hnewest c hc (Nat.le_of_eq heq)
          omega
        omega
      · rename_i hclosed
        rw [Bool.not_eq_true', Bool.not_eq_false, hlast] at hclosed
        split
        · exact ⟨fun heq => (by cases heq), fun _ heq => by cases heq⟩
        · rename_i hage
          refine ⟨fun heq => (by cases heq), fun stamp' heq' => ?_⟩
          obtain rfl := Option.some.inj (Except.ok.inj heq')
          obtain ⟨d, hd, hlt⟩ := hclosed
          rw [h.interval] at hage
          exact ⟨(stamp, grounded), ⟨hmem, hstamp, by dsimp only; omega, hnewest⟩, hget,
            d, hd, Nat.le_of_lt hlt⟩

/-- **The facts of the next tick**, or that it is not ready. -/
theorem Holds.factsAt_spec (h : Holds rules i name f n s) :
    (s.factsAt ((n + 1) * i) = .ok none → ¬ Ready i f n) ∧
    ∀ attached grounded, s.factsAt ((n + 1) * i) = .ok (some (attached, grounded)) →
      ((n + 1) * i, attached) ∈ f.joints ∧ n < f.joints.length ∧
      (∃ c, Newest i f.contacts ((n + 1) * i) c ∧ grounded = c.2) ∧
      ∃ d ∈ f.contacts, (n + 1) * i ≤ d.1 := by
  have hincreasing := h.inStep.joints.increasing h.pos
  have hbehind : n * i < (n + 1) * i :=
    Nat.mul_lt_mul_of_pos_right (Nat.lt_succ_self n) h.pos
  obtain ⟨hopen, hcontact⟩ := h.contactAt_spec
  unfold factsAt
  cases hget : s.attachments.get ((n + 1) * i) with
  | none =>
    dsimp only
    split
    · exact ⟨nofun, nofun⟩
    · refine ⟨fun _ hready => ?_, nofun⟩
      obtain ⟨⟨stamp, attached⟩, hmem, hstamp⟩ := h.inStep.joints.exists_stamp hready.joint
      obtain rfl : stamp = (n + 1) * i := hstamp
      rw [(h.joints.get_eq_some hincreasing).mpr ⟨decide_eq_true hbehind, hmem⟩] at hget
      cases hget
  | some attached =>
    obtain ⟨-, hmem⟩ := (h.joints.get_eq_some hincreasing).mp hget
    have hlength : n < f.joints.length := by
      obtain ⟨k, hk, hstamp⟩ := h.inStep.joints.exists_index hmem
      have hkn := Nat.eq_of_mul_eq_mul_right h.pos hstamp
      omega
    cases hcontactAt : s.contactAt ((n + 1) * i) with
    | error reason => exact ⟨nofun, nofun⟩
    | ok o =>
      cases o with
      | none =>
        refine ⟨fun _ hready => ?_, nofun⟩
        obtain ⟨c, hc, hle⟩ := hready.closed
        have hlt := hopen hcontactAt c hc
        omega
      | some stamp =>
        refine ⟨nofun, fun attached' grounded hok => ?_⟩
        obtain ⟨rfl, rfl⟩ := Prod.mk.inj (Option.some.inj (Except.ok.inj hok))
        obtain ⟨c, hc, hgetc, hclosed⟩ := hcontact stamp hcontactAt
        exact ⟨hmem, hlength, ⟨c, hc, by rw [hgetc]; rfl⟩, hclosed⟩

/-- The velocity at the next tick. -/
theorem Holds.velocityAt_spec (h : Holds rules i name f n s) {position velocity : V}
    (hv : s.velocityAt rules position = some velocity) :
    (n = 0 → velocity = rules.zero) ∧ (0 < n → ∃ previous ∈ f.poses, previous.1 = n * i ∧
      rules.velocity i position previous.2.1 = some velocity) := by
  unfold velocityAt at hv
  constructor
  · intro hn
    rw [h.start hn] at hv
    exact (Option.some.inj hv).symm
  · intro hn
    obtain ⟨previous, hmem, hstamp, hlast⟩ := h.lastPosition hn
    rw [hlast, h.interval] at hv
    exact ⟨previous, hmem, hstamp, hv⟩

/-- The tick is out: what lies behind it is held. -/
theorem Holds.advance (h : Holds rules i name f n s) (hready : Ready i f n) {position : V}
    {orientation : Q} (hmem : ((n + 1) * i, position, orientation) ∈ f.poses) :
    Holds rules i name f (n + 1) ((s.pop ((n + 1) * i)).advance ((n + 1) * i) position) := by
  have hnext : ∀ {α : Type} {l : List (ℕ × α)}, Paced Prod.fst i l → ∀ a ∈ l,
      (decide (n * i < a.1) && a.1 != (n + 1) * i) = decide ((n + 1) * i < a.1) := by
    intro α l hl a ha
    obtain ⟨k, -, hstamp⟩ := hl.exists_index ha
    rw [Bool.eq_iff_iff, Bool.and_eq_true, decide_eq_true_eq, decide_eq_true_eq, bne_iff_ne, hstamp,
      Nat.mul_lt_mul_right h.pos, Nat.mul_lt_mul_right h.pos, ne_eq, Nat.mul_left_inj h.pos.ne']
    omega
  refine { h with
    past := fun k hk => ?_
    poses := (h.poses.erase _).congr (hnext h.inStep.poses)
    joints := (h.joints.erase _).congr (hnext h.inStep.joints)
    contacts := (h.contacts.filterKeys _).congr fun c _ => ?_
    start := fun hn => absurd hn (Nat.succ_ne_zero n)
    lastPosition := fun _ => ⟨_, hmem, rfl, rfl⟩ }
  · rcases Nat.lt_succ_iff_lt_or_eq.mp hk with hk | rfl
    · exact h.past k hk
    · exact hready
  · have hinterval : (s.pop ((n + 1) * i)).intervalNs = i := h.interval
    have hle : n * i ≤ (n + 1) * i := Nat.mul_le_mul_right i (Nat.le_succ n)
    rw [Bool.eq_iff_iff, Bool.and_eq_true, hinterval]
    simp only [decide_eq_true_eq, Bool.not_eq_true', decide_eq_false_iff_not, Nat.not_lt]
    omega

/-- **The loop puts out the ready ticks, one after another, until one is not ready.** -/
theorem Holds.drainPoses (h : Holds rules i name f n s) {fuel : ℕ}
    (hfuel : f.poses.length ≤ n + fuel) {os : List (PublicPayloadState V Q)}
    (hd : s.drainPoses rules fuel = (t, .ok os)) :
    Holds rules i name f (n + os.length) t ∧
    (∀ k out, os[k]? = some out → Exact rules i name f (n + k) out) ∧
    ¬ Ready i f (n + os.length) := by
  induction fuel generalizing n s os with
  | zero =>
    obtain ⟨rfl, hos⟩ := Prod.mk.inj hd
    obtain rfl := Except.ok.inj hos
    refine ⟨h, fun k out hout => by simp at hout, fun hready => ?_⟩
    have hlt : n < f.poses.length := hready.pose
    omega
  | succ fuel ih =>
    unfold PayloadTracker.drainPoses at hd
    rw [h.nextPose_eq] at hd
    split at hd
    · rename_i hn
      obtain ⟨rfl, hos⟩ := Prod.mk.inj hd
      obtain rfl := Except.ok.inj hos
      refine ⟨h, fun k out hout => by simp at hout, fun hready => ?_⟩
      have hlength := List.getElem?_eq_none_iff.mp hn
      exact absurd hready.pose (Nat.not_lt.mpr hlength)
    · rename_i stamp position orientation hn
      obtain rfl : stamp = (n + 1) * i := h.inStep.poses.stamp hn
      have hmem := List.mem_of_getElem? hn
      obtain ⟨hopen, hfacts⟩ := h.factsAt_spec
      split at hd
      · cases (Prod.mk.inj hd).2
      · rename_i hnone
        obtain ⟨rfl, hos⟩ := Prod.mk.inj hd
        obtain rfl := Except.ok.inj hos
        exact ⟨h, fun k out hout => by simp at hout, hopen hnone⟩
      · rename_i attached grounded hsome
        obtain ⟨hjoint, hlength, hcontact, hclosed⟩ := hfacts attached grounded hsome
        have hready : Ready i f n :=
          ⟨(List.getElem?_eq_some_iff.mp hn).1, hlength, hclosed⟩
        split at hd
        · cases (Prod.mk.inj hd).2
        · rename_i velocity hvelocity
          obtain ⟨hfirst, hlater⟩ := h.velocityAt_spec hvelocity
          generalize hrest : ((s.pop ((n + 1) * i)).advance ((n + 1) * i) position).drainPoses rules
            fuel = r at hd
          obtain ⟨u, output⟩ := r
          obtain ⟨rfl, hos⟩ := Prod.mk.inj hd
          obtain ⟨ps, rfl, rfl⟩ := map_ok hos
          obtain ⟨hholds, hexact, hstop⟩ := ih (h.advance hready hmem) (by omega) hrest
          rw [List.length_cons, Nat.add_comm ps.length 1, ← Nat.add_assoc]
          refine ⟨hholds, fun k out hout => ?_, hstop⟩
          cases k with
          | zero =>
            obtain rfl := Option.some.inj hout
            exact ⟨rfl, h.named, hmem, hfirst, hlater, hjoint, hcontact, hclosed⟩
          | succ k =>
            have hk := hexact k out hout
            rwa [Nat.add_assoc, Nat.add_comm 1 k] at hk

/-- As many ticks as poses are held are enough for the loop. -/
theorem Holds.fuel (h : Holds rules i name f n s) :
    f.poses.length ≤ n + s.poses.keys.length := by
  have hincreasing := h.inStep.poses.increasing h.pos
  have hnodup : ((f.poses.drop n).map Prod.fst).Nodup := by
    refine List.pairwise_map.mpr ((hincreasing.sublist (List.drop_sublist n _)).imp fun hlt => ?_)
    exact Nat.ne_of_lt hlt
  have hsub : (f.poses.drop n).map Prod.fst ⊆ s.poses.keys := by
    intro stamp hmem
    obtain ⟨⟨stamp, pose⟩, hdrop, rfl⟩ := List.mem_map.mp hmem
    obtain ⟨k, hk⟩ := List.getElem?_of_mem hdrop
    rw [List.getElem?_drop] at hk
    have hstamp : stamp = (n + k + 1) * i := h.inStep.poses.stamp hk
    refine (h.poses.mem_keys hincreasing).mpr ⟨decide_eq_true ?_, pose, List.mem_of_getElem? hk⟩
    show n * i < stamp
    rw [hstamp]
    exact Nat.mul_lt_mul_of_pos_right (by omega) h.pos
  have hle := (hnodup.subperm hsub).length_le
  rw [List.length_map, List.length_drop] at hle
  omega

/-! ## 6. Runs -/

/-- **One call that returns.** -/
theorem Holds.accept (h : Holds rules i name f n s) {os : List (PublicPayloadState V Q)}
    (ha : s.accept rules input = (t, .ok os)) :
    Holds rules i name (f.add input) (n + os.length) t ∧
    (∀ k out, os[k]? = some out → Exact rules i name (f.add input) (n + k) out) ∧
    ¬ Ready i (f.add input) (n + os.length) := by
  unfold PayloadTracker.accept at ha
  rw [h.fault] at ha
  dsimp only at ha
  split at ha
  · cases (Prod.mk.inj ha).2
  · rename_i u hu
    have hu := h.intake hu
    split at ha
    · cases (Prod.mk.inj ha).2
    · rename_i v output hd
      obtain ⟨rfl, hos⟩ := Prod.mk.inj ha
      obtain rfl := Except.ok.inj hos
      exact hu.drainPoses hu.fuel hd

/-- **What holds after a run without a fault.** -/
structure Ran (rules : VectorRules V Q) (i : ℕ) (name : String × ℕ) (is : List (PayloadInput V Q))
    (os : List (PublicPayloadState V Q)) (s : PayloadTracker V Q) : Prop where
  holds : Holds rules i name (payloadFacts is) os.length s
  joined : Joined (Ready i (payloadFacts is)) (Exact rules i name (payloadFacts is)) os
  done : ¬ Ready i (payloadFacts is) os.length

theorem ran {runId : String} {arucoId : ℕ} (hid : arucoId ≤ 65535) (hpos : 0 < i)
    {is : List (PayloadInput V Q)} {os : List (PublicPayloadState V Q)}
    (h : Run (Returns (accept rules)) (PayloadTracker.initial runId arucoId i hid hpos) is os s) :
    Ran rules i (runId, arucoId) is os s := by
  induction h with
  | start =>
    exact ⟨Holds.initial runId arucoId i hid hpos, .start, fun h =>
      absurd h.pose (Nat.not_lt_zero _)⟩
  | @step is os t input ps u _ hs ih =>
    obtain ⟨hholds, hexact, hstop⟩ := ih.holds.accept hs
    have hwithin := PayloadFacts.within_add (payloadFacts is) input
    rw [← payloadFacts_snoc, ← List.length_append] at hholds hstop
    rw [← payloadFacts_snoc] at hwithin hexact
    refine ⟨hholds, (ih.joined.mono (fun k hk => hk.mono hwithin) ?_).append ?_ hexact, hstop⟩
    · exact fun k out _ hk => hk.mono hwithin hholds.inStep
    · rw [← List.length_append]
      exact hholds.past

theorem intake_fault (h : s.intake rules input = .ok t) : t.faultReason = s.faultReason := by
  cases input with
  | contact stamp grounded =>
    obtain ⟨-, rfl⟩ := acceptContact_ok h
    rfl
  | attachment stamp state =>
    obtain ⟨_, -, -, rfl⟩ := acceptAttachment_ok h
    rfl
  | pose stamp position orientation =>
    obtain ⟨-, rfl⟩ := acceptPose_ok h
    rfl

theorem drainPoses_fault (rules : VectorRules V Q) (fuel : ℕ) (s : PayloadTracker V Q) :
    (s.drainPoses rules fuel).1.faultReason = s.faultReason := by
  induction fuel generalizing s with
  | zero => rfl
  | succ fuel ih =>
    unfold drainPoses
    split
    · rfl
    · split
      · rfl
      · rfl
      · split
        · rfl
        · exact ih _

/-- **The tracker latches its first fault.** -/
theorem latching (rules : VectorRules V Q) : Latching (accept rules) faultReason where
  raises := by
    intro s input fault hs
    unfold accept
    rw [hs]
  returns := by
    intro s input t os ha
    unfold accept at ha
    split at ha
    · cases (Prod.mk.inj ha).2
    · rename_i hfault
      split at ha
      · cases (Prod.mk.inj ha).2
      · rename_i u hu
        split at ha
        · cases (Prod.mk.inj ha).2
        · rename_i v output hd
          obtain ⟨rfl, -⟩ := Prod.mk.inj ha
          have hv := drainPoses_fault rules u.poses.keys.length u
          unfold drain at hd
          rw [hd] at hv
          rw [hv, intake_fault hu, hfault]
  latches := by
    intro s input t fault ha
    unfold accept at ha
    split at ha
    · rename_i hfault
      obtain ⟨rfl, he⟩ := Prod.mk.inj ha
      rw [hfault, Except.error.inj he]
    · split at ha
      · obtain ⟨rfl, he⟩ := Prod.mk.inj ha
        rw [← Except.error.inj he]
      · split at ha
        · obtain ⟨rfl, he⟩ := Prod.mk.inj ha
          rw [← Except.error.inj he]
        · cases (Prod.mk.inj ha).2

/-- **The payload join does not depend on the order of arrival.** Two lists of calls with the same
    streams put out the same if neither faults, and otherwise one puts out a part of the other;
    and what is put out is exact, tick after tick, by the calls that were taken. -/
theorem payloadJoin_orderFree (rules : VectorRules V Q) (runId : String) (arucoId i : ℕ)
    (hid : arucoId ≤ 65535) (hpos : 0 < i) (is js : List (PayloadInput V Q))
    (hsame : payloadFacts is = payloadFacts js) :
    let fed := feed (accept rules) (PayloadTracker.initial runId arucoId i hid hpos)
    ((fed is).1.faultReason = none → (fed js).1.faultReason = none → (fed is).2 = (fed js).2) ∧
    ((fed is).2 <+: (fed js).2 ∨ (fed js).2 <+: (fed is).2) ∧
    ∃ taken, taken <+: is ∧ ((fed is).1.faultReason = none → taken = is) ∧
      ∀ k out, (fed is).2[k]? = some out →
        Exact rules i (runId, arucoId) (payloadFacts taken) k out := by
  intro fed
  obtain ⟨is', s, his, hs, hsend⟩ := (latching rules).run
    (s := PayloadTracker.initial runId arucoId i hid hpos) is
  obtain ⟨js', t, hjs, ht, htend⟩ := (latching rules).run
    (s := PayloadTracker.initial runId arucoId i hid hpos) js
  have hran := ran hid hpos hs
  have hran' := ran hid hpos ht
  refine ⟨fun hfault hfault' => ?_, ?_, is', his, fun hfault => (hsend hfault).1,
    hran.joined.value⟩
  · obtain ⟨rfl, -⟩ := hsend hfault
    obtain ⟨rfl, -⟩ := htend hfault'
    have hjoined' := hran'.joined
    have hdone' := hran'.done
    rw [← hsame] at hjoined' hdone'
    exact hran.joined.unique hjoined' hran.done hdone'
      fun _ _ _ hp hq => hp.unique hpos hran.holds.inStep hq
  · have hwithin := PayloadFacts.within_of_prefix his
    have hwithin' := PayloadFacts.within_of_prefix hjs
    rw [← hsame] at hwithin'
    -- both outputs are exact by the longer ones of the streams taken
    obtain ⟨h, hh, hh', hstep⟩ := PayloadFacts.exists_within hwithin hwithin'
      hran.holds.inStep hran'.holds.inStep
    have hjoined := hran.joined.mono (fun k hk => hk.mono hh) fun k out _ hk => hk.mono hh hstep
    have hjoined' := hran'.joined.mono (fun k hk => hk.mono hh') fun k out _ hk => hk.mono hh' hstep
    have hunique : ∀ k p q, Exact rules i (runId, arucoId) h k p →
        Exact rules i (runId, arucoId) h k q → p = q := fun _ _ _ hp hq => hp.unique hpos hstep hq
    rcases Nat.le_total (fed is).2.length (fed js).2.length with hle | hle
    · exact Or.inl (hjoined.comparable hjoined' hle hunique)
    · exact Or.inr (hjoined'.comparable hjoined hle hunique)

/-- Two ticks of a payload that is set down and let go, in one order. -/
def twoTicks : List (PayloadInput Xyz Xyzw) :=
  [.contact 10 true, .attachment 10 (.text "attached"), .pose 10 ⟨0, 0, 0⟩ ⟨0, 0, 0, 1⟩,
    .pose 20 ⟨0, 0, 1⟩ ⟨0, 0, 0, 1⟩, .attachment 20 (.text "detached"), .contact 25 false]

/-- The same streams in another order. -/
def twoTicksShuffled : List (PayloadInput Xyz Xyzw) :=
  [.attachment 10 (.text "attached"), .attachment 20 (.text "detached"), .contact 10 true,
    .contact 25 false, .pose 10 ⟨0, 0, 0⟩ ⟨0, 0, 0, 1⟩, .pose 20 ⟨0, 0, 1⟩ ⟨0, 0, 0, 1⟩]

theorem payloadJoin_orderFree_twoTicks :
    (feed (accept exactVectors) (PayloadTracker.initial "run" 2 10 (by decide) (by decide))
      twoTicks).2.length = 2 ∧
    (feed (accept exactVectors) (PayloadTracker.initial "run" 2 10 (by decide) (by decide))
      twoTicks).2 =
    (feed (accept exactVectors) (PayloadTracker.initial "run" 2 10 (by decide) (by decide))
      twoTicksShuffled).2 := by
  have hfree := payloadJoin_orderFree exactVectors "run" 2 10 (by decide) (by decide) twoTicks
    twoTicksShuffled rfl
  exact ⟨by decide +kernel, hfree.1 (by decide +kernel) (by decide +kernel)⟩

end PayloadTracker

end DroneSim
