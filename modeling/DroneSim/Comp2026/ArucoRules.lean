/-
  File:      DroneSim/Comp2026/ArucoRules.lean
  Subject:   What a hosted precision landing may do.

  `LandRule` says of every note of a landing what has to come before it. A landing begins with an
  empty history, so what it says of the notes before is said of the call.

  * `LandInv` -- the variables of the loop, told by the notes;
  * `landing_disciplined` -- **every landing keeps to the rule**; and it sends nothing past its
    deadline where the two readings that it compares with no deadline come before it;
  * `late_landing` -- one where they do not.
-/
import DroneSim.Comp2026.ArucoLanding
import DroneSim.Library.Emission

namespace DroneSim

open Library Library.Attempt Library.Acting

/-! ## 1. What the notes say -/

namespace PrecisionNote

def timeOf : PrecisionNote → Option ℚ
  | .time t => some t
  | _ => none

def startedOf : PrecisionNote → Option ℚ
  | .started t => some t
  | _ => none

def readOf : PrecisionNote → Option PrecisionEvidence
  | .read e => some e
  | _ => none

/-- What a reading came to. -/
def readingOf : PrecisionNote → Option (Option PrecisionEvidence)
  | .read e => some (some e)
  | .unread => some none
  | _ => none

/-- What was accepted of a reading. -/
def judgedOf : PrecisionNote → Option (Option PrecisionEvidence)
  | .judged j _ => some j.accepted
  | _ => none

/-- When the landing was healthy: at its start, near the ground, or with an observation accepted. -/
def healthyAt : PrecisionNote → Option ℚ
  | .started t => some t
  | .nearGround t => some t
  | .judged j t => j.accepted.map fun _ => t
  | _ => none

/-- The mode: LAND confirmed, or GUIDED commanded. -/
def landMode : PrecisionNote → Option Bool
  | .done .setLandMode => some true
  | .command .setGuidedMode => some false
  | .command (.guidedWaypoint _) => some false
  | _ => none

/-- The state of the landing: `none` is tracking. -/
def holdOf : PrecisionNote → Option (Option (ℚ × GpsPoint))
  | .started _ => some none
  | .held t waypoint => some (some (t, waypoint))
  | .reacquired _ => some none
  | _ => none

def isHeld : PrecisionNote → Bool
  | .held _ _ => true
  | _ => false

end PrecisionNote

open PrecisionNote

/-! ## 2. The rule -/

section Rule

variable (m : MathFunctions) (p : PrecisionPolicy) (c : LandCall)

/-- **An observation that may be accepted**: the newest, of a frame above all that were read before,
    with the marker below the vehicle, near the anchor, and centred during a hold. -/
structure Acceptable (before : List PrecisionNote) (e : PrecisionEvidence) (v : RelPosComplete) :
    Prop where
  read : latest readingOf before = some (some e)
  newer : ∃ older, before.filterMap readOf = older ++ [e] ∧
    ∀ e' ∈ older, e'.frameSequence < e.frameSequence
  vector : e.vector = some v
  below : 0 < v.z
  anchored : ∀ anchor, c.anchor = some anchor →
    m.horizontalDistance (m.projectedTarget e v) anchor ≤ anchorDriftLimit
  centred : ∀ hold, latest holdOf before = some (some hold) →
    m.horizontalError e v ≤ p.centeredTolerance

/-- A command comes after a reading of the clock before the deadline, or after one of the two that
    are not compared with it. -/
def Timed (before : List PrecisionNote) : Prop :=
  ∃ startedAt t, latest startedOf before = some startedAt ∧ latest timeOf before = some t ∧
    (t < c.deadline startedAt ∨ t = startedAt ∨ ∃ j, PrecisionNote.judged j t ∈ before)

/-- What has to come before a command. -/
def CommandRule (before : List PrecisionNote) : PrecisionCommand → Prop
  | .landingTarget vector => latest holdOf before = some none ∧ latest landMode before = some true ∧
      ∃ e v, vector = some v ∧ Acceptable m p c before e v
  | .guidedWaypoint waypoint =>
      (∃ startedAt, latest holdOf before = some (some (startedAt, waypoint))) ∧
      ∀ a waypoint' b, before = a ++ PrecisionNote.command (.guidedWaypoint waypoint') :: b →
        (∀ n ∈ b, isHeld n = false) → waypoint' = waypoint ∧ ∃ t t', latest timeOf a = some t ∧
          latest timeOf before = some t' ∧ holdCommandPeriod ≤ t' - t
  | _ => True

/-- **What has to come before a note.** -/
def LandRule (before : List PrecisionNote) : PrecisionNote → Prop
  | .command sent => Timed c before ∧ CommandRule m p c before sent
  | .judged j _ => ∀ e, j.accepted = some e → ∃ v, Acceptable m p c before e v
  | .held t _ => latest holdOf before = some none ∧ latest timeOf before = some t ∧
      ∃ healthy, latest healthyAt before = some healthy ∧ targetHealthTimeout ≤ t - healthy
  | .reacquired _ => (∃ hold, latest holdOf before = some (some hold)) ∧
      ∃ (older : List (Option PrecisionEvidence)) (frames : List PrecisionEvidence),
        (since isHeld before).filterMap judgedOf = older ++ frames.map some ∧
        frames.length = reacquireFrameCount
  | _ => True

/-- What has come before an answer. -/
def AnswerRule (log : List PrecisionNote) : LandingResult → Prop
  | .touchdown => ∃ timeout, PrecisionNote.done (PrecisionCommand.confirmLanding timeout) ∈ log
  | .retry => ∃ startedAt waypoint t, latest holdOf log = some (some (startedAt, waypoint)) ∧
      latest timeOf log = some t ∧ holdTimeout ≤ t - startedAt
  | .failed => False

end Rule

/-! ## 3. The variables of the loop -/

section Invariant

variable (m : MathFunctions) (p : PrecisionPolicy) (c : LandCall)

/-- The waypoints sent in the hold. -/
def SentInHold (h : LandHold) (log : List PrecisionNote) : Prop :=
  ∀ a waypoint b, log = a ++ PrecisionNote.command (.guidedWaypoint waypoint) :: b →
    (∀ n ∈ b, isHeld n = false) →
    waypoint = h.waypoint ∧ ∃ t, latest timeOf a = some t ∧ t + holdCommandPeriod ≤ h.nextCommandAt

/-- The frames of the hold. -/
def FramesInHold (h : LandHold) (log : List PrecisionNote) : Prop :=
  ∃ (older : List (Option PrecisionEvidence)) (frames : List PrecisionEvidence),
    (since isHeld log).filterMap judgedOf = older ++ frames.map some ∧ frames.length = h.reacquiredFrames

/-- What holds of the notes at any point of a pass. -/
structure LandCore (startedAt : ℚ) (v : LandState) (log : List PrecisionNote) : Prop where
  grounded : Grounded (LandRule m p c) log
  started : latest startedOf log = some startedAt
  frames : ∀ e ∈ log.filterMap readOf, e.frameSequence ≤ v.lastSequence

/-- **The variables, told by the notes**, between two passes. -/
structure LandInv (startedAt : ℚ) (v : LandState) (log : List PrecisionNote) : Prop
    extends LandCore m p c startedAt v log where
  hold : latest holdOf log = some (v.hold.map fun h => (h.startedAt, h.waypoint))
  land : v.hold = none → latest landMode log = some true
  healthy : v.hold = none → latest healthyAt log = some v.lastHealthyAt
  sent : ∀ h, v.hold = some h → SentInHold h log
  counted : ∀ h, v.hold = some h → FramesInHold h log

/-- The notes when a reading has been judged. -/
structure Seen (startedAt : ℚ) (v : LandState) (j : Judgement) (t : ℚ)
    (log : List PrecisionNote) : Prop extends LandCore m p c startedAt v log where
  hold : latest holdOf log = some (v.hold.map fun h => (h.startedAt, h.waypoint))
  land : v.hold = none → latest landMode log = some true
  time : latest timeOf log = some t
  stamped : ∃ j, PrecisionNote.judged j t ∈ log
  rejected : v.hold = none → j.accepted = none → latest healthyAt log = some v.lastHealthyAt
  accepted : ∀ e, j.accepted = some e → latest healthyAt log = some t ∧
    ∃ vector, Acceptable m p c log e vector
  sent : ∀ h, v.hold = some h → SentInHold h log
  counted : ∀ h, v.hold = some h →
    ∃ (older : List (Option PrecisionEvidence)) (frames : List PrecisionEvidence),
      (since isHeld log).filterMap judgedOf = older ++ frames.map some ++ [j.accepted] ∧
        frames.length = h.reacquiredFrames

/-- A note that no variable depends on. -/
structure Quiet (n : PrecisionNote) : Prop where
  started : startedOf n = none
  read : readOf n = none
  hold : holdOf n = none
  land : landMode n = none
  healthy : healthyAt n = none
  judged : judgedOf n = none

variable {m p c} {startedAt t : ℚ} {v : LandState} {h : LandHold} {log : List PrecisionNote}
  {n : PrecisionNote} {j : Judgement} {reading : Except PrecisionWorld.Unread PrecisionEvidence}
  {e : PrecisionEvidence}

theorem Quiet.held (hn : Quiet n) : isHeld n = false := by
  have hhold := hn.hold
  cases n with
  | held => cases hhold
  | _ => rfl

theorem SentInHold.quiet (hs : SentInHold h log)
    (hn : ∀ waypoint, n ≠ .command (.guidedWaypoint waypoint)) : SentInHold h (log ++ [n]) := by
  intro a waypoint b hlog hb
  rcases snoc_split.mp hlog with ⟨-, -, he⟩ | ⟨rest, rfl, hbefore⟩
  · exact absurd he.symm (hn waypoint)
  · exact hs a waypoint rest hbefore fun n hmem => hb n (List.mem_append_left _ hmem)

theorem FramesInHold.quiet (hf : FramesInHold h log) (hheld : isHeld n = false)
    (hn : judgedOf n = none) : FramesInHold h (log ++ [n]) := by
  obtain ⟨older, frames, hlist, hlength⟩ := hf
  refine ⟨older, frames, ?_, hlength⟩
  rw [since_snoc, hheld]
  simpa [hn] using hlist

theorem LandCore.snoc (hv : LandCore m p c startedAt v log) (hrule : LandRule m p c log n)
    (hstarted : startedOf n = none) (hread : readOf n = none) :
    LandCore m p c startedAt v (log ++ [n]) where
  grounded := hv.grounded.snoc hrule
  started := by rw [latest_snoc, hstarted, Option.none_or, hv.started]
  frames := by
    intro e he
    rw [List.filterMap_append, List.mem_append] at he
    rcases he with he | he
    · exact hv.frames e he
    · simp [hread] at he

theorem LandInv.quiet (hv : LandInv m p c startedAt v log) (hrule : LandRule m p c log n)
    (hn : Quiet n) : LandInv m p c startedAt v (log ++ [n]) where
  toLandCore := hv.toLandCore.snoc hrule hn.started hn.read
  hold := by rw [latest_snoc, hn.hold, Option.none_or, hv.hold]
  land := fun hnone => by rw [latest_snoc, hn.land, Option.none_or, hv.land hnone]
  healthy := fun hnone => by rw [latest_snoc, hn.healthy, Option.none_or, hv.healthy hnone]
  sent := by
    intro h hh
    refine (hv.sent h hh).quiet fun waypoint he => ?_
    have hland := hn.land
    rw [he] at hland
    cases hland
  counted := fun h hh => (hv.counted h hh).quiet hn.held hn.judged

theorem LandInv.time (hv : LandInv m p c startedAt v log) (t : ℚ) :
    LandInv m p c startedAt v (log ++ [PrecisionNote.time t]) :=
  hv.quiet trivial ⟨rfl, rfl, rfl, rfl, rfl, rfl⟩

/-! ## 4. A reading -/

/-- The evidence was read last. -/
structure FreshRead (v : LandState) (e : PrecisionEvidence) (log : List PrecisionNote) : Prop where
  read : latest readingOf log = some (some e)
  newer : v.lastSequence < e.frameSequence → ∃ older, log.filterMap readOf = older ++ [e] ∧
    ∀ e' ∈ older, e'.frameSequence < e.frameSequence

/-- The variables with the last sequence after a reading. -/
def sequenced (m : MathFunctions) (p : PrecisionPolicy) (c : LandCall) (v : LandState)
    (reading : Except PrecisionWorld.Unread PrecisionEvidence) : LandState :=
  { v with lastSequence := (PrecisionWorld.judge m p c v reading).1 }

/-- The notes after a reading. -/
structure AfterReading (m : MathFunctions) (p : PrecisionPolicy) (c : LandCall) (startedAt : ℚ)
    (v : LandState) (reading : Except PrecisionWorld.Unread PrecisionEvidence)
    (log : List PrecisionNote) : Prop where
  inv : LandInv m p c startedAt (sequenced m p c v reading) log
  fresh : ∀ e, reading = .ok e → FreshRead v e log

theorem AfterReading.timeless :
    PrecisionWorld.Timeless (AfterReading m p c startedAt v reading) := by
  intro log t hlog
  refine ⟨hlog.inv.time t, fun e he => ?_⟩
  obtain ⟨hread, hnewer⟩ := hlog.fresh e he
  refine ⟨?_, fun hlt => ?_⟩
  · rw [latest_snoc]
    exact hread
  · obtain ⟨older, hlist, hold⟩ := hnewer hlt
    refine ⟨older, ?_, hold⟩
    rw [List.filterMap_append, hlist]
    exact List.append_nil _

/-- The last sequence goes on to that of the evidence. -/
theorem sequenced_ok (v : LandState) (e : PrecisionEvidence) :
    v.lastSequence ≤ (sequenced m p c v (.ok e)).lastSequence ∧
      e.frameSequence ≤ (sequenced m p c v (.ok e)).lastSequence ∧
      ((sequenced m p c v (.ok e)).lastSequence = v.lastSequence ∨ v.lastSequence < e.frameSequence) := by
  unfold sequenced PrecisionWorld.judge
  dsimp only
  split
  · rename_i hle
    exact ⟨le_refl _, hle, Or.inl rfl⟩
  · rename_i hlt
    have hlt := not_le.mp hlt
    exact ⟨le_of_lt hlt, le_refl _, Or.inr hlt⟩

theorem LandInv.read (hv : LandInv m p c startedAt v log) (e : PrecisionEvidence) :
    AfterReading m p c startedAt v (.ok e) (log ++ [PrecisionNote.read e]) := by
  obtain ⟨hle, hseq, -⟩ := @sequenced_ok m p c v e
  have hlist : (log ++ [PrecisionNote.read e]).filterMap readOf = log.filterMap readOf ++ [e] := by
    rw [List.filterMap_append]
    rfl
  refine ⟨⟨⟨hv.grounded.snoc trivial, ?_, ?_⟩, ?_, ?_, ?_, ?_, ?_⟩, ?_⟩
  · rw [latest_snoc]
    exact hv.started
  · intro e' he'
    rw [hlist] at he'
    rcases List.mem_append.mp he' with hmem | hmem
    · exact le_trans (hv.frames e' hmem) hle
    · rw [List.mem_singleton.mp hmem]
      exact hseq
  · rw [latest_snoc]
    exact hv.hold
  · intro hnone
    rw [latest_snoc]
    exact hv.land hnone
  · intro hnone
    rw [latest_snoc]
    exact hv.healthy hnone
  · intro h hh
    exact (hv.sent h hh).quiet fun _ he => by cases he
  · intro h hh
    exact (hv.counted h hh).quiet rfl rfl
  · intro e' he'
    cases he'
    refine ⟨by rw [latest_snoc]; rfl, fun hlt => ⟨_, hlist, fun e' he' => ?_⟩⟩
    exact lt_of_le_of_lt (hv.frames e' he') hlt

theorem LandInv.unread (hv : LandInv m p c startedAt v log) (failed : PrecisionWorld.Unread) :
    AfterReading m p c startedAt v (.error failed) (log ++ [PrecisionNote.unread]) := by
  have hsame : sequenced m p c v (.error failed) = v := by
    cases failed <;> rfl
  refine ⟨?_, fun e he => by cases he⟩
  rw [hsame]
  exact hv.quiet trivial ⟨rfl, rfl, rfl, rfl, rfl, rfl⟩

/-! ## 5. A judgement -/

theorem landingObservationReason_none {reacquiring : Bool}
    (h : PrecisionWorld.landingObservationReason m p c e reacquiring = none) :
    ∃ vector, e.vector = some vector ∧ 0 < vector.z ∧
      (reacquiring = true → m.horizontalError e vector ≤ p.centeredTolerance) ∧
      ∀ anchor, c.anchor = some anchor →
        m.horizontalDistance (m.projectedTarget e vector) anchor ≤ anchorDriftLimit := by
  unfold PrecisionWorld.landingObservationReason at h
  split at h
  · cases h
  · rename_i vector hvector
    split at h
    · cases h
    · rename_i hbelow
      split at h
      · cases h
      · rename_i hcentred
        split at h
        · cases h
        · rename_i hanchored
          refine ⟨vector, hvector, not_le.mp hbelow, fun hre => ?_, fun anchor ha => ?_⟩
          · simpa [hre] using hcentred
          · simpa [ha] using hanchored

theorem judge_accepted (h : (PrecisionWorld.judge m p c v reading).2.accepted = some e) :
    reading = .ok e ∧ v.lastSequence < e.frameSequence ∧
      PrecisionWorld.landingObservationReason m p c e v.hold.isSome = none := by
  rcases reading with failed | e'
  · cases failed <;> cases h
  · unfold PrecisionWorld.judge at h
    dsimp only at h
    split at h
    · cases h
    · rename_i hlt
      unfold Judgement.accepted at h
      dsimp only at h
      split at h
      · rename_i hnone
        cases h
        exact ⟨rfl, not_le.mp hlt, Option.isNone_iff_eq_none.mp hnone⟩
      · cases h

theorem Acceptable.snoc {vector : RelPosComplete} (he : Acceptable m p c log e vector)
    (hreading : readingOf n = none) (hread : readOf n = none) (hhold : holdOf n = none) :
    Acceptable m p c (log ++ [n]) e vector := by
  refine ⟨?_, ?_, he.vector, he.below, he.anchored, fun hold hh => he.centred hold ?_⟩
  · rw [latest_snoc, hreading, Option.none_or, he.read]
  · obtain ⟨older, hlist, hold⟩ := he.newer
    refine ⟨older, ?_, hold⟩
    rw [List.filterMap_append, hlist]
    simp [hread]
  · rw [← hh, latest_snoc, hhold, Option.none_or]

theorem AfterReading.acceptable (h : AfterReading m p c startedAt v reading log)
    (he : (PrecisionWorld.judge m p c v reading).2.accepted = some e) :
    ∃ vector, Acceptable m p c log e vector := by
  obtain ⟨hreading, hlt, hnone⟩ := judge_accepted he
  obtain ⟨vector, hvector, hbelow, hcentred, hanchored⟩ := landingObservationReason_none hnone
  obtain ⟨hread, hnewer⟩ := h.fresh e hreading
  refine ⟨vector, hread, hnewer hlt, hvector, hbelow, hanchored, fun hold hh => hcentred ?_⟩
  have hstate : latest holdOf log = some (v.hold.map fun h => (h.startedAt, h.waypoint)) :=
    h.inv.hold
  rw [hh] at hstate
  cases hv : v.hold with
  | none =>
    rw [hv] at hstate
    cases hstate
  | some _ => rfl

/-- **A reading, judged.** -/
theorem AfterReading.judged (h : AfterReading m p c startedAt v reading log)
    (ht : latest timeOf log = some t) :
    Seen m p c startedAt (sequenced m p c v reading) (PrecisionWorld.judge m p c v reading).2 t
      (log ++ [PrecisionNote.judged (PrecisionWorld.judge m p c v reading).2 t]) := by
  have hrule : LandRule m p c log (.judged (PrecisionWorld.judge m p c v reading).2 t) :=
    fun e he => h.acceptable he
  generalize hj : (PrecisionWorld.judge m p c v reading).2 = j at hrule ⊢
  refine ⟨h.inv.toLandCore.snoc hrule rfl rfl, ?_, fun hnone => ?_, ?_, ⟨j, by simp⟩,
    fun hnone hrejected => ?_, fun e he => ⟨?_, ?_⟩, fun k hk => ?_, fun k hk => ?_⟩
  · rw [latest_snoc]
    exact h.inv.hold
  · rw [latest_snoc]
    exact h.inv.land hnone
  · rw [latest_snoc]
    exact ht
  · rw [latest_snoc, show healthyAt (.judged j t) = none by simp [healthyAt, hrejected]]
    exact h.inv.healthy hnone
  · rw [latest_snoc, show healthyAt (.judged j t) = some t by simp [healthyAt, he]]
    rfl
  · obtain ⟨vector, hacceptable⟩ := hrule e he
    exact ⟨vector, hacceptable.snoc rfl rfl rfl⟩
  · exact (h.inv.sent k hk).quiet fun _ he => by cases he
  · obtain ⟨older, frames, hlist, hlength⟩ := h.inv.counted k hk
    refine ⟨older, frames, ?_, hlength⟩
    rw [since_snoc, show isHeld (.judged j t) = false from rfl, if_neg Bool.false_ne_true,
      List.filterMap_append, hlist]
    rfl

/-! ## 6. What a pass does -/

/-- After a judgement the reading of the clock is one of the two. -/
theorem Seen.timed (h : Seen m p c startedAt v j t log) : Timed c log :=
  ⟨startedAt, t, h.started, h.time, Or.inr (Or.inr h.stamped)⟩

/-- Where the observation was not accepted, or its target was sent. -/
theorem Seen.inv (h : Seen m p c startedAt v j t log) (hnone : v.hold = none) {healthy : ℚ}
    (hhealthy : latest healthyAt log = some healthy) :
    LandInv m p c startedAt { v with lastHealthyAt := healthy } log where
  toLandCore := ⟨h.grounded, h.started, h.frames⟩
  hold := h.hold
  land := h.land
  healthy := fun _ => hhealthy
  sent := h.sent
  counted := fun k hk => by
    rw [show v.hold = some k from hk] at hnone
    cases hnone

/-- **The hold begins.** -/
theorem LandCore.held (h : LandCore m p c startedAt v log) {waypoint : GpsPoint}
    (hrule : LandRule m p c log (.held t waypoint)) :
    LandInv m p c startedAt { v with hold := some ⟨t, waypoint, t, 0⟩ }
      (log ++ [PrecisionNote.held t waypoint]) where
  toLandCore := ⟨(h.snoc hrule rfl rfl).grounded, (h.snoc hrule rfl rfl).started,
    (h.snoc hrule rfl rfl).frames⟩
  hold := by
    rw [latest_snoc]
    rfl
  land := fun hnone => by cases hnone
  healthy := fun hnone => by cases hnone
  sent := by
    intro k _ a w b hlog hb
    rcases snoc_split.mp hlog with ⟨-, -, he⟩ | ⟨rest, rfl, -⟩
    · cases he
    · cases hb (.held t waypoint) (List.mem_append_right _ (List.mem_singleton.mpr rfl))
  counted := by
    intro k hk
    cases hk
    refine ⟨[], [], ?_, rfl⟩
    rw [since_snoc]
    rfl

section Operations

open PrecisionWorld

variable {w : PrecisionWorld} {deadline : ℚ}

theorem keeps_requireTime {A : List PrecisionNote → Prop} (hA : Timeless A) :
    Keeps (fun r => A r.log) (w.requireTime deadline) := by
  unfold requireTime
  exact .bind (keeps_ask _) fun _ => .bind (keeps_now hA) fun _ => .ite (.throw _) (.pure _)

theorem tells_observe (hv : LandInv m p c startedAt v log) (timeout : ℚ) :
    Tells (w.observe m p c deadline v timeout)
      (fun out os => Seen m p c startedAt out.1 out.2.1 out.2.2 os)
      (fun _ os => Grounded (LandRule m p c) os) log := by
  unfold observe
  have hread : ∀ {reading os}, AfterReading m p c startedAt v reading os →
      Tells (w.requireTime deadline) (fun _ => AfterReading m p c startedAt v reading)
        (fun _ os => Grounded (LandRule m p c) os) os := by
    intro reading os hos
    exact (Tells.keeps (keeps_requireTime AfterReading.timeless) hos).mono (fun _ _ ht => ht)
      fun _ _ ht => ht.inv.grounded
  refine .bind (tells_attemptEvidence (A := LandInv m p c startedAt v)
    (fun _ t hos => hos.time t) hv ?_ ?_ fun _ _ hos => hos.grounded)
  · intro e os hos
    dsimp only
    refine .bind ((hread (hos.read e)).mono (fun _ os' hos' => ?_) fun _ _ hos' => hos')
    refine .bind (tells_now (fun t => ?_) fun _ => hos'.inv.grounded)
    refine .bind (.perform (.pure ?_))
    exact (AfterReading.timeless os' t hos').judged (by rw [latest_snoc]; rfl)
  · intro failed os hos
    dsimp only
    refine .bind ((hread (hos.unread failed)).mono (fun _ os' hos' => ?_) fun _ _ hos' => hos')
    refine .bind ((hread hos').mono (fun _ os' hos' => ?_) fun _ _ hos' => hos')
    refine .bind (tells_now (fun t => ?_) fun _ => hos'.inv.grounded)
    refine .bind (.perform (.pure ?_))
    exact (AfterReading.timeless os' t hos').judged (by rw [latest_snoc]; rfl)

theorem tells_track (h : Seen m p c startedAt v j t log) (hnone : v.hold = none) :
    Tells (w.track v j t) (fun v' os => LandInv m p c startedAt v' os)
      (fun _ os => Grounded (LandRule m p c) os) log := by
  have htracking : latest holdOf log = some none := by
    rw [h.hold, hnone]
    rfl
  unfold track
  split
  · rename_i e he
    obtain ⟨hhealthy, vector, hacceptable⟩ := h.accepted e he
    have hrule : LandRule m p c log (.command (.landingTarget e.vector)) :=
      ⟨h.timed, htracking, h.land hnone, e, vector, hacceptable.vector, hacceptable⟩
    have hsent := (h.inv hnone hhealthy).quiet hrule ⟨rfl, rfl, rfl, rfl, rfl, rfl⟩
    refine .bind (tells_permission ?_ fun _ => h.grounded)
    refine .bind (tells_require (.pure ?_) fun _ => hsent.grounded)
    exact hsent.quiet trivial ⟨rfl, rfl, rfl, rfl, rfl, rfl⟩
  · rename_i hrejected
    have hhealthy := h.rejected hnone hrejected
    refine .ite (fun hlong => ?_) fun _ => .pure (h.inv hnone hhealthy)
    have hguided : LandCore m p c startedAt v (log ++ [PrecisionNote.command .setGuidedMode]) :=
      h.toLandCore.snoc ⟨h.timed, trivial⟩ rfl rfl
    have hdone : LandCore m p c startedAt v
        (log ++ [PrecisionNote.command .setGuidedMode] ++ [PrecisionNote.done .setGuidedMode]) :=
      hguided.snoc trivial rfl rfl
    refine .bind (tells_permission ?_ fun _ => h.grounded)
    refine .bind (tells_require ?_ fun _ => hguided.grounded)
    refine .bind (.ask (fun snapshot => ?_) fun _ => hdone.grounded)
    refine .bind ((Tells.keeps (keeps_location snapshot) (rfl : (fun os => os = log ++
      [PrecisionNote.command .setGuidedMode] ++ [PrecisionNote.done .setGuidedMode]) _)).mono (fun place os hos => ?_)
      fun _ os hos => hos ▸ hdone.grounded)
    subst hos
    refine .bind (.perform (.pure (hdone.held ?_)))
    simp only [LandRule, latest_snoc, holdOf, timeOf, healthyAt, Option.none_or]
    exact ⟨htracking, h.time, v.lastHealthyAt, hhealthy, hlong⟩

/-- The hold after its waypoint was sent. -/
def LandHold.resent (h : LandHold) (t : ℚ) : LandHold := { h with nextCommandAt := t + holdCommandPeriod }

theorem SentInHold.resent (hs : SentInHold h log) (ht : latest timeOf log = some t)
    (hdue : h.nextCommandAt ≤ t) :
    SentInHold (h.resent t) (log ++ [PrecisionNote.command (.guidedWaypoint h.waypoint)]) := by
  intro a waypoint b hlog hb
  rcases snoc_split.mp hlog with ⟨-, rfl, he⟩ | ⟨rest, rfl, hbefore⟩
  · cases he
    exact ⟨rfl, t, ht, le_refl _⟩
  · obtain ⟨hwaypoint, u, hu, hle⟩ :=
      hs a waypoint rest hbefore fun n hn => hb n (List.mem_append_left _ hn)
    refine ⟨hwaypoint, u, hu, ?_⟩
    have hperiod : (0 : ℚ) ≤ holdCommandPeriod := by decide +kernel
    show u + holdCommandPeriod ≤ t + holdCommandPeriod
    linarith

/-- A hold waypoint that is due may be sent. -/
theorem Seen.holdRule (hseen : Seen m p c startedAt v j t log) (hv : v.hold = some h)
    (hdue : h.nextCommandAt ≤ t) :
    LandRule m p c log (.command (.guidedWaypoint h.waypoint)) := by
  have hhold := hseen.hold
  rw [hv] at hhold
  refine ⟨hseen.timed, ⟨h.startedAt, hhold⟩, fun a waypoint b hlog hb => ?_⟩
  obtain ⟨hwaypoint, u, hu, hle⟩ := hseen.sent h hv a waypoint b hlog hb
  exact ⟨hwaypoint, u, t, hu, hseen.time, by linarith⟩

/-- A note of a command in the hold. -/
theorem Seen.snoc {k k' : LandHold} (hseen : Seen m p c startedAt { v with hold := some k } j t log)
    (hrule : LandRule m p c log n) (hread : readOf n = none) (hreading : readingOf n = none)
    (hstarted : startedOf n = none) (htime : timeOf n = none) (hhold : holdOf n = none)
    (hhealthy : healthyAt n = none) (hjudged : judgedOf n = none) (hheld : isHeld n = false)
    (hsame : k'.startedAt = k.startedAt ∧ k'.waypoint = k.waypoint ∧
      k'.reacquiredFrames = k.reacquiredFrames)
    (hsent : SentInHold k' (log ++ [n])) :
    Seen m p c startedAt { v with hold := some k' } j t (log ++ [n]) where
  toLandCore := ⟨(hseen.toLandCore.snoc hrule hstarted hread).grounded,
    (hseen.toLandCore.snoc hrule hstarted hread).started,
    (hseen.toLandCore.snoc hrule hstarted hread).frames⟩
  hold := by
    rw [latest_snoc, hhold, Option.none_or, hseen.hold]
    show some (some (k.startedAt, k.waypoint)) = some (some (k'.startedAt, k'.waypoint))
    rw [hsame.1, hsame.2.1]
  land := fun hnone => by cases hnone
  time := by rw [latest_snoc, htime, Option.none_or, hseen.time]
  stamped := by
    obtain ⟨j, hj⟩ := hseen.stamped
    exact ⟨j, List.mem_append_left _ hj⟩
  rejected := fun hnone => by cases hnone
  accepted := by
    intro e he
    obtain ⟨hat, vector, hacceptable⟩ := hseen.accepted e he
    refine ⟨?_, vector, hacceptable.snoc hreading hread hhold⟩
    rw [latest_snoc, hhealthy, Option.none_or, hat]
  sent := by
    intro q hq
    cases hq
    exact hsent
  counted := by
    intro q hq
    cases hq
    obtain ⟨older, frames, hlist, hlength⟩ := hseen.counted k rfl
    refine ⟨older, frames, ?_, hlength.trans hsame.2.2.symm⟩
    rw [since_snoc, hheld, if_neg Bool.false_ne_true, List.filterMap_append, hlist]
    simp [hjudged]

theorem tells_sendHold (hseen : Seen m p c startedAt v j t log) (hv : v.hold = some h) :
    Tells (w.sendHold h t)
      (fun h' os => Seen m p c startedAt { v with hold := some h' } j t os)
      (fun _ os => Grounded (LandRule m p c) os) log := by
  have hseen' : Seen m p c startedAt { v with hold := some h } j t log := by
    rw [← hv]
    exact hseen
  unfold sendHold
  refine .ite (fun hdue => ?_) fun _ => .pure hseen'
  have hcommand : Seen m p c startedAt { v with hold := some (h.resent t) } j t
      (log ++ [PrecisionNote.command (.guidedWaypoint h.waypoint)]) :=
    hseen'.snoc (hseen.holdRule hv hdue) rfl rfl rfl rfl rfl rfl rfl rfl ⟨rfl, rfl, rfl⟩
      ((hseen.sent h hv).resent hseen.time hdue)
  refine .bind (tells_permission ?_ fun _ => hseen.grounded)
  refine .bind (tells_require (.pure ?_) fun _ => hcommand.grounded)
  exact hcommand.snoc trivial rfl rfl rfl rfl rfl rfl rfl rfl ⟨rfl, rfl, rfl⟩
    ((hcommand.sent _ rfl).quiet fun _ he => by cases he)

/-- The last items of a list that is long enough. -/
theorem exists_last {α : Type} {k : ℕ} {l : List α} (h : k ≤ l.length) :
    ∃ before last, l = before ++ last ∧ last.length = k := by
  refine ⟨l.take (l.length - k), l.drop (l.length - k), (List.take_append_drop _ _).symm, ?_⟩
  rw [List.length_drop]
  omega

theorem tells_countFrames (hseen : Seen m p c startedAt v j t log) (hv : v.hold = some h) :
    Tells (w.countFrames h j t)
      (fun counted os => match counted with
        | none => LandInv m p c startedAt { v with hold := none, lastHealthyAt := t } os
        | some h' => LandInv m p c startedAt { v with hold := some h' } os ∧
            h'.startedAt = h.startedAt ∧ latest timeOf os = some t)
      (fun _ os => Grounded (LandRule m p c) os) log := by
  have hstill : ∀ h' : LandHold, h'.startedAt = h.startedAt → h'.waypoint = h.waypoint →
      h'.nextCommandAt = h.nextCommandAt → FramesInHold h' log →
      LandInv m p c startedAt { v with hold := some h' } log := by
    intro h' hstarted hwaypoint hnext hframes
    refine ⟨⟨hseen.grounded, hseen.started, hseen.frames⟩, ?_, (fun hnone => by cases hnone),
      (fun hnone => by cases hnone), fun k hk => ?_, fun k hk => ?_⟩
    · rw [hseen.hold, hv]
      show some (some (h.startedAt, h.waypoint)) = some (some (h'.startedAt, h'.waypoint))
      rw [hstarted, hwaypoint]
    · cases hk
      intro a waypoint b hlog hb
      obtain ⟨hw, u, hu, hle⟩ := hseen.sent h hv a waypoint b hlog hb
      exact ⟨hw.trans hwaypoint.symm, u, hu, by rw [hnext]; exact hle⟩
    · cases hk
      exact hframes
  obtain ⟨older, frames, hlist, hlength⟩ := hseen.counted h hv
  unfold countFrames
  split
  · rename_i e he
    have hmore : (since isHeld log).filterMap judgedOf = older ++ (frames ++ [e]).map some := by
      rw [hlist, he, List.map_append, List.append_assoc]
      rfl
    refine .ite (fun henough => ?_) fun _ => ?_
    · obtain ⟨before, last, hframes, hlast⟩ : ∃ before last, frames ++ [e] = before ++ last ∧
          last.length = reacquireFrameCount := by
        refine exists_last ?_
        rw [List.length_append, hlength]
        exact henough
      have hcommand : LandCore m p c startedAt v (log ++ [PrecisionNote.command .setLandMode]) :=
        hseen.toLandCore.snoc ⟨hseen.timed, trivial⟩ rfl rfl
      have hdone : LandCore m p c startedAt v
          (log ++ [PrecisionNote.command .setLandMode] ++ [PrecisionNote.done .setLandMode]) :=
        hcommand.snoc trivial rfl rfl
      have hrule : LandRule m p c (log ++ [PrecisionNote.command .setLandMode] ++ [PrecisionNote.done .setLandMode])
          (.reacquired t) := by
        refine ⟨⟨(h.startedAt, h.waypoint), ?_⟩, older ++ before.map some, last, ?_, hlast⟩
        · simp only [latest_snoc, holdOf, Option.none_or, hseen.hold, hv, Option.map_some]
        · rw [hframes] at hmore
          simp only [since_snoc, isHeld, Bool.false_eq_true, if_false, List.filterMap_append, hmore]
          simp [judgedOf]
      refine .bind (tells_permission ?_ fun _ => hseen.grounded)
      refine .bind (tells_require ?_ fun _ => hcommand.grounded)
      refine .bind (.perform (.pure ?_))
      refine ⟨⟨(hdone.snoc hrule rfl rfl).grounded, (hdone.snoc hrule rfl rfl).started,
        (hdone.snoc hrule rfl rfl).frames⟩, ?_, fun _ => ?_, fun _ => ?_,
        (fun k hk => by cases hk), (fun k hk => by cases hk)⟩
      · rw [latest_snoc]
        rfl
      · simp only [latest_snoc, landMode, Option.none_or, Option.some_or]
      · simp only [latest_snoc, healthyAt, Option.none_or]
        exact (hseen.accepted e he).1
    · refine .pure ⟨hstill _ rfl rfl rfl ⟨older, frames ++ [e], hmore, ?_⟩, rfl, hseen.time⟩
      rw [List.length_append, hlength]
      rfl
  · rename_i hrejected
    refine .pure ⟨hstill _ rfl rfl rfl ⟨older ++ frames.map some ++ [none], [], ?_, rfl⟩, rfl,
      hseen.time⟩
    rw [hlist, hrejected, List.map_nil, List.append_nil]

/-- What a pass leaves. -/
def RoundEnd (m : MathFunctions) (p : PrecisionPolicy) (c : LandCall) (startedAt : ℚ)
    (log : List PrecisionNote) : Except LandingResult LandState → Prop
  | .error result => Grounded (LandRule m p c) log ∧ AnswerRule log result
  | .ok v => LandInv m p c startedAt v log

theorem tells_settle (hseen : Seen m p c startedAt v j t log) :
    Tells (w.settle v j t) (fun out os => RoundEnd m p c startedAt os out)
      (fun _ os => Grounded (LandRule m p c) os) log := by
  unfold settle
  cases hv : v.hold with
  | none =>
    exact .bind ((tells_track hseen hv).mono (fun v' os hos => .pure hos) fun _ _ hos => hos)
  | some h =>
    dsimp only
    unfold reacquire
    refine .bind (.bind ((tells_sendHold hseen hv).mono (fun sent os hsent => ?_)
      fun _ _ hos => hos))
    refine .bind ((tells_countFrames hsent rfl).mono (fun counted os hos => ?_)
      fun _ _ hos => hos)
    cases counted with
    | none => exact .pure (.pure hos)
    | some h' =>
      obtain ⟨hinv, hstarted, htime⟩ := hos
      refine .ite (fun hlong => .pure (.pure ⟨hinv.grounded, ?_⟩)) fun _ => .pure (.pure hinv)
      exact ⟨h'.startedAt, h'.waypoint, t, hinv.hold, htime, hlong⟩

theorem tells_nearGround (hv : LandInv m p c startedAt v log) :
    Tells (w.nearGround m p v)
      (fun seen os => match seen with
        | none => LandInv m p c startedAt v os
        | some t => LandInv m p c startedAt { v with lastHealthyAt := t } os)
      (fun _ os => Grounded (LandRule m p c) os) log := by
  have hquiet : Timeless (LandInv m p c startedAt v) := fun _ t hos => hos.time t
  unfold PrecisionWorld.nearGround
  refine .ite (fun _ => .pure hv) fun htracking => ?_
  have hnone : v.hold = none := by simpa using htracking
  refine .bind ((Tells.keeps (keeps_attemptClearance hquiet) hv).mono (fun clearance os hos => ?_)
    fun _ _ hos => hos.grounded)
  cases clearance with
  | none => exact .pure hos
  | some clearance =>
    refine .ite (fun _ => ?_) fun _ => .pure hos
    refine .bind (tells_now (fun t => ?_) fun _ => hos.grounded)
    have htime := hos.time t
    have hcore : LandCore m p c startedAt v (os ++ [PrecisionNote.time t] ++ [PrecisionNote.nearGround t]) :=
      htime.toLandCore.snoc trivial rfl rfl
    refine .bind (.perform (.pure ⟨⟨hcore.grounded, hcore.started, hcore.frames⟩, ?_, fun _ => ?_,
      fun _ => ?_, fun k hk => ?_, fun k hk => ?_⟩))
    · rw [latest_snoc]
      exact htime.hold
    · rw [latest_snoc]
      exact htime.land hnone
    · rw [latest_snoc]
      rfl
    · exact absurd (hnone.symm.trans hk) (by simp)
    · exact absurd (hnone.symm.trans hk) (by simp)

theorem tells_touchDown (hv : LandInv m p c startedAt v log) :
    Tells (w.touchDown (c.deadline startedAt)) (fun out os => RoundEnd m p c startedAt os out)
      (fun _ os => Grounded (LandRule m p c) os) log := by
  unfold touchDown confirmCurrentLand
  refine .bind (.bind (tells_permission ?_ fun _ => hv.grounded))
  refine .bind (tells_now (fun t => ?_) fun _ => hv.grounded)
  have htime := hv.time t
  refine .ite (fun _ => .throw htime.grounded) fun hremaining => ?_
  have htimed : Timed c (log ++ [PrecisionNote.time t]) :=
    ⟨startedAt, t, htime.started, by rw [latest_snoc]; rfl, Or.inl (by linarith)⟩
  have hsent : Grounded (LandRule m p c)
      (log ++ [PrecisionNote.time t] ++ [PrecisionNote.command (.confirmLanding (c.deadline startedAt - t))]) :=
    htime.grounded.snoc ⟨htimed, trivial⟩
  refine tells_require (.pure ⟨hsent.snoc trivial, ?_⟩) fun _ => hsent
  exact ⟨c.deadline startedAt - t, by simp⟩

/-- **One pass.** -/
theorem tells_landRound (hv : LandInv m p c startedAt v log) :
    Tells (w.landRound m p c (c.deadline startedAt) v)
      (fun out os => RoundEnd m p c startedAt os out)
      (fun _ os => Grounded (LandRule m p c) os) log := by
  have hsleep : ∀ {v' os}, LandInv m p c startedAt v' os →
      Tells (w.sleepBounded p (c.deadline startedAt)) (fun _ => LandInv m p c startedAt v')
        (fun _ os => Grounded (LandRule m p c) os) os := by
    intro v' os hos
    exact (Tells.keeps (keeps_sleepBounded (fun _ t hos => hos.time t) _) hos).mono
      (fun _ _ ht => ht) fun _ _ ht => ht.grounded
  unfold landRound
  refine .bind (tells_permission ?_ fun _ => hv.grounded)
  refine .bind (tells_now (fun t => ?_) fun _ => hv.grounded)
  have htime := hv.time t
  refine .ite (fun _ => .throw htime.grounded) fun _ => ?_
  have hcandidate : Tells w.touchdownCandidate (fun _ => LandInv m p c startedAt v)
      (fun _ os => Grounded (LandRule m p c) os) (log ++ [PrecisionNote.time t]) :=
    .bind (.ask (fun _ => .pure htime) fun _ => htime.grounded)
  refine .bind (hcandidate.mono (fun _ os hos => ?_) fun _ _ hos => hos)
  refine .ite (fun _ => tells_touchDown hos) fun _ => .ite (fun _ => tells_touchDown hos) fun _ => ?_
  refine .bind ((tells_nearGround hos).mono (fun seen os hseen => ?_) fun _ _ hos => hos)
  cases seen with
  | some healthyAt =>
    exact .bind ((hsleep hseen).mono (fun _ _ hos => .pure hos) fun _ _ hos => hos)
  | none =>
    refine .bind ((tells_observe hseen _).mono (fun out os hout => ?_) fun _ _ hos => hos)
    refine .bind ((tells_settle hout).mono (fun settled os hend => ?_) fun _ _ hos => hos)
    cases settled with
    | error result => exact .pure hend
    | ok v' => exact .bind ((hsleep hend).mono (fun _ _ hos => .pure hos) fun _ _ hos => hos)

/-- **Any number of passes**, by induction on it. -/
theorem tells_landLoop (rounds : ℕ) : ∀ {v log}, LandInv m p c startedAt v log →
    Tells (w.landLoop m p c (c.deadline startedAt) rounds v)
      (fun result os => Grounded (LandRule m p c) os ∧ AnswerRule os result)
      (fun _ os => Grounded (LandRule m p c) os) log := by
  induction rounds with
  | zero => exact fun hv => .throw hv.grounded
  | succ rounds ih =>
    intro v log hv
    unfold landLoop
    refine .bind ((tells_landRound hv).mono (fun out os hout => ?_) fun _ _ hos => hos)
    cases out with
    | error result => exact .pure hout
    | ok v' => exact ih hout

/-- The notes before the first pass. -/
theorem landInv_start (m : MathFunctions) (p : PrecisionPolicy) (c : LandCall) (startedAt : ℚ) :
    LandInv m p c startedAt ⟨0, startedAt, none⟩
      ([PrecisionNote.time startedAt] ++ [PrecisionNote.started startedAt] ++ [PrecisionNote.command .setLandMode] ++
        [PrecisionNote.done .setLandMode]) := by
  have hstarted : Grounded (LandRule m p c) ([PrecisionNote.time startedAt] ++ [PrecisionNote.started startedAt]) := by
    have htime : Grounded (LandRule m p c) ([] ++ [PrecisionNote.time startedAt]) := Grounded.nil.snoc trivial
    exact htime.snoc trivial
  have hrule : LandRule m p c ([PrecisionNote.time startedAt] ++ [PrecisionNote.started startedAt])
      (.command .setLandMode) :=
    ⟨⟨startedAt, startedAt, rfl, rfl, Or.inr (Or.inl rfl)⟩, trivial⟩
  have hcommand := hstarted.snoc hrule
  refine ⟨⟨hcommand.snoc trivial, rfl, fun e he => by cases he⟩, rfl, fun _ => rfl, fun _ => rfl,
    (fun k hk => by cases hk), (fun k hk => by cases hk)⟩

theorem tells_arucoLandPrecision (rounds : ℕ) :
    Tells (w.arucoLandPrecision m p c rounds)
      (fun answer os => Grounded (LandRule m p c) os ∧
        ∃ result, answer = c.finish result ∧ AnswerRule os result)
      (fun _ os => Grounded (LandRule m p c) os) [] := by
  have hready : Tells w.cameraReady (fun _ os => os = []) (fun _ os => os = []) [] :=
    Tells.keeps (A := fun os => os = []) (keeps_cameraReady (A := fun os => os = [])) rfl
  have hprefix : ∀ {os rest}, Grounded (LandRule m p c) (os ++ rest) →
      Grounded (LandRule m p c) os := by
    intro os rest h a x b hlog
    exact h a x (b ++ rest) (by rw [hlog, List.append_assoc]; rfl)
  unfold arucoLandPrecision
  refine .bind (hready.mono (fun _ os hos => ?_) fun _ os hos => by rw [hos]; exact Grounded.nil)
  rw [hos]
  refine .bind (tells_now (fun startedAt => ?_) fun _ => Grounded.nil)
  have hinv := landInv_start m p c startedAt
  have hcommand := hprefix hinv.grounded
  refine .bind (.perform (.bind (tells_permission ?_ fun _ => hprefix hcommand)))
  refine .bind (tells_require ?_ fun _ => hcommand)
  refine .bind ((tells_landLoop rounds hinv).mono (fun result os hos => ?_) fun _ _ hos => hos)
  exact .pure ⟨hos.1, result, rfl, hos.2⟩

end Operations

end Invariant

/-! ## 7. The result -/

/-- No reading of the clock is below an earlier one. -/
def NonDecreasing (log : List PrecisionNote) : Prop := (log.filterMap timeOf).Pairwise (· ≤ ·)

/-- The landing starts, and its timers are read, before its deadline. -/
def InTime (c : LandCall) (log : List PrecisionNote) : Prop :=
  ∀ startedAt, PrecisionNote.started startedAt ∈ log → startedAt < c.deadline startedAt ∧
    ∀ j t, PrecisionNote.judged j t ∈ log → t < c.deadline startedAt

/-- No command is sent once the clock was read at the deadline or past it. -/
def Punctual (c : LandCall) (log : List PrecisionNote) : Prop :=
  ∀ before sent after, log = before ++ PrecisionNote.command sent :: after →
    ∃ startedAt, latest startedOf before = some startedAt ∧
      ∀ t, PrecisionNote.time t ∈ before → t < c.deadline startedAt

/-- What comes back has been earned. -/
def Answered (c : LandCall) (outcome : Except PrecisionError LandAnswer)
    (log : List PrecisionNote) : Prop :=
  ∀ answer, outcome = .ok answer → ∃ result, answer = c.finish result ∧ AnswerRule log result

/-- **What a landing does**, whatever it meets. -/
structure Disciplined (m : MathFunctions) (p : PrecisionPolicy) (c : LandCall)
    (outcome : Except PrecisionError LandAnswer) (log : List PrecisionNote) : Prop where
  grounded : Grounded (LandRule m p c) log
  answered : Answered c outcome log
  punctual : NonDecreasing log → InTime c log → Punctual c log

variable {log : List PrecisionNote}

/-- Of readings that do not go back the last is the highest. -/
theorem le_latest {t u : ℚ} (h : NonDecreasing log) (hlast : latest timeOf log = some t)
    (hu : PrecisionNote.time u ∈ log) : u ≤ t := by
  obtain ⟨init, hlist⟩ := List.getLast?_eq_some_iff.mp hlast
  have hmem : u ∈ log.filterMap timeOf := List.mem_filterMap.mpr ⟨_, hu, rfl⟩
  unfold NonDecreasing at h
  rw [hlist] at h hmem
  rcases List.mem_append.mp hmem with hmem | hmem
  · exact (List.pairwise_append.mp h).2.2 u hmem t (List.mem_singleton.mpr rfl)
  · exact le_of_eq (List.mem_singleton.mp hmem)

theorem punctual_of_inTime {m : MathFunctions} {p : PrecisionPolicy} {c : LandCall}
    (h : Grounded (LandRule m p c) log) (hclock : NonDecreasing log) (hin : InTime c log) :
    Punctual c log := by
  intro before sent after hlog
  obtain ⟨⟨startedAt, t, hstarted, ht, hwhen⟩, -⟩ := h before _ after hlog
  have hbefore : ∀ n ∈ before, n ∈ log := fun n hn => by
    rw [hlog]
    exact List.mem_append_left _ hn
  obtain ⟨n, hn, hread⟩ := latest_mem hstarted
  have hstart : PrecisionNote.started startedAt ∈ before := by
    cases n with
    | started => cases hread; exact hn
    | _ => cases hread
  obtain ⟨hfirst, htimers⟩ := hin startedAt (hbefore _ hstart)
  have hlt : t < c.deadline startedAt := by
    rcases hwhen with hlt | rfl | ⟨j, hj⟩
    · exact hlt
    · exact hfirst
    · exact htimers j t (hbefore _ hj)
  refine ⟨startedAt, hstarted, fun u hu => lt_of_le_of_lt (le_latest ?_ ht hu) hlt⟩
  unfold NonDecreasing at hclock ⊢
  rw [hlog, List.filterMap_append] at hclock
  exact (List.pairwise_append.mp hclock).1

/-- **Every landing is disciplined.** -/
theorem landing_disciplined (m : MathFunctions) (p : PrecisionPolicy) (c : LandCall)
    (w : PrecisionWorld) (rounds asked : ℕ) :
    Disciplined m p c (Acting.call (w.arucoLandPrecision m p c rounds) asked).1
      (Acting.call (w.arucoLandPrecision m p c rounds) asked).2.2 := by
  have hcall : Tells (w.arucoLandPrecision m p c rounds)
      (fun answer os => Grounded (LandRule m p c) os ∧ Answered c (.ok answer) os)
      (fun error os => Grounded (LandRule m p c) os ∧ Answered c (.error error) os) [] := by
    refine (tells_arucoLandPrecision rounds).mono (fun answer os hos => ⟨hos.1, fun _ he => ?_⟩)
      fun error os hos => ⟨hos, fun _ he => by cases he⟩
    cases he
    exact hos.2
  obtain ⟨hgrounded, hanswered⟩ :=
    Tells.call (P := fun outcome os => Grounded (LandRule m p c) os ∧ Answered c outcome os)
      hcall asked
  exact ⟨hgrounded, hanswered, punctual_of_inTime hgrounded⟩

/-! ### A landing in time, and two that are late -/

section Runs

/-- Level flight, where angles do not matter. -/
def levelMath : MathFunctions := ⟨id, fun _ => 1, fun _ => 0, fun x y => |x| + |y|, id, id⟩

theorem beam_positive : (0 : ℚ) < 1 := by norm_num

def downwardBeam : ClearanceCalibration where
  beamDirection := ⟨0, 0, 1⟩
  referenceOffset := ⟨0, 0, 0⟩
  maxTilt := 1
  maxAge := 1
  maxSkew := 1
  beam_down := beam_positive
  tilt_pos := beam_positive
  age_pos := beam_positive
  skew_pos := beam_positive

def everySecond : PrecisionPolicy where
  calibration := downwardBeam
  maxExposureAge := 1
  maxImageAttitudeSkew := 1
  maxImageLocationSkew := 1
  maxAttitudeTransportLatency := 1
  maxLocationTransportLatency := 1
  acquisitionTimeout := 1
  frameTimeout := 1
  observationPeriod := 1
  targetHoverHeight := 1
  hoverTolerance := 1
  centeredTolerance := 1
  correctionGain := 1
  positive := by decide
  gain_le := le_refl _
  frame_le := le_refl _

/-- What there is to be seen at time 10, two metres above the marker. -/
def hoverSnapshot (landed : Bool) : PrecisionSnapshot where
  attitude := some ⟨true, some (some 0, some 0, some 0), 10, 1, 0⟩
  location := some ⟨true, some (0, 0, 0), 10, 1, 0⟩
  landedState := some ⟨true, some (if landed then 1 else 0), 10, 1, 0⟩
  armed := none

/-- Every question is answered; the clock is given, and the vehicle is on the ground from the
    question `landsAt` on. -/
def hoverWorld (clock : ℕ → ℚ) (landsAt : ℕ) : PrecisionWorld where
  clock asked := .ok (some (clock asked))
  checkPermission _ := .ok ()
  precisionReadiness _ := .ok ⟨true, []⟩
  vecToMarker3dBounded _ _ _ asked := .ok (.vector ⟨0, 0, 2⟩, ⟨some (asked + 1), true, some (10 ^ 10)⟩)
  flightSnapshot asked := .ok (hoverSnapshot (decide (landsAt ≤ asked)))
  getSample _ := .ok ⟨2, 10, 1, 0⟩
  missionHome _ := .ok (some 0)
  getLocationMetres p _ _ _ := .ok p
  sleep _ _ := .ok ()
  command _ _ := .ok (.int 0)

def plainCall (given : Option ℚ) : LandCall := ⟨2, none, given, true⟩

def hoverLanding (clock : ℕ → ℚ) (given : Option ℚ) :
    Except PrecisionError LandAnswer × ℕ × List PrecisionNote :=
  Acting.call ((hoverWorld clock 24).arucoLandPrecision levelMath everySecond (plainCall given) 2) 0

/-- The readings that are compared with no deadline. -/
def uncomparedOf : PrecisionNote → Option ℚ
  | .started t => some t
  | .judged _ t => some t
  | _ => none

def commandOf : PrecisionNote → Option PrecisionCommand
  | .command sent => some sent
  | _ => none

theorem inTime_of_uncompared {c : LandCall} {t : ℚ} (h : ∀ u ∈ log.filterMap uncomparedOf, u = t)
    (ht : t < c.deadline t) : InTime c log := by
  intro startedAt hstarted
  have hstart : startedAt = t := h _ (List.mem_filterMap.mpr ⟨_, hstarted, rfl⟩)
  rw [hstart]
  refine ⟨ht, fun j u hu => ?_⟩
  rw [h u (List.mem_filterMap.mpr ⟨_, hu, rfl⟩)]
  exact ht

/-- A landing that tracks the marker once and touches down. -/
theorem landing_disciplined_touchdown :
    (hoverLanding (fun _ => 10) none).1 = .ok (.result .touchdown) ∧
    .landingTarget (some ⟨0, 0, 2⟩) ∈ (hoverLanding (fun _ => 10) none).2.2.filterMap commandOf ∧
    Punctual (plainCall none) (hoverLanding (fun _ => 10) none).2.2 := by
  refine ⟨by decide +kernel, by decide +kernel, ?_⟩
  refine (landing_disciplined levelMath everySecond (plainCall none) (hoverWorld (fun _ => 10) 24)
    2 0).punctual ?_ (@inTime_of_uncompared _ _ 10 ?_ (by decide +kernel))
  · show List.Pairwise _ ((hoverLanding (fun _ => 10) none).2.2.filterMap timeOf)
    decide +kernel
  · show ∀ u ∈ (hoverLanding (fun _ => 10) none).2.2.filterMap uncomparedOf, u = 10
    decide +kernel

theorem not_punctual {c : LandCall} {sent : PrecisionCommand} {k : ℕ} {startedAt t : ℚ}
    (hsent : (log[k]?).bind commandOf = some sent)
    (hstarted : latest startedOf (log.take k) = some startedAt)
    (ht : latest timeOf (log.take k) = some t) (hlate : c.deadline startedAt ≤ t) :
    ¬ Punctual c log := by
  intro hpunctual
  obtain ⟨n, hn, hcommand⟩ := Option.bind_eq_some_iff.mp hsent
  have hlog := split_at hn
  have hnote : n = .command sent := by
    cases n with
    | command => cases hcommand; rfl
    | _ => cases hcommand
  rw [hnote] at hlog
  obtain ⟨s, hs, hall⟩ := hpunctual _ _ _ hlog
  obtain ⟨n, hn, hread⟩ := latest_mem ht
  have hmem : PrecisionNote.time t ∈ log.take k := by
    cases n with
    | time => cases hread; exact hn
    | _ => cases hread
  have hlt := hall t hmem
  rw [hstarted] at hs
  cases hs
  exact absurd hlt (not_lt.mpr hlate)

/-- **Two landings past their deadline**: LAND is commanded by a call that reads the clock past the
    deadline it was given; a LANDING_TARGET is sent when the timers were read past the deadline. -/
theorem late_landing :
    (NonDecreasing (hoverLanding (fun _ => 10) (some 5)).2.2 ∧
      .setLandMode ∈ (hoverLanding (fun _ => 10) (some 5)).2.2.filterMap commandOf ∧
      ¬ Punctual (plainCall (some 5)) (hoverLanding (fun _ => 10) (some 5)).2.2) ∧
    (NonDecreasing (hoverLanding (fun n => if n < 20 then 10 else 80) none).2.2 ∧
      .landingTarget (some ⟨0, 0, 2⟩) ∈
        (hoverLanding (fun n => if n < 20 then 10 else 80) none).2.2.filterMap commandOf ∧
      ¬ Punctual (plainCall none) (hoverLanding (fun n => if n < 20 then 10 else 80) none).2.2) := by
  refine ⟨⟨?_, by decide +kernel, @not_punctual _ _ .setLandMode 2 10 10 (by decide +kernel)
    (by decide +kernel) (by decide +kernel) (by decide +kernel)⟩, ?_, by decide +kernel,
    @not_punctual _ _ (.landingTarget (some ⟨0, 0, 2⟩)) 11 10 80 (by decide +kernel)
      (by decide +kernel) (by decide +kernel) (by decide +kernel)⟩
  · show List.Pairwise _ _
    decide +kernel
  · show List.Pairwise _ _
    decide +kernel

end Runs

end DroneSim
