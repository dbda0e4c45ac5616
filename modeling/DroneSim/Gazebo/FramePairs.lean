/-
  File:      DroneSim/Gazebo/FramePairs.lean
  Subject:   FRAMES AND TRUTHS ARE PAIRED ONE TO ONE AND IN ORDER.

  What the adapter published says what it holds (`Paired`): a stream's frames wait for their
  counterparts from the number of frames of the other stream on, and the pairs wait for their
  truths from the number of truths on. Every call keeps this, whether it raises or not
  (`Paired.call`), so it holds after any list of calls. What was published therefore says which
  frame and which truth an open adapter takes (`Paired.next`), and what was delivered while it was
  open says when the capture is complete (`Paired.complete_delivered`).
-/
import DroneSim.Gazebo.AdapterModel
import DroneSim.Library.Latch
import DroneSim.Library.Streams

namespace DroneSim

open Library

variable {V Q : Type}

/-! ## 1. What was delivered and what was published -/

/-- The frames of a stream, in order. -/
def framesOf (x : CameraStream) (os : List (AdapterOutput V Q)) : List PublicFrame :=
  os.filterMap fun
    | .frame frame => if frame.stream = x then some frame else none
    | .groundTruth _ => none

/-- The truths, in order. -/
def truthsOf (os : List (AdapterOutput V Q)) : List (PublicGroundTruth V Q) :=
  os.filterMap fun
    | .frame _ => none
    | .groundTruth truth => some truth

/-- The images delivered on a stream. -/
def imagesOf (x : CameraStream) (is : List (AdapterInput V Q)) : List NativeImage :=
  is.filterMap fun
    | .frame stream sample => if stream = x then some sample else none
    | _ => none

/-- The truths delivered. -/
def samplesOf (is : List (AdapterInput V Q)) : List (NativeGroundTruth V Q) :=
  is.filterMap fun
    | .groundTruth sample => some sample
    | _ => none

/-- The image a frame was made of. -/
def PublicFrame.native (frame : PublicFrame) : NativeImage where
  simTimestampNs := frame.simTimestampNs
  width := frame.width
  height := frame.height
  encoding := frame.encoding
  step := frame.step
  data := frame.data

/-- The sample a truth was made of. -/
def PublicGroundTruth.native (truth : PublicGroundTruth V Q) : NativeGroundTruth V Q where
  simTimestampNs := truth.simTimestampNs
  position := truth.position
  orientation := truth.orientation
  linearVelocity := truth.linearVelocity
  angularVelocity := truth.angularVelocity
  inContact := truth.inContact

theorem framesOf_append (x : CameraStream) (os ps : List (AdapterOutput V Q)) :
    framesOf x (os ++ ps) = framesOf x os ++ framesOf x ps := List.filterMap_append

theorem truthsOf_append (os ps : List (AdapterOutput V Q)) :
    truthsOf (os ++ ps) = truthsOf os ++ truthsOf ps := List.filterMap_append

theorem framesOf_frame (x : CameraStream) (frame : PublicFrame) :
    framesOf x [(.frame frame : AdapterOutput V Q)] = if frame.stream = x then [frame] else [] := by
  by_cases h : frame.stream = x
  · simp [framesOf, h]
  · simp [framesOf, h]

theorem framesOf_truth (x : CameraStream) (truth : PublicGroundTruth V Q) :
    framesOf x [AdapterOutput.groundTruth truth] = [] := rfl

theorem truthsOf_frame (frame : PublicFrame) :
    truthsOf [(.frame frame : AdapterOutput V Q)] = [] := rfl

theorem truthsOf_truth (truth : PublicGroundTruth V Q) :
    truthsOf [AdapterOutput.groundTruth truth] = [truth] := rfl

/-- **The pairs published**: the frames of each stream are numbered from zero and one interval
    apart, frames of one number have one timestamp, and the truths have the timestamps of the pairs,
    each pair once and in order. -/
structure PairedOutputs (os : List (AdapterOutput V Q)) : Prop where
  numbered : ∀ x (k : ℕ) (a : PublicFrame), (framesOf x os)[k]? = some a → a.frameId = k
  spaced : ∀ x (k : ℕ) (a b : PublicFrame), (framesOf x os)[k]? = some a →
    (framesOf x os)[k + 1]? = some b → b.simTimestampNs = a.simTimestampNs + frameIntervalNs
  equal : ∀ x (k : ℕ) (a b : PublicFrame), (framesOf x os)[k]? = some a →
    (framesOf x.other os)[k]? = some b → a.simTimestampNs = b.simTimestampNs
  truth : ∀ (k : ℕ) (g : PublicGroundTruth V Q), (truthsOf os)[k]? = some g →
    ∀ x, ∃ a, (framesOf x os)[k]? = some a ∧ a.simTimestampNs = g.simTimestampNs

/-- The numbers and timestamps of the frames that have their counterpart, from one stream. -/
def pairsOf (x : CameraStream) (os : List (AdapterOutput V Q)) : List (ℕ × ℕ) :=
  ((framesOf x os).take (framesOf x.other os).length).map
    fun frame => (frame.frameId, frame.simTimestampNs)

@[simp] theorem CameraStream.other_other (x : CameraStream) : x.other.other = x := by
  cases x with
  | onboard => rfl
  | observer => rfl

theorem CameraStream.other_ne (x : CameraStream) : x.other ≠ x := by
  cases x with
  | onboard => exact nofun
  | observer => exact nofun

theorem CameraStream.eq_or_other (x y : CameraStream) : x = y ∨ x = y.other := by
  cases x with
  | onboard => cases y with
    | onboard => exact Or.inl rfl
    | observer => exact Or.inr rfl
  | observer => cases y with
    | onboard => exact Or.inr rfl
    | observer => exact Or.inl rfl

/-- **Both streams give the same pairs.** -/
theorem PairedOutputs.pairsOf_other {os : List (AdapterOutput V Q)} (h : PairedOutputs os)
    (x : CameraStream) : pairsOf x.other os = pairsOf x os := by
  refine List.ext_getElem? fun k => ?_
  simp only [pairsOf, List.getElem?_map, List.getElem?_take, CameraStream.other_other]
  cases hx : (framesOf x os)[k]? with
  | none =>
    have hlength := List.getElem?_eq_none_iff.mp hx
    rw [if_neg (Nat.not_lt.mpr hlength)]
    simp
  | some a =>
    have hlt := (List.getElem?_eq_some_iff.mp hx).1
    rw [if_pos hlt]
    cases hother : (framesOf x.other os)[k]? with
    | none =>
      have hlength := List.getElem?_eq_none_iff.mp hother
      rw [if_neg (Nat.not_lt.mpr hlength)]
    | some b =>
      have hlt' := (List.getElem?_eq_some_iff.mp hother).1
      rw [if_pos hlt', Option.map_some, Option.map_some, h.numbered _ k b hother,
        h.numbered _ k a hx, h.equal x k a b hx hother]

variable {os : List (AdapterOutput V Q)} {frame : PublicFrame}

/-- **The frame fits what was published**: it is a valid image, one interval after the last of its
    stream, with the timestamp of its counterpart if that was there first; frames are still
    expected, and neither the pairs without a truth nor the frames without a counterpart are too
    many. -/
structure FrameFits (n width height : ℕ) (os : List (AdapterOutput V Q)) (x : CameraStream)
    (sample : NativeImage) : Prop where
  stamp : sample.simTimestampNs ≠ 0
  image : sample.width = width ∧ sample.height = height ∧ sample.encoding = "rgb8" ∧
    sample.step = width * 3 ∧ sample.data.length = width * height * 3
  expected : (framesOf x os).length ≠ n
  spaced : ∀ last, received PublicFrame.simTimestampNs (framesOf x os) = some last →
    sample.simTimestampNs = last + frameIntervalNs
  counterpart : ∀ o, (framesOf x.other os)[(framesOf x os).length]? = some o →
    o.simTimestampNs = sample.simTimestampNs
  pairs : (pairsOf .onboard os).length ≠ (truthsOf os).length + pendingPairCapacity
  frames : (framesOf x os).length ≠ (framesOf x.other os).length + unmatchedFrameCapacity

/-- **The truth fits what was published**: its values are finite, and it has the timestamp of the
    oldest pair without a truth. -/
structure TruthFits (rules : VectorRules V Q) (os : List (AdapterOutput V Q))
    (sample : NativeGroundTruth V Q) : Prop where
  stamp : sample.simTimestampNs ≠ 0
  finite : rules.finiteVector sample.position = true ∧
    rules.finiteQuaternion sample.orientation = true ∧
    rules.finiteVector sample.linearVelocity = true ∧
    rules.finiteVector sample.angularVelocity = true
  pair : ∃ k, (pairsOf .onboard os)[(truthsOf os).length]? = some (k, sample.simTimestampNs)

/-- The pairs do not depend on the stream they are taken from. -/
theorem PairedOutputs.pairsOf_eq (h : PairedOutputs os) (x : CameraStream) :
    pairsOf x os = pairsOf .onboard os := by
  cases x with
  | onboard => rfl
  | observer => exact h.pairsOf_other .onboard

/-- The frames of the streams once one more is published. -/
theorem framesOf_snoc (os : List (AdapterOutput V Q)) (frame : PublicFrame) :
    framesOf frame.stream (os ++ [AdapterOutput.frame frame]) =
      framesOf frame.stream os ++ [frame] ∧
    framesOf frame.stream.other (os ++ [AdapterOutput.frame frame]) =
      framesOf frame.stream.other os := by
  rw [framesOf_append, framesOf_append, framesOf_frame, framesOf_frame, if_pos rfl,
    if_neg fun heq => frame.stream.other_ne heq.symm, List.append_nil]
  exact ⟨rfl, rfl⟩

/-- One more element behind a list. -/
theorem getElem?_snoc {α : Type} {l : List α} {a b : α} {k : ℕ} :
    (l ++ [a])[k]? = some b ↔ l[k]? = some b ∨ k = l.length ∧ a = b := by
  rw [List.getElem?_append]
  split
  · rename_i hk
    exact ⟨Or.inl, fun h => h.resolve_right fun heq => Nat.ne_of_lt hk heq.1⟩
  · rename_i hk
    have hnone : l[k]? = none := List.getElem?_eq_none_iff.mpr (Nat.not_lt.mp hk)
    rw [hnone]
    by_cases heq : k = l.length
    · simp [heq]
    · simp [heq, show ¬ k - l.length = 0 by omega]

/-- **A frame that fits keeps the outputs paired.** -/
theorem PairedOutputs.addFrame (h : PairedOutputs os)
    (hnumber : frame.frameId = (framesOf frame.stream os).length)
    (hlast : ∀ last, received PublicFrame.simTimestampNs (framesOf frame.stream os) = some last →
      frame.simTimestampNs = last + frameIntervalNs)
    (hequal : ∀ o, (framesOf frame.stream.other os)[(framesOf frame.stream os).length]? = some o →
      o.simTimestampNs = frame.simTimestampNs) :
    PairedOutputs (os ++ [AdapterOutput.frame frame]) := by
  obtain ⟨hown, htheir⟩ := framesOf_snoc os frame
  refine ⟨fun x k a ha => ?_, fun x k a b ha hb => ?_, fun x k a b ha hb => ?_,
    fun k g hg x => ?_⟩
  · rcases x.eq_or_other frame.stream with rfl | rfl
    · rw [hown, getElem?_snoc] at ha
      rcases ha with ha | ⟨rfl, rfl⟩
      · exact h.numbered _ k a ha
      · exact hnumber
    · rw [htheir] at ha
      exact h.numbered _ k a ha
  · rcases x.eq_or_other frame.stream with rfl | rfl
    · rw [hown, getElem?_snoc] at ha hb
      rcases hb with hb | ⟨hk, rfl⟩
      · rcases ha with ha | ⟨hk, -⟩
        · exact h.spaced _ k a b ha hb
        · have hlt' := (List.getElem?_eq_some_iff.mp hb).1
          omega
      · rcases ha with ha | ⟨hk', -⟩
        · refine hlast a.simTimestampNs ?_
          rw [received, List.getLast?_eq_getElem?, ← hk, Nat.add_sub_cancel, ha, Option.map_some]
        · omega
    · rw [htheir] at ha hb
      exact h.spaced _ k a b ha hb
  · rcases x.eq_or_other frame.stream with rfl | rfl
    · rw [hown, getElem?_snoc] at ha
      rw [htheir] at hb
      rcases ha with ha | ⟨rfl, rfl⟩
      · exact h.equal _ k a b ha hb
      · exact (hequal b hb).symm
    · rw [CameraStream.other_other, hown, getElem?_snoc] at hb
      rw [htheir] at ha
      rcases hb with hb | ⟨rfl, rfl⟩
      · exact (h.equal _ k b a hb ha).symm
      · exact hequal a ha
  · rw [truthsOf_append, truthsOf_frame, List.append_nil] at hg
    obtain ⟨a, ha, hstamp⟩ := h.truth k g hg x
    refine ⟨a, ?_, hstamp⟩
    rw [framesOf_append, List.getElem?_append_left (List.getElem?_eq_some_iff.mp ha).1, ha]

namespace AdapterModel

/-! ## 2. What the adapter holds -/

variable {rules : VectorRules V Q} {s t : AdapterModel} {stream : CameraStream}
  {sample : NativeImage} {n width height : ℕ} {ps : List (AdapterOutput V Q)}
  {is : List (AdapterInput V Q)} {input : AdapterInput V Q}

/-- **What the adapter holds**, in terms of what it published. -/
structure Paired (n width height : ℕ) (os : List (AdapterOutput V Q)) (s : AdapterModel) :
    Prop where
  outputs : PairedOutputs os
  expected : s.expectedFrames = n
  stream : ∀ x, (s.sequences x).stream = x
  expectedFrames : ∀ x, (s.sequences x).expectedFrames = n
  widthPx : ∀ x, (s.sequences x).widthPx = width
  heightPx : ∀ x, (s.sequences x).heightPx = height
  accepted : ∀ x, (s.sequences x).acceptedFrames = (framesOf x os).length
  last : ∀ x, (s.sequences x).lastSimTimestampNs =
    received PublicFrame.simTimestampNs (framesOf x os)
  sound : s.faultReason = none → ∀ x, (s.sequences x).faultReason = none
  unmatched : ∀ x, s.unmatchedFrames x = (framesOf x os).drop (framesOf x.other os).length
  pending : s.pendingPairs = (pairsOf .onboard os).drop (truthsOf os).length
  paired : s.pairedFrames = (truthsOf os).length
  samples : s.groundTruthSamples = (truthsOf os).length
  lastTruth : s.lastGroundTruthTimestampNs =
    received PublicGroundTruth.simTimestampNs (truthsOf os)

theorem Paired.start (runId : String) (n width height : ℕ) :
    Paired n width height ([] : List (AdapterOutput V Q)) (initial runId n width height) where
  outputs := ⟨by simp [framesOf], by simp [framesOf], by simp [framesOf], by simp [truthsOf]⟩
  expected := rfl
  stream := fun _ => rfl
  expectedFrames := fun _ => rfl
  widthPx := fun _ => rfl
  heightPx := fun _ => rfl
  accepted := fun _ => rfl
  last := fun _ => rfl
  sound := fun _ _ => rfl
  unmatched := fun _ => rfl
  pending := rfl
  paired := rfl
  samples := rfl
  lastTruth := rfl

/-- Every truth has its pair. -/
theorem Paired.truths_le (h : Paired n width height os s) (x : CameraStream) :
    (truthsOf os).length ≤ (framesOf x os).length := by
  by_contra hlt
  obtain ⟨g, hg⟩ : ∃ g, (truthsOf os)[(framesOf x os).length]? = some g :=
    ⟨_, List.getElem?_eq_getElem (by omega)⟩
  obtain ⟨a, ha, -⟩ := h.outputs.truth _ g hg x
  have hlt := (List.getElem?_eq_some_iff.mp ha).1
  omega

/-! ## 3. Frames -/

theorem acceptFrameOpen_ok : s.acceptFrameOpen stream sample = (t, .ok frame) ↔
    s.pendingPairs.length ≠ pendingPairCapacity ∧
    (s.unmatchedFrames stream).length ≠ unmatchedFrameCapacity ∧
    (s.sequences stream).faultReason = none ∧ (s.sequences stream).refused sample = none ∧
    s.mismatch stream sample = none ∧ s.addFrame stream sample = (t, frame) := by
  unfold acceptFrameOpen CameraSequence.preflight
  split
  · rename_i hfull
    simp [hfull]
  · rename_i hpairs
    split
    · rename_i hfull
      simp [hfull]
    · rename_i hframes
      rw [and_iff_right hpairs, and_iff_right hframes]
      cases hfault : (s.sequences stream).faultReason with
      | some fault => simp
      | none =>
        cases hrefused : (s.sequences stream).refused sample with
        | some reason => simp
        | none => cases hmismatch : s.mismatch stream sample with
          | some reason => simp
          | none => simp [Prod.ext_iff]

/-- A sample that is not refused is a valid image of an expected frame, one interval after the last
    one. -/
theorem refused_none {q : CameraSequence} : q.refused sample = none ↔ q.invalidImage sample = none ∧
    q.acceptedFrames ≠ q.expectedFrames ∧ ∀ last, q.lastSimTimestampNs = some last →
      sample.simTimestampNs = last + frameIntervalNs := by
  unfold CameraSequence.refused
  cases q.invalidImage sample with
  | some reason => simp
  | none =>
    cases q.lastSimTimestampNs with
    | none => simp
    | some last =>
      have hiff : (sample.simTimestampNs : ℤ) - last = frameIntervalNs ↔
          sample.simTimestampNs = last + frameIntervalNs := by omega
      by_cases hover : q.acceptedFrames = q.expectedFrames
      · simp [hover]
      · simp [hover, hiff]

theorem invalidImage_none {q : CameraSequence} : q.invalidImage sample = none ↔
    sample.simTimestampNs ≠ 0 ∧ sample.width = q.widthPx ∧ sample.height = q.heightPx ∧
      sample.encoding = "rgb8" ∧ sample.step = q.widthPx * 3 ∧
      sample.data.length = q.widthPx * q.heightPx * 3 := by
  unfold CameraSequence.invalidImage
  split
  · rename_i hzero
    simp [hzero]
  · rename_i hstamp
    split
    · rename_i hbad
      refine ⟨nofun, fun h => ?_⟩
      simp [h.2] at hbad
    · rename_i hgood
      simp only [not_or, ne_eq, not_not] at hgood
      exact ⟨fun _ => ⟨hstamp, hgood⟩, fun _ => rfl⟩

theorem mismatch_none : s.mismatch stream sample = none ↔
    ∀ o, (s.unmatchedFrames stream.other).head? = some o →
      o.frameId = (s.sequences stream).acceptedFrames ∧
        o.simTimestampNs = sample.simTimestampNs := by
  unfold mismatch
  cases (s.unmatchedFrames stream.other).head? with
  | none => simp
  | some o => by_cases hid : o.frameId = (s.sequences stream).acceptedFrames <;> simp [hid]

/-- What the state says of a frame that fits. -/
theorem addFrame_eq (h : s.addFrame stream sample = (t, frame)) :
    frame = ((s.sequences stream).accept sample).2 ∧
    t.sequences = Function.update s.sequences stream ((s.sequences stream).accept sample).1 ∧
    t.expectedFrames = s.expectedFrames ∧ t.faultReason = s.faultReason ∧
    t.pairedFrames = s.pairedFrames ∧ t.groundTruthSamples = s.groundTruthSamples ∧
    t.unmatchedFrames stream = (match s.unmatchedFrames stream.other with
      | [] => s.unmatchedFrames stream ++ [frame]
      | _ :: _ => (s.unmatchedFrames stream ++ [frame]).tail) ∧
    t.unmatchedFrames stream.other = (s.unmatchedFrames stream.other).tail ∧
    t.pendingPairs = (match s.unmatchedFrames stream.other with
      | [] => s.pendingPairs
      | _ :: _ => s.pendingPairs ++ [(frame.frameId, frame.simTimestampNs)]) := by
  unfold addFrame at h
  cases hother : s.unmatchedFrames stream.other with
  | nil =>
    simp only [hother] at h
    obtain ⟨rfl, rfl⟩ := Prod.mk.inj h
    refine ⟨rfl, rfl, rfl, rfl, rfl, rfl, ?_, ?_, rfl⟩
    · exact Function.update_self ..
    · exact (Function.update_of_ne stream.other_ne _ _).trans hother
  | cons o others =>
    simp only [hother] at h
    obtain ⟨rfl, rfl⟩ := Prod.mk.inj h
    refine ⟨rfl, rfl, rfl, rfl, rfl, rfl, ?_, ?_, rfl⟩
    · dsimp only
      rw [Function.update_of_ne stream.other_ne.symm, Function.update_self]
    · exact Function.update_self ..

/-- What a sequence that is replaced has in common with the new one, all sequences have. -/
theorem update_same {α : Type} {f : CameraStream → CameraSequence} {q : CameraSequence}
    (g : CameraSequence → α) (hg : g q = g (f stream)) (x : CameraStream) :
    g (Function.update f stream q x) = g (f x) := by
  by_cases hx : x = stream
  · rw [hx, Function.update_self, hg]
  · rw [Function.update_of_ne hx]

theorem addFrame_truth (s : AdapterModel) (stream : CameraStream) (sample : NativeImage) :
    (s.addFrame stream sample).1.closed = s.closed ∧
      (s.addFrame stream sample).1.lastGroundTruthTimestampNs = s.lastGroundTruthTimestampNs := by
  unfold addFrame
  dsimp only
  split <;> exact ⟨rfl, rfl⟩

/-- **A frame that fits keeps what the adapter holds.** -/
theorem Paired.addFrame (h : Paired n width height os s)
    (ha : s.acceptFrameOpen stream sample = (t, .ok frame)) :
    Paired n width height (os ++ [AdapterOutput.frame frame]) t ∧ frame.stream = stream ∧
      frame.native = sample := by
  obtain ⟨-, -, -, hrefused, hmismatch, ha⟩ := acceptFrameOpen_ok.mp ha
  have hlast : t.lastGroundTruthTimestampNs = s.lastGroundTruthTimestampNs := by
    rw [← (addFrame_truth s stream sample).2, ha]
  obtain ⟨hframe, hsequences, hexpected, hfault, hpaired, hsamples, hown, htheir, hpending⟩ :=
    addFrame_eq ha
  have hstream : frame.stream = stream := by
    rw [hframe]
    exact h.stream stream
  have hnative : frame.native = sample := by rw [hframe]; rfl
  subst hstream
  obtain ⟨hframes, hframes'⟩ := framesOf_snoc os frame
  have hnumber : frame.frameId = (framesOf frame.stream os).length := by
    exact (congrArg PublicFrame.frameId hframe).trans (h.accepted frame.stream)
  have hstamp : frame.simTimestampNs = sample.simTimestampNs := by rw [← hnative]; rfl
  have hlength := h.unmatched frame.stream.other
  rw [CameraStream.other_other] at hlength
  have hequal : ∀ o, (framesOf frame.stream.other os)[(framesOf frame.stream os).length]? =
      some o → o.simTimestampNs = frame.simTimestampNs := fun o ho => by
    rw [hstamp]
    exact (mismatch_none.mp hmismatch o (by rw [hlength, List.head?_drop, ho])).2
  have houtputs : PairedOutputs (os ++ [AdapterOutput.frame frame]) := by
    refine h.outputs.addFrame hnumber (fun last hlast => ?_) hequal
    rw [hstamp]
    exact (refused_none.mp hrefused).2.2 last (by rw [h.last, hlast])
  have htruths : truthsOf (os ++ [(.frame frame : AdapterOutput V Q)]) = truthsOf os := by
    rw [truthsOf_append, truthsOf_frame, List.append_nil]
  have hlengths := congrArg List.length hlength
  rw [List.length_drop] at hlengths
  have hownlength := congrArg List.length (h.unmatched frame.stream)
  rw [List.length_drop] at hownlength
  have hsame : ∀ {α : Type} (g : CameraSequence → α),
      g ((s.sequences frame.stream).accept sample).1 = g (s.sequences frame.stream) →
      ∀ x, g (t.sequences x) = g (s.sequences x) := fun g hg x => by
    rw [hsequences]
    exact update_same g hg x
  refine ⟨⟨houtputs, hexpected.trans h.expected,
    fun x => (hsame CameraSequence.stream rfl x).trans (h.stream x),
    fun x => (hsame CameraSequence.expectedFrames rfl x).trans (h.expectedFrames x),
    fun x => (hsame CameraSequence.widthPx rfl x).trans (h.widthPx x),
    fun x => (hsame CameraSequence.heightPx rfl x).trans (h.heightPx x), fun x => ?_, fun x => ?_,
    fun hnone x => (hsame CameraSequence.faultReason rfl x).trans (h.sound (hfault ▸ hnone) x),
    fun x => ?_, ?_, ?_, ?_, ?_⟩, rfl, hnative⟩
  · rcases x.eq_or_other frame.stream with rfl | rfl
    · rw [hsequences, Function.update_self, hframes, List.length_append, List.length_singleton,
        ← h.accepted frame.stream]
      rfl
    · rw [hsequences, Function.update_of_ne frame.stream.other_ne, hframes']
      exact h.accepted _
  · rcases x.eq_or_other frame.stream with rfl | rfl
    · rw [hsequences, Function.update_self, hframes, received_snoc, hstamp]
      rfl
    · rw [hsequences, Function.update_of_ne frame.stream.other_ne, hframes']
      exact h.last _
  · rcases x.eq_or_other frame.stream with rfl | rfl
    · rw [hown, hframes, hframes']
      split
      · rename_i hother
        rw [hother, List.length_nil] at hlengths
        rw [h.unmatched, List.drop_append_of_le_length (by omega)]
      · rename_i hother
        rw [hother, List.length_cons] at hlengths
        have hnil : s.unmatchedFrames frame.stream = [] :=
          List.eq_nil_of_length_eq_zero (by omega)
        rw [hnil, List.nil_append, List.tail_cons, List.drop_eq_nil_of_le]
        rw [List.length_append, List.length_singleton]
        omega
    · rw [htheir, hlength, CameraStream.other_other, hframes, hframes', List.length_append,
        List.length_singleton, List.tail_drop]
  · rw [← houtputs.pairsOf_eq frame.stream.other, htruths, hpending, h.pending,
      ← h.outputs.pairsOf_eq frame.stream.other, pairsOf, pairsOf, CameraStream.other_other,
      hframes, hframes', List.length_append, List.length_singleton]
    split
    · rename_i hother
      rw [hother, List.length_nil] at hlengths
      rw [List.take_of_length_le (by omega), List.take_of_length_le (by omega)]
    · rename_i o others hother
      have hnext : (framesOf frame.stream.other os)[(framesOf frame.stream os).length]? =
          some o := by
        rw [← List.head?_drop, ← hlength, hother]
        rfl
      have htruthsLe := h.truths_le frame.stream
      have hlt := (List.getElem?_eq_some_iff.mp hnext).1
      rw [List.take_add_one, hnext, Option.toList_some, List.map_append, List.map_singleton,
        hequal o hnext, h.outputs.numbered _ _ o hnext, ← hnumber, List.drop_append_of_le_length]
      rw [List.length_map, List.length_take]
      omega
  · rw [hpaired, htruths, h.paired]
  · rw [hsamples, htruths, h.samples]
  · rw [hlast, htruths, h.lastTruth]

/-- An open adapter has not failed and is not frozen. -/
theorem open_iff : s.closed = none ↔ s.faultReason = none ∧ s.summary = none := by
  unfold closed
  cases s.faultReason with
  | some fault => simp
  | none => simp

/-- **An open adapter takes a frame iff it fits.** -/
theorem Paired.frame_fits (h : Paired n width height os s) (hopen : s.closed = none) :
    (∃ t frame, s.acceptFrameOpen stream sample = (t, .ok frame)) ↔
      FrameFits n width height os stream sample := by
  have hfault := (open_iff.mp hopen).1
  have hpairs : s.pendingPairs.length = (pairsOf .onboard os).length - (truthsOf os).length := by
    rw [h.pending, List.length_drop]
  have hframes : (s.unmatchedFrames stream).length =
      (framesOf stream os).length - (framesOf stream.other os).length := by
    rw [h.unmatched, List.length_drop]
  have hcounterpart : s.mismatch stream sample = none ↔
      ∀ o, (framesOf stream.other os)[(framesOf stream os).length]? = some o →
        o.simTimestampNs = sample.simTimestampNs := by
    rw [mismatch_none, h.unmatched, CameraStream.other_other, List.head?_drop, h.accepted]
    exact forall₂_congr fun o ho => and_iff_right (h.outputs.numbered _ _ o ho)
  have hroom : ∀ a b : ℕ, a - b ≠ 20 ↔ a ≠ b + 20 := by omega
  simp only [acceptFrameOpen_ok, refused_none, invalidImage_none, hcounterpart, hpairs, hframes,
    pendingPairCapacity, unmatchedFrameCapacity, hroom, h.sound hfault stream, h.accepted, h.last,
    h.expectedFrames, h.widthPx, h.heightPx]
  constructor
  · rintro ⟨t, frame, hp, hf, -, ⟨⟨hstamp, himage⟩, hexpected, hspaced⟩, hequal, -⟩
    exact ⟨hstamp, himage, hexpected, hspaced, hequal, hp, hf⟩
  · intro hfits
    exact ⟨_, _, hfits.pairs, hfits.frames, trivial,
      ⟨⟨hfits.stamp, hfits.image⟩, hfits.expected, hfits.spaced⟩, hfits.counterpart, rfl⟩

/-! ## 4. Truths -/

theorem acceptGroundTruthOpen_ok {sample : NativeGroundTruth V Q} {truth : PublicGroundTruth V Q}
    (h : s.acceptGroundTruthOpen rules sample = (t, .ok truth)) :
    (∃ pair rest, s.pendingPairs = pair :: rest ∧ truth.simTimestampNs = pair.2) ∧
    truth.native = sample ∧
    t.sequences = s.sequences ∧ t.unmatchedFrames = s.unmatchedFrames ∧
    t.expectedFrames = s.expectedFrames ∧ t.faultReason = s.faultReason ∧
    t.pendingPairs = s.pendingPairs.tail ∧ t.pairedFrames = s.pairedFrames + 1 ∧
    t.groundTruthSamples = s.groundTruthSamples + 1 ∧
    t.lastGroundTruthTimestampNs = some sample.simTimestampNs ∧ t.closed = s.closed := by
  unfold acceptGroundTruthOpen at h
  split at h
  · cases (Prod.mk.inj h).2
  · rename_i hrefused
    obtain ⟨rfl, htruth⟩ := Prod.mk.inj h
    obtain rfl := Except.ok.inj htruth
    refine ⟨?_, rfl, rfl, rfl, rfl, rfl, rfl, rfl, rfl, rfl, rfl⟩
    unfold refusedTruth at hrefused
    repeat' split at hrefused
    all_goals try cases hrefused
    rename_i pair rest hpairs hstamp
    exact ⟨pair, rest, hpairs, not_not.mp hstamp⟩

/-- **A truth that fits keeps what the adapter holds.** -/
theorem Paired.addTruth (h : Paired n width height os s) {sample : NativeGroundTruth V Q}
    {truth : PublicGroundTruth V Q} (ha : s.acceptGroundTruthOpen rules sample = (t, .ok truth)) :
    Paired n width height (os ++ [AdapterOutput.groundTruth truth]) t ∧ truth.native = sample := by
  obtain ⟨⟨pair, rest, hpairs, hstamp⟩, hnative, hsequences, hunmatched, hexpected, hfault,
    hpending, hpaired, hsamples, hlast, -⟩ := acceptGroundTruthOpen_ok ha
  have hframes : ∀ x, framesOf x (os ++ [AdapterOutput.groundTruth truth]) = framesOf x os := by
    intro x
    rw [framesOf_append, framesOf_truth, List.append_nil]
  have htruths : truthsOf (os ++ [AdapterOutput.groundTruth truth]) = truthsOf os ++ [truth] := by
    rw [truthsOf_append, truthsOf_truth]
  -- the truth's pair, from either stream
  have hpair : ∀ x, ∃ a, (framesOf x os)[(truthsOf os).length]? = some a ∧
      a.simTimestampNs = truth.simTimestampNs := by
    intro x
    have hhead := congrArg List.head? (h.pending.symm.trans hpairs)
    rw [List.head?_drop, ← h.outputs.pairsOf_eq x, pairsOf, List.getElem?_map,
      List.getElem?_take] at hhead
    split at hhead
    · obtain ⟨a, ha, heq⟩ := Option.map_eq_some_iff.mp hhead
      exact ⟨a, ha, (congrArg Prod.snd heq).trans hstamp.symm⟩
    · cases hhead
  refine ⟨⟨⟨?_, ?_, ?_, fun k g hg x => ?_⟩, hexpected.trans h.expected, ?_, ?_, ?_, ?_, ?_, ?_, ?_,
    ?_, ?_, ?_, ?_, ?_⟩, hnative⟩
  · simpa only [hframes] using h.outputs.numbered
  · simpa only [hframes] using h.outputs.spaced
  · simpa only [hframes] using h.outputs.equal
  · rw [htruths, getElem?_snoc] at hg
    rw [hframes]
    rcases hg with hg | ⟨rfl, rfl⟩
    · exact h.outputs.truth k g hg x
    · exact hpair x
  · simpa only [hsequences] using h.stream
  · simpa only [hsequences] using h.expectedFrames
  · simpa only [hsequences] using h.widthPx
  · simpa only [hsequences] using h.heightPx
  · simpa only [hsequences, hframes] using h.accepted
  · simpa only [hsequences, hframes] using h.last
  · simpa only [hsequences, hfault] using h.sound
  · simpa only [hunmatched, hframes] using h.unmatched
  · rw [hpending, h.pending, htruths, List.length_append, List.length_singleton, List.tail_drop,
      pairsOf, pairsOf, hframes, hframes]
  · rw [hpaired, h.paired, htruths, List.length_append, List.length_singleton]
  · rw [hsamples, h.samples, htruths, List.length_append, List.length_singleton]
  · rw [hlast, htruths, received_snoc, ← hnative]
    rfl

theorem refusedTruth_none {sample : NativeGroundTruth V Q} :
    s.refusedTruth rules sample = none ↔ sample.simTimestampNs ≠ 0 ∧
      rules.finiteVector sample.position = true ∧
      rules.finiteQuaternion sample.orientation = true ∧
      rules.finiteVector sample.linearVelocity = true ∧
      rules.finiteVector sample.angularVelocity = true ∧
      (∀ last, s.lastGroundTruthTimestampNs = some last → last < sample.simTimestampNs) ∧
      ∃ k, s.pendingPairs.head? = some (k, sample.simTimestampNs) := by
  have hlater :
      (s.lastGroundTruthTimestampNs.any fun last => sample.simTimestampNs ≤ last) = false ↔
      ∀ last, s.lastGroundTruthTimestampNs = some last → last < sample.simTimestampNs := by
    cases s.lastGroundTruthTimestampNs <;> simp
  unfold refusedTruth
  cases s.pendingPairs with
  | nil => split_ifs <;> simp_all
  | cons pair rest =>
    have hpair : (∃ k, (pair :: rest).head? = some (k, sample.simTimestampNs)) ↔
        sample.simTimestampNs = pair.2 := by simp [Prod.ext_iff, eq_comm]
    split_ifs <;> simp_all

/-- **An open adapter takes a truth iff it fits**: the pairs come one interval apart, so the oldest
    one without a truth is later than the last truth. -/
theorem Paired.truth_fits (h : Paired n width height os s) {sample : NativeGroundTruth V Q} :
    (∃ t truth, s.acceptGroundTruthOpen rules sample = (t, .ok truth)) ↔
      TruthFits rules os sample := by
  have hhead : s.pendingPairs.head? = (pairsOf .onboard os)[(truthsOf os).length]? := by
    rw [h.pending, List.head?_drop]
  have hlater : ∀ k,
      (pairsOf .onboard os)[(truthsOf os).length]? = some (k, sample.simTimestampNs) →
      ∀ last, s.lastGroundTruthTimestampNs = some last → last < sample.simTimestampNs := by
    intro k hk last hlast
    rw [h.lastTruth, received, List.getLast?_eq_getElem?] at hlast
    obtain ⟨g, hg, rfl⟩ := Option.map_eq_some_iff.mp hlast
    obtain ⟨a, ha, hstamp⟩ := h.outputs.truth _ g hg .onboard
    have hlt := (List.getElem?_eq_some_iff.mp hg).1
    rw [pairsOf, List.getElem?_map, List.getElem?_take] at hk
    split at hk
    · obtain ⟨b, hb, heq⟩ := Option.map_eq_some_iff.mp hk
      have hspaced := h.outputs.spaced _ _ a b ha (by rwa [Nat.sub_add_cancel (by omega)])
      have hb : b.simTimestampNs = sample.simTimestampNs := congrArg Prod.snd heq
      rw [frameIntervalNs] at hspaced
      omega
    · cases hk
  have hok : (∃ t truth, s.acceptGroundTruthOpen rules sample = (t, .ok truth)) ↔
      s.refusedTruth rules sample = none := by
    unfold acceptGroundTruthOpen
    cases s.refusedTruth rules sample with
    | none => simp
    | some reason => simp
  rw [hok, refusedTruth_none, hhead]
  constructor
  · rintro ⟨hstamp, hp, ho, hl, ha, -, hpair⟩
    exact ⟨hstamp, ⟨hp, ho, hl, ha⟩, hpair⟩
  · rintro ⟨hstamp, ⟨hp, ho, hl, ha⟩, k, hk⟩
    exact ⟨hstamp, hp, ho, hl, ha, hlater k hk, k, hk⟩

/-! ## 5. Calls -/

/-- A frame that is refused leaves the state, but for the fault of its sequence. -/
theorem Paired.refuse (h : Paired n width height os s) {reason fault : String}
    (ha : s.acceptFrameOpen stream sample = (t, .error reason)) :
    Paired n width height os { t with faultReason := some fault } := by
  have hleft : Paired n width height os { s with faultReason := some fault } :=
    { h with sound := nofun }
  unfold acceptFrameOpen at ha
  split at ha
  · obtain ⟨rfl, -⟩ := Prod.mk.inj ha
    exact hleft
  · split at ha
    · obtain ⟨rfl, -⟩ := Prod.mk.inj ha
      exact hleft
    · split at ha
      · rename_i sequence reason hpreflight
        obtain ⟨rfl, -⟩ := Prod.mk.inj ha
        have hsequence : ∃ o, sequence = { s.sequences stream with faultReason := o } := by
          unfold CameraSequence.preflight at hpreflight
          split at hpreflight
          · exact ⟨_, (Prod.mk.inj hpreflight).1.symm⟩
          · split at hpreflight
            · cases (Prod.mk.inj hpreflight).2
            · exact ⟨_, (Prod.mk.inj hpreflight).1.symm⟩
        obtain ⟨o, rfl⟩ := hsequence
        have hsame : ∀ {α : Type} (g : CameraSequence → α),
            g { s.sequences stream with faultReason := o } = g (s.sequences stream) → ∀ x,
            g (Function.update s.sequences stream { s.sequences stream with faultReason := o } x) =
              g (s.sequences x) := fun g hg x => update_same g hg x
        exact { h with
          stream := fun x => (hsame CameraSequence.stream rfl x).trans (h.stream x)
          expectedFrames := fun x =>
            (hsame CameraSequence.expectedFrames rfl x).trans (h.expectedFrames x)
          widthPx := fun x => (hsame CameraSequence.widthPx rfl x).trans (h.widthPx x)
          heightPx := fun x => (hsame CameraSequence.heightPx rfl x).trans (h.heightPx x)
          accepted := fun x => (hsame CameraSequence.acceptedFrames rfl x).trans (h.accepted x)
          last := fun x => (hsame CameraSequence.lastSimTimestampNs rfl x).trans (h.last x)
          sound := nofun }
      · split at ha
        · obtain ⟨rfl, -⟩ := Prod.mk.inj ha
          exact hleft
        · cases (Prod.mk.inj ha).2

theorem acceptGroundTruthOpen_error {sample : NativeGroundTruth V Q} {reason : String}
    (h : s.acceptGroundTruthOpen rules sample = (t, .error reason)) : t = s := by
  unfold acceptGroundTruthOpen at h
  split at h
  · exact (Prod.mk.inj h).1.symm
  · cases (Prod.mk.inj h).2

/-- Freezing sets the summary and nothing else. -/
theorem freeze_eq (s : AdapterModel) : ∃ o, s.freeze.1 = { s with summary := o } := by
  unfold freeze
  split
  · exact ⟨s.summary, rfl⟩
  · exact ⟨s.summary, rfl⟩
  · split
    · exact ⟨s.summary, rfl⟩
    · exact ⟨_, rfl⟩

/-- **What one call can do**: it publishes a frame or a truth that fits, or it publishes nothing and
    leaves the adapter closed or as it was. -/
inductive Called (s : AdapterModel) : AdapterInput V Q → AdapterModel → List (AdapterOutput V Q) →
    Prop where
  | frame {stream : CameraStream} {sample : NativeImage} {frame : PublicFrame} {t : AdapterModel}
      (hopen : s.closed = none) (h : s.acceptFrameOpen stream sample = (t, .ok frame)) :
      Called s (.frame stream sample) t [.frame frame]
  | noFrame {stream : CameraStream} {sample : NativeImage} {reason fault : String}
      {t : AdapterModel} (hopen : s.closed = none)
      (h : s.acceptFrameOpen stream sample = (t, .error reason)) :
      Called s (.frame stream sample) { t with faultReason := some fault } []
  | truth {sample : NativeGroundTruth V Q} {truth : PublicGroundTruth V Q} {t : AdapterModel}
      {rules : VectorRules V Q} (hopen : s.closed = none)
      (h : s.acceptGroundTruthOpen rules sample = (t, .ok truth)) :
      Called s (.groundTruth sample) t [.groundTruth truth]
  | noTruth {sample : NativeGroundTruth V Q} {fault : String} (hopen : s.closed = none) :
      Called s (.groundTruth sample) { s with faultReason := some fault } []
  | closed {input : AdapterInput V Q} (hclosed : s.closed ≠ none) : Called s input s []
  | freeze {o : Option AdapterSummary} (hopen : s.closed = none) :
      Called s .freeze { s with summary := o } []

theorem call_called (h : Calls (accept rules) s input ps t) : Called s input t ps := by
  obtain ⟨rfl, rfl⟩ := h
  cases input with
  | frame stream sample =>
    unfold accept acceptFrame
    dsimp only
    split
    · rename_i reason hclosed
      exact .closed (by rw [hclosed]; exact Option.some_ne_none _)
    · rename_i hopen
      rcases ha : s.acceptFrameOpen stream sample with ⟨t, r⟩
      cases r with
      | ok frame => exact .frame hopen ha
      | error reason => exact .noFrame hopen ha
  | groundTruth sample =>
    unfold accept acceptGroundTruth
    dsimp only
    split
    · rename_i reason hclosed
      exact .closed (by rw [hclosed]; exact Option.some_ne_none _)
    · rename_i hopen
      rcases ha : s.acceptGroundTruthOpen rules sample with ⟨t, r⟩
      cases r with
      | ok truth => exact .truth hopen ha
      | error reason =>
        obtain rfl := acceptGroundTruthOpen_error ha
        exact .noTruth hopen
  | freeze =>
    have hnone : published (accept rules s .freeze).2 = [] := by
      unfold accept
      cases s.freeze.2 with
      | ok summary => rfl
      | error reason => rfl
    rw [hnone]
    show Called s .freeze s.freeze.1 []
    by_cases hopen : s.closed = none
    · obtain ⟨o, ho⟩ := s.freeze_eq
      rw [ho]
      exact .freeze hopen
    · have hsame : s.freeze.1 = s := by
        unfold AdapterModel.freeze
        split
        · rfl
        · rfl
        · rename_i hsummary hfault
          exact absurd (by rw [AdapterModel.closed, hfault, hsummary]; rfl) hopen
      rw [hsame]
      exact .closed hopen

/-- **Every call keeps what the adapter holds**, whether it raises or not. -/
theorem Paired.call (h : Paired n width height os s) (hc : Called s input t ps) :
    Paired n width height (os ++ ps) t := by
  cases hc with
  | frame hopen ha => exact (h.addFrame ha).1
  | noFrame hopen ha =>
    rw [List.append_nil]
    exact h.refuse ha
  | truth hopen ha => exact (h.addTruth ha).1
  | noTruth hopen =>
    rw [List.append_nil]
    exact { h with sound := nofun }
  | closed hclosed =>
    rw [List.append_nil]
    exact h
  | freeze hopen =>
    rw [List.append_nil]
    exact { h with }

/-- **A closed adapter publishes nothing more**, and stays as it is. -/
theorem feed_closed (hclosed : s.closed ≠ none) (is : List (AdapterInput V Q)) :
    feed (accept rules) s is = (s, []) := by
  induction is with
  | nil => rfl
  | cons input is ih =>
    have hcall : Called s input (accept rules s input).1 (published (accept rules s input).2) :=
      call_called ⟨rfl, rfl⟩
    generalize hr : accept rules s input = r at hcall
    obtain ⟨t, result⟩ := r
    generalize hps : published result = ps at hcall
    cases hcall with
    | closed _ =>
      rw [feed, hr, ih, hps]
      rfl
    | _ => contradiction

/-! ## 6. Calls of an open adapter -/

/-- The calls made while the adapter was open. -/
def openCalls (rules : VectorRules V Q) :
    AdapterModel → List (AdapterInput V Q) → List (AdapterInput V Q)
  | _, [] => []
  | s, input :: is =>
    if s.closed.isSome then [] else input :: openCalls rules (accept rules s input).1 is

theorem openCalls_prefix (rules : VectorRules V Q) (s : AdapterModel)
    (is : List (AdapterInput V Q)) : openCalls rules s is <+: is := by
  induction is generalizing s with
  | nil => exact List.prefix_rfl
  | cons input is ih =>
    rw [openCalls]
    split
    · exact List.nil_prefix
    · exact List.cons_prefix_cons.mpr ⟨rfl, ih _⟩

/-- One more call is one more of them, if the adapter is still open. -/
theorem openCalls_snoc (rules : VectorRules V Q) (s : AdapterModel) (is : List (AdapterInput V Q))
    (input : AdapterInput V Q) : openCalls rules s (is ++ [input]) = openCalls rules s is ++
      if (feed (accept rules) s is).1.closed.isSome then [] else [input] := by
  induction is generalizing s with
  | nil => rfl
  | cons i is ih =>
    rw [List.cons_append, openCalls, openCalls]
    split
    · rename_i hclosed
      rw [feed_closed (Option.isSome_iff_ne_none.mp hclosed), if_pos hclosed]
      rfl
    · rw [ih]
      rfl

/-- **What was published of what an open adapter was given**: a part of each stream in order, and
    all of it unless the adapter failed. -/
structure Delivered (opened : List (AdapterInput V Q)) (os : List (AdapterOutput V Q))
    (s : AdapterModel) : Prop where
  frames : ∀ x, (framesOf x os).map PublicFrame.native <+: imagesOf x opened
  truths : (truthsOf os).map PublicGroundTruth.native <+: samplesOf opened
  allFrames : s.faultReason = none → ∀ x,
    (framesOf x os).map PublicFrame.native = imagesOf x opened
  allTruths : s.faultReason = none → (truthsOf os).map PublicGroundTruth.native = samplesOf opened

theorem Delivered.start (s : AdapterModel) :
    Delivered ([] : List (AdapterInput V Q)) ([] : List (AdapterOutput V Q)) s :=
  ⟨fun _ => List.prefix_rfl, List.prefix_rfl, fun _ _ => rfl, fun _ => rfl⟩

/-- A call that fails. -/
theorem Delivered.failed (h : Delivered is os s) (input : AdapterInput V Q)
    (hfault : t.faultReason ≠ none) : Delivered (is ++ [input]) os t where
  frames := fun x => (h.frames x).trans ⟨_, List.filterMap_append.symm⟩
  truths := h.truths.trans ⟨_, List.filterMap_append.symm⟩
  allFrames := fun hnone => absurd hnone hfault
  allTruths := fun hnone => absurd hnone hfault

/-- A call on an open adapter that publishes what it takes. -/
theorem Delivered.taken (h : Delivered is os s) (hopen : s.closed = none)
    (hframes : ∀ x, (framesOf x ps).map PublicFrame.native = imagesOf x [input])
    (htruths : (truthsOf ps).map PublicGroundTruth.native = samplesOf [input]) :
    Delivered (is ++ [input]) (os ++ ps) t := by
  have hallFrames : ∀ x, (framesOf x (os ++ ps)).map PublicFrame.native =
      imagesOf x (is ++ [input]) := fun x => by
    rw [framesOf_append, List.map_append, h.allFrames (open_iff.mp hopen).1, hframes]
    exact List.filterMap_append.symm
  have hallTruths : (truthsOf (os ++ ps)).map PublicGroundTruth.native =
      samplesOf (is ++ [input]) := by
    rw [truthsOf_append, List.map_append, h.allTruths (open_iff.mp hopen).1, htruths]
    exact List.filterMap_append.symm
  exact ⟨fun x => by rw [hallFrames], by rw [hallTruths], fun _ => hallFrames, fun _ => hallTruths⟩

theorem Delivered.call (h : Delivered is os s) (hp : Paired n width height os s)
    (hc : Called s input t ps) :
    Delivered (is ++ if s.closed.isSome then [] else [input]) (os ++ ps) t := by
  by_cases hopen : s.closed = none
  · rw [hopen, Option.isSome_none, if_neg Bool.false_ne_true]
    cases hc with
    | @frame stream sample frame _ _ ha =>
      obtain ⟨-, hstream, hnative⟩ := hp.addFrame ha
      refine h.taken hopen (fun x => ?_) rfl
      rw [framesOf_frame, hstream]
      by_cases hx : stream = x
      · simp [imagesOf, hx, hnative]
      · simp [imagesOf, hx]
    | noFrame _ ha =>
      rw [List.append_nil]
      exact h.failed _ (Option.some_ne_none _)
    | truth _ ha =>
      obtain ⟨-, hnative, -⟩ := acceptGroundTruthOpen_ok ha
      exact h.taken hopen (fun x => rfl) (congrArg (fun g => [g]) hnative)
    | noTruth _ =>
      rw [List.append_nil]
      exact h.failed _ (Option.some_ne_none _)
    | closed hclosed => exact absurd hopen hclosed
    | freeze _ => exact h.taken hopen (fun x => rfl) rfl
  · rw [if_pos (Option.isSome_iff_ne_none.mpr hopen), List.append_nil]
    cases hc with
    | closed _ => rwa [List.append_nil]
    | _ => contradiction

theorem paired_run (rules : VectorRules V Q) (runId : String) (n width height : ℕ)
    (is : List (AdapterInput V Q)) :
    Paired n width height (feed (accept rules) (initial runId n width height) is).2
      (feed (accept rules) (initial runId n width height) is).1 ∧
    Delivered (openCalls rules (initial runId n width height) is)
      (feed (accept rules) (initial runId n width height) is).2
      (feed (accept rules) (initial runId n width height) is).1 := by
  induction is using List.reverseRecOn with
  | nil => exact ⟨Paired.start runId n width height, Delivered.start _⟩
  | append_singleton is input ih =>
    have hcall : ∀ s,
        Called s input (accept rules s input).1 (published (accept rules s input).2) :=
      fun s => call_called ⟨rfl, rfl⟩
    rw [feed_append, openCalls_snoc]
    have hone : ∀ s : AdapterModel, feed (accept rules) s [input] =
        ((accept rules s input).1, published (accept rules s input).2) := fun s =>
      Prod.ext rfl (List.append_nil _)
    rw [hone]
    exact ⟨ih.1.call (hcall _), ih.2.call ih.1 (hcall _)⟩

/-- **The capture is complete** iff nothing faulted and every stream has published the expected
    number of frames, and as many truths are published. -/
theorem Paired.complete_iff (h : Paired n width height os s) : s.complete = true ↔
    s.faultReason = none ∧ (∀ x, (framesOf x os).length = n) ∧ (truthsOf os).length = n := by
  constructor
  · intro hc
    simp only [complete, CameraSequence.complete, Bool.and_eq_true, Option.isNone_iff_eq_none,
      beq_iff_eq] at hc
    obtain ⟨⟨⟨⟨⟨⟨⟨hfault, -, honboard⟩, -, hobserver⟩, hpaired⟩, -⟩, -⟩, -⟩, -⟩ := hc
    refine ⟨hfault, fun x => ?_, ?_⟩
    · rw [← h.accepted x]
      cases x with
      | onboard => rw [honboard, h.expectedFrames]
      | observer => rw [hobserver, h.expectedFrames]
    · rw [← h.paired, hpaired, h.expected]
  · rintro ⟨hfault, hframes, htruths⟩
    have hsequence : ∀ x, (s.sequences x).complete = true := fun x => by
      rw [CameraSequence.complete, h.sound hfault x, h.accepted x, h.expectedFrames x, hframes x]
      simp
    have hunmatched : ∀ x, s.unmatchedFrames x = [] := fun x => by
      rw [h.unmatched x, hframes x.other, ← hframes x, List.drop_length]
    have hpending : s.pendingPairs = [] := by
      rw [h.pending, List.drop_eq_nil_iff, pairsOf, List.length_map, List.length_take, htruths,
        hframes]
      exact Nat.min_le_left _ _
    rw [complete, hfault, hsequence, hsequence, hunmatched, hunmatched, hpending, h.paired,
      h.samples, htruths, h.expected]
    simp

/-- **A capture is complete iff as much was delivered while the adapter was open.** -/
theorem Paired.complete_delivered (h : Paired n width height os s) (hd : Delivered is os s) :
    s.complete = true ↔
      s.faultReason = none ∧ (∀ x, (imagesOf x is).length = n) ∧ (samplesOf is).length = n := by
  rw [h.complete_iff]
  refine and_congr_right fun hfault => ?_
  simp only [← hd.allFrames hfault, ← hd.allTruths hfault, List.length_map]

/-! ## 7. What the next call does -/

/-- **What the next call does.** An open adapter takes what fits and fails on what does not, and is
    frozen when it is complete. A closed one refuses every call and changes no more. -/
structure Next (rules : VectorRules V Q) (n width height : ℕ) (os : List (AdapterOutput V Q))
    (s : AdapterModel) : Prop where
  takesFrame : s.closed = none → ∀ x sample, FrameFits n width height os x sample →
    ∃ t frame, accept rules s (.frame x sample) = (t, .ok [.frame frame]) ∧ t.closed = none
  failsFrame : s.closed = none → ∀ x sample, ¬ FrameFits n width height os x sample →
    ∃ t fault, accept rules s (.frame x sample) = (t, .error fault) ∧ t.faultReason = some fault
  takesTruth : s.closed = none → ∀ sample, TruthFits rules os sample →
    ∃ t truth, accept rules s (.groundTruth sample) = (t, .ok [.groundTruth truth]) ∧
      t.closed = none
  failsTruth : s.closed = none → ∀ sample, ¬ TruthFits rules os sample →
    ∃ t fault, accept rules s (.groundTruth sample) = (t, .error fault) ∧
      t.faultReason = some fault
  freezes : s.closed = none → s.complete = true →
    ∃ t, accept rules s .freeze = (t, .ok []) ∧ t.closed ≠ none ∧ t.complete = true
  waits : s.closed = none → s.complete = false →
    ∃ reason, accept rules s .freeze = (s, .error reason)
  refuses : s.closed ≠ none → ∀ is, feed (accept rules) s is = (s, [])

theorem Paired.next (rules : VectorRules V Q) (h : Paired n width height os s) :
    Next rules n width height os s where
  takesFrame := fun hopen x sample hfits => by
    obtain ⟨t, frame, ha⟩ := (h.frame_fits hopen).mpr hfits
    refine ⟨t, frame, ?_, ?_⟩
    · simp [accept, acceptFrame, hopen, ha, latched, Except.map]
    · obtain ⟨-, -, -, -, -, hadd⟩ := acceptFrameOpen_ok.mp ha
      rw [← hopen, ← (addFrame_truth s x sample).1, hadd]
  failsFrame := fun hopen x sample hnot => by
    rcases ha : s.acceptFrameOpen x sample with ⟨t, r⟩
    cases r with
    | ok frame => exact absurd ((h.frame_fits hopen).mp ⟨t, frame, ha⟩) hnot
    | error reason =>
      exact ⟨{ t with faultReason := some ("adapter processing fault: " ++ reason) }, _,
        by simp [accept, acceptFrame, hopen, ha, latched, Except.map], rfl⟩
  takesTruth := fun hopen sample hfits => by
    obtain ⟨t, truth, ha⟩ := h.truth_fits.mpr hfits
    obtain ⟨-, -, -, -, -, -, -, -, -, -, hclosed⟩ := acceptGroundTruthOpen_ok ha
    refine ⟨t, truth, ?_, hclosed.trans hopen⟩
    simp [accept, acceptGroundTruth, hopen, ha, latched, Except.map]
  failsTruth := fun hopen sample hnot => by
    rcases ha : s.acceptGroundTruthOpen rules sample with ⟨t, r⟩
    cases r with
    | ok truth => exact absurd (h.truth_fits.mp ⟨t, truth, ha⟩) hnot
    | error reason =>
      exact ⟨{ t with faultReason := some ("adapter processing fault: " ++ reason) }, _,
        by simp [accept, acceptGroundTruth, hopen, ha, latched, Except.map], rfl⟩
  freezes := fun hopen hcomplete => by
    obtain ⟨hfault, hsummary⟩ := open_iff.mp hopen
    refine ⟨s.freeze.1, ?_, ?_, ?_⟩
    · simp [accept, freeze, hsummary, hfault, hcomplete, Except.map]
    · simp [freeze, hsummary, hfault, hcomplete, closed]
    · obtain ⟨o, ho⟩ := s.freeze_eq
      rw [ho]
      exact hcomplete
  waits := fun hopen hcomplete => by
    obtain ⟨hfault, hsummary⟩ := open_iff.mp hopen
    exact ⟨_, by simp [accept, freeze, hsummary, hfault, hcomplete, Except.map]; rfl⟩
  refuses := feed_closed

end AdapterModel

end DroneSim
