/-
  File:      DroneSim/Gazebo/LiveAdapter.lean
  Subject:   The live adapter (ros_adapter/live.py, and its truths, ros_adapter/aggregation.py).

  `PrivateTruthAggregator` joins odometry with the contacts of its interval to ground truths, and
  `LiveAdapter` lets a truth into the adapter when the next pair of frames waits for it. A call that
  raises ends the run: the node that made it fails.

  A live run is a run of the adapter (`Live.step`), so its frames and truths are paired as the
  adapter's are; and no pair waits for its truth while a truth waits for its pair. `framePairing`
  says it of both; `capture_complete_frozen` is a frozen adapter that stays complete.
-/
import DroneSim.Gazebo.FramePairs
import DroneSim.Gazebo.VehicleSupport
import DroneSim.Library.Fallible

namespace DroneSim

open Library

/-! ## 1. Truths -/

/-- `TRUTH_PERIOD_NS`. -/
def truthPeriodNs : ℕ := 50000000

abbrev LiveTruth := NativeGroundTruth Xyz Xyzw

structure PrivateTruthAggregator where
  odometry : Option NativeOdometry
  lastOdometryStamp : Option ℕ
  contactEpochs : Dict ℕ Bool
  lastContactStamp : Option ℕ
  completed : List LiveTruth

namespace PrivateTruthAggregator

variable (s : PrivateTruthAggregator)

/-- `PrivateTruthAggregator.__init__`. -/
def initial : PrivateTruthAggregator where
  odometry := none
  lastOdometryStamp := none
  contactEpochs := .empty
  lastContactStamp := none
  completed := []

/-- `_contact_epoch`. -/
def contactEpoch (stampNs : ℕ) : ℕ := VehicleSupportTracker.epochOf truthPeriodNs stampNs

/-- `_require_completion_capacity`. -/
def full : Bool := s.completed.length == completedCapacity

/-- `_complete`. -/
def complete (odometry : NativeOdometry) (inContact : Bool) :
    Except String PrivateTruthAggregator :=
  if s.full then .error "completed ground truth lookahead is full"
  else
    .ok { s with
      contactEpochs := s.contactEpochs.filterKeys fun epoch => odometry.simTimestampNs < epoch
      completed := s.completed ++
        [{ simTimestampNs := odometry.simTimestampNs
           position := odometry.positionXyz
           orientation := odometry.orientationXyzw
           linearVelocity := odometry.linearVelocityXyz
           angularVelocity := odometry.angularVelocityXyz
           inContact := inContact }] }

/-- `_combine`. -/
def combine : Except String PrivateTruthAggregator :=
  match s.odometry with
  | none => .ok s
  | some odometry =>
    match s.contactEpochs.get odometry.simTimestampNs with
    | some state => { s with odometry := none }.complete odometry state
    | none =>
      if s.lastContactStamp.any fun last => odometry.simTimestampNs < contactEpoch last then
        { s with odometry := none }.complete odometry false
      else .ok s

/-- `accept_odometry`. -/
def acceptOdometry (sample : NativeOdometry) : Except String PrivateTruthAggregator :=
  if s.full then .error "completed ground truth lookahead is full"
  else if sample.simTimestampNs = 0 then .error "native timestamp must be a positive integer"
  else if s.lastOdometryStamp.any fun last => sample.simTimestampNs ≤ last then
    .error "odometry timestamps must advance"
  else
    let t := { s with
      lastOdometryStamp := some sample.simTimestampNs
      odometry := some sample }
    match s.odometry with
    | some previous => t.complete previous false
    | none => t.combine

/-- `accept_contact`. -/
def acceptContact (stamp : ℕ) (inContact : Bool) : Except String PrivateTruthAggregator :=
  if stamp = 0 then .error "native timestamp must be a positive integer"
  else if s.lastContactStamp.any fun last => stamp ≤ last then
    .error "contact timestamps must advance"
  else
    { s with
      lastContactStamp := some stamp
      contactEpochs := s.contactEpochs.set (contactEpoch stamp)
        ((s.contactEpochs.get (contactEpoch stamp)).getD false || inContact) }.combine

/-- `take`: the truth of the pair, `none` where none is complete yet. -/
def take (stamp : ℕ) : Except String (PrivateTruthAggregator × Option LiveTruth) :=
  if stamp = 0 then .error "native timestamp must be a positive integer"
  else
    match s.completed with
    | [] => .ok (s, none)
    | truth :: rest =>
      if truth.simTimestampNs ≠ stamp then
        .error "ground truth does not align with the camera pair"
      else .ok ({ s with completed := rest }, some truth)

end PrivateTruthAggregator

/-! ## 2. The live adapter -/

structure LiveAdapter where
  adapter : AdapterModel
  truth : PrivateTruthAggregator
  pendingPairStamps : List ℕ

inductive LiveInput where
  | image (stream : CameraStream) (sample : NativeImage)
  | odometry (sample : NativeOdometry)
  | contact (simTimestampNs : ℕ) (inContact : Bool)
  | freeze

abbrev LiveOutput := AdapterOutput Xyz Xyzw

namespace LiveAdapter

variable (rules : VectorRules Xyz Xyzw)

/-- `LiveAdapter.__init__`. -/
def initial (runId : String) (expectedFrames widthPx heightPx : ℕ) : LiveAdapter where
  adapter := .initial runId expectedFrames widthPx heightPx
  truth := .initial
  pendingPairStamps := []

/-- `complete`. -/
def complete (s : LiveAdapter) : Bool := s.adapter.complete

/-- `_release_truth`. -/
def releaseTruth (s : LiveAdapter) : Except String (LiveAdapter × List LiveOutput) :=
  match s.pendingPairStamps with
  | [] => .ok (s, [])
  | stamp :: stamps => do
    let (truth, native) ← s.truth.take stamp
    match native with
    | none => pure ({ s with truth := truth }, [])
    | some native =>
      let (adapter, result) := s.adapter.acceptGroundTruth rules native
      let published ← result
      pure (⟨adapter, truth, stamps⟩, [.groundTruth published])

/-- `accept_image` up to its `_release_truth`. -/
def takeImage (s : LiveAdapter) (stream : CameraStream) (sample : NativeImage) :
    Except String (LiveAdapter × PublicFrame) := do
  let (adapter, result) := s.adapter.acceptFrame stream sample
  let frame ← result
  let stamps :=
    if adapter.cameraPairComplete frame.frameId frame.simTimestampNs then
      s.pendingPairStamps ++ [frame.simTimestampNs]
    else s.pendingPairStamps
  pure (⟨adapter, s.truth, stamps⟩, frame)

/-- **One call**, with what it publishes. -/
def step (s : LiveAdapter) : LiveInput → Except String (LiveAdapter × List LiveOutput)
  | .image stream sample => do
    let (t, frame) ← s.takeImage stream sample
    let (t, output) ← t.releaseTruth rules
    pure (t, .frame frame :: output)
  | .odometry sample => do
    let truth ← s.truth.acceptOdometry sample
    { s with truth := truth }.releaseTruth rules
  | .contact stamp inContact => do
    let truth ← s.truth.acceptContact stamp inContact
    { s with truth := truth }.releaseTruth rules
  | .freeze => do
    let (adapter, result) := s.adapter.freeze
    let _ ← result
    pure ({ s with adapter := adapter }, [])

/-! ## 3. What the live adapter holds -/

variable {rules} {n width height : ℕ} {os ps : List LiveOutput} {s t : LiveAdapter}
  {input : LiveInput} {p q : PrivateTruthAggregator}

/-- The images delivered on a stream. -/
def deliveredOn (x : CameraStream) (is : List LiveInput) : List NativeImage :=
  is.filterMap fun
    | .image stream sample => if stream = x then some sample else none
    | _ => none

/-- **What the live adapter holds**: the adapter's pairs, and more than `b` on one side only, of
    the pairs that wait for a truth and the truths that wait for a pair. -/
structure Live (b n width height : ℕ) (os : List LiveOutput) (s : LiveAdapter) : Prop where
  paired : AdapterModel.Paired n width height os s.adapter
  sound : s.adapter.faultReason = none
  stamps : s.pendingPairStamps = s.adapter.pendingPairs.map Prod.snd
  oneSide : s.pendingPairStamps.length ≤ b ∨ s.truth.completed.length ≤ b

theorem Live.start (runId : String) (n width height : ℕ) :
    Live 0 n width height [] (initial runId n width height) :=
  ⟨.start runId n width height, rfl, rfl, Or.inl (Nat.le_refl 0)⟩

/-! ## 4. Truths and pairs meet -/

theorem completed_of_complete {odometry : NativeOdometry} {inContact : Bool}
    (h : p.complete odometry inContact = .ok q) : q.completed.length = p.completed.length + 1 := by
  unfold PrivateTruthAggregator.complete at h
  split at h
  · cases h
  · obtain rfl := Except.ok.inj h
    exact List.length_append

/-- At most one truth is completed at a time. -/
theorem completed_of_combine (h : p.combine = .ok q) :
    q.completed.length ≤ p.completed.length + 1 := by
  unfold PrivateTruthAggregator.combine at h
  split at h
  · obtain rfl := Except.ok.inj h
    omega
  · split at h
    · have hlength := completed_of_complete h
      exact Nat.le_of_eq hlength
    · split at h
      · have hlength := completed_of_complete h
        exact Nat.le_of_eq hlength
      · obtain rfl := Except.ok.inj h
        omega

theorem completed_of_acceptOdometry {sample : NativeOdometry} (h : p.acceptOdometry sample = .ok q)
    : q.completed.length ≤ p.completed.length + 1 := by
  unfold PrivateTruthAggregator.acceptOdometry at h
  split at h
  · cases h
  · split at h
    · cases h
    · split at h
      · cases h
      · dsimp only at h
        split at h
        · have hlength := completed_of_complete h
          exact Nat.le_of_eq hlength
        · have hlength := completed_of_combine h
          exact hlength

theorem completed_of_acceptContact {stamp : ℕ} {inContact : Bool}
    (h : p.acceptContact stamp inContact = .ok q) :
    q.completed.length ≤ p.completed.length + 1 := by
  unfold PrivateTruthAggregator.acceptContact at h
  split at h
  · cases h
  · split at h
    · cases h
    · have hlength := completed_of_combine h
      exact hlength

/-- A truth that is taken is the oldest one, with the pair's timestamp. -/
theorem take_ok {stamp : ℕ} {native : Option LiveTruth} (h : p.take stamp = .ok (q, native)) :
    (native = none → q.completed = []) ∧ native.toList ++ q.completed = p.completed := by
  unfold PrivateTruthAggregator.take at h
  split at h
  · cases h
  · split at h
    · rename_i hnil
      obtain ⟨rfl, rfl⟩ := Prod.mk.inj (Except.ok.inj h)
      exact ⟨fun _ => hnil, rfl⟩
    · rename_i truth rest hcons
      split at h
      · cases h
      · obtain ⟨rfl, rfl⟩ := Prod.mk.inj (Except.ok.inj h)
        exact ⟨nofun, hcons.symm⟩

theorem acceptFrame_ok {a c : AdapterModel} {stream : CameraStream} {sample : NativeImage}
    {frame : PublicFrame} (h : a.acceptFrame stream sample = (c, .ok frame)) :
    a.closed = none ∧ a.acceptFrameOpen stream sample = (c, .ok frame) := by
  unfold AdapterModel.acceptFrame at h
  split at h
  · cases (Prod.mk.inj h).2
  · rename_i hopen
    refine ⟨hopen, ?_⟩
    rcases ha : a.acceptFrameOpen stream sample with ⟨d, r⟩
    rw [ha] at h
    cases r with
    | ok f => exact h
    | error reason => cases (Prod.mk.inj h).2

theorem acceptGroundTruth_ok {a c : AdapterModel} {native : LiveTruth}
    {truth : PublicGroundTruth Xyz Xyzw} (h : a.acceptGroundTruth rules native = (c, .ok truth)) :
    a.acceptGroundTruthOpen rules native = (c, .ok truth) := by
  unfold AdapterModel.acceptGroundTruth at h
  split at h
  · cases (Prod.mk.inj h).2
  · rcases ha : a.acceptGroundTruthOpen rules native with ⟨d, r⟩
    rw [ha] at h
    cases r with
    | ok f => exact h
    | error reason => cases (Prod.mk.inj h).2

/-- **The release brings a pair and its truth together**, where both wait. -/
theorem Live.releaseTruth (h : Live 1 n width height os s)
    (hr : s.releaseTruth rules = .ok (t, ps)) :
    Live 0 n width height (os ++ ps) t ∧ ∀ x, framesOf x ps = [] := by
  unfold LiveAdapter.releaseTruth at hr
  split at hr
  · rename_i hnil
    obtain ⟨rfl, rfl⟩ := Prod.mk.inj (Except.ok.inj hr)
    rw [List.append_nil]
    exact ⟨{ h with oneSide := Or.inl (by rw [hnil, List.length_nil]) }, fun _ => rfl⟩
  · rename_i stamp stamps hstamps
    obtain ⟨⟨truth, native⟩, htake, hr⟩ := bind_ok hr
    obtain ⟨hnone, hcompleted⟩ := take_ok htake
    cases native with
    | none =>
      obtain ⟨rfl, rfl⟩ := Prod.mk.inj (Except.ok.inj hr)
      rw [List.append_nil]
      refine ⟨{ h with oneSide := Or.inr ?_ }, fun _ => rfl⟩
      rw [hnone rfl, List.length_nil]
    | some native =>
      dsimp only at hr
      obtain ⟨published, hpublished, hr⟩ := bind_ok hr
      obtain ⟨rfl, rfl⟩ := Prod.mk.inj (Except.ok.inj hr)
      have haccept : s.adapter.acceptGroundTruth rules native =
          ((s.adapter.acceptGroundTruth rules native).1, .ok published) := by
        rw [← hpublished]
      have hopen := acceptGroundTruth_ok haccept
      obtain ⟨-, -, -, -, -, hfault, hpending, -⟩ := AdapterModel.acceptGroundTruthOpen_ok hopen
      refine ⟨⟨(h.paired.addTruth hopen).1, hfault.trans h.sound, ?_, ?_⟩, fun _ => rfl⟩
      · show stamps = _
        rw [hpending, List.map_tail, ← h.stamps, hstamps, List.tail_cons]
      · have hlength := congrArg List.length hcompleted
        have hone := h.oneSide
        rw [hstamps] at hone
        simp only [Option.toList_some, List.length_append, List.length_cons] at hlength hone ⊢
        omega

/-- **An image makes one more pair at most**, and its frame is published. -/
theorem Live.takeImage (h : Live 0 n width height os s) {stream : CameraStream}
    {sample : NativeImage} {frame : PublicFrame} (ht : s.takeImage stream sample = .ok (t, frame)) :
    Live 1 n width height (os ++ [AdapterOutput.frame frame]) t ∧ frame.stream = stream ∧
      frame.native = sample ∧ s.adapter.closed = none ∧
      FrameFits n width height os stream sample := by
  unfold LiveAdapter.takeImage at ht
  rcases ha : s.adapter.acceptFrame stream sample with ⟨c, r⟩
  rw [ha] at ht
  cases r with
  | error reason => cases ht
  | ok f =>
  obtain ⟨rfl, rfl⟩ := Prod.mk.inj (Except.ok.inj ht)
  obtain ⟨hopen, haccepted⟩ := acceptFrame_ok ha
  obtain ⟨-, -, -, -, -, hadd⟩ := AdapterModel.acceptFrameOpen_ok.mp haccepted
  obtain ⟨hpaired, hstream, hnative⟩ := h.paired.addFrame haccepted
  obtain ⟨hframe, -, -, hfault, -, -, -, -, hpending⟩ := AdapterModel.addFrame_eq hadd
  have hnumber : f.frameId = (framesOf stream os).length := by
    rw [hframe]
    exact h.paired.accepted stream
  -- the pairs before have smaller numbers
  have hold : s.adapter.pendingPairs.contains (f.frameId, f.simTimestampNs) = false := by
    rw [Bool.eq_false_iff, ne_eq, List.contains_iff_mem, h.paired.pending,
      ← h.paired.outputs.pairsOf_eq stream]
    intro hmem
    obtain ⟨a, ha, heq⟩ := List.mem_map.mp (List.mem_of_mem_drop hmem)
    obtain ⟨k, hk⟩ := List.getElem?_of_mem (List.mem_of_mem_take ha)
    have hid := h.paired.outputs.numbered _ k a hk
    have hlt := (List.getElem?_eq_some_iff.mp hk).1
    have hid' := congrArg Prod.fst heq
    dsimp only at hid'
    omega
  have hone := h.oneSide
  refine ⟨⟨hpaired, hfault.trans h.sound, ?_, ?_⟩, hstream, hnative, hopen,
    (h.paired.frame_fits hopen).mp ⟨_, _, haccepted⟩⟩
  · dsimp only
    rw [AdapterModel.cameraPairComplete, hpending]
    split
    · rw [if_neg (by rw [hold]; exact Bool.false_ne_true)]
      exact h.stamps
    · rw [if_pos (by rw [List.contains_iff_mem]; simp), List.map_append, h.stamps]
      rfl
  · dsimp only
    split
    · rw [List.length_append, List.length_singleton]
      omega
    · omega

theorem Live.step (h : Live 0 n width height os s) (hs : s.step rules input = .ok (t, ps)) :
    Live 0 n width height (os ++ ps) t ∧
    ∀ x, (framesOf x ps).map PublicFrame.native = deliveredOn x [input] := by
  cases input with
  | image stream sample =>
    obtain ⟨⟨u, frame⟩, hu, hs⟩ := bind_ok hs
    obtain ⟨⟨v, output⟩, hv, hs⟩ := bind_ok hs
    obtain ⟨rfl, rfl⟩ := Prod.mk.inj (Except.ok.inj hs)
    obtain ⟨hloaded, hstream, hnative, -⟩ := h.takeImage hu
    obtain ⟨hlive, hnone⟩ := hloaded.releaseTruth hv
    rw [List.append_assoc] at hlive
    refine ⟨hlive, fun x => ?_⟩
    have hcons : framesOf x ((.frame frame : LiveOutput) :: output) =
        framesOf x [(.frame frame : LiveOutput)] ++ framesOf x output :=
      framesOf_append x [_] output
    rw [hcons, hnone, List.append_nil, framesOf_frame, hstream]
    by_cases hx : stream = x
    · simp [deliveredOn, hx, hnative]
    · simp [deliveredOn, hx]
  | odometry sample =>
    obtain ⟨truth, htruth, hs⟩ := bind_ok hs
    have hlength := completed_of_acceptOdometry htruth
    have hone := h.oneSide
    have hloaded : Live 1 n width height os { s with truth := truth } :=
      { h with oneSide := by dsimp only; omega }
    obtain ⟨hlive, hnone⟩ := hloaded.releaseTruth hs
    exact ⟨hlive, fun x => by rw [hnone]; rfl⟩
  | contact stamp inContact =>
    obtain ⟨truth, htruth, hs⟩ := bind_ok hs
    have hlength := completed_of_acceptContact htruth
    have hone := h.oneSide
    have hloaded : Live 1 n width height os { s with truth := truth } :=
      { h with oneSide := by dsimp only; omega }
    obtain ⟨hlive, hnone⟩ := hloaded.releaseTruth hs
    exact ⟨hlive, fun x => by rw [hnone]; rfl⟩
  | freeze =>
    unfold LiveAdapter.step at hs
    obtain ⟨o, ho⟩ := s.adapter.freeze_eq
    rcases hf : s.adapter.freeze with ⟨c, r⟩
    rw [hf] at hs ho
    cases r with
    | error reason => cases hs
    | ok summary =>
      obtain ⟨rfl, rfl⟩ := Prod.mk.inj (Except.ok.inj hs)
      obtain rfl : c = { s.adapter with summary := o } := ho
      rw [List.append_nil]
      exact ⟨⟨{ h.paired with }, h.sound, h.stamps, h.oneSide⟩, fun _ => rfl⟩

/-! ## 5. Runs -/

theorem live_run {runId : String} {n width height : ℕ} {is : List LiveInput}
    (h : Run (Steps (step rules)) (initial runId n width height) is os s) :
    Live 0 n width height os s ∧
      ∀ x, (framesOf x os).map PublicFrame.native = deliveredOn x is := by
  induction h with
  | start => exact ⟨Live.start runId n width height, fun _ => rfl⟩
  | step _ hs ih =>
    obtain ⟨hlive, hframes⟩ := ih.1.step hs
    refine ⟨hlive, fun x => ?_⟩
    rw [framesOf_append, List.map_append, ih.2, hframes]
    exact List.filterMap_append.symm

end LiveAdapter

/-- **Frames and truths are paired one to one and in order.** Of the adapter, for any calls in any
    order: what it published is paired, and is what was delivered while it was open, from the first
    on, and all of that unless it failed; an open adapter takes what fits and fails on what does not
    (`Next`); and the capture is complete iff it has not failed and every stream, and the truths,
    delivered the expected number before it was closed.

    Of the live adapter, for any calls that return: the same, every image it took fits, and no pair
    waits for a truth while a truth waits for a pair. -/
theorem framePairing {V Q : Type} (rules : VectorRules V Q) (liveRules : VectorRules Xyz Xyzw)
    (runId : String) (n width height : ℕ) :
    (∀ is : List (AdapterInput V Q),
      let start := AdapterModel.initial runId n width height
      let fed := feed (AdapterModel.accept rules) start is
      let opened := AdapterModel.openCalls rules start is
      PairedOutputs fed.2 ∧ opened <+: is ∧ AdapterModel.Delivered opened fed.2 fed.1 ∧
      AdapterModel.Next rules n width height fed.2 fed.1 ∧
      (fed.1.complete = true ↔ fed.1.faultReason = none ∧
        (∀ x, (imagesOf x opened).length = n) ∧ (samplesOf opened).length = n)) ∧
    ∀ is os s, Run (Steps (LiveAdapter.step liveRules)) (LiveAdapter.initial runId n width height)
        is os s →
      PairedOutputs os ∧
      (∀ x, (framesOf x os).map PublicFrame.native = LiveAdapter.deliveredOn x is) ∧
      AdapterModel.Next liveRules n width height os s.adapter ∧
      (∀ x sample t ps, s.step liveRules (.image x sample) = .ok (t, ps) →
        s.adapter.closed = none ∧ FrameFits n width height os x sample) ∧
      (s.pendingPairStamps = [] ∨ s.truth.completed = []) ∧
      (s.complete = true ↔
        (∀ x, (LiveAdapter.deliveredOn x is).length = n) ∧ (truthsOf os).length = n) := by
  refine ⟨fun is => ?_, fun is os s h => ?_⟩
  · obtain ⟨hpaired, hdelivered⟩ := AdapterModel.paired_run rules runId n width height is
    exact ⟨hpaired.outputs, AdapterModel.openCalls_prefix _ _ _, hdelivered, hpaired.next rules,
      hpaired.complete_delivered hdelivered⟩
  · obtain ⟨hlive, hframes⟩ := LiveAdapter.live_run h
    refine ⟨hlive.paired.outputs, hframes, hlive.paired.next liveRules, ?_, ?_, ?_⟩
    · intro x sample t ps hs
      obtain ⟨⟨u, frame⟩, hu, -⟩ := bind_ok hs
      exact (hlive.takeImage hu).2.2.2
    · exact hlive.oneSide.imp (fun h => List.eq_nil_of_length_eq_zero (Nat.le_zero.mp h))
        fun h => List.eq_nil_of_length_eq_zero (Nat.le_zero.mp h)
    · rw [LiveAdapter.complete, hlive.paired.complete_iff, hlive.sound]
      simp only [← hframes, List.length_map, true_and]

/-- A frame of each stream and its truth, the freeze, and one frame more. -/
def frozenCalls : List (AdapterInput Xyz Xyzw) :=
  let image (stamp : ℕ) : NativeImage := ⟨stamp, 1, 1, "rgb8", 3, [0, 0, 0]⟩
  [.frame .onboard (image 50000000), .frame .observer (image 50000000),
    .groundTruth ⟨50000000, ⟨0, 0, 0⟩, ⟨0, 0, 0, 1⟩, ⟨0, 0, 0⟩, ⟨0, 0, 0⟩, false⟩, .freeze,
    .frame .onboard (image 100000000)]

/-- **A frozen adapter stays complete**, whatever else is delivered to it. -/
theorem capture_complete_frozen : ¬ ((feed (AdapterModel.accept exactVectors)
      (AdapterModel.initial "run" 1 1 1) frozenCalls).1.complete = true ↔
    ∀ x, (imagesOf x frozenCalls).length = 1) := by
  have hcomplete : (feed (AdapterModel.accept exactVectors)
      (AdapterModel.initial "run" 1 1 1) frozenCalls).1.complete = true := by decide +kernel
  have hdelivered : (imagesOf .onboard frozenCalls).length = 2 := by decide +kernel
  intro h
  have hone := h.mp hcomplete .onboard
  omega

end DroneSim
