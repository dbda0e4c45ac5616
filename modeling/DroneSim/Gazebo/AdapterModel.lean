/-
  File:      DroneSim/Gazebo/AdapterModel.lean
  Subject:   Two camera streams and their frame truths (ros_adapter/model.py, AdapterModel).

  Each camera stream numbers its frames. The adapter keeps the frames whose counterpart has not
  come, pairs a frame with its counterpart when that comes, and lets one ground truth out for each
  pair, in the order of the pairs. A sample that does not fit raises, and the first fault stays.

  * `CameraSequence` -- one stream: `preflight` checks a sample, `accept` numbers it;
  * `acceptFrame`, `acceptGroundTruth`, `freeze` -- the calls of the adapter, with the latch around
    them;
  * `accept` -- one call, with what it publishes.
-/
import DroneSim.Gazebo.PayloadTracker
import Mathlib.Logic.Function.Basic

namespace DroneSim

open Library

variable {V Q : Type}

/-! ## 1. Data -/

/-- `_STREAMS`. -/
inductive CameraStream where
  | onboard
  | observer
  deriving DecidableEq, Repr

def CameraStream.name : CameraStream → String
  | onboard => "onboard"
  | observer => "observer"

/-- `other_stream`. -/
def CameraStream.other : CameraStream → CameraStream
  | onboard => observer
  | observer => onboard

/-- `_FRAME_INTERVAL_NS`. -/
def frameIntervalNs : ℕ := 50000000

/-- `_UNMATCHED_FRAME_CAPACITY`. -/
def unmatchedFrameCapacity : ℕ := 20

/-- `_PENDING_PAIR_CAPACITY`. -/
def pendingPairCapacity : ℕ := 20

structure NativeImage where
  simTimestampNs : ℕ
  width : ℕ
  height : ℕ
  encoding : String
  step : ℕ
  data : List UInt8
  deriving DecidableEq

structure PublicFrame where
  runId : String
  stream : CameraStream
  frameId : ℕ
  simTimestampNs : ℕ
  headerTimestampNs : ℕ
  width : ℕ
  height : ℕ
  encoding : String
  step : ℕ
  data : List UInt8
  deriving DecidableEq

structure NativeGroundTruth (V Q : Type) where
  simTimestampNs : ℕ
  position : V
  orientation : Q
  linearVelocity : V
  angularVelocity : V
  inContact : Bool

structure PublicGroundTruth (V Q : Type) where
  runId : String
  vehicleId : String
  simTimestampNs : ℕ
  position : V
  orientation : Q
  linearVelocity : V
  angularVelocity : V
  inContact : Bool

structure AdapterSummary where
  onboardFrames : ℕ
  observerFrames : ℕ
  pairedFrames : ℕ
  groundTruthSamples : ℕ
  firstSimTimestampNs : Option ℕ
  lastSimTimestampNs : Option ℕ
  deriving DecidableEq

/-! ## 2. One camera stream -/

structure CameraSequence where
  runId : String
  stream : CameraStream
  expectedFrames : ℕ
  widthPx : ℕ
  heightPx : ℕ
  acceptedFrames : ℕ
  firstSimTimestampNs : Option ℕ
  lastSimTimestampNs : Option ℕ
  faultReason : Option String

namespace CameraSequence

/-- `CameraSequence.__init__`. -/
def initial (runId : String) (stream : CameraStream) (expectedFrames widthPx heightPx : ℕ) :
    CameraSequence where
  runId := runId
  stream := stream
  expectedFrames := expectedFrames
  widthPx := widthPx
  heightPx := heightPx
  acceptedFrames := 0
  firstSimTimestampNs := none
  lastSimTimestampNs := none
  faultReason := none

/-- `complete`. -/
def complete (s : CameraSequence) : Bool :=
  s.faultReason.isNone && s.acceptedFrames == s.expectedFrames

/-- `_validate_native_image`, as the reason it raises with. -/
def invalidImage (s : CameraSequence) (sample : NativeImage) : Option String :=
  if sample.simTimestampNs = 0 then some "sim_timestamp_ns must be a positive integer"
  else if sample.width ≠ s.widthPx ∨ sample.height ≠ s.heightPx ∨ sample.encoding ≠ "rgb8" ∨
      sample.step ≠ s.widthPx * 3 ∨ sample.data.length ≠ s.widthPx * s.heightPx * 3 then
    some ("camera sample must be " ++ toString s.widthPx ++ "x" ++ toString s.heightPx ++
      " rgb8 with step " ++ toString (s.widthPx * 3) ++ " and " ++
      toString (s.widthPx * s.heightPx * 3) ++ " immutable bytes")
  else none

/-- The checks of `_preflight`, as the reason they raise with. -/
def refused (s : CameraSequence) (sample : NativeImage) : Option String :=
  match s.invalidImage sample with
  | some reason => some reason
  | none =>
    if s.acceptedFrames = s.expectedFrames then
      some (s.stream.name ++ " camera frame overrun")
    else if s.lastSimTimestampNs.any fun (last : ℕ) =>
        (sample.simTimestampNs : ℤ) - last ≠ frameIntervalNs then
      some (s.stream.name ++ " camera timestamps must advance by exactly " ++
        toString frameIntervalNs ++ " ns")
    else none

/-- `_preflight`: the first refusal stays. -/
def preflight (s : CameraSequence) (sample : NativeImage) : CameraSequence × Except String Unit :=
  match s.faultReason with
  | some fault => (s, .error fault)
  | none =>
    match s.refused sample with
    | none => (s, .ok ())
    | some reason =>
      let fault := s.stream.name ++ " camera sequence faulted: " ++ reason
      ({ s with faultReason := some fault }, .error fault)

/-- `accept`, behind its `_preflight`: the frame gets the next number. -/
def accept (s : CameraSequence) (sample : NativeImage) : CameraSequence × PublicFrame :=
  ({ s with
      firstSimTimestampNs := s.firstSimTimestampNs.or (some sample.simTimestampNs)
      lastSimTimestampNs := some sample.simTimestampNs
      acceptedFrames := s.acceptedFrames + 1 },
    { runId := s.runId
      stream := s.stream
      frameId := s.acceptedFrames
      simTimestampNs := sample.simTimestampNs
      headerTimestampNs := sample.simTimestampNs
      width := sample.width
      height := sample.height
      encoding := sample.encoding
      step := sample.step
      data := sample.data })

end CameraSequence

/-! ## 3. The adapter -/

/-- The state of `AdapterModel`. -/
structure AdapterModel where
  runId : String
  expectedFrames : ℕ
  sequences : CameraStream → CameraSequence
  unmatchedFrames : CameraStream → List PublicFrame
  pendingPairs : List (ℕ × ℕ)
  pairedFrames : ℕ
  groundTruthSamples : ℕ
  firstSimTimestampNs : Option ℕ
  lastSimTimestampNs : Option ℕ
  lastGroundTruthTimestampNs : Option ℕ
  summary : Option AdapterSummary
  faultReason : Option String

inductive AdapterInput (V Q : Type) where
  | frame (stream : CameraStream) (sample : NativeImage)
  | groundTruth (sample : NativeGroundTruth V Q)
  | freeze

inductive AdapterOutput (V Q : Type) where
  | frame (frame : PublicFrame)
  | groundTruth (truth : PublicGroundTruth V Q)

namespace AdapterModel

variable (rules : VectorRules V Q) (s : AdapterModel)

/-- `AdapterModel.__init__`. -/
def initial (runId : String) (expectedFrames widthPx heightPx : ℕ) : AdapterModel where
  runId := runId
  expectedFrames := expectedFrames
  sequences := fun stream => .initial runId stream expectedFrames widthPx heightPx
  unmatchedFrames := fun _ => []
  pendingPairs := []
  pairedFrames := 0
  groundTruthSamples := 0
  firstSimTimestampNs := none
  lastSimTimestampNs := none
  lastGroundTruthTimestampNs := none
  summary := none
  faultReason := none

/-- `complete`. -/
def complete (s : AdapterModel) : Bool :=
  s.faultReason.isNone && (s.sequences .onboard).complete && (s.sequences .observer).complete &&
    s.pairedFrames == s.expectedFrames && s.groundTruthSamples == s.expectedFrames &&
    s.pendingPairs.isEmpty && (s.unmatchedFrames .onboard).isEmpty &&
    (s.unmatchedFrames .observer).isEmpty

/-- What the counterpart at the head of the other stream says against a sample. -/
def mismatch (stream : CameraStream) (sample : NativeImage) : Option String :=
  match (s.unmatchedFrames stream.other).head? with
  | none => none
  | some other =>
    if other.frameId ≠ (s.sequences stream).acceptedFrames then
      some "camera pair IDs do not match"
    else if other.simTimestampNs ≠ sample.simTimestampNs then
      some "camera pair timestamps do not match"
    else none

/-- A frame that fits: it waits for its counterpart, or makes a pair with it. -/
def addFrame (stream : CameraStream) (sample : NativeImage) : AdapterModel × PublicFrame :=
  let (sequence, frame) := (s.sequences stream).accept sample
  let frames := s.unmatchedFrames stream ++ [frame]
  let t := { s with sequences := Function.update s.sequences stream sequence }
  match s.unmatchedFrames stream.other with
  | [] => ({ t with unmatchedFrames := Function.update s.unmatchedFrames stream frames }, frame)
  | _ :: others =>
    ({ t with
        pendingPairs := s.pendingPairs ++ [(frame.frameId, frame.simTimestampNs)]
        unmatchedFrames := Function.update
          (Function.update s.unmatchedFrames stream frames.tail) stream.other others }, frame)

/-- `_accept_frame`. -/
def acceptFrameOpen (stream : CameraStream) (sample : NativeImage) :
    AdapterModel × Except String PublicFrame :=
  if s.pendingPairs.length = pendingPairCapacity then
    (s, .error "camera-pair lookahead buffer is full")
  else if (s.unmatchedFrames stream).length = unmatchedFrameCapacity then
    (s, .error (stream.name ++ " camera lookahead buffer is full"))
  else
    match (s.sequences stream).preflight sample with
    | (sequence, .error reason) =>
      ({ s with sequences := Function.update s.sequences stream sequence }, .error reason)
    | (_, .ok ()) =>
      match s.mismatch stream sample with
      | some reason => (s, .error reason)
      | none =>
        let (t, frame) := s.addFrame stream sample
        (t, .ok frame)

/-- `camera_pair_complete`. -/
def cameraPairComplete (frameId stampNs : ℕ) : Bool :=
  s.pendingPairs.contains (frameId, stampNs)

/-- `_validate_native_ground_truth` and the checks of `_accept_ground_truth`, as the reason they
    raise with. -/
def refusedTruth (sample : NativeGroundTruth V Q) : Option String :=
  if sample.simTimestampNs = 0 then some "sim_timestamp_ns must be a positive integer"
  else if !rules.finiteVector sample.position then
    some "position_xyz values must be finite numbers"
  else if !rules.finiteQuaternion sample.orientation then
    some "orientation_xyzw values must be finite numbers"
  else if !rules.finiteVector sample.linearVelocity then
    some "linear_velocity_xyz values must be finite numbers"
  else if !rules.finiteVector sample.angularVelocity then
    some "angular_velocity_xyz values must be finite numbers"
  else if s.lastGroundTruthTimestampNs.any fun last => sample.simTimestampNs ≤ last then
    some "ground-truth timestamps must increase"
  else
    match s.pendingPairs with
    | [] => some "ground truth requires one aligned camera pair"
    | pair :: _ =>
      if sample.simTimestampNs ≠ pair.2 then
        some "ground truth timestamp does not match camera pair"
      else none

/-- `_accept_ground_truth`. -/
def acceptGroundTruthOpen (sample : NativeGroundTruth V Q) :
    AdapterModel × Except String (PublicGroundTruth V Q) :=
  match s.refusedTruth rules sample with
  | some reason => (s, .error reason)
  | none =>
    ({ s with
        pendingPairs := s.pendingPairs.tail
        pairedFrames := s.pairedFrames + 1
        groundTruthSamples := s.groundTruthSamples + 1
        lastGroundTruthTimestampNs := some sample.simTimestampNs
        firstSimTimestampNs := s.firstSimTimestampNs.or (some sample.simTimestampNs)
        lastSimTimestampNs := some sample.simTimestampNs },
      .ok
        { runId := s.runId
          vehicleId := "iris"
          simTimestampNs := sample.simTimestampNs
          position := sample.position
          orientation := sample.orientation
          linearVelocity := sample.linearVelocity
          angularVelocity := sample.angularVelocity
          inContact := sample.inContact })

/-- `freeze`. -/
def freeze : AdapterModel × Except String AdapterSummary :=
  match s.summary, s.faultReason with
  | some summary, _ => (s, .ok summary)
  | none, some fault => (s, .error fault)
  | none, none =>
    if !s.complete then
      (s, .error "adapter completion requires exactly the expected aligned pairs")
    else
      let summary : AdapterSummary :=
        { onboardFrames := (s.sequences .onboard).acceptedFrames
          observerFrames := (s.sequences .observer).acceptedFrames
          pairedFrames := s.pairedFrames
          groundTruthSamples := s.groundTruthSamples
          firstSimTimestampNs := s.firstSimTimestampNs
          lastSimTimestampNs := s.lastSimTimestampNs }
      ({ s with summary := some summary }, .ok summary)

/-- `_require_open`, as the reason it raises with. -/
def closed : Option String :=
  match s.faultReason with
  | some fault => some fault
  | none => if s.summary.isSome then some "adapter is frozen" else none

/-- The latch around a call: what raises is a fault that stays. -/
def latched {α : Type} : AdapterModel × Except String α → AdapterModel × Except String α
  | (t, .ok value) => (t, .ok value)
  | (t, .error reason) =>
    let fault := "adapter processing fault: " ++ reason
    ({ t with faultReason := some fault }, .error fault)

/-- `accept_frame`. -/
def acceptFrame (stream : CameraStream) (sample : NativeImage) :
    AdapterModel × Except String PublicFrame :=
  match s.closed with
  | some reason => (s, .error reason)
  | none => latched (s.acceptFrameOpen stream sample)

/-- `accept_ground_truth`. -/
def acceptGroundTruth (sample : NativeGroundTruth V Q) :
    AdapterModel × Except String (PublicGroundTruth V Q) :=
  match s.closed with
  | some reason => (s, .error reason)
  | none => latched (s.acceptGroundTruthOpen rules sample)

/-- **One call**: what it publishes, or what it raises with. -/
def accept (input : AdapterInput V Q) : AdapterModel × Except String (List (AdapterOutput V Q)) :=
  match input with
  | .frame stream sample =>
    ((s.acceptFrame stream sample).1, (s.acceptFrame stream sample).2.map fun f => [.frame f])
  | .groundTruth sample =>
    ((s.acceptGroundTruth rules sample).1,
      (s.acceptGroundTruth rules sample).2.map fun g => [.groundTruth g])
  | .freeze => (s.freeze.1, s.freeze.2.map fun _ => [])

end AdapterModel

end DroneSim
