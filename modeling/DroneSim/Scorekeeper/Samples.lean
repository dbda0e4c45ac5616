/-
  File:      DroneSim/Scorekeeper/Samples.lean
  Subject:   What the scorekeeper receives and issues (descent.py, competition.py, vfs.py).

  One structure per message. Timestamps and ids are natural numbers, as the constructors of the
  source demand; a payload's orientation carries its nonzero norm.
-/
import DroneSim.Artifacts.VfsContract

namespace DroneSim

/-! ## 1. Physical samples -/

structure GroundTruthSample where
  runId : String
  simTimestampNs : ℕ
  positionXyz : Xyz
  inContact : Bool
  deriving DecidableEq, Repr

structure PayloadStateSample where
  runId : String
  simTimestampNs : ℕ
  arucoId : ℕ
  positionXyz : Xyz
  orientationXyzw : Xyzw
  linearVelocityXyz : Xyz
  grounded : Bool
  attached : Bool
  orientation_ne : orientationXyzw.normSq ≠ 0
  deriving DecidableEq

structure VehicleStatusSample where
  runId : String
  simTimestampNs : ℕ
  sequenceId : ℕ
  armed : Bool
  mode : String
  failsafeActive : Bool
  deriving DecidableEq, Repr

structure PayloadEventSample where
  runId : String
  simTimestampNs : ℕ
  eventId : ℕ
  arucoId : ℕ
  action : String
  state : String
  deriving DecidableEq, Repr

/-! ## 2. Mission events and check requests -/

/-- A lifecycle event of the mission; `detail` is the JSON text of a check request. -/
structure MissionEventSample where
  runId : String
  simTimestampNs : ℕ
  eventId : ℕ
  phase : String
  state : String
  detail : String
  deriving DecidableEq, Repr

/-- The event announces the start of a scored phase. -/
def MissionEventSample.startsPhase (e : MissionEventSample) : Bool :=
  e.state == "STARTED" && (e.phase == "FM1" || e.phase == "FM2" || e.phase == "FM3")

/-- A decoded JSON text. -/
inductive Json where
  | null
  | bool (b : Bool)
  | num (lexeme : String)
  | str (s : String)
  | arr (items : List Json)
  | obj (fields : List (String × Json))

/-- What `json.loads` answers: a value, or nothing where it raises. -/
abbrev JsonLoads := String → Option Json

/-- The value a decoded object holds under `key`: the last of equal keys. -/
def Json.field (fields : List (String × Json)) (key : String) : Option Json :=
  (fields.reverse.find? fun p => p.1 = key).map Prod.snd

/-- The checkpoint and request id of a check request, `none` where the source raises and reports
    `invalid_request_detail`: no JSON, no object with exactly these two keys (a list or a string
    whose members are the two keys fails at the subscript), a value that is no string, an empty
    request id. -/
def requestDetail (loads : JsonLoads) (detail : String) : Option (String × String) :=
  match loads detail with
  | some (.obj fields) =>
    if fields.all fun p => p.1 = "checkpoint" || p.1 = "request_id" then
      match Json.field fields "checkpoint", Json.field fields "request_id" with
      | some (.str checkpoint), some (.str requestId) =>
        if requestId = "" then none else some (checkpoint, requestId)
      | _, _ => none
    else none
  | _ => none

/-! ## 3. What the judge issues -/

inductive JudgeOutcome where
  | approved | rejected | error
  deriving DecidableEq, Repr

inductive AttemptState where
  | waiting | active | paused | approved | finished
  deriving DecidableEq, Repr

structure JudgeDecision where
  runId : String
  simTimestampNs : ℕ
  decisionId : ℕ
  requestId : String
  requestEventId : ℕ
  phase : String
  checkpoint : String
  outcome : JudgeOutcome
  eligibleArucoIds : List ℕ
  activeElapsedNs : ℤ
  reasonCode : String
  evidenceRefs : List String
  deriving DecidableEq, Repr

structure AttemptStatus where
  runId : String
  simTimestampNs : ℕ
  sequenceId : ℕ
  state : AttemptState
  activeElapsedNs : ℤ
  approvalTimestampNs : ℕ
  started : Bool
  deriving DecidableEq, Repr

/-! ## 4. Freshness -/

/-- `0 <= stamp - sampled <= window`. -/
def fresh (stamp sampled window : ℕ) : Bool := decide (sampled ≤ stamp ∧ stamp ≤ sampled + window)

theorem fresh_iff {stamp sampled window : ℕ} :
    fresh stamp sampled window = true ↔ sampled ≤ stamp ∧ stamp ≤ sampled + window := by
  simp [fresh]

/-- `_STATUS_FRESHNESS_NS`. -/
def statusFreshnessNs : ℕ := 500000000

/-- The window of the truth and payload samples a check may use. -/
def evidenceFreshnessNs : ℕ := 50000000

end DroneSim
