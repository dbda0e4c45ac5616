/-
  File:      DroneSim/Comp2026/FlightState.lean
  Subject:   Flight observations and the companion's authority (control/flight_state.py).

  The calls of a `FlightState` on a state with its fields. The clock may be read up to three times
  in a call and each reading may raise; a call may come from inside an output that the authority
  guards. Both are part of the call's surroundings, `CallSite`.
-/
import DroneSim.Library.Acting
import DroneSim.Library.Double
import DroneSim.Library.PyText
import Mathlib.Logic.Function.Basic

namespace DroneSim

open Library Library.Attempt Library.Acting

/-! ## 1. Observations -/

inductive Authority where
  | companion
  | pilot
  | fcFailsafe
  | unknown
  deriving DecidableEq, Repr

/-- `_FIELD_NAMES`. -/
inductive FlightField where
  | heartbeat
  | mode
  | location
  | velocity
  | attitude
  | landedState
  | armed
  | home
  | rcInput
  | range
  | failsafe
  deriving DecidableEq, Repr

structure RcInput where
  channel : ℤ
  pwm : ℤ
  healthy : Bool
  slot : Option String
  deriving DecidableEq, Repr

/-- The values of observations. `composite` is any other value, with whether `_value_is_valid`
    accepts it. -/
inductive FlightValue where
  | missing
  | text (s : String)
  | flag (b : Bool)
  | integer (n : ℤ)
  | decimal (x : ℚ)
  | nonfinite
  | rcInput (value : RcInput)
  | pair (first second : FlightValue)
  | composite (valid : Bool) (id : ℕ)
  deriving DecidableEq, Repr

/-- A floating-point number; `none` is one that is not finite. -/
abbrev FloatValue : Type := Option ℚ

structure Observation where
  value : FlightValue
  receivedAt : ℚ
  sequence : ℤ
  deriving DecidableEq, Repr

/-- `is_fresh`. -/
def isFresh (observation : Observation) (now : FloatValue) (maxAge : ℚ) : Bool :=
  match now.bind fun now => double (now - observation.receivedAt) with
  | some age => decide (0 ≤ maxAge) && decide (0 ≤ age) && decide (age ≤ maxAge)
  | none => false

structure SourceIdentity where
  systemId : ℤ
  componentId : ℤ
  deriving DecidableEq, Repr

structure RcModeBand where
  slot : String
  minimumPwm : ℤ
  maximumPwm : ℤ
  mode : String
  deriving DecidableEq, Repr

/-- What a call raises. -/
inductive FlightError where
  | valueError (reason : String)
  | overflowError (reason : String)
  | permissionError (reason : String)
  | raised (error : String)
  deriving DecidableEq, Repr

/-- `_value_is_valid`. An integer that no float is near raises. -/
def valueIsValid : FlightValue → Except FlightError Bool
  | .missing => .ok false
  | .text _ => .ok true
  | .flag _ => .ok true
  | .integer n =>
    if isFloatable n then .ok true
    else .error (.overflowError "int too large to convert to float")
  | .decimal _ => .ok true
  | .nonfinite => .ok false
  | .rcInput _ => .ok true
  | .pair first second =>
    match valueIsValid first with
    | .ok true => valueIsValid second
    | other => other
  | .composite valid _ => .ok valid

/-- `all(_value_is_valid(value) for value in values.values())`. -/
def allValid : List (FlightField × FlightValue) → Except FlightError Bool
  | [] => .ok true
  | (_, value) :: values =>
    match valueIsValid value with
    | .ok true => allValid values
    | other => other

/-! ## 2. Modes -/

/-- What the constructor of a `FlightState` accepts; `upper` is `str.upper`. -/
structure FlightConfig where
  source : SourceIdentity
  freshnessBounds : FlightField → ℚ
  rcChannel : ℤ
  rcModeMapping : List RcModeBand
  upper : String → String
  bounded : ∀ field, 0 < freshnessBounds field
  channel : 1 ≤ rcChannel
  nonempty : rcModeMapping ≠ []
  slots : (rcModeMapping.map RcModeBand.slot).Nodup
  named : ∀ band ∈ rcModeMapping, band.slot ≠ "" ∧ strip band.mode ≠ ""
  pulses : ∀ band ∈ rcModeMapping, 0 ≤ band.minimumPwm ∧ band.minimumPwm ≤ band.maximumPwm
  apart : rcModeMapping.Pairwise fun low high =>
    ¬ (high.minimumPwm ≤ low.maximumPwm ∧ low.minimumPwm ≤ high.maximumPwm)
  guided : ∃ band ∈ rcModeMapping, upper (strip band.mode) = "GUIDED"
  takeover : ∃ band ∈ rcModeMapping, upper (strip band.mode) ∈ ["LOITER", "STABILIZE"]

/-- `_normalize_mode`; `none` is a mode that is not a string, nor named by one. -/
def FlightConfig.normalizeMode (c : FlightConfig) (mode : Option String) : Option String :=
  mode.bind fun candidate => if strip candidate = "" then none else some (c.upper (strip candidate))

/-- `_slot_for_pwm`. -/
def FlightConfig.slotForPwm (c : FlightConfig) (pwm : ℤ) : Option RcModeBand :=
  c.rcModeMapping.find? fun band => band.minimumPwm ≤ pwm ∧ pwm ≤ band.maximumPwm

/-- The band of a slot. -/
def FlightConfig.bandOf (c : FlightConfig) (slot : String) : Option RcModeBand :=
  c.rcModeMapping.find? fun band => band.slot = slot

/-! ## 3. The state -/

/-- `_expected_mode`: the token, the mode, and the permission generation it was registered in. -/
structure ExpectedMode where
  token : ℕ
  mode : String
  generation : ℕ
  deriving DecidableEq, Repr

structure CommandPermission where
  generation : ℕ
  deriving DecidableEq, Repr

structure FlightState where
  observations : FlightField → Option Observation
  latestUpdates : FlightField → Option (ℚ × ℤ)
  invalidationGenerations : FlightField → ℕ
  authority : Authority
  commandsSuspended : Bool
  attemptStarted : Bool
  attemptRevoked : Bool
  expectedMode : Option ExpectedMode
  nextExpectedModeToken : ℕ
  permissionGeneration : ℕ
  rcBaselineSlot : Option String
  lastHealthyRc : Option Observation
  rcEdge : Option Observation

/-- What a call does with the modes it observes, in the order in which it does it. -/
inductive FlightNote where
  | modeObserved (value : FlightValue)
  | expectedAccepted (value : FlightValue)
  | acquired (mode : Option FlightValue)
  deriving DecidableEq, Repr

/-- A reading of the clock. -/
abbrev ClockReading : Type := Except String FloatValue

/-- The readings of the clock in a call, and whether the calling thread is inside an output. -/
structure CallSite where
  first : ClockReading
  second : ClockReading
  third : ClockReading
  inOutput : Bool

/-- What comes with an observation. -/
structure Metadata where
  receivedAt : FloatValue
  sequence : ℤ
  source : SourceIdentity
  deriving DecidableEq, Repr

namespace FlightState

/-- `FlightState(...)`. -/
def created : FlightState where
  observations := fun _ => none
  latestUpdates := fun _ => none
  invalidationGenerations := fun _ => 0
  authority := .unknown
  commandsSuspended := true
  attemptStarted := false
  attemptRevoked := false
  expectedMode := none
  nextExpectedModeToken := 1
  permissionGeneration := 0
  rcBaselineSlot := none
  lastHealthyRc := none
  rcEdge := none

/-- A call under way. -/
abbrev Op : Type → Type := Action FlightState FlightNote FlightError

/-- `self._clock()`. -/
def readClock (reading : ClockReading) : Op FloatValue :=
  match reading with
  | .ok now => pure now
  | .error error => throw (.raised error)

section

variable (c : FlightConfig) (w : CallSite) (s : FlightState)

/-! ## 4. Storing -/

/-- `_is_newer_locked`. -/
def isNewer (names : List FlightField) (receivedAt : ℚ) (sequence : ℤ) : Bool :=
  names.all fun field =>
    match s.latestUpdates field with
    | some (at', previous) => !(decide (sequence ≤ previous) || decide (receivedAt < at'))
    | none => true

/-- The state with the observations stored. -/
def withObservations (values : List (FlightField × FlightValue)) (receivedAt : ℚ) (sequence : ℤ)
    (s : FlightState) : FlightState :=
  { s with
    observations := fun field =>
      match values.lookup field with
      | some value => some ⟨value, receivedAt, sequence⟩
      | none => s.observations field
    latestUpdates := fun field =>
      match values.lookup field with
      | some _ => some (receivedAt, sequence)
      | none => s.latestUpdates field }

/-- What is stored for a field among the values. -/
theorem observations_of_some {values : List (FlightField × FlightValue)} {receivedAt : ℚ}
    {sequence : ℤ} {s : FlightState} {field : FlightField} {value : FlightValue}
    (h : values.lookup field = some value) :
    (withObservations values receivedAt sequence s).observations field =
      some ⟨value, receivedAt, sequence⟩ := by
  unfold withObservations
  dsimp only
  rw [h]

/-- What stays for a field that is not among the values. -/
theorem observations_of_none {values : List (FlightField × FlightValue)} {receivedAt : ℚ}
    {sequence : ℤ} {s : FlightState} {field : FlightField} (h : values.lookup field = none) :
    (withObservations values receivedAt sequence s).observations field = s.observations field := by
  unfold withObservations
  dsimp only
  rw [h]

/-- Notes the mode among the stored values. -/
def noteMode (values : List (FlightField × FlightValue)) : Op Unit :=
  match values.lookup .mode with
  | some value => perform (.modeObserved value)
  | none => pure ()

/-- `update_many`. -/
def updateMany (values : List (FlightField × FlightValue)) (m : Metadata) : Op Bool :=
  if values = [] then throw (.valueError "values must contain at least one observation field")
  else if m.source ≠ c.source ∨ m.sequence < 0 then return false
  else
    match m.receivedAt with
    | none => return false
    | some receivedAt => do
      let valid ← ofExcept (allValid values)
      let s ← current
      if valid = false ∨ s.isNewer (values.map Prod.fst) receivedAt m.sequence = false then
        return false
      else do
        update (withObservations values receivedAt m.sequence)
        noteMode values
        return true

/-- `update`. -/
def updateField (field : FlightField) (value : FlightValue) (m : Metadata) : Op Bool :=
  updateMany c [(field, value)] m

/-! ## 5. Authority -/

/-- `_raise_if_reentrant_output_revoked_locked`. -/
def raiseIfReentrant : Op Unit :=
  if w.inOutput then throw (.permissionError "authority changed during output preparation")
  else pure ()

/-- The state with the authority revoked. -/
def revoked : FlightState :=
  { s with
    expectedMode := none
    commandsSuspended := true
    authority := if s.authority = .pilot ∨ s.authority = .fcFailsafe then s.authority else .unknown
    attemptRevoked := s.attemptRevoked || s.attemptStarted
    permissionGeneration := s.permissionGeneration + 1 }

/-- `_revoke_to_unknown_locked`. -/
def revokeToUnknown : Op Unit := do
  update revoked
  raiseIfReentrant w

/-- The state under another authority. -/
def taken (authority : Authority) (s : FlightState) : FlightState :=
  { s with
    authority := authority
    commandsSuspended := true
    attemptRevoked := true
    permissionGeneration := s.permissionGeneration + 1 }

/-- The edge of the RC switch and the mode observed after it name one takeover band. -/
def corroborated (edge mode : Observation) (now : FloatValue) : Bool :=
  isFresh mode now (c.freshnessBounds .mode) && isFresh edge now (c.freshnessBounds .rcInput) &&
    decide (edge.receivedAt ≤ mode.receivedAt) &&
    match edge.value with
    | .rcInput rc =>
      rc.healthy &&
        match rc.slot.bind c.bandOf with
        | some band =>
          decide (c.upper band.mode ∈ ["LOITER", "STABILIZE"]) &&
            decide (mode.value = .text (c.upper band.mode))
        | none => false
    | _ => false

/-- `_classify_pilot_if_corroborated_locked`. -/
def classifyPilot (reading : ClockReading) : Op Unit := do
  let s ← current
  if s.authority = .fcFailsafe then pure ()
  else
    match s.rcEdge, s.observations .mode with
    | some edge, some mode => do
      let now ← readClock reading
      if corroborated c edge mode now then do
        update (taken .pilot)
        raiseIfReentrant w
      else pure ()
    | _, _ => pure ()

/-- The observed mode is the one that a command announced, and the announcement still counts. -/
def expectationMet (observation : Observation) : Bool :=
  match s.expectedMode with
  | some expected =>
    decide (.text expected.mode = observation.value) &&
      decide (expected.generation = s.permissionGeneration) &&
      decide (s.authority = .companion) && !s.commandsSuspended
  | none => false

/-- `previous is None or previous.value == observation.value`. -/
def sameMode (previous : Option Observation) (observation : Observation) : Bool :=
  match previous with
  | some previous => decide (previous.value = observation.value)
  | none => true

/-- What `_process_mode_locked` does with a fresh observation. -/
def classifyMode (previous : Option Observation) (observation : Observation) : Op Unit := do
  classifyPilot c w w.second
  let s ← current
  if s.authority = .pilot then update fun s => { s with expectedMode := none }
  else if s.expectationMet observation then do
    update fun s => { s with expectedMode := none }
    perform (.expectedAccepted observation.value)
  else if sameMode previous observation then pure ()
  else do
    revokeToUnknown w
    classifyPilot c w w.third

/-- `_process_mode_locked`. -/
def processMode (previous : Option Observation) : Op Unit := do
  let s ← current
  match s.observations .mode with
  | none => throw (.raised "'mode'")
  | some observation => do
    let now ← readClock w.first
    if isFresh observation now (c.freshnessBounds .mode) then
      classifyMode c w previous observation
    else pure ()

/-- The fields that `acquire_initial_companion_authority` requires. -/
def requiredFields : List FlightField := [.heartbeat, .landedState, .armed, .rcInput]

/-- The evidence on the ground is there and fresh. -/
def groundEvidence (now : FloatValue) : Bool :=
  requiredFields.all fun field =>
    match s.observations field with
    | some observation => isFresh observation now (c.freshnessBounds field)
    | none => false

/-- The RC switch is healthy and rests in the GUIDED band. -/
def guidedBaseline (value : FlightValue) : Bool :=
  match value with
  | .rcInput rc =>
    rc.healthy && decide (rc.slot.isSome) && decide (s.rcBaselineSlot = rc.slot) &&
      match s.rcBaselineSlot.bind c.bandOf with
      | some band => decide (c.normalizeMode (some band.mode) = some "GUIDED")
      | none => false
  | _ => false

/-- `MAV_LANDED_STATE_ON_GROUND`. -/
def onGround : ℤ := 1

/-- What the acquisition asks of the evidence. -/
def mayAcquire (now : FloatValue) : Bool :=
  !(s.attemptStarted || s.attemptRevoked) && s.groundEvidence c now &&
    decide ((s.observations .landedState).map Observation.value = some (.integer onGround)) &&
    decide ((s.observations .armed).map Observation.value = some (.flag false)) &&
    match s.observations .rcInput with
    | some rc => s.guidedBaseline c rc.value
    | none => false

/-- The state with the attempt started. -/
def acquired : FlightState :=
  { s with
    attemptStarted := true
    authority := .companion
    commandsSuspended := false
    permissionGeneration := s.permissionGeneration + 1 }

/-- The given time, or the clock's. -/
def sampledAt (given : Option FloatValue) : Op FloatValue :=
  match given with
  | some now => pure now
  | none => readClock w.first

/-- `acquire_initial_companion_authority`. -/
def acquireInitialCompanionAuthority (given : Option FloatValue) : Op Bool := do
  let now ← sampledAt w given
  let s ← current
  if s.mayAcquire c now then do
    update acquired
    perform (.acquired ((s.observations .mode).map Observation.value))
    return true
  else return false

/-! ## 6. Expected modes -/

/-- `register_expected_mode`. -/
def registerExpectedMode (mode : Option String) : Op ℕ :=
  match c.normalizeMode mode with
  | none => throw (.valueError "expected mode must be a non-empty mode name")
  | some normalized => do
    let s ← current
    update fun s => { s with
      nextExpectedModeToken := s.nextExpectedModeToken + 1
      expectedMode := some ⟨s.nextExpectedModeToken, normalized, s.permissionGeneration⟩ }
    return s.nextExpectedModeToken

/-- `cancel_expected_mode`. -/
def cancelExpectedMode (token : ℕ) : Op Bool := do
  let s ← current
  if s.expectedMode.map ExpectedMode.token = some token then do
    update fun s => { s with expectedMode := none }
    return true
  else return false

/-! ## 7. Observing -/

/-- `observe_mode`. -/
def observeMode (mode : Option String) (m : Metadata) : Op Bool :=
  match c.normalizeMode mode with
  | none => return false
  | some normalized => do
    let s ← current
    let accepted ← updateField c .mode (.text normalized) m
    if accepted then do
      processMode c w (s.observations .mode)
      return true
    else return false

/-- The fields are removed and the attempts to store them again outdated. -/
def withInvalidated (names : List FlightField) (receivedAt : ℚ) (sequence : ℤ) (s : FlightState) :
    FlightState :=
  { s with
    observations := fun field => if field ∈ names then none else s.observations field
    latestUpdates := fun field =>
      if field ∈ names then some (receivedAt, sequence) else s.latestUpdates field
    invalidationGenerations := fun field =>
      if field ∈ names then s.invalidationGenerations field + names.count field
      else s.invalidationGenerations field }

/-- Without RC evidence there is neither an edge nor a baseline. -/
def withoutRc (names : List FlightField) (s : FlightState) : FlightState :=
  if .rcInput ∈ names then { s with rcEdge := none, lastHealthyRc := none, rcBaselineSlot := none }
  else s

/-- `_invalidate_locked`. -/
def invalidateLocked (names : List FlightField) (receivedAt : ℚ) (sequence : ℤ)
    (revokeAuthority : Bool) : Op Unit := do
  update (withInvalidated names receivedAt sequence)
  update (withoutRc names)
  if revokeAuthority then revokeToUnknown w else pure ()

/-- The fields that a heartbeat reports. -/
def heartbeatFields : List FlightField := [.heartbeat, .armed, .mode]

/-- `observe_heartbeat`. `armed` is `none` where it is not a Boolean. -/
def observeHeartbeat (heartbeat : FlightValue) (armed : Option Bool) (mode : Option String)
    (m : Metadata) : Op Bool :=
  if m.source ≠ c.source ∨ m.sequence < 0 then return false
  else
    match m.receivedAt with
    | none => return false
    | some receivedAt => do
      let s ← current
      if s.isNewer heartbeatFields receivedAt m.sequence = false then return false
      else do
        let valid ← ofExcept (valueIsValid heartbeat)
        match valid, armed, c.normalizeMode mode with
        | true, some armed, some normalized => do
          let accepted ← updateMany c
            [(.heartbeat, heartbeat), (.armed, .flag armed), (.mode, .text normalized)] m
          if accepted then do
            processMode c w (s.observations .mode)
            return true
          else return false
        | _, _, _ => do
          invalidateLocked w heartbeatFields receivedAt m.sequence true
          return true

/-- The state after an unusable RC sample. -/
def withoutEdge : FlightState :=
  { s with rcEdge := none, lastHealthyRc := none, rcBaselineSlot := none }

/-- The edge that a switch to another slot leaves: only between two fresh healthy samples. -/
def edgeOf (observation : Observation) : Option Observation :=
  match s.lastHealthyRc with
  | some last =>
    if isFresh last (some observation.receivedAt) (c.freshnessBounds .rcInput) then some observation
    else none
  | none => none

/-- The slot of a fresh healthy sample against the baseline. -/
def followSwitch (slot : String) (observation : Observation) : Op Unit := do
  let s ← current
  match s.rcBaselineSlot with
  | none => update fun s => { s with rcBaselineSlot := some slot }
  | some previous =>
    if slot ≠ previous then do
      update fun s => { s with rcEdge := s.edgeOf c observation, rcBaselineSlot := some slot }
      revokeToUnknown w
    else pure ()

/-- The sample that `observe_rc_input` stores. -/
def rcSample (channel pwm : ℤ) (signalHealthy : Option Bool) : RcInput :=
  ⟨channel, pwm, decide (signalHealthy = some true), (c.slotForPwm pwm).map RcModeBand.slot⟩

/-- `observe_rc_input`. -/
def observeRcInput (channel pwm : ℤ) (signalHealthy : Option Bool) (m : Metadata) : Op Bool :=
  if channel ≠ c.rcChannel then return false
  else do
    let accepted ← updateField c .rcInput (.rcInput (rcSample c channel pwm signalHealthy)) m
    if accepted then do
      let s ← current
      match s.observations .rcInput with
      | none => throw (.raised "'rc_input'")
      | some observation => do
        let now ← readClock w.first
        match (rcSample c channel pwm signalHealthy).healthy &&
            isFresh observation now (c.freshnessBounds .rcInput),
          (rcSample c channel pwm signalHealthy).slot with
        | true, some slot => do
          followSwitch c w slot observation
          update fun s => { s with lastHealthyRc := some observation }
          return true
        | _, _ => do
          update withoutEdge
          revokeToUnknown w
          return true
    else return false

/-- `observe_failsafe`. -/
def observeFailsafe (reason active : FlightValue) (m : Metadata) : Op Bool := do
  let accepted ← updateField c .failsafe (.pair active reason) m
  let s ← current
  match s.observations .failsafe with
  | some observation =>
    if accepted ∧ active = .flag true then do
      let now ← readClock w.first
      if isFresh observation now (c.freshnessBounds .failsafe) then do
        update (taken .fcFailsafe)
        raiseIfReentrant w
        return accepted
      else return accepted
    else return accepted
  | none => return accepted

/-! ## 8. Invalidating -/

/-- `invalidate_evidence`. -/
def invalidateEvidence (names : List FlightField) (m : Metadata) : Op Bool :=
  if names = [] then throw (.valueError "field_names must contain at least one field")
  else if m.source ≠ c.source ∨ m.sequence < 0 then return false
  else
    match m.receivedAt with
    | none => return false
    | some receivedAt => do
      let s ← current
      if s.isNewer names receivedAt m.sequence then do
        invalidateLocked w names receivedAt m.sequence false
        return true
      else return false

/-- The state with the fields removed, whatever came last. -/
def withRemoved (names : List FlightField) (s : FlightState) : FlightState :=
  { s with observations := fun field => if field ∈ names then none else s.observations field }

/-- `invalidate_observations`; `invalidate_observation` is the call with one field. -/
def invalidateObservations (names : List FlightField) (source : SourceIdentity)
    (receivedAt : Option FloatValue) (sequence : Option ℤ) : Op Bool :=
  if names = [] then throw (.valueError "field_names must contain at least one field")
  else if source ≠ c.source then return false
  else
    match receivedAt, sequence with
    | none, none => do
      update (withRemoved names)
      update (withoutRc names)
      revokeToUnknown w
      return true
    | some (some receivedAt), some sequence => do
      let s ← current
      if sequence < 0 ∨ s.isNewer names receivedAt sequence = false then return false
      else do
        invalidateLocked w names receivedAt sequence true
        return true
    | some none, some _ => return false
    | _, _ => throw (.valueError "received_at and sequence must be supplied together")

end

/-! ## 9. Permissions -/

/-- `command_permission`. -/
def commandPermission (s : FlightState) : Option CommandPermission :=
  if s.authority ≠ .companion ∨ s.commandsSuspended = true then none
  else some ⟨s.permissionGeneration⟩

/-- `permission_is_current`. -/
def permissionIsCurrent (s : FlightState) (permission : CommandPermission) : Bool :=
  decide (permission.generation = s.permissionGeneration) && decide (s.authority = .companion) &&
    !s.commandsSuspended

end FlightState

/-! ## 10. Runs of calls -/

inductive FlightCall where
  | update (values : List (FlightField × FlightValue)) (m : Metadata)
  | acquire (now : Option FloatValue)
  | registerExpectedMode (mode : Option String)
  | cancelExpectedMode (token : ℕ)
  | observeMode (mode : Option String) (m : Metadata)
  | observeHeartbeat (heartbeat : FlightValue) (armed : Option Bool) (mode : Option String)
    (m : Metadata)
  | observeRcInput (channel pwm : ℤ) (signalHealthy : Option Bool) (m : Metadata)
  | observeFailsafe (reason active : FlightValue) (m : Metadata)
  | invalidateEvidence (names : List FlightField) (m : Metadata)
  | invalidateObservations (names : List FlightField) (source : SourceIdentity)
    (receivedAt : Option FloatValue) (sequence : Option ℤ)

namespace FlightState

/-- Drops the result of a call. -/
def dropResult {α : Type} (x : Op α) : Op Unit := do
  let _ ← x
  return ()

/-- The body of a call, its result dropped; `update` is `update_many` with one field. -/
def body (c : FlightConfig) : FlightCall × CallSite → Op Unit
  | (.update values m, _) => dropResult (updateMany c values m)
  | (.acquire now, w) => dropResult (acquireInitialCompanionAuthority c w now)
  | (.registerExpectedMode mode, _) => dropResult (registerExpectedMode c mode)
  | (.cancelExpectedMode token, _) => dropResult (cancelExpectedMode token)
  | (.observeMode mode m, w) => dropResult (observeMode c w mode m)
  | (.observeHeartbeat heartbeat armed mode m, w) =>
    dropResult (observeHeartbeat c w heartbeat armed mode m)
  | (.observeRcInput channel pwm signalHealthy m, w) =>
    dropResult (observeRcInput c w channel pwm signalHealthy m)
  | (.observeFailsafe reason active m, w) => dropResult (observeFailsafe c w reason active m)
  | (.invalidateEvidence names m, w) => dropResult (invalidateEvidence c w names m)
  | (.invalidateObservations names source receivedAt sequence, w) =>
    dropResult (invalidateObservations c w names source receivedAt sequence)

/-- The calls as the steps of a machine. -/
def Called (c : FlightConfig) :
    FlightState → FlightCall × CallSite → List FlightNote → FlightState → Prop :=
  Calling (body c)

end FlightState

end DroneSim
