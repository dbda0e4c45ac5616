/-
  File:      DroneSim/Comp2026/MissionRecovery.lean
  Subject:   The recovery of an attempt (control/mission_supervisor.py, MissionSupervisor.recover).

  The controller, the permission check, the policy check and the clock are parameters that may answer
  anything or raise anything at any point: each is a function of how much was noted before it is
  asked, and every question notes its answer. The state is the outcome that was recorded. The stages
  are those of the source; `stageInterruption` stands in front of each of them.
-/
import DroneSim.Library.Acting
import DroneSim.Library.MachineFloat

namespace DroneSim

open Library Library.Attempt Library.Acting MachineFloat

/-! ## 1. What the recovery sees -/

/-- `RECOVERY_OUTCOMES`. -/
inductive RecoveryOutcome where
  | homeLanded
  | localLanded
  | pilot
  | fcFailsafe
  | unconfirmed
  deriving DecidableEq, Repr

/-- A ground outcome. -/
def RecoveryOutcome.landed : RecoveryOutcome → Bool
  | .homeLanded | .localLanded => true
  | _ => false

/-- What code outside raises, by the handler that it meets. -/
inductive OutsideError where
  | authorityLost
  /-- `TimeoutError` and `ClockError`. -/
  | clock
  /-- Every other `Exception`. -/
  | exception
  /-- What is no `Exception`. -/
  | interrupt
  deriving DecidableEq, Repr

inductive RecoveryError where
  /-- `_RecoveryStop`. -/
  | stop (outcome : RecoveryOutcome)
  | raised (error : OutsideError)
  deriving DecidableEq, Repr

structure MissionHome (R : Type) where
  lat : R
  lon : R
  amslM : R

/-- A field of a snapshot: absent or not fresh, not to be read, or fresh with a value. -/
inductive Evidence (α : Type) where
  | stale
  | unreadable (error : OutsideError)
  | fresh (value : α)

/-- What the recovery reads of a snapshot. A value of another type is `none`. -/
structure RecoverySnapshot (R : Type) where
  authority : Except OutsideError String
  suspended : Except OutsideError Bool
  armed : Evidence (Option Bool)
  landedState : Evidence (Option ℤ)
  /-- `str(mode).upper()`. -/
  mode : Evidence (Except OutsideError String)
  /-- The third of the four items of the location, in millimetres. -/
  location : Evidence (Option R)

/-- What an operation of the controller returns. -/
inductive OperationAnswer where
  | nothing
  | zero
  | other
  deriving DecidableEq, Repr

/-- Everything that the recovery may command. -/
inductive RecoveryCommand (R : Type) where
  | arm
  | climb (altitudeM timeout : R)
  | gotoRecoveryWaypoint (lat lon altitudeM timeout : R)
  | simpleLand (timeout modeTimeout : R)
  | confirmLanding (timeout : R)
  | disarm (timeout : R)

/-- What is noted, with the answer. -/
inductive RecoveryNote (R : Type) where
  | permission
  | clock
  | pinned (home : Except OutsideError (Option (MissionHome R)))
  | read (snapshot : Except OutsideError (RecoverySnapshot R))
  | checked (operation : String) (home : MissionHome R) (altitude : Option R)
      (answer : Except OutsideError Bool)
  | commanded (command : RecoveryCommand R) (answer : Except OutsideError OperationAnswer)

/-- Everything outside, by how much was noted before. `none` of the clock is no number; `true` of a
    check is `None`. -/
structure RecoveryWorld (R : Type) where
  permission : ℕ → Except OutsideError Bool
  clock : ℕ → Except OutsideError (Option R)
  missionHome : ℕ → Except OutsideError (Option (MissionHome R))
  snapshot : ℕ → Except OutsideError (RecoverySnapshot R)
  check : ℕ → Except OutsideError Bool
  operation : ℕ → Except OutsideError OperationAnswer

/-- `RecoveryPolicy`. -/
structure RecoveryPolicy (R : Type) where
  timeoutS : R
  localLandReserveS : R

abbrev Recovering (R : Type) : Type → Type :=
  Action (Option RecoveryOutcome) (RecoveryNote R) RecoveryError

namespace MissionRecovery

variable {R : Type}
variable (w : RecoveryWorld R) (p : RecoveryPolicy R) (home : MissionHome R) (cruiseM : R)
  (deadline : R)

/-! ## 2. Questions -/

/-- A question to the outside, noted with its answer. -/
def ask {α : Type} (answer : ℕ → Except OutsideError α)
    (note : Except OutsideError α → RecoveryNote R) : Recovering R α := do
  let r ← get
  perform (note (answer r.log.length))
  ofExcept ((answer r.log.length).mapError .raised)

/-- Reading a value that was found before. -/
def look {α : Type} (x : Except OutsideError α) : Recovering R α := ofExcept (x.mapError .raised)

/-- `raise FlightOperationError(..)`, and what else the stages do not tell from it. -/
def fault {α : Type} : Recovering R α := throw (.raised .exception)

/-- `except Exception` after the handlers that raise again. -/
def otherwise {α : Type} (x y : Recovering R α) : Recovering R α :=
  tryCatch x fun error =>
    match error with
    | .raised .exception => y
    | error => throw error

/-- `_fresh_value`. -/
def freshValue {α : Type} : Evidence α → Recovering R α
  | .stale => fault
  | .unreadable error => throw (.raised error)
  | .fresh value => pure value

def isGround (value : Option ℤ) : Bool := value = some 1
def isInAir (value : Option ℤ) : Bool := value = some 2
def isTakeoff (value : Option ℤ) : Bool := value = some 3
def isLanding (value : Option ℤ) : Bool := value = some 4

/-- `self._is_landing(landed) or str(mode).upper() == "LAND"`. -/
def landingNow (landed : Option ℤ) (mode : Except OutsideError String) : Recovering R Bool :=
  if isLanding landed then return true
  else do
    let text ← look mode
    return text = "LAND"

/-- The outcome that an authority stands for. -/
def outcomeOf (authority : String) : RecoveryOutcome :=
  if authority = "PILOT" then .pilot
  else if authority = "FC_FAILSAFE" then .fcFailsafe
  else .unconfirmed

/-- `check_authority`. -/
def checkAuthority : Recovering R Unit := do
  let nothing ← ask w.permission fun _ => .permission
  if nothing then pure () else throw (.raised .authorityLost)

/-- `controller.flight_snapshot()`. -/
def flightSnapshot : Recovering R (RecoverySnapshot R) :=
  ask w.snapshot .read

/-- `_authority_outcome` without a snapshot. -/
def authorityOutcome : Recovering R RecoveryOutcome :=
  tryCatch
    (do
      let snapshot ← flightSnapshot w
      let authority ← look snapshot.authority
      return outcomeOf authority)
    fun error =>
      match error with
      | .raised .clock => throw error
      | .raised .interrupt => throw error
      | _ => return .unconfirmed

/-- `_recovery_snapshot`. -/
def recoverySnapshot : Recovering R (RecoverySnapshot R) := do
  checkAuthority w
  let snapshot ← flightSnapshot w
  let authority ← look snapshot.authority
  if authority ≠ "COMPANION" then throw (.stop (outcomeOf authority))
  else do
    let suspended ← look snapshot.suspended
    if suspended then throw (.stop (outcomeOf authority)) else return snapshot

/-- `_approve`. -/
def approve (operation : String) (home : MissionHome R) (altitude : Option R) :
    Recovering R Unit := do
  let nothing ← ask w.check (.checked operation home altitude)
  if nothing then pure () else fault

/-- A command to the controller. -/
def commandTo (c : RecoveryCommand R) : Recovering R OperationAnswer :=
  ask w.operation (.commanded c)

/-- `_require_zero` of a command. -/
def requireZero (c : RecoveryCommand R) : Recovering R Unit := do
  let answer ← commandTo w c
  if answer = .zero then pure () else fault

/-- A climb, which returns `None`. -/
def requireClimb (c : RecoveryCommand R) : Recovering R Unit := do
  let answer ← commandTo w c
  if answer = .nothing then pure () else fault

variable [MachineFloat R] (w : RecoveryWorld R) (p : RecoveryPolicy R) (home : MissionHome R)
  (cruiseM : R) (deadline : R)

/-- The time before the deadline, less the reserve. -/
def timeLeft (deadline now : R) (reserve : Option R) : R :=
  match reserve with
  | none => deadline - now
  | some reserve => deadline - now - reserve

/-- `_remaining`. -/
def remaining (reserve : Option R) : Recovering R R := do
  let now ← ask w.clock fun _ => .clock
  match now with
  | none => fault
  | some now =>
    if isFinite (timeLeft deadline now reserve) && !decide (timeLeft deadline now reserve ≤ 0.0) then
      return timeLeft deadline now reserve
    else fault

/-! ## 3. On the ground -/

def groundOutcome (returnedHome : Bool) : RecoveryOutcome :=
  if returnedHome then .homeLanded else .localLanded

/-- `_confirm_recovery_ground` from the disarming on. -/
def disarmOnGround (returnedHome : Bool) : Recovering R RecoveryOutcome := do
  let _ ← recoverySnapshot w
  let timeout ← remaining w deadline none
  requireZero w (.disarm timeout)
  let snapshot ← recoverySnapshot w
  let landed ← freshValue snapshot.landedState
  if isGround landed then do
    let armed ← freshValue snapshot.armed
    if armed = some false then return groundOutcome returnedHome else return .unconfirmed
  else return .unconfirmed

/-- `_confirm_recovery_ground`. -/
def confirmRecoveryGround (returnedHome : Bool) : Recovering R RecoveryOutcome := do
  let snapshot ← recoverySnapshot w
  let landed ← freshValue snapshot.landedState
  if isGround landed then do
    let armed ← freshValue snapshot.armed
    match armed with
    | some true => disarmOnGround w deadline returnedHome
    | some false => return groundOutcome returnedHome
    | none => return .unconfirmed
  else return .unconfirmed

/-- `_preserve_landing`. -/
def preserveLanding (returnedHome : Bool) : Recovering R RecoveryOutcome :=
  otherwise
    (do
      let _ ← recoverySnapshot w
      let timeout ← remaining w deadline none
      requireZero w (.confirmLanding timeout)
      confirmRecoveryGround w deadline returnedHome)
    (return .unconfirmed)

/-! ## 4. The stages -/

/-- `_stage_interruption`; `atTakeoff` is what a vehicle that takes off comes to. -/
def stageInterruption (returnedHome : Bool) (atTakeoff : Recovering R (Option RecoveryOutcome)) :
    Recovering R (Option RecoveryOutcome) := do
  let snapshot ← recoverySnapshot w
  let armed ← freshValue snapshot.armed
  let landed ← freshValue snapshot.landedState
  let mode ← freshValue snapshot.mode
  if isGround landed then do
    let outcome ← confirmRecoveryGround w deadline returnedHome
    return some outcome
  else do
    let landing ← landingNow landed mode
    if landing then do
      let outcome ← preserveLanding w deadline returnedHome
      return some outcome
    else if isTakeoff landed then atTakeoff
    else if armed = some true ∧ isInAir landed = true then return none
    else throw (.stop .unconfirmed)

/-- What is left of `_land` once no stage was interrupted. -/
def commandLand (returnedHome : Bool) : Recovering R RecoveryOutcome := do
  let timeout ← remaining w deadline none
  requireZero w (.simpleLand timeout (smaller timeout p.localLandReserveS))
  confirmRecoveryGround w deadline returnedHome

/-- `_land`. -/
def land (returnedHome : Bool) : Recovering R RecoveryOutcome :=
  otherwise
    (do
      let interrupted ← stageInterruption w deadline returnedHome (return none)
      match interrupted with
      | some outcome => return outcome
      | none => do
        approve w "LOCAL_LAND" home none
        let interrupted ← stageInterruption w deadline returnedHome (return none)
        match interrupted with
        | some outcome => return outcome
        | none => commandLand w p deadline returnedHome)
    (return .unconfirmed)

/-- `_local_land`. -/
def localLand : Recovering R RecoveryOutcome := land w p home deadline false

/-- A stage on the way home: a vehicle that takes off lands where it is. -/
def stageHome : Recovering R (Option RecoveryOutcome) :=
  stageInterruption w deadline false (do
    let outcome ← localLand w p home deadline
    return some outcome)

/-- `_current_amsl`. -/
def currentAmsl (snapshot : RecoverySnapshot R) : Recovering R R := do
  let location ← freshValue snapshot.location
  match location with
  | some millimetres => return millimetres / 1000.0
  | none => fault

/-- `return_altitude_amsl`. -/
def returnAltitudeAmsl (cruiseM currentAmslM : R) : Recovering R R :=
  if isFinite home.lat && isFinite home.lon && isFinite home.amslM && isFinite cruiseM &&
      isFinite currentAmslM && !decide (cruiseM < 0.0) then
    return larger (home.amslM + cruiseM) currentAmslM
  else fault

/-- The climb, where the vehicle is below the transit altitude. -/
def climbTo (currentAmslM transitAmslM : R) : Recovering R Unit :=
  if currentAmslM < transitAmslM then do
    let timeout ← remaining w deadline (some p.localLandReserveS)
    requireClimb w (.climb (transitAmslM - home.amslM) timeout)
  else pure ()

/-- The navigation to the pinned home. A raised target is put to `_approve` inside of the operation. -/
def navigateHome (transitAmslM : R) : Recovering R Unit := do
  let timeout ← remaining w deadline (some p.localLandReserveS)
  requireZero w
    (.gotoRecoveryWaypoint home.lat home.lon (transitAmslM - home.amslM) timeout)

/-- The way home from the altitude on: an outcome where a stage was interrupted. -/
def returnAt (currentAmslM transitAmslM : R) : Recovering R (Option RecoveryOutcome) := do
  approve w "RETURN" home (some transitAmslM)
  let interrupted ← stageHome w p home deadline
  match interrupted with
  | some outcome => return some outcome
  | none => do
    climbTo w p home deadline currentAmslM transitAmslM
    let interrupted ← stageHome w p home deadline
    match interrupted with
    | some outcome => return some outcome
    | none => do
      navigateHome w p home deadline transitAmslM
      return none

/-- The `try` block of `_recover`. -/
def returnHome (snapshot : RecoverySnapshot R) : Recovering R (Option RecoveryOutcome) := do
  let currentAmslM ← currentAmsl snapshot
  let transitAmslM ← returnAltitudeAmsl home cruiseM currentAmslM
  returnAt w p home deadline currentAmslM transitAmslM

/-- `pinned_home == home`. -/
def sameHome (pinned home : MissionHome R) : Bool :=
  equals pinned.lat home.lat && equals pinned.lon home.lon && equals pinned.amslM home.amslM

/-- `_recover` in the air. -/
def recoverInAir (snapshot : RecoverySnapshot R) : Recovering R RecoveryOutcome := do
  let pinned ← ask w.missionHome .pinned
  match pinned with
  | none => localLand w p home deadline
  | some pinned =>
    if sameHome pinned home then do
      let result ← otherwise (returnHome w p home cruiseM deadline snapshot) (do
        let outcome ← localLand w p home deadline
        return some outcome)
      match result with
      | some outcome => return outcome
      | none => land w p home deadline true
    else localLand w p pinned deadline

/-- `_recover`. -/
def recoverStages : Recovering R RecoveryOutcome := do
  let snapshot ← recoverySnapshot w
  let armed ← freshValue snapshot.armed
  let landed ← freshValue snapshot.landedState
  let mode ← freshValue snapshot.mode
  if isGround landed then confirmRecoveryGround w deadline false
  else if armed = some true then do
    let landing ← landingNow landed mode
    if landing then preserveLanding w deadline false
    else if isTakeoff landed then localLand w p home deadline
    else if isInAir landed then recoverInAir w p home cruiseM deadline snapshot
    else throw (.stop .unconfirmed)
  else throw (.stop .unconfirmed)

/-! ## 5. The call -/

/-- `_complete_recovery`. -/
def completeRecovery (outcome : RecoveryOutcome) : Recovering R RecoveryOutcome := do
  let recorded ← current
  match recorded with
  | some outcome => return outcome
  | none => do
    update fun _ => some outcome
    return outcome

/-- A failure that is recorded and raised again. -/
def recordAndRaise {α : Type} (error : RecoveryError) : Recovering R α := do
  let _ ← completeRecovery .unconfirmed
  throw error

/-- The handlers of the stages. -/
def outcomeOfStages (stages : Recovering R RecoveryOutcome) : Recovering R RecoveryOutcome :=
  tryCatch stages fun error =>
    match error with
    | .stop outcome => return outcome
    | .raised .authorityLost => authorityOutcome w
    | .raised .clock => recordAndRaise error
    | .raised .exception => return .unconfirmed
    | .raised .interrupt => throw error

/-- The first reading of the clock: `none` where there is no use in going on. -/
def startedAt : Recovering R (Option R) :=
  tryCatch (ask w.clock fun _ => .clock) fun error =>
    match error with
    | .raised .clock => recordAndRaise error
    | .raised .interrupt => recordAndRaise error
    | _ => return none

/-- The recovery with its deadline. -/
def recoverBy : Recovering R RecoveryOutcome :=
  tryCatch
    (do
      let outcome ← outcomeOfStages w (recoverStages w p home cruiseM deadline)
      completeRecovery outcome)
    recordAndRaise

/-- `recover`. -/
def recover (policy : Option (RecoveryPolicy R)) (home : MissionHome R) (cruiseM : R) :
    Recovering R RecoveryOutcome := do
  let recorded ← current
  match recorded, policy with
  | some outcome, _ => return outcome
  | none, none => completeRecovery .unconfirmed
  | none, some p => do
    let started ← startedAt w
    match started with
    | none => completeRecovery .unconfirmed
    | some now =>
      if isFinite now && isFinite (now + p.timeoutS) then
        recoverBy w p home cruiseM (now + p.timeoutS)
      else completeRecovery .unconfirmed

/-- `record_recovery_outcome`, of an outcome that there is. -/
def recordRecoveryOutcome (outcome : RecoveryOutcome) : Recovering R Unit := do
  let recorded ← current
  match recorded with
  | some _ => fault
  | none => update fun _ => some outcome

/-- The calls that end a recovery. -/
inductive Input (R : Type) where
  | recover (w : RecoveryWorld R) (home : MissionHome R) (cruiseM : R)
  | record (outcome : RecoveryOutcome)

/-- One call; of `record_recovery_outcome` the outcome is the one it was given. -/
def answer (policy : Option (RecoveryPolicy R)) : Input R → Recovering R RecoveryOutcome
  | .recover w home cruiseM => recover w policy home cruiseM
  | .record outcome => do
    recordRecoveryOutcome outcome
    return outcome

end MissionRecovery

end DroneSim
