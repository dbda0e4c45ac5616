/-
  File:      DroneSim/Companion/ConfiguredMission.lean
  Subject:   The caller of a mission plan's steps (companion/configured_mission.py).

  A plan is a sequence of steps and of groups under a condition. `nextStep` walks it with a stack of
  cursors; `tick` starts a step once the one before it has succeeded. What the conditions, the log
  and the operations answer are parameters: `Eligibility` for the answers by the number of the visit,
  `TickSite` for those of the operations in one tick.
-/
import DroneSim.Library.Acting
import DroneSim.Library.PyText
import Mathlib.Data.Rat.Defs

namespace DroneSim

open Library Library.Attempt Library.Acting

/-! ## 1. Plans -/

/-- `MissionStep`; `Args` stands for the validated arguments. -/
structure MissionStep (Args : Type) where
  tool : String
  args : Args
  timeoutSimS : ℚ
  deriving DecidableEq, Repr

inductive Condition where
  | anyPayloadEligible
  | payloadEligible (payloadId : ℤ)
  deriving DecidableEq, Repr

/-- `PlanItem`: a step or a conditional group. -/
inductive PlanItem (Args : Type) where
  | step (step : MissionStep Args)
  | group (when' : Condition) (steps : List (PlanItem Args))

/-- `MissionPlan`; `_parse_items` refuses an empty list. -/
structure MissionPlan (Args : Type) where
  steps : List (PlanItem Args)
  nonempty : steps ≠ []

structure ConditionResult where
  matched : Bool
  reason : String
  deriving DecidableEq, Repr

/-! ## 2. Conditions -/

/-- What an evaluator does: it returns a Boolean, or a `ConditionResult` (`none` for a field of
    another type), or something else, or it raises. -/
inductive Evaluation where
  | flag (b : Bool)
  | decision (matched : Option Bool) (reason : Option String)
  | invalid
  | raised (error : String)
  deriving DecidableEq, Repr

/-- The evaluator, if there is one, and the sink of skipped groups, by the number of the visit. -/
structure Eligibility where
  conditions : Option (ℕ → Condition → Evaluation)
  emit : ℕ → Except String Unit

/-- The subject of a reason. -/
def Condition.subject : Condition → String
  | .payloadEligible payloadId => "payload " ++ toString payloadId
  | .anyPayloadEligible => "any payload"

/-- `_evaluate_condition`. -/
def Eligibility.evaluateCondition (w : Eligibility) (visit : ℕ) (condition : Condition) :
    Except String ConditionResult :=
  match w.conditions with
  | none => .error "conditional plan requires an eligibility evaluator"
  | some evaluate =>
    match evaluate visit condition with
    | .flag b =>
      .ok ⟨b, condition.subject ++ if b then " is eligible" else " is not eligible"⟩
    | .invalid => .error "eligibility evaluator returned an invalid decision"
    | .decision (some matched) (some reason) =>
      if strip reason = "" then
        .error "eligibility decision requires a boolean result and clear reason"
      else .ok ⟨matched, reason⟩
    | .decision _ _ => .error "eligibility decision requires a boolean result and clear reason"
    | .raised error => .error error

/-! ## 3. The mission -/

/-- The states of operations and of the mission. -/
inductive MissionToolState where
  | running
  | succeeded
  | failed
  | cancelled
  deriving DecidableEq, Repr

/-- `_Cursor`. -/
structure Cursor (Args : Type) where
  items : List (PlanItem Args)
  index : ℕ
  path : String

/-- The cursor past its item. -/
def Cursor.next {Args : Type} (cursor : Cursor Args) : Cursor Args := { cursor with index := cursor.index + 1 }

/-- `f"{cursor.path}[{item_index}]"`. -/
def Cursor.itemPath {Args : Type} (cursor : Cursor Args) : String :=
  cursor.path ++ "[" ++ toString cursor.index ++ "]"

/-- `ConfiguredMission`; the last cursor comes first. -/
structure ConfiguredMission (Args : Type) where
  state : MissionToolState
  error : String
  stepIndex : ℕ
  operationId : Option String
  cursors : List (Cursor Args)

/-- What a mission does and sees, in order. -/
inductive MissionNote (Args : Type) where
  | evaluated (condition : Condition)
  | skipped (path : String) (condition : Condition) (reason : String)
  | evaluationFailed (error : String)
  | started (step : MissionStep Args) (id : String) (state : MissionToolState)
  | startRaised (step : MissionStep Args)
  | observed (id : String) (state : MissionToolState)
  | aborted (reason : String)

/-- What the operations answer in one tick. -/
structure TickSite (Args : Type) where
  tick : Except String Unit
  status : String → MissionToolState × String
  start : MissionStep Args → Except String (String × MissionToolState × String)

namespace ConfiguredMission

variable {Args : Type}

/-- `ConfiguredMission(plan, operations, ..)`. -/
def created (plan : MissionPlan Args) : ConfiguredMission Args where
  state := .running
  error := ""
  stepIndex := 0
  operationId := none
  cursors := [⟨plan.steps, 0, "steps"⟩]

/-! ## 4. The next step -/

mutual

/-- How many turns of the loop an item takes at most. -/
def turns : PlanItem Args → ℕ
  | .step _ => 1
  | .group _ steps => 2 + turnsOf steps

def turnsOf : List (PlanItem Args) → ℕ
  | [] => 0
  | item :: items => turns item + turnsOf items

end

/-- How many turns of the loop a stack of cursors takes at most. -/
def turnsLeft : List (Cursor Args) → ℕ
  | [] => 0
  | cursor :: rest => 1 + turnsOf (cursor.items.drop cursor.index) + turnsLeft rest

/-- The end of a search: the step or what was raised, and where it left the mission. -/
structure Search (Args : Type) where
  outcome : Except String (Option (MissionStep Args))
  cursors : List (Cursor Args)
  stepIndex : ℕ
  notes : List (MissionNote Args)

/-- A search after something noted. -/
def Search.after (notes : List (MissionNote Args)) (search : Search Args) : Search Args :=
  { search with notes := notes ++ search.notes }

/-- `_next_step`, in at most so many turns of the loop. -/
def searchStep (w : Eligibility) : ℕ → List (Cursor Args) → ℕ → Search Args
  | 0, cursors, stepIndex => ⟨.ok none, cursors, stepIndex, []⟩
  | _ + 1, [], stepIndex => ⟨.ok none, [], stepIndex, []⟩
  | turns + 1, cursor :: rest, stepIndex =>
    match cursor.items[cursor.index]? with
    | none => searchStep w turns rest stepIndex
    | some (.step step) => ⟨.ok (some step), cursor.next :: rest, stepIndex + 1, []⟩
    | some (.group condition steps) =>
      match w.evaluateCondition (stepIndex + 1) condition with
      | .error error => ⟨.error error, cursor.next :: rest, stepIndex + 1, [.evaluated condition]⟩
      | .ok result =>
        if result.matched then
          (searchStep w turns (⟨steps, 0, cursor.itemPath ++ ".steps"⟩ :: cursor.next :: rest)
            (stepIndex + 1)).after [.evaluated condition]
        else
          match w.emit (stepIndex + 1) with
          | .error error =>
            ⟨.error error, cursor.next :: rest, stepIndex + 1, [.evaluated condition]⟩
          | .ok () =>
            (searchStep w turns (cursor.next :: rest) (stepIndex + 1)).after
              [.evaluated condition, .skipped cursor.itemPath condition result.reason]

/-- `_next_step`. -/
def nextStep (w : Eligibility) (cursors : List (Cursor Args)) (stepIndex : ℕ) : Search Args :=
  searchStep w (turnsLeft cursors + 1) cursors stepIndex

/-! ## 5. Calls -/

/-- A call under way. -/
abbrev Op (Args : Type) : Type → Type := Action (ConfiguredMission Args) (MissionNote Args) String

/-- `_fail`. -/
def ended (state : MissionToolState) (error : String) (s : ConfiguredMission Args) :
    ConfiguredMission Args := { s with state := state, error := error }

/-- The mission after a search. -/
def searched (search : Search Args) (s : ConfiguredMission Args) : ConfiguredMission Args :=
  { s with cursors := search.cursors, stepIndex := search.stepIndex }

/-- Notes one thing after the other. -/
def performAll : List (MissionNote Args) → Op Args Unit
  | [] => pure ()
  | note :: notes => do
    perform note
    performAll notes

/-- Starts a step. -/
def startStep (site : TickSite Args) (step : MissionStep Args) : Op Args Unit :=
  match site.start step with
  | .error error => do
    perform (.startRaised step)
    throw error
  | .ok (id, state, error) => do
    update fun s => { s with operationId := some id }
    perform (.started step id state)
    if state = .failed ∨ state = .cancelled then update (ended state error) else pure ()

/-- The part of `tick` that looks for the next step. -/
def advance (w : Eligibility) (site : TickSite Args) : Op Args Unit := do
  let s ← current
  update (searched (nextStep w s.cursors s.stepIndex))
  performAll (nextStep w s.cursors s.stepIndex).notes
  match (nextStep w s.cursors s.stepIndex).outcome with
  | .error error => do
    update (ended .failed ("condition evaluation failed: " ++ error))
    perform (.evaluationFailed error)
  | .ok none => update fun s => { s with state := .succeeded }
  | .ok (some step) => startStep site step

/-- `tick`. -/
def tick (w : Eligibility) (site : TickSite Args) : Op Args Unit := do
  ofExcept site.tick
  let s ← current
  if s.state ≠ .running then pure ()
  else
    match s.operationId with
    | none => advance w site
    | some id =>
      match site.status id with
      | (.running, _) => pure ()
      | (.succeeded, _) => do
        perform (.observed id .succeeded)
        update fun s => { s with operationId := none }
        advance w site
      | (state, error) => do
        perform (.observed id state)
        update (ended state error)

/-- `abort`; `aborted` is what `operations.abort` does. -/
def abort (reason : String) (aborted : Except String Unit) : Op Args Unit := do
  ofExcept aborted
  let s ← current
  if s.state = .running then do
    update (ended .cancelled reason)
    perform (.aborted reason)
  else pure ()

end ConfiguredMission

/-! ## 6. Runs -/

inductive MissionCall (Args : Type) where
  | tick (site : TickSite Args)
  | abort (reason : String) (aborted : Except String Unit)

namespace ConfiguredMission

variable {Args : Type}

def body (w : Eligibility) : MissionCall Args → Op Args Unit
  | .tick site => tick w site
  | .abort reason aborted => abort reason aborted

/-- A mission and whether a call of it has raised. -/
structure Hosted (Args : Type) where
  mission : ConfiguredMission Args
  raised : Bool

/-- The call may be made: `run_configured` leaves its loop on an exception, so no tick follows. -/
def MayCall (p : Hosted Args) : MissionCall Args → Prop
  | .tick _ => p.raised = false
  | .abort _ _ => True

instance (p : Hosted Args) (i : MissionCall Args) : Decidable (MayCall p i) :=
  match i with
  | .tick _ => inferInstanceAs (Decidable (p.raised = false))
  | .abort _ _ => isTrue trivial

/-- The calls as the steps of a machine. -/
def Driven (w : Eligibility) (p : Hosted Args) (i : MissionCall Args) (o : List (MissionNote Args))
    (q : Hosted Args) : Prop :=
  MayCall p i ∧ (call (body w i) p.mission).2 = (q.mission, o) ∧
    q.raised = (p.raised || !(call (body w i) p.mission).1.isOk)

end ConfiguredMission

end DroneSim
