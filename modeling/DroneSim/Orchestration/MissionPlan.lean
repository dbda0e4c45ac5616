/-
  File:      DroneSim/Orchestration/MissionPlan.lean
  Subject:   The normal form of a mission plan (orchestration/config.py).

  `validateMissionPlan` checks the plan of a run configuration and returns the text that is stored
  with the run: every step with its time limit, the keys in order. The recursion into conditional
  groups follows the levels that are left; `_validate_mission_plan` counts the depth, which is two
  less the levels.

  * `normalizeDocument_sorted` -- what was normalised is normalised to itself.
-/
import DroneSim.Library.JsonParse

namespace DroneSim

open Library Library.Doc

variable {F : Type} [PyFloat F] {d : Doc F} {fields : List (PyText × Doc F)} {depth : ℕ}
  {children : List (Doc F) → Except PlanError (List (Doc F))}

/-! ## 1. Checks -/

/-- What a check of a plan raises. -/
inductive PlanError where
  /-- `ValueError` -/
  | value (text : String)
  /-- `OverflowError`: an integer that no float holds. -/
  | overflow
  deriving DecidableEq, Repr

namespace PlanKey

def schemaVersion : PyText := ofString "schema_version"

def steps : PyText := ofString "steps"

def when' : PyText := ofString "when"

def tool : PyText := ofString "tool"

def args : PyText := ofString "args"

def timeoutSimS : PyText := ofString "timeout_sim_s"

def anyPayloadEligible : PyText := ofString "any_payload_eligible"

def payloadEligible : PyText := ofString "payload_eligible"

end PlanKey

/-- `version` of `type(version) is int and version in {1, 2}` -/
def versionOf : Option (Doc F) → Option ℤ
  | some (.int n) => if n = 1 ∨ n = 2 then some n else none
  | _ => none

/-- `value == True` -/
def equalsTrue : Option (Doc F) → Bool
  | some (.bool b) => b
  | some (.int n) => decide (n = 1)
  | some (.float x) => decide (PyFloat.value x = some 1)
  | _ => false

/-- The payload of `type(value) is int and value in {2, 3, 4}`. -/
def payloadOf : Option (Doc F) → Option ℤ
  | some (.int n) => if n = 2 ∨ n = 3 ∨ n = 4 then some n else none
  | _ => none

/-- `when == {"any_payload_eligible": True}` -/
def isAnyEligible : Doc F → Bool
  | .obj fields =>
    keysAre fields [PlanKey.anyPayloadEligible] &&
      equalsTrue (get fields PlanKey.anyPayloadEligible)
  | _ => false

/-- The payload of a predicate with the key `payload_eligible` alone. -/
def eligiblePayload : Doc F → Option ℤ
  | .obj fields =>
    if keysAre fields [PlanKey.payloadEligible] then
      payloadOf (get fields PlanKey.payloadEligible)
    else none
  | _ => none

/-- The predicate of a group at a depth. -/
def validWhen (depth : ℕ) (when' : Doc F) : Bool :=
  if depth = 0 then isAnyEligible when' else (eligiblePayload when').isSome

/-- `math.isfinite(timeout)` and `timeout > 0`, of a number that is no Boolean; the time limit is
    sixty seconds where the step names none. -/
def validTimeout : Doc F → Except PlanError Bool
  | .int n =>
    match PyFloat.ofInt (F := F) n with
    | none => .error .overflow
    | some x => .ok (PyFloat.finite x && decide (0 < n))
  | .float x => .ok ((PyFloat.value x).any fun q => decide (0 < q))
  | _ => .ok false

def isGroup (fields : List (PyText × Doc F)) : Bool := keysAre fields [PlanKey.when', PlanKey.steps]

/-! ## 2. The normal form -/

/-- A step that is no group. -/
def normalizeStep (fields : List (PyText × Doc F)) : Except PlanError (Doc F) :=
  if keysWithin fields [PlanKey.tool, PlanKey.args, PlanKey.timeoutSimS] &&
      keysCover fields [PlanKey.tool, PlanKey.args] then
    match get fields PlanKey.tool with
    | some (.str (c :: tool)) =>
      match get fields PlanKey.args with
      | some (.obj args) => do
        let timeout := (get fields PlanKey.timeoutSimS).getD (.int 60)
        if ← validTimeout timeout then
          return .obj [(PlanKey.tool, .str (c :: tool)), (PlanKey.args, .obj args),
            (PlanKey.timeoutSimS, timeout)]
        else throw (.value "mission_plan step timeout_sim_s must be positive and finite")
      | _ => .error (.value "mission_plan step args must be an object")
    | _ => .error (.value "mission_plan step tool must be a nonempty string")
  else .error (.value "mission_plan step has missing or unknown keys")

/-- A conditional group, `children` what becomes of its steps. -/
def normalizeGroup (depth : ℕ) (children : List (Doc F) → Except PlanError (List (Doc F)))
    (fields : List (PyText × Doc F)) : Except PlanError (Doc F) :=
  if 2 ≤ depth then .error (.value "mission_plan conditional groups may be nested only once")
  else
    match (get fields PlanKey.when').filter (validWhen depth) with
    | none => .error (.value "mission_plan conditional predicate is invalid at this depth")
    | some when' =>
      match nonemptyArray (get fields PlanKey.steps) with
      | none => .error (.value "mission_plan conditional steps must be a nonempty array")
      | some steps => do
        let normalized ← children steps
        return .obj [(PlanKey.when', when'), (PlanKey.steps, .arr normalized)]

def normalizeItem (version : ℤ) (depth : ℕ)
    (children : List (Doc F) → Except PlanError (List (Doc F))) : Doc F → Except PlanError (Doc F)
  | .obj fields =>
    if version = 2 ∧ isGroup fields = true then normalizeGroup depth children fields
    else normalizeStep fields
  | _ => .error (.value "mission_plan step has missing or unknown keys")

/-- `normalize(items, depth)`, with `levels` levels of groups left below `items`. -/
def normalize (version : ℤ) : ℕ → List (Doc F) → Except PlanError (List (Doc F))
  | 0, items =>
    items.mapM (normalizeItem version 2 fun _ =>
      .error (.value "mission_plan conditional groups may be nested only once"))
  | levels + 1, items => items.mapM (normalizeItem version (1 - levels) (normalize version levels))

/-- `isinstance(step, dict) and "when" in step` -/
def namesWhen : Doc F → Bool
  | .obj fields => (get fields PlanKey.when').isSome
  | _ => false

/-- The document `_validate_mission_plan` writes. -/
def normalizeDocument : Doc F → Except PlanError (Doc F)
  | .obj fields =>
    if keysAre fields [PlanKey.schemaVersion, PlanKey.steps] then
      match versionOf (get fields PlanKey.schemaVersion) with
      | none => .error (.value "mission_plan schema_version must be 1 or 2")
      | some version =>
        match nonemptyArray (get fields PlanKey.steps) with
        | none => .error (.value "mission_plan steps must be a nonempty array")
        | some steps =>
          if version = 1 ∧ steps.any namesWhen = true then
            .error (.value "mission_plan conditional groups require schema_version 2")
          else do
            let normalized ← normalize version 2 steps
            return .obj [(PlanKey.schemaVersion, .int version), (PlanKey.steps, .arr normalized)]
    else .error (.value "mission_plan must contain exactly schema_version and steps")
  | _ => .error (.value "mission_plan must contain exactly schema_version and steps")

/-- `_validate_mission_plan(document)`: the text of the normal form. -/
def validateMissionPlan (document : Doc F) : Except PlanError PyText := do
  let normalized ← normalizeDocument document
  match normalized.dumps with
  | .ok text => return text
  | .error _ => throw (.value "mission_plan args must contain valid JSON values")

/-! ## 3. The tests do not see the order of the keys -/

omit [PyFloat F] in
theorem versionOf_sorted (o : Option (Doc F)) : versionOf (o.map sorted) = versionOf o := by
  rcases o with _ | d
  · rfl
  · cases d <;> rfl

theorem equalsTrue_sorted (o : Option (Doc F)) : equalsTrue (o.map sorted) = equalsTrue o := by
  rcases o with _ | d
  · rfl
  · cases d <;> rfl

omit [PyFloat F] in
theorem payloadOf_sorted (o : Option (Doc F)) : payloadOf (o.map sorted) = payloadOf o := by
  rcases o with _ | d
  · rfl
  · cases d <;> rfl

/-- A time limit is a number, which sorting leaves alone. -/
theorem sorted_timeout (h : validTimeout d = .ok true) : d.sorted = d := by
  cases d with
  | int n => rfl
  | float x => rfl
  | null => rfl
  | bool b => rfl
  | str s => rfl
  | arr items => cases h
  | obj fields => cases h

theorem isAnyEligible_sorted (hd : Unique d) : isAnyEligible d.sorted = isAnyEligible d := by
  cases d with
  | obj fields =>
    simp only [sorted_obj, isAnyEligible, keysAre_sortedObject hd.keys,
      get_sortedObject hd.keys, equalsTrue_sorted]
  | _ => rfl

omit [PyFloat F] in
theorem eligiblePayload_sorted (hd : Unique d) : eligiblePayload d.sorted = eligiblePayload d := by
  cases d with
  | obj fields =>
    simp only [sorted_obj, eligiblePayload, keysAre_sortedObject hd.keys,
      get_sortedObject hd.keys, payloadOf_sorted]
  | _ => rfl

theorem validWhen_sorted (depth : ℕ) (hd : Unique d) :
    validWhen depth d.sorted = validWhen depth d := by
  unfold validWhen
  rw [isAnyEligible_sorted hd, eligiblePayload_sorted hd]

/-! ## 4. What is accepted -/

/-- The document of a step. -/
def stepFields (tool : PyText) (args : List (PyText × Doc F)) (timeout : Doc F) :
    List (PyText × Doc F) :=
  [(PlanKey.tool, .str tool), (PlanKey.args, .obj args), (PlanKey.timeoutSimS, timeout)]

/-- The document of a conditional group. -/
def groupFields (when' : Doc F) (steps : List (Doc F)) : List (PyText × Doc F) :=
  [(PlanKey.when', when'), (PlanKey.steps, .arr steps)]

/-- What `normalizeStep` accepts. -/
structure PlainStep (fields : List (PyText × Doc F)) (tool : PyText)
    (args : List (PyText × Doc F)) (timeout : Doc F) : Prop where
  within : keysWithin fields [PlanKey.tool, PlanKey.args, PlanKey.timeoutSimS] = true
  covers : keysCover fields [PlanKey.tool, PlanKey.args] = true
  tool_eq : get fields PlanKey.tool = some (.str tool)
  tool_ne : tool ≠ []
  args_eq : get fields PlanKey.args = some (.obj args)
  timeout_eq : (get fields PlanKey.timeoutSimS).getD (.int 60) = timeout
  timeout_ok : validTimeout timeout = .ok true

theorem normalizeStep_ok {r : Doc F} :
    normalizeStep fields = .ok r ↔
      ∃ tool args timeout, PlainStep fields tool args timeout ∧
        r = .obj (stepFields tool args timeout) := by
  constructor
  · intro h
    unfold normalizeStep at h
    split at h
    · rename_i hkeys
      rw [Bool.and_eq_true] at hkeys
      split at h
      · rename_i c tool htool
        split at h
        · rename_i args hargs
          obtain ⟨b, hb, h⟩ := bind_ok h
          cases b with
          | false => cases h
          | true =>
            exact ⟨c :: tool, args, _, ⟨hkeys.1, hkeys.2, htool, List.cons_ne_nil _ _, hargs, rfl,
              hb⟩, (Except.ok.inj h).symm⟩
        · cases h
      · cases h
    · cases h
  · rintro ⟨tool, args, timeout, h, rfl⟩
    obtain ⟨c, tool, rfl⟩ := List.exists_cons_of_ne_nil h.tool_ne
    unfold normalizeStep
    rw [if_pos (by rw [h.within, h.covers]; rfl), h.tool_eq, h.args_eq]
    dsimp only
    rw [h.timeout_eq, h.timeout_ok]
    rfl

/-- What `normalizeGroup` accepts. -/
structure GroupStep (depth : ℕ) (children : List (Doc F) → Except PlanError (List (Doc F)))
    (fields : List (PyText × Doc F)) (when' : Doc F) (steps normalized : List (Doc F)) : Prop where
  depth_lt : depth < 2
  when_eq : get fields PlanKey.when' = some when'
  when_ok : validWhen depth when' = true
  steps_eq : nonemptyArray (get fields PlanKey.steps) = some steps
  children_eq : children steps = .ok normalized

theorem normalizeGroup_ok {r : Doc F} :
    normalizeGroup depth children fields = .ok r ↔
      ∃ when' steps normalized, GroupStep depth children fields when' steps normalized ∧
        r = .obj (groupFields when' normalized) := by
  constructor
  · intro h
    unfold normalizeGroup at h
    split at h
    · cases h
    · rename_i hdepth
      split at h
      · cases h
      · rename_i when' hwhen
        rw [Option.filter_eq_some_iff] at hwhen
        split at h
        · cases h
        · rename_i steps hsteps
          obtain ⟨normalized, hnormalized, h⟩ := bind_ok h
          exact ⟨when', steps, normalized, ⟨by omega, hwhen.1, hwhen.2, hsteps, hnormalized⟩,
            (Except.ok.inj h).symm⟩
  · rintro ⟨when', steps, normalized, h, rfl⟩
    unfold normalizeGroup
    have hwhen : (some when').filter (validWhen depth) = some when' :=
      Option.filter_eq_some_iff.mpr ⟨rfl, h.when_ok⟩
    rw [if_neg (Nat.not_le.mpr h.depth_lt), h.when_eq, hwhen, h.steps_eq]
    dsimp only
    rw [h.children_eq]
    rfl

/-! ## 5. The normal form of a normal form -/

omit [PyFloat F] in
theorem stepFields_keys (tool : PyText) (args : List (PyText × Doc F)) (timeout : Doc F) :
    ((stepFields tool args timeout).map Prod.fst).Nodup := by
  simp [stepFields, PlanKey.tool, PlanKey.args, PlanKey.timeoutSimS, ofString_inj]

omit [PyFloat F] in
theorem groupFields_keys (when' : Doc F) (steps : List (Doc F)) :
    ((groupFields when' steps).map Prod.fst).Nodup := by
  simp [groupFields, PlanKey.when', PlanKey.steps, ofString_inj]

omit [PyFloat F] in
theorem get_groupFields_when (when' : Doc F) (steps : List (Doc F)) :
    get (groupFields when' steps) PlanKey.when' = some when' := by
  simp [groupFields, Doc.get]

omit [PyFloat F] in
theorem get_groupFields_steps (when' : Doc F) (steps : List (Doc F)) :
    get (groupFields when' steps) PlanKey.steps = some (.arr steps) := by
  simp [groupFields, Doc.get, PlanKey.when', PlanKey.steps, ofString_inj]

theorem plainStep_stepFields {tool : PyText} {args : List (PyText × Doc F)} {timeout : Doc F}
    (h : PlainStep fields tool args timeout) :
    PlainStep (stepFields tool args timeout) tool args timeout where
  within := by
    simp [keysWithin, stepFields]
  covers := by
    simp [keysCover, stepFields, Doc.get, PlanKey.tool, PlanKey.args, ofString_inj]
  tool_eq := by
    simp [stepFields, Doc.get]
  tool_ne := h.tool_ne
  args_eq := by
    simp [stepFields, Doc.get, PlanKey.tool, PlanKey.args, ofString_inj]
  timeout_eq := by
    simp [stepFields, Doc.get, PlanKey.tool, PlanKey.args, PlanKey.timeoutSimS, ofString_inj]
  timeout_ok := h.timeout_ok

theorem PlainStep.sortedObject {tool : PyText} {args : List (PyText × Doc F)} {timeout : Doc F}
    (h : PlainStep fields tool args timeout) (hkeys : (fields.map Prod.fst).Nodup) :
    PlainStep (sortedObject fields) tool (Doc.sortedObject args) timeout where
  within := by
    rw [keysWithin_sortedObject]
    exact h.within
  covers := by
    rw [keysCover_sortedObject hkeys]
    exact h.covers
  tool_eq := by
    rw [get_sortedObject hkeys, h.tool_eq]
    rfl
  tool_ne := h.tool_ne
  args_eq := by
    rw [get_sortedObject hkeys, h.args_eq]
    rfl
  timeout_eq := by
    have htimeout := h.timeout_eq
    rw [get_sortedObject hkeys]
    cases hget : get fields PlanKey.timeoutSimS with
    | none =>
      rw [hget] at htimeout
      exact htimeout
    | some d =>
      rw [hget] at htimeout
      obtain rfl : d = timeout := htimeout
      exact sorted_timeout h.timeout_ok
  timeout_ok := h.timeout_ok

omit [PyFloat F] in
theorem isGroup_stepFields (tool : PyText) (args : List (PyText × Doc F)) (timeout : Doc F) :
    isGroup (stepFields tool args timeout) = false := by
  simp [isGroup, keysAre, keysWithin, stepFields, PlanKey.tool, PlanKey.when', PlanKey.steps,
    ofString_inj]

omit [PyFloat F] in
theorem isGroup_groupFields (when' : Doc F) (steps : List (Doc F)) :
    isGroup (groupFields when' steps) = true := by
  simp [isGroup, keysAre, keysWithin, keysCover, groupFields, Doc.get, PlanKey.when', PlanKey.steps,
    ofString_inj]

theorem unique_timeout (h : validTimeout d = .ok true) : Unique d := by
  cases d with
  | int n => exact .int n
  | float x => exact .float x
  | null => exact .null
  | bool b => exact .bool b
  | str s => exact .str s
  | arr items => cases h
  | obj fields => cases h

/-- What normalises a list keeps to what it has normalised. -/
def KeepsNormal (children : List (Doc F) → Except PlanError (List (Doc F))) : Prop :=
  ∀ l l', (∀ d ∈ l, d.Unique) → children l = .ok l' →
    (∀ d ∈ l', d.Unique) ∧ (l ≠ [] → l' ≠ []) ∧
      ∃ l'', children (l'.map sorted) = .ok l'' ∧ l''.map sorted = l'.map sorted

/-- What normalises an item keeps to what it has normalised. -/
def KeepsNormalItem (f : Doc F → Except PlanError (Doc F)) : Prop :=
  ∀ d r, d.Unique → f d = .ok r → r.Unique ∧ ∃ r', f r.sorted = .ok r' ∧ r'.sorted = r.sorted

omit [PyFloat F] in
theorem KeepsNormalItem.mapM {f : Doc F → Except PlanError (Doc F)} (hf : KeepsNormalItem f) :
    KeepsNormal fun l => l.mapM f := by
  unfold KeepsNormal
  intro l l' hl h
  rw [mapM_ok] at h
  simp only [mapM_ok]
  induction h with
  | nil => exact ⟨fun _ h => absurd h List.not_mem_nil, fun h => absurd rfl h, [], .nil, rfl⟩
  | cons hhead hrest ih =>
    rw [List.forall_mem_cons] at hl
    obtain ⟨hunique, r', hr', hsorted⟩ := hf _ _ hl.1 hhead
    obtain ⟨huniques, -, rest', hrest', hsorteds⟩ := ih hl.2
    refine ⟨List.forall_mem_cons.mpr ⟨hunique, huniques⟩, fun _ => List.cons_ne_nil _ _,
      r' :: rest', .cons hr' hrest', ?_⟩
    rw [List.map_cons, List.map_cons, hsorted, hsorteds]

theorem normalizeStep_steady (fields : List (PyText × Doc F)) (r : Doc F)
    (hfields : Unique (.obj fields)) (h : normalizeStep fields = .ok r) :
    Unique r ∧ ∃ fields' r', r.sorted = .obj fields' ∧ isGroup fields' = false ∧
      normalizeStep fields' = .ok r' ∧ r'.sorted = r.sorted := by
  obtain ⟨tool, args, timeout, hstep, rfl⟩ := normalizeStep_ok.mp h
  have hargs : Unique (.obj args) := unique_of_get hfields hstep.args_eq
  have hkeys := stepFields_keys tool args timeout
  refine ⟨.obj _ hkeys ?_, _, .obj (stepFields tool (sortedObject args) timeout), sorted_obj _,
    ?_, ?_, ?_⟩
  · intro field hfield
    simp only [stepFields, List.mem_cons, List.not_mem_nil, or_false] at hfield
    rcases hfield with rfl | rfl | rfl
    · exact .str _
    · exact hargs
    · exact unique_timeout hstep.timeout_ok
  · unfold isGroup
    rw [keysAre_sortedObject hkeys]
    exact isGroup_stepFields tool args timeout
  · exact normalizeStep_ok.mpr ⟨tool, sortedObject args, timeout,
      (plainStep_stepFields hstep).sortedObject hkeys, rfl⟩
  · have hnested : (Doc.obj (sortedObject args)).sorted = (Doc.obj args).sorted := by
      rw [← sorted_obj, sorted_sorted]
    refine congrArg Doc.obj (sortedObject_congr ?_)
    simp only [stepFields, List.map_cons, List.map_nil, hnested]

theorem normalizeGroup_steady (hchildren : KeepsNormal children) (fields : List (PyText × Doc F))
    (r : Doc F) (hfields : Unique (.obj fields))
    (h : normalizeGroup depth children fields = .ok r) :
    Unique r ∧ ∃ fields' r', r.sorted = .obj fields' ∧ isGroup fields' = true ∧
      normalizeGroup depth children fields' = .ok r' ∧ r'.sorted = r.sorted := by
  obtain ⟨when', steps, normalized, hgroup, rfl⟩ := normalizeGroup_ok.mp h
  have hwhen : Unique when' := unique_of_get hfields hgroup.when_eq
  obtain ⟨hsteps, hne⟩ := nonemptyArray_some hgroup.steps_eq
  unfold KeepsNormal at hchildren
  obtain ⟨huniques, hnonempty, steps', hsteps', hsorted⟩ :=
    hchildren steps normalized (unique_of_get hfields hsteps).items hgroup.children_eq
  have hkeys := groupFields_keys when' normalized
  refine ⟨.obj _ hkeys ?_, _, .obj (groupFields when'.sorted steps'), sorted_obj _, ?_, ?_, ?_⟩
  · intro field hfield
    simp only [groupFields, List.mem_cons, List.not_mem_nil, or_false] at hfield
    rcases hfield with rfl | rfl
    · exact hwhen
    · exact .arr _ huniques
  · unfold isGroup
    rw [keysAre_sortedObject hkeys]
    exact isGroup_groupFields when' normalized
  · refine normalizeGroup_ok.mpr ⟨when'.sorted, normalized.map sorted, steps',
      ⟨hgroup.depth_lt, ?_, ?_, ?_, hsteps'⟩, rfl⟩
    · rw [get_sortedObject hkeys, get_groupFields_when]
      rfl
    · rw [validWhen_sorted depth hwhen]
      exact hgroup.when_ok
    · rw [get_sortedObject hkeys, get_groupFields_steps, nonemptyArray_sorted,
        nonemptyArray_arr (hnonempty hne)]
      rfl
  · have harr : (Doc.arr steps').sorted = (Doc.arr normalized).sorted := by
      rw [sorted_arr, sorted_arr, hsorted]
    refine congrArg Doc.obj (sortedObject_congr ?_)
    simp only [groupFields, List.map_cons, List.map_nil, harr, sorted_sorted]

theorem normalizeItem_steady {version : ℤ} (hchildren : KeepsNormal children) :
    KeepsNormalItem (normalizeItem version depth children) := by
  intro d r hd h
  cases d with
  | obj fields =>
    unfold normalizeItem at h
    dsimp only at h
    split at h
    · rename_i hgroup
      obtain ⟨hunique, fields', r', hfields', hgroup', hr', hsorted⟩ :=
        normalizeGroup_steady hchildren fields r hd h
      refine ⟨hunique, r', ?_, hsorted⟩
      rw [hfields']
      exact (if_pos ⟨hgroup.1, hgroup'⟩).trans hr'
    · obtain ⟨hunique, fields', r', hfields', hgroup', hr', hsorted⟩ :=
        normalizeStep_steady fields r hd h
      refine ⟨hunique, r', ?_, hsorted⟩
      rw [hfields']
      exact (if_neg fun hboth => by rw [hgroup'] at hboth; cases hboth.2).trans hr'
  | _ => cases h

/-- **What a level normalised it normalises to itself.** -/
theorem normalize_steady (version : ℤ) (levels : ℕ) :
    KeepsNormal (normalize (F := F) version levels) := by
  induction levels with
  | zero =>
    exact KeepsNormalItem.mapM (normalizeItem_steady fun _ _ _ h => (by cases h))
  | succ levels ih => exact KeepsNormalItem.mapM (normalizeItem_steady ih)

/-! ## 6. Whole plans -/

def planFields (version : ℤ) (steps : List (Doc F)) : List (PyText × Doc F) :=
  [(PlanKey.schemaVersion, .int version), (PlanKey.steps, .arr steps)]

omit [PyFloat F] in
theorem planFields_keys (version : ℤ) (steps : List (Doc F)) :
    ((planFields version steps).map Prod.fst).Nodup := by
  simp [planFields, PlanKey.schemaVersion, PlanKey.steps, ofString_inj]

omit [PyFloat F] in
theorem get_planFields_version (version : ℤ) (steps : List (Doc F)) :
    get (planFields version steps) PlanKey.schemaVersion = some (.int version) := by
  simp [planFields, Doc.get]

omit [PyFloat F] in
theorem get_planFields_steps (version : ℤ) (steps : List (Doc F)) :
    get (planFields version steps) PlanKey.steps = some (.arr steps) := by
  simp [planFields, Doc.get, PlanKey.schemaVersion, PlanKey.steps, ofString_inj]

omit [PyFloat F] in
theorem keysAre_planFields (version : ℤ) (steps : List (Doc F)) :
    keysAre (planFields version steps) [PlanKey.schemaVersion, PlanKey.steps] = true := by
  simp [keysAre, keysWithin, keysCover, planFields, Doc.get, PlanKey.schemaVersion,
    PlanKey.steps, ofString_inj]

/-- What `normalizeDocument` accepts. -/
structure PlanDocument (fields : List (PyText × Doc F)) (version : ℤ)
    (steps normalized : List (Doc F)) : Prop where
  keys : keysAre fields [PlanKey.schemaVersion, PlanKey.steps] = true
  version_eq : versionOf (get fields PlanKey.schemaVersion) = some version
  steps_eq : nonemptyArray (get fields PlanKey.steps) = some steps
  names : ¬(version = 1 ∧ steps.any namesWhen = true)
  normalized_eq : normalize version 2 steps = .ok normalized

theorem normalizeDocument_ok {d r : Doc F} : normalizeDocument d = .ok r ↔
    ∃ fields version steps normalized, d = .obj fields ∧
      PlanDocument fields version steps normalized ∧ r = .obj (planFields version normalized) := by
  constructor
  · intro h
    cases d with
    | obj fields =>
      unfold normalizeDocument at h
      dsimp only at h
      split at h
      · rename_i hkeys
        split at h
        · cases h
        · rename_i version hversion
          split at h
          · cases h
          · rename_i steps hsteps
            split at h
            · cases h
            · rename_i hnames
              obtain ⟨normalized, hnormalized, h⟩ := bind_ok h
              exact ⟨fields, version, steps, normalized, rfl, ⟨hkeys, hversion, hsteps, hnames,
                hnormalized⟩, (Except.ok.inj h).symm⟩
      · cases h
    | _ => cases h
  · rintro ⟨fields, version, steps, normalized, rfl, h, rfl⟩
    unfold normalizeDocument
    dsimp only
    rw [if_pos h.keys, h.version_eq]
    dsimp only
    rw [h.steps_eq]
    dsimp only
    rw [if_neg h.names, h.normalized_eq]
    rfl

omit [PyFloat F] in
theorem versionOf_some {o : Option (Doc F)} {version : ℤ} (h : versionOf o = some version) :
    versionOf (some (.int version : Doc F)) = some version := by
  unfold versionOf at h
  split at h
  · rename_i n
    split at h
    · rename_i hn
      obtain rfl := Option.some.inj h
      exact if_pos hn
    · cases h
  · cases h

/-- Without groups no step names a predicate. -/
theorem namesWhen_normalizeItem {d r : Doc F} (h : normalizeItem 1 depth children d = .ok r) :
    namesWhen r.sorted = false := by
  cases d with
  | obj fields =>
    unfold normalizeItem at h
    dsimp only at h
    rw [if_neg fun hboth => absurd hboth.1 (by decide)] at h
    obtain ⟨tool, args, timeout, -, rfl⟩ := normalizeStep_ok.mp h
    show (get (sortedObject (stepFields tool args timeout)) PlanKey.when').isSome = false
    rw [get_sortedObject (stepFields_keys tool args timeout)]
    simp [stepFields, Doc.get, PlanKey.tool, PlanKey.args, PlanKey.timeoutSimS, PlanKey.when',
      ofString_inj]
  | _ => cases h

theorem namesWhen_normalize {levels : ℕ} {items normalized : List (Doc F)}
    (h : normalize 1 levels items = .ok normalized) :
    (normalized.map sorted).any namesWhen = false := by
  rw [List.any_map, List.any_eq_false]
  intro r hr
  have hitem : ∃ depth children, ∃ d : Doc F, normalizeItem 1 depth children d = .ok r := by
    cases levels with
    | zero =>
      obtain ⟨d, -, hd⟩ := mem_mapM h hr
      exact ⟨_, _, d, hd⟩
    | succ levels =>
      obtain ⟨d, -, hd⟩ := mem_mapM h hr
      exact ⟨_, _, d, hd⟩
  obtain ⟨depth, children, d, hd⟩ := hitem
  rw [Function.comp_apply, namesWhen_normalizeItem hd]
  exact Bool.false_ne_true

/-- **The normal form of a plan is normal.** -/
theorem normalizeDocument_sorted {d r : Doc F} (hd : Unique d) (h : normalizeDocument d = .ok r) :
    Unique r ∧ ∃ r', normalizeDocument r.sorted = .ok r' ∧ r'.sorted = r.sorted := by
  obtain ⟨fields, version, steps, normalized, rfl, hplan, rfl⟩ := normalizeDocument_ok.mp h
  obtain ⟨hsteps, hne⟩ := nonemptyArray_some hplan.steps_eq
  have hsteady := normalize_steady (F := F) version 2
  unfold KeepsNormal at hsteady
  obtain ⟨huniques, hnonempty, normalized', hnormalized', hsorted⟩ :=
    hsteady steps normalized (unique_of_get hd hsteps).items hplan.normalized_eq
  have hkeys := planFields_keys version normalized
  refine ⟨.obj _ hkeys ?_, .obj (planFields version normalized'), ?_, ?_⟩
  · intro field hfield
    simp only [planFields, List.mem_cons, List.not_mem_nil, or_false] at hfield
    rcases hfield with rfl | rfl
    · exact .int _
    · exact .arr _ huniques
  · refine normalizeDocument_ok.mpr ⟨_, version, normalized.map sorted, normalized',
      sorted_obj _, ⟨?_, ?_, ?_, ?_, hnormalized'⟩, rfl⟩
    · rw [keysAre_sortedObject hkeys]
      exact keysAre_planFields version normalized
    · rw [get_sortedObject hkeys, get_planFields_version, versionOf_sorted]
      exact versionOf_some hplan.version_eq
    · rw [get_sortedObject hkeys, get_planFields_steps, nonemptyArray_sorted,
        nonemptyArray_arr (hnonempty hne)]
      rfl
    · rintro ⟨rfl, hany⟩
      rw [namesWhen_normalize hplan.normalized_eq] at hany
      cases hany
  · have harr : (Doc.arr normalized').sorted = (Doc.arr normalized).sorted := by
      rw [sorted_arr, sorted_arr, hsorted]
    refine congrArg Doc.obj (sortedObject_congr ?_)
    simp only [planFields, List.map_cons, List.map_nil, harr]

theorem validateMissionPlan_ok {t : PyText} :
    validateMissionPlan d = .ok t ↔ ∃ r, normalizeDocument d = .ok r ∧ r.dumps = .ok t := by
  constructor
  · intro h
    unfold validateMissionPlan at h
    obtain ⟨r, hr, h⟩ := bind_ok h
    split at h
    · rename_i u hu
      obtain rfl := Except.ok.inj h
      exact ⟨r, hr, hu⟩
    · cases h
  · rintro ⟨r, hr, ht⟩
    unfold validateMissionPlan
    rw [hr, ok_bind, ht]
    rfl

/-- **What is stored is stored again as it is.** -/
theorem validateMissionPlan_again [LawfulPyFloat F] {t : PyText} (hd : Unique d)
    (h : validateMissionPlan d = .ok t) :
    ∃ r, normalizeDocument d = .ok r ∧ loads t = .ok r.sorted ∧
      validateMissionPlan r.sorted = .ok t := by
  obtain ⟨r, hr, ht⟩ := validateMissionPlan_ok.mp h
  obtain ⟨hunique, r', hr', hsorted⟩ := normalizeDocument_sorted hd hr
  refine ⟨r, hr, loads_dumps hunique ht, validateMissionPlan_ok.mpr ⟨r', hr', ?_⟩⟩
  rw [← dumps_sorted, hsorted, dumps_sorted]
  exact ht

end DroneSim
