/-
  File:      DroneSim/Companion/MissionPlan.lean
  Subject:   The parser of mission plans (companion/mission_plan.py).

  `parseMissionPlan` makes the steps that `ConfiguredMission` walks of a document. Which arguments
  a tool takes stands in one table (`toolSchemas`); `validateArguments` reads it.

  * `validateArguments_sorted` -- the order of the arguments does not matter.
-/
import DroneSim.Companion.ConfiguredMission
import DroneSim.Orchestration.MissionPlan

namespace DroneSim

open Library Library.Doc

/-! ## 1. Tools -/

/-- `_ARGUMENTS[tool][0][name]`: the schema of an argument. -/
inductive ArgumentSchema (F : Type) where
  | number (minimum : Doc F) (exclusive : Bool) (maximum : Option (Doc F))
  | integer (allowed : List ℤ)
  | boolean
  | string (allowed : Option (List String))

/-- `_ARGUMENTS[tool]` -/
structure ToolSchema (F : Type) where
  tool : String
  properties : List (String × ArgumentSchema F)
  required : List String

section Tools

variable {F : Type} [PyFloat F] {schema : ToolSchema F} {args : List (PyText × Doc F)}

/-- `_number(minimum=0, maximum=None, exclusive=False)` -/
def number (minimum : Doc F) (maximum : Option (Doc F)) : ArgumentSchema F :=
  .number minimum false maximum

/-- `_POSITIVE` -/
def positive : ArgumentSchema F := .number (.int 0) true none

/-- `_GUIDED` -/
def guided : ArgumentSchema F := .string (some ["GUIDED"])

/-- `_PAYLOAD_ID` -/
def payloadId : ArgumentSchema F := .integer [2, 3, 4]

/-- `_PHASE` -/
def phase : ArgumentSchema F := .string (some ["FM1", "FM2", "FM3"])

/-- `0.1` -/
def tenth : Doc F := .float (PyFloat.read (ofString "0.1"))

/-- `_ARGUMENTS` -/
def toolSchemas : List (ToolSchema F) :=
  [{ tool := "configure_flight"
     properties :=
      [("transit_speed_m_s", number tenth (some (.int 15))),
       ("horizontal_acceleration_m_s2", number tenth (some (.int 5))),
       ("horizontal_jerk_m_s3", number tenth (some (.int 10))),
       ("landing_high_speed_m_s", number (.int 0) (some (.int 3))),
       ("landing_transition_altitude_m", number (.int 1) (some (.int 10)))]
     required :=
      ["transit_speed_m_s", "horizontal_acceleration_m_s2", "horizontal_jerk_m_s3",
       "landing_high_speed_m_s", "landing_transition_altitude_m"] },
   { tool := "set_mode", properties := [("mode", guided)], required := ["mode"] },
   { tool := "arm", properties := [], required := [] },
   { tool := "wait_for_state"
     properties := [("armed", .boolean), ("landed", .boolean), ("mode", .string none)]
     required := [] },
   { tool := "takeoff"
     properties := [("altitude_m", positive), ("tolerance_m", positive)]
     required := ["altitude_m"] },
   { tool := "goto_waypoint"
     properties :=
      [("latitude_deg", number (.int (-90)) (some (.int 90))),
       ("longitude_deg", number (.int (-180)) (some (.int 180))),
       ("altitude_m", positive), ("tolerance_m", positive)]
     required := ["latitude_deg", "longitude_deg", "altitude_m"] },
   { tool := "hold"
     properties := [("duration_sim_s", positive)]
     required := ["duration_sim_s"] },
   { tool := "land", properties := [], required := [] },
   { tool := "goto_course_waypoint"
     properties :=
      [("waypoint", .string none), ("payload_target", payloadId), ("altitude_m", positive),
       ("tolerance_m", positive)]
     required := ["altitude_m"] },
   { tool := "find_marker", properties := [("aruco_id", payloadId)], required := ["aruco_id"] },
   { tool := "precision_land", properties := [("aruco_id", payloadId)], required := ["aruco_id"] },
   { tool := "attach_payload", properties := [("aruco_id", payloadId)], required := ["aruco_id"] },
   { tool := "release_payload"
     properties :=
      [("aruco_id", payloadId), ("delivery_mode", .string (some ["airborne", "grounded"]))]
     required := ["aruco_id", "delivery_mode"] },
   { tool := "begin_phase", properties := [("phase", phase)], required := ["phase"] },
   { tool := "check_phase"
     properties := [("phase", phase), ("checkpoint", .string (some ["D", "H"]))]
     required := ["phase"] }]

/-! ## 2. Arguments -/

/-- What the parser raises. -/
inductive ParseError (F : Type) where
  /-- `ValueError` -/
  | value (text : String)
  /-- `ValueError` with the `repr` of a value behind its text. -/
  | shown (text : String) (value : Doc F)
  /-- `OverflowError`: an integer that no float holds. -/
  | overflow

/-- `float(value)` of a number that is no Boolean. -/
def floatOf : Doc F → Except (ParseError F) (Option F)
  | .int n =>
    match PyFloat.ofInt n with
    | none => .error .overflow
    | some x => .ok (some x)
  | .float x => .ok (some x)
  | _ => .ok none

/-- The number a comparison sees. -/
def numberOf : Doc F → Option ℚ
  | .int n => some n
  | .float x => PyFloat.value x
  | _ => none

/-- `a >= b` of two numbers. -/
def atLeast (a b : Option ℚ) : Bool := a.any fun x => b.any fun y => decide (y ≤ x)

/-- What an argument must be. -/
def ArgumentSchema.check (tool name : String) (schema : ArgumentSchema F) (value : Doc F) :
    Except (ParseError F) Unit :=
  match schema with
  | .number minimum exclusive maximum => do
    match ← floatOf value with
    | none => .error (.value (tool ++ "." ++ name ++ " must be a number"))
    | some x =>
      match PyFloat.value x with
      | none => .error (.value (tool ++ "." ++ name ++ " must be finite"))
      | some q =>
        if ((numberOf minimum).any fun bound => if exclusive then q ≤ bound else q < bound) ||
            ((maximum.bind numberOf).any fun bound => bound < q) then
          .error (.value (tool ++ "." ++ name ++ " is outside its allowed range"))
        else .ok ()
  | .integer allowed =>
    match value with
    | .int n =>
      if n ∈ allowed then .ok ()
      else .error (.shown ("unsupported " ++ tool ++ "." ++ name ++ ": ") value)
    | _ => .error (.value (tool ++ "." ++ name ++ " must be a integer"))
  | .boolean =>
    match value with
    | .bool _ => .ok ()
    | _ => .error (.value (tool ++ "." ++ name ++ " must be a boolean"))
  | .string allowed =>
    match value with
    | .str (c :: s) =>
      if allowed.all fun names => (names.map ofString).contains (c :: s) then .ok ()
      else .error (.shown ("unsupported " ++ tool ++ "." ++ name ++ ": ") value)
    | _ => .error (.value (tool ++ "." ++ name ++ " must be a string"))

/-- The check of one of the arguments. -/
def ToolSchema.checkArgument (schema : ToolSchema F) (field : PyText × Doc F) :
    Except (ParseError F) Unit :=
  match schema.properties.find? fun p => ofString p.1 = field.1 with
  | none => .error (.value (schema.tool ++ " args have missing or unknown fields"))
  | some p => p.2.check schema.tool p.1 field.2

/-- `for name, value in args.items()` -/
def ToolSchema.checkArguments (schema : ToolSchema F) :
    List (PyText × Doc F) → Except (ParseError F) Unit
  | [] => .ok ()
  | field :: rest => do
    schema.checkArgument field
    schema.checkArguments rest

/-- `value == text` -/
def isText (text : String) : Option (Doc F) → Bool
  | some (.str s) => decide (s = ofString text)
  | _ => false

/-- What a tool asks of its arguments together. -/
def checkTogether (tool : String) (arg : String → Option (Doc F)) : Except (ParseError F) Unit :=
  if tool = "takeoff" ∧ atLeast (numberOf ((arg "tolerance_m").getD (.int 0)))
      ((arg "altitude_m").bind numberOf) = true then
    .error (.value "takeoff tolerance_m must be less than altitude_m")
  else if tool = "goto_course_waypoint" ∧
      (["waypoint", "payload_target"].filter fun name => (arg name).isSome).length ≠ 1 then
    .error (.value "goto_course_waypoint requires exactly one of waypoint or payload_target")
  else if tool = "check_phase" ∧ isText "FM1" (arg "phase") = true ∧ arg "checkpoint" = none then
    .error (.value "check_phase FM1 requires checkpoint D or H")
  else if tool = "check_phase" ∧ isText "FM1" (arg "phase") = false ∧
      (arg "checkpoint").isSome = true then
    .error (.value "check_phase checkpoint is only valid for FM1")
  else .ok ()

/-- The keys a tool takes. -/
def ToolSchema.names (schema : ToolSchema F) : List PyText :=
  schema.properties.map fun p => ofString p.1

/-- The checks of the arguments of a known tool. -/
def ToolSchema.validate (schema : ToolSchema F) (args : List (PyText × Doc F)) :
    Except (ParseError F) (List (PyText × Doc F)) :=
  if keysCover args (schema.required.map ofString) && keysWithin args schema.names then
    if schema.tool = "wait_for_state" ∧ args = [] then
      .error (.value "wait_for_state requires at least one condition")
    else do
      schema.checkArguments args
      checkTogether schema.tool fun name => get args (ofString name)
      return args
  else .error (.value (schema.tool ++ " args have missing or unknown fields"))

/-- `_ARGUMENTS[tool]` -/
def schemaOf (tool : PyText) : Option (ToolSchema F) :=
  toolSchemas.find? fun schema => ofString schema.tool = tool

/-- `validate_arguments(tool, args)` -/
def validateArguments (tool args : Doc F) : Except (ParseError F) (List (PyText × Doc F)) :=
  match tool with
  | .str name =>
    match schemaOf name with
    | none => .error (.shown "unsupported tool: " tool)
    | some schema =>
      match args with
      | .obj fields => schema.validate fields
      | _ => .error (.value (schema.tool ++ " args must be an object"))
  | _ => .error (.shown "unsupported tool: " tool)

/-- `positive_seconds(value, name)` -/
def positiveSeconds (value : Doc F) (name : String) : Except (ParseError F) ℚ := do
  match (← floatOf value).bind PyFloat.value with
  | none => .error (.value (name ++ " must be finite and positive"))
  | some seconds =>
    if (numberOf value).any fun q => decide (0 < q) then .ok seconds
    else .error (.value (name ++ " must be finite and positive"))

/-! ## 3. Plans -/

/-- `_parse_condition(raw, path)` -/
def parseCondition (raw : Option (Doc F)) (path : String) : Except (ParseError F) Condition :=
  match raw with
  | some (.obj fields) =>
    if fields.length = 1 then
      if isAnyEligible (.obj fields) then .ok .anyPayloadEligible
      else
        match eligiblePayload (.obj fields) with
        | some payload => .ok (.payloadEligible payload)
        | none => .error (.value (path ++
            ".when must be any_payload_eligible true or payload_eligible 2, 3, or 4"))
    else .error (.value (path ++ ".when must contain one known predicate"))
  | _ => .error (.value (path ++ ".when must contain one known predicate"))

/-- The arguments a step keeps. -/
abbrev StepArgs (F : Type) := List (PyText × Doc F)

/-- What becomes of the steps below a group. -/
abbrev Children (F : Type) :=
  String → Option (Doc F) → Except (ParseError F) (List (PlanItem (StepArgs F)))

/-- The text of a tool. -/
def toolText : Option (Doc F) → PyText
  | some (.str s) => s
  | _ => []

/-- A step that is no group. -/
def parseStep (fields : List (PyText × Doc F)) (path : String) :
    Except (ParseError F) (PlanItem (StepArgs F)) :=
  if keysCover fields [PlanKey.tool, PlanKey.args] &&
      keysWithin fields [PlanKey.tool, PlanKey.args, PlanKey.timeoutSimS] then do
    let args ← validateArguments ((get fields PlanKey.tool).getD .null)
      ((get fields PlanKey.args).getD .null)
    let timeout ← positiveSeconds ((get fields PlanKey.timeoutSimS).getD (.int 60)) "timeout_sim_s"
    if isText "hold" (get fields PlanKey.tool) &&
        atLeast ((get args (ofString "duration_sim_s")).bind numberOf) (some timeout) then
      throw (.value "hold duration_sim_s must be less than timeout_sim_s")
    else
      return .step
        { tool := textString (toolText (get fields PlanKey.tool)), args := args,
          timeoutSimS := timeout }
  else .error (.value (path ++ " requires tool, args, optional timeout_sim_s"))

/-- A conditional group. -/
def parseGroup (version : ℤ) (depth : ℕ) (children : Children F)
    (fields : List (PyText × Doc F)) (path : String) :
    Except (ParseError F) (PlanItem (StepArgs F)) :=
  if version ≠ 2 then
    .error (.value (path ++ " conditional groups require schema_version 2"))
  else if 2 ≤ depth then
    .error (.value (path ++ " exceeds the maximum conditional group depth"))
  else do
    let condition ← parseCondition (get fields PlanKey.when') path
    let steps ← children (path ++ ".steps") (get fields PlanKey.steps)
    return .group condition steps

def parseItem (version : ℤ) (depth : ℕ) (children : Children F) (path : String) :
    Doc F → Except (ParseError F) (PlanItem (StepArgs F))
  | .obj fields =>
    if isGroup fields then parseGroup version depth children fields path
    else parseStep fields path
  | _ => .error (.value (path ++ " must be an object"))

/-- `for index, raw in enumerate(raw_items)` -/
def parseFrom (item : String → Doc F → Except (ParseError F) (PlanItem (StepArgs F)))
    (path : String) : ℕ → List (Doc F) → Except (ParseError F) (List (PlanItem (StepArgs F)))
  | _, [] => .ok []
  | index, raw :: rest => do
    let parsed ← item (path ++ "[" ++ toString index ++ "]") raw
    let items ← parseFrom item path (index + 1) rest
    return parsed :: items

/-- The items of a nonempty list. -/
def parseList (item : String → Doc F → Except (ParseError F) (PlanItem (StepArgs F))) :
    Children F := fun path raw =>
  match nonemptyArray raw with
  | none => .error (.value (path ++ " must be a nonempty list"))
  | some items => parseFrom item path 0 items

/-- `_parse_items(raw_items, version=version, depth=depth, path=path)`, with `levels` levels of
    groups left below. -/
def parseItems (version : ℤ) : ℕ → Children F
  | 0 => parseList (parseItem version 2 fun path _ =>
      .error (.value (path ++ " exceeds the maximum conditional group depth")))
  | levels + 1 => parseList (parseItem version (1 - levels) (parseItems version levels))

omit [PyFloat F] in
theorem parseList_ok {item : String → Doc F → Except (ParseError F) (PlanItem (StepArgs F))}
    {path : String} {raw : Option (Doc F)} {parsed : List (PlanItem (StepArgs F))} :
    parseList item path raw = .ok parsed ↔
      ∃ items, nonemptyArray raw = some items ∧ parseFrom item path 0 items = .ok parsed := by
  unfold parseList
  split
  · rename_i h
    rw [h]
    exact ⟨fun h => (by cases h), fun ⟨_, h, _⟩ => (by cases h)⟩
  · rename_i items h
    rw [h]
    exact ⟨fun hparsed => ⟨items, rfl, hparsed⟩,
      fun ⟨_, hitems, hparsed⟩ => Option.some.inj hitems ▸ hparsed⟩

omit [PyFloat F] in
theorem parseFrom_nonempty {item : String → Doc F → Except (ParseError F) (PlanItem (StepArgs F))}
    {path : String} {index : ℕ} {items : List (Doc F)} {parsed : List (PlanItem (StepArgs F))}
    (h : parseFrom item path index items = .ok parsed) (hne : items ≠ []) : parsed ≠ [] := by
  cases items with
  | nil => exact absurd rfl hne
  | cons raw rest =>
    unfold parseFrom at h
    obtain ⟨first, -, h⟩ := bind_ok h
    obtain ⟨others, -, h⟩ := bind_ok h
    rw [← Except.ok.inj h]
    exact List.cons_ne_nil _ _

theorem parseItems_nonempty {version : ℤ} {levels : ℕ} {path : String} {raw : Option (Doc F)}
    {parsed : List (PlanItem (StepArgs F))} (h : parseItems version levels path raw = .ok parsed) :
    parsed ≠ [] := by
  cases levels with
  | zero =>
    obtain ⟨items, hitems, h⟩ := parseList_ok.mp h
    exact parseFrom_nonempty h (nonemptyArray_some hitems).2
  | succ levels =>
    obtain ⟨items, hitems, h⟩ := parseList_ok.mp h
    exact parseFrom_nonempty h (nonemptyArray_some hitems).2

/-- `MissionPlan` with its version. -/
structure VersionedPlan (Args : Type) where
  plan : MissionPlan Args
  schemaVersion : ℤ

/-- `parse_mission_plan(document)` -/
def parseMissionPlan : Doc F → Except (ParseError F) (VersionedPlan (StepArgs F))
  | .obj fields =>
    if keysAre fields [PlanKey.schemaVersion, PlanKey.steps] then
      match versionOf (get fields PlanKey.schemaVersion) with
      | none => .error (.value "mission_plan schema_version must be 1 or 2")
      | some version =>
        match h : parseItems version 2 "steps" (get fields PlanKey.steps) with
        | .error e => .error e
        | .ok steps => .ok ⟨⟨steps, parseItems_nonempty h⟩, version⟩
    else .error (.value "mission_plan requires schema_version and steps only")
  | _ => .error (.value "mission_plan requires schema_version and steps only")

/-! ## 4. The order of the arguments -/

theorem floatOf_sorted {d : Doc F} {o : Option F} (h : floatOf d = .ok o) (ho : o ≠ none) :
    d.sorted = d := by
  cases d with
  | int n => rfl
  | float x => rfl
  | null => rfl
  | bool b => rfl
  | str s => rfl
  | arr items => exact absurd (Except.ok.inj h).symm ho
  | obj fields => exact absurd (Except.ok.inj h).symm ho

/-- An argument is no array and no object. -/
theorem ArgumentSchema.sorted_of_check {tool name : String} {schema : ArgumentSchema F}
    {value : Doc F} (h : schema.check tool name value = .ok ()) : value.sorted = value := by
  cases schema with
  | number minimum exclusive maximum =>
    obtain ⟨o, ho, h⟩ := bind_ok h
    cases o with
    | none => cases h
    | some x => exact floatOf_sorted ho (Option.some_ne_none x)
  | _ =>
    cases value with
    | arr items => cases h
    | obj fields => cases h
    | _ => rfl

theorem ToolSchema.checkArguments_ok :
    schema.checkArguments args = .ok () ↔ ∀ field ∈ args, schema.checkArgument field = .ok () := by
  induction args with
  | nil => exact ⟨fun _ _ h => absurd h List.not_mem_nil, fun _ => rfl⟩
  | cons field rest ih =>
    unfold ToolSchema.checkArguments
    rw [seq_ok, ih, List.forall_mem_cons]

theorem ToolSchema.sorted_of_checkArgument {field : PyText × Doc F}
    (h : schema.checkArgument field = .ok ()) : field.2.sorted = field.2 := by
  unfold ToolSchema.checkArgument at h
  split at h
  · cases h
  · exact ArgumentSchema.sorted_of_check h

/-- What the arguments of a known tool fulfil. -/
structure ToolSchema.Accepts (schema : ToolSchema F) (args : List (PyText × Doc F)) : Prop where
  covers : keysCover args (schema.required.map ofString) = true
  within : keysWithin args schema.names = true
  waits : ¬(schema.tool = "wait_for_state" ∧ args = [])
  each : ∀ field ∈ args, schema.checkArgument field = .ok ()
  together : checkTogether schema.tool (fun name => get args (ofString name)) = .ok ()

theorem ToolSchema.validate_ok {args r : List (PyText × Doc F)} :
    schema.validate args = .ok r ↔ schema.Accepts args ∧ r = args := by
  constructor
  · intro h
    unfold ToolSchema.validate at h
    split at h
    · rename_i hkeys
      rw [Bool.and_eq_true] at hkeys
      split at h
      · cases h
      · rename_i hwaits
        obtain ⟨u, heach, h⟩ := bind_ok h
        obtain ⟨v, htogether, h⟩ := bind_ok h
        exact ⟨⟨hkeys.1, hkeys.2, hwaits, checkArguments_ok.mp heach, htogether⟩,
          (Except.ok.inj h).symm⟩
    · cases h
  · rintro ⟨h, rfl⟩
    unfold ToolSchema.validate
    rw [if_pos (by rw [h.covers, h.within]; rfl), if_neg h.waits, checkArguments_ok.mpr h.each,
      ok_bind, h.together]
    rfl

theorem ToolSchema.Accepts.sortedFields (h : schema.Accepts args) : sortedFields args = args := by
  rw [sortedFields_eq]
  refine (List.map_congr_left fun field hfield => ?_).trans (List.map_id args)
  exact Prod.ext rfl (sorted_of_checkArgument (h.each field hfield))

theorem ToolSchema.Accepts.perm (h : schema.Accepts args) : (sortedObject args).Perm args := by
  unfold sortedObject
  rw [h.sortedFields]
  exact perm_byKey args

/-- **The order of the arguments does not matter.** -/
theorem ToolSchema.Accepts.sortedObject (h : schema.Accepts args)
    (hkeys : (args.map Prod.fst).Nodup) :
    schema.Accepts (sortedObject args) where
  covers := by
    rw [keysCover_sortedObject hkeys]
    exact h.covers
  within := by
    rw [keysWithin_sortedObject]
    exact h.within
  waits := fun hwaits => by
    have hlength := length_sortedObject args
    rw [hwaits.2] at hlength
    exact h.waits ⟨hwaits.1, List.eq_nil_of_length_eq_zero hlength.symm⟩
  each := fun field hfield => h.each field (h.perm.mem_iff.mp hfield)
  together := by
    have hget : (fun name => get (Doc.sortedObject args) (ofString name)) =
        fun name => get args (ofString name) := by
      funext name
      exact (get_perm h.perm.symm hkeys (ofString name)).symm
    rw [hget]
    exact h.together

/-- What `validateArguments` accepts. -/
theorem validateArguments_ok {tool args : Doc F} {r : List (PyText × Doc F)} :
    validateArguments tool args = .ok r ↔ ∃ name schema, tool = .str name ∧
      schemaOf name = some schema ∧ args = .obj r ∧ schema.Accepts r := by
  constructor
  · intro h
    cases tool with
    | str name =>
      unfold validateArguments at h
      dsimp only at h
      split at h
      · cases h
      · rename_i schema hschema
        cases args with
        | obj fields =>
          obtain ⟨haccepts, rfl⟩ := ToolSchema.validate_ok.mp h
          exact ⟨name, schema, rfl, hschema, rfl, haccepts⟩
        | _ => cases h
    | _ => cases h
  · rintro ⟨name, schema, rfl, hschema, rfl, haccepts⟩
    unfold validateArguments
    dsimp only
    rw [hschema]
    exact ToolSchema.validate_ok.mpr ⟨haccepts, rfl⟩

theorem validateArguments_sorted {tool : Doc F} {r : List (PyText × Doc F)}
    (hkeys : (args.map Prod.fst).Nodup) (h : validateArguments tool (.obj args) = .ok r) :
    r = args ∧ (sortedObject args).Perm args ∧
      validateArguments tool (.obj (sortedObject args)) = .ok (sortedObject args) := by
  obtain ⟨name, schema, rfl, hschema, hr, haccepts⟩ := validateArguments_ok.mp h
  obtain rfl := Doc.obj.inj hr
  exact ⟨rfl, haccepts.perm, validateArguments_ok.mpr ⟨name, schema, rfl, hschema, rfl,
    haccepts.sortedObject hkeys⟩⟩

end Tools

end DroneSim
