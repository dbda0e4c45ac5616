/-
  File:      DroneSim/Companion/PlanAgreement.lean
  Subject:   A mission plan and its normal form mean the same.

  The plan that runs is parsed from the text the configuration stores. Each step of the normal form
  is parsed as the step it was made of: its keys are in another order, and its time limit is named.

  * `mission_plan_stable` -- the stored text is stored again as it is, and it is parsed as the plan
    of the document.
-/
import DroneSim.Companion.MissionPlan

namespace DroneSim

open Library Library.Doc

/-! ## 1. Equal plans -/

/-- `==` of two items of plans: the arguments are mappings, whose order does not count. -/
inductive PlanItem.Same {F : Type} :
    PlanItem (StepArgs F) → PlanItem (StepArgs F) → Prop where
  | step {s s' : MissionStep (StepArgs F)} (tool : s.tool = s'.tool) (args : s.args.Perm s'.args)
      (timeout : s.timeoutSimS = s'.timeoutSimS) : Same (.step s) (.step s')
  | group (condition : Condition) {l l' : List (PlanItem (StepArgs F))}
      (h : List.Forall₂ Same l l') : Same (.group condition l) (.group condition l')

/-- `==` of two plans. -/
structure VersionedPlan.Same {F : Type} (p q : VersionedPlan (StepArgs F)) : Prop where
  steps : List.Forall₂ PlanItem.Same p.plan.steps q.plan.steps
  schemaVersion : p.schemaVersion = q.schemaVersion

variable {F : Type} [PyFloat F] {item : PlanItem (StepArgs F)} {fields : List (PyText × Doc F)}
  {path : String}

/-! ## 2. Steps -/

/-- What `parseStep` accepts. -/
structure ParsedStep (fields : List (PyText × Doc F)) (args : StepArgs F) (timeout : ℚ) :
    Prop where
  covers : keysCover fields [PlanKey.tool, PlanKey.args] = true
  within : keysWithin fields [PlanKey.tool, PlanKey.args, PlanKey.timeoutSimS] = true
  args_ok : validateArguments ((get fields PlanKey.tool).getD .null)
    ((get fields PlanKey.args).getD .null) = .ok args
  timeout_ok : positiveSeconds ((get fields PlanKey.timeoutSimS).getD (.int 60)) "timeout_sim_s" =
    .ok timeout
  hold : (isText "hold" (get fields PlanKey.tool) &&
    atLeast ((get args (ofString "duration_sim_s")).bind numberOf) (some timeout)) = false

theorem parseStep_ok :
    parseStep fields path = .ok item ↔ ∃ args timeout, ParsedStep fields args timeout ∧
      item = .step ⟨textString (toolText (get fields PlanKey.tool)), args, timeout⟩ := by
  constructor
  · intro h
    unfold parseStep at h
    split at h
    · rename_i hkeys
      rw [Bool.and_eq_true] at hkeys
      obtain ⟨args, hargs, h⟩ := bind_ok h
      obtain ⟨timeout, htimeout, h⟩ := bind_ok h
      split at h
      · cases h
      · rename_i hhold
        exact ⟨args, timeout, ⟨hkeys.1, hkeys.2, hargs, htimeout, by simpa using hhold⟩,
          (Except.ok.inj h).symm⟩
    · cases h
  · rintro ⟨args, timeout, h, rfl⟩
    unfold parseStep
    rw [if_pos (by rw [h.covers, h.within]; rfl), h.args_ok, ok_bind, h.timeout_ok, ok_bind,
      if_neg (by rw [h.hold]; exact Bool.false_ne_true)]
    rfl

/-- **A step of the normal form is parsed as the step.** -/
theorem parseStep_normalized {tool : PyText} {args : List (PyText × Doc F)} {timeout : Doc F}
    (hfields : Unique (.obj fields)) (hstep : PlainStep fields tool args timeout)
    (h : parseStep fields path = .ok item) :
    ∃ item', parseStep (sortedObject (stepFields tool args timeout)) path = .ok item' ∧
      item.Same item' := by
  obtain ⟨kept, seconds, hparsed, rfl⟩ := parseStep_ok.mp h
  have hkeys := stepFields_keys tool args timeout
  have hargs : Unique (.obj args) := unique_of_get hfields hstep.args_eq
  have hvalid := hparsed.args_ok
  rw [hstep.tool_eq, hstep.args_eq] at hvalid
  obtain ⟨rfl, hperm, hsorted⟩ := validateArguments_sorted hargs.keys hvalid
  have hnormal := (plainStep_stepFields hstep).sortedObject hkeys
  have hseconds := hparsed.timeout_ok
  rw [hstep.timeout_eq] at hseconds
  refine ⟨.step ⟨textString (toolText (get fields PlanKey.tool)), sortedObject kept, seconds⟩,
    parseStep_ok.mpr ⟨sortedObject kept, seconds, ⟨hnormal.covers, hnormal.within, ?_, ?_, ?_⟩, ?_⟩,
    .step rfl hperm.symm rfl⟩
  · rw [hnormal.tool_eq, hnormal.args_eq]
    exact hsorted
  · rw [hnormal.timeout_eq]
    exact hseconds
  · have hhold := hparsed.hold
    rw [hstep.tool_eq, get_perm hperm.symm hargs.keys] at hhold
    rw [hnormal.tool_eq]
    exact hhold
  · rw [hstep.tool_eq, hnormal.tool_eq]

/-! ## 3. Groups -/

/-- **A predicate of the normal form is parsed as the predicate.** -/
theorem parseCondition_sorted {d : Doc F} (hd : Unique d) (path : String) :
    parseCondition (some d.sorted) path = parseCondition (some d) path := by
  cases d with
  | obj fields =>
    have hany := isAnyEligible_sorted hd
    have hpayload := eligiblePayload_sorted hd
    rw [sorted_obj] at hany hpayload ⊢
    unfold parseCondition
    dsimp only
    rw [length_sortedObject, hany, hpayload]
  | _ => rfl

/-- What `parseGroup` accepts. -/
structure ParsedGroup (version : ℤ) (depth : ℕ) (children : Children F)
    (fields : List (PyText × Doc F)) (path : String) (condition : Condition)
    (steps : List (PlanItem (StepArgs F))) : Prop where
  version_eq : version = 2
  depth_lt : depth < 2
  condition_ok : parseCondition (get fields PlanKey.when') path = .ok condition
  steps_ok : children (path ++ ".steps") (get fields PlanKey.steps) = .ok steps

theorem parseGroup_ok {version : ℤ} {depth : ℕ} {children : Children F} :
    parseGroup version depth children fields path = .ok item ↔
      ∃ condition steps, ParsedGroup version depth children fields path condition steps ∧
        item = .group condition steps := by
  constructor
  · intro h
    unfold parseGroup at h
    split at h
    · cases h
    · rename_i hversion
      split at h
      · cases h
      · rename_i hdepth
        obtain ⟨condition, hcondition, h⟩ := bind_ok h
        obtain ⟨steps, hsteps, h⟩ := bind_ok h
        exact ⟨condition, steps, ⟨not_not.mp hversion, by omega, hcondition, hsteps⟩,
          (Except.ok.inj h).symm⟩
  · rintro ⟨condition, steps, h, rfl⟩
    unfold parseGroup
    rw [if_neg (not_not.mpr h.version_eq), if_neg (Nat.not_le.mpr h.depth_lt), h.condition_ok,
      ok_bind, h.steps_ok]
    rfl

/-- The parser below a group reads what was normalised as what it was made of. -/
def Agrees (normal : List (Doc F) → Except PlanError (List (Doc F))) (parsed : Children F) : Prop :=
  ∀ path l l' items, (∀ d ∈ l, d.Unique) → normal l = .ok l' →
    parsed path (some (.arr l)) = .ok items →
      ∃ items', parsed path (some (.arr (l'.map sorted))) = .ok items' ∧
        List.Forall₂ PlanItem.Same items items'

theorem parseGroup_normalized {version : ℤ} {depth : ℕ}
    {normal : List (Doc F) → Except PlanError (List (Doc F))} {parsed : Children F}
    (hagrees : Agrees normal parsed) {when' : Doc F} {steps normalized : List (Doc F)}
    (hfields : Unique (.obj fields)) (hgroup : GroupStep depth normal fields when' steps normalized)
    (h : parseGroup version depth parsed fields path = .ok item) :
    ∃ item', parseGroup version depth parsed (sortedObject (groupFields when' normalized)) path =
      .ok item' ∧ item.Same item' := by
  obtain ⟨condition, items, hparsed, rfl⟩ := parseGroup_ok.mp h
  obtain ⟨hsteps, -⟩ := nonemptyArray_some hgroup.steps_eq
  have hcondition := hparsed.condition_ok
  have hitems := hparsed.steps_ok
  rw [hgroup.when_eq] at hcondition
  rw [hsteps] at hitems
  unfold Agrees at hagrees
  obtain ⟨items', hitems', hsame⟩ := hagrees _ steps normalized items
    (unique_of_get hfields hsteps).items hgroup.children_eq hitems
  have hkeys := groupFields_keys when' normalized
  refine ⟨.group condition items', parseGroup_ok.mpr ⟨condition, items',
    ⟨hparsed.version_eq, hparsed.depth_lt, ?_, ?_⟩, rfl⟩, .group condition hsame⟩
  · rw [get_sortedObject hkeys, get_groupFields_when, Option.map_some,
      parseCondition_sorted (unique_of_get hfields hgroup.when_eq)]
    exact hcondition
  · rw [get_sortedObject hkeys, get_groupFields_steps, Option.map_some, sorted_arr]
    exact hitems'

/-! ## 4. Items -/

theorem parseItem_obj (version : ℤ) (depth : ℕ) (children : Children F) (path : String)
    (fields : List (PyText × Doc F)) : parseItem version depth children path (.obj fields) =
      if isGroup fields then parseGroup version depth children fields path
      else parseStep fields path := rfl

theorem parseItem_normalized {version : ℤ} {depth : ℕ}
    {normal : List (Doc F) → Except PlanError (List (Doc F))} {parsed : Children F}
    (hagrees : Agrees normal parsed) {d r : Doc F} (hd : Unique d)
    (hr : normalizeItem version depth normal d = .ok r)
    (h : parseItem version depth parsed path d = .ok item) :
    ∃ item', parseItem version depth parsed path r.sorted = .ok item' ∧ item.Same item' := by
  cases d with
  | obj fields =>
    rw [parseItem_obj] at h
    split at h
    · rename_i hgroup
      have hversion : version = 2 := by
        obtain ⟨_, _, hparsed, -⟩ := parseGroup_ok.mp h
        exact hparsed.version_eq
      have hnormal : normalizeGroup depth normal fields = .ok r :=
        (if_pos ⟨hversion, hgroup⟩).symm.trans hr
      obtain ⟨when', steps, normalized, hstep, rfl⟩ := normalizeGroup_ok.mp hnormal
      obtain ⟨item', hitem', hsame⟩ := parseGroup_normalized hagrees hd hstep h
      have hsorted : isGroup (sortedObject (groupFields when' normalized)) = true := by
        unfold isGroup
        rw [keysAre_sortedObject (groupFields_keys when' normalized)]
        exact isGroup_groupFields when' normalized
      refine ⟨item', ?_, hsame⟩
      rw [sorted_obj, parseItem_obj, if_pos hsorted]
      exact hitem'
    · rename_i hgroup
      have hnormal : normalizeStep fields = .ok r :=
        (if_neg fun hboth => hgroup hboth.2).symm.trans hr
      obtain ⟨tool, args, timeout, hstep, rfl⟩ := normalizeStep_ok.mp hnormal
      obtain ⟨item', hitem', hsame⟩ := parseStep_normalized hd hstep h
      have hsorted : ¬isGroup (sortedObject (stepFields tool args timeout)) = true := by
        unfold isGroup
        rw [keysAre_sortedObject (stepFields_keys tool args timeout), Bool.not_eq_true]
        exact isGroup_stepFields tool args timeout
      refine ⟨item', ?_, hsame⟩
      rw [sorted_obj, parseItem_obj, if_neg hsorted]
      exact hitem'
  | _ => cases h

omit [PyFloat F] in
theorem parseFrom_normalized {normal : Doc F → Except PlanError (Doc F)}
    {parsed : String → Doc F → Except (ParseError F) (PlanItem (StepArgs F))}
    (hitem : ∀ path d r item, d.Unique → normal d = .ok r → parsed path d = .ok item →
      ∃ item', parsed path r.sorted = .ok item' ∧ item.Same item') {l l' : List (Doc F)}
    (hl : ∀ d ∈ l, d.Unique) (hnormal : l.mapM normal = .ok l') {index : ℕ}
    {items : List (PlanItem (StepArgs F))} (h : parseFrom parsed path index l = .ok items) :
    ∃ items', parseFrom parsed path index (l'.map sorted) = .ok items' ∧
      List.Forall₂ PlanItem.Same items items' := by
  rw [mapM_ok] at hnormal
  induction hnormal generalizing index items with
  | nil =>
    obtain rfl := Except.ok.inj h
    exact ⟨[], rfl, .nil⟩
  | cons hhead _ ih =>
    rw [List.forall_mem_cons] at hl
    unfold parseFrom at h
    obtain ⟨first, hfirst, h⟩ := bind_ok h
    obtain ⟨rest, hrest, h⟩ := bind_ok h
    obtain rfl := Except.ok.inj h
    obtain ⟨first', hfirst', hsame⟩ := hitem _ _ _ _ hl.1 hhead hfirst
    obtain ⟨rest', hrest', hsames⟩ := ih hl.2 hrest
    refine ⟨first' :: rest', ?_, .cons hsame hsames⟩
    rw [List.map_cons]
    unfold parseFrom
    rw [hfirst', ok_bind, hrest']
    rfl

omit [PyFloat F] in
theorem agrees_of_item {normal : Doc F → Except PlanError (Doc F)}
    {parsed : String → Doc F → Except (ParseError F) (PlanItem (StepArgs F))}
    (hitem : ∀ path d r item, d.Unique → normal d = .ok r → parsed path d = .ok item →
      ∃ item', parsed path r.sorted = .ok item' ∧ item.Same item') :
    Agrees (fun l => l.mapM normal) (parseList parsed) := by
  unfold Agrees
  intro path l l' items hl hnormal h
  obtain ⟨raw, hraw, h⟩ := parseList_ok.mp h
  obtain ⟨heq, hne⟩ := nonemptyArray_some hraw
  obtain rfl := Doc.arr.inj (Option.some.inj heq)
  obtain ⟨items', hitems', hsame⟩ := parseFrom_normalized hitem hl hnormal h
  have hlength := (mapM_ok.mp hnormal).length_eq
  refine ⟨items', parseList_ok.mpr ⟨l'.map sorted, nonemptyArray_arr ?_, hitems'⟩, hsame⟩
  intro hnil
  rw [List.map_eq_nil_iff] at hnil
  rw [hnil] at hlength
  exact hne (List.eq_nil_of_length_eq_zero hlength)

/-- **Each level of the normal form is parsed as the level.** -/
theorem agrees_normalize (version : ℤ) (levels : ℕ) :
    Agrees (normalize (F := F) version levels) (parseItems version levels) := by
  induction levels with
  | zero =>
    refine agrees_of_item fun path d r item hd hr h => parseItem_normalized ?_ hd hr h
    unfold Agrees
    intro _ _ _ _ _ hnormal
    cases hnormal
  | succ levels ih =>
    exact agrees_of_item fun path d r item hd hr h => parseItem_normalized ih hd hr h

/-! ## 5. Whole plans -/

theorem parseMissionPlan_ok {d : Doc F} {plan : VersionedPlan (StepArgs F)} :
    parseMissionPlan d = .ok plan ↔ ∃ fields, d = .obj fields ∧
      keysAre fields [PlanKey.schemaVersion, PlanKey.steps] = true ∧
        versionOf (get fields PlanKey.schemaVersion) = some plan.schemaVersion ∧
          parseItems plan.schemaVersion 2 "steps" (get fields PlanKey.steps) =
            .ok plan.plan.steps := by
  constructor
  · intro h
    cases d with
    | obj fields =>
      unfold parseMissionPlan at h
      dsimp only at h
      split at h
      · rename_i hkeys
        split at h
        · cases h
        · rename_i version hversion
          split at h
          · cases h
          · rename_i steps hsteps
            obtain rfl := Except.ok.inj h
            exact ⟨fields, rfl, hkeys, hversion, hsteps⟩
      · cases h
    | _ => cases h
  · rintro ⟨fields, rfl, hkeys, hversion, hsteps⟩
    unfold parseMissionPlan
    dsimp only
    rw [if_pos hkeys, hversion]
    dsimp only
    split
    · rename_i e he
      rw [hsteps] at he
      cases he
    · rename_i steps hok
      rw [hsteps] at hok
      obtain ⟨⟨kept, hne⟩, version⟩ := plan
      obtain rfl : kept = steps := Except.ok.inj hok
      rfl

/-- **The normal form of a plan is parsed as the plan.** -/
theorem parseMissionPlan_normalized {d r : Doc F} {plan : VersionedPlan (StepArgs F)}
    (hd : Unique d) (hr : normalizeDocument d = .ok r) (h : parseMissionPlan d = .ok plan) :
    ∃ plan', parseMissionPlan r.sorted = .ok plan' ∧ plan.Same plan' := by
  obtain ⟨fields, version, steps, normalized, rfl, hplan, rfl⟩ := normalizeDocument_ok.mp hr
  obtain ⟨fields', heq, -, hversion, hitems⟩ := parseMissionPlan_ok.mp h
  obtain rfl := Doc.obj.inj heq
  rw [hplan.version_eq] at hversion
  obtain rfl := Option.some.inj hversion
  obtain ⟨hsteps, -⟩ := nonemptyArray_some hplan.steps_eq
  rw [hsteps] at hitems
  have hagrees := agrees_normalize (F := F) plan.schemaVersion 2
  unfold Agrees at hagrees
  obtain ⟨items', hitems', hsame⟩ := hagrees _ steps normalized _
    (unique_of_get hd hsteps).items hplan.normalized_eq hitems
  have hkeys := planFields_keys plan.schemaVersion normalized
  refine ⟨⟨⟨items', parseItems_nonempty hitems'⟩, plan.schemaVersion⟩,
    parseMissionPlan_ok.mpr ⟨_, sorted_obj _, ?_, ?_, ?_⟩, hsame, rfl⟩
  · rw [keysAre_sortedObject hkeys]
    exact keysAre_planFields plan.schemaVersion normalized
  · rw [get_sortedObject hkeys, get_planFields_version, versionOf_sorted]
    exact versionOf_some hplan.version_eq
  · rw [get_sortedObject hkeys, get_planFields_steps, Option.map_some, sorted_arr]
    exact hitems'

/-- **A stored plan is stored again as it is, and it is the plan of the document**: the text of an
    accepted document is accepted again and is its own normal form, and where the parser accepts
    the document too it reads an equal plan from the text. -/
theorem mission_plan_stable [LawfulPyFloat F] (document : Doc F) (hd : Unique document)
    (text : PyText) (h : validateMissionPlan document = .ok text) :
    ∃ stored, loads text = .ok stored ∧ validateMissionPlan stored = .ok text ∧
      ∀ plan, parseMissionPlan document = .ok plan →
        ∃ plan', parseMissionPlan stored = .ok plan' ∧ plan.Same plan' := by
  obtain ⟨r, hr, hloads, hagain⟩ := validateMissionPlan_again hd h
  exact ⟨r.sorted, hloads, hagain, fun plan hplan => parseMissionPlan_normalized hd hr hplan⟩

omit [PyFloat F] in
/-- An object of two fields. -/
theorem unique_pair {k l : PyText} {v w : Doc F} (hne : k ≠ l) (hv : Unique v) (hw : Unique w) :
    Unique (.obj [(k, v), (l, w)]) := by
  refine .obj _ (by simpa using hne) fun field hfield => ?_
  simp only [List.mem_cons, List.not_mem_nil, or_false] at hfield
  rcases hfield with rfl | rfl
  · exact hv
  · exact hw

omit [PyFloat F] in
/-- An object of one field. -/
theorem unique_single {k : PyText} {v : Doc F} (hv : Unique v) : Unique (.obj [(k, v)]) :=
  .obj _ (List.nodup_singleton k) fun _ hfield => List.mem_singleton.mp hfield ▸ hv

/-- A hold that names no time limit. -/
def holdStep : Doc WholeFloat :=
  .obj [(PlanKey.tool, .str (ofString "hold")),
    (PlanKey.args, .obj [(ofString "duration_sim_s", .int 5)])]

/-- A group of one step or group. -/
def groupOf (predicate : PyText) (value item : Doc WholeFloat) : Doc WholeFloat :=
  .obj [(PlanKey.when', .obj [(predicate, value)]), (PlanKey.steps, .arr [item])]

/-- A hold, and one in a group within a group. -/
def holdPlan : Doc WholeFloat :=
  .obj [(PlanKey.schemaVersion, .int 2), (PlanKey.steps, .arr [holdStep,
    groupOf PlanKey.anyPayloadEligible (.bool true)
      (groupOf PlanKey.payloadEligible (.int 3) holdStep)])]

theorem unique_groupOf {predicate : PyText} {value item : Doc WholeFloat} (hvalue : Unique value)
    (hitem : Unique item) : Unique (groupOf predicate value item) :=
  unique_pair (by simp [PlanKey.when', PlanKey.steps, ofString_inj]) (unique_single hvalue)
    (.arr _ fun _ hmem => List.mem_singleton.mp hmem ▸ hitem)

theorem unique_holdPlan : Unique holdPlan := by
  have hhold : Unique holdStep :=
    unique_pair (by simp [PlanKey.tool, PlanKey.args, ofString_inj]) (.str _) (unique_single (.int 5))
  refine unique_pair (by simp [PlanKey.schemaVersion, PlanKey.steps, ofString_inj]) (.int 2)
    (.arr _ fun item hitem => ?_)
  simp only [List.mem_cons, List.not_mem_nil, or_false] at hitem
  rcases hitem with rfl | rfl
  · exact hhold
  · exact unique_groupOf (.bool true) (unique_groupOf (.int 3) hhold)

theorem mission_plan_stable_hold : ∃ text stored plan plan',
    validateMissionPlan holdPlan = .ok text ∧ loads text = .ok stored ∧
      validateMissionPlan stored = .ok text ∧ parseMissionPlan holdPlan = .ok plan ∧
        parseMissionPlan stored = .ok plan' ∧ plan.Same plan' := by
  obtain ⟨text, htext⟩ :=
    exists_of_isOk (x := validateMissionPlan holdPlan) (by decide +kernel)
  obtain ⟨plan, hplan⟩ := exists_of_isOk (x := parseMissionPlan holdPlan) (by decide +kernel)
  obtain ⟨stored, hloads, hagain, hparse⟩ :=
    mission_plan_stable holdPlan unique_holdPlan text htext
  obtain ⟨plan', hplan', hsame⟩ := hparse plan hplan
  exact ⟨text, stored, plan, plan', htext, hloads, hagain, hplan, hplan', hsame⟩

end DroneSim
