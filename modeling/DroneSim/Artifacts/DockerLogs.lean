/-
  File:      DroneSim/Artifacts/DockerLogs.lean
  Subject:   The events in the output of services (artifacts/_adapters/docker_logs.py).

  Each service owns a module. A line of its output that claims to be an event is checked and written
  anew; what claims nothing is passed over, except in the events of the host. `partition` collects
  the events of each module.

  * `captured_of_line` -- the line of an event is captured, and the same line is written.
-/
import DroneSim.Artifacts.StructuredLog
import Mathlib.Data.List.Sort

namespace DroneSim

open Library Library.Doc

/-! ## 1. Reading a line -/

/-- `REQUIRED_MODULES` -/
def requiredModules : List PyText :=
  [ofString "orchestration", ofString "artifacts", ofString "companion",
    ofString "ardupilot_sitl", ofString "gazebo", ofString "electromagnet",
    ofString "scorekeeper"]

/-- `_EVENT_KEYS` -/
def eventKeys : List PyText := commonFields ++ [LogKey.fields]

section Pairs

variable {G : Type}

mutual

/-- `_convert_pairs(value)`, or the key that an object has twice. -/
def convertPairs : Doc G → Except PyText (Doc G)
  | .null => .ok .null
  | .bool b => .ok (.bool b)
  | .int n => .ok (.int n)
  | .float x => .ok (.float x)
  | .str s => .ok (.str s)
  | .arr items => (convertItems items).map .arr
  | .obj fields => (convertFields [] fields).map .obj

def convertItems : List (Doc G) → Except PyText (List (Doc G))
  | [] => .ok []
  | item :: rest => do
    let value ← convertPairs item
    let values ← convertItems rest
    return value :: values

def convertFields (done : List (PyText × Doc G)) :
    List (PyText × Doc G) → Except PyText (List (PyText × Doc G))
  | [] => .ok done
  | (key, item) :: rest =>
    if (done.map Prod.fst).contains key then .error key
    else do
      let value ← convertPairs item
      convertFields (done ++ [(key, value)]) rest

end

mutual

/-- Where no key stands twice nothing is refused. -/
theorem convertPairs_of_unique : ∀ {d : Doc G}, Unique d → convertPairs d = .ok d
  | .null, _ => rfl
  | .bool _, _ => rfl
  | .int _, _ => rfl
  | .float _, _ => rfl
  | .str _, _ => rfl
  | .arr items, h => by
    show (convertItems items).map Doc.arr = _
    rw [convertItems_of_unique h.items]
    rfl
  | .obj fields, h => by
    show (convertFields [] fields).map Doc.obj = _
    rw [convertFields_of_unique [] h.keys h.values]
    rfl

theorem convertItems_of_unique : ∀ {items : List (Doc G)}, (∀ item ∈ items, Unique item) →
    convertItems items = .ok items
  | [], _ => rfl
  | item :: rest, h => by
    rw [List.forall_mem_cons] at h
    unfold convertItems
    rw [convertPairs_of_unique h.1, ok_bind, convertItems_of_unique h.2]
    rfl

theorem convertFields_of_unique : ∀ (done : List (PyText × Doc G))
    {fields : List (PyText × Doc G)}, ((done ++ fields).map Prod.fst).Nodup →
      (∀ field ∈ fields, Unique field.2) → convertFields done fields = .ok (done ++ fields)
  | done, [], _, _ => congrArg Except.ok (List.append_nil done).symm
  | done, (key, value) :: rest, hkeys, h => by
    rw [List.forall_mem_cons] at h
    have hnew : ¬(done.map Prod.fst).contains key = true := by
      rw [List.map_append, List.nodup_append] at hkeys
      rw [List.contains_iff_mem]
      exact fun hmem => hkeys.2.2 key hmem key List.mem_cons_self rfl
    have happend : done ++ (key, value) :: rest = (done ++ [(key, value)]) ++ rest := by
      rw [List.append_assoc, List.singleton_append]
    rw [happend] at hkeys ⊢
    unfold convertFields
    rw [if_neg hnew, convertPairs_of_unique h.1, ok_bind, convertFields_of_unique _ hkeys h.2]

end

mutual

/-- What is converted has no key twice. -/
theorem unique_of_convertPairs : ∀ {d e : Doc G}, convertPairs d = .ok e → Unique e
  | .null, _, h => Except.ok.inj h ▸ .null
  | .bool b, _, h => Except.ok.inj h ▸ .bool b
  | .int n, _, h => Except.ok.inj h ▸ .int n
  | .float x, _, h => Except.ok.inj h ▸ .float x
  | .str s, _, h => Except.ok.inj h ▸ .str s
  | .arr items, _, h => by
    obtain ⟨values, hvalues, rfl⟩ := map_ok h
    exact .arr _ (unique_of_convertItems hvalues)
  | .obj fields, _, h => by
    obtain ⟨values, hvalues, rfl⟩ := map_ok h
    have hnone : ∀ field ∈ ([] : List (PyText × Doc G)), Unique field.2 :=
      fun _ hmem => absurd hmem List.not_mem_nil
    have hnil : (([] : List (PyText × Doc G)).map Prod.fst).Nodup := List.nodup_nil
    obtain ⟨hkeys, hunique⟩ := unique_of_convertFields hnil hnone hvalues
    exact .obj _ hkeys hunique

theorem unique_of_convertItems : ∀ {items values : List (Doc G)},
    convertItems items = .ok values → ∀ value ∈ values, Unique value
  | [], _, h => by
    obtain rfl := Except.ok.inj h
    exact fun _ hmem => absurd hmem List.not_mem_nil
  | item :: rest, _, h => by
    unfold convertItems at h
    obtain ⟨value, hvalue, h⟩ := bind_ok h
    obtain ⟨values, hvalues, h⟩ := bind_ok h
    obtain rfl := Except.ok.inj h
    exact List.forall_mem_cons.mpr
      ⟨unique_of_convertPairs hvalue, unique_of_convertItems hvalues⟩

theorem unique_of_convertFields : ∀ {done fields out : List (PyText × Doc G)},
    (done.map Prod.fst).Nodup → (∀ field ∈ done, Unique field.2) →
      convertFields done fields = .ok out →
        (out.map Prod.fst).Nodup ∧ ∀ field ∈ out, Unique field.2
  | _, [], _, hkeys, hunique, h => by
    obtain rfl := Except.ok.inj h
    exact ⟨hkeys, hunique⟩
  | done, (key, item) :: rest, _, hkeys, hunique, h => by
    unfold convertFields at h
    split at h
    · cases h
    · rename_i hnew
      obtain ⟨value, hvalue, h⟩ := bind_ok h
      refine unique_of_convertFields ?_ ?_ h
      · rw [List.map_append, List.nodup_append]
        refine ⟨hkeys, List.nodup_singleton key, fun a ha b hb heq => hnew ?_⟩
        have hkey : b = key := List.mem_singleton.mp hb
        rw [List.contains_iff_mem, ← hkey, ← heq]
        exact ha
      · intro field hfield
        rcases List.mem_append.mp hfield with hmem | hmem
        · exact hunique field hmem
        · rw [List.mem_singleton.mp hmem]
          exact unique_of_convertPairs hvalue

end

end Pairs

section Lines

variable {F : Type} [PyFloat F] {e : StructuredEvent F} {payload : List (PyText × Doc F)}
  {text : PyText}

/-- What a line of the output is taken for. -/
inductive LogFault where
  /-- `JSON parser integer/resource failure` -/
  | resource
  /-- `duplicate JSON object key` -/
  | duplicate (key : PyText)
  /-- `host event source contains a blank, non-JSON, or unclaimed line` -/
  | unclaimed
  | event (error : EventError)

/-- `_parse_attempted_object(line)`: `none` for a line that claims nothing. -/
def parseAttempted (line : List UInt8) : Except LogFault (Option (List (PyText × Doc F))) :=
  match decodeUtf8 line with
  | none => .ok none
  | some text =>
    match parse (F := F) text with
    | .error .malformed => .ok none
    | .error .digits => .error .resource
    | .ok (.obj pairs) =>
      if pairs.any fun pair => commonFields.contains pair.1 then
        match convertFields [] pairs with
        | .error key => .error (.duplicate key)
        | .ok converted => .ok (some converted)
      else .ok none
    | .ok _ => .ok none

/-- `value != text` is false. -/
def isString (text : PyText) : Option (Doc F) → Bool
  | some (.str s) => decide (s = text)
  | _ => false

/-- A nonempty string. -/
def nonemptyString : Option (Doc F) → Option PyText
  | some (.str (c :: s)) => some (c :: s)
  | _ => none

/-- A simulation time: nothing, or a number that is no Boolean. -/
def simTimestampOf : Option (Doc F) → Option (Option (SimTimestamp F))
  | some .null => some none
  | some (.int n) => some (some (.int n))
  | some (.float x) => some (some (.float x))
  | _ => none

/-- The time a text of the profile names. -/
def wallTimestampOf : Option (Doc F) → Option Datetime
  | some (.str s) => fromIso s
  | _ => none

def objectOf : Option (Doc F) → Option (List (PyText × Doc F))
  | some (.obj fields) => some fields
  | _ => none

/-- What was looked for, or the refusal. -/
def required {α : Type} (error : EventError) : Option α → Except EventError α
  | none => .error error
  | some a => .ok a

def guarded (error : EventError) (condition : Bool) : Except EventError Unit :=
  if condition then .ok () else .error error

/-- `_event_from_payload(payload, run_id=run_id, owning_module=owning_module)` -/
def eventFromPayload (runId owningModule : PyText) (payload : List (PyText × Doc F)) :
    Except EventError (StructuredEvent F) := do
  guarded .keys (keysAre payload eventKeys)
  guarded .runId (isString runId (get payload LogKey.runId))
  guarded .module'
    (requiredModules.any fun module' => isString module' (get payload LogKey.module'))
  guarded .ownership (isString owningModule (get payload LogKey.module'))
  let severity ← required (.empty LogKey.severity) (nonemptyString (get payload LogKey.severity))
  let event ← required (.empty LogKey.event) (nonemptyString (get payload LogKey.event))
  let sim ← required .simTimestamp (simTimestampOf (get payload LogKey.simTimestamp))
  let wall ← required .wallTimestamp (wallTimestampOf (get payload LogKey.wallTimestamp))
  let fields ← required .fields (objectOf (get payload LogKey.fields))
  StructuredEvent.create runId owningModule severity event wall sim fields

/-- `_CapturedEvent` -/
structure CapturedEvent (F : Type) [PyFloat F] where
  event : StructuredEvent F
  encoded : List UInt8
  sourceRank : ℕ
  sourceOrder : ℕ

/-- `event.to_json_line().encode("utf-8")` -/
def encodeEvent (e : StructuredEvent F) : Except EventError (List UInt8) := do
  let line ← e.toJsonLine
  match encodeUtf8 line with
  | .error error => .error (.encode error)
  | .ok data => .ok data

/-- `_validated_line(line, ...)`: the event, nothing, or the diagnostic. -/
def validatedLine (runId owningModule : PyText) (sourceRank lineNumber : ℕ) (strict : Bool)
    (line : List UInt8) : Except LogFault (Option (CapturedEvent F)) := do
  match ← parseAttempted line with
  | none => if strict then .error .unclaimed else .ok none
  | some payload =>
    match (do
      let event ← eventFromPayload runId owningModule payload
      let encoded ← encodeEvent event
      return (⟨event, encoded, sourceRank, lineNumber⟩ : CapturedEvent F)) with
    | .error error => .error (.event error)
    | .ok captured => .ok (some captured)

/-! ## 2. The output of all services -/

/-- The numbered lines of an output. -/
def numberedLines (output : List UInt8) : List (List UInt8 × ℕ) := (byteLines output).zipIdx 1

/-- The lines of a service; an empty one is skipped. -/
def serviceLines (runId owningModule : PyText) (output : List UInt8) :
    List (Except LogFault (Option (CapturedEvent F))) :=
  ((numberedLines output).filter fun line => !line.1.isEmpty).map fun line =>
    validatedLine runId owningModule 0 line.2 false line.1

/-- The events of the host. -/
def hostLines (runId : PyText) : Option (List UInt8) →
    List (Except LogFault (Option (CapturedEvent F)))
  | none => []
  | some output => (numberedLines output).map fun line =>
      validatedLine runId (ofString "orchestration") 1 line.2 true line.1

/-- The event of a line. -/
def capturedOf : Except LogFault (Option (CapturedEvent F)) → Option (CapturedEvent F)
  | .ok captured => captured
  | .error _ => none

/-- The diagnostic of a line. -/
def faultOf : Except LogFault (Option (CapturedEvent F)) → Option LogFault
  | .ok _ => none
  | .error fault => some fault

/-- The order of the events of the host's module. -/
def CapturedEvent.key (c : CapturedEvent F) : List ℕ :=
  (c.event.wallTimestamp.utc.map Civil.key).getD [] ++ [c.sourceRank, c.sourceOrder]

/-- `_partition(outputs, host_output)` -/
structure Partition (F : Type) [PyFloat F] where
  /-- The events of each module, in the order they are written. -/
  routed : PyText → List (CapturedEvent F)
  faults : List LogFault
  missing : List PyText

/-- The bytes of a module's file. -/
def Partition.encoded (p : Partition F) (module' : PyText) : List UInt8 :=
  (p.routed module').flatMap CapturedEvent.encoded

/-- The lines of the services, and those of the host. -/
def outputLines (runId : PyText) (ownership : List (PyText × PyText))
    (outputs : PyText → List UInt8) (hostOutput : Option (List UInt8)) :
    List (Except LogFault (Option (CapturedEvent F))) :=
  (ownership.flatMap fun pair => serviceLines runId pair.2 (outputs pair.1)) ++
    hostLines runId hostOutput

def partition (runId : PyText) (ownership : List (PyText × PyText))
    (outputs : PyText → List UInt8) (hostOutput : Option (List UInt8)) : Partition F :=
  let lines := outputLines runId ownership outputs hostOutput
  let events := lines.filterMap capturedOf
  let routed := fun module' =>
    let found := events.filter fun c => c.event.module' = module'
    if hostOutput.isSome && decide (module' = ofString "orchestration") then
      found.insertionSort fun c d => c.key ≤ d.key
    else found
  { routed := routed
    faults := lines.filterMap faultOf
    missing := requiredModules.filter fun module' => (routed module').isEmpty }

/-! ## 3. What is captured -/

theorem required_ok {α : Type} {error : EventError} {o : Option α} {a : α} :
    required error o = .ok a ↔ o = some a := by
  cases o with
  | none => exact ⟨fun h => (by cases h), fun h => (by cases h)⟩
  | some b => exact ⟨fun h => congrArg some (Except.ok.inj h), fun h => congrArg Except.ok
      (Option.some.inj h)⟩

theorem guarded_ok {error : EventError} {condition : Bool} {u : Unit} :
    guarded error condition = .ok u ↔ condition = true := by
  unfold guarded
  cases condition with
  | false => exact ⟨fun h => (by cases h), fun h => (by cases h)⟩
  | true => exact ⟨fun _ => rfl, fun _ => rfl⟩

omit [PyFloat F] in
theorem isString_iff {o : Option (Doc F)} : isString text o = true ↔ o = some (.str text) := by
  unfold isString
  split
  · rw [decide_eq_true_eq, Option.some.injEq, Doc.str.injEq]
  · rename_i h
    exact ⟨fun hfalse => (by cases hfalse), fun ho => absurd ho (h text)⟩

/-- What a payload must hold to be the event `e`. -/
structure PayloadOf (runId owningModule : PyText) (payload : List (PyText × Doc F))
    (e : StructuredEvent F) : Prop where
  keys : keysAre payload eventKeys = true
  runId_eq : get payload LogKey.runId = some (.str runId)
  owner : owningModule ∈ requiredModules
  module_eq : get payload LogKey.module' = some (.str owningModule)
  severity_eq : nonemptyString (get payload LogKey.severity) = some e.severity
  event_eq : nonemptyString (get payload LogKey.event) = some e.event
  sim_eq : simTimestampOf (get payload LogKey.simTimestamp) = some e.simTimestamp
  wall_eq : wallTimestampOf (get payload LogKey.wallTimestamp) = some e.wallTimestamp
  fields_eq : objectOf (get payload LogKey.fields) = some e.fields
  event_runId : e.runId = runId
  event_module : e.module' = owningModule

theorem create_ok {runId module' severity event : PyText} {wall : Datetime}
    {sim : Option (SimTimestamp F)} {fields : List (PyText × Doc F)}
    (h : StructuredEvent.create runId module' severity event wall sim fields = .ok e) :
    e.runId = runId ∧ e.module' = module' ∧ e.severity = severity ∧ e.event = event ∧
      e.wallTimestamp = wall ∧ e.simTimestamp = sim ∧ e.fields = fields := by
  unfold StructuredEvent.create at h
  split at h
  · split at h
    · obtain rfl := Except.ok.inj h
      exact ⟨rfl, rfl, rfl, rfl, rfl, rfl, rfl⟩
    · cases h
  · cases h

theorem create_of : StructuredEvent.create e.runId e.module' e.severity
    e.event e.wallTimestamp e.simTimestamp e.fields = .ok e := by
  unfold StructuredEvent.create
  rw [dif_pos e.distinct, dif_pos e.finite]

theorem eventFromPayload_ok {runId owningModule : PyText} :
    eventFromPayload runId owningModule payload = .ok e ↔
      PayloadOf runId owningModule payload e := by
  unfold eventFromPayload
  constructor
  · intro h
    obtain ⟨_, hkeys, h⟩ := bind_ok h
    obtain ⟨_, hrun, h⟩ := bind_ok h
    obtain ⟨_, hmodule, h⟩ := bind_ok h
    obtain ⟨_, howner, h⟩ := bind_ok h
    obtain ⟨severity, hseverity, h⟩ := bind_ok h
    obtain ⟨event, hevent, h⟩ := bind_ok h
    obtain ⟨sim, hsim, h⟩ := bind_ok h
    obtain ⟨wall, hwall, h⟩ := bind_ok h
    obtain ⟨fields, hfields, h⟩ := bind_ok h
    rw [required_ok] at hseverity hevent hsim hwall hfields
    rw [guarded_ok] at hkeys hrun hmodule howner
    rw [isString_iff] at hrun howner
    obtain ⟨rfl, rfl, rfl, rfl, rfl, rfl, rfl⟩ := create_ok h
    obtain ⟨module', hmem, hmodule⟩ := List.any_eq_true.mp hmodule
    rw [isString_iff, howner] at hmodule
    obtain rfl := Doc.str.inj (Option.some.inj hmodule)
    exact ⟨hkeys, hrun, hmem, howner, hseverity, hevent, hsim, hwall, hfields, rfl, rfl⟩
  · intro h
    obtain ⟨hkeys, hrun, howner, hmodule, hseverity, hevent, hsim, hwall, hfields, rfl, rfl⟩ := h
    have hany : (requiredModules.any fun module' =>
        isString module' (get payload LogKey.module')) = true :=
      List.any_eq_true.mpr ⟨e.module', howner, isString_iff.mpr hmodule⟩
    rw [hkeys, isString_iff.mpr hrun, hany, isString_iff.mpr hmodule, hseverity, hevent, hsim,
      hwall, hfields]
    exact create_of

theorem encodeEvent_ok {data : List UInt8} :
    encodeEvent e = .ok data ↔ ∃ line, e.toJsonLine = .ok line ∧ encodeUtf8 line = .ok data := by
  unfold encodeEvent
  constructor
  · intro h
    obtain ⟨line, hline, h⟩ := bind_ok h
    split at h
    · cases h
    · rename_i data' hdata
      exact ⟨line, hline, Except.ok.inj h ▸ hdata⟩
  · rintro ⟨line, hline, hdata⟩
    rw [hline, ok_bind, hdata]

/-- What a line that claims to be an event holds. -/
theorem parseAttempted_some {line : List UInt8} (h : parseAttempted line = .ok (some payload)) :
    (payload.map Prod.fst).Nodup ∧ ∀ field ∈ payload, Unique field.2 := by
  unfold parseAttempted at h
  split at h
  · cases h
  · split at h
    · cases h
    · cases h
    · split at h
      · split at h
        · cases h
        · rename_i converted hconverted
          obtain rfl := Option.some.inj (Except.ok.inj h)
          have hnil : (([] : List (PyText × Doc F)).map Prod.fst).Nodup := List.nodup_nil
          exact unique_of_convertFields hnil (fun _ hmem => absurd hmem List.not_mem_nil) hconverted
      · cases h
    · cases h

/-- An event of a run as the capture holds it. -/
structure Genuine (runId : PyText) (c : CapturedEvent F) : Prop where
  encoded : encodeEvent c.event = .ok c.encoded
  runId_eq : c.event.runId = runId
  owner : c.event.module' ∈ requiredModules
  unique : Unique (.obj c.event.fields)

omit [PyFloat F] in
theorem objectOf_some {o : Option (Doc F)} {fields : List (PyText × Doc F)}
    (h : objectOf o = some fields) : o = some (.obj fields) := by
  unfold objectOf at h
  split at h
  · rw [Option.some.inj h]
  · cases h

/-- **What is captured is an event of the run and of the owner's module.** -/
theorem genuine_of_validated {runId owningModule : PyText} {rank lineNumber : ℕ} {strict : Bool}
    {line : List UInt8} {c : CapturedEvent F}
    (h : validatedLine runId owningModule rank lineNumber strict line = .ok (some c)) :
    Genuine runId c ∧ c.event.module' = owningModule := by
  unfold validatedLine at h
  obtain ⟨attempt, hattempt, h⟩ := bind_ok h
  split at h
  · split at h
    · cases h
    · cases h
  · rename_i payload
    split at h
    · cases h
    · rename_i captured hcaptured
      obtain rfl := Option.some.inj (Except.ok.inj h)
      obtain ⟨event, hevent, hcaptured⟩ := bind_ok hcaptured
      obtain ⟨encoded, hencoded, hcaptured⟩ := bind_ok hcaptured
      obtain rfl := Except.ok.inj hcaptured
      have hpayload := eventFromPayload_ok.mp hevent
      obtain ⟨hkeys, hvalues⟩ := parseAttempted_some hattempt
      have hunique := unique_of_get (.obj payload hkeys hvalues) (objectOf_some hpayload.fields_eq)
      refine ⟨⟨hencoded, hpayload.event_runId, ?_, hunique⟩, hpayload.event_module⟩
      show event.module' ∈ requiredModules
      rw [hpayload.event_module]
      exact hpayload.owner

/-! ## 4. The line of an event is captured -/

/-- Two events denote the same: their times are the same in UTC and as floats, their fields the
    same object. -/
structure SameEvent (e f : StructuredEvent F) : Prop where
  runId : e.runId = f.runId
  module' : e.module' = f.module'
  severity : e.severity = f.severity
  event : e.event = f.event
  wall : e.wallTimestamp.utc = f.wallTimestamp.utc
  sim : simValue e.simTimestamp = simValue f.simTimestamp
  fields : sortedObject e.fields = sortedObject f.fields

/-- The simulation time of a document, read again. -/
def simAgain : Doc F → Option (SimTimestamp F)
  | .float x => some (.float x)
  | _ => none

theorem sim_again {o : Option (SimTimestamp F)} {sim : Doc F} (h : simValue o = .ok sim) :
    sim.sorted = sim ∧ simTimestampOf (some sim) = some (simAgain sim) ∧
      simValue (simAgain sim) = .ok sim := by
  rcases simValue_cases h with rfl | ⟨x, rfl⟩
  · exact ⟨rfl, rfl, rfl⟩
  · exact ⟨rfl, rfl, rfl⟩

theorem finite_simAgain {sim : Doc F} {t : PyText} (h : plain sim = .ok t) :
    (simAgain sim).all SimTimestamp.isFinite = true := by
  cases sim with
  | float x =>
    unfold plain at h
    split at h
    · rename_i hx
      exact hx
    · cases h
  | _ => rfl

/-- The event a written line is read as. -/
def Written.again {e : StructuredEvent F} {line : PyText} {sim : Doc F} {wall : Civil}
    {text : PyText} (h : Written e line sim wall text) : StructuredEvent F where
  runId := e.runId
  module' := e.module'
  severity := e.severity
  event := e.event
  wallTimestamp := .ofUtc wall (Datetime.valid_utc h.wall_eq)
  simTimestamp := simAgain sim
  fields := sortedObject e.fields
  distinct := by
    unfold sortedObject
    rw [(perm_byKey (sortedFields e.fields)).all_eq, sortedFields_eq, List.all_map]
    exact e.distinct
  finite := by
    have hfields : finiteNumbersFields (sortedObject e.fields) = finiteNumbersFields e.fields :=
      finiteNumbers_sorted (.obj e.fields)
    have hmem : (LogKey.simTimestamp, sim.sorted) ∈ sortedFields
        (lineFields e.runId e.module' e.severity e.event sim (isoText wall) e.fields) := by
      rw [sortedFields_eq]
      exact List.mem_map_of_mem (f := fun f : PyText × Doc F => (f.1, f.2.sorted))
        (a := (LogKey.simTimestamp, sim)) (by simp [lineFields])
    obtain ⟨t, ht⟩ := plain_of_mem h.text_eq _ ((perm_byKey _).mem_iff.mpr hmem)
    rw [(sim_again h.sim_eq).1] at ht
    rw [hfields, finite_simAgain ht, Bool.true_and]
    exact (Bool.and_eq_true_iff.mp e.finite).2

theorem Written.sameEvent {line : PyText} {sim : Doc F} {wall : Civil}
    (h : Written e line sim wall text) : SameEvent e h.again where
  runId := rfl
  module' := rfl
  severity := rfl
  event := rfl
  wall := h.wall_eq.trans (Datetime.utc_ofUtc (Datetime.valid_utc h.wall_eq)).symm
  sim := h.sim_eq.trans (sim_again h.sim_eq).2.2.symm
  fields := by
    have hsorted := sorted_sorted (.obj e.fields)
    exact (Doc.obj.inj hsorted).symm

/-- The event that was read is written as the same line. -/
theorem Written.line_again {line : PyText} {sim : Doc F} {wall : Civil}
    (h : Written e line sim wall text) : h.again.toJsonLine = .ok line := by
  refine line_of_event.mpr ⟨sim, wall, text, Datetime.utc_ofUtc _, (sim_again h.sim_eq).2.2, ?_,
    h.line_eq⟩
  have hsorted : (h.again.document sim wall).sorted = (e.document sim wall).sorted := by
    have hfields : (Doc.obj (sortedObject e.fields)).sorted = (Doc.obj e.fields).sorted :=
      sorted_sorted (.obj e.fields)
    refine congrArg Doc.obj (sortedObject_congr ?_)
    show (lineFields e.runId e.module' e.severity e.event sim (isoText wall)
      (sortedObject e.fields)).map _ = _
    simp only [lineFields, List.map_cons, List.map_nil, hfields]
  rw [← dumps_sorted, hsorted, dumps_sorted]
  exact h.text_eq

omit [PyFloat F] in
theorem nonemptyString_str {s : PyText} (h : s ≠ []) :
    nonemptyString (some (.str s : Doc F)) = some s := by
  cases s with
  | nil => exact absurd rfl h
  | cons c s => rfl

/-- **The document of an event is the payload of the event.** -/
theorem payload_of_document {line : PyText} {sim : Doc F} {wall : Civil}
    (h : Written e line sim wall text) (howner : e.module' ∈ requiredModules)
    (hseverity : e.severity ≠ []) (hevent : e.event ≠ []) :
    PayloadOf e.runId e.module' (sortedObject
      (lineFields e.runId e.module' e.severity e.event sim (isoText wall) e.fields)) h.again := by
  have hkeys := lineFields_keys e.runId e.module' e.severity e.event sim (isoText wall) e.fields
  have hget := fun key => get_sortedObject hkeys key
  refine ⟨?_, ?_, howner, ?_, ?_, ?_, ?_, ?_, ?_, rfl, rfl⟩
  · rw [keysAre_sortedObject hkeys]
    simp [keysAre, keysWithin, keysCover, eventKeys, commonFields, lineFields, Doc.get,
      LogKey.runId, LogKey.module', LogKey.severity, LogKey.event, LogKey.simTimestamp,
      LogKey.wallTimestamp, LogKey.fields, ofString_inj]
  · rw [hget]
    simp [lineFields, Doc.get, Doc.sorted]
  · rw [hget]
    simp [lineFields, Doc.get, Doc.sorted, LogKey.runId, LogKey.module', ofString_inj]
  · have hfound : get (lineFields e.runId e.module' e.severity e.event sim (isoText wall) e.fields)
        LogKey.severity = some (.str e.severity) := by
      simp [lineFields, Doc.get, LogKey.runId, LogKey.module', LogKey.severity, ofString_inj]
    rw [hget, hfound]
    exact nonemptyString_str hseverity
  · have hfound : get (lineFields e.runId e.module' e.severity e.event sim (isoText wall) e.fields)
        LogKey.event = some (.str e.event) := by
      simp [lineFields, Doc.get, LogKey.runId, LogKey.module', LogKey.severity, LogKey.event,
        ofString_inj]
    rw [hget, hfound]
    exact nonemptyString_str hevent
  · have hfound : get (lineFields e.runId e.module' e.severity e.event sim (isoText wall) e.fields)
        LogKey.simTimestamp = some sim := by
      simp [lineFields, Doc.get, LogKey.runId, LogKey.module', LogKey.severity, LogKey.event,
        LogKey.simTimestamp, ofString_inj]
    rw [hget, hfound, Option.map_some, (sim_again h.sim_eq).1]
    exact (sim_again h.sim_eq).2.1
  · have hfound : get (lineFields e.runId e.module' e.severity e.event sim (isoText wall) e.fields)
        LogKey.wallTimestamp = some (.str (isoText wall)) := by
      simp [lineFields, Doc.get, LogKey.runId, LogKey.module', LogKey.severity, LogKey.event,
        LogKey.simTimestamp, LogKey.wallTimestamp, ofString_inj]
    rw [hget, hfound]
    exact fromIso_isoText (Datetime.valid_utc h.wall_eq)
  · have hfound : get (lineFields e.runId e.module' e.severity e.event sim (isoText wall) e.fields)
        LogKey.fields = some (.obj e.fields) := by
      simp [lineFields, Doc.get, LogKey.runId, LogKey.module', LogKey.severity, LogKey.event,
        LogKey.simTimestamp, LogKey.wallTimestamp, LogKey.fields, ofString_inj]
    rw [hget, hfound]
    rfl

theorem parseAttempted_of {line : List UInt8} (hdecode : decodeUtf8 line = some text)
    (hparse : parse text = .ok (.obj payload)) (hunique : Unique (.obj payload))
    (hclaimed : (payload.any fun pair => commonFields.contains pair.1) = true) :
    parseAttempted line = .ok (some payload) := by
  have hconvert := convertFields_of_unique [] hunique.keys hunique.values
  rw [List.nil_append] at hconvert
  unfold parseAttempted
  rw [hdecode]
  dsimp only
  rw [hparse]
  dsimp only
  rw [if_pos hclaimed, hconvert]

/-- **The line of an event is captured, and the same line is written.** -/
theorem captured_of_line [LawfulPyFloat F] {line : PyText} {data : List UInt8}
    (hline : e.toJsonLine = .ok line) (hdata : encodeUtf8 line = .ok data)
    (howner : e.module' ∈ requiredModules) (hseverity : e.severity ≠ []) (hevent : e.event ≠ [])
    (hfields : Unique (.obj e.fields)) (rank lineNumber : ℕ) (strict : Bool) :
    ∃ front c, data = front ++ [newlineByte] ∧ newlineByte ∉ front ∧
      validatedLine e.runId e.module' rank lineNumber strict front = .ok (some c) ∧
        c.encoded = data ∧ SameEvent e c.event := by
  obtain ⟨sim, wall, text, h⟩ := line_of_event.mp hline
  rw [h.line_eq] at hdata
  obtain ⟨front, back, hfront, hback, rfl⟩ := encodeUtf8_of_append hdata
  obtain rfl : back = [newlineByte] := (Except.ok.inj hback).symm
  have hnewline : newlineByte ∉ front := by
    rw [newline_mem_encode hfront]
    exact newline_notMem_plain h.text_eq
  have hdocument := unique_document hfields h.sim_eq wall
  have hparse : parse text = .ok (.obj (sortedObject (lineFields e.runId e.module' e.severity
      e.event sim (isoText wall) e.fields))) := parse_plain h.text_eq
  have hsorted : Unique (.obj (sortedObject (lineFields e.runId e.module' e.severity
      e.event sim (isoText wall) e.fields))) := unique_sorted hdocument
  have hclaimed : ((sortedObject (lineFields e.runId e.module' e.severity e.event sim
      (isoText wall) e.fields)).any fun pair => commonFields.contains pair.1) = true := by
    have hpayload := payload_of_document h howner hseverity hevent
    have hmem := (mem_iff_get hsorted.keys).mpr hpayload.runId_eq
    exact List.any_eq_true.mpr ⟨_, hmem, by simp [commonFields]⟩
  have hattempt := parseAttempted_of (decodeUtf8_encode hfront) hparse hsorted hclaimed
  have hread := eventFromPayload_ok.mpr (payload_of_document h howner hseverity hevent)
  have hencoded : encodeEvent h.again = .ok (front ++ [newlineByte]) :=
    encodeEvent_ok.mpr ⟨line, h.line_again, h.line_eq ▸ hdata⟩
  refine ⟨front, ⟨h.again, front ++ [newlineByte], rank, lineNumber⟩, rfl, hnewline, ?_, rfl,
    h.sameEvent⟩
  unfold validatedLine
  rw [hattempt, ok_bind]
  dsimp only
  rw [hread, ok_bind, hencoded]
  rfl

end Lines

end DroneSim
