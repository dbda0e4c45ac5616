/-
  File:      DroneSim/Artifacts/StructuredLog.lean
  Subject:   Events of all modules, one line each (artifacts/structured_log.py).

  A `StructuredEvent` has been checked when it was made: no field has the name of a common one, and
  its numbers are finite. `toJsonLine` writes the time in UTC and the simulation time as a float.

  * `line_of_event` -- what a line holds: the document of the event and the newline.
-/
import DroneSim.Library.JsonQuotes
import DroneSim.Library.PyDatetime
import DroneSim.Library.Utf8

namespace DroneSim

open Library Library.Doc

/-! ## 1. Events -/

namespace LogKey

def runId : PyText := ofString "run_id"

def module' : PyText := ofString "module"

def severity : PyText := ofString "severity"

def event : PyText := ofString "event"

def simTimestamp : PyText := ofString "sim_timestamp"

def wallTimestamp : PyText := ofString "wall_timestamp"

def fields : PyText := ofString "fields"

end LogKey

/-- `COMMON_FIELDS` -/
def commonFields : List PyText :=
  [LogKey.runId, LogKey.module', LogKey.severity, LogKey.event, LogKey.simTimestamp,
    LogKey.wallTimestamp]

/-- A `sim_timestamp` that is not `None`; a `Decimal` is known by its text. -/
inductive SimTimestamp (F : Type) where
  | float (x : F)
  | int (n : ℤ)
  | decimal (text : PyText) (finite : Bool)

section Events

variable {F : Type} [PyFloat F]

/-- `float(sim_timestamp)`, `none` where it raises. -/
def SimTimestamp.toFloat : SimTimestamp F → Option F
  | .float x => some x
  | .int n => PyFloat.ofInt n
  | .decimal text _ => some (PyFloat.read text)

def SimTimestamp.isFinite : SimTimestamp F → Bool
  | .float x => PyFloat.finite x
  | .int _ => true
  | .decimal _ finite => finite

mutual

/-- `_reject_non_finite_numbers(value)` does not raise. -/
def finiteNumbers : Doc F → Bool
  | .float x => PyFloat.finite x
  | .arr items => finiteNumbersItems items
  | .obj fields => finiteNumbersFields fields
  | .null => true
  | .bool _ => true
  | .int _ => true
  | .str _ => true

def finiteNumbersItems : List (Doc F) → Bool
  | [] => true
  | item :: rest => finiteNumbers item && finiteNumbersItems rest

def finiteNumbersFields : List (PyText × Doc F) → Bool
  | [] => true
  | (_, value) :: rest => finiteNumbers value && finiteNumbersFields rest

end

/-- The events that `__post_init__` lets through. -/
structure StructuredEvent (F : Type) [PyFloat F] where
  runId : PyText
  module' : PyText
  severity : PyText
  event : PyText
  wallTimestamp : Datetime
  simTimestamp : Option (SimTimestamp F)
  fields : List (PyText × Doc F)
  distinct : (fields.all fun f => !commonFields.contains f.1) = true
  finite : (simTimestamp.all SimTimestamp.isFinite && finiteNumbersFields fields) = true

/-- What making, checking or writing an event raises. -/
inductive EventError where
  /-- `event fields cannot collide with common field(s)` -/
  | collision
  /-- `structured event values must be finite` -/
  | nonfinite
  /-- `attempted event has invalid top-level keys` -/
  | keys
  /-- `attempted event run_id does not match capture run_id` -/
  | runId
  /-- `attempted event module is not a required module` -/
  | module'
  /-- `attempted event module violates explicit service ownership` -/
  | ownership
  /-- `attempted event {name} must be a nonempty string` -/
  | empty (name : PyText)
  /-- `attempted event sim_timestamp must be null or a finite number` -/
  | simTimestamp
  /-- One of the four refusals of a `wall_timestamp`. -/
  | wallTimestamp
  /-- `attempted event fields must be a JSON object` -/
  | fields
  /-- `OverflowError`: a time outside the calendar or an integer that no float holds. -/
  | overflow
  /-- What the encoder raises. -/
  | encode (error : EncodeError)

/-- `StructuredEvent(...)` -/
def StructuredEvent.create (runId module' severity event : PyText) (wallTimestamp : Datetime)
    (simTimestamp : Option (SimTimestamp F)) (fields : List (PyText × Doc F)) :
    Except EventError (StructuredEvent F) :=
  if hdistinct : (fields.all fun f => !commonFields.contains f.1) = true then
    if hfinite : (simTimestamp.all SimTimestamp.isFinite && finiteNumbersFields fields) = true then
      .ok ⟨runId, module', severity, event, wallTimestamp, simTimestamp, fields, hdistinct, hfinite⟩
    else .error .nonfinite
  else .error .collision

/-! ## 2. Lines -/

/-- `float(self.sim_timestamp)`, or `None`. -/
def simValue : Option (SimTimestamp F) → Except EventError (Doc F)
  | none => .ok .null
  | some t =>
    match t.toFloat with
    | none => .error .overflow
    | some x => .ok (.float x)

/-- The seven fields of a line. -/
def lineFields (runId module' severity event : PyText) (sim : Doc F) (wall : PyText)
    (fields : List (PyText × Doc F)) : List (PyText × Doc F) :=
  [(LogKey.runId, .str runId), (LogKey.module', .str module'), (LogKey.severity, .str severity),
    (LogKey.event, .str event), (LogKey.simTimestamp, sim), (LogKey.wallTimestamp, .str wall),
    (LogKey.fields, .obj fields)]

/-- The document of an event with its times as they are written. -/
def StructuredEvent.document (e : StructuredEvent F) (sim : Doc F) (wall : Civil) : Doc F :=
  .obj (lineFields e.runId e.module' e.severity e.event sim (isoText wall) e.fields)

/-- `to_json_line` -/
def StructuredEvent.toJsonLine (e : StructuredEvent F) : Except EventError PyText :=
  match e.wallTimestamp.utc with
  | none => .error .overflow
  | some wall => do
    let sim ← simValue e.simTimestamp
    match (e.document sim wall).dumps with
    | .error error => .error (.encode error)
    | .ok text => .ok (text ++ [newline])

/-- The line of an event holds its document. -/
structure Written (e : StructuredEvent F) (line : PyText) (sim : Doc F) (wall : Civil)
    (text : PyText) : Prop where
  wall_eq : e.wallTimestamp.utc = some wall
  sim_eq : simValue e.simTimestamp = .ok sim
  text_eq : (e.document sim wall).dumps = .ok text
  line_eq : line = text ++ [newline]

theorem line_of_event {e : StructuredEvent F} {line : PyText} :
    e.toJsonLine = .ok line ↔ ∃ sim wall text, Written e line sim wall text := by
  unfold StructuredEvent.toJsonLine
  constructor
  · intro h
    split at h
    · cases h
    · rename_i wall hwall
      obtain ⟨sim, hsim, h⟩ := bind_ok h
      split at h
      · cases h
      · rename_i text htext
        exact ⟨sim, wall, text, hwall, hsim, htext, (Except.ok.inj h).symm⟩
  · rintro ⟨sim, wall, text, h⟩
    rw [h.wall_eq]
    dsimp only
    rw [h.sim_eq, ok_bind, h.text_eq, h.line_eq]

omit [PyFloat F] in
theorem lineFields_keys (runId module' severity event : PyText) (sim : Doc F) (wall : PyText)
    (fields : List (PyText × Doc F)) :
    ((lineFields runId module' severity event sim wall fields).map Prod.fst).Nodup := by
  simp [lineFields, LogKey.runId, LogKey.module', LogKey.severity, LogKey.event,
    LogKey.simTimestamp, LogKey.wallTimestamp, LogKey.fields, ofString_inj]

/-- The simulation time of a line is a number or nothing. -/
theorem simValue_cases {o : Option (SimTimestamp F)} {sim : Doc F} (h : simValue o = .ok sim) :
    sim = .null ∨ ∃ x, sim = .float x := by
  unfold simValue at h
  split at h
  · exact Or.inl (Except.ok.inj h).symm
  · split at h
    · cases h
    · rename_i x _
      exact Or.inr ⟨x, (Except.ok.inj h).symm⟩

theorem unique_document {e : StructuredEvent F} (hfields : Unique (.obj e.fields)) {sim : Doc F}
    (hsim : simValue e.simTimestamp = .ok sim) (wall : Civil) : Unique (e.document sim wall) := by
  refine .obj _ (lineFields_keys _ _ _ _ _ _ _) fun field hfield => ?_
  simp only [lineFields, List.mem_cons, List.not_mem_nil, or_false] at hfield
  rcases hfield with rfl | rfl | rfl | rfl | rfl | rfl | rfl
  · exact .str _
  · exact .str _
  · exact .str _
  · exact .str _
  · rcases simValue_cases hsim with rfl | ⟨x, rfl⟩
    · exact .null
    · exact .float x
  · exact .str _
  · exact hfields

/-! ### Finite numbers -/

theorem finiteNumbersFields_eq (fields : List (PyText × Doc F)) :
    finiteNumbersFields fields = fields.all fun f => finiteNumbers f.2 := by
  induction fields with
  | nil => rfl
  | cons f rest ih =>
    show (finiteNumbers f.2 && finiteNumbersFields rest) = _
    rw [ih, List.all_cons]

mutual

theorem finiteNumbers_sorted : ∀ d : Doc F, finiteNumbers d.sorted = finiteNumbers d
  | .null => rfl
  | .bool _ => rfl
  | .int _ => rfl
  | .float _ => rfl
  | .str _ => rfl
  | .arr items => finiteNumbers_sortedItems items
  | .obj fields => by
    have hfields := finiteNumbers_sortedFields fields
    show finiteNumbersFields (byKey (sortedFields fields)) = finiteNumbersFields fields
    rw [finiteNumbersFields_eq, (perm_byKey _).all_eq, ← finiteNumbersFields_eq, hfields]

theorem finiteNumbers_sortedItems : ∀ items : List (Doc F),
    finiteNumbersItems (sortedItems items) = finiteNumbersItems items
  | [] => rfl
  | item :: rest => by
    show (finiteNumbers item.sorted && finiteNumbersItems (sortedItems rest)) = _
    rw [finiteNumbers_sorted item, finiteNumbers_sortedItems rest]
    rfl

theorem finiteNumbers_sortedFields : ∀ fields : List (PyText × Doc F),
    finiteNumbersFields (sortedFields fields) = finiteNumbersFields fields
  | [] => rfl
  | (key, value) :: rest => by
    show (finiteNumbers value.sorted && finiteNumbersFields (sortedFields rest)) = _
    rw [finiteNumbers_sorted value, finiteNumbers_sortedFields rest]
    rfl

end

end Events

end DroneSim
