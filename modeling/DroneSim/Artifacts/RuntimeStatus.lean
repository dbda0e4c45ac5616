/-
  File:      DroneSim/Artifacts/RuntimeStatus.lean
  Subject:   Typed runtime statuses and their wire contract (artifacts/runtime_status.py).

  A status type has a name, a write policy, fixed fields, and a shape that says which fields its
  constructor takes. The values of a shape carry what the constructors check, so a value of
  `RuntimeStatus t` is a status that the constructor of `t` accepts. `statusDocument` writes one,
  `parseStatus` reads a document back.
-/
import DroneSim.Artifacts.ProtocolFiles
import DroneSim.Library.Fallible
import DroneSim.Library.PyValue
import Mathlib.Data.List.Basic

namespace DroneSim

open Library

/-! ## 1. Run ids, digests and paths -/

/-- A digit of a lower-case hexadecimal number. -/
def isLowerHex (c : Char) : Bool := ('0' ≤ c && c ≤ '9') || ('a' ≤ c && c ≤ 'f')

/-- The text of a UUID as `str` writes it. -/
def isCanonicalUuid (value : String) : Bool :=
  let groups := value.toList.splitOn '-'
  groups.map List.length == [8, 4, 4, 4, 12] && groups.all fun group => group.all isLowerHex

/-- `canonical_run_id`. -/
def canonicalRunId : PyValue → Except String String
  | .str value =>
    if isCanonicalUuid value then .ok value else .error "run_id must be a canonical UUID"
  | _ => .error "run_id must be a canonical UUID"

/-- `re.fullmatch(r"[0-9a-f]{64}", value)`. -/
def isSha256 (value : String) : Bool := value.toList.length == 64 && value.toList.all isLowerHex

/-- A lower-case SHA-256. -/
abbrev Sha256 := { value : String // isSha256 value = true }

/-- `_valid_diagnostic_path`. -/
def validDiagnosticPath (value : String) : Bool :=
  value != "" && !value.toList.contains '\\' && value.toList.head? != some '/' &&
    (value.toList.splitOn '/').all fun component =>
      !(["", ".", ".."].contains (String.ofList component))

/-! ## 2. The flight exchange -/

structure FlightExchange where
  online : Bool
  servoPacketsReceived : ℕ
  motorUpdates : ℕ
  duplicateServoPackets : ℕ
  servoFrameGaps : ℕ
  jsonStatesSent : ℕ
  jsonSendErrors : ℕ
  lastServoFrame : ℕ
  lastJsonSimTimeNs : ℕ
  isOnline : online = true
  progress : 1 ≤ servoPacketsReceived ∧ 1 ≤ motorUpdates ∧ 1 ≤ jsonStatesSent
  faultless : servoFrameGaps = 0 ∧ jsonSendErrors = 0
  deriving DecidableEq

/-- `type(value) is int and value >= 0`. -/
def natural : PyValue → Option ℕ
  | .int n => if 0 ≤ n then some n.toNat else none
  | _ => none

/-- The keys of a mapping are exactly these strings: `set(items) == names`. -/
def hasKeys (items : List (PyKey × PyValue)) (names : List String) : Bool :=
  items.all (fun p => names.any fun name => p.1 == .str name) &&
    names.all fun name => (PyValue.field items name).isSome

/-- A mapping with string keys, in the order of its insertions. -/
def document (fields : List (String × PyValue)) : List (PyKey × PyValue) :=
  fields.map fun p => (.str p.1, p.2)

namespace FlightExchange

/-- `_FLIGHT_EXCHANGE_KEYS`. -/
def keys : List String :=
  ["online", "servo_packets_received", "motor_updates", "duplicate_servo_packets",
    "servo_frame_gaps", "json_states_sent", "json_send_errors", "last_servo_frame",
    "last_json_sim_time_ns"]

/-- `FlightExchange(**items)`. -/
def make (items : List (PyKey × PyValue)) : Except String FlightExchange :=
  match PyValue.field items "online" with
  | some (.bool true) =>
    let counter := fun name => (PyValue.field items name).bind natural
    match counter "servo_packets_received", counter "motor_updates",
      counter "duplicate_servo_packets", counter "servo_frame_gaps", counter "json_states_sent",
      counter "json_send_errors", counter "last_servo_frame", counter "last_json_sim_time_ns" with
    | some packets, some updates, some duplicates, some gaps, some states, some errors, some frame,
      some time =>
      if progress : 1 ≤ packets ∧ 1 ≤ updates ∧ 1 ≤ states then
        if faultless : gaps = 0 ∧ errors = 0 then
          .ok ⟨true, packets, updates, duplicates, gaps, states, errors, frame, time, rfl, progress,
            faultless⟩
        else .error "flight exchange error counters must be zero"
      else .error "flight exchange progress counters must be positive"
    | _, _, _, _, _, _, _, _ => .error "flight exchange counters must be nonnegative integers"
  | _ => .error "flight exchange must be online"

/-- The fields of an exchange on the wire. -/
def toFields (f : FlightExchange) : List (String × PyValue) :=
  [("online", .bool f.online),
    ("servo_packets_received", .int f.servoPacketsReceived),
    ("motor_updates", .int f.motorUpdates),
    ("duplicate_servo_packets", .int f.duplicateServoPackets),
    ("servo_frame_gaps", .int f.servoFrameGaps),
    ("json_states_sent", .int f.jsonStatesSent),
    ("json_send_errors", .int f.jsonSendErrors),
    ("last_servo_frame", .int f.lastServoFrame),
    ("last_json_sim_time_ns", .int f.lastJsonSimTimeNs)]

/-- `_flight_document`. -/
def toDocument (f : FlightExchange) : PyValue := .mapping true (document f.toFields)

/-- `_parse_flight_exchange`. -/
def parse : PyValue → Except String FlightExchange
  | .mapping true items =>
    if hasKeys items keys then make items else .error "runtime status has an invalid schema"
  | _ => .error "runtime status has an invalid schema"

end FlightExchange

/-! ## 3. Semantic values -/

mutual

/-- `_copy_semantic_value`. -/
def copySemanticValue : PyValue → Except String PyValue
  | .none => .ok .none
  | .bool b => .ok (.bool b)
  | .int n => .ok (.int n)
  | .str s => .ok (.str s)
  | .float x => .ok (.float x)
  | .nonfinite _ => .error "semantic floats must be finite"
  | .mapping _ items => (copySemanticEntries items).map (.mapping true)
  | .list items => (copySemanticItems items).map .list
  | .tuple items => (copySemanticItems items).map .list
  | .other _ => .error "semantic value is not JSON-compatible"

def copySemanticItems : List PyValue → Except String (List PyValue)
  | [] => .ok []
  | item :: items => do
    let copied ← copySemanticValue item
    let rest ← copySemanticItems items
    return copied :: rest

def copySemanticEntries : List (PyKey × PyValue) → Except String (List (PyKey × PyValue))
  | [] => .ok []
  | (.str key, nested) :: items => do
    let copied ← copySemanticValue nested
    let rest ← copySemanticEntries items
    return (.str key, copied) :: rest
  | (.other _, _) :: _ => .error "semantic mapping keys must be strings"

end

/-- `_copy_semantic_mapping`. -/
def copySemanticMapping : PyValue → Except String PyValue
  | .mapping kind items => do
    let copied ← copySemanticValue (.mapping kind items)
    if items.isEmpty then .error "artifact semantic must be nonempty" else return copied
  | _ => .error "artifact semantic must be a mapping"

/-! ## 4. Artifact records -/

inductive ValidationStatus where
  | valid
  | missing
  | invalid
  deriving DecidableEq, Repr

def ValidationStatus.value : ValidationStatus → String
  | .valid => "valid"
  | .missing => "missing"
  | .invalid => "invalid"

/-- `ValidationStatus(value)`. -/
def ValidationStatus.ofValue (value : String) : Option ValidationStatus :=
  [ValidationStatus.valid, .missing, .invalid].find? fun status => status.value == value

structure ArtifactFinalRecord where
  relativePath : String
  status : ValidationStatus
  detail : String
  sizeBytes : Option ℕ
  sha256 : Option Sha256
  semantic : PyValue
  detailed : detail ≠ ""
  measured : sizeBytes.isSome = sha256.isSome
  validMeasured : status = .valid → sizeBytes.isSome = true
  copies : (copySemanticMapping semantic).isOk = true

/-- An optional field: absent, or a value that `read` takes. -/
def optionalField {α : Type} (read : PyValue → Option α) : PyValue → Option (Option α)
  | .none => some none
  | value => (read value).map some

/-- `type(value) is str and re.fullmatch(r"[0-9a-f]{64}", value)`. -/
def digest : PyValue → Option Sha256
  | .str value => if h : isSha256 value = true then some ⟨value, h⟩ else none
  | _ => none

namespace ArtifactFinalRecord

/-- `ArtifactFinalRecord(...)`. -/
def make (relativePath : PyValue) (status : ValidationStatus)
    (detail sizeBytes sha256 semantic : PyValue) : Except String ArtifactFinalRecord :=
  match relativePath, detail with
  | .str relativePath, .str detail =>
    if detailed : detail ≠ "" then
      match optionalField natural sizeBytes, optionalField digest sha256 with
      | some sizeBytes, some sha256 =>
        if complete : status = .valid → sizeBytes.isSome = true ∧ sha256.isSome = true then
          if measured : sizeBytes.isSome = sha256.isSome then
            match copied : copySemanticMapping semantic with
            | .error text => .error text
            | .ok _ =>
              .ok ⟨relativePath, status, detail, sizeBytes, sha256, semantic, detailed, measured,
                fun h => (complete h).1, isOk_of_eq copied⟩
          else .error "artifact size and sha256 must both be present or absent"
        else .error "valid artifacts require size and sha256"
      | none, _ => .error "artifact size must be a nonnegative integer"
      | _, none => .error "artifact sha256 must be a lowercase digest"
    else .error "artifact detail must be a nonempty string"
  | .str _, _ => .error "artifact detail must be a nonempty string"
  | _, _ => .error "artifact relative_path must be a string"

/-- `_ARTIFACT_RECORD_KEYS`. -/
def keys : List String :=
  ["relative_path", "status", "detail", "size_bytes", "sha256", "semantic"]

/-- The fields of a record on the wire, over the copy of its semantic. -/
def toFields (r : ArtifactFinalRecord) (semantic : PyValue) : List (String × PyValue) :=
  [("relative_path", .str r.relativePath),
    ("status", .str r.status.value),
    ("detail", .str r.detail),
    ("size_bytes", (r.sizeBytes.map fun size => .int size).getD .none),
    ("sha256", (r.sha256.map fun sha256 => .str sha256.val).getD .none),
    ("semantic", semantic)]

/-- `_record_document`. -/
def toDocument (r : ArtifactFinalRecord) : Except String PyValue := do
  let semantic ← copySemanticMapping r.semantic
  return .mapping true (document (r.toFields semantic))

/-- A record of the right keys, with a text as its status and a nonempty dict as its semantic. -/
def schemaFits : PyValue → Bool
  | .mapping true items =>
    hasKeys items keys && match PyValue.field items "status", PyValue.field items "semantic" with
      | some (.str _), some (.mapping true semantic) => !semantic.isEmpty
      | _, _ => false
  | _ => false

/-- One record of `_parse_records`, after the schema check. -/
def parse : PyValue → Except String ArtifactFinalRecord
  | .mapping _ items =>
    let value := fun name => (PyValue.field items name).getD .none
    match value "status" with
    | .str status =>
      match ValidationStatus.ofValue status with
      | some status =>
        make (value "relative_path") status (value "detail") (value "size_bytes") (value "sha256")
          (value "semantic")
      | none => .error "artifact record status is invalid"
    | _ => .error "artifact record has an invalid schema"
  | _ => .error "artifact record has an invalid schema"

end ArtifactFinalRecord

/-- `_ARTIFACT_FINAL_PATHS`. -/
def artifactFinalPaths : List String := ["video/onboard.mp4", "video/observer.mp4", "rosbag"]

/-- The records of an `ArtifactsFinalStatus`. -/
structure FinalRecords where
  records : List ArtifactFinalRecord
  inventory : records.map ArtifactFinalRecord.relativePath = artifactFinalPaths

/-- `ArtifactsFinalStatus.complete`. -/
def FinalRecords.complete (r : FinalRecords) : Bool :=
  r.records.all fun record => record.status == .valid

/-- `_parse_records` and the check of `ArtifactsFinalStatus`. -/
def FinalRecords.parse : PyValue → Except String FinalRecords
  | .list values =>
    if values.length = 3 then
      if values.all ArtifactFinalRecord.schemaFits then do
        let records ← values.mapM ArtifactFinalRecord.parse
        if inventory : records.map ArtifactFinalRecord.relativePath = artifactFinalPaths then
          return ⟨records, inventory⟩
        else .error "artifacts-final records have the wrong paths or order"
      else .error "artifact record has an invalid schema"
    else .error "artifacts-final records must be a three-item list"
  | _ => .error "artifacts-final records must be a three-item list"

/-! ## 5. Failures -/

/-- The fields of a `RuntimeFailureStatus`. -/
structure RuntimeFailure where
  module : String
  reason : String
  diagnosticPaths : List String
  moduleNamed : module ≠ ""
  reasoned : reason ≠ ""
  pathsValid : diagnosticPaths.all validDiagnosticPath = true
  pathsUnique : diagnosticPaths.Nodup
  deriving DecidableEq

/-- The text of a value. -/
def text : PyValue → Option String
  | .str value => some value
  | _ => none

/-- `_parse_diagnostic_paths` and the check of `RuntimeFailureStatus`. -/
def RuntimeFailure.parse (items : List (PyKey × PyValue)) : Except String RuntimeFailure :=
  match PyValue.field items "diagnostic_paths" with
  | some (.list paths) =>
    match (PyValue.field items "module").bind text, (PyValue.field items "reason").bind text,
      paths.mapM text with
    | some module, some reason, some paths =>
      if moduleNamed : module ≠ "" then
        if reasoned : reason ≠ "" then
          if pathsValid : paths.all validDiagnosticPath = true then
            if pathsUnique : paths.Nodup then
              .ok ⟨module, reason, paths, moduleNamed, reasoned, pathsValid, pathsUnique⟩
            else .error "diagnostic paths must be unique"
          else .error "diagnostic path must be relative POSIX syntax"
        else .error "failure reason must be a nonempty string"
      else .error "failure module must be a nonempty string"
    | none, _, _ => .error "failure module must be a nonempty string"
    | _, none, _ => .error "failure reason must be a nonempty string"
    | _, _, none => .error "diagnostic path must be relative POSIX syntax"
  | _ => .error "diagnostic_paths must be a JSON list"

/-- The fields of a failure on the wire. -/
def RuntimeFailure.toFields (f : RuntimeFailure) : List (String × PyValue) :=
  [("module", .str f.module), ("reason", .str f.reason),
    ("diagnostic_paths", .list (f.diagnosticPaths.map .str))]

/-! ## 6. Statuses -/

/-- Which fields the constructor of a status takes beside the run id. -/
inductive StatusShape where
  | marker
  | flight
  | stamped (latest : Option ℕ)
  | failure
  | records

/-- The registered status types. -/
inductive StatusType where
  | artifactsReady
  | gazeboReady
  | arduPilotReady
  | companionReady
  | missionReady
  | missionCommandDelivered
  | missionExecutionReady
  | runtimeRunning
  | sourceFinished
  | missionFinished
  | scoreFinished
  | runtimeFailure
  | runtimeFrozen
  | artifactsFinal
  | terminalNotified
  deriving DecidableEq, Repr

/-- `_StatusDefinition`. -/
structure StatusDefinition where
  name : String
  writePolicy : WritePolicy
  fixedFields : List (String × PyValue)
  shape : StatusShape

/-- `_STATUS_REGISTRY`. -/
def StatusType.definition : StatusType → StatusDefinition
  | .artifactsReady => ⟨"artifacts-ready", .identical, [("ready", .bool true)], .marker⟩
  | .gazeboReady => ⟨"gazebo-ready", .identical, [("ready", .bool true)], .flight⟩
  | .arduPilotReady =>
    ⟨"ardupilot-ready", .identical,
      [("ready", .bool true), ("json_exchange", .bool true),
        ("mavlink_endpoint", .str "tcp://ardupilot-sitl:5760")], .marker⟩
  | .companionReady =>
    ⟨"companion-ready", .identical,
      [("ready", .bool true), ("mavlink_endpoint", .str "tcp://ardupilot-sitl:5760"),
        ("mavlink_transport_connected", .bool true)], .marker⟩
  | .missionReady =>
    ⟨"mission-ready", .identical,
      [("ready", .bool true), ("heartbeat_observed", .bool true),
        ("prearm_checks_healthy", .bool true)], .marker⟩
  | .missionCommandDelivered =>
    ⟨"mission-command-delivered", .identical,
      [("command", .str "SET_GUIDED"), ("delivered", .bool true)], .stamped (some 50000000)⟩
  | .missionExecutionReady =>
    ⟨"mission-execution-ready", .identical, [("ready", .bool true)], .stamped none⟩
  | .runtimeRunning =>
    ⟨"runtime-running", .identical, [("state", .str "RUNNING")], .stamped none⟩
  | .sourceFinished =>
    ⟨"source-finished", .identical, [("finished", .bool true)], .stamped none⟩
  | .missionFinished =>
    ⟨"mission-finished", .identical, [("finished", .bool true), ("outcome", .str "LANDED")],
      .stamped none⟩
  | .scoreFinished =>
    ⟨"score-finished", .identical, [("finished", .bool true)], .stamped none⟩
  | .runtimeFailure => ⟨"runtime-failure", .firstWins, [], .failure⟩
  | .runtimeFrozen => ⟨"runtime-frozen", .identical, [("frozen", .bool true)], .marker⟩
  | .artifactsFinal => ⟨"artifacts-final", .identical, [], .records⟩
  | .terminalNotified =>
    ⟨"terminal-notified", .identical, [("notified", .bool true)], .marker⟩

namespace StatusShape

/-- A timestamp of a status: `_require_timestamp`, and the bound of a command's. -/
abbrev Stamp (latest : Option ℕ) := { timestampNs : ℕ // ∀ n, latest = some n → timestampNs ≤ n }

/-- What the constructor of a status of this shape accepts. -/
def Fields : StatusShape → Type
  | .marker => Unit
  | .flight => FlightExchange
  | .stamped latest => Stamp latest
  | .failure => RuntimeFailure
  | .records => FinalRecords

/-- The names of `constructor_fields`. -/
def fieldNames : StatusShape → List String
  | .marker => []
  | .flight => ["flight_exchange"]
  | .stamped _ => ["sim_timestamp_ns"]
  | .failure => ["module", "reason", "diagnostic_paths"]
  | .records => ["records"]

/-- The names of `derived_fields`. -/
def derivedNames : StatusShape → List String
  | .records => ["complete"]
  | _ => []

/-- `_require_timestamp`, and the startup window of a mission command. -/
def parseStamp (latest : Option ℕ) (value : PyValue) : Except String (Stamp latest) :=
  match natural value with
  | some timestampNs =>
    if h : ∀ n, latest = some n → timestampNs ≤ n then .ok ⟨timestampNs, h⟩
    else .error "mission command timestamp exceeds startup window"
  | none => .error "sim_timestamp_ns must be a nonnegative integer"

/-- The encoders of `constructor_fields`. -/
def encode : (shape : StatusShape) → shape.Fields → Except String (List (String × PyValue))
  | .marker, _ => .ok []
  | .flight, f => .ok [("flight_exchange", FlightExchange.toDocument f)]
  | .stamped _, n => .ok [("sim_timestamp_ns", .int (n.val : ℕ))]
  | .failure, f => .ok (RuntimeFailure.toFields f)
  | .records, r => do
    let documents ← (FinalRecords.records r).mapM ArtifactFinalRecord.toDocument
    return [("records", .list documents)]

/-- The decoders of `constructor_fields`, and the constructor. -/
def decode (items : List (PyKey × PyValue)) :
    (shape : StatusShape) → Except String shape.Fields
  | .marker => .ok ()
  | .flight => FlightExchange.parse ((PyValue.field items "flight_exchange").getD .none)
  | .stamped latest => parseStamp latest ((PyValue.field items "sim_timestamp_ns").getD .none)
  | .failure => RuntimeFailure.parse items
  | .records => FinalRecords.parse ((PyValue.field items "records").getD .none)

/-- `derived_fields`. -/
def derived : (shape : StatusShape) → shape.Fields → List (String × PyValue)
  | .records, r => [("complete", .bool (FinalRecords.complete r))]
  | _, _ => []

end StatusShape

/-- A status of type `t`. -/
structure RuntimeStatus (t : StatusType) where
  runId : String
  fields : t.definition.shape.Fields
  canonical : isCanonicalUuid runId = true

/-- `_wire_value_matches`, the expected value a boolean or a string. -/
def wireValueMatches : PyValue → PyValue → Bool
  | .bool value, .bool expected => value == expected
  | .str value, .str expected => value == expected
  | _, _ => false

/-- Every one of these fields stands in the document as expected. -/
def matchesFields (items : List (PyKey × PyValue)) (expected : List (String × PyValue)) : Bool :=
  expected.all fun p => (PyValue.field items p.1).any fun value => wireValueMatches value p.2

/-- The keys of a document of type `t`. -/
def StatusType.keys (t : StatusType) : List String :=
  "run_id" :: (t.definition.fixedFields.map Prod.fst ++
    (t.definition.shape.fieldNames ++ t.definition.shape.derivedNames))

/-- `status_document`. -/
def statusDocument {t : StatusType} (status : RuntimeStatus t) : Except String PyValue := do
  let fields ← t.definition.shape.encode status.fields
  return .mapping true (document
    (("run_id", .str status.runId) :: (t.definition.fixedFields ++
      (fields ++ t.definition.shape.derived status.fields))))

/-- `parse_status`, the expected run id a text. -/
def parseStatus (t : StatusType) (value : PyValue) (expectedRunId : String) :
    Except String (RuntimeStatus t) :=
  if canonical : isCanonicalUuid expectedRunId = true then
    match value with
    | .mapping true items =>
      if hasKeys items t.keys then do
        let runId ← canonicalRunId ((PyValue.field items "run_id").getD .none)
        if runId ≠ expectedRunId then .error "runtime status has the wrong run_id"
        else if matchesFields items t.definition.fixedFields then do
          let fields ← t.definition.shape.decode items
          if matchesFields items (t.definition.shape.derived fields) then
            return ⟨expectedRunId, fields, canonical⟩
          else .error "runtime status has an invalid derived field"
        else .error "runtime status has an invalid schema"
      else .error "runtime status has an invalid schema"
    | _ => .error "runtime status has an invalid schema"
  else .error "run_id must be a canonical UUID"

end DroneSim
