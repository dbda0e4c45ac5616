/-
  File:      DroneSim/Companion/PhaseExchange.lean
  Subject:   The exchange of phase checks with the judge (companion/vfs_operations.py).

  A check waits until the vehicle is ready, is then published under an event id, and the judge's
  message for this id is a decision. The exchange keeps the first decision of every request
  (`decisions`), and apart from it the last approval of an FM2 request (`latestFm2`), which the
  conditions of the plan read.

  * `PhaseHistory` -- the exchange with what it has published and accepted so far;
  * `Frozen` -- the held approval is the first accepted decision of the latest FM2 request;
  * `ForLatest` -- the calls after which it still is (`step_frozen`).
-/
import DroneSim.Companion.ConfiguredMission
import DroneSim.Companion.Operations
import DroneSim.Library.Dict
import DroneSim.Library.History
import DroneSim.Library.Run

namespace DroneSim

open Library

/-! ## 1. The exchange -/

inductive PhaseOutcome where
  | approved | rejected | error | other
  deriving DecidableEq, Repr

/-- A message of the judge. -/
structure JudgeMessage where
  runId : String
  outcome : PhaseOutcome
  requestId : String
  phase : String
  checkpoint : String
  requestEventId : ℤ
  eligibleArucoIds : List ℤ
  reasonCode : String
  deriving DecidableEq, Repr

/-- `PhaseDecision` with all its fields. -/
structure EligibilityDecision extends PhaseDecision where
  eligibleArucoIds : List ℤ
  requestEventId : ℤ
  deriving DecidableEq, Repr

structure PhaseExchange where
  runId : String
  /-- There is a `check_ready`. -/
  gated : Bool
  decisions : Dict String EligibilityDecision
  latestFm2 : Option EligibilityDecision
  requests : Dict String (String × String × ℤ)
  pendingChecks : Dict String (String × String)

/-- What the exchange has published, and the decisions it has accepted. -/
inductive PhaseNote where
  | started (phase requestId : String)
  | requested (phase checkpoint requestId : String) (eventId : ℤ)
  | decided (decision : EligibilityDecision)
  deriving DecidableEq, Repr

/-- A call. `ready` is the answer of `check_ready`, `published` that of the publisher for each
    request that is published: its event id, `none` where it raises or answers no integer. -/
inductive PhaseCall where
  | start (phase requestId : String) (published : Option ℤ)
  | check (phase checkpoint requestId : String) (ready : Bool) (published : String → Option ℤ)
  | advance (ready : Bool) (published : String → Option ℤ)
  | accept (message : JudgeMessage)

namespace PhaseExchange

variable (exchange : PhaseExchange)

def initial (runId : String) (gated : Bool) : PhaseExchange where
  runId := runId
  gated := gated
  decisions := .empty
  latestFm2 := none
  requests := .empty
  pendingChecks := .empty

/-- The loop of `advance` over `_emit_check`; it ends where the publisher raises. -/
def emitChecks (published : String → Option ℤ) :
    PhaseExchange → List String → PhaseExchange × List PhaseNote
  | exchange, [] => (exchange, [])
  | exchange, requestId :: rest =>
    match exchange.pendingChecks.get requestId, published requestId with
    | some (phase, checkpoint), some eventId =>
      let emitted := emitChecks published
        { exchange with
          requests := exchange.requests.set requestId (phase, checkpoint, eventId)
          pendingChecks := exchange.pendingChecks.erase requestId } rest
      (emitted.1, PhaseNote.requested phase checkpoint requestId eventId :: emitted.2)
    | _, _ => (exchange, [])

/-- `advance`. -/
def advance (ready : Bool) (published : String → Option ℤ) : PhaseExchange × List PhaseNote :=
  if exchange.gated && !ready then (exchange, [])
  else exchange.emitChecks published exchange.pendingChecks.keys

/-- `check`. -/
def check (phase checkpoint requestId : String) (ready : Bool) (published : String → Option ℤ) :
    PhaseExchange × List PhaseNote :=
  let exchange := { exchange with
    pendingChecks := exchange.pendingChecks.set requestId (phase, checkpoint) }
  if exchange.gated then exchange.advance ready published
  else exchange.emitChecks published [requestId]

/-- The decision that a message makes, where the message is for a published request. -/
def decides (message : JudgeMessage) : Option EligibilityDecision :=
  if message.runId ≠ exchange.runId ∨ message.outcome = .other then none
  else if exchange.requests.get message.requestId ≠
      some (message.phase, message.checkpoint, message.requestEventId) then none
  else some {
    requestId := message.requestId
    phase := message.phase
    checkpoint := message.checkpoint
    approved := message.outcome = .approved
    eligibleArucoIds := message.eligibleArucoIds
    reason := message.reasonCode
    requestEventId := message.requestEventId }

/-- `accept`. -/
def accept (message : JudgeMessage) : PhaseExchange × List PhaseNote :=
  match exchange.decides message with
  | none => (exchange, [])
  | some decision =>
    ({ exchange with
      decisions := exchange.decisions.setdefault decision.requestId decision
      latestFm2 := if decision.phase = "FM2" ∧ decision.approved = true then some decision
        else exchange.latestFm2 }, [PhaseNote.decided decision])

/-- One call. -/
def step : PhaseCall → PhaseExchange × List PhaseNote
  | .start phase requestId published =>
    (exchange, if published.isSome then [PhaseNote.started phase requestId] else [])
  | .check phase checkpoint requestId ready published =>
    exchange.check phase checkpoint requestId ready published
  | .advance ready published => exchange.advance ready published
  | .accept message => exchange.accept message

/-- `decision`. -/
def decision (requestId : String) : Option EligibilityDecision :=
  exchange.decisions.get requestId

/-- The answer of `evaluate` for these eligible ids. -/
def resultFor (eligible : List ℤ) (condition : Condition) : ConditionResult :=
  let matched := match condition with
    | .anyPayloadEligible => !eligible.isEmpty
    | .payloadEligible payloadId => eligible.contains payloadId
  ⟨matched, bif matched then "eligible payload selected" else "payload was not eligible"⟩

/-- `evaluate`. -/
def evaluate (condition : Condition) : Except String ConditionResult :=
  match exchange.latestFm2 with
  | none => .error "FM2 eligibility decision is unavailable"
  | some decision => .ok (resultFor decision.eligibleArucoIds condition)

end PhaseExchange

/-! ## 2. Histories -/

/-- The exchange with all it has published and accepted. -/
structure PhaseHistory where
  exchange : PhaseExchange
  log : List PhaseNote

/-- The FM2 request that a note publishes. -/
def PhaseNote.fm2Request : PhaseNote → Option String
  | .requested phase _ requestId _ => if phase = "FM2" then some requestId else none
  | _ => none

/-- The decision that a note accepts for the request. -/
def PhaseNote.decidedFor (requestId : String) : PhaseNote → Option EligibilityDecision
  | .decided decision => if decision.requestId = requestId then some decision else none
  | _ => none

/-- The latest FM2 request of a log. -/
def latestRequest (log : List PhaseNote) : Option String := latest PhaseNote.fm2Request log

/-- The first decision of a log that was accepted for the request. -/
def firstDecided (log : List PhaseNote) (requestId : String) : Option EligibilityDecision :=
  log.findSome? (PhaseNote.decidedFor requestId)

namespace PhaseHistory

def initial (runId : String) (gated : Bool) : PhaseHistory := ⟨.initial runId gated, []⟩

/-- One call. -/
def step (h : PhaseHistory) (call : PhaseCall) : PhaseHistory :=
  let after := h.exchange.step call
  ⟨after.1, h.log ++ after.2⟩

/-- The runs of the exchange. -/
def Calls (h : PhaseHistory) (call : PhaseCall) (os : List PhaseNote) (t : PhaseHistory) : Prop :=
  os = (h.exchange.step call).2 ∧ t = h.step call

/-- **What the plan's conditions use is the frozen decision**: where `evaluate` answers, it reads
    the eligible ids of the first accepted decision of the latest FM2 request, the decision that
    `decision` returns for it. -/
def Frozen (h : PhaseHistory) : Prop :=
  ∀ used, h.exchange.latestFm2 = some used → ∃ requestId, latestRequest h.log = some requestId ∧
    firstDecided h.log requestId = some used ∧ h.exchange.decision requestId = some used

/-- The condition on a call. The exchange publishes no FM2 check while it holds the approval of
    another request, and it accepts an FM2 approval only for the latest FM2 request, and then
    none that differs from the first decision of this request. -/
def ForLatest (h : PhaseHistory) : PhaseCall → Prop
  | .accept message => ∀ decision, h.exchange.decides message = some decision →
      decision.phase = "FM2" → decision.approved = true →
      latestRequest h.log = some decision.requestId ∧
        ∀ first, h.exchange.decision decision.requestId = some first → first = decision
  | call => ∀ requestId used, latestRequest (h.exchange.step call).2 = some requestId →
      h.exchange.latestFm2 = some used → h.exchange.decision requestId = some used

/-! ## 3. What a call keeps -/

/-- The exchange's decisions are the first ones of the log. -/
def Recorded (h : PhaseHistory) : Prop :=
  ∀ requestId, h.exchange.decision requestId = firstDecided h.log requestId

end PhaseHistory

/-- No decision is among the notes. -/
def Undecided (notes : List PhaseNote) : Prop := ∀ d, PhaseNote.decided d ∉ notes

theorem Undecided.first {notes : List PhaseNote} (h : Undecided notes) (requestId : String) :
    firstDecided notes requestId = none := by
  refine List.findSome?_eq_none_iff.mpr fun note hnote => ?_
  cases note with
  | decided d => exact absurd hnote (h d)
  | started => rfl
  | requested => rfl

theorem firstDecided_append (log notes : List PhaseNote) (requestId : String) :
    firstDecided (log ++ notes) requestId =
      (firstDecided log requestId).or (firstDecided notes requestId) := List.findSome?_append

theorem latestRequest_append (log notes : List PhaseNote) :
    latestRequest (log ++ notes) = (latestRequest notes).or (latestRequest log) := by
  rw [latestRequest, latestRequest, latestRequest, latest, latest, latest, List.filterMap_append,
    List.getLast?_append]

namespace PhaseExchange

variable {exchange : PhaseExchange}

/-- **The checks that are published**: no decision is touched. -/
theorem emitChecks_spec (published : String → Option ℤ) (exchange : PhaseExchange)
    (requestIds : List String) :
    (exchange.emitChecks published requestIds).1.decisions = exchange.decisions ∧
      (exchange.emitChecks published requestIds).1.latestFm2 = exchange.latestFm2 ∧
      Undecided (exchange.emitChecks published requestIds).2 := by
  induction requestIds generalizing exchange with
  | nil => exact ⟨rfl, rfl, fun _ => List.not_mem_nil⟩
  | cons requestId rest ih =>
    rw [emitChecks]
    split
    · rename_i phase checkpoint eventId hpending hpublished
      obtain ⟨hdecisions, hlatest, hnotes⟩ := ih
        { exchange with
          requests := exchange.requests.set requestId (phase, checkpoint, eventId)
          pendingChecks := exchange.pendingChecks.erase requestId }
      refine ⟨hdecisions, hlatest, fun d hd => ?_⟩
      rcases List.mem_cons.mp hd with hd | hd
      · cases hd
      · exact hnotes d hd
    · exact ⟨rfl, rfl, fun _ => List.not_mem_nil⟩

theorem advance_spec (exchange : PhaseExchange) (ready : Bool) (published : String → Option ℤ) :
    (exchange.advance ready published).1.decisions = exchange.decisions ∧
      (exchange.advance ready published).1.latestFm2 = exchange.latestFm2 ∧
      Undecided (exchange.advance ready published).2 := by
  rw [advance]
  split
  · exact ⟨rfl, rfl, fun _ => List.not_mem_nil⟩
  · exact exchange.emitChecks_spec published _

/-- **Only `accept` touches the decisions.** -/
theorem step_spec (exchange : PhaseExchange) {call : PhaseCall}
    (hcall : ∀ message, call ≠ .accept message) :
    (exchange.step call).1.decisions = exchange.decisions ∧
      (exchange.step call).1.latestFm2 = exchange.latestFm2 ∧
      Undecided (exchange.step call).2 := by
  cases call with
  | start phase requestId published =>
    refine ⟨rfl, rfl, fun d hd => ?_⟩
    rw [step] at hd
    dsimp only at hd
    split at hd
    · cases List.mem_singleton.mp hd
    · exact List.not_mem_nil hd
  | check phase checkpoint requestId ready published =>
    rw [step, check]
    dsimp only
    split
    · exact advance_spec _ ready published
    · exact emitChecks_spec published _ _
  | advance ready published => exact exchange.advance_spec ready published
  | accept message => exact absurd rfl (hcall message)

end PhaseExchange

/-- The first decision for a request is one for this request. -/
theorem firstDecided_requestId {log : List PhaseNote} {requestId : String}
    {d : EligibilityDecision} (h : firstDecided log requestId = some d) :
    d.requestId = requestId := by
  obtain ⟨_, note, _, _, hnote, _⟩ := List.findSome?_eq_some_iff.mp h
  cases note with
  | decided e =>
    rw [PhaseNote.decidedFor] at hnote
    split at hnote
    · rename_i hid
      rw [← Option.some.inj hnote]
      exact hid
    · cases hnote
  | started => cases hnote
  | requested => cases hnote

namespace PhaseHistory

variable {h : PhaseHistory}

/-- A call that accepts no message keeps every first decision. -/
theorem other_decision (h : PhaseHistory) {call : PhaseCall}
    (hcall : ∀ message, call ≠ .accept message) (requestId : String) :
    (h.step call).exchange.decision requestId = h.exchange.decision requestId ∧
      firstDecided (h.step call).log requestId = firstDecided h.log requestId := by
  obtain ⟨hdecisions, _, hnotes⟩ := h.exchange.step_spec hcall
  refine ⟨congrArg (fun d => Dict.get d requestId) hdecisions, ?_⟩
  rw [step]
  dsimp only
  rw [firstDecided_append, hnotes.first, Option.or_none]

/-- An accepted message is the first decision of its request, or the first one stays. -/
theorem accept_decision {message : JudgeMessage} {d : EligibilityDecision}
    (hd : h.exchange.decides message = some d) (requestId : String) :
    (h.step (.accept message)).exchange.decision requestId =
        (h.exchange.decision requestId).or (if d.requestId = requestId then some d else none) ∧
      firstDecided (h.step (.accept message)).log requestId =
        (firstDecided h.log requestId).or (if d.requestId = requestId then some d else none) := by
  have hstep : h.step (.accept message) = ⟨(h.exchange.accept message).1,
      h.log ++ (h.exchange.accept message).2⟩ := rfl
  rw [hstep, PhaseExchange.accept, hd]
  dsimp only
  constructor
  · rw [PhaseExchange.decision, Dict.get_setdefault]
    by_cases hid : requestId = d.requestId
    · subst hid
      rw [if_pos rfl, if_pos rfl, PhaseExchange.decision]
      cases h.exchange.decisions.get d.requestId <;> rfl
    · rw [if_neg hid, if_neg fun he => hid he.symm, Option.or_none]
      rfl
  · rw [firstDecided_append]
    congr 1
    rw [firstDecided, List.findSome?_singleton, PhaseNote.decidedFor]

/-- **Every call keeps the first decisions.** -/
theorem step_recorded (hrec : h.Recorded) (call : PhaseCall) : (h.step call).Recorded := by
  intro requestId
  by_cases hcall : ∃ message, call = .accept message
  · obtain ⟨message, rfl⟩ := hcall
    cases hd : h.exchange.decides message with
    | none =>
      have hsame : h.step (.accept message) = h := by
        show (⟨(h.exchange.accept message).1, h.log ++ (h.exchange.accept message).2⟩ :
          PhaseHistory) = h
        rw [PhaseExchange.accept, hd, List.append_nil]
      rw [hsame]
      exact hrec requestId
    | some d =>
      obtain ⟨hnow, hlog⟩ := accept_decision hd requestId
      rw [hnow, hlog, hrec requestId]
  · obtain ⟨hnow, hlog⟩ := h.other_decision (fun m he => hcall ⟨m, he⟩) requestId
    rw [hnow, hlog, hrec requestId]

/-- **A call that accepts no message**: the latest request must stay that of the approval. -/
theorem other_frozen (hrec : h.Recorded) (hfrozen : h.Frozen) {call : PhaseCall}
    (hcall : ∀ message, call ≠ .accept message) :
    (h.step call).Frozen ↔ ∀ requestId used,
      latestRequest (h.exchange.step call).2 = some requestId →
      h.exchange.latestFm2 = some used → h.exchange.decision requestId = some used := by
  obtain ⟨_, hlatest, _⟩ := h.exchange.step_spec hcall
  have hkept : (h.step call).exchange.latestFm2 = h.exchange.latestFm2 := hlatest
  have hrequest : latestRequest (h.step call).log =
      (latestRequest (h.exchange.step call).2).or (latestRequest h.log) :=
    latestRequest_append _ _
  rw [Frozen, hkept, hrequest]
  constructor
  · intro hafter requestId used hnew hused
    obtain ⟨r, hr, _, hdecision⟩ := hafter used hused
    rw [hnew, Option.some_or] at hr
    rw [Option.some.inj hr, ← (h.other_decision hcall r).1]
    exact hdecision
  · intro hcond used hused
    cases hnew : latestRequest (h.exchange.step call).2 with
    | none =>
      obtain ⟨r, hr, hfirst, hdecision⟩ := hfrozen used hused
      obtain ⟨hnow, hlog⟩ := h.other_decision hcall r
      exact ⟨r, hr, hlog.trans hfirst, hnow.trans hdecision⟩
    | some r =>
      have hdecision := hcond r used hnew hused
      obtain ⟨hnow, hlog⟩ := h.other_decision hcall r
      exact ⟨r, rfl, hlog.trans ((hrec r).symm.trans hdecision), hnow.trans hdecision⟩

/-- **An accepted message**: an approval of FM2 must be the frozen decision. -/
theorem accept_frozen (hrec : h.Recorded) (hfrozen : h.Frozen) {message : JudgeMessage}
    {d : EligibilityDecision} (hd : h.exchange.decides message = some d) :
    (h.step (.accept message)).Frozen ↔ (d.phase = "FM2" → d.approved = true →
      latestRequest h.log = some d.requestId ∧
        ∀ first, h.exchange.decision d.requestId = some first → first = d) := by
  have hstep : h.step (.accept message) = ⟨(h.exchange.accept message).1,
      h.log ++ (h.exchange.accept message).2⟩ := rfl
  have hlatest : (h.step (.accept message)).exchange.latestFm2 =
      if d.phase = "FM2" ∧ d.approved = true then some d else h.exchange.latestFm2 := by
    rw [hstep, PhaseExchange.accept, hd]
  have hrequest : latestRequest (h.step (.accept message)).log = latestRequest h.log := by
    rw [hstep, PhaseExchange.accept, hd, latestRequest_append]
    rfl
  have hfirst := h.accept_decision hd
  rw [Frozen, hlatest, hrequest]
  split
  · rename_i happroved
    constructor
    · intro hafter _ _
      obtain ⟨r, hr, hlog, hdecision⟩ := hafter d rfl
      obtain rfl := firstDecided_requestId hlog
      refine ⟨hr, fun first hheld => ?_⟩
      rw [(hfirst d.requestId).1, hheld, Option.some_or] at hdecision
      exact Option.some.inj hdecision
    · intro hcond used hused
      obtain rfl := Option.some.inj hused
      obtain ⟨hr, hsame⟩ := hcond happroved.1 happroved.2
      refine ⟨d.requestId, hr, ?_, ?_⟩
      · rw [(hfirst d.requestId).2, ← hrec, if_pos rfl]
        cases hheld : h.exchange.decision d.requestId with
        | none => rfl
        | some first => rw [hsame first hheld, Option.some_or]
      · rw [(hfirst d.requestId).1, if_pos rfl]
        cases hheld : h.exchange.decision d.requestId with
        | none => rfl
        | some first => rw [hsame first hheld, Option.some_or]
  · rename_i hnot
    constructor
    · exact fun _ hphase happroved => absurd ⟨hphase, happroved⟩ hnot
    · intro _ used hused
      obtain ⟨r, hr, hlog, hdecision⟩ := hfrozen used hused
      refine ⟨r, hr, ?_, ?_⟩
      · rw [(hfirst r).2, hlog, Option.some_or]
      · rw [(hfirst r).1, hdecision, Option.some_or]

/-- **The condition is exact**: from a state that uses the frozen decision, a call leads to one
    that does if and only if it meets the condition. -/
theorem step_frozen (hrec : h.Recorded) (hfrozen : h.Frozen) (call : PhaseCall) :
    (h.step call).Frozen ↔ h.ForLatest call := by
  cases call with
  | accept message =>
    cases hd : h.exchange.decides message with
    | none =>
      have hsame : h.step (.accept message) = h := by
        show (⟨(h.exchange.accept message).1, h.log ++ (h.exchange.accept message).2⟩ :
          PhaseHistory) = h
        rw [PhaseExchange.accept, hd, List.append_nil]
      rw [hsame]
      refine ⟨fun _ decision he => ?_, fun _ => hfrozen⟩
      rw [hd] at he
      cases he
    | some d =>
      rw [accept_frozen hrec hfrozen hd]
      constructor
      · intro hcond decision he
        rw [hd] at he
        exact Option.some.inj he ▸ hcond
      · exact fun hcond => hcond d hd
  | start phase requestId published => exact other_frozen hrec hfrozen fun _ he => by cases he
  | check phase checkpoint requestId ready published =>
    exact other_frozen hrec hfrozen fun _ he => by cases he
  | advance ready published => exact other_frozen hrec hfrozen fun _ he => by cases he

/-! ## 4. Runs -/

/-- **The plan's conditions use the frozen decision** in every run whose calls are for the latest
    FM2 request. -/
theorem evaluate_frozen (runId : String) (gated : Bool) {calls : List PhaseCall}
    {notes : List PhaseNote} {h : PhaseHistory}
    (hrun : Run (Meeting Calls ForLatest) (initial runId gated) calls notes h)
    {condition : Condition} {result : ConditionResult}
    (hresult : h.exchange.evaluate condition = .ok result) :
    ∃ requestId decision, latestRequest h.log = some requestId ∧
      firstDecided h.log requestId = some decision ∧
      h.exchange.decision requestId = some decision ∧ h.exchange.latestFm2 = some decision ∧
      result = PhaseExchange.resultFor decision.eligibleArucoIds condition := by
  have hkept : h.Recorded ∧ h.Frozen := by
    refine hrun.invariant (P := fun h => Recorded h ∧ Frozen h) ⟨fun _ => rfl, fun _ he => ?_⟩ ?_
    · cases he
    · rintro s call os t ⟨hrec, hfrozen⟩ ⟨⟨_, rfl⟩, hcond⟩
      exact ⟨step_recorded hrec call, (step_frozen hrec hfrozen call).mpr hcond⟩
  rw [PhaseExchange.evaluate] at hresult
  cases hused : h.exchange.latestFm2 with
  | none =>
    rw [hused] at hresult
    cases hresult
  | some decision =>
    rw [hused] at hresult
    obtain ⟨requestId, hrequest, hfirst, hdecision⟩ := hkept.2 decision hused
    cases hresult
    exact ⟨requestId, decision, hrequest, hfirst, hdecision, rfl, rfl⟩

/-- The FM2 check of a plan, published under event id 0. -/
def fm2Check : PhaseCall := .check "FM2" "" "fm2" true fun _ => some 0

/-- The judge's approval of this check with these payloads. -/
def fm2Approval (eligibleArucoIds : List ℤ) : JudgeMessage where
  runId := "run"
  outcome := .approved
  requestId := "fm2"
  phase := "FM2"
  checkpoint := ""
  requestEventId := 0
  eligibleArucoIds := eligibleArucoIds
  reasonCode := "APPROVED"

/-- The decision of this message. -/
def fm2Decision (eligibleArucoIds : List ℤ) : EligibilityDecision where
  requestId := "fm2"
  phase := "FM2"
  checkpoint := ""
  approved := true
  reason := "APPROVED"
  eligibleArucoIds := eligibleArucoIds
  requestEventId := 0

/-- The check, and its approval. -/
theorem approved_run (eligibleArucoIds : List ℤ) :
    Run (Meeting Calls ForLatest) (initial "run" false)
      [fm2Check, .accept (fm2Approval eligibleArucoIds)]
      [PhaseNote.requested "FM2" "" "fm2" 0, PhaseNote.decided (fm2Decision eligibleArucoIds)]
      (((initial "run" false).step fm2Check).step (.accept (fm2Approval eligibleArucoIds))) := by
  have hcheck : Meeting Calls ForLatest (initial "run" false) fm2Check
      [PhaseNote.requested "FM2" "" "fm2" 0] ((initial "run" false).step fm2Check) :=
    ⟨⟨rfl, rfl⟩, fun _ _ _ hused => by cases hused⟩
  refine Run.step (.step .start hcheck) ⟨⟨rfl, rfl⟩, fun decision hd _ _ => ?_⟩
  have hdecision : decision = fm2Decision eligibleArucoIds := (Option.some.inj hd).symm
  subst hdecision
  exact ⟨rfl, fun first hfirst => by cases hfirst⟩

theorem evaluate_frozen_approved :
    ∃ h notes, Run (Meeting Calls ForLatest) (initial "run" false)
        [fm2Check, .accept (fm2Approval [2, 4])] notes h ∧
      h.exchange.evaluate (.payloadEligible 2) = .ok ⟨true, "eligible payload selected"⟩ ∧
      ∃ requestId decision, latestRequest h.log = some requestId ∧
        firstDecided h.log requestId = some decision ∧
        h.exchange.decision requestId = some decision ∧ h.exchange.latestFm2 = some decision ∧
        (⟨true, "eligible payload selected"⟩ : ConditionResult) =
          PhaseExchange.resultFor decision.eligibleArucoIds (.payloadEligible 2) :=
  ⟨_, _, approved_run [2, 4], rfl, evaluate_frozen "run" false (approved_run [2, 4]) rfl⟩

/-- **A second approval of the same request thaws the decision**: the conditions read payload 3,
    while the first decision of the request is for payload 2 and stays the answer of `decision`. -/
theorem evaluate_thawed :
    ∃ h notes, Run Calls (initial "run" false)
        [fm2Check, .accept (fm2Approval [2]), .accept (fm2Approval [3])] notes h ∧
      latestRequest h.log = some "fm2" ∧
      firstDecided h.log "fm2" = some (fm2Decision [2]) ∧
      h.exchange.decision "fm2" = some (fm2Decision [2]) ∧
      h.exchange.evaluate (.payloadEligible 3) = .ok ⟨true, "eligible payload selected"⟩ ∧
      PhaseExchange.resultFor (fm2Decision [2]).eligibleArucoIds (.payloadEligible 3) =
        ⟨false, "payload was not eligible"⟩ :=
  ⟨_, _, .step (approved_run [2]).of_meeting ⟨rfl, rfl⟩, rfl, rfl, rfl, rfl, rfl⟩

end PhaseHistory

end DroneSim
