/-
  File:      DroneSim/Companion/OperationMoves.lean
  Subject:   What the active operation can do to the state of the drone operations.

  `Work s notes t` has one constructor for each thing that a tool under way, an end of the active
  operation or a stop does to the state, with the tests passed on the way to it. The tools, their
  evaluation and the ends stay within these moves (`within_dispatch`, `within_evaluateActive`,
  `within_finish`); that a new operation begins is no move of the active one.
-/
import DroneSim.Companion.OperationCalls

namespace DroneSim

open Library Library.Attempt Library.Acting MachineFloat

variable {R : Type}

/-! ## 1. Moves -/

/-- A note that tells nothing of an operation's life. -/
def OperationNote.isQuiet : OperationNote R → Bool
  | .polled _ | .markersCancelled | .payloadsCancelled | .emitted _ .missionArmed
  | .emitted _ (.flightConfigurationConfirmed _) | .emitted _ (.precisionRecovery ..)
  | .emitted _ (.precisionObservation _) => true
  | _ => false

namespace DroneOperations

variable (e : Equipment R)

/-- The operations are the same. -/
structure Quiet (s t : DroneOperations R) : Prop where
  clockNs : t.clockNs = s.clockNs
  operations : t.operations = s.operations
  active : t.active = s.active
  stoppedReason : t.stoppedReason = s.stoppedReason
  recoveryId : t.recoveryId = s.recoveryId
  lastMarkerSequence : t.lastMarkerSequence = s.lastMarkerSequence

theorem Quiet.refl (s : DroneOperations R) : Quiet s s := ⟨rfl, rfl, rfl, rfl, rfl, rfl⟩

/-- The state with another active operation. -/
def withActive (a : ActiveOperation R) (s : DroneOperations R) : DroneOperations R :=
  { s with active := some a }

/-- The state with another context of the active operation `a`. -/
def withOwn (a : ActiveOperation R) (context : OperationContext R) (s : DroneOperations R) :
    DroneOperations R := s.withActive { a with context := context }

def cancelNotes (state : OperationState) : ToolCall R → List (OperationNote R)
  | .findMarker _ | .precisionLand _ => if e.vision then [.markersCancelled] else []
  | .attachPayload _ | .releasePayload .. =>
    if e.payloads && state != .succeeded then [.payloadsCancelled] else []
  | _ => []

/-- What `finish` notes. -/
def finishNotes (a : ActiveOperation R) (state : OperationState) (clockNs : ℤ) (error : String) :
    List (OperationNote R) :=
  cancelNotes e state a.tool ++ (if state = .succeeded then [] else [OperationNote.stopped]) ++
    [OperationNote.emitted clockNs (.operationFinished a.status.operationId a.status.tool state error)]

/-- What `finish` leaves. -/
def finishedAs (a : ActiveOperation R) (state : OperationState) (error : String)
    (s : DroneOperations R) : DroneOperations R :=
  { s.settled { a.status with
      state := state
      finishedAtNs := some s.clockNs
      error := error } with
    stoppedReason :=
      if state = .succeeded then s.stoppedReason
      else some (if error = "" then state.value else error) }

/-- A look that uses no frame, or a newer one. -/
def LookStep (s : DroneOperations R) (look look' : MarkerLook R) (m : ℤ) : Prop :=
  (look'.lastSequence = look.lastSequence ∧ m = s.lastMarkerSequence) ∨
    (look.lastSequence < look'.lastSequence ∧ m = max s.lastMarkerSequence look'.lastSequence)

/-- The precision landing has accepted an observation with a new frame. -/
structure Spotted (s : DroneOperations R) (a : ActiveOperation R) (c c' : Precision R)
    (o : MarkerObservation R) (t : DroneOperations R) : Prop where
  active : s.active = some a
  context : a.context = .precision c
  newer : c.look.lastSequence < o.sequence
  sequence : c'.look.lastSequence = o.sequence
  healthy : c'.look.rejection = "healthy"
  phase : c'.phase = c.phase
  retry : c'.retry = c.retry
  state : t = { s.withOwn a (.precision c') with
    lastMarkerSequence := max s.lastMarkerSequence o.sequence }

/-- **The moves of the active operation.** -/
inductive Work : DroneOperations R → List (OperationNote R) → DroneOperations R → Prop where
  | quiet {s t} (h : Quiet s t) : Work s [] t
  | noted {s} {note : OperationNote R} (h : note.isQuiet = true) : Work s [note] s
  | sent {s a} {request : OperationRequest R} (h : s.active = some a)
    (htarget : request.target = none) : Work s [OperationNote.sent s request] s
  | worked {s a} {a' : ActiveOperation R} (h : s.active = some a) (hstatus : a'.status = a.status)
    (htool : a'.tool = a.tool) (hdeadline : a'.deadlineNs = a.deadlineNs)
    (hcontext : a'.context = a.context ∨
      (a.tool.landingMarker = none ∧ a'.context.landing = none))
    (hack : a'.expectedAck = a.expectedAck ∨ a.tool.landingMarker = none) :
    Work s [] (s.withActive a')
  | looked {s a look look' m} (h : s.active = some a) (hlook : a.context.look = some look)
    (hstep : LookStep s look look' m) :
    Work s [] { s.withOwn a (a.context.withLook look') with lastMarkerSequence := m }
  -- the precision landing
  | begun {s a c} (h : s.active = some a) (htool : a.tool.landingMarker.isSome = true)
    (hempty : a.context = .empty) (hclock : a.status.startedAtNs = s.clockNs)
    (hlook : c.look.lastSequence = s.lastMarkerSequence) (hretry : c.retry = 0) :
    Work s [] (s.withActive
      { a with
        deadlineNs := min a.deadlineNs (s.clockNs + precisionTimeoutNs)
        context := .precision c })
  | steered {s a c c'} (h : s.active = some a) (hcontext : a.context = .precision c)
    (hlook : c'.look = c.look) (hretry : c'.retry = c.retry) :
    Work s [] (s.withOwn a (.precision c'))
  | retried {s a c c'} (h : s.active = some a) (hcontext : a.context = .precision c)
    (hfirst : c.retry = 0) (hlook : c'.look = c.look) (hretry : c'.retry = 1) :
    Work s [.retried a.status.operationId] (s.withOwn a (.precision c'))
  | targeted {s a c c' o t report} (h : Spotted s a c c' o t) (hphase : c.phase = .tracking)
    (hmode : t.modeIs "LAND" = true) (hreport : report.observation = o ∧ report.healthy = true) :
    Work s [.polled (.ok (some o)), .emitted s.clockNs (.precisionObservation report),
      .sent t (.sendLandingTarget o.vector)] t
  -- the ends
  | finished {s a} (e : Equipment R) (state : OperationState) (error : String)
    (h : s.active = some a) (hstate : state ≠ .running) :
    Work s (finishNotes e a state s.clockNs error) (s.finishedAs a state error)
  | haltedIdle {s} (reason : String) (h : s.active = none) :
    Work s [OperationNote.stopped] { s with stoppedReason := some reason }
  | halted {s a} (e : Equipment R) (state : OperationState) (reason : String)
    (h : s.active = some a) (hstate : state ≠ .running) (hfailed : state ≠ .succeeded) :
    Work s (.stopped :: finishNotes e a state s.clockNs reason) (s.finishedAs a state reason)

/-- An operation is active. -/
def Busy (s : DroneOperations R) : Prop := ∃ a, s.active = some a

/-- An operation of this tool is active. -/
def Doing (tool : ToolCall R) (s : DroneOperations R) : Prop :=
  ∃ a, s.active = some a ∧ a.tool = tool

variable {s : DroneOperations R} {f : OperationContext R → OperationContext R}

theorem Doing.busy {tool : ToolCall R} (h : Doing tool s) : Busy s := by
  obtain ⟨a, ha, -⟩ := h
  exact ⟨a, ha⟩

/-! ## 2. Changes of the context -/

theorem withContext_some {a : ActiveOperation R} (h : s.active = some a)
    (f : OperationContext R → OperationContext R) :
    s.withContext f = s.withOwn a (f a.context) := by
  unfold withContext withOwn withActive
  rw [h]
  rfl

theorem withContext_none (h : s.active = none) (f : OperationContext R → OperationContext R) :
    s.withContext f = s := by
  unfold withContext
  rw [h]
  cases s
  cases h
  rfl

theorem withOwn_self {a : ActiveOperation R} (h : s.active = some a) :
    s.withOwn a a.context = s := by
  cases s
  cases h
  rfl

/-- **A landing's context changes** but for its look and its retries. -/
theorem work_withLanding (f : Precision R → Precision R) (hlook : ∀ c, (f c).look = c.look)
    (hretry : ∀ c, (f c).retry = c.retry) (s : DroneOperations R) : Work s [] (s.withLanding f) := by
  unfold withLanding
  cases hactive : s.active with
  | none =>
    rw [withContext_none hactive]
    exact .quiet (.refl s)
  | some a =>
    rw [withContext_some hactive]
    split
    · rename_i c hcontext
      exact .steered hactive hcontext (hlook c) (hretry c)
    · rw [withOwn_self hactive]
      exact .quiet (.refl s)

/-- **A look changes** without a frame. -/
theorem work_withLook (f : MarkerLook R → MarkerLook R)
    (hf : ∀ look, (f look).lastSequence = look.lastSequence) (s : DroneOperations R) :
    Work s [] (s.withLook f) := by
  unfold withLook
  cases hactive : s.active with
  | none =>
    rw [withContext_none hactive]
    exact .quiet (.refl s)
  | some a =>
    rw [withContext_some hactive]
    split
    · rw [withOwn_self hactive]
      exact .quiet (.refl s)
    · rename_i look hlook
      exact .looked hactive hlook (Or.inl ⟨hf look, rfl⟩)

/-- **A frame is used** that is newer than the last one. -/
theorem work_takeFrame {a : ActiveOperation R} {look : MarkerLook R} {sequence : ℤ}
    (hactive : s.active = some a) (hlook : a.context.look = some look)
    (hnewer : look.lastSequence < sequence) : Work s [] (s.takeFrame sequence) := by
  unfold takeFrame withLook
  rw [withContext_some hactive, hlook]
  exact @Work.looked _ _ _ _ { look with lastSequence := sequence } _ hactive hlook
    (Or.inr ⟨hnewer, rfl⟩)

/-- The context of another tool changes to one that is no landing's. -/
theorem work_withContext {tool : ToolCall R} (h : Doing tool s) (htool : tool.landingMarker = none)
    (hf : ∀ c, (f c).landing = none) : Work s [] (s.withContext f) := by
  obtain ⟨a, hactive, rfl⟩ := h
  rw [withContext_some hactive]
  exact .worked hactive rfl rfl rfl (Or.inr ⟨htool, hf _⟩) (Or.inl rfl)

theorem doing_withContext {tool : ToolCall R} (h : Doing tool s) :
    Doing tool (s.withContext f) := by
  obtain ⟨a, hactive, htool⟩ := h
  rw [withContext_some hactive]
  exact ⟨_, rfl, htool⟩

theorem busy_withContext (h : Busy s) : Busy (s.withContext f) := by
  obtain ⟨a, hactive⟩ := h
  exact (doing_withContext ⟨a, hactive, rfl⟩).busy

/-! ## 3. Single actions -/

section Actions

variable {A : DroneOperations R → Prop} {r : Acting (DroneOperations R) (OperationNote R)}
  {Q : Unit → Acting (DroneOperations R) (OperationNote R) → Prop}
  {E : String → Acting (DroneOperations R) (OperationNote R) → Prop}

theorem wp_emit (event : OperationEvent R) : wp (emit event) Q E r ↔
    Q () ⟨r.state, r.log ++ [OperationNote.emitted r.state.clockNs event]⟩ := Iff.rfl

theorem wp_stop (reason : String) : wp (stop reason) Q E r ↔
    Q () ⟨{ r.state with stoppedReason := some reason }, r.log ++ [OperationNote.stopped]⟩ := Iff.rfl

/-- A request is noted, whether it raises or not. -/
theorem wp_request (w : Surroundings R) (req : OperationRequest R)
    (hQ : Q () ⟨r.state, r.log ++ [OperationNote.sent r.state req]⟩)
    (hE : ∀ error, E error ⟨r.state, r.log ++ [OperationNote.sent r.state req]⟩) :
    wp (request w req) Q E r := by
  unfold request
  rw [wp_bind, wp_get, wp_bind, wp_perform]
  split
  · exact hE _
  · exact hQ

theorem wp_performIf (c : Bool) (note : OperationNote R) :
    wp (if c then perform note else pure ()) Q E r ↔
      Q () ⟨r.state, r.log ++ if c then [note] else []⟩ := by
  cases c with
  | false =>
    show Q () r ↔ Q () ⟨r.state, r.log ++ []⟩
    rw [List.append_nil]
  | true => exact Iff.rfl

theorem wp_cancelWork (state : OperationState) (tool : ToolCall R) :
    wp (cancelWork e state tool) Q E r ↔ Q () ⟨r.state, r.log ++ cancelNotes e state tool⟩ := by
  unfold cancelWork cancelNotes
  cases tool with
  | findMarker _ => exact wp_performIf _ _
  | precisionLand _ => exact wp_performIf _ _
  | attachPayload _ => exact wp_performIf _ _
  | releasePayload _ _ => exact wp_performIf _ _
  | _ =>
    show Q () r ↔ Q () ⟨r.state, r.log ++ []⟩
    rw [List.append_nil]

theorem wp_stopUnlessSucceeded (state : OperationState) (error : String) :
    wp (stopUnlessSucceeded state error) Q E r ↔
      Q () ⟨{ r.state with
          stoppedReason :=
            if state = .succeeded then r.state.stoppedReason
            else some (if error = "" then state.value else error) },
        r.log ++ if state = .succeeded then [] else [OperationNote.stopped]⟩ := by
  unfold stopUnlessSucceeded
  split
  · rw [wp_pure, List.append_nil]
  · exact wp_stop _

/-- **An end**: nothing where no operation is active. -/
theorem wp_finish (state : OperationState) (error : String) : wp (finish e state error) Q E r ↔
      (r.state.active = none → Q () r) ∧
        ∀ a, r.state.active = some a →
          Q () ⟨r.state.finishedAs a state error,
            r.log ++ finishNotes e a state r.state.clockNs error⟩ := by
  unfold finish
  rw [wp_bind, wp_current]
  cases hactive : r.state.active with
  | none => simp
  | some a =>
    simp only [wp_bind, wp_update, wp_cancelWork, wp_stopUnlessSucceeded, wp_emit, finishNotes,
      finishedAs, List.append_assoc, reduceCtorEq, false_implies, true_and, Option.some.injEq,
      forall_eq']
    exact Iff.rfl

/-- **A stop that ends the active operation.** -/
theorem wp_halt (state : OperationState) (reason : String) : wp (halt e state reason) Q E r ↔
      (r.state.active = none →
        Q () ⟨{ r.state with stoppedReason := some reason }, r.log ++ [OperationNote.stopped]⟩) ∧
        ∀ a, r.state.active = some a →
          Q () ⟨({ r.state with stoppedReason := some reason } : DroneOperations R).finishedAs a state
              reason,
            r.log ++ OperationNote.stopped :: finishNotes e a state r.state.clockNs reason⟩ := by
  unfold halt
  rw [wp_bind, wp_stop, wp_finish]
  simp only [List.append_assoc, List.singleton_append]

theorem within_emit {event : OperationEvent R}
    (h : ∀ stamp, (OperationNote.emitted stamp event).isQuiet = true) :
    Within Work A (emit event) fun _ => A := by
  intro P hP r hr hA
  exact ⟨hP r _ _ hr (.noted (h _)), hA⟩

theorem within_poll (w : Surroundings R) : Within Work A (poll w) fun _ => A :=
  .bind (.perform (fun _ _ => .noted rfl) fun _ h => h) fun _ => .ofExcept fun _ _ h _ => h

/-- A request of the active operation. -/
theorem within_request {w : Surroundings R} {req : OperationRequest R} (hA : ∀ s, A s → Busy s)
    (htarget : req.target = none) : Within Work A (request w req) fun _ => A := by
  intro P hP r hr h
  obtain ⟨a, hactive⟩ := hA _ h
  have hsent := hP r _ _ hr (.sent hactive htarget)
  exact wp_request w req ⟨hsent, h⟩ fun _ => hsent

theorem within_finish {state : OperationState} (hstate : state ≠ .running) (error : String) :
    Within Work A (finish e state error) fun _ _ => True := by
  intro P hP r hr _
  rw [wp_finish]
  exact ⟨fun _ => ⟨hr, trivial⟩, fun a hactive =>
    ⟨hP r _ _ hr (.finished e state error hactive hstate), trivial⟩⟩

theorem within_halt {state : OperationState} (hstate : state ≠ .running)
    (hfailed : state ≠ .succeeded) (reason : String) :
    Within Work A (halt e state reason) fun _ _ => True := by
  intro P hP r hr _
  rw [wp_halt]
  refine ⟨fun hactive => ⟨hP r _ _ hr (.haltedIdle reason hactive), trivial⟩, fun a hactive => ?_⟩
  have hended := hP r _ _ hr (.halted e state reason hactive hstate hfailed)
  refine ⟨?_, trivial⟩
  have hsame : ({ r.state with stoppedReason := some reason } : DroneOperations R).finishedAs a state
      reason = r.state.finishedAs a state reason := by
    unfold finishedAs
    rw [if_neg hfailed, if_neg hfailed]
    rfl
  rw [hsame]
  exact hended

/-- A change of what is no part of the operations. -/
theorem within_quiet {f : DroneOperations R → DroneOperations R} (hf : ∀ s, Quiet s (f s))
    (hA : ∀ s, A s → A (f s)) : Within Work A (update f : Operating R Unit) fun _ => A :=
  .update (fun s _ => .quiet (hf s)) fun s h => hA s h

theorem within_failing {x : Operating R Bool} {B : Bool → DroneOperations R → Prop}
    (hx : Within Work A x B) : Within Work A (failing e x) fun _ _ => True := by
  refine .tryCatch (hx.weaken (fun _ h => h) fun _ _ _ => trivial) fun error => ?_
  exact .bind (within_finish e (fun h => by cases h) error) fun _ => .pure fun _ _ => trivial

end Actions

end DroneOperations

end DroneSim
