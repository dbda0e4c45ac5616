/-
  File:      DroneSim/Companion/MissionEvents.lean
  Subject:   The mission events of the Comp2026 host, emitted from any thread (comp2026_host.py,
             SimulationClock.accept, MissionEventEmitter).

  A call reads the public clock first and takes the emitter's lock after that; between the two other
  threads run. The host keeps, beside the clock, every value that it has shown (`shown`), and for
  each call which of them it read.

  * `Sound.step`, `quiet_after_stop` -- ids without gaps, nothing after `stop`;
  * `events_ordered` -- **the timestamps never decrease exactly when no call is overtaken**;
  * `events_overtaken` -- a call that is.
-/
import DroneSim.Library.Run
import Mathlib.Data.Int.Notation
import Mathlib.Data.List.Forall2
import Mathlib.Logic.Function.Basic

namespace DroneSim

open Library

/-! ## 1. The clock and the emitter -/

/-- `SimulationClock`. -/
structure SimulationClock where
  timestampNs : Option ℤ
  stopReason : Option String
  deriving DecidableEq, Repr

namespace SimulationClock

def fresh : SimulationClock := ⟨none, none⟩

/-- `accept`. -/
def accept (clock : SimulationClock) (timestampNs : ℤ) : Except String SimulationClock :=
  if timestampNs < 0 then .error "simulation timestamp must be nonnegative"
  else if clock.timestampNs.any fun last => timestampNs < last then
    .error "authoritative simulation clock regressed"
  else .ok { clock with timestampNs := some timestampNs }

/-- `stop`: the first reason stays, an empty one reads as a shutdown. -/
def stop (clock : SimulationClock) (reason : String) : SimulationClock :=
  match clock.stopReason with
  | some _ => clock
  | none => { clock with stopReason := some (if reason = "" then "shutdown" else reason) }

end SimulationClock

/-- `MissionEventRecord`. -/
structure MissionEventRecord where
  runId : String
  simTimestampNs : ℤ
  eventId : ℕ
  phase : String
  state : String
  detail : String
  deriving DecidableEq, Repr

/-- The fields of a `MissionEventEmitter`. -/
structure MissionEventEmitter where
  runId : String
  nextEventId : ℕ
  lastPhase : Option String
  lastState : Option String
  stopReason : Option String
  deriving DecidableEq, Repr

namespace MissionEventEmitter

def fresh (runId : String) : MissionEventEmitter := ⟨runId, 0, none, none, none⟩

/-- The record of a call. -/
def record (e : MissionEventEmitter) (timestampNs : ℤ) (phase state : String) :
    MissionEventRecord :=
  ⟨e.runId, timestampNs, e.nextEventId, phase, state, "automatic attempt"⟩

/-- What is kept of it. -/
def noted (e : MissionEventEmitter) (phase state : String) : MissionEventEmitter :=
  { e with
    nextEventId := e.nextEventId + 1
    lastPhase := some phase
    lastState := some state }

/-- `stop`. -/
def stop (e : MissionEventEmitter) (reason : String) : MissionEventEmitter :=
  match e.stopReason with
  | some _ => e
  | none => { e with stopReason := some (if reason = "" then "shutdown" else reason) }

end MissionEventEmitter

/-! ## 2. Threads -/

/-- A call that has read the clock and not yet taken the lock. -/
structure EmitCall where
  phase : String
  state : String
  timestampNs : ℤ
  /-- Which of the shown values it read. -/
  readAt : ℕ
  deriving DecidableEq, Repr

/-- The clock, the emitter and the calls of the threads. -/
structure EmitterHost where
  clock : SimulationClock
  emitter : MissionEventEmitter
  calls : ℕ → Option EmitCall
  /-- The values that the clock has shown, one after another. -/
  shown : List ℤ
  /-- Which of them the calls read that have published. -/
  turns : List ℕ

/-- One step of some thread. -/
inductive EmitterStep where
  /-- `clock.accept`. -/
  | accept (timestampNs : ℤ)
  /-- A call begins and reads the clock. -/
  | read (thread : ℕ) (phase state : String)
  /-- It takes the lock; `returns` tells how its `publish` ends. -/
  | enter (thread : ℕ) (returns : Bool)
  /-- `emitter.stop`. -/
  | stop (reason : String)
  deriving DecidableEq, Repr

/-- What happens in a step. -/
inductive EmitterNote where
  | published (record : MissionEventRecord)
  /-- `publish` raised. -/
  | failed (record : MissionEventRecord)
  | raised (detail : String)
  /-- `stop` returned. -/
  | stopped
  deriving DecidableEq, Repr

namespace EmitterHost

variable (h : EmitterHost) (thread : ℕ)

def fresh (runId : String) : EmitterHost :=
  ⟨.fresh, .fresh runId, fun _ => none, [], []⟩

/-- The values that the clock has shown, after another one. -/
def shows (shown : List ℤ) (timestampNs : ℤ) : List ℤ :=
  if shown.getLast? = some timestampNs then shown else shown ++ [timestampNs]

/-- Under the emitter's lock. -/
def publish (call : EmitCall) (returns : Bool) : EmitterHost × List EmitterNote :=
  let record := h.emitter.record call.timestampNs call.phase call.state
  ({ h with
      emitter := h.emitter.noted call.phase call.state
      calls := Function.update h.calls thread none
      turns := if returns then h.turns ++ [call.readAt] else h.turns },
    [if returns then .published record else .failed record])

/-- `clock.accept`, of a clock message. -/
def acceptClock (timestampNs : ℤ) : Except String (EmitterHost × List EmitterNote) :=
  match h.clock.accept timestampNs with
  | .error detail => .ok (h, [EmitterNote.raised detail])
  | .ok clock => .ok ({ h with clock := clock, shown := shows h.shown timestampNs }, [])

/-- A call begins. -/
def read (phase state : String) : Except String (EmitterHost × List EmitterNote) :=
  match h.calls thread with
  | some _ => .error "the thread is inside a call"
  | none =>
    match h.clock.timestampNs with
    | none => .ok (h, [EmitterNote.raised "mission event cannot precede the public clock"])
    | some timestampNs =>
      let call : EmitCall := ⟨phase, state, timestampNs, h.shown.length - 1⟩
      .ok ({ h with calls := Function.update h.calls thread (some call) }, [])

/-- A call takes the lock. -/
def enter (returns : Bool) : Except String (EmitterHost × List EmitterNote) :=
  match h.calls thread with
  | none => .error "the thread is in no call"
  | some call =>
    match h.emitter.stopReason with
    | some reason => .ok ({ h with calls := Function.update h.calls thread none },
        [EmitterNote.raised s!"mission event emitter stopped: {reason}"])
    | none => .ok (h.publish thread call returns)

/-- One step. -/
def step : EmitterStep → Except String (EmitterHost × List EmitterNote)
  | .accept timestampNs => h.acceptClock timestampNs
  | .read thread phase state => h.read thread phase state
  | .enter thread returns => h.enter thread returns
  | .stop reason => .ok ({ h with emitter := h.emitter.stop reason }, [EmitterNote.stopped])

/-- The records that were published, in their order. -/
def publishedOf (os : List EmitterNote) : List MissionEventRecord :=
  os.filterMap fun o => match o with
    | .published record => some record
    | _ => none

/-- No call that read a later clock has published before this one. -/
def InTurn : EmitterStep → Prop
  | .enter thread true => h.emitter.stopReason = none →
      ∀ call, h.calls thread = some call → ∀ turn ∈ h.turns, turn ≤ call.readAt
  | _ => True

/-! ## 3. The clock's values -/

/-- Behind a run with these notes. -/
structure Sound (h : EmitterHost) (os : List EmitterNote) : Prop where
  rising : h.shown.Pairwise (· < ·)
  clock : h.clock.timestampNs = h.shown.getLast?
  calls : ∀ thread call, h.calls thread = some call →
    h.shown[call.readAt]? = some call.timestampNs
  turns : List.Forall₂ (fun turn record => h.shown[turn]? = some record.simTimestampNs) h.turns
    (publishedOf os)
  ids : (∀ record, EmitterNote.failed record ∉ os) →
    (publishedOf os).map MissionEventRecord.eventId = List.range h.emitter.nextEventId
  stopped : EmitterNote.stopped ∈ os → h.emitter.stopReason.isSome = true

variable {h t : EmitterHost} {i : EmitterStep} {os o : List EmitterNote}

theorem publishedOf_append (os o : List EmitterNote) :
    publishedOf (os ++ o) = publishedOf os ++ publishedOf o := List.filterMap_append

/-- What was shown stays at its place. -/
theorem shows_at {shown : List ℤ} (timestampNs : ℤ) {k : ℕ} {a : ℤ} (hk : shown[k]? = some a) :
    (shows shown timestampNs)[k]? = some a := by
  unfold shows
  split
  · exact hk
  · obtain ⟨hlt, -⟩ := List.getElem?_eq_some_iff.mp hk
    rwa [List.getElem?_append_left hlt]

theorem shows_last (shown : List ℤ) (timestampNs : ℤ) :
    (shows shown timestampNs).getLast? = some timestampNs := by
  unfold shows
  split
  · assumption
  · rw [List.getLast?_append, List.getLast?_singleton, Option.some_or]

/-- A clock that does not go back shows rising values. -/
theorem shows_rising {shown : List ℤ} {timestampNs : ℤ} (h : shown.Pairwise (· < ·))
    (hlast : ∀ last, shown.getLast? = some last → last ≤ timestampNs) :
    (shows shown timestampNs).Pairwise (· < ·) := by
  unfold shows
  split
  · exact h
  · rename_i hnew
    rw [List.pairwise_append]
    refine ⟨h, List.pairwise_singleton _ _, fun a ha b hb => ?_⟩
    obtain rfl := List.mem_singleton.mp hb
    obtain ⟨front, last, rfl⟩ := List.eq_nil_or_concat' shown |>.resolve_left (by
      rintro rfl
      cases ha)
    have hle := hlast last (by simp)
    have hne : last ≠ b := fun e => hnew (by simp [e])
    rcases List.mem_append.mp ha with hfront | hmem
    · have hlt := (List.pairwise_append.mp h).2.2 a hfront last (List.mem_singleton_self last)
      omega
    · obtain rfl := List.mem_singleton.mp hmem
      omega

/-- Of two shown values the later is the greater. -/
theorem turn_le_iff {shown : List ℤ} (h : shown.Pairwise (· < ·)) {j k : ℕ} {a b : ℤ}
    (hj : shown[j]? = some a) (hk : shown[k]? = some b) : a ≤ b ↔ j ≤ k := by
  obtain ⟨hjlt, rfl⟩ := List.getElem?_eq_some_iff.mp hj
  obtain ⟨hklt, rfl⟩ := List.getElem?_eq_some_iff.mp hk
  have hrise := List.pairwise_iff_getElem.mp h
  constructor
  · intro hle
    rcases Nat.lt_or_ge k j with hlt | hge
    · have := hrise k j hklt hjlt hlt
      omega
    · exact hge
  · intro hle
    rcases Nat.lt_or_ge j k with hlt | hge
    · exact Int.le_of_lt (hrise j k hjlt hklt hlt)
    · obtain rfl : j = k := by omega
      exact Int.le_refl _

/-! ## 4. Steps -/

theorem fresh_sound (runId : String) : Sound (fresh runId) [] where
  rising := .nil
  clock := rfl
  calls := fun _ _ hnone => by cases hnone
  turns := .nil
  ids := fun _ => rfl
  stopped := fun hmem => absurd hmem List.not_mem_nil

/-- A note that is no record and no return of `stop` changes nothing. -/
theorem Sound.raised (hs : Sound h os) (detail : String) : Sound h (os ++ [EmitterNote.raised detail]) where
  rising := hs.rising
  clock := hs.clock
  calls := hs.calls
  turns := by
    rw [publishedOf_append]
    simpa [publishedOf] using hs.turns
  ids := fun hno => by
    rw [publishedOf_append]
    simpa [publishedOf] using hs.ids fun record hmem => hno record (List.mem_append_left _ hmem)
  stopped := fun hmem => hs.stopped (by simpa using hmem)

/-- A call ends. -/
theorem Sound.ended (hs : Sound h os) (thread : ℕ) :
    Sound { h with calls := Function.update h.calls thread none } os where
  rising := hs.rising
  clock := hs.clock
  calls := fun u call hcall => by
    by_cases he : u = thread
    · subst he
      simp at hcall
    · simp [he] at hcall
      exact hs.calls u call hcall
  turns := hs.turns
  ids := hs.ids
  stopped := hs.stopped

/-- The values and the calls of a host that publishes. -/
theorem Sound.publish (hs : Sound h os) {thread : ℕ} {call : EmitCall}
    (hcall : h.calls thread = some call) (returns : Bool) :
    Sound (h.publish thread call returns).1 (os ++ (h.publish thread call returns).2) := by
  have hended := hs.ended thread
  cases returns with
  | false =>
    exact
      { rising := hs.rising
        clock := hs.clock
        calls := hended.calls
        turns := by
          rw [publishedOf_append]
          simpa [EmitterHost.publish, publishedOf] using hs.turns
        ids := fun hno => absurd (List.mem_append_right os List.mem_cons_self) (hno _)
        stopped := fun hmem => hs.stopped (by simpa [EmitterHost.publish] using hmem) }
  | true =>
    exact
      { rising := hs.rising
        clock := hs.clock
        calls := hended.calls
        turns := by
          rw [publishedOf_append]
          exact List.rel_append hs.turns (.cons (hs.calls thread call hcall) .nil)
        ids := fun hno => by
          have hbefore := hs.ids fun record hmem => hno record (List.mem_append_left _ hmem)
          rw [publishedOf_append, List.map_append, hbefore]
          exact (List.range_succ).symm
        stopped := fun hmem => hs.stopped (by simpa [EmitterHost.publish] using hmem) }

theorem Sound.acceptClock (hs : Sound h os) {timestampNs : ℤ}
    (hstep : h.acceptClock timestampNs = .ok (t, o)) : Sound t (os ++ o) := by
  unfold EmitterHost.acceptClock at hstep
  split at hstep
  · cases hstep
    exact hs.raised _
  · rename_i clock hclock
    cases hstep
    unfold SimulationClock.accept at hclock
    split at hclock
    · cases hclock
    · split at hclock
      · cases hclock
      · rename_i hlate
        cases hclock
        rw [List.append_nil]
        refine ⟨shows_rising hs.rising fun last hlast => ?_, (shows_last _ _).symm,
          fun thread call hcall => shows_at _ (hs.calls thread call hcall),
          hs.turns.imp fun _ _ hat => shows_at _ hat, hs.ids, hs.stopped⟩
        rw [hs.clock, hlast] at hlate
        simpa using hlate

theorem Sound.read (hs : Sound h os) {thread : ℕ} {phase state : String}
    (hstep : h.read thread phase state = .ok (t, o)) : Sound t (os ++ o) := by
  unfold EmitterHost.read at hstep
  split at hstep
  · cases hstep
  · split at hstep
    · cases hstep
      exact hs.raised _
    · rename_i timestampNs hclock
      cases hstep
      rw [List.append_nil]
      refine ⟨hs.rising, hs.clock, fun u call hcall => ?_, hs.turns, hs.ids, hs.stopped⟩
      by_cases he : u = thread
      · subst he
        dsimp only at hcall
        rw [Function.update_self] at hcall
        cases hcall
        rw [hs.clock, List.getLast?_eq_getElem?] at hclock
        exact hclock
      · dsimp only at hcall
        rw [Function.update_of_ne he] at hcall
        exact hs.calls u call hcall

theorem Sound.enter (hs : Sound h os) {thread : ℕ} {returns : Bool}
    (hstep : h.enter thread returns = .ok (t, o)) : Sound t (os ++ o) := by
  unfold EmitterHost.enter at hstep
  split at hstep
  · cases hstep
  · rename_i call hcall
    split at hstep
    · cases hstep
      exact (hs.ended thread).raised _
    · cases hstep
      exact hs.publish hcall returns

theorem Sound.stop (hs : Sound h os) (reason : String) :
    Sound { h with emitter := h.emitter.stop reason } (os ++ [EmitterNote.stopped]) := by
  have hsame : publishedOf (os ++ [EmitterNote.stopped]) = publishedOf os := by
    rw [publishedOf_append]
    exact List.append_nil _
  have hsome : (h.emitter.stop reason).stopReason.isSome = true := by
    unfold MissionEventEmitter.stop
    split
    · rename_i reason' hreason
      rw [hreason]
      rfl
    · rfl
  have hnext : (h.emitter.stop reason).nextEventId = h.emitter.nextEventId := by
    unfold MissionEventEmitter.stop
    split
    · rfl
    · rfl
  refine ⟨hs.rising, hs.clock, hs.calls, ?_, fun hno => ?_, fun _ => hsome⟩
  · rw [hsame]
    exact hs.turns
  · rw [hsame, hnext]
    exact hs.ids fun record hmem => hno record (List.mem_append_left _ hmem)

/-- **Every step.** -/
theorem Sound.step (hs : Sound h os) (hstep : h.step i = .ok (t, o)) : Sound t (os ++ o) := by
  cases i with
  | accept timestampNs => exact hs.acceptClock hstep
  | read thread phase state => exact hs.read hstep
  | enter thread returns => exact hs.enter hstep
  | stop reason =>
    cases hstep
    exact hs.stop reason

theorem run_sound {runId : String} {is : List EmitterStep}
    (hrun : Run (Steps step) (fresh runId) is os t) : Sound t os := by
  induction hrun with
  | start => exact fresh_sound runId
  | step _ hs ih => exact ih.step hs

/-- **What a step publishes**: nothing, or the record of a call that takes the lock. -/
theorem step_published (hstep : h.step i = .ok (t, o)) :
    (publishedOf o = [] ∧ t.turns = h.turns ∧ (InTurn h i) ∧
      (EmitterNote.stopped ∈ o → o = [EmitterNote.stopped])) ∨
    ∃ thread call, i = .enter thread true ∧ h.calls thread = some call ∧
      h.emitter.stopReason = none ∧ t.turns = h.turns ++ [call.readAt] ∧
      o = [.published (h.emitter.record call.timestampNs call.phase call.state)] := by
  cases i with
  | accept timestampNs =>
    change h.acceptClock timestampNs = _ at hstep
    unfold EmitterHost.acceptClock at hstep
    split at hstep
    · cases hstep
      exact Or.inl ⟨rfl, rfl, trivial, by simp⟩
    · cases hstep
      exact Or.inl ⟨rfl, rfl, trivial, by simp⟩
  | read thread phase state =>
    change h.read thread phase state = _ at hstep
    unfold EmitterHost.read at hstep
    split at hstep
    · cases hstep
    · split at hstep
      · cases hstep
        exact Or.inl ⟨rfl, rfl, trivial, by simp⟩
      · cases hstep
        exact Or.inl ⟨rfl, rfl, trivial, by simp⟩
  | enter thread returns =>
    change h.enter thread returns = _ at hstep
    unfold EmitterHost.enter at hstep
    split at hstep
    · cases hstep
    · rename_i call hcall
      split at hstep
      · rename_i reason hreason
        cases hstep
        refine Or.inl ⟨rfl, rfl, ?_, by simp⟩
        cases returns with
        | false => exact trivial
        | true =>
          intro hnone
          rw [hreason] at hnone
          cases hnone
      · rename_i hnone
        cases hstep
        cases returns with
        | false => exact Or.inl ⟨rfl, rfl, trivial, by simp⟩
        | true => exact Or.inr ⟨thread, call, rfl, hcall, hnone, rfl, rfl⟩
  | stop reason =>
    cases hstep
    exact Or.inl ⟨rfl, rfl, trivial, fun _ => rfl⟩

/-- **Nothing is published after `stop` returned.** -/
theorem quiet_after_stop {runId : String} {is : List EmitterStep}
    (hrun : Run (Steps step) (fresh runId) is os t) {before after : List EmitterNote}
    (hos : os = before ++ EmitterNote.stopped :: after) : publishedOf after = [] := by
  induction hrun generalizing after with
  | start => simp at hos
  | @step is os s i o t hrun hs ih =>
    rcases split_append hos with ⟨e, hbefore, rfl⟩ | ⟨e, -, ho⟩
    · have hstop := (run_sound hrun).stopped (by rw [hbefore]; simp)
      rw [publishedOf_append, ih hbefore]
      rcases step_published hs with ⟨hnone, -⟩ | ⟨_, _, _, _, hrunning, _⟩
      · rw [hnone]
        rfl
      · rw [hrunning] at hstop
        cases hstop
    · have hmem : EmitterNote.stopped ∈ o := by rw [ho]; simp
      rcases step_published hs with ⟨-, -, -, hsingle⟩ | ⟨_, _, _, _, _, _, hout⟩
      · rw [hsingle hmem] at ho
        have hlength := congrArg List.length ho
        simp only [List.length_append, List.length_cons, List.length_nil] at hlength
        rw [List.length_eq_zero_iff.mp (show after.length = 0 by omega)]
        rfl
      · rw [hout] at hmem
        simp at hmem

/-- The timestamps never decrease. -/
def Ordered (records : List MissionEventRecord) : Prop :=
  records.Pairwise fun a b => a.simTimestampNs ≤ b.simTimestampNs

instance (records : List MissionEventRecord) : Decidable (Ordered records) :=
  inferInstanceAs (Decidable (records.Pairwise _))

/-- **A record does not go back in time exactly when its call has not been overtaken.** -/
theorem ordered_snoc (hs : Sound h os) {call : EmitCall} {thread : ℕ}
    (hcall : h.calls thread = some call) {record : MissionEventRecord}
    (hrecord : record.simTimestampNs = call.timestampNs) :
    Ordered (publishedOf os ++ [record]) ↔
      Ordered (publishedOf os) ∧ ∀ turn ∈ h.turns, turn ≤ call.readAt := by
  have hat := hs.calls thread call hcall
  unfold Ordered
  rw [List.pairwise_append]
  refine ⟨fun hall => ⟨hall.1, fun turn hturn => ?_⟩, fun hall =>
    ⟨hall.1, List.pairwise_singleton _ _, fun a ha b hb => ?_⟩⟩
  · obtain ⟨k, hk, hget⟩ := List.mem_iff_getElem.mp hturn
    have hlength := hs.turns.length_eq
    have hshown := hs.turns.get hk (by omega)
    have hle := hall.2.2 _ (List.getElem_mem (show k < (publishedOf os).length by omega)) record
      (List.mem_singleton_self _)
    rw [hrecord] at hle
    rw [← hget]
    exact (turn_le_iff hs.rising hshown hat).mp hle
  · obtain rfl := List.mem_singleton.mp hb
    obtain ⟨k, hk, hget⟩ := List.mem_iff_getElem.mp ha
    have hlength := hs.turns.length_eq
    have hshown := hs.turns.get (show k < h.turns.length by omega) hk
    rw [hrecord, ← hget]
    exact (turn_le_iff hs.rising hshown hat).mpr
      (hall.2 _ (List.getElem_mem (show k < h.turns.length by omega)))

theorem ordered_iff {runId : String} {is : List EmitterStep}
    (hrun : Run (Steps step) (fresh runId) is os t) :
    Ordered (publishedOf os) ↔ Run (Meeting (Steps step) InTurn) (fresh runId) is os t := by
  induction hrun with
  | start => exact ⟨fun _ => .start, fun _ => .nil⟩
  | @step is os s i o t hrun hs ih =>
    have hsound := run_sound hrun
    have hlast : Run (Meeting (Steps step) InTurn) (fresh runId) (is ++ [i]) (os ++ o) t ↔
        Run (Meeting (Steps step) InTurn) (fresh runId) is os s ∧ InTurn s i := by
      constructor
      · intro hall
        obtain ⟨s', os', o', hos, hbefore, hstep'⟩ := hall.last
        obtain ⟨rfl, rfl⟩ := run_unique hrun hbefore.of_meeting
        exact ⟨hbefore, hstep'.2⟩
      · rintro ⟨hbefore, hturn⟩
        exact .step hbefore ⟨hs, hturn⟩
    rw [hlast, publishedOf_append, ← ih]
    rcases step_published hs with ⟨hnone, -, hturn, -⟩ |
      ⟨thread, call, rfl, hcall, hrunning, -, rfl⟩
    · rw [hnone, List.append_nil]
      exact ⟨fun hordered => ⟨hordered, hturn⟩, fun hboth => hboth.1⟩
    · refine Iff.trans (ordered_snoc hsound hcall rfl) (and_congr_right fun _ => ?_)
      refine ⟨fun hall _ call' hcall' => ?_, fun hturn => hturn hrunning call hcall⟩
      rw [hcall] at hcall'
      cases hcall'
      exact hall

/-! ## 5. The stream -/

/-- **Mission events form one stream**: ids without gaps while `publish` does not raise, nothing
    after `stop`, and timestamps that never decrease -- the last exactly when no call that read a
    later clock has published before another one. -/
theorem events_ordered {runId : String} {is : List EmitterStep} {os : List EmitterNote}
    {t : EmitterHost} (hrun : Run (Steps step) (fresh runId) is os t) :
    ((∀ record, EmitterNote.failed record ∉ os) → (publishedOf os).map MissionEventRecord.eventId =
      List.range (publishedOf os).length) ∧
    (∀ before after, os = before ++ EmitterNote.stopped :: after → publishedOf after = []) ∧
    (Ordered (publishedOf os) ↔ Run (Meeting (Steps step) InTurn) (fresh runId) is os t) := by
  refine ⟨fun hno => ?_, fun before after => quiet_after_stop hrun, ordered_iff hrun⟩
  have hids := (run_sound hrun).ids hno
  have hlength := congrArg List.length hids
  rw [List.length_map, List.length_range] at hlength
  rw [hids, hlength]

/-- Two calls, one after another. -/
def inTurn : List EmitterStep :=
  [.accept 100, .read 1 "FM1" "STARTED", .enter 1 true, .accept 200, .read 2 "FM1" "COMPLETE",
    .enter 2 true]

theorem events_ordered_in_turn : ∃ os t, Run (Steps step) (fresh "run") inTurn os t ∧
    ((∀ record, EmitterNote.failed record ∉ os) → (publishedOf os).map MissionEventRecord.eventId =
      List.range (publishedOf os).length) ∧
    (∀ before after, os = before ++ EmitterNote.stopped :: after → publishedOf after = []) ∧
    (Ordered (publishedOf os) ↔
      Run (Meeting (Steps step) InTurn) (fresh "run") inTurn os t) := by
  obtain ⟨t, os, hrun, -⟩ := @exists_run _ _ _ _ step (fun _ _ => true) (fresh "run") inTurn
    (fun _ _ => true) (by decide)
  exact ⟨os, t, hrun.of_meeting, events_ordered hrun.of_meeting⟩

/-- The clock advances between the two readings, and the second call takes the lock first. -/
def overtaken : List EmitterStep :=
  [.accept 100, .read 1 "FM1" "STARTED", .accept 200, .read 2 "FM1" "COMPLETE", .enter 2 true,
    .enter 1 true]

/-- **An event goes back in time.** -/
theorem events_overtaken : ∃ os t, Run (Steps step) (fresh "run") overtaken os t ∧
    (∀ record, EmitterNote.failed record ∉ os) ∧ ¬ Ordered (publishedOf os) := by
  obtain ⟨t, os, hrun, hend⟩ := @exists_run _ _ _ _ step (fun _ _ => true) (fresh "run") overtaken
    (fun _ os => decide (os = [.published ⟨"run", 200, 0, "FM1", "COMPLETE", "automatic attempt"⟩,
      .published ⟨"run", 100, 1, "FM1", "STARTED", "automatic attempt"⟩])) (by decide)
  obtain rfl := of_decide_eq_true hend
  exact ⟨_, t, hrun.of_meeting, by simp, by decide⟩

end EmitterHost

end DroneSim
