/-
  File:      DroneSim/Orchestration/NodeOrder.lean
  Subject:   The order of the handshake.

  The states that the node goes through are a part of STARTING, READY, RUNNING, FINALIZING and one
  terminal state, in this order; the terminal state is the committed one, and the node publishes
  none itself. `Handshake` is the invariant of the moves that says so, and that the frozen status
  is written once and on the markers of all six modules.
-/
import DroneSim.Library.Emission
import DroneSim.Orchestration.NodeMoves

namespace DroneSim

open Library

namespace OrchestrationRuntime

/-! ## 1. The invariant -/

/-- The state that an action takes the run to. -/
def stateOf : NodeAction → Option LifecycleState
  | .published event => some event.state
  | .terminalSeen committed => some (.terminal committed.terminalStatus)
  | _ => none

/-- A write of the frozen status that returned. -/
def isFrozenWritten : NodeAction → Bool
  | .statusWrite .runtimeFrozen _ returned => returned
  | _ => false

/-- The states a run has gone through by the time it is in this one. -/
def reached : LifecycleState → List LifecycleState
  | .created => []
  | .starting => [.starting]
  | .ready => [.starting, .ready]
  | .running => [.starting, .ready, .running]
  | .finalizing => [.starting, .ready, .running, .finalizing]
  | .terminal t => [.starting, .ready, .running, .finalizing, .terminal t]

/-- What an action stands on. -/
def HandshakeGrounds (c : OrchestrationConfig) (log : List NodeAction) : NodeAction → Prop
  | .published event => ∀ t, event.state ≠ .terminal t
  | .statusWrite .runtimeFrozen status _ =>
    status = frozenStatus c ∧ NodeAction.quiescenceWrite "orchestration" true ∈ log ∧
      PeersSeen c log ∧ log.countP isFrozenWritten = 0
  | _ => True

/-- **What holds of a node and of all it did.** -/
structure Handshake (c : OrchestrationConfig) (s : OrchestrationRuntime) (log : List NodeAction) :
    Prop where
  order : (log.filterMap stateOf).Sublist (reached s.state)
  grounds : Grounded (HandshakeGrounds c) log
  own : s.quiescenceWritten = true → NodeAction.quiescenceWrite "orchestration" true ∈ log
  frozen : s.freezeWritten = false → log.countP isFrozenWritten = 0
  terminal : ∀ t, s.state = .terminal t →
    ∃ committed, NodeAction.terminalSeen committed ∈ log ∧ committed.terminalStatus = t

variable {c : OrchestrationConfig} {s t : OrchestrationRuntime} {log actions reads : List NodeAction}

theorem handshake_created : Handshake c created [] where
  order := List.Sublist.slnil
  grounds := .nil
  own := by
    intro h
    cases h
  frozen := fun _ => rfl
  terminal := by
    intro t h
    cases h

/-! ## 2. What a move keeps -/

theorem stateOf_observation {a : NodeAction} (h : isObservation a = true) : stateOf a = none := by
  cases a with
  | published => cases h
  | terminalSeen => cases h
  | _ => rfl

theorem isFrozenWritten_observation {a : NodeAction} (h : isObservation a = true) :
    isFrozenWritten a = false := by
  cases a with
  | statusWrite => cases h
  | _ => rfl

theorem grounds_observation {a : NodeAction} (h : isObservation a = true) :
    HandshakeGrounds c log a := by
  cases a with
  | statusWrite => cases h
  | published => cases h
  | _ => trivial

/-- Actions that take the run nowhere. -/
theorem filterMap_quiet (h : ∀ a ∈ actions, stateOf a = none) : actions.filterMap stateOf = [] :=
  List.filterMap_eq_nil_iff.mpr h

/-- Readings keep the invariant. -/
theorem Handshake.observe (h : Handshake c s log) (hreads : ∀ a ∈ reads, isObservation a = true) :
    Handshake c s (log ++ reads) where
  order := by
    rw [List.filterMap_append, filterMap_quiet fun a ha => stateOf_observation (hreads a ha),
      List.append_nil]
    exact h.order
  grounds := h.grounds.append fun a x b hx =>
    grounds_observation (hreads x (by rw [hx]; simp))
  own := fun hown => List.mem_append_left _ (h.own hown)
  frozen := fun hfrozen => by
    rw [List.countP_append, h.frozen hfrozen, List.countP_eq_zero.mpr fun a ha => by
      rw [isFrozenWritten_observation (hreads a ha)]
      exact Bool.false_ne_true]
  terminal := fun t ht => by
    obtain ⟨committed, hmem, heq⟩ := h.terminal t ht
    exact ⟨committed, List.mem_append_left _ hmem, heq⟩

/-- Publishing the next state. -/
theorem Handshake.publish (h : Handshake c s log) {state : LifecycleState} {reason : String}
    (hnext : (reached s.state ++ [state]).Sublist (reached state))
    (hlive : ∀ t, state ≠ .terminal t) :
    Handshake c { s with state := state } (log ++ [NodeAction.published (eventOf c s state reason)]) where
  order := by
    rw [List.filterMap_append]
    exact (h.order.append_right [state]).trans hnext
  grounds := h.grounds.snoc hlive
  own := fun hown => List.mem_append_left _ (h.own hown)
  frozen := fun hfrozen => by
    rw [List.countP_append, h.frozen hfrozen]
    rfl
  terminal := fun t ht => absurd ht (hlive t)

/-- One action that takes the run nowhere, and a change of the node that the order does not see. -/
theorem Handshake.note (h : Handshake c s log) {a : NodeAction} (hstate : t.state = s.state)
    (ha : stateOf a = none) (hgrounds : HandshakeGrounds c log a)
    (hown : t.quiescenceWritten = true →
      s.quiescenceWritten = true ∨ a = .quiescenceWrite "orchestration" true)
    (hfrozen : t.freezeWritten = false → s.freezeWritten = false ∧ isFrozenWritten a = false) :
    Handshake c t (log ++ [a]) where
  order := by
    rw [List.filterMap_append, hstate, List.filterMap_cons_none ha]
    exact (List.append_nil _).symm ▸ h.order
  grounds := h.grounds.snoc hgrounds
  own := fun hwritten => by
    rcases hown hwritten with hbefore | rfl
    · exact List.mem_append_left _ (h.own hbefore)
    · exact List.mem_append_right _ (List.mem_singleton.mpr rfl)
  frozen := fun hopen => by
    obtain ⟨hbefore, hnot⟩ := hfrozen hopen
    rw [List.countP_append, h.frozen hbefore, List.countP_singleton, hnot]
    rfl
  terminal := fun u hu => by
    obtain ⟨committed, hmem, heq⟩ := h.terminal u (hstate ▸ hu)
    exact ⟨committed, List.mem_append_left _ hmem, heq⟩

/-- `_start_running` in a run that is ready. -/
theorem Handshake.start (h : Handshake c s log) (hstate : s.state = .ready)
    (returned : Option Bool) :
    Handshake c { s with state := .running } (log ++ startActions c s returned) := by
  have hpublished : Handshake c { s with state := .running }
      (log ++ [NodeAction.published (eventOf c s .running "")]) := h.publish
    (by rw [hstate]; exact List.Sublist.refl _) (fun t ht => by cases ht)
  cases returned with
  | none => exact hpublished
  | some returned =>
    have hwritten := hpublished.note (a := .statusWrite .runtimeRunning
      (runningStatus c s.lastSimTimestampNs) returned) rfl rfl trivial Or.inl fun h => ⟨h, rfl⟩
    rw [List.append_assoc] at hwritten
    exact hwritten

/-- The states before the finalization lead to it. -/
theorem reached_preterminal {state : LifecycleState} (h : state.preterminal = true) :
    (reached state ++ [LifecycleState.finalizing]).Sublist (reached .finalizing) := by
  cases state with
  | starting => decide
  | ready => decide
  | running => decide
  | _ => cases h

/-- **Every move keeps the handshake.** -/
theorem Move.handshake {input : NodeInput} (hmove : Move c s input actions t)
    (h : Handshake c s log) : Handshake c t (log ++ actions) := by
  cases hmove with
  | observe hreads => exact h.observe hreads
  | artifactsReady =>
    rw [List.append_nil]
    exact ⟨h.order, h.grounds, h.own, h.frozen, h.terminal⟩
  | started hstate => exact h.publish (by rw [hstate]; exact List.Sublist.refl _) (by simp)
  | becameReady hstate => exact h.publish (by rw [hstate]; exact List.Sublist.refl _) (by simp)
  | clock hstate => exact h.note rfl rfl trivial Or.inl fun h => ⟨h, rfl⟩
  | @clockStarts n hn hstate hnone returned =>
    have hclock : Handshake c (s.stamped n.toNat) (log ++ [NodeAction.clockAccepted n.toNat]) :=
      h.note rfl rfl trivial Or.inl fun h => ⟨h, rfl⟩
    have hstarted := hclock.start hstate returned
    rw [List.append_assoc] at hstarted
    exact hstarted
  | pollStarts hreads hstate hpeers returned =>
    rw [← List.append_assoc]
    exact (h.observe hreads).start hstate returned
  | finalizing hstate reason => exact h.publish (reached_preterminal hstate) (by simp)
  | quiescence hstate returned =>
    refine h.note rfl rfl trivial (fun hwritten => ?_) fun h => ⟨h, rfl⟩
    rcases (Bool.or_eq_true _ _).mp hwritten with hbefore | hnow
    · exact Or.inl hbefore
    · exact Or.inr (by rw [hnow])
  | freeze hreads hstate hown hfirst hpeers returned =>
    have hread := h.observe hreads
    rw [← List.append_assoc]
    refine hread.note (a := .statusWrite .runtimeFrozen (frozenStatus c) returned) rfl rfl ?_ Or.inl
      fun hopen => ⟨hfirst, hopen⟩
    refine ⟨rfl, hread.own hown, fun peer hpeer => ?_, hread.frozen hfirst⟩
    obtain ⟨document, hmem, hvalid⟩ := hpeers peer hpeer
    exact ⟨document, List.mem_append_right _ hmem, hvalid⟩
  | terminal hstate committed =>
    refine ⟨?_, h.grounds.snoc trivial, fun hown => List.mem_append_left _ (h.own hown),
      fun hfrozen => ?_, fun t ht => ?_⟩
    · rw [List.filterMap_append]
      refine (h.order.append_right [.terminal committed.terminalStatus]).trans ?_
      rw [hstate]
      exact List.Sublist.refl _
    · rw [List.countP_append, h.frozen hfrozen]
      rfl
    · exact ⟨committed, List.mem_append_right _ (List.mem_singleton.mpr rfl),
        LifecycleState.terminal.inj ht⟩

/-! ## 3. Whole runs -/

/-- A run of moves keeps the handshake. -/
theorem handshake_moves {input : NodeInput} {is : List Unit}
    (hrun : Run (Moves c input) s is actions t) (h : Handshake c s log) : Handshake c t (log ++ actions) := by
  induction hrun with
  | start =>
    rw [List.append_nil]
    exact h
  | step _ hmove ih =>
    rw [← List.append_assoc]
    exact Move.handshake hmove ih

/-- **The handshake holds after any calls.** -/
theorem handshake_run {calls : List (NodeInput × NodeBoundary)}
    (h : Run (Called c) created calls log s) : Handshake c s log := by
  induction h with
  | start => exact handshake_created
  | @step calls log s call actions t _ hcall ih =>
    obtain ⟨input, w⟩ := call
    obtain ⟨is, hmoves⟩ := call_moves hcall
    exact handshake_moves hmoves ih

/-- What a run went through by some state it went through by a terminal one. -/
theorem reached_terminal (state : LifecycleState) :
    ∃ t, (reached state).Sublist [.starting, .ready, .running, .finalizing, .terminal t] := by
  cases state with
  | terminal t => exact ⟨t, List.Sublist.refl _⟩
  | _ => exact ⟨.completed, by decide⟩

/-- **The order of the handshake.** The states the run goes through are a part of the five in their
    order, the last of them the committed one; the node publishes no terminal state of its own, and
    is in one only after it saw it committed. The frozen status is written once, and tried only
    after the node's own marker was written and every peer's marker of the same run was seen. -/
theorem handshake_order {calls : List (NodeInput × NodeBoundary)}
    (h : Run (Called c) created calls log s) :
    (∃ t, (log.filterMap stateOf).Sublist
      [.starting, .ready, .running, .finalizing, .terminal t]) ∧
    (∀ before event after, log = before ++ NodeAction.published event :: after →
      ∀ t, event.state ≠ .terminal t) ∧
    (∀ t, s.state = .terminal t →
      ∃ committed, NodeAction.terminalSeen committed ∈ log ∧ committed.terminalStatus = t) ∧
    log.countP isFrozenWritten ≤ 1 ∧
    (∀ before status returned after,
      log = before ++ NodeAction.statusWrite .runtimeFrozen status returned :: after →
        NodeAction.quiescenceWrite "orchestration" true ∈ before ∧ PeersSeen c before ∧
          before.countP isFrozenWritten = 0) := by
  have hshake := handshake_run h
  refine ⟨?_, ?_, hshake.terminal, ?_, ?_⟩
  · obtain ⟨t, ht⟩ := reached_terminal s.state
    exact ⟨t, hshake.order.trans ht⟩
  · exact fun before event after hlog => hshake.grounds before (.published event) after hlog
  · refine hshake.grounds.single fun before a ha hwritten => ?_
    cases a with
    | statusWrite t status returned =>
      cases t with
      | runtimeFrozen => exact ha.2.2.2
      | _ => cases hwritten
    | _ => cases hwritten
  · intro before status returned after hlog
    obtain ⟨-, hgrounds⟩ := hshake.grounds before _ after hlog
    exact hgrounds

/-- The configuration of the second profile. -/
def phase2 : OrchestrationConfig where
  runId := "11111111-1111-4111-8111-111111111111"
  configSha256 :=
    ⟨"aaaaaaaaaaaaaaaaaaaaaaaaaaaaaaaaaaaaaaaaaaaaaaaaaaaaaaaaaaaaaaaa", by decide +kernel⟩
  requiredDurableReadiness := []
  requireGazeboReady := false
  canonical := by decide +kernel
  distinct := by decide
  allowed := by decide

/-- A failed run that is committed, every marker in its place. -/
def committedRun : NodeBoundary where
  publish := .ok ()
  diagnostic := .ok ()
  statusFile := fun _ => .ok none
  quiescenceFile := fun module => .ok (some (.mapping true (document
    [("run_id", .str phase2.runId), ("module", .str module), ("quiescent", .bool true)])))
  controlFile := fun name => .ok (some (.mapping true (document
    (if name = "finalize-request" then
      [("run_id", .str phase2.runId), ("requested_terminal", .str "FAILED"),
        ("reason", .str "recorder failed")]
    else
      [("run_id", .str phase2.runId), ("terminal_status", .str "FAILED"),
        ("reason", .str "recorder failed"), ("manifest_path", .str "manifest.json")]))))
  writeStatus := fun _ => .ok ()
  writeQuiescence := .ok ()

/-- One poll goes through the whole finalization. -/
theorem handshake_order_committed :
    (calls phase2 created [(.start, committedRun), (.poll, committedRun)]).1.state =
        .terminal .failed ∧
      (calls phase2 created [(.start, committedRun), (.poll, committedRun)]).2.countP
        isFrozenWritten ≤ 1 :=
  ⟨by decide +kernel, (handshake_order (calls_run _ created)).2.2.2.1⟩

end OrchestrationRuntime

end DroneSim
