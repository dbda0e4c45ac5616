/-
  File:      DroneSim/Orchestration/NodeMoves.lean
  Subject:   What a call of the orchestration node can do.

  A call is a sequence of moves. `Move c input s actions t` has one constructor for each thing a
  call does to the node, with the tests that were passed on the way to it; `call_moves` takes a
  call apart into moves. Every fact about runs is proved by cases on `Move`.
-/
import DroneSim.Orchestration.RuntimeNode

namespace DroneSim

open Library Library.Attempt

namespace OrchestrationRuntime

/-! ## 1. Moves -/

/-- The actions that leave the node and the protocol as they are. -/
def isObservation : NodeAction → Bool
  | .diagnosed _ => true
  | .statusSeen _ => true
  | .finalizeRequestSeen _ => true
  | .quiescenceSeen _ _ => true
  | _ => false

/-- The event that `_emit` publishes. -/
def eventOf (c : OrchestrationConfig) (s : OrchestrationRuntime) (state : LifecycleState)
    (reason : String) : RuntimeStateEvent :=
  ⟨c.runId, state, s.lastSimTimestampNs, reason, c.configSha256⟩

/-- The actions of `_start_running`. `returned` is empty where the publication raised. -/
def startActions (c : OrchestrationConfig) (s : OrchestrationRuntime) (returned : Option Bool) :
    List NodeAction :=
  .published (eventOf c s .running "") ::
    (returned.map fun returned =>
      .statusWrite .runtimeRunning (runningStatus c s.lastSimTimestampNs) returned).toList

/-- The node after a sample of the clock. -/
def stamped (s : OrchestrationRuntime) (simTimestampNs : ℕ) : OrchestrationRuntime :=
  { s with lastSimTimestampNs := simTimestampNs, clockObserved := true }

/-- Every peer's marker of the run was seen. -/
def PeersSeen (c : OrchestrationConfig) (log : List NodeAction) : Prop :=
  ∀ peer ∈ quiescencePeers, ∃ document, NodeAction.quiescenceSeen peer document ∈ log ∧
    isQuiescenceMarker c.runId peer document = true

/-- **The moves.** -/
inductive Move (c : OrchestrationConfig) : OrchestrationRuntime → NodeInput → List NodeAction →
    OrchestrationRuntime → Prop where
  | observe {s input reads} (hreads : ∀ a ∈ reads, isObservation a = true) : Move c s input reads s
  | artifactsReady {s runId ready} :
    Move c s (.acceptArtifactStatus runId ready) [] { s with artifactsReady := true }
  | started {s} (hstate : s.state = .created) :
    Move c s .start [NodeAction.published (eventOf c s .starting "")] { s with state := .starting }
  | becameReady {s input} (hstate : s.state = .starting) :
    Move c s input [NodeAction.published (eventOf c s .ready "")] { s with state := .ready }
  | clock {s} {n : ℤ}
    (hstate : s.state = .ready ∧ c.requiredDurableReadiness ≠ [] ∨ s.state = .running) :
    Move c s (.acceptClock (.int n)) [.clockAccepted n.toNat] (s.stamped n.toNat)
  | clockStarts {s} {n : ℤ} (hn : 0 ≤ n) (hstate : s.state = .ready)
    (hnone : c.requiredDurableReadiness = []) (returned : Option Bool) :
    Move c s (.acceptClock (.int n))
      (.clockAccepted n.toNat :: startActions c (s.stamped n.toNat) returned)
      { s.stamped n.toNat with state := .running }
  | pollStarts {s reads} (hreads : ∀ a ∈ reads, isObservation a = true) (hstate : s.state = .ready)
    (hpeers : ∀ t ∈ c.requiredDurableReadiness, NodeAction.statusSeen t ∈ reads)
    (returned : Option Bool) :
    Move c s .poll (reads ++ startActions c s returned) { s with state := .running }
  | finalizing {s} (hstate : s.state.preterminal = true) (reason : String) :
    Move c s .poll [NodeAction.published (eventOf c s .finalizing reason)] { s with state := .finalizing }
  | quiescence {s} (hstate : s.state = .finalizing) (returned : Bool) :
    Move c s .poll [.quiescenceWrite "orchestration" returned]
      { s with quiescenceWritten := s.quiescenceWritten || returned }
  | freeze {s reads} (hreads : ∀ a ∈ reads, isObservation a = true) (hstate : s.state = .finalizing)
    (hown : s.quiescenceWritten = true) (hfirst : s.freezeWritten = false)
    (hpeers : PeersSeen c reads) (returned : Bool) :
    Move c s .poll (reads ++ [NodeAction.statusWrite .runtimeFrozen (frozenStatus c) returned])
      { s with freezeWritten := returned }
  | terminal {s} (hstate : s.state = .finalizing) (committed : TerminalCommitted) :
    Move c s .poll [.terminalSeen committed]
      { s with state := .terminal committed.terminalStatus, terminal := true }

/-- The moves of a call with this input, as the steps of a machine. -/
def Moves (c : OrchestrationConfig) (input : NodeInput) :
    OrchestrationRuntime → Unit → List NodeAction → OrchestrationRuntime → Prop :=
  fun s _ actions t => Move c s input actions t

/-- What a call did so far is a run of moves. -/
def Moved (c : OrchestrationConfig) (input : NodeInput) (s : OrchestrationRuntime) (r : NodeRun) :
    Prop :=
  ∃ is, Run (Moves c input) s is r.actions r.node

section

variable {c : OrchestrationConfig} {w : NodeBoundary} {input : NodeInput}
  {s : OrchestrationRuntime} {r : NodeRun}

theorem Moved.start : Moved c input s ⟨s, []⟩ := ⟨[], .start⟩

/-- One more move. -/
theorem Moved.move (h : Moved c input s r) {actions : List NodeAction} {t : OrchestrationRuntime}
    (hmove : Move c r.node input actions t) : Moved c input s ⟨t, r.actions ++ actions⟩ := by
  obtain ⟨is, hrun⟩ := h
  exact ⟨is ++ [()], .step hrun hmove⟩

/-! ## 2. Readings -/

/-- Only observations were made since `r`. -/
def Observing (r t : NodeRun) : Prop :=
  ∃ reads, t = ⟨r.node, r.actions ++ reads⟩ ∧ ∀ a ∈ reads, isObservation a = true

theorem Observing.refl (r : NodeRun) : Observing r r :=
  ⟨[], by rw [List.append_nil], fun _ h => absurd h List.not_mem_nil⟩

theorem Observing.perform {t : NodeRun} (h : Observing r t) {a : NodeAction}
    (ha : isObservation a = true) : Observing r ⟨t.node, t.actions ++ [a]⟩ := by
  obtain ⟨reads, rfl, hreads⟩ := h
  refine ⟨reads ++ [a], by rw [List.append_assoc], fun b hb => ?_⟩
  rcases List.mem_append.mp hb with hb | hb
  · exact hreads b hb
  · rw [List.mem_singleton.mp hb]
    exact ha

theorem Moved.observed {t : NodeRun} (h : Moved c input s r) (ho : Observing r t) :
    Moved c input s t := by
  obtain ⟨reads, rfl, hreads⟩ := ho
  exact h.move (.observe hreads)

/-- Since `r`, `G` was seen. -/
def Seen (r : NodeRun) (G : NodeAction → Prop) (t : NodeRun) : Prop :=
  ∃ reads a, t.actions = r.actions ++ reads ∧ a ∈ reads ∧ G a

theorem Seen.perform {G : NodeAction → Prop} {t : NodeRun} (h : Seen r G t) (a : NodeAction) :
    Seen r G ⟨t.node, t.actions ++ [a]⟩ := by
  obtain ⟨reads, b, heq, hmem, hG⟩ := h
  refine ⟨reads ++ [a], b, ?_, List.mem_append_left _ hmem, hG⟩
  show t.actions ++ [a] = r.actions ++ (reads ++ [a])
  rw [heq, List.append_assoc]

/-- What was observed and what was seen, put together. -/
theorem Observing.collect {α : Type} {G : α → NodeAction → Prop} {t : NodeRun}
    (h : Observing r t) {as : List α} (hall : ∀ a ∈ as, Seen r (G a) t) :
    ∃ reads, t = ⟨r.node, r.actions ++ reads⟩ ∧ (∀ a ∈ reads, isObservation a = true) ∧
      ∀ a ∈ as, ∃ x ∈ reads, G a x := by
  obtain ⟨reads, rfl, hreads⟩ := h
  refine ⟨reads, rfl, hreads, fun a ha => ?_⟩
  obtain ⟨others, x, heq, hmem, hG⟩ := hall a ha
  obtain rfl := List.append_cancel_left heq
  exact ⟨x, hmem, hG⟩

theorem statusPresent_spec (t : StatusType) {u : NodeRun} (h : Observing r u) :
    wp (statusPresent c w t)
      (fun b v => Observing r v ∧ (b = true → Seen r (· = .statusSeen t) v))
      (fun _ => Observing r) u := by
  obtain ⟨reads, rfl, hreads⟩ := h
  have hbase : Observing r ⟨r.node, r.actions ++ reads⟩ := ⟨reads, rfl, hreads⟩
  unfold statusPresent
  rw [wp_bind, wp_ofExcept]
  refine ⟨fun file _ => ?_, fun _ _ => hbase⟩
  rw [wp_bind, wp_ofExcept]
  refine ⟨fun status _ => ?_, fun _ _ => hbase⟩
  split
  · refine ⟨hbase.perform rfl, fun _ => ?_⟩
    exact ⟨reads ++ [NodeAction.statusSeen t], .statusSeen t, List.append_assoc _ _ _, by simp, rfl⟩
  · exact ⟨hbase, fun hfalse => by cases hfalse⟩

theorem statusPresent_keeps {G : NodeAction → Prop} (t : StatusType) :
    Keeps (Seen r G) (statusPresent c w t) :=
  .bind (.ofExcept _) fun _ => .bind (.ofExcept _) fun _ =>
    .ite (.bind (.modify fun _ h => h.perform _) fun _ => .pure _) (.pure _)

/-- The marker of a peer of this run. -/
def IsMarker (c : OrchestrationConfig) (module : String) (a : NodeAction) : Prop :=
  ∃ document, a = .quiescenceSeen module document ∧
    isQuiescenceMarker c.runId module document = true

theorem quiescencePresent_spec (module : String) {u : NodeRun} (h : Observing r u) :
    wp (quiescencePresent c w module)
      (fun b v => Observing r v ∧ (b = true → Seen r (IsMarker c module) v))
      (fun _ => Observing r) u := by
  obtain ⟨reads, rfl, hreads⟩ := h
  have hbase : Observing r ⟨r.node, r.actions ++ reads⟩ := ⟨reads, rfl, hreads⟩
  unfold quiescencePresent
  rw [wp_bind, wp_ofExcept]
  refine ⟨fun file _ => ?_, fun _ _ => hbase⟩
  rw [wp_bind, wp_ofExcept]
  refine ⟨fun marker hmarker => ?_, fun _ _ => hbase⟩
  cases marker with
  | none => exact ⟨hbase, fun hfalse => by cases hfalse⟩
  | some document =>
    have hvalid : isQuiescenceMarker c.runId module document = true := by
      cases file with
      | none => cases hmarker
      | some found =>
        simp only [readQuiescence] at hmarker
        split at hmarker
        · rename_i hfound
          cases hmarker
          exact hfound
        · cases hmarker
    refine ⟨hbase.perform rfl, fun _ => ?_⟩
    exact ⟨reads ++ [NodeAction.quiescenceSeen module document], .quiescenceSeen module document,
      List.append_assoc _ _ _, by simp, document, rfl, hvalid⟩

theorem quiescencePresent_keeps {G : NodeAction → Prop} (module : String) :
    Keeps (Seen r G) (quiescencePresent c w module) :=
  .bind (.ofExcept _) fun _ => .bind (.ofExcept _) fun marker => by
    cases marker with
    | none => exact .pure _
    | some document => exact .bind (.modify fun _ h => h.perform _) fun _ => .pure _

theorem flightPeersReady_spec (r : NodeRun) :
    wp (flightPeersReady c w)
      (fun b t => Observing r t ∧
        (b = true → ∀ a ∈ c.requiredDurableReadiness, Seen r (· = .statusSeen a) t))
      (fun _ => Observing r) r :=
  wp_all (P := Observing r) (fun a _ hu => statusPresent_spec a hu)
    (fun _ b => statusPresent_keeps b) _ (Observing.refl r)

theorem quiescencePeers_spec (r : NodeRun) :
    wp (all (quiescencePresent c w) quiescencePeers)
      (fun b t => Observing r t ∧ (b = true → ∀ a ∈ quiescencePeers, Seen r (IsMarker c a) t))
      (fun _ => Observing r) r :=
  wp_all (P := Observing r) (fun a _ hu => quiescencePresent_spec a hu)
    (fun _ b => quiescencePresent_keeps b) _ (Observing.refl r)

/-! ## 3. The calls -/

@[simp] theorem wp_perform {Q : Unit → NodeRun → Prop} {E : String → NodeRun → Prop}
    (a : NodeAction) : wp (perform a) Q E r ↔ Q () ⟨r.node, r.actions ++ [a]⟩ := Iff.rfl

@[simp] theorem wp_update {Q : Unit → NodeRun → Prop} {E : String → NodeRun → Prop}
    (change : OrchestrationRuntime → OrchestrationRuntime) :
    wp (update change) Q E r ↔ Q () ⟨change r.node, r.actions⟩ := Iff.rfl

/-- The state after `_emit`, whether the publication returned or raised. -/
theorem emit_spec {state : LifecycleState} {reason : String} {P : NodeRun → Prop}
    (h : P ⟨{ r.node with state := state },
      r.actions ++ [NodeAction.published (eventOf c r.node state reason)]⟩) :
    wp (emit c w state reason) (fun _ => P) (fun _ => P) r := by
  unfold emit
  rw [wp_bind]
  exact (wp_ofExcept w.publish).mpr ⟨fun _ _ => h, fun _ _ => h⟩

theorem start_moves : wp (OrchestrationRuntime.start c w) (fun _ => Moved c .start s)
    (fun _ => Moved c .start s) ⟨s, []⟩ := by
  unfold OrchestrationRuntime.start
  rw [wp_bind, wp_get]
  split
  · rename_i hstate
    exact emit_spec (Moved.start.move (.started hstate))
  · exact .start

theorem maybeReady_moves (h : Moved c input s r) :
    wp (maybeReady c w) (fun _ => Moved c input s) (fun _ => Moved c input s) r := by
  unfold maybeReady
  rw [wp_bind, wp_get]
  split
  · exact h
  · rename_i hguard
    have hstate : r.node.state = .starting := not_not.mp fun hne => hguard (Or.inl hne)
    split
    · rw [wp_bind]
      refine (statusPresent_spec .gazeboReady (Observing.refl r)).mono (fun present t ht => ?_)
        fun _ t ht => h.observed ht
      have hmoved := h.observed ht.1
      split
      · obtain ⟨reads, rfl, -⟩ := ht.1
        exact emit_spec (hmoved.move (.becameReady hstate))
      · exact hmoved
    · exact emit_spec (h.move (.becameReady hstate))

theorem acceptArtifactStatus_moves (runId : String) (ready : Bool) :
    wp (acceptArtifactStatus c w runId ready)
      (fun _ => Moved c (.acceptArtifactStatus runId ready) s)
      (fun _ => Moved c (.acceptArtifactStatus runId ready) s) ⟨s, []⟩ := by
  unfold acceptArtifactStatus
  rw [wp_bind, wp_get]
  split
  · exact .start
  · split
    · have hmoved : Moved c (.acceptArtifactStatus runId ready) s
          ⟨s, [.diagnosed "ignored stale artifact status"]⟩ :=
        Moved.start.move (.observe fun a ha => by rw [List.mem_singleton.mp ha]; rfl)
      rw [wp_bind]
      exact (wp_ofExcept w.diagnostic).mpr ⟨fun _ _ => hmoved, fun _ _ => hmoved⟩
    · split
      · rw [wp_bind]
        exact maybeReady_moves (Moved.start.move .artifactsReady)
      · exact .start

/-- `_start_running` does `startActions`, however it ends. -/
theorem startRunning_spec {P : NodeRun → Prop}
    (h : ∀ returned, P ⟨{ r.node with state := .running },
      r.actions ++ startActions c r.node returned⟩) :
    wp (startRunning c w) (fun _ => P) (fun _ => P) r := by
  unfold startRunning emit
  rw [wp_bind, wp_bind]
  show wp (ofExcept w.publish : Call Unit) _ _ _
  rw [wp_ofExcept]
  refine ⟨fun _ _ => ?_, fun _ _ => h none⟩
  have hwritten := h (some (w.writeStatus .runtimeRunning).isOk)
  have hassoc : r.actions ++ startActions c r.node (some (w.writeStatus .runtimeRunning).isOk) =
      (r.actions ++ [NodeAction.published (eventOf c r.node .running "")]) ++
        [NodeAction.statusWrite .runtimeRunning (runningStatus c r.node.lastSimTimestampNs)
          (w.writeStatus .runtimeRunning).isOk] := by
    rw [List.append_assoc]
    rfl
  rw [hassoc] at hwritten
  exact (wp_ofExcept (w.writeStatus .runtimeRunning)).mpr
    ⟨fun _ _ => hwritten, fun _ _ => hwritten⟩

theorem acceptClock_moves (sample : PyValue) :
    wp (acceptClock c w sample) (fun _ => Moved c (.acceptClock sample) s)
      (fun _ => Moved c (.acceptClock sample) s) ⟨s, []⟩ := by
  cases sample with
  | int n =>
    simp only [acceptClock]
    split
    · exact .start
    · rename_i hn
      rw [wp_bind, wp_get]
      split
      · exact .start
      · rename_i hactive
        rw [wp_bind, wp_update, wp_bind, wp_perform]
        by_cases hstart : s.state = .ready ∧ c.requiredDurableReadiness = []
        · rw [if_pos hstart]
          refine startRunning_spec fun returned => ?_
          exact Moved.start.move (.clockStarts (Int.not_lt.mp hn) hstart.1 hstart.2 returned)
        · rw [if_neg hstart]
          refine Moved.start.move (.clock ?_)
          by_cases hready : s.state = .ready
          · exact Or.inl ⟨hready, fun hnone => hstart ⟨hready, hnone⟩⟩
          · exact Or.inr (not_not.mp fun hrunning => hactive ⟨hready, hrunning⟩)
  | _ => exact .start

theorem observeRequest_moves (h : Moved c .poll s r) :
    wp (observeRequest c w) (fun _ => Moved c .poll s) (fun _ => Moved c .poll s) r := by
  unfold observeRequest
  rw [wp_bind, wp_get]
  split
  · rename_i hpre
    rw [wp_bind, wp_ofExcept]
    refine ⟨fun file _ => ?_, fun _ _ => h⟩
    rw [wp_bind, wp_ofExcept]
    refine ⟨fun request _ => ?_, fun _ _ => h⟩
    cases request with
    | some request =>
      have hreads : ∀ a ∈ [NodeAction.finalizeRequestSeen request], isObservation a = true :=
        fun a ha => by rw [List.mem_singleton.mp ha]; rfl
      have hseen := h.move (.observe hreads)
      have hfinal := hseen.move (.finalizing hpre request.reason)
      simp only [wp_bind]
      refine (emit_spec (P := (· = _)) rfl).mono (fun _ t ht => ?_) fun _ t ht => by
        rw [ht]; exact hfinal
      subst ht
      have hwritten := hfinal.move (.quiescence rfl w.writeQuiescence.isOk)
      refine (wp_ofExcept w.writeQuiescence).mpr ⟨fun _ hok => ?_, fun _ herror => ?_⟩
      · rw [hok, Except.isOk, Except.toBool, Bool.or_true] at hwritten
        rw [hok]
        exact hwritten
      · rw [herror, Except.isOk, Except.toBool, Bool.or_false] at hwritten
        rw [herror]
        exact hwritten
    | none =>
      show wp (if r.node.state = .starting then _ else _) _ _ r
      split
      · exact maybeReady_moves h
      · split
        · rename_i hstate
          rw [wp_bind]
          refine (flightPeersReady_spec r).mono (fun ready t ht => ?_) fun _ t ht => h.observed ht
          split
          · rename_i hready
            obtain ⟨reads, rfl, hreads, hpeers⟩ := ht.1.collect (ht.2 hready)
            refine startRunning_spec fun returned => ?_
            rw [List.append_assoc]
            refine h.move (.pollStarts hreads hstate (fun a ha => ?_) returned)
            obtain ⟨x, hx, rfl⟩ := hpeers a ha
            exact hx
          · exact h.observed ht.1
        · exact h
  · exact h

theorem observeTerminal_moves (h : Moved c .poll s r) (hstate : r.node.state = .finalizing) :
    wp (observeTerminal c w) (fun _ => Moved c .poll s) (fun _ => Moved c .poll s) r := by
  unfold observeTerminal
  rw [wp_bind, wp_ofExcept]
  refine ⟨fun file _ => ?_, fun _ _ => h⟩
  rw [wp_bind, wp_ofExcept]
  refine ⟨fun committed _ => ?_, fun _ _ => h⟩
  cases committed with
  | some committed => exact h.move (.terminal hstate committed)
  | none => exact h

theorem observeFreeze_moves (h : Moved c .poll s r) (hstate : r.node.state = .finalizing) :
    wp (observeFreeze c w) (fun _ => Moved c .poll s) (fun _ => Moved c .poll s) r := by
  unfold observeFreeze
  rw [wp_bind, wp_get]
  split
  · exact h
  · rename_i hown
    split
    · exact observeTerminal_moves h hstate
    · rename_i hfirst
      rw [wp_bind]
      refine (quiescencePeers_spec r).mono (fun quiescent t ht => ?_) fun _ t ht => h.observed ht
      split
      · rename_i hquiescent
        obtain ⟨reads, rfl, hreads, hpeers⟩ := ht.1.collect (ht.2 hquiescent)
        have hseen : PeersSeen c reads := by
          intro peer hpeer
          obtain ⟨x, hx, document, rfl, hvalid⟩ := hpeers peer hpeer
          exact ⟨document, hx, hvalid⟩
        have hmoved := h.move (.freeze hreads hstate (by simpa using hown)
          (by simpa using hfirst) hseen (w.writeStatus .runtimeFrozen).isOk)
        rw [← List.append_assoc] at hmoved
        simp only [writeStatus, wp_bind]
        refine (wp_ofExcept (w.writeStatus .runtimeFrozen)).mpr ⟨fun _ hok => ?_, fun _ herror => ?_⟩
        · rw [hok, Except.isOk, Except.toBool] at hmoved
          rw [hok]
          exact observeTerminal_moves hmoved hstate
        · have hkept : ({ r.node with freezeWritten := false } : OrchestrationRuntime) = r.node := by
            have hfalse : r.node.freezeWritten = false := by simpa using hfirst
            rw [← hfalse]
          rw [herror, Except.isOk, Except.toBool, hkept] at hmoved
          rw [herror]
          exact hmoved
      · exact h.observed ht.1

theorem poll_moves : wp (poll c w) (fun _ => Moved c .poll s) (fun _ => Moved c .poll s)
    ⟨s, []⟩ := by
  unfold poll
  rw [wp_bind, wp_get]
  split
  · exact .start
  · rw [wp_bind]
    refine (observeRequest_moves .start).mono (fun _ t ht => ?_) fun _ _ ht => ht
    rw [wp_bind, wp_get]
    split
    · rename_i hstate
      exact observeFreeze_moves ht hstate
    · exact ht

theorem body_moves (input : NodeInput) :
    wp (body c w input) (fun _ => Moved c input s) (fun _ => Moved c input s) ⟨s, []⟩ :=
  match input with
  | .start => start_moves
  | .acceptArtifactStatus runId ready => acceptArtifactStatus_moves runId ready
  | .acceptClock sample => acceptClock_moves sample
  | .poll => by
    show wp (poll c w >>= fun _ => pure ()) _ _ _
    rw [wp_bind]
    exact poll_moves

/-- **A call is a sequence of moves.** -/
theorem call_moves {t : OrchestrationRuntime} {actions : List NodeAction}
    (h : Called c s (input, w) actions t) : ∃ is, Run (Moves c input) s is actions t := by
  have hends := body_moves (c := c) (w := w) (s := s) input
  unfold Called call at h
  obtain ⟨rfl, rfl⟩ := Prod.mk.inj h
  unfold wp at hends
  generalize (body c w input).exec ⟨s, []⟩ = r at hends
  rcases r with ⟨e | a, u⟩
  · exact hends
  · exact hends

end

end OrchestrationRuntime

end DroneSim
