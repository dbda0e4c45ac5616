/-
  File:      DroneSim/Orchestration/NodeStart.lean
  Subject:   What starts RUNNING, and with which timestamp.

  Where no durable readiness is required the first sample of the clock after READY starts RUNNING
  and gives it its timestamp. Where some is required no sample does: a poll starts RUNNING once it
  has read the readiness of every required peer, with the last sample accepted so far, or 0 where
  the clock was not seen yet.

  * `Move.clockStart` -- every move keeps what holds of the clock and of the start;
  * `startedBy_call` -- what starts RUNNING in a call;
  * `running_start` -- what starts it in a run, and with which timestamp;
  * `unclocked_start` -- with durable readiness required, it may start before the clock is seen.
-/
import DroneSim.Library.Emission
import DroneSim.Orchestration.NodeMoves

namespace DroneSim

open Library Library.Attempt

namespace OrchestrationRuntime

/-! ## 1. What the log says about the clock and the start -/

def clockOf : NodeAction → Option ℕ
  | .clockAccepted simTimestampNs => some simTimestampNs
  | _ => none

/-- The samples accepted so far. -/
def clocks (log : List NodeAction) : List ℕ := log.filterMap clockOf

/-- The last sample accepted, or 0. -/
def lastClock (log : List NodeAction) : ℕ := (clocks log).getLast?.getD 0

def isPublished : NodeAction → Bool
  | .published _ => true
  | _ => false

def isRunningPublished : NodeAction → Bool
  | .published event => event.state == .running
  | _ => false

def isRunningWrite : NodeAction → Bool
  | .statusWrite .runtimeRunning _ _ => true
  | _ => false

/-- READY was published. -/
def ReadyPublished (log : List NodeAction) : Prop :=
  ∃ event, NodeAction.published event ∈ log ∧ event.state = .ready

/-- What an action stands on. -/
def StartGrounds (c : OrchestrationConfig) (log : List NodeAction) : NodeAction → Prop
  | .clockAccepted _ => ReadyPublished log
  | .published event => event.state = .running →
    log.countP isRunningPublished = 0 ∧ log.countP isRunningWrite = 0
  | .statusWrite .runtimeRunning status _ => log.countP isRunningWrite = 0 ∧
    ∃ before event, log = before ++ [NodeAction.published event] ∧ event.state = .running ∧
      status = runningStatus c event.simTimestampNs
  | _ => True

/-- What starts RUNNING in a call with this input, after the history `log` and the actions
    `before` of the call. -/
def StartedBy (c : OrchestrationConfig) (log : List NodeAction) (input : NodeInput)
    (before : List NodeAction) (event : RuntimeStateEvent) : Prop :=
  match input with
  | .acceptClock sample => c.requiredDurableReadiness = [] ∧ sample = .int event.simTimestampNs ∧
    clocks (log ++ before) = [event.simTimestampNs]
  | .poll => c.requiredDurableReadiness ≠ [] →
    (∀ t ∈ c.requiredDurableReadiness, NodeAction.statusSeen t ∈ before) ∧
      event.simTimestampNs = lastClock log
  | _ => False

/-- **What holds of the clock and of the start.** -/
structure ClockStart (c : OrchestrationConfig) (s : OrchestrationRuntime) (log : List NodeAction) :
    Prop where
  stamp : s.lastSimTimestampNs = lastClock log
  early : s.state.rank ≤ 1 → clocks log = []
  unclocked : s.state = .ready → c.requiredDurableReadiness = [] → clocks log = []
  ready : s.state = .ready ∨ s.state = .running → ReadyPublished log
  unstarted : s.state.rank ≤ 2 →
    log.countP isRunningPublished = 0 ∧ log.countP isRunningWrite = 0
  grounds : Grounded (StartGrounds c) log

variable {c : OrchestrationConfig} {s t : OrchestrationRuntime} {log actions reads : List NodeAction}

theorem clockStart_created : ClockStart c created [] where
  stamp := rfl
  early := fun _ => rfl
  unclocked := fun _ _ => rfl
  ready := by
    intro h
    rcases h with h | h
    · cases h
    · cases h
  unstarted := fun _ => ⟨rfl, rfl⟩
  grounds := .nil

/-! ## 2. What a move keeps -/

theorem clocks_append (log actions : List NodeAction) :
    clocks (log ++ actions) = clocks log ++ clocks actions := List.filterMap_append

theorem lastClock_append (h : clocks actions = []) : lastClock (log ++ actions) = lastClock log := by
  unfold lastClock
  rw [clocks_append, h, List.append_nil]

theorem ReadyPublished.append (h : ReadyPublished log) : ReadyPublished (log ++ actions) := by
  obtain ⟨event, hmem, hready⟩ := h
  exact ⟨event, List.mem_append_left _ hmem, hready⟩

/-- Actions that have nothing to do with the clock or the start. -/
def Aside (actions : List NodeAction) : Prop :=
  ∀ a ∈ actions, clockOf a = none ∧ isRunningPublished a = false ∧ isRunningWrite a = false

theorem Aside.clocks (h : Aside actions) : clocks actions = [] :=
  List.filterMap_eq_nil_iff.mpr fun a ha => (h a ha).1

theorem Aside.counts (h : Aside actions) :
    actions.countP isRunningPublished = 0 ∧ actions.countP isRunningWrite = 0 := by
  refine ⟨List.countP_eq_zero.mpr fun a ha => ?_, List.countP_eq_zero.mpr fun a ha => ?_⟩
  · rw [(h a ha).2.1]
    exact Bool.false_ne_true
  · rw [(h a ha).2.2]
    exact Bool.false_ne_true

/-- Such actions stand on anything. -/
theorem Aside.grounds (h : Aside actions) {a : NodeAction} (ha : a ∈ actions) :
    StartGrounds c log a := by
  obtain ⟨hclock, hpublished, hwrite⟩ := h a ha
  cases a with
  | clockAccepted n => cases hclock
  | published event =>
    intro hrunning
    rw [isRunningPublished, hrunning] at hpublished
    cases hpublished
  | statusWrite t status returned =>
    cases t with
    | runtimeRunning => cases hwrite
    | _ => trivial
  | _ => trivial

theorem aside_observations (h : ∀ a ∈ reads, isObservation a = true) : Aside reads := by
  intro a ha
  have hobserved := h a ha
  cases a with
  | published => cases hobserved
  | clockAccepted => cases hobserved
  | statusWrite => cases hobserved
  | _ => exact ⟨rfl, rfl, rfl⟩

theorem aside_single {a : NodeAction} (h : clockOf a = none)
    (h' : isRunningPublished a = false) (h'' : isRunningWrite a = false) : Aside [a] := by
  intro b hb
  rw [List.mem_singleton.mp hb]
  exact ⟨h, h', h''⟩

/-- A move that has nothing to do with the clock or the start. -/
theorem ClockStart.aside (h : ClockStart c s log) (haside : Aside actions)
    (hstamp : t.lastSimTimestampNs = s.lastSimTimestampNs)
    (hrank : s.state.rank ≤ t.state.rank)
    (hearly : t.state = .ready → s.state.rank ≤ 1 ∨ s.state = .ready)
    (hready : t.state = .ready ∨ t.state = .running →
      s.state = .ready ∨ s.state = .running ∨ ReadyPublished (log ++ actions)) :
    ClockStart c t (log ++ actions) where
  stamp := by rw [hstamp, h.stamp, lastClock_append haside.clocks]
  early := fun ht => by rw [clocks_append, haside.clocks, h.early (hrank.trans ht)]; rfl
  unclocked := fun ht hnone => by
    rw [clocks_append, haside.clocks, List.append_nil]
    rcases hearly ht with hbefore | hbefore
    · exact h.early hbefore
    · exact h.unclocked hbefore hnone
  ready := fun ht => by
    rcases hready ht with hbefore | hbefore | hnow
    · exact (h.ready (Or.inl hbefore)).append
    · exact (h.ready (Or.inr hbefore)).append
    · exact hnow
  unstarted := fun ht => by
    obtain ⟨hpublished, hwrite⟩ := h.unstarted (hrank.trans ht)
    rw [List.countP_append, List.countP_append, hpublished, hwrite, haside.counts.1,
      haside.counts.2]
    exact ⟨rfl, rfl⟩
  grounds := h.grounds.append fun a x b hx => haside.grounds (by rw [hx]; simp)

/-- A sample of the clock that does not start the run. -/
theorem ClockStart.sample (h : ClockStart c s log) (n : ℕ)
    (hstate : s.state = .ready ∧ c.requiredDurableReadiness ≠ [] ∨ s.state = .running) :
    ClockStart c (s.stamped n) (log ++ [NodeAction.clockAccepted n]) where
  stamp := by
    unfold lastClock
    rw [clocks_append]
    exact (congrArg (Option.getD · 0) List.getLast?_concat).symm
  early := fun hrank => by
    have hearly : s.state.rank ≤ 1 := hrank
    rcases hstate with ⟨hready, -⟩ | hrunning
    · rw [hready] at hearly
      exact absurd hearly (by decide)
    · rw [hrunning] at hearly
      exact absurd hearly (by decide)
  unclocked := fun hready hnone => by
    have hstays : s.state = .ready := hready
    rcases hstate with ⟨-, hsome⟩ | hrunning
    · exact absurd hnone hsome
    · rw [hstays] at hrunning
      cases hrunning
  ready := fun hactive => (h.ready hactive).append
  unstarted := fun hrank => by
    obtain ⟨hpublished, hwrite⟩ := h.unstarted hrank
    rw [List.countP_append, List.countP_append, hpublished, hwrite]
    exact ⟨rfl, rfl⟩
  grounds := h.grounds.snoc (h.ready (hstate.imp And.left id))

/-- The start: RUNNING, and the status where the publication returned. `log` ends with the sample
    that starts the run, if one does. -/
theorem startGrounds (returned : Option Bool) (hgrounds : Grounded (StartGrounds c) log)
    (hnone : log.countP isRunningPublished = 0 ∧ log.countP isRunningWrite = 0) :
    Grounded (StartGrounds c) (log ++ startActions c s returned) := by
  have hpublished : Grounded (StartGrounds c) (log ++ [NodeAction.published (eventOf c s .running "")]) :=
    hgrounds.snoc fun _ => hnone
  cases returned with
  | none => exact hpublished
  | some returned =>
    have hunwritten :
        (log ++ [NodeAction.published (eventOf c s .running "")]).countP isRunningWrite = 0 := by
      rw [List.countP_append, hnone.2]
      rfl
    have hwrite : StartGrounds c (log ++ [NodeAction.published (eventOf c s .running "")])
        (.statusWrite .runtimeRunning (runningStatus c s.lastSimTimestampNs) returned) :=
      And.intro hunwritten ⟨log, eventOf c s .running "", rfl, rfl, rfl⟩
    have hwritten := hpublished.snoc hwrite
    rw [List.append_assoc] at hwritten
    exact hwritten

theorem clocks_startActions (returned : Option Bool) : clocks (startActions c s returned) = [] := by
  cases returned with
  | none => rfl
  | some _ => rfl

/-- The state after a start. -/
theorem ClockStart.start (h : ClockStart c s log) (hstate : s.state = .ready)
    (returned : Option Bool) :
    ClockStart c { s with state := .running } (log ++ startActions c s returned) where
  stamp := h.stamp.trans (lastClock_append (clocks_startActions returned)).symm
  early := fun hrank => absurd (show 3 ≤ 1 from hrank) (by decide)
  unclocked := fun hready => by cases hready
  ready := fun _ => (h.ready (Or.inl hstate)).append
  unstarted := fun hrank => absurd (show 3 ≤ 2 from hrank) (by decide)
  grounds := startGrounds returned h.grounds (h.unstarted (by rw [hstate]; decide))

/-- The state after the sample that starts the run. -/
theorem ClockStart.sampleStart (h : ClockStart c s log) (hstate : s.state = .ready) (n : ℕ)
    (returned : Option Bool) :
    ClockStart c { s.stamped n with state := .running }
      (log ++ NodeAction.clockAccepted n :: startActions c (s.stamped n) returned) where
  stamp := by
    unfold lastClock
    rw [clocks_append]
    show n = (clocks log ++ n :: clocks (startActions c (s.stamped n) returned)).getLast?.getD 0
    rw [clocks_startActions, List.getLast?_concat]
    rfl
  early := fun hrank => absurd (show 3 ≤ 1 from hrank) (by decide)
  unclocked := fun hready => by cases hready
  ready := fun _ => (h.ready (Or.inl hstate)).append
  unstarted := fun hrank => absurd (show 3 ≤ 2 from hrank) (by decide)
  grounds := by
    have hnone := h.unstarted (by rw [hstate]; decide)
    have hsample : Grounded (StartGrounds c) (log ++ [NodeAction.clockAccepted n]) :=
      h.grounds.snoc (h.ready (Or.inl hstate))
    have hstarted := startGrounds (s := s.stamped n) returned hsample (by
      rw [List.countP_append, List.countP_append, hnone.1, hnone.2]
      exact ⟨rfl, rfl⟩)
    rw [List.append_assoc] at hstarted
    exact hstarted

theorem preterminal_rank {state : LifecycleState} (h : state.preterminal = true) :
    state.rank ≤ LifecycleState.finalizing.rank := by
  cases state with
  | starting => decide
  | ready => decide
  | running => decide
  | _ => cases h

/-- **Every move keeps what holds of the clock and of the start.** -/
theorem Move.clockStart {input : NodeInput} (hmove : Move c s input actions t)
    (h : ClockStart c s log) : ClockStart c t (log ++ actions) := by
  cases hmove with
  | observe hreads =>
    exact h.aside (aside_observations hreads) rfl le_rfl Or.inr fun hready =>
      hready.imp id Or.inl
  | artifactsReady =>
    refine h.aside (fun a ha => absurd ha List.not_mem_nil) rfl le_rfl Or.inr
      fun hready => hready.imp id Or.inl
  | started hstate =>
    refine h.aside (aside_single rfl rfl rfl) rfl (by rw [hstate]; exact Nat.zero_le 1)
      (fun hready => ?_) fun hready => ?_
    · cases hready
    · rcases hready with hready | hready
      · cases hready
      · cases hready
  | becameReady hstate =>
    refine h.aside (aside_single rfl rfl rfl) rfl (by rw [hstate]; exact Nat.le_succ 1) (fun _ => ?_)
      fun _ => Or.inr (Or.inr ⟨_, List.mem_append_right _ (List.mem_singleton.mpr rfl), rfl⟩)
    rw [hstate]
    exact Or.inl (le_refl 1)
  | clock hstate => exact h.sample _ hstate
  | @clockStarts n hn hstate hnone returned => exact h.sampleStart hstate n.toNat returned
  | pollStarts hreads hstate hpeers returned =>
    rw [← List.append_assoc]
    have hread : ClockStart c s _ := h.aside (aside_observations hreads) rfl le_rfl Or.inr
      fun hready => hready.imp id Or.inl
    exact hread.start hstate returned
  | finalizing hstate reason =>
    refine h.aside (aside_single rfl rfl rfl) rfl (preterminal_rank hstate) (fun hready => ?_)
      fun hready => ?_
    · cases hready
    · rcases hready with hready | hready
      · cases hready
      · cases hready
  | quiescence hstate returned =>
    exact h.aside (aside_single rfl rfl rfl) rfl le_rfl Or.inr fun hready => hready.imp id Or.inl
  | freeze hreads hstate hown hfirst hpeers returned =>
    rw [← List.append_assoc]
    have hread : ClockStart c s _ := h.aside (aside_observations hreads) rfl le_rfl Or.inr
      fun hready => hready.imp id Or.inl
    exact hread.aside (aside_single rfl rfl rfl) rfl le_rfl Or.inr fun hready =>
      hready.imp id Or.inl
  | terminal hstate committed =>
    refine h.aside (aside_single rfl rfl rfl) rfl (by rw [hstate]; exact Nat.le_succ 4)
      (fun hready => ?_) fun hready => ?_
    · cases hready
    · rcases hready with hready | hready
      · cases hready
      · cases hready

/-! ## 3. Whole runs -/

theorem clockStart_moves {input : NodeInput} {is : List Unit}
    (hrun : Run (Moves c input) s is actions t) (h : ClockStart c s log) :
    ClockStart c t (log ++ actions) := by
  induction hrun with
  | start =>
    rw [List.append_nil]
    exact h
  | step _ hmove ih =>
    rw [← List.append_assoc]
    exact Move.clockStart hmove ih

theorem clockStart_run {calls : List (NodeInput × NodeBoundary)}
    (h : Run (Called c) created calls log s) : ClockStart c s log := by
  induction h with
  | start => exact clockStart_created
  | @step calls log s call actions t _ hcall ih =>
    obtain ⟨input, w⟩ := call
    obtain ⟨is, hmoves⟩ := call_moves hcall
    exact clockStart_moves hmoves ih

/-! ## 4. What starts RUNNING -/

/-- The moves of a poll accept no sample. -/
theorem clocks_poll {is : List Unit} (hrun : Run (Moves c .poll) s is actions t) :
    clocks actions = [] := by
  induction hrun with
  | start => rfl
  | step _ hmove ih =>
    rw [clocks_append, ih, List.nil_append]
    cases hmove with
    | observe hreads => exact (aside_observations hreads).clocks
    | pollStarts hreads hstate hpeers returned =>
      rw [clocks_append, (aside_observations hreads).clocks, clocks_startActions]
      rfl
    | freeze hreads hstate hown hfirst hpeers returned =>
      rw [clocks_append, (aside_observations hreads).clocks]
      rfl
    | _ => rfl

/-- RUNNING is not published by a move of this one action. -/
theorem not_running_single {a : NodeAction} {before after : List NodeAction}
    {event : RuntimeStateEvent} (ha : isRunningPublished a = false)
    (hactions : [a] = before ++ NodeAction.published event :: after) : event.state ≠ .running := by
  intro hrunning
  have hmem : NodeAction.published event ∈ [a] := by
    rw [hactions]
    simp
  rw [← List.mem_singleton.mp hmem, isRunningPublished, hrunning] at ha
  cases ha

/-- In the actions of a start, the publication is the first. -/
theorem published_startActions {returned : Option Bool} {before after others : List NodeAction}
    {event : RuntimeStateEvent} (hothers : ∀ a ∈ others, isPublished a = false)
    (h : others ++ startActions c s returned = before ++ NodeAction.published event :: after) :
    before = others ∧ event = eventOf c s .running "" := by
  have hrest : ∀ a ∈ (returned.map fun returned =>
      NodeAction.statusWrite .runtimeRunning (runningStatus c s.lastSimTimestampNs)
        returned).toList, isPublished a = false := by
    intro a ha
    obtain ⟨returned, -, rfl⟩ := Option.map_eq_some_iff.mp (Option.mem_toList.mp ha)
    rfl
  obtain ⟨hbefore, hevent⟩ := split_unique (p := isPublished) h.symm hothers hrest rfl
  exact ⟨hbefore, NodeAction.published.inj hevent⟩

theorem isPublished_observation (h : ∀ a ∈ reads, isObservation a = true) :
    ∀ a ∈ reads, isPublished a = false := by
  intro a ha
  have hobserved := h a ha
  cases a with
  | published => cases hobserved
  | _ => rfl

/-- **What starts RUNNING in a call.** -/
theorem startedBy_call {input : NodeInput} {w : NodeBoundary} (h : ClockStart c s log)
    (hcall : Called c s (input, w) actions t) {before after : List NodeAction}
    {event : RuntimeStateEvent} (hactions : actions = before ++ NodeAction.published event :: after)
    (hrunning : event.state = .running) : StartedBy c log input before event := by
  obtain ⟨is, hmoves⟩ := call_moves hcall
  rw [hactions] at hmoves
  obtain ⟨js, -, ps, u, i, p, q, v, -, hprefix, hmove, rfl⟩ := hmoves.emitted
  have hclock := clockStart_moves hprefix h
  -- the one move that publishes RUNNING starts in the state that the moves before it leave
  have hcases : Move c u input (p ++ NodeAction.published event :: q) v := hmove
  generalize hlist : p ++ NodeAction.published event :: q = list at hcases
  cases hcases with
  | observe hreads =>
    have hmem := hreads (.published event) (by rw [← hlist]; simp)
    cases hmem
  | artifactsReady => simp at hlist
  | started hstate => exact absurd hrunning (not_running_single rfl hlist.symm)
  | becameReady hstate => exact absurd hrunning (not_running_single rfl hlist.symm)
  | clock hstate => exact absurd hrunning (not_running_single rfl hlist.symm)
  | @clockStarts n hn hstate hnone returned =>
    have hsplit : [NodeAction.clockAccepted n.toNat] ++ startActions c (u.stamped n.toNat) returned =
        p ++ NodeAction.published event :: q := hlist.symm
    obtain ⟨rfl, rfl⟩ := published_startActions (fun a ha => by
      rw [List.mem_singleton.mp ha]; rfl) hsplit
    refine ⟨hnone, ?_, ?_⟩
    · show PyValue.int n = PyValue.int (n.toNat : ℕ)
      rw [Int.toNat_of_nonneg hn]
    · rw [← List.append_assoc, clocks_append, hclock.unclocked hstate hnone]
      rfl
  | pollStarts hreads hstate hpeers returned =>
    obtain ⟨rfl, rfl⟩ := published_startActions (isPublished_observation hreads) hlist.symm
    refine fun _ => ⟨fun a ha => List.mem_append_right _ (hpeers a ha), ?_⟩
    exact hclock.stamp.trans (lastClock_append (clocks_poll hprefix))
  | finalizing hstate reason => exact absurd hrunning (not_running_single rfl hlist.symm)
  | quiescence hstate returned => exact absurd hrunning (not_running_single rfl hlist.symm)
  | freeze hreads hstate hown hfirst hpeers returned =>
    have hmem : NodeAction.published event ∈ p ++ NodeAction.published event :: q := by simp
    rw [hlist] at hmem
    rcases List.mem_append.mp hmem with hread | hwrite
    · have hobserved := hreads _ hread
      cases hobserved
    · simp at hwrite
  | terminal hstate committed => exact absurd hrunning (not_running_single rfl hlist.symm)

/-- With no readiness required, the first sample after READY starts the run at once. -/
theorem sample_starts {w : NodeBoundary} {n : ℕ} (hstate : s.state = .ready)
    (hnone : c.requiredDurableReadiness = [])
    (hcall : Called c s (.acceptClock (.int n), w) actions t) :
    ∃ returned, actions = .clockAccepted n :: startActions c (s.stamped n) returned := by
  have hends : wp (acceptClock c w (.int n))
      (fun _ r => ∃ returned, r.actions = .clockAccepted n :: startActions c (s.stamped n) returned)
      (fun _ r => ∃ returned, r.actions = .clockAccepted n :: startActions c (s.stamped n) returned)
      ⟨s, []⟩ := by
    simp only [acceptClock]
    rw [if_neg (Int.not_lt.mpr (Int.natCast_nonneg n)), wp_bind, wp_get,
      if_neg (fun hne => hne.1 hstate), wp_bind, wp_update, wp_bind, wp_perform,
      if_pos ⟨hstate, hnone⟩]
    exact startRunning_spec fun returned => ⟨returned, rfl⟩
  unfold Called call at hcall
  obtain ⟨-, rfl⟩ := Prod.mk.inj hcall
  unfold wp at hends
  show ∃ returned, ((acceptClock c w (.int n)).exec ⟨s, []⟩).2.actions = _
  generalize (acceptClock c w (.int n)).exec ⟨s, []⟩ = r at hends
  rcases r with ⟨e | a, u⟩
  · exact hends
  · exact hends

/-- **What starts RUNNING.** RUNNING and its status are put out at most once, the status right after
    the event and with its timestamp, and samples are accepted only after READY. In every call,
    RUNNING is started by the first sample accepted, where no readiness is required, and that
    sample starts it; and by a poll that read the readiness of every required peer, where some is
    required. -/
theorem running_start {calls : List (NodeInput × NodeBoundary)}
    (h : Run (Called c) created calls log s) :
    log.countP isRunningPublished ≤ 1 ∧ log.countP isRunningWrite ≤ 1 ∧
    (∀ before n after, log = before ++ NodeAction.clockAccepted n :: after → ReadyPublished before) ∧
    (∀ before status returned after,
      log = before ++ NodeAction.statusWrite .runtimeRunning status returned :: after →
        ∃ earlier event, before = earlier ++ [NodeAction.published event] ∧ event.state = .running ∧
          status = runningStatus c event.simTimestampNs) ∧
    ∀ input w actions t, Called c s (input, w) actions t →
      (∀ before event after, actions = before ++ NodeAction.published event :: after →
        event.state = .running → StartedBy c log input before event) ∧
      ∀ n : ℕ, c.requiredDurableReadiness = [] → s.state = .ready → input = .acceptClock (.int n) →
        ∃ returned, actions = .clockAccepted n :: startActions c (s.stamped n) returned := by
  have hclock := clockStart_run h
  refine ⟨?_, ?_, ?_, ?_, ?_⟩
  · refine hclock.grounds.single fun before a ha hrunning => ?_
    cases a with
    | published event =>
      rw [isRunningPublished, beq_iff_eq] at hrunning
      exact (ha hrunning).1
    | _ => cases hrunning
  · refine hclock.grounds.single fun before a ha hwrite => ?_
    cases a with
    | statusWrite t status returned =>
      cases t with
      | runtimeRunning => exact ha.1
      | _ => cases hwrite
    | _ => cases hwrite
  · exact fun before n after hlog => hclock.grounds before (.clockAccepted n) after hlog
  · intro before status returned after hlog
    exact (hclock.grounds before _ after hlog).2
  · intro input w actions t hcall
    refine ⟨fun before event after hactions hrunning =>
      startedBy_call hclock hcall hactions hrunning, fun n hnone hstate hinput => ?_⟩
    subst hinput
    exact sample_starts hstate hnone hcall

/-! ## 5. A start without the clock -/

theorem phase3_digest :
    isSha256 "aaaaaaaaaaaaaaaaaaaaaaaaaaaaaaaaaaaaaaaaaaaaaaaaaaaaaaaaaaaaaaaa" = true := by
  decide +kernel

theorem phase3_canonical : isCanonicalUuid "11111111-1111-4111-8111-111111111111" = true := by
  decide +kernel

theorem allowedReadiness_nodup : allowedReadiness.Nodup := by decide

/-- The configuration of the third profile. -/
def phase3 : OrchestrationConfig where
  runId := "11111111-1111-4111-8111-111111111111"
  configSha256 :=
    ⟨"aaaaaaaaaaaaaaaaaaaaaaaaaaaaaaaaaaaaaaaaaaaaaaaaaaaaaaaaaaaaaaaa", phase3_digest⟩
  requiredDurableReadiness := allowedReadiness
  requireGazeboReady := true
  canonical := phase3_canonical
  distinct := allowedReadiness_nodup
  allowed := fun _ h => h

/-- The exchange in the readiness of the simulator. -/
def phase3Exchange : PyValue :=
  .mapping true (document [("online", .bool true), ("servo_packets_received", .int 1),
    ("motor_updates", .int 1), ("duplicate_servo_packets", .int 0), ("servo_frame_gaps", .int 0),
    ("json_states_sent", .int 1), ("json_send_errors", .int 0), ("last_servo_frame", .int 1),
    ("last_json_sim_time_ns", .int 0)])

/-- Every readiness is there, no control is, and every writer returns. -/
def phase3Ready : NodeBoundary where
  publish := .ok ()
  diagnostic := .ok ()
  statusFile := fun t => .ok (some (.mapping true (document
    (("run_id", .str phase3.runId) :: (t.definition.fixedFields ++
      if t = .gazeboReady then [("flight_exchange", phase3Exchange)] else [])))))
  quiescenceFile := fun _ => .ok none
  controlFile := fun _ => .ok none
  writeStatus := fun _ => .ok ()
  writeQuiescence := .ok ()

/-- A run without a sample of the clock. -/
def unclockedCalls : List (NodeInput × NodeBoundary) :=
  [(.start, phase3Ready), (.acceptArtifactStatus phase3.runId true, phase3Ready),
    (.poll, phase3Ready)]

/-- **RUNNING may start before the clock is seen.** -/
theorem unclocked_start : ¬ ∀ (c : OrchestrationConfig) calls log s,
    Run (Called c) created calls log s →
      ∀ before event after, log = before ++ NodeAction.published event :: after → event.state = .running →
        ∃ n, clocks before = [n] ∧ event.simTimestampNs = n := by
  intro hclaim
  have hrun := calls_run (c := phase3) unclockedCalls created
  have hstarted : ((calls phase3 created unclockedCalls).2.any isRunningPublished) = true := by
    decide +kernel
  have hclocks : clocks (calls phase3 created unclockedCalls).2 = [] := by decide +kernel
  obtain ⟨a, hmem, ha⟩ := List.any_eq_true.mp hstarted
  obtain ⟨before, after, hlog⟩ := List.append_of_mem hmem
  cases a with
  | published event =>
    obtain ⟨n, hbefore, -⟩ := hclaim phase3 _ _ _ hrun before event after hlog (beq_iff_eq.mp ha)
    rw [hlog, clocks_append, hbefore] at hclocks
    cases hclocks
  | _ => cases ha

/-- The run that starts without the clock starts once. -/
theorem running_start_unclocked :
    (calls phase3 created unclockedCalls).2.countP isRunningPublished = 1 ∧
      (calls phase3 created unclockedCalls).2.countP isRunningWrite ≤ 1 :=
  ⟨by decide +kernel, (running_start (calls_run unclockedCalls created)).2.1⟩

end OrchestrationRuntime

end DroneSim
