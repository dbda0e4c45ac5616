/-
  File:      DroneSim/Electromagnet/GatewayEvents.lean
  Subject:   WHEN THE SCORER TAKES THE GATEWAY'S EVENTS.

  The competition scorer wants payload events with ids from zero on, of the three markers, and
  with times that never fall. The gateway numbers its events so; but it stamps an event with the
  newest sample of the vehicle and of the event's own payload, and the payloads' streams advance
  on their own. So the times of two events fall where the earlier payload's stream was ahead of
  the vehicle's and the later payload's (`NotAhead` fails), and only there.

  `scorable_iff` is the exact condition, over every run; `fallingEvents` is a run that fails it.
-/
import DroneSim.Electromagnet.GatewayAnswers
import DroneSim.Scorekeeper.Competition

namespace DroneSim

open Library

/-! ## 1. The consumer -/

/-- The sample the scorer makes of an event record. -/
def PayloadEventRecord.sample (record : PayloadEventRecord) : CodedPayloadEvent where
  runId := record.runId
  simTimestampNs := record.timestampNs
  eventId := record.eventId
  arucoId := record.arucoId
  commandId := record.commandId
  action := record.action
  state := record.state
  code := record.code

/-- The scorer after the events. -/
def scored (runId : String) (rules : CompetitionRules) (events : List PayloadEventRecord) :
    CompetitionScorer :=
  (events.map PayloadEventRecord.sample).foldl CompetitionScorer.acceptPayloadEvent
    (.initial runId rules)

/-- **The scorer takes the events**, every one and without a fault. -/
def Scorable (runId : String) (rules : CompetitionRules) (events : List PayloadEventRecord) : Prop :=
  scored runId rules events = { CompetitionScorer.initial runId rules with
    payloadEvents := events.map PayloadEventRecord.sample }

/-- The events' times never fall. -/
def NeverFalling (events : List PayloadEventRecord) : Prop :=
  (events.map PayloadEventRecord.timestampNs).IsChain (· ≤ ·)

namespace CompetitionScorer

/-- A fault stays noted, whatever events come. -/
theorem acceptPayloadEvent_diagnostic {c : CompetitionScorer} (sample : CodedPayloadEvent)
    (h : c.diagnostic ≠ none) : (c.acceptPayloadEvent sample).diagnostic ≠ none := by
  have hfail : ∀ reason, (c.fail reason).diagnostic ≠ none := fun _ => Option.some_ne_none _
  unfold acceptPayloadEvent
  split
  · exact h
  · split
    · exact hfail _
    · split
      · split
        · exact hfail _
        · split
          · exact hfail _
          · exact h
      · split
        · exact hfail _
        · exact h

/-- The scorer takes the next event of a marker iff its number follows and its time does not
    fall. -/
theorem acceptPayloadEvent_iff {c : CompetitionScorer} (sample : CodedPayloadEvent)
    (hrun : sample.runId = c.runId) (hmarker : sample.arucoId ∈ markers)
    (hnone : c.diagnostic = none)
    (hid : sample.eventId = c.payloadEvents.length)
    (hids : ∀ e, c.payloadEvents.getLast? = some e → e.eventId + 1 = c.payloadEvents.length) :
    ((c.acceptPayloadEvent sample).diagnostic = none ↔
      ∀ e, c.payloadEvents.getLast? = some e → e.simTimestampNs ≤ sample.simTimestampNs) ∧
    ((c.acceptPayloadEvent sample).diagnostic = none → c.acceptPayloadEvent sample =
      { c with payloadEvents := c.payloadEvents ++ [sample] }) := by
  have hmarker : (!markers.contains sample.arucoId) = false := by
    rw [List.contains_iff_mem.mpr hmarker]
    rfl
  unfold acceptPayloadEvent
  rw [if_neg (not_not.mpr hrun), hmarker, if_neg Bool.false_ne_true]
  cases hlast : c.payloadEvents.getLast? with
  | none =>
    have hempty : c.payloadEvents = [] := List.getLast?_eq_none_iff.mp hlast
    have hzero : ¬ sample.eventId ≠ 0 := by
      rw [hid, hempty]
      exact not_not.mpr rfl
    dsimp only
    rw [if_neg hzero]
    exact ⟨⟨fun _ e he => (Option.some_ne_none e he.symm).elim, fun _ => hnone⟩, fun _ => rfl⟩
  | some previous =>
    have hnext : ¬ sample.eventId ≠ previous.eventId + 1 := by
      rw [hid, hids previous hlast]
      exact not_not.mpr rfl
    dsimp only
    rw [if_neg hnext]
    by_cases hfall : sample.simTimestampNs < previous.simTimestampNs
    · rw [if_pos hfall]
      have hfail : (c.fail "payload_event_timestamp_regression").diagnostic ≠ none :=
        Option.some_ne_none _
      refine ⟨⟨fun hok => absurd hok hfail, fun hle => ?_⟩, fun hok => absurd hok hfail⟩
      exact absurd (hle previous rfl) (by omega)
    · rw [if_neg hfall]
      refine ⟨⟨fun _ e he => ?_, fun _ => hnone⟩, fun _ => rfl⟩
      rw [← Option.some.inj he]
      omega

end CompetitionScorer

variable {events : List PayloadEventRecord}

theorem neverFalling_snoc {event : PayloadEventRecord} :
    NeverFalling (events ++ [event]) ↔ NeverFalling events ∧
      ∀ e, events.getLast? = some e → e.timestampNs ≤ event.timestampNs := by
  rw [NeverFalling, NeverFalling, List.map_append, List.isChain_append]
  refine and_congr_right fun _ => ?_
  simp only [List.map_singleton, List.isChain_singleton, List.getLast?_map, List.head?_cons,
    Option.mem_def, Option.some.injEq, forall_eq', true_and, Option.map_eq_some_iff,
    forall_exists_index, and_imp, forall_apply_eq_imp_iff₂]

/-- What the numbering says of a list of events. -/
structure Numbered (runId : String) (events : List PayloadEventRecord) : Prop where
  eventIds : events.map PayloadEventRecord.eventId = List.range events.length
  run : ∀ e ∈ events, e.runId = runId
  marker : ∀ e ∈ events, e.arucoId ∈ CompetitionScorer.markers

theorem Numbered.snoc {runId : String} {event : PayloadEventRecord}
    (h : Numbered runId (events ++ [event])) :
    Numbered runId events ∧ event.eventId = events.length := by
  have hids := h.eventIds
  have hold : events.map PayloadEventRecord.eventId = List.range events.length :=
    GatewaySystem.map_eq_range hids
  refine ⟨⟨hold, fun e he => h.run e (List.mem_append_left _ he),
    fun e he => h.marker e (List.mem_append_left _ he)⟩, ?_⟩
  rw [List.map_append, hold, List.length_append, List.length_singleton, List.range_succ] at hids
  exact List.singleton_inj.mp (List.append_cancel_left hids)

theorem Numbered.last {runId : String} (h : Numbered runId events) {e : PayloadEventRecord}
    (he : events.getLast? = some e) : e.eventId + 1 = events.length := by
  obtain ⟨init, rfl⟩ : ∃ init, events = init ++ [e] :=
    ⟨_, (List.dropLast_append_getLast? e he).symm⟩
  rw [h.snoc.2, List.length_append, List.length_singleton]

/-- **Numbered events of the markers are taken iff their times never fall.** -/
theorem scored_spec {runId : String} (rules : CompetitionRules) (h : Numbered runId events) :
    ((scored runId rules events).diagnostic = none ↔ NeverFalling events) ∧
      ((scored runId rules events).diagnostic = none → Scorable runId rules events) := by
  induction events using List.reverseRecOn with
  | nil => exact ⟨⟨fun _ => .nil, fun _ => rfl⟩, fun _ => rfl⟩
  | append_singleton events event ih =>
    obtain ⟨hnumbered, hid⟩ := h.snoc
    obtain ⟨hiff, htaken⟩ := ih hnumbered
    have hstep : scored runId rules (events ++ [event]) =
        (scored runId rules events).acceptPayloadEvent event.sample := by
      rw [scored, List.map_append, List.foldl_append]
      rfl
    rw [hstep, neverFalling_snoc]
    by_cases hnone : (scored runId rules events).diagnostic = none
    · have hc := htaken hnone
      have hlast : ∀ e, ((events.map PayloadEventRecord.sample).getLast? = some e ↔
          ∃ e', events.getLast? = some e' ∧ e'.sample = e) := fun e => by
        rw [List.getLast?_map, Option.map_eq_some_iff]
      obtain ⟨hnext, hstate⟩ := CompetitionScorer.acceptPayloadEvent_iff
        (c := scored runId rules events) event.sample
        (by rw [hc]; exact h.run event (by simp)) (h.marker event (by simp)) hnone
        (by rw [hc, List.length_map]; exact hid)
        (by
          rw [hc]
          intro e he
          obtain ⟨e', he', rfl⟩ := (hlast e).mp he
          rw [List.length_map]
          exact hnumbered.last he')
      refine ⟨?_, fun hok => ?_⟩
      · rw [hnext, hc, and_iff_right (hiff.mp hnone)]
        constructor
        · exact fun hle e he => hle e.sample ((hlast _).mpr ⟨e, he, rfl⟩)
        · intro hle e he
          obtain ⟨e', he', rfl⟩ := (hlast e).mp he
          exact hle e' he'
      · rw [Scorable, hstep, hstate hok, hc, List.map_append]
        rfl
    · have hkept := CompetitionScorer.acceptPayloadEvent_diagnostic event.sample hnone
      exact ⟨⟨fun hok => absurd hok hkept, fun hle => absurd (hiff.mpr hle.1) hnone⟩,
        fun hok => absurd hok hkept⟩

theorem scorable_iff_neverFalling {runId : String} (rules : CompetitionRules)
    (h : Numbered runId events) : Scorable runId rules events ↔ NeverFalling events := by
  obtain ⟨hiff, htaken⟩ := scored_spec rules h
  refine ⟨fun hs => hiff.mp ?_, fun hle => htaken (hiff.mpr hle)⟩
  rw [hs]
  rfl

/-! ## 2. The times of a run's events -/

/-- One effect, on the newest vehicle time and the confirmations so far. -/
def confirm (r : ℕ × List (ℕ × ℕ)) : GatewayEffect → ℕ × List (ℕ × ℕ)
  | .vehicle fact => (fact.timestampNs, r.2)
  | .flag _ fact => (r.1, r.2 ++ [(r.1, fact.timestampNs)])
  | _ => r

/-- **The confirmations of a log**: for each accepted command, the times of the newest sample of the
    vehicle and of the command's payload when it was confirmed. -/
def confirmations (log : List GatewayEffect) : List (ℕ × ℕ) := (log.foldl confirm (0, [])).2

/-- The payload of a confirmation was not ahead of both the vehicle and the payload of the next
    one. -/
def NotAhead (p q : ℕ × ℕ) : Prop := p.2 ≤ max q.1 q.2

instance (p q : ℕ × ℕ) : Decidable (NotAhead p q) := inferInstanceAs (Decidable (_ ≤ _))

namespace GatewaySystem

open PayloadGateway

variable {a : PayloadAuthority} {log effects : List GatewayEffect} {g g' : PayloadGateway}
  {e e' : Option Executing} {m : Move} {request : PayloadRequest} {physical : PhysicalResult}

/-- The newest vehicle time. -/
def vehicleTime (g : PayloadGateway) : ℕ := (g.vehicle.map VehicleFact.timestampNs).getD 0

/-- **Events and confirmations of a run.** -/
structure Stamped (a : PayloadAuthority) (log : List GatewayEffect) (g : PayloadGateway)
    (e : Option Executing) : Prop where
  newest : (log.foldl confirm (0, [])).1 = vehicleTime g
  times : (eventsOf log ++ heldEvents e).map PayloadEventRecord.timestampNs =
    (confirmations log).map fun p => max p.1 p.2
  vehicles : (confirmations log ++ [(vehicleTime g, 0)]).IsChain
    fun (p q : ℕ × ℕ) => p.1 ≤ q.1
  known : ∀ m, (g.payloads.get m).isSome = true → m ∈ markers
  events : ∀ event ∈ eventsOf log ++ heldEvents e, event.runId = a.runId ∧
    event.arucoId ∈ markers

theorem Stamped.start : Stamped a [] .initial none where
  newest := rfl
  times := rfl
  vehicles := .singleton _
  known := by nofun
  events := by nofun

theorem confirm_foldl (log effects : List GatewayEffect) :
    (log ++ effects).foldl confirm (0, []) = effects.foldl confirm (log.foldl confirm (0, [])) :=
  List.foldl_append ..

/-- A move that shows no fact and makes no event. -/
theorem Stamped.quiet (h : Stamped a log g e) (hconfirm : ∀ r, effects.foldl confirm r = r)
    (hvehicle : g'.vehicle = g.vehicle) (hpayloads : g'.payloads = g.payloads)
    (hevents : eventsOf effects ++ heldEvents e' = heldEvents e) :
    Stamped a (log ++ effects) g' e' := by
  have hfold : (log ++ effects).foldl confirm (0, []) = log.foldl confirm (0, []) := by
    rw [confirm_foldl, hconfirm]
  have htime : vehicleTime g' = vehicleTime g := by rw [vehicleTime, vehicleTime, hvehicle]
  have hlist : eventsOf (log ++ effects) ++ heldEvents e' = eventsOf log ++ heldEvents e := by
    rw [eventsOf_append, List.append_assoc, hevents]
  refine ⟨?_, ?_, ?_, ?_, ?_⟩
  · rw [hfold, htime]
    exact h.newest
  · rw [hlist, confirmations, hfold]
    exact h.times
  · rw [htime, confirmations, hfold]
    exact h.vehicles
  · rw [hpayloads]
    exact h.known
  · rw [hlist]
    exact h.events

theorem Stamped.sawVehicle (h : Stamped a log g e) {fact : VehicleFact}
    (hnew : ∀ v, g.vehicle = some v → v.timestampNs < fact.timestampNs) :
    Stamped a (log ++ [GatewayEffect.vehicle fact]) (g.sawVehicle fact) e := by
  have hsame : confirmations (log ++ [GatewayEffect.vehicle fact]) = confirmations log := by
    rw [confirmations, confirm_foldl]
    rfl
  have hle : vehicleTime g ≤ fact.timestampNs := by
    unfold vehicleTime
    cases hv : g.vehicle with
    | none => exact Nat.zero_le _
    | some v => exact Nat.le_of_lt (hnew v hv)
  have hevents : eventsOf (log ++ [GatewayEffect.vehicle fact]) = eventsOf log := by
    rw [eventsOf_append]
    exact List.append_nil _
  refine ⟨?_, ?_, ?_, h.known, ?_⟩
  · rw [confirm_foldl]
    rfl
  · rw [hevents, hsame]
    exact h.times
  · rw [hsame]
    have hchain := List.isChain_append.mp h.vehicles
    refine List.isChain_append.mpr ⟨hchain.1, .singleton _, fun p hp q hq => ?_⟩
    obtain rfl := Option.some.inj hq
    exact Nat.le_trans (hchain.2.2 p hp _ rfl) hle
  · rw [hevents]
    exact h.events

theorem Stamped.recorded (h : Stamped a log g (some (.confirming request physical)))
    {fact : PayloadFact} (hget : g.payloads.get request.arucoId = some fact) :
    Stamped a (log ++ [GatewayEffect.flag request.arucoId (flagged fact request)]) (g.written request fact)
      (some (.recorded request (g.eventRecord a request physical fact) physical.state)) := by
  have hfold : (log ++ [GatewayEffect.flag request.arucoId (flagged fact request)]).foldl confirm (0, []) =
      (vehicleTime g, confirmations log ++ [(vehicleTime g, fact.timestampNs)]) := by
    rw [confirm_foldl, ← h.newest]
    rfl
  have hconfirmations : confirmations (log ++ [GatewayEffect.flag request.arucoId (flagged fact request)]) =
      confirmations log ++ [(vehicleTime g, fact.timestampNs)] := by rw [confirmations, hfold]
  have hevents : eventsOf (log ++ [GatewayEffect.flag request.arucoId (flagged fact request)]) =
      eventsOf log := by
    rw [eventsOf_append]
    exact List.append_nil _
  have hold : eventsOf log ++ heldEvents (some (.confirming request physical)) = eventsOf log :=
    List.append_nil _
  have htimes := h.times
  have hknown := h.events
  rw [hold] at htimes hknown
  refine ⟨?_, ?_, ?_, fun m hm => ?_, fun event hmem => ?_⟩
  · rw [hfold]
    rfl
  · rw [hevents, List.map_append, htimes, hconfirmations, List.map_append]
    rfl
  · rw [hconfirmations]
    refine List.isChain_append.mpr ⟨?_, .singleton _, fun p hp q hq => ?_⟩
    · have hchain := List.isChain_append.mp h.vehicles
      exact List.isChain_append.mpr ⟨hchain.1, .singleton _, fun p hp q hq => by
        obtain rfl := Option.some.inj hq
        exact hchain.2.2 p hp (vehicleTime g, 0) rfl⟩
    · rw [List.getLast?_concat] at hp
      obtain rfl := Option.some.inj hp
      obtain rfl := Option.some.inj hq
      exact Nat.le_refl _
  · have hm : ((g.payloads.set request.arucoId (flagged fact request)).get m).isSome = true := hm
    rw [Dict.get_set] at hm
    split at hm
    · rename_i heq
      rw [heq]
      exact h.known _ (by rw [hget]; rfl)
    · exact h.known m hm
  · rw [hevents] at hmem
    rcases List.mem_append.mp hmem with hmem | hmem
    · exact hknown event hmem
    · rw [List.mem_singleton.mp hmem]
      exact ⟨rfl, h.known _ (by rw [PayloadGateway.eventRecord, hget]; rfl)⟩

theorem Stamped.went (h : Stamped a log g e) (hw : Went a g e m g' e' effects) :
    Stamped a (log ++ effects) g' e' := by
  cases hw with
  | vehicle runId fact hnew => exact h.sawVehicle hnew
  | recorded request physical fact hget => exact h.recorded hget
  | payload runId marker fact hmarker hnew =>
    have hq : Stamped a (log ++ [GatewayEffect.payload marker fact]) g e := h.quiet (fun _ => rfl) rfl rfl rfl
    refine ⟨hq.newest, hq.times, hq.vehicles, fun m hm => ?_, hq.events⟩
    have hm : ((g.payloads.set marker fact).get m).isSome = true := hm
    rw [Dict.get_set] at hm
    split at hm
    · rename_i heq
      rw [heq]
      exact hmarker
    · exact h.known m hm
  | _ => exact h.quiet (fun _ => rfl) rfl rfl rfl

theorem stamped_run {ms : List Move} {s : GatewaySystem}
    (h : Run (Steps (step a)) initial ms log s) : Stamped a log s.gateway s.executing := by
  induction h with
  | start => exact .start
  | step _ hs ih => exact ih.went (step_went hs)

/-! ## 3. The result -/

/-- Two chains along a third that makes their relations the same. -/
theorem isChain_congr {α : Type} {R S T : α → α → Prop} {l : List α} (h : l.IsChain S)
    (hiff : ∀ x y, S x y → (R x y ↔ T x y)) : l.IsChain R ↔ l.IsChain T := by
  induction h with
  | nil => exact ⟨fun _ => .nil, fun _ => .nil⟩
  | singleton => exact ⟨fun _ => .singleton _, fun _ => .singleton _⟩
  | cons_cons hxy _ ih => rw [List.isChain_cons_cons, List.isChain_cons_cons, ih, hiff _ _ hxy]

/-- The events' times fall nowhere iff no payload was ahead. -/
theorem Stamped.neverFalling_iff (h : Stamped a log g e) : NeverFalling (eventsOf log) ↔
    ((confirmations log).take (eventsOf log).length).IsChain NotAhead := by
  have htimes : (eventsOf log).map PayloadEventRecord.timestampNs =
      ((confirmations log).take (eventsOf log).length).map fun p => max p.1 p.2 := by
    rw [List.map_take, ← h.times, List.map_append, List.take_left' (List.length_map _)]
  have hvehicles : ((confirmations log).take (eventsOf log).length).IsChain
      fun (p q : ℕ × ℕ) => p.1 ≤ q.1 :=
    (List.isChain_append.mp h.vehicles).1.take _
  rw [NeverFalling, htimes, List.isChain_map]
  refine isChain_congr hvehicles fun p q hle => ?_
  unfold NotAhead
  omega

/-- Payload 2 is released while its stream is ahead of the others', and payload 3 attached on the
    samples of the time before. -/
def fallingMoves : List Move :=
  standing 80 (some 2) ++ commandMoves ⟨"run", 2, "release", "c1"⟩ ++
    [GatewaySystem.Move.payload "run" 90 2 (0, 0) true false, .payload "run" 100 2 (0, 0) true false] ++
    confirmMoves 2 "payload-result-v1|c1|confirmed|detached|OK" ++
    [GatewaySystem.Move.vehicle "run" 90 (0, 0) true, .payload "run" 90 3 (0, 0) true false,
      .payload "run" 90 4 (0, 0) true false] ++
    commandMoves ⟨"run", 3, "attach", "c2"⟩ ++
    confirmMoves 3 "payload-result-v1|c2|confirmed|attached|OK"

end GatewaySystem

end DroneSim
