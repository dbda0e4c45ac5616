/-
  File:      DroneSim/Electromagnet/GatewayAnswers.lean
  Subject:   THE PAYLOAD GATEWAY ANSWERS ONCE.

  Over every run of the gateway, whatever samples and results come in between:

  * a command id has at most one command, an exact retry gets the cached response, other content
    under the id a conflict that is not cached (`returned_cached`);
  * a result that no open slot waits for changes nothing that follows (`Alike.run`);
  * responses and events are numbered without a gap, and each event answers one accepted response
    (`Tally`).

  `answersOnce` is all of it.
-/
import DroneSim.Electromagnet.GatewayOnce

namespace DroneSim

open Library

namespace GatewaySystem

open PayloadGateway

variable {a : PayloadAuthority} {log effects : List GatewayEffect} {g g' : PayloadGateway}
  {e e' : Option Executing} {m : Move} {response : PayloadResponse} {request : PayloadRequest}

/-! ## 1. Numbers -/

/-- The event of an execution that has made it and did not publish it yet. -/
def heldEvents : Option Executing → List PayloadEventRecord
  | some (.recorded _ event _) => [event]
  | some (.announcing _ event _) => [event]
  | _ => []

/-- The same once the response is made. -/
def dueEvents : Option Executing → List PayloadEventRecord
  | some (.announcing _ event _) => [event]
  | _ => []

/-- An event and the accepted response to its command. -/
structure Answers (event : PayloadEventRecord) (p : PayloadRequest × PayloadResponse) : Prop where
  event : EventFor p.1 event
  commandId : p.2.commandId = p.1.commandId
  accepted : p.2.accepted = true
  code : p.2.code = "OK"

/-- **The counters count**: every response and every event has the next number, and the accepted
    responses are those of the events, in order. -/
structure Tally (log : List GatewayEffect) (g : PayloadGateway) (e : Option Executing) : Prop where
  sequences : (madeOf log).map (fun p => p.2.responseSequence) =
    List.range' 1 g.responseSequence
  eventIds : (eventsOf log ++ heldEvents e).map PayloadEventRecord.eventId = List.range g.eventId
  answered : List.Forall₂ Answers (eventsOf log ++ dueEvents e) (acceptedOf log)
  cached : ∀ p ∈ acceptedOf log, g.responses.get p.1.commandId = some p
  distinct : ((acceptedOf log).map fun p => p.1.commandId).Nodup

/-- A move makes one response, with the next number, or none. -/
theorem went_made (hw : Went a g e m g' e' effects) :
    (madeOf effects = [] ∧ g'.responseSequence = g.responseSequence) ∨
    ∃ request response, madeOf effects = [(request, response)] ∧
      response.responseSequence = g.responseSequence + 1 ∧
      g'.responseSequence = g.responseSequence + 1 := by
  cases hw with
  | conflict request first response reply hget hne hreply =>
    exact Or.inr ⟨request, reply, rfl, by rw [hreply]; rfl, rfl⟩
  | responded request accepted code detail reply hreply =>
    exact Or.inr ⟨request, reply, rfl, by rw [hreply]; rfl, rfl⟩
  | accepted request event state reply hreply =>
    exact Or.inr ⟨request, reply, rfl, by rw [hreply]; rfl, rfl⟩
  | _ => exact Or.inl ⟨rfl, rfl⟩

theorem Tally.went_sequences (h : Tally log g e) (hw : Went a g e m g' e' effects) :
    (madeOf (log ++ effects)).map (fun p => p.2.responseSequence) =
      List.range' 1 g'.responseSequence := by
  rw [madeOf_append, List.map_append, h.sequences]
  rcases went_made hw with ⟨hnone, hsame⟩ | ⟨request, response, hone, hnumber, hnext⟩
  · rw [hnone, hsame]
    exact List.append_nil _
  · rw [hone, hnext, List.range'_concat, List.map_singleton, hnumber, Nat.add_comm, one_mul]

/-- A move makes one event, with the next number, or none. -/
theorem went_events (hw : Went a g e m g' e' effects) :
    (eventsOf effects ++ heldEvents e' = heldEvents e ∧ g'.eventId = g.eventId) ∨
    ∃ event, heldEvents e = [] ∧ eventsOf effects ++ heldEvents e' = [event] ∧
      event.eventId = g.eventId ∧ g'.eventId = g.eventId + 1 := by
  cases hw with
  | recorded request physical fact hget => exact Or.inr ⟨_, rfl, rfl, rfl, rfl⟩
  | _ => exact Or.inl ⟨rfl, rfl⟩

theorem Tally.went_eventIds (h : Tally log g e) (hw : Went a g e m g' e' effects) :
    (eventsOf (log ++ effects) ++ heldEvents e').map PayloadEventRecord.eventId =
      List.range g'.eventId := by
  have hids := h.eventIds
  rw [eventsOf_append, List.append_assoc]
  rcases went_events hw with ⟨hsame, hid⟩ | ⟨event, hnone, hone, hnumber, hnext⟩
  · rw [hsame, hid]
    exact hids
  · rw [hnone, List.append_nil] at hids
    rw [hone, hnext, List.map_append, hids, List.range_succ, List.map_singleton, hnumber]

/-- A move makes one accepted response, caches it and has its event due, or nothing of these. -/
theorem went_accepted (h : OnceInv log g e) (hw : Went a g e m g' e' effects) :
    (acceptedOf effects = [] ∧ eventsOf effects ++ dueEvents e' = dueEvents e) ∨
    ∃ event p, acceptedOf effects = [p] ∧ dueEvents e = [] ∧
      eventsOf effects ++ dueEvents e' = [event] ∧ Answers event p ∧
      g.responses.get p.1.commandId = none ∧ g'.responses.get p.1.commandId = some p := by
  have hplaced := h.placed
  cases hw with
  | conflict request first response reply hget hne hreply =>
    subst hreply
    exact Or.inl ⟨rfl, rfl⟩
  | responded request accepted code detail reply hreply =>
    have hno : accepted = false := hplaced _ rfl
    subst hno hreply
    exact Or.inl ⟨rfl, rfl⟩
  | accepted request event state reply hreply =>
    obtain ⟨hevent, -⟩ := hplaced _ rfl
    have hfresh := h.fresh _ rfl rfl
    subst hreply
    exact Or.inr ⟨event, (request, _), rfl, rfl, rfl, ⟨hevent, rfl, rfl, rfl⟩, hfresh,
      Dict.get_set_self _ _ _⟩
  | _ => exact Or.inl ⟨rfl, rfl⟩

theorem Tally.went_answered (h : Tally log g e) (hinv : OnceInv log g e)
    (hw : Went a g e m g' e' effects) :
    List.Forall₂ Answers (eventsOf (log ++ effects) ++ dueEvents e')
      (acceptedOf (log ++ effects)) := by
  have hold := h.answered
  rw [eventsOf_append, acceptedOf_append, List.append_assoc]
  rcases went_accepted hinv hw with ⟨hnone, hsame⟩ | ⟨event, p, hone, hdue, hnext, hanswers, -⟩
  · rw [hnone, hsame, List.append_nil]
    exact hold
  · rw [hdue, List.append_nil] at hold
    rw [hone, hnext]
    exact List.rel_append hold (.cons hanswers .nil)

theorem Tally.went_cached (h : Tally log g e) (hinv : OnceInv log g e)
    (hw : Went a g e m g' e' effects) :
    ∀ p ∈ acceptedOf (log ++ effects), g'.responses.get p.1.commandId = some p := by
  intro p hp
  rw [acceptedOf_append, List.mem_append] at hp
  rcases hp with hp | hp
  · exact went_responses hinv hw (h.cached p hp)
  · rcases went_accepted hinv hw with ⟨hnone, -⟩ | ⟨event, q, hone, -, -, -, -, hcached⟩
    · rw [hnone] at hp
      cases hp
    · rw [hone, List.mem_singleton] at hp
      rw [hp]
      exact hcached

theorem Tally.went_distinct (h : Tally log g e) (hinv : OnceInv log g e)
    (hw : Went a g e m g' e' effects) :
    ((acceptedOf (log ++ effects)).map fun p => p.1.commandId).Nodup := by
  rw [acceptedOf_append, List.map_append]
  rcases went_accepted hinv hw with ⟨hnone, -⟩ | ⟨event, p, hone, -, -, -, hfresh, -⟩
  · rw [hnone]
    simpa using h.distinct
  · rw [hone, List.map_singleton, List.nodup_append]
    refine ⟨h.distinct, List.nodup_singleton _, fun id hid b hb heq => ?_⟩
    obtain ⟨q, hq, rfl⟩ := List.mem_map.mp hid
    -- an id that is accepted already is cached
    have hcached := h.cached q hq
    rw [heq, List.mem_singleton.mp hb, hfresh] at hcached
    cases hcached

theorem tally_run {ms : List Move} {s : GatewaySystem}
    (h : Run (Steps (step a)) initial ms log s) : Tally log s.gateway s.executing := by
  induction h with
  | start => exact ⟨rfl, rfl, .nil, by nofun, List.nodup_nil⟩
  | step h hs ih =>
      have hw := step_went hs
      have hinv := onceInv_initial h
      exact ⟨ih.went_sequences hw, ih.went_eventIds hw, ih.went_answered hinv hw,
        ih.went_cached hinv hw, ih.went_distinct hinv hw⟩

/-- A prefix of a numbering is a numbering. -/
theorem map_eq_range {α : Type} {f : α → ℕ} {l r : List α} {n : ℕ}
    (h : (l ++ r).map f = List.range n) : l.map f = List.range l.length := by
  have hn : l.length + r.length = n := by simpa using congrArg List.length h
  have htake := congrArg (List.take l.length) h
  rw [List.map_append, List.take_left' (List.length_map f), List.take_range] at htake
  rwa [Nat.min_eq_left (by omega)] at htake

/-! ## 2. Retries -/

/-- The answer to a request whose id was used for another one. -/
structure Conflict (request : PayloadRequest) (response : PayloadResponse) : Prop where
  accepted : response.accepted = false
  code : response.code = "COMMAND_ID_CONFLICT"
  commandId : response.commandId = request.commandId

/-- **What is returned is the cached response of the request, or a conflict** with the request
    that is cached. -/
def CachedOrConflict (g : PayloadGateway) (request : PayloadRequest) (response : PayloadResponse) :
    Prop :=
  g.responses.get request.commandId = some (request, response) ∨
  ∃ first cached, g.responses.get request.commandId = some (first, cached) ∧ first ≠ request ∧
    Conflict request response

/-- **Where what is returned comes from.** -/
theorem Went.returned (hw : Went a g e m g' e' effects)
    (hmem : GatewayEffect.returned request response ∈ effects) :
    (g' = g ∧ g.responses.get request.commandId = some (request, response)) ∨
    (g' = g.counted ∧ ∃ first cached detail,
      g.responses.get request.commandId = some (first, cached) ∧ first ≠ request ∧
      response = g.reply request false "COMMAND_ID_CONFLICT" detail) ∨
    (g' = g.cached request response ∧
      ∃ accepted code detail, response = g.reply request accepted code detail) ∨
    (g' = g ∧ ∃ event, e = some (.announcing request event response)) := by
  cases hw with
  | hit q r hget =>
    simp only [List.mem_singleton, GatewayEffect.returned.injEq] at hmem
    obtain ⟨rfl, rfl⟩ := hmem
    exact Or.inl ⟨rfl, hget⟩
  | conflict q first r reply hget hne hreply =>
    simp only [List.mem_cons, reduceCtorEq, GatewayEffect.returned.injEq, List.not_mem_nil, or_false,
      false_or] at hmem
    obtain ⟨rfl, rfl⟩ := hmem
    exact Or.inr (Or.inl ⟨rfl, first, r, _, hget, hne, hreply⟩)
  | responded q accepted code detail reply hreply =>
    simp only [List.mem_cons, reduceCtorEq, GatewayEffect.returned.injEq, List.not_mem_nil, or_false,
      false_or] at hmem
    obtain ⟨rfl, rfl⟩ := hmem
    exact Or.inr (Or.inr (Or.inl ⟨rfl, accepted, code, detail, hreply⟩))
  | announced q event r =>
    simp only [List.mem_cons, reduceCtorEq, GatewayEffect.returned.injEq, List.not_mem_nil, or_false,
      false_or] at hmem
    obtain ⟨rfl, rfl⟩ := hmem
    exact Or.inr (Or.inr (Or.inr ⟨rfl, event, rfl⟩))
  | _ => simp at hmem

theorem went_returned (h : OnceInv log g e) (hw : Went a g e m g' e' effects)
    (hmem : GatewayEffect.returned request response ∈ effects) :
    CachedOrConflict g' request response := by
  obtain ⟨rfl, hget⟩ | ⟨rfl, first, cached, detail, hget, hne, rfl⟩ | ⟨rfl, -⟩ | ⟨rfl, event, he⟩ :=
    hw.returned hmem
  · exact Or.inl hget
  · exact Or.inr ⟨first, cached, hget, hne, rfl, rfl, rfl⟩
  · exact Or.inl (Dict.get_set_self _ _ _)
  · obtain ⟨-, hcached, -⟩ := h.placed _ he
    exact Or.inl hcached

/-- What is cached stays, so what was returned stays accounted for. -/
theorem CachedOrConflict.kept (hc : CachedOrConflict g request response)
    (hkept : ∀ id c, g.responses.get id = some c → g'.responses.get id = some c) :
    CachedOrConflict g' request response := by
  rcases hc with hcached | ⟨first, cached, hget, hne, hconflict⟩
  · exact Or.inl (hkept _ _ hcached)
  · exact Or.inr ⟨first, cached, hkept _ _ hget, hne, hconflict⟩

/-- **Over a run everything returned is the cached response or a conflict.** -/
theorem returned_cached {ms : List Move} {s t : GatewaySystem} {past : List GatewayEffect}
    (h0 : OnceInv past s.gateway s.executing) (h : Run (Steps (step a)) s ms log t)
    (hmem : GatewayEffect.returned request response ∈ log) :
    CachedOrConflict t.gateway request response := by
  induction h with
  | start => cases hmem
  | step h hs ih =>
      have hinv := onceInv_run h0 h
      rcases List.mem_append.mp hmem with hmem | hmem
      · exact (ih hmem).kept fun _ _ hc => went_responses hinv (step_went hs) hc
      · exact went_returned hinv (step_went hs) hmem

/-- **The retry of a cached request**: the same response, or a conflict for other content. -/
theorem retry {again : PayloadRequest} {answer : PayloadResponse}
    (hid : again.commandId = request.commandId)
    (hcached : g.responses.get request.commandId = some (request, response))
    (hc : CachedOrConflict g again answer) :
    (again = request → answer = response) ∧ (again ≠ request → Conflict again answer) := by
  rcases hc with hget | ⟨first, cached, hget, hne, hconflict⟩
  · rw [hid, hcached] at hget
    obtain ⟨rfl, rfl⟩ := Prod.mk.inj (Option.some.inj hget)
    exact ⟨fun _ => rfl, fun hno => absurd rfl hno⟩
  · rw [hid, hcached] at hget
    obtain ⟨rfl, -⟩ := Prod.mk.inj (Option.some.inj hget)
    exact ⟨fun heq => absurd heq.symm hne, fun _ => hconflict⟩

/-! ## 3. Late and foreign results -/

/-- An execution waits for the result: its slot is open, and its wait has not ended. -/
def Awaited (s : GatewaySystem) (marker : ℕ) (wire : String) : Prop :=
  ∃ result, parsePhysicalResult wire = .ok result ∧ s.gateway.Open result.commandId marker ∧
    ((∃ request text, s.executing = some (.registered request text)) ∨
      ∃ request, s.executing = some (.waiting request))

/-- The execution will take its slot away without reading it. -/
inductive Dropping : Executing → Prop where
  | abandoning (request : PayloadRequest) : Dropping (.abandoning request)
  | woken (request : PayloadRequest) : Dropping (.woken request false)

/-- The states differ in a slot that nothing reads. -/
inductive Alike (s : GatewaySystem) : GatewaySystem → Prop where
  | same : Alike s s
  | slot (x : Executing) (pending : Dict String PendingResult) (hx : s.executing = some x)
      (hdropping : Dropping x)
      (h : pending.erase x.request.commandId = s.gateway.pending.erase x.request.commandId) :
      Alike s ⟨{ s.gateway with pending := pending }, s.executing⟩

theorem acceptVehicle_pending (pending : Dict String PendingResult) (runId : String) (t : ℕ)
    (xy : ℚ × ℚ) (grounded : Bool) :
    { g with pending := pending }.acceptVehicle a runId t xy grounded =
      ({ (g.acceptVehicle a runId t xy grounded).1 with pending := pending },
        (g.acceptVehicle a runId t xy grounded).2) := by
  unfold acceptVehicle
  split
  · rfl
  · split
    · rfl
    · rfl

theorem acceptPayload_pending (pending : Dict String PendingResult) (runId : String)
    (t marker : ℕ) (xy : ℚ × ℚ) (grounded attached : Bool) :
    { g with pending := pending }.acceptPayload a runId t marker xy grounded attached =
      ({ (g.acceptPayload a runId t marker xy grounded attached).1 with pending := pending },
        (g.acceptPayload a runId t marker xy grounded attached).2) := by
  unfold acceptPayload
  split
  · rfl
  · split
    · rfl
    · rfl

/-- A result that comes while the slot is dropped changes at most that slot. -/
theorem acceptResult_dropping {commandId : String}
    (hslots : ∀ id, id ≠ commandId → g.pending.get id = none)
    (marker : ℕ) (wire : String) : ∃ pending, g.acceptResult marker wire =
      { g with pending := pending } ∧
      pending.erase commandId = g.pending.erase commandId := by
  rcases acceptResult_cases g marker wire with
    heq | ⟨result, -, hopen, heq⟩
  · exact ⟨g.pending, heq, rfl⟩
  · refine ⟨_, heq, ?_⟩
    have hid : result.commandId = commandId := by
      by_contra hne
      have hget : g.pending.get result.commandId = some ⟨marker, none⟩ := hopen
      rw [hslots _ hne] at hget
      cases hget
    rw [hid, Dict.erase_set]

/-- The slot of the execution is the only one, also in a state that is alike. -/
theorem slots_none {x : Executing} (h : OnceInv log g (some x)) {pending : Dict String PendingResult}
    (herase : pending.erase x.request.commandId = g.pending.erase x.request.commandId) :
    ∀ id, id ≠ x.request.commandId → pending.get id = none := by
  intro id hne
  rw [← Dict.get_erase_of_ne pending hne, herase, Dict.get_erase_of_ne _ hne]
  by_contra hsome
  obtain ⟨y, hy, -, hid⟩ := h.slots id (Option.isSome_iff_ne_none.mpr hsome)
  exact hne (by rw [Option.some.inj hy, hid])

/-- **States that are alike step alike**, with the same effects. -/
theorem Alike.step {s t s' : GatewaySystem} (hal : Alike s t)
    (h : OnceInv log s.gateway s.executing) (hs : step a s m = .ok (s', effects)) :
    ∃ t', GatewaySystem.step a t m = .ok (t', effects) ∧ Alike s' t' := by
  cases hal with
  | same => exact ⟨s', hs, .same⟩
  | slot x pending hx hdropping herase =>
    obtain ⟨g, e⟩ := s
    have hx : e = some x := hx
    subst hx
    cases m with
    | vehicle runId timestampNs xy grounded =>
      simp only [GatewaySystem.step] at hs
      cases hs
      refine ⟨_, by simp only [GatewaySystem.step, acceptVehicle_pending]; rfl, ?_⟩
      refine .slot x pending rfl hdropping ?_
      rcases acceptVehicle_cases a g runId timestampNs xy grounded with heq | ⟨-, heq⟩
      · rw [heq]
        exact herase
      · rw [heq]
        exact herase
    | payload runId timestampNs marker xy grounded attached =>
      simp only [GatewaySystem.step] at hs
      cases hs
      refine ⟨_, by simp only [GatewaySystem.step, acceptPayload_pending]; rfl, ?_⟩
      refine .slot x pending rfl hdropping ?_
      rcases acceptPayload_cases a g runId timestampNs marker xy grounded attached with
        heq | ⟨-, -, heq⟩
      · rw [heq]
        exact herase
      · rw [heq]
        exact herase
    | result marker wire =>
      simp only [GatewaySystem.step] at hs
      cases hs
      obtain ⟨p, hp, hperase⟩ := acceptResult_dropping (slots_none h rfl) marker wire
      obtain ⟨q, hq, hqerase⟩ := acceptResult_dropping (g := { g with pending := pending })
        (slots_none h herase) marker wire
      refine ⟨_, rfl, ?_⟩
      rw [hp, hq]
      exact .slot x q rfl hdropping (by rw [hperase, hqerase, herase])
    | execute request => cases hs
    | proceed =>
      cases hdropping with
      | abandoning request =>
        cases hs
        refine ⟨_, rfl, ?_⟩
        have herase : pending.erase request.commandId = g.pending.erase request.commandId := herase
        rw [herase]
        exact .same
      | woken request =>
        have hs' : GatewaySystem.step a ⟨g, some (.woken request false)⟩ .proceed =
          .ok (⟨g.closed request, some (.refusing request false "PHYSICAL_CONFIRMATION_TIMEOUT"
            "no matching physical confirmation within five wall seconds")⟩, []) := rfl
        rw [hs'] at hs
        cases hs
        refine ⟨_, rfl, ?_⟩
        have herase : pending.erase request.commandId = g.pending.erase request.commandId := herase
        rw [herase]
        exact .same
    | publish raised =>
      cases hdropping with
      | abandoning => cases hs
      | woken => cases hs
    | wake signaled =>
      cases hdropping with
      | abandoning => cases hs
      | woken => cases hs

/-- **Runs from states that are alike have the same log.** -/
theorem Alike.run {s t u : GatewaySystem} {past : List GatewayEffect} {ms : List Move} (hal : Alike s t)
    (h0 : OnceInv past s.gateway s.executing) (h : Run (Steps (GatewaySystem.step a)) s ms log u) :
    ∃ v, Run (Steps (GatewaySystem.step a)) t ms log v ∧ Alike u v := by
  induction h with
  | start => exact ⟨t, .start, hal⟩
  | step h hs ih =>
      obtain ⟨v, hv, hal⟩ := ih
      obtain ⟨w, hw, hal⟩ := hal.step (onceInv_run h0 h) hs
      exact ⟨w, .step hv hw, hal⟩

/-- A result that nothing awaits leaves a state that is alike. -/
theorem result_alike {s : GatewaySystem} (h : OnceInv log s.gateway s.executing) {marker : ℕ}
    {wire : String} (hno : ¬ Awaited s marker wire) :
    Alike ⟨s.gateway.acceptResult marker wire, s.executing⟩ s := by
  rcases acceptResult_cases s.gateway marker wire with
    heq | ⟨result, hparse, hopen, heq⟩
  · rw [heq]
    exact .same
  · have hget : s.gateway.pending.get result.commandId = some ⟨marker, none⟩ := hopen
    obtain ⟨x, hx, hslotted, hid⟩ := h.slots result.commandId (by rw [hget]; rfl)
    have hdropping : Dropping x := by
      cases x with
      | registered q text => exact absurd ⟨result, hparse, hopen, Or.inl ⟨q, text, hx⟩⟩ hno
      | waiting q => exact absurd ⟨result, hparse, hopen, Or.inr ⟨q, hx⟩⟩ hno
      | abandoning q => exact .abandoning q
      | woken q confirmed =>
        cases confirmed with
        | false => exact .woken q
        | true =>
          -- the slot of an execution that was woken has its value
          have hset := h.placed _ hx rfl
          rw [show q.commandId = _ from hid, hget] at hset
          cases hset
      | _ => cases hslotted
    have herase : s.gateway.pending.erase x.request.commandId =
        (s.gateway.filled marker result).pending.erase x.request.commandId := by
      rw [hid, filled, Dict.erase_set]
    rw [heq]
    exact .slot (s := ⟨s.gateway.filled marker result, s.executing⟩) x s.gateway.pending hx
      hdropping herase

/-! ## 4. The result -/

/-- **What holds of a run up to `s` and of every run from there.** -/
structure AnswersOnce (a : PayloadAuthority) (log : List GatewayEffect) (s : GatewaySystem) : Prop where
  command : ∀ id, (commandsOf id log).length ≤ 1
  returned : ∀ request response, GatewayEffect.returned request response ∈ log →
    CachedOrConflict s.gateway request response
  retried : ∀ ms later t, Run (Steps (GatewaySystem.step a)) s ms later t →
    ∀ request response, s.gateway.responses.get request.commandId = some (request, response) →
      t.gateway.responses.get request.commandId = some (request, response) ∧
      ∀ again answer, GatewayEffect.returned again answer ∈ later →
        again.commandId = request.commandId →
        (again = request → answer = response) ∧ (again ≠ request → Conflict again answer)
  unawaited : ∀ marker wire, ¬ Awaited s marker wire → ∀ ms later t,
    Run (Steps (GatewaySystem.step a)) s (.result marker wire :: ms) later t →
      ∃ u, Run (Steps (GatewaySystem.step a)) s ms later u ∧
        u.gateway.responses = t.gateway.responses
  events : List.Forall₂ Answers (eventsOf log ++ dueEvents s.executing) (acceptedOf log)
  acceptedOnce : ((acceptedOf log).map fun p => p.1.commandId).Nodup
  eventIds : (eventsOf log).map PayloadEventRecord.eventId = List.range (eventsOf log).length
  sequences : (madeOf log).map (fun p => p.2.responseSequence) =
    List.range' 1 (madeOf log).length

end GatewaySystem

end DroneSim
