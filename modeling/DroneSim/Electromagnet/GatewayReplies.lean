/-
  File:      DroneSim/Electromagnet/GatewayReplies.lean
  Subject:   What an answer of the gateway says to its client.

  * `returned_matches` -- an answer names the request's command id and has a positive number;
  * `stale_uncommanded` -- the gateway answers STALE_PHYSICAL_STATE before it decides anything. A
    refused command is answered with the coordinator's own code, so as long as no result that comes
    in has that code (`Unstale`), an answer with it is one to a request that never had a command.
-/
import DroneSim.Electromagnet.GatewayAnswers

namespace DroneSim

open Library

/-- `"STALE_PHYSICAL_STATE"`. -/
def staleCode : String := "STALE_PHYSICAL_STATE"

namespace GatewaySystem

open PayloadGateway

variable {a : PayloadAuthority} {log effects : List GatewayEffect} {g g' : PayloadGateway}
  {e e' : Option Executing} {m : Move} {request : PayloadRequest} {s : GatewaySystem}

/-! ## 1. Numbers and ids -/

/-- The response answers the request's id and has a number. -/
structure Matches (request : PayloadRequest) (response : PayloadResponse) : Prop where
  commandId : response.commandId = request.commandId
  numbered : 0 < response.responseSequence

/-- Every cached response matches the request it is cached with, and so does the one that is due. -/
structure MatchInv (g : PayloadGateway) (e : Option Executing) : Prop where
  cached : ∀ id c, g.responses.get id = some c → Matches c.1 c.2
  due : ∀ request event response, e = some (.announcing request event response) →
    Matches request response

theorem MatchInv.went (h : MatchInv g e) (hw : Went a g e m g' e' effects) : MatchInv g' e' := by
  have hset : ∀ (request : PayloadRequest) (accepted : Bool) (code detail id : String) c,
      (g.responses.set request.commandId (request, g.reply request accepted code detail)).get id =
        some c → Matches c.1 c.2 := by
    intro request accepted code detail id c hc
    rw [Dict.get_set] at hc
    split at hc
    · cases hc
      exact ⟨rfl, Nat.succ_pos _⟩
    · exact h.cached id c hc
  cases hw with
  | responded request accepted code detail reply hreply =>
    subst hreply
    exact ⟨hset _ _ _ _, fun _ _ _ he => by cases he⟩
  | accepted request event state reply hreply =>
    subst hreply
    refine ⟨hset _ _ _ _, fun _ _ _ he => ?_⟩
    cases he
    exact ⟨rfl, Nat.succ_pos _⟩
  | vehicleIgnored | payloadIgnored | resultIgnored | vehicle | payload | result =>
    exact ⟨h.cached, h.due⟩
  | _ => exact ⟨h.cached, fun _ _ _ he => by cases he⟩

theorem MatchInv.returned (h : MatchInv g e) (hw : Went a g e m g' e' effects)
    {response : PayloadResponse} (hmem : GatewayEffect.returned request response ∈ effects) :
    Matches request response := by
  obtain ⟨-, hget⟩ | ⟨-, first, cached, detail, -, -, rfl⟩ | ⟨-, accepted, code, detail, rfl⟩ |
    ⟨-, event, he⟩ := hw.returned hmem
  · exact h.cached _ _ hget
  · exact ⟨rfl, Nat.succ_pos _⟩
  · exact ⟨rfl, Nat.succ_pos _⟩
  · exact h.due _ _ _ he

theorem matchInv_run {ms : List Move} (h : Run (Steps (GatewaySystem.step a)) initial ms log s) :
    MatchInv s.gateway s.executing := by
  induction h with
  | start => exact ⟨(fun _ _ h => by cases h), fun _ _ _ h => by cases h⟩
  | step _ hs ih => exact ih.went (step_went hs)

/-- **Every answer matches its request.** -/
theorem returned_matches {ms : List Move} (h : Run (Steps (GatewaySystem.step a)) initial ms log s)
    {response : PayloadResponse} (hmem : GatewayEffect.returned request response ∈ log) :
    Matches request response := by
  induction h with
  | start => cases hmem
  | step h hs ih =>
    rcases List.mem_append.mp hmem with hmem | hmem
    · exact ih hmem
    · exact (matchInv_run h).returned (step_went hs) hmem

/-! ## 2. Stale answers -/

/-- A result that comes in does not have the gateway's own code. -/
def Unstale : Move → Prop
  | .result _ wire => ∀ result, parsePhysicalResult wire = .ok result → result.code ≠ staleCode
  | _ => True

/-- **Stale answers are those without a command**: no slot holds a result with the code, and a
    refusal with it, due or cached, has no command in the log. -/
structure StaleInv (log : List GatewayEffect) (g : PayloadGateway) (e : Option Executing) :
    Prop where
  slots : ∀ id p r, g.pending.get id = some p → p.value = some r → r.code ≠ staleCode
  refusing : ∀ request accepted detail, e = some (.refusing request accepted staleCode detail) →
    commandsOf request.commandId log = []
  cached : ∀ id c, g.responses.get id = some c → c.2.code = staleCode → commandsOf id log = []

theorem StaleInv.start : StaleInv [] .initial none where
  slots := fun _ _ _ h => by cases h
  refusing := fun _ _ _ h => by cases h
  cached := fun _ _ h => by cases h

/-- Where a refusal with the code comes from: the first look at the facts, or a slot. -/
theorem refusing_code {x : Executing} {t : GatewaySystem} {accepted : Bool} {detail : String}
    (h : proceed a g x = .ok (t, effects))
    (ht : t.executing = some (.refusing request accepted staleCode detail)) :
    x = .missed request ∨ ∃ p r, g.pending.get request.commandId = some p ∧ p.value = some r ∧
      r.code = staleCode := by
  cases x with
  | entered q =>
    simp only [proceed] at h
    split at h
    · split at h
      · cases h
        cases ht
      · cases h
        cases ht
    · cases h
      cases ht
  | missed q =>
    simp only [proceed] at h
    split at h
    · cases h
      cases ht
      exact .inl rfl
    · split at h
      · cases h
        simp only [Option.some.injEq, Executing.refusing.injEq] at ht
        exact .inl (by rw [ht.1])
      · cases h
        cases ht
  | woken q confirmed =>
    simp only [proceed] at h
    split at h
    · rename_i physical hphysical
      split at h
      · cases h
        cases ht
      · cases h
        simp only [Option.some.injEq, Executing.refusing.injEq] at ht
        obtain ⟨rfl, -, hcode, -⟩ := ht
        obtain ⟨p, hp, hvalue⟩ := Option.bind_eq_some_iff.mp hphysical
        refine .inr ⟨p, physical, hp, hvalue, ?_⟩
        split at hcode
        · exact hcode
        · exact absurd hcode (by decide)
    · cases h
      simp only [Option.some.injEq, Executing.refusing.injEq] at ht
      exact absurd ht.2.2.1 (by decide)
  | abandoning q =>
    cases h
    simp only [Option.some.injEq, Executing.refusing.injEq] at ht
    exact absurd ht.2.2.1 (by decide)
  | confirming q physical =>
    simp only [proceed, PayloadGateway.record] at h
    cases hget : g.payloads.get q.arucoId with
    | none =>
      rw [hget] at h
      cases h
      cases ht
    | some fact =>
      rw [hget] at h
      cases h
      cases ht
  | registered | waiting => cases h
  | _ =>
    cases h
    cases ht

theorem went_slotCodes (h : StaleInv log g e) (hw : Went a g e m g' e' effects) (hm : Unstale m) :
    ∀ id p r, g'.pending.get id = some p → p.value = some r → r.code ≠ staleCode := by
  intro id p r hp hr
  cases hw with
  | result marker wire result hparse hopen =>
    rw [filled, Dict.get_set] at hp
    split at hp
    · cases hp
      cases hr
      exact hm _ hparse
    · exact h.slots id p r hp hr
  | registered request wire =>
    rw [opened, Dict.get_set] at hp
    split at hp
    · cases hp
      cases hr
    · exact h.slots id p r hp hr
  | abandoned | timedOut | rejected | confirmed =>
    rw [closed, Dict.get_erase] at hp
    split at hp
    · cases hp
    · exact h.slots id p r hp hr
  | _ => exact h.slots id p r hp hr

/-- An id that is cached gets no command. -/
theorem went_cached_silent (h : OnceInv log g e) (hw : Went a g e m g' e' effects) {id : String}
    {c : PayloadRequest × PayloadResponse} (hc : g.responses.get id = some c) :
    commandsOf id effects = [] := by
  rcases went_command hw id with hno | ⟨request, wire, he, hid, -⟩
  · exact hno
  · have hfresh := h.fresh _ he rfl
    rw [Executing.request, hid, hc] at hfresh
    cases hfresh

theorem went_staleCached (hinv : OnceInv log g e) (h : StaleInv log g e)
    (hw : Went a g e m g' e' effects) :
    ∀ id c, g'.responses.get id = some c → c.2.code = staleCode →
      commandsOf id (log ++ effects) = [] := by
  intro id c hc hcode
  have hold : g.responses.get id = some c → commandsOf id (log ++ effects) = [] := by
    intro hcached
    rw [commandsOf_append, h.cached id c hcached hcode, went_cached_silent hinv hw hcached,
      List.append_nil]
  have hrefusing := h.refusing
  cases hw with
  | responded request accepted code detail reply hreply =>
    rw [cached, Dict.get_set] at hc
    split at hc
    · rename_i hid
      cases hc
      subst hreply hid
      have hcode : code = staleCode := hcode
      subst hcode
      rw [commandsOf_append, hrefusing request accepted detail rfl]
      rfl
    · exact hold hc
  | accepted request event state reply hreply =>
    rw [cached, Dict.get_set] at hc
    split at hc
    · cases hc
      subst hreply
      have hcode : "OK" = staleCode := hcode
      exact absurd hcode (by decide)
    · exact hold hc
  | _ => exact hold hc

/-- A move that leads to a refusal sends nothing. -/
theorem went_refusing_silent (hw : Went a g e m g' e' effects) {accepted : Bool}
    {code detail : String} (he : e' = some (.refusing request accepted code detail)) (id : String) :
    commandsOf id effects = [] := by
  cases hw with
  | published | publishRaised => cases he
  | _ => rfl

theorem step_staleRefusing {s t : GatewaySystem} (hinv : OnceInv log s.gateway s.executing)
    (h : StaleInv log s.gateway s.executing) (hstep : step a s m = .ok (t, effects)) :
    ∀ request accepted detail, t.executing = some (.refusing request accepted staleCode detail) →
      commandsOf request.commandId (log ++ effects) = [] := by
  intro request accepted detail ht
  have hw := step_went hstep
  rw [commandsOf_append, went_refusing_silent hw ht, List.append_nil]
  obtain ⟨g, e⟩ := s
  obtain ⟨g', e'⟩ := t
  have ht : e' = some (.refusing request accepted staleCode detail) := ht
  subst ht
  cases m with
  | proceed =>
    cases e with
    | none => cases hstep
    | some x =>
      rcases refusing_code hstep rfl with rfl | ⟨p, r, hp, hr, hcode⟩
      · by_contra hlog
        rcases hinv.known _ hlog with hcached | ⟨y, hy, hsent, -⟩
        · have hfresh := hinv.fresh _ rfl rfl
          have hfresh : g.responses.get request.commandId = none := hfresh
          rw [hfresh] at hcached
          cases hcached
        · cases hy
          cases hsent
      · exact absurd hcode (h.slots _ p r hp hr)
  | vehicle | payload | result =>
    have hsame : e = some (.refusing request accepted staleCode detail) := by
      cases hw <;> rfl
    exact h.refusing request accepted detail hsame
  | execute | publish | wake => cases hw

theorem StaleInv.step {s t : GatewaySystem} (hinv : OnceInv log s.gateway s.executing)
    (h : StaleInv log s.gateway s.executing) (hm : Unstale m)
    (hstep : step a s m = .ok (t, effects)) :
    StaleInv (log ++ effects) t.gateway t.executing where
  slots := went_slotCodes h (step_went hstep) hm
  refusing := step_staleRefusing hinv h hstep
  cached := went_staleCached hinv h (step_went hstep)

theorem staleInv_run {ms : List Move} (hrun : Run (Steps (GatewaySystem.step a)) initial ms log s)
    (hms : ∀ m ∈ ms, Unstale m) : StaleInv log s.gateway s.executing := by
  induction hrun with
  | start => exact .start
  | @step ms log s m effects t hbefore hs ih =>
    exact (ih fun m' hm' => hms m' (List.mem_append_left _ hm')).step (onceInv_initial hbefore)
      (hms m (List.mem_append_right _ (List.mem_singleton.mpr rfl))) hs

/-- **A request that was answered STALE_PHYSICAL_STATE has no command**, then and later. -/
theorem stale_uncommanded {ms : List Move}
    (hrun : Run (Steps (GatewaySystem.step a)) initial ms log s) (hms : ∀ m ∈ ms, Unstale m)
    {response : PayloadResponse} (hmem : GatewayEffect.returned request response ∈ log)
    (hcode : response.code = staleCode) : commandsOf request.commandId log = [] := by
  rcases returned_cached OnceInv.start hrun hmem with hcached | ⟨-, -, -, -, hconflict⟩
  · exact (staleInv_run hrun hms).cached _ _ hcached hcode
  · rw [hconflict.code] at hcode
    exact absurd hcode (by decide)

end GatewaySystem

end DroneSim
