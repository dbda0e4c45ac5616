/-
  File:      DroneSim/Electromagnet/GatewayOnce.lean
  Subject:   Command, cache and slot of a request over a run.

  `OnceInv log g e` relates the log to the state: a command id with a command in the log is cached
  or belongs to the execution that goes on, an execution past its cache lookup is not cached yet,
  and the only slot is the execution's. `onceInv_run` has it for every run, and with it
  `responses_kept` (the cache never changes an entry) and `not_raised`.
-/
import DroneSim.Electromagnet.GatewaySteps
import DroneSim.Electromagnet.GatewaySnapshot

namespace DroneSim

open Library

/-! ## 1. What the log says -/

namespace GatewayEffect

/-- The text of a command under the id. -/
def commandOf (id : String) : GatewayEffect → Option String
  | .command request wire => if request.commandId = id then some wire else none
  | _ => none

def eventOf : GatewayEffect → Option PayloadEventRecord
  | .event record => some record
  | _ => none

def madeOf : GatewayEffect → Option (PayloadRequest × PayloadResponse)
  | .responded request response => some (request, response)
  | _ => none

end GatewayEffect

/-- The commands that went out under an id. -/
def commandsOf (id : String) (log : List GatewayEffect) : List String := log.filterMap (GatewayEffect.commandOf id)

/-- The payload events that went out. -/
def eventsOf (log : List GatewayEffect) : List PayloadEventRecord := log.filterMap GatewayEffect.eventOf

/-- The responses made, each with its request. A cached response that is returned again is not
    made again. -/
def madeOf (log : List GatewayEffect) : List (PayloadRequest × PayloadResponse) :=
  log.filterMap GatewayEffect.madeOf

/-- The accepted ones among them. -/
def acceptedOf (log : List GatewayEffect) : List (PayloadRequest × PayloadResponse) :=
  (madeOf log).filter fun p => p.2.accepted

@[simp] theorem commandsOf_append (id : String) (log effects : List GatewayEffect) :
    commandsOf id (log ++ effects) = commandsOf id log ++ commandsOf id effects :=
  List.filterMap_append

@[simp] theorem eventsOf_append (log effects : List GatewayEffect) :
    eventsOf (log ++ effects) = eventsOf log ++ eventsOf effects := List.filterMap_append

@[simp] theorem madeOf_append (log effects : List GatewayEffect) :
    madeOf (log ++ effects) = madeOf log ++ madeOf effects := List.filterMap_append

@[simp] theorem acceptedOf_append (log effects : List GatewayEffect) :
    acceptedOf (log ++ effects) = acceptedOf log ++ acceptedOf effects := by
  rw [acceptedOf, madeOf_append, List.filter_append]
  rfl

/-! ## 2. Phases of an execution -/

namespace Executing

def request : Executing → PayloadRequest
  | entered q | missed q | refusing q _ _ _ | commanding q _ | registered q _ | abandoning q
  | waiting q | woken q _ | confirming q _ | recorded q _ _ | announcing q _ _ => q

/-- The lookup missed, and no response was made since. -/
def uncached : Executing → Bool
  | entered _ | announcing _ _ _ => false
  | _ => true

/-- The command may be out. -/
def maySent : Executing → Bool
  | refusing _ _ _ _ | abandoning _ | waiting _ | woken _ _ | confirming _ _ | recorded _ _ _ => true
  | _ => false

/-- The slot is in the dictionary. -/
def slotted : Executing → Bool
  | registered _ _ | abandoning _ | waiting _ | woken _ _ => true
  | _ => false

/-- The request was decided on a snapshot. -/
def decided : Executing → Bool
  | commanding _ _ | registered _ _ | waiting _ | woken _ _ | confirming _ _ => true
  | _ => false

end Executing

/-- The event is the one of the request's confirmed command. -/
structure EventFor (request : PayloadRequest) (event : PayloadEventRecord) : Prop where
  commandId : event.commandId = request.commandId
  arucoId : event.arucoId = request.arucoId
  action : event.action = request.action
  state : event.state = if request.action = "attach" then "attached" else "detached"
  code : event.code = "OK"

namespace GatewaySystem

open PayloadGateway

/-- What the place of an execution says by itself. -/
def Placed (g : PayloadGateway) : Executing → Prop
  | .refusing _ accepted _ _ => accepted = false
  | .woken request confirmed => confirmed = true →
      (g.pending.get request.commandId).any (fun p => p.value.isSome) = true
  | .confirming request physical => physical.accepts request.action = true
  | .recorded request event state => EventFor request event ∧ state = event.state
  | .announcing request event response =>
      EventFor request event ∧ g.responses.get request.commandId = some (request, response) ∧
        response.accepted = true ∧ response.code = "OK"
  | _ => True

/-- **Log and state of a run.** -/
structure OnceInv (log : List GatewayEffect) (g : PayloadGateway) (e : Option Executing) : Prop where
  once : ∀ id, (commandsOf id log).length ≤ 1
  known : ∀ id, commandsOf id log ≠ [] → (g.responses.get id).isSome = true ∨
    ∃ x, e = some x ∧ x.maySent = true ∧ x.request.commandId = id
  fresh : ∀ x, e = some x → x.uncached = true → g.responses.get x.request.commandId = none
  slots : ∀ id, (g.pending.get id).isSome = true →
    ∃ x, e = some x ∧ x.slotted = true ∧ x.request.commandId = id
  fact : ∀ x, e = some x → x.decided = true → (g.payloads.get x.request.arucoId).isSome = true
  placed : ∀ x, e = some x → Placed g x

theorem OnceInv.start : OnceInv [] .initial none where
  once := fun _ => Nat.zero_le _
  known := fun _ h => absurd rfl h
  fresh := by nofun
  slots := by nofun
  fact := by nofun
  placed := by nofun

variable {a : PayloadAuthority} {log effects : List GatewayEffect} {g g' : PayloadGateway}
  {e e' : Option Executing} {m : Move}

/-! ## 3. One move -/

/-- A payload's fact stays, if changed. -/
theorem went_fact (h : Went a g e m g' e' effects) {marker : ℕ}
    (hf : (g.payloads.get marker).isSome = true) : (g'.payloads.get marker).isSome = true := by
  have hset : ∀ (m : ℕ) (fact : PayloadFact),
      ((g.payloads.set m fact).get marker).isSome = true := by
    intro m fact
    rw [Dict.get_set]
    split
    · rfl
    · exact hf
  cases h with
  | payload => exact hset _ _
  | recorded => exact hset _ _
  | _ => exact hf

/-- **A cached response stays.** -/
theorem went_responses (h : OnceInv log g e) (hw : Went a g e m g' e' effects) {id : String}
    {c : PayloadRequest × PayloadResponse} (hc : g.responses.get id = some c) :
    g'.responses.get id = some c := by
  -- a response is written for an id that was not cached
  have hset : ∀ (x : Executing) (r : PayloadResponse), e = some x → x.uncached = true →
      (g.responses.set x.request.commandId (x.request, r)).get id = some c := by
    intro x r hx hu
    rw [Dict.get_set_of_ne]
    · exact hc
    · intro hid
      rw [hid, h.fresh x hx hu] at hc
      cases hc
  cases hw with
  | responded => exact hset (.refusing ..) _ rfl rfl
  | accepted => exact hset (.recorded ..) _ rfl rfl
  | _ => exact hc

/-- The moves that send a command, and what they know of its id. -/
theorem went_command (hw : Went a g e m g' e' effects) (id : String) :
    commandsOf id effects = [] ∨
    ∃ request wire, e = some (.registered request wire) ∧ request.commandId = id ∧
      commandsOf id effects = [wire] ∧ ∃ x, e' = some x ∧ x.maySent = true ∧
        x.request.commandId = id := by
  have hsent : ∀ (request : PayloadRequest) (wire : String) (x : Executing),
      x.maySent = true → x.request = request →
      commandsOf id [.command request wire] = [] ∨
      ∃ q w, some (Executing.registered request wire) = some (.registered q w) ∧
        q.commandId = id ∧ commandsOf id [.command request wire] = [w] ∧
        ∃ y, some x = some y ∧ y.maySent = true ∧ y.request.commandId = id := by
    intro request wire x hx hq
    by_cases hid : request.commandId = id
    · refine Or.inr ⟨request, wire, rfl, hid, ?_, x, rfl, hx, by rw [hq, hid]⟩
      simp [commandsOf, GatewayEffect.commandOf, hid]
    · exact Or.inl (by simp [commandsOf, GatewayEffect.commandOf, hid])
  cases hw with
  | published request wire => exact hsent request wire _ rfl rfl
  | publishRaised request wire => exact hsent request wire _ rfl rfl
  | _ => exact Or.inl rfl

theorem went_known (h : OnceInv log g e) (hw : Went a g e m g' e' effects) (id : String)
    (hlog : commandsOf id (log ++ effects) ≠ []) : (g'.responses.get id).isSome = true ∨
    ∃ x, e' = some x ∧ x.maySent = true ∧ x.request.commandId = id := by
  rcases went_command hw id with hno | ⟨-, -, -, -, -, hx⟩
  · rw [commandsOf_append, hno, List.append_nil] at hlog
    rcases h.known id hlog with hcached | ⟨x, hx, hsent, hid⟩
    · obtain ⟨c, hc⟩ := Option.isSome_iff_exists.mp hcached
      exact Or.inl (by rw [went_responses h hw hc]; rfl)
    -- the execution that sent it goes on, or its response is made now
    · subst hid
      have hpayload := fun hd => h.fact x hx hd
      cases hw with
      | responded =>
        cases hx
        exact Or.inl (by rw [cached, Executing.request, Dict.get_set_self]; rfl)
      | accepted =>
        cases hx
        exact Or.inl (by rw [cached, Executing.request, Dict.get_set_self]; rfl)
      | keyError request physical hnone =>
        cases hx
        have hsome := hpayload rfl
        rw [Executing.request, hnone] at hsome
        cases hsome
      | vehicleIgnored | payloadIgnored | resultIgnored | vehicle | payload | result =>
        exact Or.inr ⟨x, hx, hsent, rfl⟩
      | abandoned | woken | timedOut | rejected | confirmed | recorded =>
        cases hx
        exact Or.inr ⟨_, rfl, rfl, rfl⟩
      | execute => cases hx
      | _ =>
        cases hx
        cases hsent
  · exact Or.inr hx

theorem went_once (h : OnceInv log g e) (hw : Went a g e m g' e' effects) (id : String) :
    (commandsOf id (log ++ effects)).length ≤ 1 := by
  rw [commandsOf_append, List.length_append]
  rcases went_command hw id with hno | ⟨request, wire, he, hid, hone, -⟩
  · rw [hno]
    exact h.once id
  -- the id of a command that goes out has no command in the log
  · have hnone : commandsOf id log = [] := by
      by_contra hlog
      rcases h.known id hlog with hcached | ⟨x, hx, hsent, -⟩
      · have hfresh := h.fresh _ he rfl
        rw [Executing.request, hid] at hfresh
        rw [hfresh] at hcached
        cases hcached
      · cases he.symm.trans hx
        cases hsent
    rw [hnone, hone]
    exact Nat.le_refl 1

theorem went_fresh (h : OnceInv log g e) (hw : Went a g e m g' e' effects) :
    ∀ x, e' = some x → x.uncached = true → g'.responses.get x.request.commandId = none := by
  intro x hx hu
  have hfresh := h.fresh
  cases hw with
  | vehicleIgnored | payloadIgnored | resultIgnored | vehicle | payload | result =>
    exact hfresh x hx hu
  | hit | conflict | responded | keyError | announced => cases hx
  | execute | accepted =>
    cases hx
    cases hu
  | missed request hnone =>
    cases hx
    exact hnone
  | _ =>
    have hold := hfresh _ rfl rfl
    cases hx
    exact hold

theorem went_slots (h : OnceInv log g e) (hw : Went a g e m g' e' effects) :
    ∀ id, (g'.pending.get id).isSome = true →
      ∃ x, e' = some x ∧ x.slotted = true ∧ x.request.commandId = id := by
  intro id hid
  have hold := h.slots id
  -- where the execution has no slot, there is none
  have hnone : ∀ x, e = some x → x.slotted = false → (g.pending.get id).isSome = true → False := by
    intro x hx hno hp
    obtain ⟨y, hy, hs, -⟩ := hold hp
    rw [hx] at hy
    rw [← Option.some.inj hy, hno] at hs
    cases hs
  have hclosed : ∀ x, e = some x → ((g.closed x.request).pending.get id).isSome = true → False := by
    intro x hx hp
    rw [closed, Dict.get_erase] at hp
    split at hp
    · cases hp
    · rename_i hne
      obtain ⟨y, hy, -, hy2⟩ := hold hp
      rw [hx] at hy
      exact hne (by rw [Option.some.inj hy, hy2])
  cases hw with
  | vehicleIgnored | payloadIgnored | resultIgnored | vehicle | payload => exact hold hid
  | result marker wire result hparse hopen =>
    refine hold ?_
    rw [filled, Dict.get_set] at hid
    split at hid
    · rename_i heq
      rw [heq, show g.pending.get result.commandId = _ from hopen]
      rfl
    · exact hid
  | execute =>
    obtain ⟨x, hx, -⟩ := hold hid
    cases hx
  | registered request wire =>
    rw [opened, Dict.get_set] at hid
    split at hid
    · rename_i heq
      exact ⟨_, rfl, rfl, heq.symm⟩
    · exact (hnone _ rfl rfl hid).elim
  | published | publishRaised | woken =>
    obtain ⟨x, hx, hs, hi⟩ := hold hid
    cases hx
    exact ⟨_, rfl, rfl, hi⟩
  | abandoned request => exact (hclosed (.abandoning request) rfl hid).elim
  | timedOut request confirmed => exact (hclosed (.woken request confirmed) rfl hid).elim
  | rejected request => exact (hclosed (.woken request true) rfl hid).elim
  | confirmed request => exact (hclosed (.woken request true) rfl hid).elim
  | _ => exact (hnone _ rfl rfl hid).elim

theorem went_decided (h : OnceInv log g e) (hw : Went a g e m g' e' effects) :
    ∀ x, e' = some x → x.decided = true → (g'.payloads.get x.request.arucoId).isSome = true := by
  intro x hx hd
  have hfact := h.fact
  have hkept : ∀ marker, (g.payloads.get marker).isSome = true →
      (g'.payloads.get marker).isSome = true := fun _ => went_fact hw
  cases hw with
  | vehicleIgnored | payloadIgnored | resultIgnored | vehicle | payload | result =>
    exact hkept _ (hfact x hx hd)
  | warranted request world wire hworld hcommand =>
    cases hx
    obtain ⟨t, vehicle, facts, hs⟩ := snapshot_ok hworld
    obtain ⟨newest, hnewest, -⟩ := hs.payloadFlags _ (commanded_facts hs hcommand).1
    rw [Executing.request, hnewest]
    rfl
  | registered | published | woken | confirmed =>
    have hold := hfact _ rfl rfl
    cases hx
    exact hkept _ hold
  | hit | conflict | responded | keyError | announced => cases hx
  | _ =>
    cases hx
    cases hd

theorem went_placed (h : OnceInv log g e) (hw : Went a g e m g' e' effects) :
    ∀ x, e' = some x → Placed g' x := by
  intro x hx
  have hplaced := h.placed
  cases hw with
  | vehicleIgnored | payloadIgnored | resultIgnored | vehicle | payload => exact hplaced x hx
  | result marker wire result hparse hopen =>
    have hold := hplaced x hx
    cases x with
    | woken request confirmed =>
      -- a slot that has its value keeps it
      intro hc
      have hset := hold hc
      rw [filled, Dict.get_set]
      split
      · rfl
      · exact hset
    | _ => exact hold
  | woken request signaled hset =>
    cases hx
    exact hset
  | refused request world decision hdecision hno =>
    cases hx
    subst hdecision
    exact PayloadAuthority.decide_refused hno
  | confirmed request physical hphysical hyes =>
    cases hx
    exact hyes
  | recorded request physical fact hget =>
    cases hx
    have haccepts : physical.accepts request.action = true := hplaced _ rfl
    rw [PhysicalResult.accepts, Bool.and_eq_true, Bool.and_eq_true, decide_eq_true_eq,
      decide_eq_true_eq, decide_eq_true_eq] at haccepts
    exact ⟨⟨rfl, rfl, rfl, haccepts.1.2, haccepts.2⟩, rfl⟩
  | accepted request event state reply hreply =>
    obtain ⟨hevent, -⟩ := hplaced _ rfl
    cases hx
    subst hreply
    exact ⟨hevent, Dict.get_set_self _ _ _, rfl, rfl⟩
  | unready | abandoned | timedOut | rejected =>
    cases hx
    rfl
  | hit | conflict | responded | keyError | announced => cases hx
  | _ =>
    cases hx
    trivial

/-- The payload of an execution that was decided has a fact to write the flag into. -/
theorem went_not_raised (h : OnceInv log g e) (hw : Went a g e m g' e' effects)
    (request : PayloadRequest) (error : String) : GatewayEffect.raised request error ∉ effects := by
  have hfact := h.fact
  cases hw with
  | keyError q physical hnone =>
    have hsome := hfact _ rfl rfl
    rw [Executing.request, hnone] at hsome
    cases hsome
  | _ => simp

theorem OnceInv.went (h : OnceInv log g e) (hw : Went a g e m g' e' effects) :
    OnceInv (log ++ effects) g' e' :=
  ⟨went_once h hw, went_known h hw, went_fresh h hw, went_slots h hw, went_decided h hw,
    went_placed h hw⟩

/-! ## 4. Runs -/

theorem onceInv_run {ms : List Move} {s t : GatewaySystem} {past : List GatewayEffect}
    (h0 : OnceInv past s.gateway s.executing) (h : Run (Steps (step a)) s ms log t) :
    OnceInv (past ++ log) t.gateway t.executing := by
  induction h with
  | start => simpa using h0
  | step _ hs ih =>
      rw [← List.append_assoc]
      exact ih.went (step_went hs)

/-- The invariant holds in every run from the start. -/
theorem onceInv_initial {ms : List Move} {s : GatewaySystem}
    (h : Run (Steps (step a)) initial ms log s) : OnceInv log s.gateway s.executing := by
  simpa using onceInv_run OnceInv.start h

/-- **A cached response stays to the end of every run.** -/
theorem responses_kept {ms : List Move} {s t : GatewaySystem} {past : List GatewayEffect}
    (h0 : OnceInv past s.gateway s.executing) (h : Run (Steps (step a)) s ms log t) {id : String}
    {c : PayloadRequest × PayloadResponse} (hc : s.gateway.responses.get id = some c) :
    t.gateway.responses.get id = some c := by
  induction h with
  | start => exact hc
  | step h hs ih => exact went_responses (onceInv_run h0 h) (step_went hs) ih

end GatewaySystem

end DroneSim
