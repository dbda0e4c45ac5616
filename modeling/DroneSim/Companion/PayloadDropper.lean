/-
  File:      DroneSim/Companion/PayloadDropper.lean
  Subject:   The payload adapters over the gateway (comp2026_host.py, PayloadDropper).

  Any number of attach and drop calls, on the adapters of all markers, over one gateway: a call takes
  a command id, its request is on the way to the service until the gateway takes it up, and the
  gateway's answer comes back or the call raises. The gateway goes on between any two steps.

  * `Tale` -- what a call has done, told by the place it has come to;
  * `Faithful` -- fresh ids, one command a call, a retry only after a stale answer without a command,
    and True exactly for an accepted command;
  * `adapter_agrees` -- **the adapters are faithful; and a guarded release over one agrees with the
    gateway exactly where the release was not accepted**;
  * `accepted_release_raises` -- one that was.
-/
import DroneSim.Comp2026.PayloadRelease
import DroneSim.Electromagnet.GatewayReplies

namespace DroneSim

open Library

/-! ## 1. The adapter -/

/-- `PayloadRequest.ATTACH` and `PayloadRequest.RELEASE`. -/
inductive PayloadAction where
  | attach
  | release
  deriving DecidableEq, Repr

/-- `action_name`, and what the service makes of the action. -/
def PayloadAction.name : PayloadAction → String
  | .attach => "attach"
  | .release => "release"

/-- `command_id`. -/
def adapterCommandId (marker : ℕ) (action : PayloadAction) (sequence : ℕ) : String :=
  "run:" ++ toString marker ++ ":" ++ action.name ++ ":" ++ toString sequence

/-- What an attempt comes to. -/
inductive Verdict where
  | returned
  | again
  | raised (reason : String)
  deriving DecidableEq, Repr

/-- What `_command` makes of the response to its `attempt`. -/
def judge (action : PayloadAction) (attempt : ℕ) (commandId : String) :
    Option PayloadResponse → Verdict
  | none => .raised ("payload " ++ commandId ++ " returned no confirmation")
  | some response =>
    if response.commandId ≠ commandId then
      .raised ("payload response command_id did not match " ++ commandId)
    else if response.responseSequence ≤ 0 then
      .raised ("payload " ++ commandId ++ " returned an invalid response sequence")
    else if response.accepted then .returned
    else if action = .release && decide (response.code = staleCode) && decide (attempt = 0) then
      .again
    else .raised ("payload " ++ commandId ++ " failed: " ++ response.code ++ ": " ++
      response.detail)

/-- A call of an adapter: the attempt it has come to, or its end. -/
inductive AdapterCall where
  /-- Before an id is taken. -/
  | ready (marker : ℕ) (action : PayloadAction) (attempt : ℕ)
  /-- In `client.call`. -/
  | calling (marker : ℕ) (action : PayloadAction) (attempt : ℕ) (request : PayloadRequest)
  /-- It returned True, or it raised. -/
  | ended (returned : Bool)
  deriving DecidableEq, Repr

/-- The adapters, the service and the gateway behind it. -/
structure PayloadService where
  gateway : GatewaySystem
  /-- `_sequence` of each marker's adapter. -/
  sequences : ℕ → PayloadAction → ℕ
  /-- Requests the gateway has not taken up. -/
  inFlight : List PayloadRequest
  /-- What the gateway returned. -/
  answers : List (PayloadRequest × PayloadResponse)
  calls : ℕ → Option AdapterCall

/-- What is noted of a run. -/
inductive ServiceNote where
  | sent (call : ℕ) (request : PayloadRequest)
  | answered (call : ℕ) (request : PayloadRequest) (response : PayloadResponse)
  | returned (call : ℕ)
  | raised (call : ℕ) (reason : String)
  | effect (effect : GatewayEffect)
  deriving DecidableEq

inductive ServiceInput where
  /-- `attach(aruco_id)` on the adapter of the marker. -/
  | attach (call marker arucoId : ℕ)
  | drop (call marker : ℕ)
  /-- The call takes an id and sends its request. -/
  | send (call : ℕ)
  /-- The gateway takes a request up. -/
  | take (request : PayloadRequest)
  /-- The gateway makes another move. -/
  | gateway (move : GatewaySystem.Move)
  /-- `client.call` returns. -/
  | answer (call : ℕ) (response : Option PayloadResponse)
  /-- A sleep or `client.call` raises. -/
  | fail (call : ℕ) (reason : String)

namespace PayloadService

/-- The adapters and the gateway as they are made. -/
def initial : PayloadService := ⟨.initial, fun _ _ => 0, [], [], fun _ => none⟩

def setCall (call : ℕ) (state : AdapterCall) (s : PayloadService) : PayloadService :=
  { s with calls := Function.update s.calls call (some state) }

/-- What a move of the gateway returns. -/
def returnedOf (effects : List GatewayEffect) : List (PayloadRequest × PayloadResponse) :=
  effects.filterMap fun e => match e with
    | .returned request response => some (request, response)
    | _ => none

/-- A move of the gateway. -/
def move (a : PayloadAuthority) (m : GatewaySystem.Move) (s : PayloadService) :
    Except String (PayloadService × List ServiceNote) := do
  let (gateway, effects) ← GatewaySystem.step a s.gateway m
  .ok ({ s with gateway := gateway, answers := s.answers ++ returnedOf effects },
    effects.map .effect)

/-- The request of an attempt. -/
def request (runId : String) (marker : ℕ) (action : PayloadAction) (s : PayloadService) :
    PayloadRequest :=
  ⟨runId, marker, action.name,
    adapterCommandId marker action (s.sequences marker action + 1)⟩

/-- An id is taken, and the request sent. -/
def sent (runId : String) (call marker : ℕ) (action : PayloadAction) (attempt : ℕ)
    (s : PayloadService) : PayloadService :=
  { s with
    sequences := Function.update s.sequences marker
      (Function.update (s.sequences marker) action (s.sequences marker action + 1))
    inFlight := s.inFlight ++ [request runId marker action s]
    calls := Function.update s.calls call
      (some (.calling marker action attempt (request runId marker action s))) }

/-- The answer has come back. -/
def answered (call marker : ℕ) (action : PayloadAction) (attempt : ℕ) (request : PayloadRequest)
    (response : Option PayloadResponse) (s : PayloadService) :
    PayloadService × List ServiceNote :=
  let note := response.toList.map (ServiceNote.answered call request)
  match judge action attempt request.commandId response with
  | .returned => (s.setCall call (.ended true), note ++ [ServiceNote.returned call])
  | .again => (s.setCall call (.ready marker action (attempt + 1)), note)
  | .raised reason => (s.setCall call (.ended false), note ++ [ServiceNote.raised call reason])

/-- **One step.** -/
def step (a : PayloadAuthority) (runId : String) (s : PayloadService) :
    ServiceInput → Except String (PayloadService × List ServiceNote)
  | .attach call marker arucoId =>
    match s.calls call with
    | some _ => .error "the call has begun"
    | none =>
      if arucoId ≠ marker then .ok (s.setCall call (.ended false),
        [ServiceNote.raised call "attachment marker does not match this payload adapter"])
      else .ok (s.setCall call (.ready marker .attach 0), [])
  | .drop call marker =>
    match s.calls call with
    | some _ => .error "the call has begun"
    | none => .ok (s.setCall call (.ready marker .release 0), [])
  | .send call =>
    match s.calls call with
    | some (.ready marker action attempt) =>
      .ok (sent runId call marker action attempt s, [ServiceNote.sent call (request runId marker action s)])
    | _ => .error "no id is due"
  | .take request =>
    if request ∈ s.inFlight then
      move a (.execute request) { s with inFlight := s.inFlight.erase request }
    else .error "the request is not on the way"
  | .gateway (.execute _) => .error "only requests of the adapters are taken up"
  | .gateway m => move a m s
  | .answer call response =>
    match s.calls call with
    | some (.calling marker action attempt request) =>
      if ∀ r ∈ response, (request, r) ∈ s.answers then
        .ok (answered call marker action attempt request response s)
      else .error "the gateway has not answered"
    | _ => .error "no answer is due"
  | .fail call reason =>
    match s.calls call with
    | some (.ready _ _ _) | some (.calling _ _ _ _) =>
      .ok (s.setCall call (.ended false), [ServiceNote.raised call reason])
    | _ => .error "the call is not under way"

end PayloadService

/-! ## 2. What a call did -/

namespace ServiceNote

/-- The call that a note is about. -/
def callOf : ServiceNote → Option ℕ
  | .sent call _ => some call
  | .answered call _ _ => some call
  | .returned call => some call
  | .raised call _ => some call
  | .effect _ => none

def effectOf : ServiceNote → Option GatewayEffect
  | .effect e => some e
  | _ => none

def requestOf : ServiceNote → Option PayloadRequest
  | .sent _ request => some request
  | _ => none

end ServiceNote

namespace PayloadService

open GatewaySystem (Unstale Matches)

/-- What the gateway did. -/
def effectsOf (os : List ServiceNote) : List GatewayEffect := os.filterMap ServiceNote.effectOf

/-- The requests sent. -/
def sentOf (os : List ServiceNote) : List PayloadRequest := os.filterMap ServiceNote.requestOf

/-- What a call did. -/
def taleOf (call : ℕ) (os : List ServiceNote) : List ServiceNote :=
  os.filter fun n => decide (n.callOf = some call)

/-- The requests a call sent. -/
def sentBy (call : ℕ) (os : List ServiceNote) : List PayloadRequest := sentOf (taleOf call os)

/-- The coordinator commands that a call caused. -/
def commandsBy (call : ℕ) (os : List ServiceNote) : List String :=
  (sentBy call os).flatMap fun request => commandsOf request.commandId (effectsOf os)

/-- The last command of the call was accepted. -/
def Accepted (call : ℕ) (os : List ServiceNote) : Prop :=
  ∃ request response, (sentBy call os).getLast? = some request ∧
    .answered call request response ∈ os ∧ response.accepted = true

/-- **The adapters are faithful to the gateway.** -/
structure Faithful (os : List ServiceNote) : Prop where
  /-- No command id is used twice. -/
  fresh : ((sentOf os).map PayloadRequest.commandId).Nodup
  /-- A call causes at most one command. -/
  once : ∀ call, (commandsBy call os).length ≤ 1
  /-- A call tries again once, a release, after a stale answer to a request without a command. -/
  retried : ∀ call first second rest, sentBy call os = first :: second :: rest → rest = [] ∧
    first.action = "release" ∧ commandsOf first.commandId (effectsOf os) = [] ∧
    ∃ response, ServiceNote.answered call first response ∈ os ∧ response.accepted = false ∧
      response.code = staleCode
  /-- A call returns True exactly where its last command was accepted. -/
  accepted : ∀ call, ServiceNote.returned call ∈ os ↔ Accepted call os

/-- No result that comes in has the gateway's own code. -/
def UnstaleInput : ServiceInput → Prop
  | .gateway m => Unstale m
  | _ => True

/-! ## 3. Command ids -/

theorem colon_not_mem (n : ℕ) : ':' ∉ (toString n).toList := by
  intro hmem
  have hdigit : (':').isDigit = true := Nat.isDigit_of_mem_toDigits (b := 10) (n := n) (by decide)
    (by decide) (by simpa using hmem)
  exact absurd hdigit (by decide)

theorem toString_injective {m n : ℕ} (h : (toString m).toList = (toString n).toList) : m = n := by
  have hdigits : Nat.toDigits 10 m = Nat.toDigits 10 n := by simpa using h
  rw [← Nat.ofDigitChars_ten_toDigits (n := m), hdigits, Nat.ofDigitChars_ten_toDigits]

theorem colon_not_mem_name (action : PayloadAction) : ':' ∉ action.name.toList := by
  cases action <;> decide

theorem append_colon_injective {x y u v : List Char} (hx : ':' ∉ x) (hy : ':' ∉ y)
    (h : x ++ ':' :: u = y ++ ':' :: v) : x = y ∧ u = v := by
  induction x generalizing y with
  | nil =>
    cases y with
    | nil => exact ⟨rfl, (List.cons.inj h).2⟩
    | cons c y =>
      obtain ⟨rfl, -⟩ := List.cons.inj h
      exact absurd List.mem_cons_self hy
  | cons c x ih =>
    cases y with
    | nil =>
      obtain ⟨rfl, -⟩ := List.cons.inj h
      exact absurd List.mem_cons_self hx
    | cons d y =>
      obtain ⟨rfl, htail⟩ := List.cons.inj h
      obtain ⟨rfl, rfl⟩ := ih (fun hmem => hx (List.mem_cons_of_mem _ hmem))
        (fun hmem => hy (List.mem_cons_of_mem _ hmem)) htail
      exact ⟨rfl, rfl⟩

/-- **Ids of different adapters, actions or numbers differ.** -/
theorem adapterCommandId_injective {m m' n n' : ℕ} {x x' : PayloadAction}
    (h : adapterCommandId m x n = adapterCommandId m' x' n') : m = m' ∧ x = x' ∧ n = n' := by
  have hlist := congrArg String.toList h
  unfold adapterCommandId at hlist
  simp only [String.toList_append, List.append_assoc] at hlist
  have hrest : (toString m).toList ++ ':' :: (x.name.toList ++ ':' :: (toString n).toList) =
      (toString m').toList ++ ':' :: (x'.name.toList ++ ':' :: (toString n').toList) :=
    List.append_cancel_left hlist
  obtain ⟨hm, hrest⟩ := append_colon_injective (colon_not_mem m) (colon_not_mem m') hrest
  obtain ⟨hx, hn⟩ := append_colon_injective (colon_not_mem_name x) (colon_not_mem_name x') hrest
  refine ⟨toString_injective hm, ?_, toString_injective hn⟩
  cases x <;> cases x' <;> first | rfl | exact absurd hx (by decide)

/-! ## 4. One step -/

/-- The call is under way. -/
inductive Live : AdapterCall → Prop
  | ready (marker : ℕ) (action : PayloadAction) (attempt : ℕ) : Live (.ready marker action attempt)
  | calling (marker : ℕ) (action : PayloadAction) (attempt : ℕ) (request : PayloadRequest) :
      Live (.calling marker action attempt request)

/-- **The ways a step can go.** -/
inductive Stepped (a : PayloadAuthority) (runId : String) (s : PayloadService) :
    ServiceInput → PayloadService → List ServiceNote → Prop
  | refused {i : ServiceInput} {call : ℕ} {reason : String} (h : s.calls call = none)
      (hi : UnstaleInput i) :
      Stepped a runId s i (s.setCall call (.ended false)) [ServiceNote.raised call reason]
  | begun {i : ServiceInput} {call marker : ℕ} {action : PayloadAction} (h : s.calls call = none) :
      Stepped a runId s i (s.setCall call (.ready marker action 0)) []
  | sent {i : ServiceInput} {call marker attempt : ℕ} {action : PayloadAction}
      (h : s.calls call = some (.ready marker action attempt)) :
      Stepped a runId s i (PayloadService.sent runId call marker action attempt s)
        [ServiceNote.sent call (request runId marker action s)]
  | moved {i : ServiceInput} {m : GatewaySystem.Move} {inFlight : List PayloadRequest}
      {gateway : GatewaySystem} {effects : List GatewayEffect}
      (h : GatewaySystem.step a s.gateway m = .ok (gateway, effects))
      (hm : UnstaleInput i → Unstale m) :
      Stepped a runId s i { s with gateway := gateway, inFlight := inFlight
                                   answers := s.answers ++ returnedOf effects }
        (effects.map .effect)
  | answered {i : ServiceInput} {call marker attempt : ℕ} {action : PayloadAction}
      {request : PayloadRequest} {response : Option PayloadResponse}
      (h : s.calls call = some (.calling marker action attempt request))
      (hanswer : ∀ r ∈ response, (request, r) ∈ s.answers) :
      Stepped a runId s i (PayloadService.answered call marker action attempt request response s).1
        (PayloadService.answered call marker action attempt request response s).2
  | failed {i : ServiceInput} {call : ℕ} {state : AdapterCall} {reason : String}
      (h : s.calls call = some state) (hlive : Live state) :
      Stepped a runId s i (s.setCall call (.ended false)) [ServiceNote.raised call reason]

theorem move_moved {a : PayloadAuthority} {runId : String} {s t : PayloadService}
    {i : ServiceInput} {m : GatewaySystem.Move} {inFlight : List PayloadRequest}
    {o : List ServiceNote} (h : move a m { s with inFlight := inFlight } = .ok (t, o))
    (hm : UnstaleInput i → Unstale m) : Stepped a runId s i t o := by
  unfold move at h
  obtain ⟨⟨gateway, effects⟩, hstep, hrest⟩ := bind_ok h
  cases hrest
  exact .moved hstep hm

theorem step_stepped {a : PayloadAuthority} {runId : String} {s t : PayloadService}
    {i : ServiceInput} {o : List ServiceNote} (h : step a runId s i = .ok (t, o)) :
    Stepped a runId s i t o := by
  cases i with
  | attach call marker arucoId =>
    simp only [step] at h
    split at h
    · cases h
    · rename_i hnone
      split at h
      · cases h
        exact .refused hnone trivial
      · cases h
        exact .begun hnone
  | drop call marker =>
    simp only [step] at h
    split at h
    · cases h
    · rename_i hnone
      cases h
      exact .begun hnone
  | send call =>
    simp only [step] at h
    split at h
    · rename_i hready
      cases h
      exact .sent hready
    · cases h
  | take request =>
    simp only [step] at h
    split at h
    · exact move_moved h fun _ => trivial
    · cases h
  | gateway m =>
    cases m with
    | execute => cases h
    | _ => exact @move_moved _ _ s _ _ _ s.inFlight _ h fun hi => hi
  | answer call response =>
    simp only [step] at h
    split at h
    · rename_i hcalling
      split at h
      · rename_i hanswer
        have hpair := Except.ok.inj h
        rw [show t = _ from (congrArg Prod.fst hpair).symm,
          show o = _ from (congrArg Prod.snd hpair).symm]
        exact .answered hcalling hanswer
      · cases h
    · cases h
  | fail call reason =>
    simp only [step] at h
    split at h
    · rename_i hready
      cases h
      exact .failed hready (.ready _ _ _)
    · rename_i hcalling
      cases h
      exact .failed hcalling (.calling _ _ _ _)
    · cases h

/-! ## 5. The tale of a call -/

/-- **What a call has done**, told by the place it has come to. -/
inductive Tale (call : ℕ) : List ServiceNote → Option AdapterCall → Prop
  | absent : Tale call [] none
  | ready (marker : ℕ) (action : PayloadAction) : Tale call [] (some (.ready marker action 0))
  | calling (marker : ℕ) (action : PayloadAction) (request : PayloadRequest)
      (hname : request.action = action.name) :
      Tale call [ServiceNote.sent call request] (some (.calling marker action 0 request))
  /-- The first attempt got a stale answer. -/
  | again {marker : ℕ} {first : PayloadRequest} {response : PayloadResponse}
      (hname : first.action = "release") (hrefused : response.accepted = false)
      (hstale : response.code = staleCode) :
      Tale call [ServiceNote.sent call first, .answered call first response]
        (some (.ready marker .release 1))
  | callingAgain {marker : ℕ} {first request : PayloadRequest} {response : PayloadResponse}
      (hname : first.action = "release") (hrefused : response.accepted = false)
      (hstale : response.code = staleCode) :
      Tale call [ServiceNote.sent call first, .answered call first response, .sent call request]
        (some (.calling marker .release 1 request))
  | returned {notes : List ServiceNote} {marker attempt : ℕ} {action : PayloadAction}
      {request : PayloadRequest} {response : PayloadResponse}
      (h : Tale call notes (some (.calling marker action attempt request)))
      (haccepted : response.accepted = true) :
      Tale call (notes ++ [ServiceNote.answered call request response, .returned call]) (some (.ended true))
  | refused {notes : List ServiceNote} {marker attempt : ℕ} {action : PayloadAction}
      {request : PayloadRequest} {response : PayloadResponse} {reason : String}
      (h : Tale call notes (some (.calling marker action attempt request)))
      (hrefused : response.accepted = false) :
      Tale call (notes ++ [ServiceNote.answered call request response, .raised call reason])
        (some (.ended false))
  | failed {notes : List ServiceNote} {state : AdapterCall} {reason : String}
      (h : Tale call notes (some state)) (hlive : Live state) :
      Tale call (notes ++ [ServiceNote.raised call reason]) (some (.ended false))
  | never {reason : String} : Tale call [ServiceNote.raised call reason] (some (.ended false))

@[simp] theorem taleOf_append (call : ℕ) (os new : List ServiceNote) :
    taleOf call (os ++ new) = taleOf call os ++ taleOf call new := List.filter_append _ _

@[simp] theorem effectsOf_append (os new : List ServiceNote) :
    effectsOf (os ++ new) = effectsOf os ++ effectsOf new := List.filterMap_append

@[simp] theorem sentOf_append (os new : List ServiceNote) :
    sentOf (os ++ new) = sentOf os ++ sentOf new := List.filterMap_append

/-- Notes about the call alone. -/
theorem taleOf_own {call : ℕ} {os : List ServiceNote} (h : ∀ n ∈ os, n.callOf = some call) :
    taleOf call os = os := List.filter_eq_self.mpr fun n hn => by simp [h n hn]

/-- Notes about no call, or another. -/
theorem taleOf_other {call : ℕ} {os : List ServiceNote} (h : ∀ n ∈ os, n.callOf ≠ some call) :
    taleOf call os = [] := List.filter_eq_nil_iff.mpr fun n hn => by simp [h n hn]

/-- What `_command` makes of an answer that matches its request. -/
theorem judge_matching {action : PayloadAction} {attempt : ℕ} {request : PayloadRequest}
    {r : PayloadResponse} (h : Matches request r) :
    (judge action attempt request.commandId (some r) = .returned ∧ r.accepted = true) ∨
    (judge action attempt request.commandId (some r) = .again ∧ r.accepted = false ∧
      action = .release ∧ r.code = staleCode ∧ attempt = 0) ∨
    ∃ reason, judge action attempt request.commandId (some r) = .raised reason ∧
      r.accepted = false := by
  have hnumbered : ¬ r.responseSequence ≤ 0 := Nat.not_le.mpr h.numbered
  unfold judge
  dsimp only
  rw [if_neg (not_not.mpr h.commandId), if_neg hnumbered]
  cases haccepted : r.accepted with
  | true => exact .inl ⟨rfl, rfl⟩
  | false =>
    rw [if_neg Bool.false_ne_true]
    split
    · rename_i hagain
      simp only [Bool.and_eq_true, decide_eq_true_eq] at hagain
      exact .inr (.inl ⟨rfl, rfl, hagain.1.1, hagain.1.2, hagain.2⟩)
    · exact .inr (.inr ⟨_, rfl, rfl⟩)

/-- The answer of an attempt goes on with the tale. -/
theorem Tale.answered {call marker attempt : ℕ} {action : PayloadAction}
    {request : PayloadRequest} {response : Option PayloadResponse} {notes : List ServiceNote}
    {s : PayloadService} (h : Tale call notes (some (.calling marker action attempt request)))
    (hmatches : ∀ r ∈ response, Matches request r) :
    Tale call
      (notes ++ (PayloadService.answered call marker action attempt request response s).2)
      ((PayloadService.answered call marker action attempt request response s).1.calls call) := by
  cases response with
  | none =>
    unfold PayloadService.answered judge setCall
    simp only [Function.update_self]
    exact .failed h (.calling _ _ _ _)
  | some r =>
    unfold PayloadService.answered setCall
    rcases @judge_matching action attempt _ _ (hmatches r rfl) with
      ⟨hjudge, haccepted⟩ | ⟨hjudge, hrefused, rfl, hstale, rfl⟩ | ⟨reason, hjudge, hrefused⟩
    · rw [hjudge]
      simp only [Function.update_self]
      exact .returned h haccepted
    · rw [hjudge]
      simp only [Function.update_self]
      cases h with
      | calling _ _ _ hname => exact .again hname hrefused hstale
    · rw [hjudge]
      simp only [Function.update_self]
      exact .refused h hrefused

theorem answered_calls {call other marker attempt : ℕ} {action : PayloadAction}
    {request : PayloadRequest} {response : Option PayloadResponse} {s : PayloadService}
    (h : other ≠ call) :
    (PayloadService.answered call marker action attempt request response s).1.calls other =
      s.calls other := by
  unfold PayloadService.answered setCall
  split <;> exact Function.update_of_ne h _ _

/-- The notes of an answer: what came back, and the end of the call. -/
theorem answered_notes {call marker attempt : ℕ} {action : PayloadAction}
    {request : PayloadRequest} {response : Option PayloadResponse} {s : PayloadService}
    {n : ServiceNote}
    (h : n ∈ (PayloadService.answered call marker action attempt request response s).2) :
    (∃ r ∈ response, n = .answered call request r) ∨ n = .returned call ∨
      ∃ reason, n = .raised call reason := by
  have hnote : n ∈ response.toList.map (ServiceNote.answered call request) →
      ∃ r ∈ response, n = .answered call request r := by
    intro hn
    obtain ⟨r, hr, rfl⟩ := List.mem_map.mp hn
    exact ⟨r, Option.mem_toList.mp hr, rfl⟩
  unfold PayloadService.answered at h
  split at h
  · rcases List.mem_append.mp h with h | h
    · exact .inl (hnote h)
    · exact .inr (.inl (List.mem_singleton.mp h))
  · exact .inl (hnote h)
  · rcases List.mem_append.mp h with h | h
    · exact .inl (hnote h)
    · exact .inr (.inr ⟨_, List.mem_singleton.mp h⟩)

/-! ## 6. The run -/

/-- **Log and state of a run.** -/
structure ServiceInv (a : PayloadAuthority) (os : List ServiceNote) (s : PayloadService) :
    Prop where
  /-- What the gateway did is a run of it. -/
  gateway : ∃ ms, Run (Steps (GatewaySystem.step a)) .initial ms (effectsOf os) s.gateway ∧
    ∀ m ∈ ms, Unstale m
  answers : ∀ p ∈ s.answers, GatewayEffect.returned p.1 p.2 ∈ effectsOf os
  answered : ∀ call request response, ServiceNote.answered call request response ∈ os →
    .returned request response ∈ effectsOf os
  /-- Every id that was sent is one the counters have passed. -/
  counted : ∀ request ∈ sentOf os, ∃ marker action n,
    request.commandId = adapterCommandId marker action n ∧ n ≤ s.sequences marker action
  fresh : ((sentOf os).map PayloadRequest.commandId).Nodup
  tales : ∀ call, Tale call (taleOf call os) (s.calls call)

theorem ServiceInv.start (a : PayloadAuthority) : ServiceInv a [] .initial where
  gateway := ⟨[], .start, fun _ hm => (List.not_mem_nil hm).elim⟩
  answers := fun _ hp => (List.not_mem_nil hp).elim
  answered := fun _ _ _ hn => (List.not_mem_nil hn).elim
  counted := fun _ hr => (List.not_mem_nil hr).elim
  fresh := List.nodup_nil
  tales := fun _ => .absent

variable {a : PayloadAuthority} {runId : String} {os o : List ServiceNote} {s t : PayloadService}
  {i : ServiceInput}
variable (d : ReleaseSetup) (coord : GpsCoord) (lidar : ℕ) (required : FloatValue)

/-- The tale of one call goes on, and those of the others stay. -/
theorem tales_step (htales : ∀ call, Tale call (taleOf call os) (s.calls call)) {call : ℕ}
    (hown : ∀ n ∈ o, n.callOf = some call)
    (hcall : Tale call (taleOf call os ++ o) (t.calls call))
    (hothers : ∀ other, other ≠ call → t.calls other = s.calls other) :
    ∀ other, Tale other (taleOf other (os ++ o)) (t.calls other) := by
  intro other
  rw [taleOf_append]
  by_cases hother : other = call
  · subst hother
    rw [taleOf_own hown]
    exact hcall
  · have hnone : taleOf other o = [] := taleOf_other fun n hn => by
      rw [hown n hn]
      simpa using Ne.symm hother
    rw [hnone, List.append_nil, hothers other hother]
    exact htales other

/-- A step that neither moves the gateway nor sends a request. -/
theorem ServiceInv.quiet (h : ServiceInv a os s) (hgateway : t.gateway = s.gateway)
    (hanswers : t.answers = s.answers) (hsequences : t.sequences = s.sequences)
    (heffects : effectsOf o = []) (hsent : sentOf o = [])
    (hanswered : ∀ call request response, ServiceNote.answered call request response ∈ o →
      (request, response) ∈ s.answers)
    (htales : ∀ call, Tale call (taleOf call (os ++ o)) (t.calls call)) :
    ServiceInv a (os ++ o) t where
  gateway := by
    rw [effectsOf_append, heffects, List.append_nil, hgateway]
    exact h.gateway
  answers := by
    rw [effectsOf_append, heffects, List.append_nil, hanswers]
    exact h.answers
  answered := fun call request response hn => by
    rw [effectsOf_append, heffects, List.append_nil]
    rcases List.mem_append.mp hn with hn | hn
    · exact h.answered call request response hn
    · exact h.answers _ (hanswered call request response hn)
  counted := by
    rw [sentOf_append, hsent, List.append_nil, hsequences]
    exact h.counted
  fresh := by
    rw [sentOf_append, hsent, List.append_nil]
    exact h.fresh
  tales := htales

theorem mem_returnedOf {effects : List GatewayEffect} {p : PayloadRequest × PayloadResponse}
    (h : p ∈ returnedOf effects) : GatewayEffect.returned p.1 p.2 ∈ effects := by
  obtain ⟨e, he, hp⟩ := List.mem_filterMap.mp h
  cases e with
  | returned =>
    cases hp
    exact he
  | _ => cases hp

theorem effectsOf_effects (effects : List GatewayEffect) :
    effectsOf (effects.map .effect) = effects := by
  unfold effectsOf
  rw [List.filterMap_map]
  exact List.filterMap_some

theorem sentOf_effects (effects : List GatewayEffect) : sentOf (effects.map .effect) = [] := by
  unfold sentOf
  rw [List.filterMap_map]
  exact List.filterMap_eq_nil_iff.mpr fun _ _ => rfl

/-- A move of the gateway. -/
theorem ServiceInv.moved (h : ServiceInv a os s) {m : GatewaySystem.Move}
    {gateway : GatewaySystem} {inFlight : List PayloadRequest} {effects : List GatewayEffect}
    (hstep : GatewaySystem.step a s.gateway m = .ok (gateway, effects)) (hm : Unstale m) :
    ServiceInv a (os ++ effects.map .effect)
      { s with gateway := gateway, inFlight := inFlight
               answers := s.answers ++ returnedOf effects } where
  gateway := by
    obtain ⟨ms, hrun, hms⟩ := h.gateway
    refine ⟨ms ++ [m], ?_, fun m' hm' => ?_⟩
    · rw [effectsOf_append, effectsOf_effects]
      exact hrun.step hstep
    · rcases List.mem_append.mp hm' with hm' | hm'
      · exact hms m' hm'
      · rw [List.mem_singleton.mp hm']
        exact hm
  answers := fun p hp => by
    rw [effectsOf_append, effectsOf_effects]
    rcases List.mem_append.mp hp with hp | hp
    · exact List.mem_append_left _ (h.answers p hp)
    · exact List.mem_append_right _ (mem_returnedOf hp)
  answered := fun call request response hn => by
    rw [effectsOf_append]
    rcases List.mem_append.mp hn with hn | hn
    · exact List.mem_append_left _ (h.answered call request response hn)
    · obtain ⟨_, -, he⟩ := List.mem_map.mp hn
      cases he
  counted := by
    rw [sentOf_append, sentOf_effects, List.append_nil]
    exact h.counted
  fresh := by
    rw [sentOf_append, sentOf_effects, List.append_nil]
    exact h.fresh
  tales := fun call => by
    have hnone : taleOf call (effects.map .effect) = [] := taleOf_other fun n hn => by
      obtain ⟨_, -, rfl⟩ := List.mem_map.mp hn
      exact fun he => by cases he
    rw [taleOf_append, hnone, List.append_nil]
    exact h.tales call

/-- The counters after a request was sent. -/
theorem sent_sequences (call marker attempt : ℕ) (action : PayloadAction) (m : ℕ)
    (x : PayloadAction) : s.sequences m x ≤
      (PayloadService.sent runId call marker action attempt s).sequences m x := by
  unfold PayloadService.sent
  dsimp only
  rw [Function.update_apply]
  split
  · rename_i hm
    subst hm
    rw [Function.update_apply]
    split
    · rename_i hx
      subst hx
      exact Nat.le_succ _
    · exact Nat.le_refl _
  · exact Nat.le_refl _

/-- A request is sent. -/
theorem ServiceInv.sent (h : ServiceInv a os s) {call marker attempt : ℕ} {action : PayloadAction}
    (hready : s.calls call = some (.ready marker action attempt)) :
    ServiceInv a (os ++ [ServiceNote.sent call (request runId marker action s)])
      (PayloadService.sent runId call marker action attempt s) := by
  have hnew : request runId marker action s ∉ sentOf os ∧
      (request runId marker action s).commandId ∉
        (sentOf os).map PayloadRequest.commandId := by
    have hid : (request runId marker action s).commandId ∉
        (sentOf os).map PayloadRequest.commandId := by
      intro hmem
      obtain ⟨q, hq, hsame⟩ := List.mem_map.mp hmem
      obtain ⟨m, x, n, hcommand, hn⟩ := h.counted q hq
      obtain ⟨rfl, rfl, rfl⟩ := adapterCommandId_injective (hcommand.symm.trans hsame)
      omega
    exact ⟨fun hmem => hid (List.mem_map_of_mem hmem), hid⟩
  have hcalls : (PayloadService.sent runId call marker action attempt s).calls call =
      some (.calling marker action attempt (request runId marker action s)) :=
    Function.update_self _ _ _
  have htale := h.tales call
  rw [hready] at htale
  refine ⟨?_, ?_, ?_, ?_, ?_, @tales_step os _ s _ h.tales call (fun n hn => ?_) ?_
    fun other hother => ?_⟩
  · have heffects : effectsOf (os ++ [ServiceNote.sent call (request runId marker action s)]) =
        effectsOf os := by simp [effectsOf, ServiceNote.effectOf]
    rw [heffects]
    exact h.gateway
  · intro p hp
    rw [effectsOf_append]
    exact List.mem_append_left _ (h.answers p hp)
  · intro c q r hn
    rw [effectsOf_append]
    rcases List.mem_append.mp hn with hn | hn
    · exact List.mem_append_left _ (h.answered c q r hn)
    · cases List.mem_singleton.mp hn
  · intro q hq
    rw [sentOf_append] at hq
    rcases List.mem_append.mp hq with hq | hq
    · obtain ⟨m, x, n, hcommand, hn⟩ := h.counted q hq
      exact ⟨m, x, n, hcommand, hn.trans (sent_sequences call marker attempt action m x)⟩
    · obtain rfl := List.mem_singleton.mp hq
      refine ⟨marker, action, s.sequences marker action + 1, rfl, ?_⟩
      simp [PayloadService.sent]
  · rw [sentOf_append, List.map_append]
    refine List.nodup_append.mpr ⟨h.fresh, List.nodup_singleton _, fun x hx y hy hxy => ?_⟩
    obtain rfl := List.mem_singleton.mp hy
    exact hnew.2 (hxy ▸ hx)
  · rw [List.mem_singleton.mp hn]
    rfl
  · rw [hcalls]
    generalize taleOf call os = notes at htale
    cases htale with
    | ready => exact .calling _ _ _ rfl
    | again hname hrefused hstale => exact .callingAgain hname hrefused hstale
  · exact Function.update_of_ne hother _ _

theorem ServiceInv.stepped (h : ServiceInv a os s) (hs : Stepped a runId s i t o)
    (hi : UnstaleInput i) : ServiceInv a (os ++ o) t := by
  cases hs with
  | @refused call reason hnone _ =>
    have htale := h.tales call
    rw [hnone] at htale
    refine h.quiet rfl rfl rfl rfl rfl (fun _ _ _ hn => ?_) (tales_step h.tales (fun n hn => ?_) ?_
      fun other hother => Function.update_of_ne hother _ _)
    · cases List.mem_singleton.mp hn
    · rw [List.mem_singleton.mp hn]
      rfl
    · show Tale call _ (Function.update s.calls call _ call)
      rw [Function.update_self]
      generalize taleOf call os = notes at htale
      cases htale
      exact .never
  | @begun call marker action hnone =>
    have htale := h.tales call
    rw [hnone] at htale
    refine h.quiet rfl rfl rfl rfl rfl (fun _ _ _ hn => ?_) (tales_step h.tales (fun n hn => ?_) ?_
      fun other hother => Function.update_of_ne hother _ _)
    · cases hn
    · cases hn
    · show Tale call _ (Function.update s.calls call _ call)
      rw [Function.update_self, List.append_nil]
      generalize taleOf call os = notes at htale
      cases htale
      exact .ready _ _
  | sent hready => exact h.sent hready
  | moved hstep hm => exact h.moved hstep (hm hi)
  | @answered call marker attempt action q response hcalling hanswer =>
    have htale := h.tales call
    rw [hcalling] at htale
    have hnotes := @answered_notes call marker attempt action q response s
    have hown : ∀ n ∈ (PayloadService.answered call marker action attempt q response s).2,
        n.callOf = some call ∧ n.effectOf = none ∧ n.requestOf = none := by
      intro n hn
      rcases hnotes hn with ⟨r, -, rfl⟩ | rfl | ⟨reason, rfl⟩
      · exact ⟨rfl, rfl, rfl⟩
      · exact ⟨rfl, rfl, rfl⟩
      · exact ⟨rfl, rfl, rfl⟩
    have hmatches : ∀ r ∈ response, Matches q r := by
      intro r hr
      obtain ⟨ms, hrun, -⟩ := h.gateway
      exact GatewaySystem.returned_matches hrun (h.answers _ (hanswer r hr))
    have hsame : (PayloadService.answered call marker action attempt q response s).1.gateway =
          s.gateway ∧
        (PayloadService.answered call marker action attempt q response s).1.answers = s.answers ∧
        (PayloadService.answered call marker action attempt q response s).1.sequences =
          s.sequences := by
      unfold PayloadService.answered
      split <;> exact ⟨rfl, rfl, rfl⟩
    refine h.quiet hsame.1 hsame.2.1 hsame.2.2
      (List.filterMap_eq_nil_iff.mpr fun n hn => (hown n hn).2.1)
      (List.filterMap_eq_nil_iff.mpr fun n hn => (hown n hn).2.2) (fun c q' r hn => ?_)
      (tales_step h.tales (fun n hn => (hown n hn).1) (htale.answered hmatches)
        fun other hother => answered_calls hother)
    rcases hnotes hn with ⟨r', hr', he⟩ | he | ⟨reason, he⟩
    · cases he
      exact hanswer r hr'
    · cases he
    · cases he
  | @failed call state reason hstate hlive =>
    have htale := h.tales call
    rw [hstate] at htale
    refine h.quiet rfl rfl rfl rfl rfl (fun _ _ _ hn => ?_) (tales_step h.tales (fun n hn => ?_) ?_
      fun other hother => Function.update_of_ne hother _ _)
    · cases List.mem_singleton.mp hn
    · rw [List.mem_singleton.mp hn]
      rfl
    · show Tale call _ (Function.update s.calls call _ call)
      rw [Function.update_self]
      exact .failed htale hlive

theorem serviceInv_run {is : List ServiceInput}
    (hrun : Run (Steps (step a runId)) .initial is os s) (his : ∀ i ∈ is, UnstaleInput i) :
    ServiceInv a os s := by
  induction hrun with
  | start => exact .start a
  | @step is os s i o t _ hs ih =>
    exact (ih fun i' hi' => his i' (List.mem_append_left _ hi')).stepped (step_stepped hs)
      (his i (List.mem_append_right _ (List.mem_singleton.mpr rfl)))

/-! ## 7. What the tales say -/

/-- What a tale says of the requests it names. -/
inductive Requests (call : ℕ) (notes : List ServiceNote) : List PayloadRequest → Prop
  | none : Requests call notes []
  | one (request : PayloadRequest) : Requests call notes [request]
  | two {first second : PayloadRequest} {response : PayloadResponse}
      (hname : first.action = "release") (hmem : ServiceNote.answered call first response ∈ notes)
      (hrefused : response.accepted = false) (hstale : response.code = staleCode) :
      Requests call notes [first, second]

theorem Requests.append {call : ℕ} {notes new : List ServiceNote} {qs : List PayloadRequest}
    (h : Requests call notes qs) : Requests call (notes ++ new) qs := by
  cases h with
  | none => exact .none
  | one request => exact .one request
  | two hname hmem hrefused hstale =>
    exact .two hname (List.mem_append_left _ hmem) hrefused hstale

theorem Tale.requests {call : ℕ} {notes : List ServiceNote} {state : Option AdapterCall}
    (h : Tale call notes state) : Requests call notes (sentOf notes) := by
  induction h with
  | absent | ready | never => exact .none
  | calling => exact .one _
  | again => exact .one _
  | callingAgain hname hrefused hstale =>
    exact .two hname (List.mem_cons_of_mem _ List.mem_cons_self) hrefused hstale
  | returned _ _ ih | refused _ _ ih | failed _ _ ih =>
    rw [sentOf_append]
    simp only [sentOf, List.filterMap_cons, ServiceNote.requestOf, List.filterMap_nil,
      List.append_nil]
    exact ih.append

/-- A call under way was not accepted so far, and in `client.call` its last request is known. -/
theorem Tale.live {call : ℕ} {notes : List ServiceNote} {state : AdapterCall}
    (h : Tale call notes (some state)) (hlive : Live state) :
    .returned call ∉ notes ∧ (∀ q r, ServiceNote.answered call q r ∈ notes → r.accepted = false) ∧
      ∀ marker action attempt q, state = .calling marker action attempt q →
        (sentOf notes).getLast? = some q := by
  generalize hst : some state = st at h
  cases h with
  | absent => cases hst
  | ready | again =>
    cases hst
    refine ⟨by simp, ?_, fun _ _ _ _ he => by cases he⟩
    intro q r hn
    simp_all
  | calling | callingAgain =>
    cases hst
    refine ⟨by simp, ?_, fun _ _ _ _ he => by cases he; rfl⟩
    intro q r hn
    simp_all
  | returned | refused | failed | never =>
    cases hst
    cases hlive

/-- **A call returned True exactly where the answer to its last request is accepted.** -/
theorem Tale.accepted {call : ℕ} {notes : List ServiceNote} {state : Option AdapterCall}
    (h : Tale call notes state) : ServiceNote.returned call ∈ notes ↔ ∃ request response,
      (sentOf notes).getLast? = some request ∧ ServiceNote.answered call request response ∈ notes ∧
        response.accepted = true := by
  have hnever : ∀ {os : List ServiceNote}, ServiceNote.returned call ∉ os →
      (∀ q r, ServiceNote.answered call q r ∈ os → r.accepted = false) →
      (ServiceNote.returned call ∈ os ↔ ∃ request response, (sentOf os).getLast? = some request ∧
        .answered call request response ∈ os ∧ response.accepted = true) := by
    intro os hno hrefused
    refine ⟨fun hmem => absurd hmem hno, fun hex => ?_⟩
    obtain ⟨q, r, -, hmem, haccepted⟩ := hex
    rw [hrefused q r hmem] at haccepted
    cases haccepted
  cases h with
  | absent => exact hnever (by simp) fun _ _ hn => by cases hn
  | never => exact hnever (by simp) fun _ _ hn => by simp at hn
  | ready => exact hnever (by simp) fun _ _ hn => by cases hn
  | calling => exact hnever (by simp) fun _ _ hn => by simp at hn
  | @again marker first response hname hrefused hstale =>
    have htale : Tale call _ (some (.ready marker .release 1)) := .again hname hrefused hstale
    obtain ⟨hno, hopen, -⟩ := htale.live (.ready _ _ _)
    exact hnever hno hopen
  | @callingAgain marker first second response hname hrefused hstale =>
    have htale : Tale call _ (some (.calling marker .release 1 second)) :=
      .callingAgain hname hrefused hstale
    obtain ⟨hno, hopen, -⟩ := htale.live (.calling _ _ _ _)
    exact hnever hno hopen
  | @returned notes marker attempt action q r hbefore haccepted =>
    obtain ⟨-, -, hlast⟩ := hbefore.live (.calling _ _ _ _)
    refine ⟨fun _ => ⟨q, r, ?_, by simp, haccepted⟩, fun _ => by simp⟩
    have hnone : sentOf [ServiceNote.answered call q r, .returned call] = [] := rfl
    rw [sentOf_append, hnone, List.append_nil]
    exact hlast _ _ _ _ rfl
  | @refused notes marker attempt action q r reason hbefore hrefused =>
    obtain ⟨hno, hopen, -⟩ := hbefore.live (.calling _ _ _ _)
    refine hnever (by simpa using hno) fun q' r' hn => ?_
    rcases List.mem_append.mp hn with hn | hn
    · exact hopen q' r' hn
    · simp only [List.mem_cons, reduceCtorEq, ServiceNote.answered.injEq, List.not_mem_nil,
        or_false] at hn
      obtain ⟨-, -, rfl⟩ := hn
      exact hrefused
  | @failed notes state reason hbefore hlive =>
    obtain ⟨hno, hopen, -⟩ := hbefore.live hlive
    refine hnever (by simpa using hno) fun q' r' hn => ?_
    rcases List.mem_append.mp hn with hn | hn
    · exact hopen q' r' hn
    · simp at hn

/-- A call that ended has returned True, or it raised. -/
theorem Tale.ended {call : ℕ} {notes : List ServiceNote} {returned : Bool}
    (h : Tale call notes (some (.ended returned))) :
    returned = true ↔ ServiceNote.returned call ∈ notes := by
  generalize hst : some (AdapterCall.ended returned) = st at h
  cases h with
  | returned =>
    cases hst
    simp
  | refused hbefore =>
    cases hst
    have hno := (hbefore.live (.calling _ _ _ _)).1
    simp [hno]
  | failed hbefore hlive =>
    cases hst
    have hno := (hbefore.live hlive).1
    simp [hno]
  | never =>
    cases hst
    simp
  | _ => cases hst

theorem mem_taleOf {call : ℕ} {os : List ServiceNote} {n : ServiceNote}
    (hn : n.callOf = some call) : n ∈ taleOf call os ↔ n ∈ os := by
  unfold taleOf
  rw [List.mem_filter]
  exact ⟨fun h => h.1, fun h => ⟨h, decide_eq_true hn⟩⟩

theorem ServiceInv.faithful (h : ServiceInv a os s) : Faithful os := by
  have honce : ∀ id, (commandsOf id (effectsOf os)).length ≤ 1 := by
    obtain ⟨ms, hrun, -⟩ := h.gateway
    exact (GatewaySystem.onceInv_initial hrun).once
  have huncommanded : ∀ call request response, ServiceNote.answered call request response ∈ os →
      response.code = staleCode → commandsOf request.commandId (effectsOf os) = [] := by
    obtain ⟨ms, hrun, hms⟩ := h.gateway
    intro call request response hmem hstale
    exact GatewaySystem.stale_uncommanded hrun hms (h.answered call request response hmem) hstale
  have hrequests := fun call => (h.tales call).requests
  refine ⟨h.fresh, fun call => ?_, fun call first second rest hsent => ?_, fun call => ?_⟩
  · have hcall := hrequests call
    unfold commandsBy sentBy
    generalize sentOf (taleOf call os) = qs at hcall
    cases hcall with
    | none => exact Nat.zero_le _
    | one request => simpa using honce request.commandId
    | @two first second response _ hmem _ hstale =>
      have hnone := huncommanded call first response ((mem_taleOf rfl).mp hmem) hstale
      simpa [hnone] using honce second.commandId
  · have hcall := hrequests call
    rw [show sentOf (taleOf call os) = _ from hsent] at hcall
    cases hcall with
    | @two _ _ response hname hmem hrefused hstale =>
      have hmem := (mem_taleOf rfl).mp hmem
      exact ⟨rfl, hname, huncommanded call first response hmem hstale, response, hmem, hrefused,
        hstale⟩
  · have haccepted := (h.tales call).accepted
    rw [mem_taleOf rfl] at haccepted
    refine haccepted.trans (exists_congr fun q => exists_congr fun r => ?_)
    rw [mem_taleOf rfl]
    rfl

/-! ## 8. The guarded release -/

/-- How `drop()` ends, by the end of its call. -/
def dropOutcome (returned : Bool) (reason : String) : Except ReleaseError (Option Bool) :=
  if returned then .ok (some true) else .error (.raised reason)

/-- A release output ran. -/
def GuardsPassed (log : List ReleaseNote) : Prop := ∃ time boundary, ReleaseNote.released time boundary ∈ log

/-- `release_payload_if_stable` over an adapter whose drop ended so. -/
def releaseOver (elapsed : ℚ≥0) (actuation : Actuation) (returned : Bool) (reason : String)
    (r : ReleaseControl) : Except ReleaseError Unit × ReleaseControl × List ReleaseNote :=
  Acting.call (ReleaseControl.releasePayloadIfStable d coord lidar required
    ⟨elapsed, .plain actuation (dropOutcome returned reason)⟩) r

/-- The release output takes no answer of an adapter for a success. -/
theorem releaseOutput_raises (returned : Bool) (reason : String) :
    Attempt.Raises (ReleaseControl.releaseOutput (dropOutcome returned reason)) := by
  intro u
  cases returned with
  | true => exact trivial
  | false => exact trivial

/-- **A guarded release over an adapter raises**, whatever its call came to. -/
theorem releasePayload_raises (elapsed : ℚ≥0) (actuation : Actuation) (returned : Bool)
    (reason : String) : Attempt.Raises (ReleaseControl.releasePayloadIfStable d coord lidar required
      ⟨elapsed, .plain actuation (dropOutcome returned reason)⟩) := by
  have hactuate : ∀ (c : ReleaseStabilityConfig) (k : ReleaseHoldConfirmation),
      Attempt.Raises (ReleaseControl.actuateRelease d c k actuation
        (ReleaseControl.releaseOutput (dropOutcome returned reason))) := by
    intro c k
    unfold ReleaseControl.actuateRelease
    exact .after _ fun _ => .after _ fun _ => .after _ fun passed =>
      .ite (.after _ fun _ => releaseOutput_raises returned reason) (.throw _)
  unfold ReleaseControl.releasePayloadIfStable
  refine .after _ fun _ => .after _ fun agl => .after _ fun s => .after _ fun _ => ?_
  split
  · exact .throw _
  · refine .ite (.throw _) ?_
    unfold ReleaseControl.releaseConfirmed
    refine .after _ fun c => .after _ fun now => .ite (.throw _) (.after _ fun _ => ?_)
    exact hactuate c _

theorem releaseOver_raises (elapsed : ℚ≥0) (actuation : Actuation) (returned : Bool)
    (reason : String) (r : ReleaseControl) :
    (releaseOver d coord lidar required elapsed actuation returned reason r).1 ≠ .ok () :=
  @Acting.call_spec _ _ _ _ _ r (fun outcome _ => outcome ≠ .ok ())
    ((releasePayload_raises d coord lidar required elapsed actuation returned reason ⟨r, []⟩).mono
      (fun _ _ hfalse => hfalse.elim) fun _ _ _ hok => by cases hok)

/-- **The adapters are faithful to the gateway** in every run in which no result has the gateway's
    own code; and where a call has ended, a guarded release over it whose guards pass agrees with
    the gateway -- it returns normally exactly where the command was accepted -- just where the
    command was not. -/
theorem adapter_agrees {is : List ServiceInput}
    (hrun : Run (Steps (step a runId)) .initial is os s) (his : ∀ i ∈ is, UnstaleInput i) :
    Faithful os ∧ ∀ call returned, s.calls call = some (.ended returned) →
      (returned = true ↔ Accepted call os) ∧
      ∀ d coord lidar required elapsed actuation reason r,
        GuardsPassed (releaseOver d coord lidar required elapsed actuation returned reason r).2.2 →
        (((releaseOver d coord lidar required elapsed actuation returned reason r).1 = .ok () ↔
          Accepted call os) ↔ ¬ Accepted call os) := by
  have hinv := serviceInv_run hrun his
  have hfaithful := hinv.faithful
  refine ⟨hfaithful, fun call returned hended => ⟨?_, ?_⟩⟩
  · have htale := hinv.tales call
    rw [hended] at htale
    rw [htale.ended, mem_taleOf rfl]
    exact hfaithful.accepted call
  · intro d coord lidar required elapsed actuation reason r _
    have hraises := releaseOver_raises d coord lidar required elapsed actuation returned reason r
    simp [hraises]

/-! ### A delivered payload -/

section Runs

open GatewaySystem (padAuthority standing)

def dropRequest : PayloadRequest := ⟨"run", 2, "release", "run:2:release:1"⟩

def detachedWire : String := "payload-result-v1|run:2:release:1|confirmed|detached|OK"

def detachedResponse : PayloadResponse :=
  ⟨true, "OK", "physical payload detached", "run:2:release:1", 1⟩

/-- A drop call whose command the coordinator confirms. -/
def delivered : List ServiceInput :=
  (standing 100 (some 2)).map .gateway ++
    [ServiceInput.drop 0 2, .send 0, .take dropRequest, .gateway .proceed, .gateway .proceed, .gateway .proceed,
      .gateway (.publish false), .gateway (.result 2 detachedWire), .gateway (.wake true),
      .gateway .proceed, .gateway .proceed, .gateway .proceed, .gateway .proceed,
      .answer 0 (some detachedResponse)]

theorem delivered_unstale : ∀ i ∈ delivered, UnstaleInput i := by
  have hwire : parsePhysicalResult detachedWire =
      .ok ⟨"run:2:release:1", "confirmed", "detached", "OK"⟩ := by decide +kernel
  simp [delivered, standing, PayloadGateway.markers, UnstaleInput, Unstale, hwire, staleCode]

theorem delivered_run : ∃ os s, Run (Steps (step padAuthority "run")) .initial delivered os s ∧
    s.calls 0 = some (.ended true) ∧ ServiceNote.returned 0 ∈ os := by
  obtain ⟨s, os, hrun, hp⟩ := exists_run (f := step padAuthority "run") (C := fun _ _ => true)
    (s := .initial) (l := delivered)
    (p := fun s os => decide (s.calls 0 = some (.ended true) ∧ ServiceNote.returned 0 ∈ os))
    (by decide +kernel)
  exact ⟨os, s, hrun.of_meeting, of_decide_eq_true hp⟩

/-- The control after a hold that was confirmed. -/
def confirmed : ReleaseControl :=
  (Acting.calls (ReleaseControl.serve ReleaseControl.above) (ReleaseControl.created 0)
    [ReleaseControl.steadyHold]).1

/-- The release after it, over the call that returned. -/
def deliveredRelease : Except ReleaseError Unit × ReleaseControl × List ReleaseNote :=
  releaseOver ReleaseControl.above ReleaseControl.tenMetres 1 (some 10) 0
    ⟨.ok (), ⟨.ok (), 0, 0, ReleaseControl.hovering 2 3, true⟩⟩ true "" confirmed

theorem deliveredRelease_passes : GuardsPassed deliveredRelease.2.2 :=
  ⟨2, ReleaseControl.lastSeen, by decide +kernel⟩

theorem adapter_agrees_delivered : ∃ os, Faithful os ∧ Accepted 0 os ∧
    ((deliveredRelease.1 = .ok () ↔ Accepted 0 os) ↔ ¬ Accepted 0 os) := by
  obtain ⟨os, s, hrun, hended, -⟩ := delivered_run
  obtain ⟨hfaithful, hrelease⟩ := adapter_agrees hrun delivered_unstale
  obtain ⟨haccepted, hagrees⟩ := hrelease 0 true hended
  exact ⟨os, hfaithful, haccepted.mp rfl, hagrees _ _ _ _ _ _ _ _ deliveredRelease_passes⟩

/-- **A release that the gateway accepted, reported as a failure**: the drop call returned True, and
    the release over it raises. -/
theorem accepted_release_raises : ∃ os s,
    Run (Steps (step padAuthority "run")) .initial delivered os s ∧ Accepted 0 os ∧
    s.calls 0 = some (.ended true) ∧ GuardsPassed deliveredRelease.2.2 ∧
    deliveredRelease.1 =
      .error (.raised "payload release command returned an invalid result") := by
  obtain ⟨os, s, hrun, hended, hreturned⟩ := delivered_run
  refine ⟨os, s, hrun, ?_, hended, deliveredRelease_passes, by decide +kernel⟩
  exact ((serviceInv_run hrun delivered_unstale).faithful.accepted 0).mp hreturned

end Runs

end PayloadService

end DroneSim
