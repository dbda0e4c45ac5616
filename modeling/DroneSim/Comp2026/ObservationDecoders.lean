/-
  File:      DroneSim/Comp2026/ObservationDecoders.lean
  Subject:   RC health from SYS_STATUS (control/flight_profile.py, ObservationDecoders).

  A callback reserves an order, reads the clock and publishes; others may do anything in between. What
  happens under the lock is one step. Every step notes what it does, so that a run has the whole history.

  * `RcInv` -- the invariant: every order above the barrier was reserved after the last invalidation,
    and a healthy value in force was published by such a callback;
  * `rc_health_fresh` -- what holds whenever the check of RC health succeeds.
-/
import DroneSim.Comp2026.FlightState
import DroneSim.Library.MachineFloat
import DroneSim.Library.Run

namespace DroneSim

open Library MachineFloat

/-! ## 1. Messages -/

/-- What `observe_sys_status` reads of a message. A field that is no `int` is `none`. -/
structure SysStatusMessage where
  source : Option SourceIdentity
  present : Option ℤ
  enabled : Option ℤ
  health : Option ℤ

/-- `_message_int` with `high=0xFFFFFFFF`. -/
def messageInt (value : Option ℤ) : Option ℕ :=
  value.bind fun value => if 0 ≤ value ∧ value ≤ 0xFFFFFFFF then some value.toNat else none

/-- `value & RC_RECEIVER_SENSOR_BIT != 0`. -/
def hasReceiver (value : ℕ) : Bool := value &&& 65536 != 0

/-- The health that a message shows: `none` where it cannot be decoded. -/
def SysStatusMessage.rcHealth (message : SysStatusMessage) : Option Bool :=
  match messageInt message.present, messageInt message.enabled, messageInt message.health with
  | some present, some enabled, some health =>
    some (hasReceiver present && hasReceiver enabled && hasReceiver health)
  | _, _, _ => none

/-! ## 2. Under the lock -/

/-- What the decoders are built with. -/
structure RcSetup (R : Type) where
  flightController : SourceIdentity
  rcHealthMaxAge : R
  /-- A flight state is bound. -/
  bound : Bool

structure RcHealth (R : Type) where
  health : Option Bool
  receivedAt : Option R
  nextOrder : ℕ
  acceptedOrder : ℕ
  invalidationBarrier : ℕ

/-- What is noted: the effects, and each check that succeeds. -/
inductive RcNote (R : Type) where
  | reserved (order : ℕ)
  | published (order : ℕ) (health : Option Bool) (receivedAt : R)
  | invalidated
  | revoked
  | passed (now : R)
  deriving DecidableEq

namespace RcHealth

variable {R : Type}
variable (c : RcSetup R)

/-- `__init__`. -/
def initial : RcHealth R := ⟨none, none, 1, 0, 0⟩

/-- `_advance_invalidation_barrier_locked`. -/
def advanceInvalidationBarrier (s : RcHealth R) : RcHealth R :=
  { s with invalidationBarrier := max s.invalidationBarrier (s.nextOrder - 1) }

/-- `_revoke_rc_evidence_locked`. -/
def revokeRcEvidence : List (RcNote R) := if c.bound then [.revoked] else []

/-- The block of a callback whose clock reading is no finite number. -/
def rejectReading (order : ℕ) (s : RcHealth R) : RcHealth R × List (RcNote R) :=
  if order ≤ s.invalidationBarrier ∨ order ≤ s.acceptedOrder then (s, [])
  else ({ s.advanceInvalidationBarrier with health := none }, .invalidated :: revokeRcEvidence c)

/-- A value is received that is not older than the one before. -/
def store (order : ℕ) (health : Option Bool) (receivedAt : R) (s : RcHealth R) : RcHealth R :=
  { s with
    health := health
    receivedAt := some receivedAt
    acceptedOrder := max s.acceptedOrder order }

variable [MachineFloat R] (c : RcSetup R)

/-- `float(received_at) < self._rc_health_received_at`. -/
def older (receivedAt : R) (s : RcHealth R) : Bool :=
  match s.receivedAt with
  | none => false
  | some earlier => decide (receivedAt < earlier)

/-- The block that publishes. -/
def publish (order : ℕ) (health : Option Bool) (receivedAt : R) (s : RcHealth R) :
    RcHealth R × List (RcNote R) :=
  if order ≤ s.invalidationBarrier then (s, [])
  else if s.older receivedAt then (s, [])
  else if health = some true then
    (s.store order health receivedAt, [RcNote.published order health receivedAt])
  else
    ((s.store order health receivedAt).advanceInvalidationBarrier,
      .published order health receivedAt :: .invalidated :: revokeRcEvidence c)

/-- What a callback publishes by the reading of its clock, `none` where that is no number. -/
def observe (message : SysStatusMessage) (order : ℕ) (reading : Option R) (s : RcHealth R) :
    RcHealth R × List (RcNote R) :=
  match reading with
  | none => s.rejectReading c order
  | some receivedAt =>
    if isFinite receivedAt then s.publish c order message.rcHealth receivedAt
    else s.rejectReading c order

/-- The age does not do. -/
def expired (age : R) : Bool :=
  !isFinite age || decide (age < 0.0) || decide (c.rcHealthMaxAge < age)

/-- `_current_rc_health`. -/
def currentRcHealth (now : R) (s : RcHealth R) : Option Bool × RcHealth R × List (RcNote R) :=
  match s.receivedAt with
  | none => (none, s, [])
  | some receivedAt =>
    if expired c (now - receivedAt) then
      (none, { s with health := none }.advanceInvalidationBarrier, [RcNote.invalidated])
    else (s.health, s, [])

/-- The health at a clock reading, `none` where that is no finite number. -/
def healthAt (now : Option R) (s : RcHealth R) : Option Bool × RcHealth R × List (RcNote R) :=
  match now with
  | none => (none, s, [])
  | some now => if isFinite now then s.currentRcHealth c now else (none, s, [])

/-- The end of a check that fails. -/
def loseHealth (health : Option Bool) (s : RcHealth R) : RcHealth R × List (RcNote R) :=
  (if health = none then { s.advanceInvalidationBarrier with health := none }
    else s.advanceInvalidationBarrier,
    .invalidated :: revokeRcEvidence c)

/-- `_check_rc_health_locked`, which `check_rc_health`, `check_authority_dependency` and
    `output_transaction` begin with: a check that succeeds is noted, any other raises. -/
def checkRcHealth (now : Option R) (s : RcHealth R) : RcHealth R × List (RcNote R) :=
  match s.healthAt c now, now with
  | (some true, t, notes), some now => (t, notes ++ [RcNote.passed now])
  | (health, t, notes), _ =>
    ((t.loseHealth c health).1, notes ++ (t.loseHealth c health).2)

end RcHealth

/-! ## 3. Steps -/

/-- A callback between its reservation and its end. The reading is `none` until the clock was read. -/
structure RcCallback (R : Type) where
  message : SysStatusMessage
  reading : Option (Option R)

structure RcMachine (R : Type) where
  rc : RcHealth R
  callbacks : ℕ → Option (RcCallback R)

/-- What may happen next. -/
inductive RcEvent (R : Type) where
  /-- A callback begins. -/
  | sysStatus (message : SysStatusMessage)
  /-- A callback reads the clock. -/
  | clockRead (order : ℕ) (reading : Option R)
  /-- A callback takes the lock again. -/
  | publish (order : ℕ)
  /-- A callback raises, or its thread is gone. -/
  | lost (order : ℕ)
  | check (now : Option R)
  /-- `rc_health_decoder`, of a packet that it reads the health for. -/
  | decode (now : Option R)

namespace RcMachine

variable {R : Type} [MachineFloat R]

def initial : RcMachine R := ⟨.initial, fun _ => none⟩

/-- `observe_sys_status` up to the clock. -/
def reserve (c : RcSetup R) (s : RcMachine R) (message : SysStatusMessage) :
    RcMachine R × List (RcNote R) :=
  if message.source = some c.flightController then
    ({ rc := { s.rc with nextOrder := s.rc.nextOrder + 1 }
       callbacks := Function.update s.callbacks s.rc.nextOrder (some ⟨message, none⟩) },
      [RcNote.reserved s.rc.nextOrder])
  else (s, [])

/-- `received_at = self._clock()`. -/
def readClock (s : RcMachine R) (order : ℕ) (reading : Option R) : RcMachine R :=
  match s.callbacks order with
  | some ⟨message, none⟩ =>
    { s with callbacks := Function.update s.callbacks order (some ⟨message, some reading⟩) }
  | _ => s

/-- `observe_sys_status` from there on. -/
def finish (c : RcSetup R) (s : RcMachine R) (order : ℕ) : RcMachine R × List (RcNote R) :=
  match s.callbacks order with
  | some ⟨message, some reading⟩ =>
    (⟨(s.rc.observe c message order reading).1, Function.update s.callbacks order none⟩,
      (s.rc.observe c message order reading).2)
  | _ => (s, [])

/-- One step; what does not apply does nothing. -/
def step (c : RcSetup R) (s : RcMachine R) : RcEvent R → RcMachine R × List (RcNote R)
  | .sysStatus message => s.reserve c message
  | .clockRead order reading => (s.readClock order reading, [])
  | .publish order => s.finish c order
  | .lost order => ({ s with callbacks := Function.update s.callbacks order none }, [])
  | .check now => ({ s with rc := (s.rc.checkRcHealth c now).1 }, (s.rc.checkRcHealth c now).2)
  | .decode now =>
    ({ s with rc := (s.rc.healthAt c now).2.1 }, (s.rc.healthAt c now).2.2)

end RcMachine

/-- The steps as a machine. -/
def RcSteps {R : Type} [MachineFloat R] (c : RcSetup R) :
    RcMachine R → RcEvent R → List (RcNote R) → RcMachine R → Prop :=
  fun s i o t => s.step c i = (t, o)

/-! ## 4. The history of a healthy value -/

/-- A note that is neither an invalidation nor a publication. -/
def RcNote.neutral {R : Type} : RcNote R → Bool
  | .published .. => false
  | .invalidated => false
  | _ => true

/-- **A healthy value in force**: a callback published it that was reserved after every invalidation,
    and nothing was published since. -/
def InForce {R : Type} (os : List (RcNote R)) (receivedAt : R) : Prop :=
  ∃ order before between after,
    os = before ++ RcNote.reserved order :: (between ++ RcNote.published order (some true) receivedAt :: after) ∧
    .invalidated ∉ between ∧ (∀ n ∈ after, n.neutral = true)

/-- The order was reserved after the last invalidation. -/
def ReservedAfter {R : Type} (os : List (RcNote R)) (order : ℕ) : Prop :=
  ∃ before after, os = before ++ RcNote.reserved order :: after ∧ RcNote.invalidated ∉ after

theorem ReservedAfter.append {R : Type} {os new : List (RcNote R)} {order : ℕ}
    (h : ReservedAfter os order) (hnew : RcNote.invalidated ∉ new) : ReservedAfter (os ++ new) order := by
  obtain ⟨before, after, rfl, hafter⟩ := h
  refine ⟨before, after ++ new, by simp, fun hmem => ?_⟩
  rcases List.mem_append.mp hmem with hmem | hmem
  · exact hafter hmem
  · exact hnew hmem

theorem InForce.append {R : Type} {os new : List (RcNote R)} {receivedAt : R}
    (h : InForce os receivedAt) (hnew : ∀ n ∈ new, n.neutral = true) :
    InForce (os ++ new) receivedAt := by
  obtain ⟨order, before, between, after, rfl, hbetween, hafter⟩ := h
  refine ⟨order, before, between, after ++ new, by simp, hbetween, fun n hmem => ?_⟩
  rcases List.mem_append.mp hmem with hmem | hmem
  · exact hafter n hmem
  · exact hnew n hmem

/-- **What holds of the evidence**, by what was noted. -/
structure RcInv {R : Type} (s : RcHealth R) (os : List (RcNote R)) : Prop where
  below : s.invalidationBarrier < s.nextOrder
  reserved : ∀ order, s.invalidationBarrier < order → order < s.nextOrder → ReservedAfter os order
  inForce : s.health = some true → ∃ receivedAt, s.receivedAt = some receivedAt ∧ InForce os receivedAt

namespace RcInv

variable {R : Type} {s : RcHealth R} {os : List (RcNote R)}

/-- Notes that change nothing. -/
theorem neutral (h : RcInv s os) {new : List (RcNote R)} (hnew : ∀ n ∈ new, n.neutral = true) :
    RcInv s (os ++ new) := by
  have hinvalidated : RcNote.invalidated ∉ new := fun hmem => by
    have hneutral := hnew _ hmem
    cases hneutral
  refine ⟨h.below, fun order hlow hhigh => (h.reserved order hlow hhigh).append hinvalidated, ?_⟩
  intro hhealth
  obtain ⟨receivedAt, hreceived, hforce⟩ := h.inForce hhealth
  exact ⟨receivedAt, hreceived, hforce.append hnew⟩

/-- **An invalidation** leaves no order that could still be published, and no healthy value. -/
theorem invalidate {t : RcHealth R} (hnext : t.nextOrder = s.nextOrder)
    (hbarrier : t.invalidationBarrier = max s.invalidationBarrier (s.nextOrder - 1))
    (h : RcInv s os) (hhealth : t.health ≠ some true) (os' : List (RcNote R)) : RcInv t os' := by
  have hbelow := h.below
  refine ⟨by omega, fun order hlow hhigh => ?_, fun htrue => absurd htrue hhealth⟩
  omega

end RcInv

namespace RcHealth

variable {R : Type} {c : RcSetup R} {s : RcHealth R} {os : List (RcNote R)}

theorem rejectReading_inv (h : RcInv s os) (order : ℕ) :
    RcInv (s.rejectReading c order).1 (os ++ (s.rejectReading c order).2) := by
  unfold rejectReading
  split
  · rw [List.append_nil]
    exact h
  · exact h.invalidate (by rfl) (by rfl) (by simp) _

variable [MachineFloat R]

/-- **A publication** of an order that was reserved before. -/
theorem publish_inv (h : RcInv s os) {order : ℕ} (horder : order < s.nextOrder)
    (health : Option Bool) (receivedAt : R) :
    RcInv (s.publish c order health receivedAt).1 (os ++ (s.publish c order health receivedAt).2) := by
  unfold publish
  split
  · rw [List.append_nil]
    exact h
  · rename_i hbarrier
    split
    · rw [List.append_nil]
      exact h
    · split
      · rename_i hhealthy
        subst hhealthy
        have hpublished : RcNote.invalidated ∉ [RcNote.published order (some true) receivedAt] := by simp
        obtain ⟨before, after, hos, hafter⟩ := h.reserved order (by omega) horder
        refine ⟨h.below, fun other hlow hhigh => (h.reserved other hlow hhigh).append hpublished,
          fun _ => ⟨receivedAt, rfl, order, before, after, [], ?_, hafter, by simp⟩⟩
        rw [hos]
        simp
      · rename_i hunhealthy
        exact h.invalidate (by rfl) (by rfl) hunhealthy _

theorem observe_inv (h : RcInv s os) {order : ℕ} (horder : order < s.nextOrder)
    (message : SysStatusMessage) (reading : Option R) :
    RcInv (s.observe c message order reading).1 (os ++ (s.observe c message order reading).2) := by
  unfold observe
  split
  · exact rejectReading_inv h order
  · split
    · exact publish_inv h horder _ _
    · exact rejectReading_inv h order

/-- **What a reading comes to**: the health as it is, or an invalidation. -/
theorem healthAt_cases (s : RcHealth R) (now : Option R) :
    (∃ instant receivedAt, now = some instant ∧ s.receivedAt = some receivedAt ∧
        expired c (instant - receivedAt) = false ∧ s.healthAt c now = (s.health, s, [])) ∨
      s.healthAt c now = (none, s, []) ∨
      s.healthAt c now = (none, { s with health := none }.advanceInvalidationBarrier,
        [RcNote.invalidated]) := by
  unfold healthAt
  cases now with
  | none => exact .inr (.inl rfl)
  | some instant =>
    by_cases hfinite : isFinite instant = true
    · simp only [hfinite, if_true]
      unfold currentRcHealth
      cases hreceived : s.receivedAt with
      | none => exact .inr (.inl rfl)
      | some receivedAt =>
        cases hexpired : expired c (instant - receivedAt) with
        | true => exact .inr (.inr (by simp only [hexpired, if_true]))
        | false =>
          refine .inl ⟨instant, receivedAt, rfl, rfl, hexpired, ?_⟩
          simp only [hexpired, if_neg Bool.false_ne_true]
    · simp only [hfinite]
      exact .inr (.inl rfl)

theorem healthAt_inv (h : RcInv s os) (now : Option R) :
    RcInv (s.healthAt c now).2.1 (os ++ (s.healthAt c now).2.2) := by
  rcases healthAt_cases (c := c) s now with ⟨_, _, _, _, _, hsame⟩ | hsame | hlost
  · rw [hsame, List.append_nil]
    exact h
  · rw [hsame, List.append_nil]
    exact h
  · rw [hlost]
    exact h.invalidate (by rfl) (by rfl) (by simp [advanceInvalidationBarrier]) _

omit [MachineFloat R] in
theorem loseHealth_inv (h : RcInv s os) {health : Option Bool} (hsame : health = none ∨ health = s.health)
    (hhealth : health ≠ some true) : RcInv (s.loseHealth c health).1 (os ++ (s.loseHealth c health).2) := by
  unfold loseHealth
  split
  · exact h.invalidate (by rfl) (by rfl) (by simp) _
  · rename_i hnone
    rcases hsame with hsame | hsame
    · exact absurd hsame hnone
    · rw [hsame] at hhealth
      exact h.invalidate (t := s.advanceInvalidationBarrier) (by rfl) (by rfl) hhealth _

/-- **The check of RC health**: one that succeeds finds a healthy value that does, and changes
    nothing. -/
theorem checkRcHealth_cases (s : RcHealth R) (now : Option R) :
    (∃ instant receivedAt, now = some instant ∧ s.health = some true ∧
        s.receivedAt = some receivedAt ∧ expired c (instant - receivedAt) = false ∧
        s.checkRcHealth c now = (s, [RcNote.passed instant])) ∨
      ∃ health, (s.healthAt c now).1 = health ∧ health ≠ some true ∧
        s.checkRcHealth c now = (((s.healthAt c now).2.1.loseHealth c health).1,
          (s.healthAt c now).2.2 ++ ((s.healthAt c now).2.1.loseHealth c health).2) := by
  unfold checkRcHealth
  rcases healthAt_cases (c := c) s now with
    ⟨instant, receivedAt, rfl, hreceived, hexpired, hsame⟩ | hsame | hlost
  · rw [hsame]
    cases hhealth : s.health with
    | none => exact .inr ⟨none, rfl, by simp, rfl⟩
    | some healthy =>
      cases healthy with
      | true => exact .inl ⟨instant, receivedAt, rfl, rfl, hreceived, hexpired, rfl⟩
      | false => exact .inr ⟨some false, rfl, by simp, rfl⟩
  · rw [hsame]
    exact .inr ⟨none, rfl, by simp, rfl⟩
  · rw [hlost]
    exact .inr ⟨none, rfl, by simp, rfl⟩

theorem checkRcHealth_inv (h : RcInv s os) (now : Option R) :
    RcInv (s.checkRcHealth c now).1 (os ++ (s.checkRcHealth c now).2) := by
  rcases checkRcHealth_cases (c := c) s now with ⟨_, _, _, _, _, _, hpassed⟩ | ⟨health, hthen, hhealth, hlost⟩
  · rw [hpassed]
    exact h.neutral (by simp [RcNote.neutral])
  · have hsame : health = none ∨ health = (s.healthAt c now).2.1.health := by
      rcases healthAt_cases (c := c) s now with ⟨_, _, _, _, _, hsame⟩ | hsame | hsame
      · rw [hsame] at hthen ⊢
        exact .inr hthen.symm
      · rw [hsame] at hthen
        exact .inl hthen.symm
      · rw [hsame] at hthen
        exact .inl hthen.symm
    rw [hlost, ← List.append_assoc]
    exact loseHealth_inv (healthAt_inv h now) hsame hhealth

end RcHealth

/-! ## 5. Every run -/

/-- The evidence, and callbacks whose orders were reserved. -/
structure RcMachine.Inv {R : Type} (s : RcMachine R) (os : List (RcNote R)) : Prop where
  rc : RcInv s.rc os
  callbacks : ∀ order callback, s.callbacks order = some callback → order < s.rc.nextOrder

namespace RcMachine

variable {R : Type} [MachineFloat R] {c : RcSetup R}

/-- What happens under the lock reserves no order. -/
theorem nextOrder_observe (s : RcHealth R) (message : SysStatusMessage) (order : ℕ)
    (reading : Option R) : (s.observe c message order reading).1.nextOrder = s.nextOrder := by
  unfold RcHealth.observe RcHealth.rejectReading RcHealth.publish RcHealth.store
    RcHealth.advanceInvalidationBarrier
  repeat' split
  all_goals rfl

theorem nextOrder_healthAt (s : RcHealth R) (now : Option R) :
    (s.healthAt c now).2.1.nextOrder = s.nextOrder := by
  rcases RcHealth.healthAt_cases (c := c) s now with ⟨_, _, _, _, _, hsame⟩ | hsame | hsame
  · rw [hsame]
  · rw [hsame]
  · rw [hsame]
    rfl

theorem nextOrder_checkRcHealth (s : RcHealth R) (now : Option R) :
    (s.checkRcHealth c now).1.nextOrder = s.nextOrder := by
  rcases RcHealth.checkRcHealth_cases (c := c) s now with ⟨_, _, _, _, _, _, h⟩ | ⟨health, _, _, h⟩
  · rw [h]
  · rw [h]
    have hsame := nextOrder_healthAt (c := c) s now
    unfold RcHealth.loseHealth
    split
    · exact hsame
    · exact hsame

omit [MachineFloat R] in
theorem initial_inv : Inv (initial : RcMachine R) [] := by
  refine ⟨⟨Nat.zero_lt_one, fun order hlow hhigh => ?_, fun h => by cases h⟩, fun _ _ h => by cases h⟩
  have hlow' : 0 < order := hlow
  have hhigh' : order < 1 := hhigh
  omega

omit [MachineFloat R] in
theorem update_below {callbacks : ℕ → Option (RcCallback R)} {bound key : ℕ}
    {value : Option (RcCallback R)} (hvalue : value ≠ none → key < bound)
    (h : ∀ order callback, callbacks order = some callback → order < bound) :
    ∀ order callback, Function.update callbacks key value order = some callback → order < bound := by
  intro order callback hcallback
  by_cases hkey : order = key
  · subst hkey
    rw [Function.update_self] at hcallback
    exact hvalue (by rw [hcallback]; simp)
  · rw [Function.update_of_ne hkey] at hcallback
    exact h order callback hcallback

/-- **Every step** keeps the invariant. -/
theorem step_inv {s t : RcMachine R} {os o : List (RcNote R)} {i : RcEvent R} (h : Inv s os)
    (hstep : RcSteps c s i o t) : Inv t (os ++ o) := by
  have hstill : Inv s (os ++ []) := by
    rw [List.append_nil]
    exact h
  cases i with
  | sysStatus message =>
    have heq : s.reserve c message = (t, o) := hstep
    unfold reserve at heq
    split at heq
    · cases heq
      refine ⟨⟨Nat.lt_succ_of_lt h.rc.below, fun order hlow hhigh => ?_, fun hhealth => ?_⟩,
        update_below (fun _ => Nat.lt_succ_self _) fun order callback hcallback =>
          Nat.lt_succ_of_lt (h.callbacks order callback hcallback)⟩
      · have hbound : order < s.rc.nextOrder + 1 := hhigh
        rcases Nat.lt_succ_iff_lt_or_eq.mp hbound with hless | rfl
        · exact (h.rc.reserved order hlow hless).append (by simp)
        · exact ⟨os, [], rfl, List.not_mem_nil⟩
      · obtain ⟨receivedAt, hreceived, hforce⟩ := h.rc.inForce hhealth
        exact ⟨receivedAt, hreceived, hforce.append (by simp [RcNote.neutral])⟩
    · cases heq
      exact hstill
  | clockRead order reading =>
    cases hstep
    unfold readClock
    rw [List.append_nil]
    split
    · rename_i message hcallback
      exact ⟨h.rc, update_below (fun _ => h.callbacks order _ hcallback) h.callbacks⟩
    · exact h
  | publish order =>
    have heq : s.finish c order = (t, o) := hstep
    unfold finish at heq
    split at heq
    · rename_i message reading hcallback
      cases heq
      have horder := h.callbacks order _ hcallback
      refine ⟨RcHealth.observe_inv h.rc horder message reading, ?_⟩
      show ∀ other callback, _ → other < (s.rc.observe c message order reading).1.nextOrder
      rw [nextOrder_observe]
      exact update_below (fun hne => absurd rfl hne) h.callbacks
    · cases heq
      exact hstill
  | lost order =>
    cases hstep
    rw [List.append_nil]
    exact ⟨h.rc, update_below (fun hne => absurd rfl hne) h.callbacks⟩
  | check now =>
    cases hstep
    refine ⟨RcHealth.checkRcHealth_inv h.rc now, ?_⟩
    show ∀ other callback, _ → other < (s.rc.checkRcHealth c now).1.nextOrder
    rw [nextOrder_checkRcHealth]
    exact h.callbacks
  | decode now =>
    cases hstep
    refine ⟨RcHealth.healthAt_inv h.rc now, ?_⟩
    show ∀ other callback, _ → other < (s.rc.healthAt c now).2.1.nextOrder
    rw [nextOrder_healthAt]
    exact h.callbacks

theorem run_inv {s : RcMachine R} {os : List (RcNote R)} {is : List (RcEvent R)}
    (h : Run (RcSteps c) initial is os s) : Inv s os := by
  induction h with
  | start => exact initial_inv
  | step _ hs ih => exact step_inv ih hs

omit [MachineFloat R] in
theorem not_passed_revoke {now : R} : RcNote.passed now ∉ RcHealth.revokeRcEvidence c := by
  unfold RcHealth.revokeRcEvidence
  split
  · simp
  · simp

theorem not_passed_healthAt (s : RcHealth R) (now : Option R) {t : R} :
    .passed t ∉ (s.healthAt c now).2.2 := by
  rcases RcHealth.healthAt_cases (c := c) s now with ⟨_, _, _, _, _, h⟩ | h | h
  · rw [h]
    exact List.not_mem_nil
  · rw [h]
    exact List.not_mem_nil
  · rw [h]
    simp

theorem not_passed_observe (s : RcHealth R) (message : SysStatusMessage) (order : ℕ)
    (reading : Option R) {t : R} : RcNote.passed t ∉ (s.observe c message order reading).2 := by
  have hrevoke : RcNote.passed t ∉ RcHealth.revokeRcEvidence c := not_passed_revoke
  unfold RcHealth.observe RcHealth.rejectReading RcHealth.publish
  repeat' split
  all_goals simp [hrevoke]

/-- **What a step notes of a check that succeeds.** -/
theorem passed_of_step {s t : RcMachine R} {i : RcEvent R} {o : List (RcNote R)} {now : R}
    (hstep : RcSteps c s i o t) (hmem : RcNote.passed now ∈ o) :
    o = [RcNote.passed now] ∧ s.rc.health = some true ∧ ∃ receivedAt, s.rc.receivedAt = some receivedAt ∧
      RcHealth.expired c (now - receivedAt) = false := by
  cases i with
  | sysStatus message =>
    have heq : s.reserve c message = (t, o) := hstep
    unfold reserve at heq
    split at heq
    · cases heq
      simp at hmem
    · cases heq
      cases hmem
  | clockRead order reading =>
    cases hstep
    cases hmem
  | publish order =>
    have heq : s.finish c order = (t, o) := hstep
    unfold finish at heq
    split at heq
    · cases heq
      exact absurd hmem (not_passed_observe _ _ _ _)
    · cases heq
      cases hmem
  | lost order =>
    cases hstep
    cases hmem
  | check reading =>
    cases hstep
    rcases RcHealth.checkRcHealth_cases (c := c) s.rc reading with
      ⟨instant, receivedAt, _, hhealth, hreceived, hexpired, hpassed⟩ | ⟨health, _, _, hlost⟩
    · rw [hpassed] at hmem ⊢
      have hnow : now = instant := by simpa using hmem
      subst hnow
      exact ⟨rfl, hhealth, receivedAt, hreceived, hexpired⟩
    · rw [hlost] at hmem
      rcases List.mem_append.mp hmem with hmem | hmem
      · exact absurd hmem (not_passed_healthAt s.rc reading)
      · have hrevoke : RcNote.passed now ∉ RcHealth.revokeRcEvidence c := not_passed_revoke
        simp [RcHealth.loseHealth, hrevoke] at hmem
  | decode reading =>
    cases hstep
    exact absurd hmem (not_passed_healthAt s.rc reading)

/-- **RC health is not restored by old evidence**: whenever the check succeeds, the healthy value in
    force was published by a callback that was reserved after every invalidation so far, and it was
    received no longer ago than is allowed. -/
theorem rc_health_fresh {is : List (RcEvent R)} {os before after : List (RcNote R)}
    {s : RcMachine R} {now : R} (hrun : Run (RcSteps c) initial is os s)
    (hpassed : os = before ++ RcNote.passed now :: after) :
    ∃ receivedAt, InForce before receivedAt ∧ isFinite (now - receivedAt) = true ∧
      ¬ now - receivedAt < 0.0 ∧ ¬ c.rcHealthMaxAge < now - receivedAt := by
  subst hpassed
  obtain ⟨js, -, ps, t, i, p, q, u, -, hbefore, hstep, rfl⟩ := hrun.emitted
  obtain ⟨ho, hhealth, receivedAt, hreceived, hexpired⟩ :=
    passed_of_step hstep (List.mem_append_right p List.mem_cons_self)
  have hp : p = [] := by
    cases p with
    | nil => rfl
    | cons n p => simp at ho
  obtain ⟨received, hsame, hforce⟩ := (run_inv hbefore).rc.inForce hhealth
  cases hreceived.symm.trans hsame
  rw [hp, List.append_nil]
  refine ⟨receivedAt, hforce, ?_⟩
  simpa [RcHealth.expired, and_assoc] using hexpired

end RcMachine

/-! ### A check that succeeds -/

def rcExample : RcSetup ExactNumber := ⟨⟨1, 1⟩, 2.0, true⟩

def rcHealthy : SysStatusMessage := ⟨some ⟨1, 1⟩, some 65536, some 65536, some 65536⟩

/-- A healthy message, a check that finds it too old while the next one is under way, and the one
    after. -/
def rcEvents : List (RcEvent ExactNumber) :=
  [.sysStatus rcHealthy, .clockRead 1 (some 1.0), .publish 1, .sysStatus rcHealthy,
    .clockRead 2 (some 9.0), .check (some 9.0), .publish 2, .sysStatus rcHealthy,
    .clockRead 3 (some 10.0), .publish 3]

theorem rc_health_fresh_example :
    ∃ (os : List (RcNote ExactNumber)) (s : RcMachine ExactNumber),
      Run (RcSteps rcExample) .initial (rcEvents ++ [.check (some 10.5)])
        (os ++ [RcNote.passed 10.5]) s ∧ RcNote.invalidated ∈ os ∧
      ∃ receivedAt, InForce os receivedAt ∧ isFinite ((10.5 : ExactNumber) - receivedAt) = true ∧
        ¬ (10.5 : ExactNumber) - receivedAt < 0.0 ∧
        ¬ rcExample.rcHealthMaxAge < 10.5 - receivedAt := by
  obtain ⟨s, os, hmeeting, hnotes⟩ := exists_run
    (f := fun s i => (.ok (RcMachine.step rcExample s i) : Except Empty _)) (C := fun _ _ => true)
    (s := .initial) (l := rcEvents)
    (p := fun s os => decide (RcNote.invalidated ∈ os) &&
      decide ((s.step rcExample (.check (some 10.5))).2 = [.passed 10.5])) (by decide +kernel)
  obtain ⟨hinvalidated, hpassed⟩ := Bool.and_eq_true_iff.mp hnotes
  have hrun : Run (RcSteps rcExample) .initial rcEvents os s :=
    hmeeting.mono fun _ _ _ _ h => Except.ok.inj h.1
  have hstep : RcSteps rcExample s (.check (some 10.5)) [.passed 10.5]
      (s.step rcExample (.check (some 10.5))).1 := Prod.ext rfl (of_decide_eq_true hpassed)
  have hall := hrun.step hstep
  exact ⟨os, _, hall, of_decide_eq_true hinvalidated, RcMachine.rc_health_fresh hall rfl⟩

end DroneSim
