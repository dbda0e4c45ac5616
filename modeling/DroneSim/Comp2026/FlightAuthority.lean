/-
  File:      DroneSim/Comp2026/FlightAuthority.lean
  Subject:   The companion holds authority once (control/flight_state.py).

  * `Move` -- what a call does to the fields that say who commands, one constructor a way;
  * `body_moves` -- every call does nothing but moves;
  * `OneWay`, `Onward` -- the invariant of the moves, and what is never taken back;
  * `authority_one_way` -- the companion commands during one interval of a run, FC_FAILSAFE is
    never left, PILOT only for it, and a permission does not outlast the interval.
-/
import DroneSim.Comp2026.FlightState

namespace DroneSim

open Library Library.Attempt Library.Acting

namespace FlightState

/-! ## 1. Moves -/

/-- The fields that say who commands. -/
structure Control where
  authority : Authority
  commandsSuspended : Bool
  attemptStarted : Bool
  attemptRevoked : Bool
  deriving DecidableEq

def control (s : FlightState) : Control :=
  ⟨s.authority, s.commandsSuspended, s.attemptStarted, s.attemptRevoked⟩

/-- How a call changes who commands, short of an acquisition. -/
inductive Change (s t : FlightState) : Prop where
  | kept (h : t.control = s.control)
  | revoked (h : t.control = (FlightState.revoked s).control)
  | pilot (hauthority : s.authority ≠ .fcFailsafe) (h : t.control = (taken .pilot s).control)
  | failsafe (h : t.control = (taken .fcFailsafe s).control)

/-- The steps of a call. One that does not hear leaves the observed mode or drops it, notes
    nothing and acquires nothing. -/
inductive Move (hears : Prop) : FlightState → List FlightNote → FlightState → Prop where
  | change {s t} (h : Change s t)
    (hmode : hears ∨ t.observations .mode = s.observations .mode ∨ t.observations .mode = none) :
    Move hears s [] t
  | noted {s} (note : FlightNote) (hhears : hears) : Move hears s [note] s
  | acquired {s} (hhears : hears) (hfirst : s.attemptStarted = false ∧ s.attemptRevoked = false) :
    Move hears s [] (acquired s)

/-- The call under way does moves only. -/
abbrev Steps (hears : Prop) {α : Type} (x : Op α) : Prop := Moves (Move hears) x

variable {hears : Prop} {c : FlightConfig} {w : CallSite} {s t u v : FlightState} {α : Type}

/-- A change that leaves who commands and the observed mode. -/
theorem Move.kept (h : t.control = s.control)
    (hmode : t.observations .mode = s.observations .mode ∨ t.observations .mode = none) :
    Move hears s [] t := .change (.kept h) (Or.inr hmode)

/-- An update of other fields. -/
theorem steps_update {f : FlightState → FlightState} (h : ∀ s, (f s).control = s.control)
    (hmode : ∀ s, (f s).observations .mode = s.observations .mode ∨
      (f s).observations .mode = none) : Steps hears (update f) :=
  .update fun s => .kept (h s) (hmode s)

/-- A reading of the clock changes nothing. -/
theorem wp_readClock {Q : FloatValue → Acting FlightState FlightNote → Prop}
    {E : FlightError → Acting FlightState FlightNote → Prop}
    {r : Acting FlightState FlightNote} (reading : ClockReading) :
    wp (readClock reading) Q E r ↔
      (∀ now, reading = .ok now → Q now r) ∧ ∀ error, reading = .error error →
        E (.raised error) r := by
  cases reading with
  | error error => simp [readClock]
  | ok now => simp [readClock]

theorem steps_readClock (reading : ClockReading) : Steps hears (readClock reading) := by
  unfold readClock
  split
  · exact .pure _
  · exact .throw _

/-! ## 2. The parts of the calls -/

/-- Storing is heard where a mode is stored. -/
theorem steps_updateMany (values : List (FlightField × FlightValue)) (m : Metadata)
    (hmode : hears ∨ values.lookup .mode = none) : Steps hears (updateMany c values m) := by
  unfold updateMany
  refine .ite (.throw _) (.ite (.pure _) ?_)
  split
  · exact .pure _
  · rename_i receivedAt _
    refine .bind (.ofExcept _) fun valid => .current fun s r hr => ?_
    split
    · exact hr
    · refine Moves.bind (M := Move hears) (.update fun s => ?_) (fun _ => .bind ?_ fun _ => .pure _)
        s r hr
      · refine .change (.kept rfl) ?_
        rcases hmode with hhears | hnone
        · exact Or.inl hhears
        · exact Or.inr (Or.inl (observations_of_none hnone))
      · unfold noteMode
        split
        · rename_i value hvalue
          refine .perform fun s => .noted _ ?_
          rcases hmode with hhears | hnone
          · exact hhears
          · rw [hnone] at hvalue
            cases hvalue
        · exact .pure _

theorem steps_raiseIfReentrant : Steps hears (raiseIfReentrant w) := .ite (.throw _) (.pure _)

theorem steps_revokeToUnknown : Steps hears (revokeToUnknown w) :=
  .bind (.update fun _ => .change (.revoked rfl) (Or.inr (Or.inl rfl))) fun _ =>
    steps_raiseIfReentrant

theorem steps_classifyPilot (reading : ClockReading) : Steps hears (classifyPilot c w reading) := by
  unfold classifyPilot
  refine .current fun s r hr => ?_
  split
  · exact hr
  · rename_i hauthority
    split
    · rename_i edge mode _ _
      rw [wp_bind, wp_readClock]
      refine ⟨fun now _ => ?_, fun _ _ => hr⟩
      split
      · rw [wp_bind, wp_update]
        exact steps_raiseIfReentrant s _
          (hr.silent (.change (.pilot hauthority rfl) (Or.inr (Or.inl rfl))))
      · exact hr
    · exact hr

theorem steps_classifyMode (previous : Option Observation) (observation : Observation)
    (hhears : hears) : Steps hears (classifyMode c w previous observation) := by
  unfold classifyMode
  refine .bind (steps_classifyPilot _) fun _ => .current fun s r hr => ?_
  have hcleared : Steps hears (update fun s => { s with expectedMode := none } : Op Unit) :=
    .update fun _ => .kept rfl (Or.inl rfl)
  split
  · exact hcleared s r hr
  · split
    · exact (hcleared.bind fun _ => .perform fun _ => .noted _ hhears) s r hr
    · split
      · exact hr
      · exact (steps_revokeToUnknown.bind fun _ => steps_classifyPilot _) s r hr

theorem steps_processMode (previous : Option Observation) (hhears : hears) :
    Steps hears (processMode c w previous) := by
  unfold processMode
  refine .current fun s r hr => ?_
  split
  · exact hr
  · exact ((steps_readClock _).bind fun _ => .ite (steps_classifyMode _ _ hhears) (.pure _)) s r hr

theorem steps_sampledAt (given : Option FloatValue) : Steps hears (sampledAt w given) := by
  unfold sampledAt
  split
  · exact .pure _
  · exact steps_readClock _

theorem steps_acquire (given : Option FloatValue) (hhears : hears) :
    Steps hears (acquireInitialCompanionAuthority c w given) := by
  unfold acquireInitialCompanionAuthority
  refine .bind (steps_sampledAt _) fun now => .current fun s r hr => ?_
  split
  · rename_i hmay
    have hfirst : r.state.attemptStarted = false ∧ r.state.attemptRevoked = false := by
      simp only [mayAcquire, Bool.and_eq_true, Bool.not_eq_true', Bool.or_eq_false_iff] at hmay
      exact hmay.1.1.1.1
    rw [wp_bind, wp_update]
    exact (Moves.bind (M := Move hears) (.perform fun _ => .noted _ hhears) fun _ => .pure _) s _
      (hr.silent (.acquired hhears hfirst))
  · exact hr

/-! ## 3. The calls -/

theorem steps_registerExpectedMode (mode : Option String) :
    Steps hears (registerExpectedMode c mode) := by
  unfold registerExpectedMode
  split
  · exact .throw _
  · refine .current fun s r hr => ?_
    rw [wp_bind, wp_update, wp_pure]
    exact hr.silent (.kept rfl (Or.inl rfl))

theorem steps_cancelExpectedMode (token : ℕ) :
    Steps hears (cancelExpectedMode token) := by
  unfold cancelExpectedMode
  refine .current fun s r hr => ?_
  split
  · exact hr.silent (.kept rfl (Or.inl rfl))
  · exact hr

theorem steps_observeMode (mode : Option String) (m : Metadata) (hhears : hears) :
    Steps hears (observeMode c w mode m) := by
  unfold observeMode
  split
  · exact .pure _
  · refine .current fun s r hr => ?_
    exact ((steps_updateMany _ _ (Or.inl hhears)).bind fun _ =>
      .ite ((steps_processMode _ hhears).bind fun _ => .pure _) (.pure _)) s r hr

theorem control_withoutRc (names : List FlightField) (s : FlightState) :
    (withoutRc names s).control = s.control ∧
      (withoutRc names s).observations = s.observations := by
  unfold withoutRc
  split
  · exact ⟨rfl, rfl⟩
  · exact ⟨rfl, rfl⟩

theorem steps_withoutRc (names : List FlightField) :
    Steps hears (update (withoutRc names) : Op Unit) :=
  steps_update (fun s => (control_withoutRc names s).1) fun s =>
    Or.inl (congrFun (control_withoutRc names s).2 .mode)

/-- Removing observations leaves the mode or drops it. -/
theorem mode_removed (names : List FlightField) (s : FlightState) :
    (if FlightField.mode ∈ names then none else s.observations .mode) = s.observations .mode ∨
      (if FlightField.mode ∈ names then none else s.observations .mode) = none := by
  split
  · exact Or.inr rfl
  · exact Or.inl rfl

theorem steps_invalidateLocked (names : List FlightField) (receivedAt : ℚ) (sequence : ℤ)
    (revokeAuthority : Bool) :
    Steps hears (invalidateLocked w names receivedAt sequence revokeAuthority) := by
  unfold invalidateLocked
  refine .bind (steps_update (fun _ => rfl) (mode_removed names)) fun _ =>
    .bind (steps_withoutRc names) fun _ => .ite steps_revokeToUnknown (.pure _)

theorem steps_observeHeartbeat (heartbeat : FlightValue) (armed : Option Bool)
    (mode : Option String) (m : Metadata) (hhears : hears) :
    Steps hears (observeHeartbeat c w heartbeat armed mode m) := by
  unfold observeHeartbeat
  refine .ite (.pure _) ?_
  split
  · exact .pure _
  · refine .current fun s r hr => ?_
    split
    · exact hr
    · refine (Moves.bind (M := Move hears) (.ofExcept _) fun valid => ?_) s r hr
      split
      · exact (steps_updateMany _ _ (Or.inl hhears)).bind fun _ =>
          .ite ((steps_processMode _ hhears).bind fun _ => .pure _) (.pure _)
      · exact (steps_invalidateLocked _ _ _ _).bind fun _ => .pure _

theorem steps_followSwitch (slot : String) (observation : Observation) :
    Steps hears (followSwitch c w slot observation) := by
  unfold followSwitch
  refine .current fun s r hr => ?_
  split
  · exact hr.silent (.kept rfl (Or.inl rfl))
  · split
    · rw [wp_bind, wp_update]
      exact steps_revokeToUnknown s _ (hr.silent (.kept rfl (Or.inl rfl)))
    · exact hr

theorem steps_observeRcInput (channel pwm : ℤ) (signalHealthy : Option Bool) (m : Metadata) :
    Steps hears (observeRcInput c w channel pwm signalHealthy m) := by
  unfold observeRcInput
  refine .ite (.pure _) (.bind (steps_updateMany _ _ (Or.inr rfl)) fun accepted =>
    .ite (.current fun s r hr => ?_) (.pure _))
  split
  · exact hr
  · refine ((steps_readClock _).bind fun now => ?_) s r hr
    split
    · exact (steps_followSwitch _ _).bind fun _ =>
        .bind (.update fun _ => .kept rfl (Or.inl rfl)) fun _ => .pure _
    · exact .bind (.update fun _ => .kept rfl (Or.inl rfl)) fun _ =>
        steps_revokeToUnknown.bind fun _ => .pure _

theorem steps_observeFailsafe (reason active : FlightValue) (m : Metadata) :
    Steps hears (observeFailsafe c w reason active m) := by
  unfold observeFailsafe
  refine .bind (steps_updateMany _ _ (Or.inr rfl)) fun accepted => .current fun s r hr => ?_
  split
  · split
    · exact ((steps_readClock _).bind fun now => .ite
        (.bind (.update fun _ => .change (.failsafe rfl) (Or.inr (Or.inl rfl))) fun _ =>
          steps_raiseIfReentrant.bind fun _ => .pure _) (.pure _)) s r hr
    · exact hr
  · exact hr

theorem steps_invalidateEvidence (names : List FlightField) (m : Metadata) :
    Steps hears (invalidateEvidence c w names m) := by
  unfold invalidateEvidence
  refine .ite (.throw _) (.ite (.pure _) ?_)
  split
  · exact .pure _
  · refine .current fun s r hr => ?_
    split
    · exact ((steps_invalidateLocked _ _ _ _).bind fun _ => .pure _) s r hr
    · exact hr

theorem steps_invalidateObservations (names : List FlightField) (source : SourceIdentity)
    (receivedAt : Option FloatValue) (sequence : Option ℤ) :
    Steps hears (invalidateObservations c w names source receivedAt sequence) := by
  unfold invalidateObservations
  refine .ite (.throw _) (.ite (.pure _) ?_)
  split
  · exact .bind (steps_update (fun _ => rfl) (mode_removed names)) fun _ =>
      (steps_withoutRc names).bind fun _ => steps_revokeToUnknown.bind fun _ => .pure _
  · refine .current fun s r hr => ?_
    split
    · exact hr
    · exact ((steps_invalidateLocked _ _ _ _).bind fun _ => .pure _) s r hr
  · exact .pure _
  · exact .throw _

theorem steps_dropResult {x : Op α} (h : Steps hears x) : Steps hears (dropResult x) :=
  .bind h fun _ => .pure _

/-- **Every call does nothing but moves.** -/
theorem body_moves (i : FlightCall × CallSite) : Steps True (body c i) := by
  obtain ⟨call, w⟩ := i
  cases call with
  | update values m => exact steps_dropResult (steps_updateMany _ _ (Or.inl trivial))
  | acquire now => exact steps_dropResult (steps_acquire _ trivial)
  | registerExpectedMode mode => exact steps_dropResult (steps_registerExpectedMode _)
  | cancelExpectedMode token => exact steps_dropResult (steps_cancelExpectedMode _)
  | observeMode mode m => exact steps_dropResult (steps_observeMode _ _ trivial)
  | observeHeartbeat heartbeat armed mode m =>
    exact steps_dropResult (steps_observeHeartbeat _ _ _ _ trivial)
  | observeRcInput channel pwm signalHealthy m => exact steps_dropResult (steps_observeRcInput _ _ _ _)
  | observeFailsafe reason active m => exact steps_dropResult (steps_observeFailsafe _ _ _)
  | invalidateEvidence names m => exact steps_dropResult (steps_invalidateEvidence _ _)
  | invalidateObservations names source receivedAt sequence =>
    exact steps_dropResult (steps_invalidateObservations _ _ _ _)

/-! ## 4. What the moves keep -/

/-- **The invariant**: commands are unsuspended exactly under the companion's authority, and that
    is exactly while the attempt has started and is not revoked. -/
structure OneWay (s : FlightState) : Prop where
  suspended : s.authority = .companion ↔ s.commandsSuspended = false
  attempt : s.authority = .companion ↔ s.attemptStarted = true ∧ s.attemptRevoked = false
  takenOver : s.authority = .pilot ∨ s.authority = .fcFailsafe → s.attemptRevoked = true

theorem oneWay_created : OneWay created where
  suspended := by decide
  attempt := by decide
  takenOver := by decide

/-- What no move takes back. -/
structure Onward (s t : FlightState) : Prop where
  started : s.attemptStarted = true → t.attemptStarted = true
  revoked : s.attemptRevoked = true → t.attemptRevoked = true
  failsafe : s.authority = .fcFailsafe → t.authority = .fcFailsafe
  pilot : s.authority = .pilot → t.authority = .pilot ∨ t.authority = .fcFailsafe

theorem Onward.refl (s : FlightState) : Onward s s := ⟨id, id, id, Or.inl⟩

theorem Onward.trans (h : Onward s t) (h' : Onward t u) : Onward s u where
  started hs := h'.started (h.started hs)
  revoked hs := h'.revoked (h.revoked hs)
  failsafe hs := h'.failsafe (h.failsafe hs)
  pilot hs := (h.pilot hs).elim h'.pilot fun ht => Or.inr (h'.failsafe ht)

/-- The four fields after a change. -/
theorem Change.fields (h : Change s t) :
    (t.authority = s.authority ∧ t.commandsSuspended = s.commandsSuspended ∧
      t.attemptStarted = s.attemptStarted ∧ t.attemptRevoked = s.attemptRevoked) ∨
    (t.authority = (if s.authority = .pilot ∨ s.authority = .fcFailsafe then s.authority
        else .unknown) ∧ t.commandsSuspended = true ∧ t.attemptStarted = s.attemptStarted ∧
      t.attemptRevoked = (s.attemptRevoked || s.attemptStarted)) ∨
    ((t.authority = .fcFailsafe ∨ t.authority = .pilot ∧ s.authority ≠ .fcFailsafe) ∧
      t.commandsSuspended = true ∧ t.attemptStarted = s.attemptStarted ∧
      t.attemptRevoked = true) := by
  cases h with
  | kept h => exact Or.inl (by simpa [control] using h)
  | revoked h => exact Or.inr (Or.inl (by simpa [control, FlightState.revoked] using h))
  | pilot hauthority h =>
    simp only [control, taken, Control.mk.injEq] at h
    exact Or.inr (Or.inr ⟨Or.inr ⟨h.1, hauthority⟩, h.2⟩)
  | failsafe h =>
    simp only [control, taken, Control.mk.injEq] at h
    exact Or.inr (Or.inr ⟨Or.inl h.1, h.2⟩)

/-- Under another authority commands are suspended and a started attempt is revoked. -/
theorem OneWay.left (hauthority : s.authority ≠ .companion) (hsuspended : s.commandsSuspended = true)
    (hattempt : s.attemptStarted = true → s.attemptRevoked = true)
    (htaken : s.authority = .pilot ∨ s.authority = .fcFailsafe → s.attemptRevoked = true) :
    OneWay s where
  suspended := by simp [hauthority, hsuspended]
  attempt := by
    refine ⟨fun h => absurd h hauthority, fun h => ?_⟩
    rw [hattempt h.1] at h
    cases h.2
  takenOver := htaken

theorem Change.keeps (h : Change s t) (hs : OneWay s) : OneWay t ∧ Onward s t := by
  rcases h.fields with ⟨ha, hc, hb, hr⟩ | ⟨ha, hc, hb, hr⟩ | ⟨ha, hc, hb, hr⟩
  · refine ⟨⟨?_, ?_, ?_⟩, ⟨?_, ?_, ?_, ?_⟩⟩
    · rw [ha, hc]
      exact hs.suspended
    · rw [ha, hb, hr]
      exact hs.attempt
    · rw [ha, hr]
      exact hs.takenOver
    · exact fun h => hb.trans h
    · exact fun h => hr.trans h
    · exact fun h => ha.trans h
    · exact fun h => Or.inl (ha.trans h)
  · have hrevoked : s.attemptRevoked = true → t.attemptRevoked = true := by
      intro h
      rw [hr, h, Bool.true_or]
    refine ⟨.left ?_ hc ?_ ?_, fun h => hb.trans h, hrevoked, ?_, ?_⟩
    · rw [ha]
      split
      · rename_i htaken
        rcases htaken with h | h <;> rw [h] <;> decide
      · decide
    · intro h
      rw [hr, ← hb, h, Bool.or_true]
    · intro h
      refine hrevoked (hs.takenOver ?_)
      by_contra hnot
      rw [ha, if_neg hnot] at h
      rcases h with h | h <;> cases h
    · intro h
      rw [ha, if_pos (Or.inr h), h]
    · intro h
      rw [ha, if_pos (Or.inl h), h]
      exact Or.inl rfl
  · refine ⟨.left ?_ hc (fun _ => hr) fun _ => hr, fun h => hb.trans h, fun _ => hr, ?_, ?_⟩
    · rcases ha with ha | ha
      · rw [ha]
        decide
      · rw [ha.1]
        decide
    · intro h
      rcases ha with ha | ha
      · exact ha
      · exact absurd h ha.2
    · intro _
      rcases ha with ha | ha
      · exact Or.inr ha
      · exact Or.inl ha.1

/-- **One move** keeps the invariant and takes nothing back. -/
theorem Move.keeps {o : List FlightNote} (h : Move hears s o t) (hs : OneWay s) :
    OneWay t ∧ Onward s t := by
  cases h with
  | change h _ => exact h.keeps hs
  | noted note _ => exact ⟨hs, .refl s⟩
  | acquired _ hfirst =>
    have hfree : s.authority ≠ .pilot ∧ s.authority ≠ .fcFailsafe := by
      refine ⟨fun h => ?_, fun h => ?_⟩
      · rw [hs.takenOver (Or.inl h)] at hfirst
        cases hfirst.2
      · rw [hs.takenOver (Or.inr h)] at hfirst
        cases hfirst.2
    refine ⟨⟨?_, ?_, ?_⟩, fun _ => rfl, id, fun h => absurd h hfree.2, fun h => absurd h hfree.1⟩
    · simp [FlightState.acquired]
    · simp [FlightState.acquired, hfirst.2]
    · simp [FlightState.acquired]

theorem keeps_of_moved {r : Acting FlightState FlightNote} (h : Moved (Move hears) s r)
    (hs : OneWay s) : OneWay r.state ∧ Onward s r.state := by
  obtain ⟨is, hrun⟩ := h
  refine hrun.invariant (P := fun t => OneWay t ∧ Onward s t) ⟨hs, .refl s⟩ fun t _ _ u ht hmove => ?_
  obtain ⟨hone, honward⟩ := Move.keeps hmove ht.1
  exact ⟨hone, ht.2.trans honward⟩

/-! ## 5. A flight -/

/-- `str.upper` on ASCII. -/
def asciiUpper (s : String) : String := String.ofList (s.toList.map Char.toUpper)

/-- A switch with the bands GUIDED, LOITER and LAND. -/
def benchConfig : FlightConfig where
  source := ⟨1, 1⟩
  freshnessBounds := fun _ => 2
  rcChannel := 5
  rcModeMapping := [⟨"low", 1000, 1200, "GUIDED"⟩, ⟨"middle", 1400, 1600, "LOITER"⟩,
    ⟨"high", 1800, 2000, "LAND"⟩]
  upper := asciiUpper
  bounded := fun _ => by decide
  channel := by decide
  nonempty := by decide
  slots := by decide
  named := by decide
  pulses := by decide
  apart := by decide
  guided := ⟨⟨"low", 1000, 1200, "GUIDED"⟩, by decide, by decide⟩
  takeover := ⟨⟨"middle", 1400, 1600, "LOITER"⟩, by decide, by decide⟩

/-- A call outside of an output, the clock at `now`. -/
def atTime (now : ℚ) : CallSite := ⟨.ok (some now), .ok (some now), .ok (some now), false⟩

/-- What an autopilot sends on the ground, and the acquisition. -/
def benchStart : List (FlightCall × CallSite) :=
  [(.observeHeartbeat (.integer 0) (some false) (some "GUIDED") ⟨some 1, 1, ⟨1, 1⟩⟩, atTime 1),
   (.update [(.landedState, .integer onGround)] ⟨some 1, 2, ⟨1, 1⟩⟩, atTime 1),
   (.observeRcInput 5 1100 (some true) ⟨some 1, 3, ⟨1, 1⟩⟩, atTime 1),
   (.acquire none, atTime 1)]

/-- The state that they lead to. -/
def benchReady : FlightState := (calls (body benchConfig) created benchStart).1

/-- A heartbeat in GUIDED at the given time. -/
def benchBeat (now : ℚ) (sequence : ℤ) : FlightCall × CallSite :=
  (.observeHeartbeat (.integer 0) (some false) (some "GUIDED") ⟨some now, sequence, ⟨1, 1⟩⟩,
    atTime now)

/-! ## 6. Runs -/

variable {is js ks : List (FlightCall × CallSite)} {os ps qs : List FlightNote}

/-- **A run of calls** keeps the invariant and takes nothing back. -/
theorem keeps_of_run (h : Run (Called c) s is os t) (hs : OneWay s) : OneWay t ∧ Onward s t :=
  keeps_of_moved (run_of_moves body_moves h) hs

/-- Between two states under the companion's authority there is no other. -/
theorem companion_between (hs : OneWay s) (hst : Run (Called c) s is os t)
    (htu : Run (Called c) t js ps u) (hfrom : s.authority = .companion)
    (hto : u.authority = .companion) : t.authority = .companion := by
  obtain ⟨ht, honward⟩ := keeps_of_run hst hs
  obtain ⟨hu, honward'⟩ := keeps_of_run htu ht
  refine ht.attempt.mpr ⟨honward.started (hs.attempt.mp hfrom).1, ?_⟩
  by_contra hrevoked
  have hlost := honward'.revoked (Bool.eq_true_of_not_eq_false hrevoked)
  rw [(hu.attempt.mp hto).2] at hlost
  cases hlost

theorem companion_of_permission {p : CommandPermission} (h : s.commandPermission = some p) :
    s.authority = .companion := by
  unfold commandPermission at h
  split at h
  · cases h
  · rename_i hpermitted
    exact not_not.mp fun hauthority => hpermitted (Or.inl hauthority)

theorem companion_of_current {p : CommandPermission} (h : s.permissionIsCurrent p = true) :
    s.authority = .companion := by
  unfold permissionIsCurrent at h
  simp only [Bool.and_eq_true, decide_eq_true_eq] at h
  exact h.1.2

/-- **Companion authority is one-way.** In every run `created`, .., `s`, .., `t`, .., `u` commands
    are unsuspended in `t` exactly under the companion's authority; the companion's authority at
    `s` and at `u` lasted at `t`; FC_FAILSAFE is never left, and PILOT only for it; and a permission
    issued at `s` that is current at `u` was issued in an interval that lasted at `t`. -/
theorem authority_one_way (hs : Run (Called c) created is os s) (ht : Run (Called c) s js ps t)
    (hu : Run (Called c) t ks qs u) :
    (t.authority = .companion ↔ t.commandsSuspended = false) ∧
    (s.authority = .companion → u.authority = .companion → t.authority = .companion) ∧
    (s.authority = .fcFailsafe → t.authority = .fcFailsafe) ∧
    (s.authority = .pilot → t.authority = .pilot ∨ t.authority = .fcFailsafe) ∧
    ∀ p, s.commandPermission = some p → u.permissionIsCurrent p = true →
      s.authority = .companion ∧ t.authority = .companion ∧ u.authority = .companion := by
  have hone := (keeps_of_run hs oneWay_created).1
  obtain ⟨hone', honward⟩ := keeps_of_run ht hone
  refine ⟨hone'.suspended, companion_between hone ht hu, honward.failsafe, honward.pilot, ?_⟩
  intro p hissued hcurrent
  have hfrom := companion_of_permission hissued
  have hto := companion_of_current hcurrent
  exact ⟨hfrom, companion_between hone ht hu hfrom hto, hto⟩

theorem authority_one_way_flown :
    benchReady.commandPermission = some ⟨1⟩ ∧
    (calls (body benchConfig) benchReady [benchBeat 2 4]).1.authority = .companion := by
  have hissued : benchReady.commandPermission = some ⟨1⟩ := by decide +kernel
  have hrun : Run (Called benchConfig) created benchStart _ benchReady :=
    calls_run (body benchConfig) benchStart created
  have hnext := calls_run (body benchConfig) [benchBeat 2 4] benchReady
  have hlast := calls_run (body benchConfig) [benchBeat 3 5]
    (calls (body benchConfig) benchReady [benchBeat 2 4]).1
  exact ⟨hissued,
    ((authority_one_way hrun hnext hlast).2.2.2.2 ⟨1⟩ hissued (by decide +kernel)).2.1⟩

end FlightState

end DroneSim
