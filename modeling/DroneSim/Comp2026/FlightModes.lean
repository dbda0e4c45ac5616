/-
  File:      DroneSim/Comp2026/FlightModes.lean
  Subject:   Mode changes against the companion's authority (control/flight_state.py).

  * `ModeRecord` -- what a run shows of the modes since the authority was acquired;
  * `takenMode` -- the observation of a mode that a call stores;
  * `Prompt` -- a changed mode is classified: it is observed, fresh, and the last one still stored;
  * `mode_change_revokes` -- in runs of prompt calls every mode under the companion's authority is
    explained, and one that is not ends every permission.
-/
import DroneSim.Comp2026.FlightAuthority

namespace DroneSim

open Library Library.Attempt Library.Acting

namespace FlightState

/-! ## 1. The record -/

/-- The last mode observed, the first one of the interval, and the expected ones accepted in it. -/
structure ModeRecord where
  last : Option FlightValue
  first : Option FlightValue
  accepted : List FlightValue

/-- Before any note. -/
def ModeRecord.empty : ModeRecord := ⟨none, none, []⟩

def ModeRecord.after (r : ModeRecord) : FlightNote → ModeRecord
  | .modeObserved value => { r with last := some value, first := r.first.or (some value) }
  | .expectedAccepted value => { r with accepted := value :: r.accepted }
  | .acquired mode => ⟨mode, mode, []⟩

/-- The last mode is the first one of the interval, or was expected and accepted. -/
def ModeRecord.Explained (r : ModeRecord) : Prop :=
  ∀ value, r.last = some value → r.first = some value ∨ value ∈ r.accepted

instance (r : ModeRecord) : Decidable r.Explained :=
  decidable_of_iff (∀ value ∈ r.last.toList, r.first = some value ∨ value ∈ r.accepted) (by
    unfold ModeRecord.Explained
    cases r.last <;> simp)

/-- The calls, with the record of their notes. -/
def Recorded (c : FlightConfig) (p : FlightState × ModeRecord) (i : FlightCall × CallSite)
    (o : List FlightNote) (q : FlightState × ModeRecord) : Prop :=
  Called c p.1 i o q.1 ∧ q.2 = o.foldl ModeRecord.after p.2

/-- The clock of the calls gives numbers, and they do not decrease. -/
def Clocked (is : List (FlightCall × CallSite)) : Prop :=
  ∃ times : List ℚ, times.Pairwise (· ≤ ·) ∧
    is.flatMap (fun i => [i.2.first, i.2.second, i.2.third]) =
      times.map fun now => .ok (some now)

/-! ## 2. The condition -/

/-- The fields are stored: the time of the observation. -/
def acceptedAt (c : FlightConfig) (s : FlightState) (names : List FlightField) (m : Metadata) :
    Option ℚ :=
  if m.source ≠ c.source ∨ m.sequence < 0 then none
  else m.receivedAt.bind fun receivedAt =>
    if s.isNewer names receivedAt m.sequence then some receivedAt else none

/-- The observation of a mode that a call stores. -/
def takenMode (c : FlightConfig) (s : FlightState) : FlightCall → Option Observation
  | .update values m =>
    match allValid values, values.lookup .mode, acceptedAt c s (values.map Prod.fst) m with
    | .ok true, some value, some receivedAt => some ⟨value, receivedAt, m.sequence⟩
    | _, _, _ => none
  | .observeMode mode m =>
    match c.normalizeMode mode, acceptedAt c s [.mode] m with
    | some normalized, some receivedAt => some ⟨.text normalized, receivedAt, m.sequence⟩
    | _, _ => none
  | .observeHeartbeat heartbeat (some _) mode m =>
    match valueIsValid heartbeat, c.normalizeMode mode, acceptedAt c s heartbeatFields m with
    | .ok true, some normalized, some receivedAt => some ⟨.text normalized, receivedAt, m.sequence⟩
    | _, _, _ => none
  | _ => none

/-- The call classifies the mode that it stores. -/
def classifies : FlightCall → Bool
  | .observeMode _ _ => true
  | .observeHeartbeat _ _ _ _ => true
  | _ => false

/-- **A changed mode is classified**: where a call under the companion's authority stores another
    mode than the last, it is an observation, it is fresh, and the last one is still stored. -/
def Prompt (c : FlightConfig) (p : FlightState × ModeRecord) (i : FlightCall × CallSite) : Prop :=
  p.1.authority = .companion → ∀ observation last, takenMode c p.1 i.1 = some observation →
    p.2.last = some last → observation.value ≠ last →
    classifies i.1 = true ∧ p.1.observations .mode ≠ none ∧
      ∃ now, i.2.first = .ok now ∧ isFresh observation now (c.freshnessBounds .mode) = true

/-! ## 3. What the calls hear -/

variable {c : FlightConfig} {w : CallSite} {s t : FlightState}
  {r : Acting FlightState FlightNote}

theorem wp_revokeToUnknown {Q : Unit → Acting FlightState FlightNote → Prop}
    {E : FlightError → Acting FlightState FlightNote → Prop}
    (hQ : Q () ⟨revoked r.state, r.log⟩) (hE : ∀ error, E error ⟨revoked r.state, r.log⟩) :
    wp (revokeToUnknown w) Q E r := by
  unfold revokeToUnknown raiseIfReentrant
  rw [wp_bind, wp_update]
  split
  · exact hE _
  · exact hQ

/-- The classification takes the authority for the pilot, or does nothing. -/
theorem classifyPilot_spec (reading : ClockReading) :
    wp (classifyPilot c w reading)
      (fun _ t => t = r ∨ t = ⟨taken .pilot r.state, r.log⟩)
      (fun _ t => t = ⟨taken .pilot r.state, r.log⟩ ∨ t = r ∧ ∃ error, reading = .error error)
      r := by
  unfold classifyPilot
  rw [wp_bind, wp_current]
  split
  · exact Or.inl rfl
  · split
    · rw [wp_bind, wp_readClock]
      refine ⟨fun now _ => ?_, fun error herror => Or.inr ⟨rfl, error, herror⟩⟩
      split
      · unfold raiseIfReentrant
        rw [wp_bind, wp_update]
        split
        · exact Or.inl rfl
        · exact Or.inr rfl
      · exact Or.inl rfl
    · exact Or.inl rfl

/-- Storing. -/
theorem updateMany_spec (values : List (FlightField × FlightValue)) (m : Metadata) :
    wp (updateMany c values m)
      (fun accepted t =>
        (accepted = false ∧ t = r) ∨
        (accepted = true ∧ allValid values = .ok true ∧ ∃ receivedAt,
          acceptedAt c r.state (values.map Prod.fst) m = some receivedAt ∧
          t = ⟨withObservations values receivedAt m.sequence r.state,
            r.log ++ (values.lookup .mode).toList.map .modeObserved⟩))
      (fun _ t => t = r) r := by
  unfold updateMany
  split
  · rfl
  · split
    · exact Or.inl ⟨rfl, rfl⟩
    · rename_i hsource
      split
      · exact Or.inl ⟨rfl, rfl⟩
      · rename_i receivedAt hreceived
        rw [wp_bind, wp_ofExcept]
        refine ⟨fun valid hvalid => ?_, fun _ _ => rfl⟩
        rw [wp_bind, wp_current]
        split
        · exact Or.inl ⟨rfl, rfl⟩
        · rename_i hstored
          have hboth : valid = true ∧
              r.state.isNewer (values.map Prod.fst) receivedAt m.sequence = true := by
            simpa [not_or] using hstored
          obtain ⟨rfl, hnewer⟩ := hboth
          have haccepted : acceptedAt c r.state (values.map Prod.fst) m = some receivedAt := by
            simp [acceptedAt, hsource, hreceived, hnewer]
          rw [wp_bind, wp_update, wp_bind]
          unfold noteMode
          cases hmode : values.lookup .mode with
          | none => exact Or.inr ⟨rfl, hvalid, receivedAt, haccepted, by simp⟩
          | some value => exact Or.inr ⟨rfl, hvalid, receivedAt, haccepted, by simp⟩

/-- What is left of a stored observation: the authority is not gained, and it is kept without an
    accepted expectation only where `kept` holds. -/
structure Classified (r : Acting FlightState FlightNote) (observation : Observation) (kept : Prop)
    (t : Acting FlightState FlightNote) : Prop where
  mode : t.state.observations .mode = some observation
  authority : t.state.authority = .companion → r.state.authority = .companion
  notes : (t.log = r.log ∧ (t.state.authority = .companion → kept)) ∨
    t.log = r.log ++ [FlightNote.expectedAccepted observation.value]

variable {observation : Observation} {kept : Prop} {previous : Option Observation}

/-- The authority is lost. -/
theorem Classified.lost {t : Acting FlightState FlightNote}
    (hmode : t.state.observations .mode = some observation)
    (hauthority : t.state.authority ≠ .companion) (hlog : t.log = r.log) :
    Classified r observation kept t :=
  ⟨hmode, fun h => absurd h hauthority, Or.inl ⟨hlog, fun h => absurd h hauthority⟩⟩

theorem authority_revoked (s : FlightState) : (revoked s).authority ≠ .companion := by
  show (if s.authority = .pilot ∨ s.authority = .fcFailsafe then s.authority else .unknown) ≠ _
  split
  · rename_i htaken
    rcases htaken with h | h <;> rw [h] <;> decide
  · decide

theorem authority_pilot (s : FlightState) : (taken .pilot s).authority ≠ .companion := by
  show Authority.pilot ≠ .companion
  decide

/-- The revocation after a changed mode. -/
theorem revokes_spec (hmode : r.state.observations .mode = some observation) :
    wp (do revokeToUnknown w; classifyPilot c w w.third : Op Unit)
      (fun _ => Classified r observation kept) (fun _ => Classified r observation kept) r := by
  have hrevoked : Classified r observation kept ⟨revoked r.state, r.log⟩ :=
    .lost hmode (authority_revoked r.state) rfl
  rw [wp_bind]
  refine wp_revokeToUnknown ?_ fun _ => hrevoked
  have hpilot : Classified r observation kept ⟨taken .pilot (revoked r.state), r.log⟩ :=
    .lost hmode (authority_pilot _) rfl
  refine (classifyPilot_spec w.third).mono (fun _ t ht => ?_) fun _ t ht => ?_
  · rcases ht with rfl | rfl
    · exact hrevoked
    · exact hpilot
  · rcases ht with rfl | ⟨rfl, -⟩
    · exact hpilot
    · exact hrevoked

theorem classifyMode_spec {now : FloatValue} (hsecond : w.second = .ok now)
    (hmode : r.state.observations .mode = some observation)
    (hkept : sameMode previous observation = true → kept) :
    wp (classifyMode c w previous observation) (fun _ => Classified r observation kept)
      (fun _ => Classified r observation kept) r := by
  have hpilot : Classified r observation kept ⟨taken .pilot r.state, r.log⟩ :=
    .lost hmode (authority_pilot _) rfl
  unfold classifyMode
  rw [wp_bind]
  refine (classifyPilot_spec w.second).mono (fun _ t ht => ?_) fun _ t ht => ?_
  · rw [wp_bind, wp_current]
    split
    · rename_i hauthority
      refine .lost ?_ ?_ ?_
      · rcases ht with rfl | rfl
        · exact hmode
        · exact hmode
      · show t.state.authority ≠ .companion
        rw [hauthority]
        decide
      · rcases ht with rfl | rfl
        · rfl
        · rfl
    · rename_i hauthority
      rcases ht with rfl | rfl
      · split
        · exact ⟨hmode, id, Or.inr rfl⟩
        · split
          · rename_i hsame
            exact ⟨hmode, id, Or.inl ⟨rfl, fun _ => hkept hsame⟩⟩
          · exact revokes_spec hmode
      · exact absurd rfl hauthority
  · rcases ht with rfl | ⟨-, error, herror⟩
    · exact hpilot
    · rw [hsecond] at herror
      cases herror

/-- **Processing an observation** keeps the authority without an accepted expectation only where the
    observation is not fresh, or reports the mode stored before it. -/
theorem processMode_spec {now : FloatValue} (hsecond : w.second = .ok now)
    (hmode : r.state.observations .mode = some observation) :
    wp (processMode c w previous)
      (fun _ => Classified r observation
        ((∀ now, w.first = .ok now → isFresh observation now (c.freshnessBounds .mode) = false) ∨
          sameMode previous observation = true))
      (fun _ => Classified r observation
        ((∀ now, w.first = .ok now → isFresh observation now (c.freshnessBounds .mode) = false) ∨
          sameMode previous observation = true)) r := by
  unfold processMode
  rw [wp_bind, wp_current, hmode, wp_bind, wp_readClock]
  refine ⟨fun now hnow => ?_, fun error herror => ⟨hmode, id, Or.inl ⟨rfl, fun _ => Or.inl ?_⟩⟩⟩
  · split
    · exact classifyMode_spec hsecond hmode Or.inr
    · rename_i hstale
      refine ⟨hmode, id, Or.inl ⟨rfl, fun _ => Or.inl fun now' hnow' => ?_⟩⟩
      rw [hnow] at hnow'
      cases hnow'
      exact Bool.eq_false_of_not_eq_true hstale
  · intro now hnow
    rw [herror] at hnow
    cases hnow

/-! ## 4. What a call shows -/

/-- The end of a call from `s`: it hears nothing, or it stores a mode, or it acquires. -/
inductive Shown (c : FlightConfig) (s : FlightState) (i : FlightCall × CallSite)
    (t : Acting FlightState FlightNote) : Prop where
  | deaf (hnotes : t.log = [])
    (hmode : t.state.observations .mode = s.observations .mode ∨ t.state.observations .mode = none)
    (hauthority : t.state.authority = .companion → s.authority = .companion)
  | stored (observation : Observation) (htaken : takenMode c s i.1 = some observation)
    (hmode : t.state.observations .mode = some observation)
    (hauthority : t.state.authority = .companion → s.authority = .companion)
    (hnotes : (t.log = [.modeObserved observation.value] ∧
        (t.state.authority = .companion → classifies i.1 = true →
          (∀ now, i.2.first = .ok now →
            isFresh observation now (c.freshnessBounds .mode) = false) ∨
          sameMode (s.observations .mode) observation = true)) ∨
      t.log = [.modeObserved observation.value, .expectedAccepted observation.value])
  | acquired (hcall : ∃ given, i.1 = .acquire given)
    (hnotes : t.log = [.acquired ((s.observations .mode).map Observation.value)])
    (hmode : t.state.observations .mode = s.observations .mode)

variable {i : FlightCall × CallSite}

/-- A change gains no authority. -/
theorem Change.not_gained (h : Change s t) (ht : t.authority = .companion) :
    s.authority = .companion := by
  rcases h.fields with ⟨ha, -⟩ | ⟨ha, -⟩ | ⟨ha, -⟩
  · exact ha.symm.trans ht
  · rw [ht] at ha
    split at ha
    · exact ha.symm
    · cases ha
  · rcases ha with ha | ⟨ha, -⟩
    · cases ha.symm.trans ht
    · cases ha.symm.trans ht

/-- **Moves that do not hear.** -/
theorem Shown.of_moved (h : Moved (Move False) s r) : Shown c s i r := by
  obtain ⟨is, hrun⟩ := h
  have hkeeps : (r.state.observations .mode = s.observations .mode ∨
      r.state.observations .mode = none) ∧
      (r.state.authority = .companion → s.authority = .companion) := by
    refine hrun.invariant (P := fun t => (t.observations .mode = s.observations .mode ∨
      t.observations .mode = none) ∧ (t.authority = .companion → s.authority = .companion))
      ⟨Or.inl rfl, id⟩ fun t _ _ u ht hmove => ?_
    cases hmove with
    | change hchange hmode =>
      refine ⟨?_, fun hu => ht.2 (hchange.not_gained hu)⟩
      rcases hmode with hfalse | hsame | hnone
      · exact hfalse.elim
      · rw [hsame]
        exact ht.1
      · exact Or.inr hnone
    | noted _ hfalse => exact hfalse.elim
    | acquired hfalse _ => exact hfalse.elim
  have hsilent : ∀ note ∈ r.log, False := by
    refine hrun.outputs (P := fun _ => True) (Q := fun _ => False) trivial
      (fun _ _ _ _ _ _ => trivial) fun t _ o u _ hmove note hnote => ?_
    cases hmove with
    | change _ _ => exact absurd hnote List.not_mem_nil
    | noted _ hfalse => exact hfalse
    | acquired hfalse _ => exact hfalse
  exact .deaf (List.eq_nil_iff_forall_not_mem.mpr hsilent) hkeeps.1 hkeeps.2

/-- The end of a call in which nothing happened. -/
theorem Shown.still (h : r = ⟨s, []⟩) : Shown c s i r := by
  subst h
  exact .deaf rfl (Or.inl rfl) id

theorem shown_of_steps {α : Type} {x : Op α} (h : Steps False x) :
    wp x (fun _ => Shown c s i) (fun _ => Shown c s i) ⟨s, []⟩ :=
  (h s ⟨s, []⟩ .start).mono (fun _ _ ht => .of_moved ht) fun _ _ ht => .of_moved ht

theorem shown_dropResult {α : Type} {x : Op α}
    (h : wp x (fun _ => Shown c s i) (fun _ => Shown c s i) ⟨s, []⟩) :
    wp (dropResult x) (fun _ => Shown c s i) (fun _ => Shown c s i) ⟨s, []⟩ := by
  unfold dropResult
  rw [wp_bind]
  exact h.mono (fun _ _ ht => ht) fun _ _ ht => ht

theorem update_shown (values : List (FlightField × FlightValue)) (m : Metadata) :
    wp (updateMany c values m) (fun _ => Shown c s (.update values m, w))
      (fun _ => Shown c s (.update values m, w)) ⟨s, []⟩ := by
  refine (updateMany_spec values m).mono (fun accepted t ht => ?_) fun _ _ ht => .still ht
  rcases ht with ⟨-, ht⟩ | ⟨-, hvalid, receivedAt, haccepted, rfl⟩
  · exact .still ht
  · cases hmode : values.lookup .mode with
    | none =>
      exact .deaf (by simp) (Or.inl (observations_of_none hmode)) id
    | some value =>
      refine .stored ⟨value, receivedAt, m.sequence⟩ ?_ ?_ id (Or.inl ⟨by simp, ?_⟩)
      · simp only [takenMode, hvalid, hmode, haccepted]
      · exact observations_of_some hmode
      · intro _ hclassifies
        cases hclassifies

theorem acquire_shown (given : Option FloatValue) :
    wp (acquireInitialCompanionAuthority c w given) (fun _ => Shown c s (.acquire given, w))
      (fun _ => Shown c s (.acquire given, w)) ⟨s, []⟩ := by
  unfold acquireInitialCompanionAuthority
  have hread : wp (sampledAt w given) (fun _ t => t = ⟨s, []⟩) (fun _ t => t = ⟨s, []⟩)
      (⟨s, []⟩ : Acting FlightState FlightNote) := by
    unfold sampledAt
    split
    · rfl
    · exact (wp_readClock _).mpr ⟨fun _ _ => rfl, fun _ _ => rfl⟩
  rw [wp_bind]
  refine hread.mono (fun now t ht => ?_) fun _ _ ht => .still ht
  subst ht
  rw [wp_bind, wp_current]
  split
  · exact .acquired ⟨given, rfl⟩ rfl rfl
  · exact .still rfl

/-- Storing a mode and processing it. -/
theorem heard_shown {values : List (FlightField × FlightValue)} {m : Metadata} {mode : FlightValue}
    {now : FloatValue} (hsecond : i.2.second = .ok now) (hmode : values.lookup .mode = some mode)
    (htaken : ∀ receivedAt, allValid values = .ok true →
      acceptedAt c s (values.map Prod.fst) m = some receivedAt →
      takenMode c s i.1 = some ⟨mode, receivedAt, m.sequence⟩) :
    wp (do
        let accepted ← updateMany c values m
        if accepted then do
          processMode c i.2 (s.observations .mode)
          return true
        else return false : Op Bool)
      (fun _ => Shown c s i) (fun _ => Shown c s i) ⟨s, []⟩ := by
  rw [wp_bind]
  refine (updateMany_spec values m).mono (fun accepted t ht => ?_) fun _ _ ht => .still ht
  rcases ht with ⟨rfl, ht⟩ | ⟨rfl, hvalid, receivedAt, haccepted, rfl⟩
  · exact .still ht
  · rw [if_pos rfl, wp_bind]
    have hstored : (withObservations values receivedAt m.sequence s).observations .mode =
        some ⟨mode, receivedAt, m.sequence⟩ := observations_of_some hmode
    have hend : ∀ t, Classified ⟨withObservations values receivedAt m.sequence s,
          [] ++ (values.lookup .mode).toList.map .modeObserved⟩ ⟨mode, receivedAt, m.sequence⟩
          ((∀ now, i.2.first = .ok now → isFresh ⟨mode, receivedAt, m.sequence⟩ now
            (c.freshnessBounds .mode) = false) ∨
            sameMode (s.observations .mode) ⟨mode, receivedAt, m.sequence⟩ = true) t →
        Shown c s i t := by
      intro t ht
      refine .stored ⟨mode, receivedAt, m.sequence⟩ (htaken _ hvalid haccepted) ht.mode
        ht.authority ?_
      rcases ht.notes with ⟨hlog, hkept⟩ | hlog
      · exact Or.inl ⟨by rw [hlog, hmode]; rfl, fun hauthority _ => hkept hauthority⟩
      · exact Or.inr (by rw [hlog, hmode]; rfl)
    exact (processMode_spec hsecond hstored).mono (fun _ t ht => hend t ht) fun _ t ht => hend t ht

theorem observeMode_shown (mode : Option String) (m : Metadata) {now : FloatValue}
    (hsecond : w.second = .ok now) :
    wp (observeMode c w mode m) (fun _ => Shown c s (.observeMode mode m, w))
      (fun _ => Shown c s (.observeMode mode m, w)) ⟨s, []⟩ := by
  unfold observeMode
  split
  · exact .still rfl
  · rename_i normalized hnormalized
    rw [wp_bind, wp_current]
    refine @heard_shown c s (.observeMode mode m, w) [(.mode, .text normalized)] m _ now hsecond rfl
      fun receivedAt _ haccepted => ?_
    simp only [takenMode, hnormalized]
    rw [show acceptedAt c s [.mode] m = some receivedAt from haccepted]

theorem observeHeartbeat_shown (heartbeat : FlightValue) (armed : Option Bool)
    (mode : Option String) (m : Metadata) {now : FloatValue} (hsecond : w.second = .ok now) :
    wp (observeHeartbeat c w heartbeat armed mode m)
      (fun _ => Shown c s (.observeHeartbeat heartbeat armed mode m, w))
      (fun _ => Shown c s (.observeHeartbeat heartbeat armed mode m, w)) ⟨s, []⟩ := by
  unfold observeHeartbeat
  split
  · exact .still rfl
  · split
    · exact .still rfl
    · rw [wp_bind, wp_current]
      split
      · exact .still rfl
      · rw [wp_bind, wp_ofExcept]
        refine ⟨fun valid hvalid => ?_, fun _ _ => .still rfl⟩
        split
        · rename_i _ _ armed normalized hnormalized
          refine @heard_shown c s (.observeHeartbeat heartbeat (some armed) mode m, w)
            [(.heartbeat, heartbeat), (.armed, .flag armed), (.mode, .text normalized)] m _ now
            hsecond rfl fun receivedAt _ haccepted => ?_
          simp only [takenMode, hvalid, hnormalized]
          rw [show acceptedAt c s heartbeatFields m = some receivedAt from haccepted]
        · exact shown_of_steps ((steps_invalidateLocked _ _ _ _).bind fun _ => .pure _)

/-- **What every call shows**, where the second reading of the clock is a number. -/
theorem body_shown (s : FlightState) {i : FlightCall × CallSite} {now : FloatValue}
    (hsecond : i.2.second = .ok now) :
    wp (body c i) (fun _ => Shown c s i) (fun _ => Shown c s i) ⟨s, []⟩ := by
  obtain ⟨call, w⟩ := i
  cases call with
  | update values m => exact shown_dropResult (update_shown _ _)
  | acquire now => exact shown_dropResult (acquire_shown _)
  | registerExpectedMode mode =>
    exact shown_dropResult (shown_of_steps (steps_registerExpectedMode _))
  | cancelExpectedMode token =>
    exact shown_dropResult (shown_of_steps (steps_cancelExpectedMode _))
  | observeMode mode m => exact shown_dropResult (observeMode_shown _ _ hsecond)
  | observeHeartbeat heartbeat armed mode m =>
    exact shown_dropResult (observeHeartbeat_shown _ _ _ _ hsecond)
  | observeRcInput channel pwm signalHealthy m =>
    exact shown_dropResult (shown_of_steps (steps_observeRcInput _ _ _ _))
  | observeFailsafe reason active m =>
    exact shown_dropResult (shown_of_steps (steps_observeFailsafe _ _ _))
  | invalidateEvidence names m =>
    exact shown_dropResult (shown_of_steps (steps_invalidateEvidence _ _))
  | invalidateObservations names source receivedAt sequence =>
    exact shown_dropResult (shown_of_steps (steps_invalidateObservations _ _ _ _))

/-! ## 5. Runs of prompt calls -/

/-- **The invariant**: under the companion's authority the stored mode is the last one observed, and
    that one is explained. -/
structure Accounted (p : FlightState × ModeRecord) : Prop where
  begun : p.2.last = none → p.2.first = none
  stored : p.1.authority = .companion → ∀ observation, p.1.observations .mode = some observation →
    p.2.last = some observation.value
  explained : p.1.authority = .companion → p.2.Explained

theorem accounted_created : Accounted (created, .empty) where
  begun := id
  stored h := by cases h
  explained h := by cases h

/-- The record after a mode was observed. -/
theorem explained_observed {r : ModeRecord} {value : FlightValue}
    (h : r.last = none ∧ r.first = none ∨ r.last = some value ∧ r.Explained) :
    (r.after (.modeObserved value)).Explained := by
  intro value' hvalue
  cases hvalue
  rcases h with ⟨-, hfirst⟩ | ⟨hlast, hexplained⟩
  · left
    show r.first.or (some value) = some value
    rw [hfirst]
    rfl
  · rcases hexplained value hlast with hfirst | haccepted
    · left
      show r.first.or (some value) = some value
      rw [hfirst]
      rfl
    · exact Or.inr haccepted

variable {p q : FlightState × ModeRecord} {o : List FlightNote} {now : FloatValue}

/-- What the step of a call shows. -/
theorem shown_of_recorded (h : Recorded c p i o q) (hsecond : i.2.second = .ok now) :
    Shown c p.1 i ⟨q.1, o⟩ := by
  obtain ⟨hcalled, -⟩ := h
  have hshown := call_state (body_shown (c := c) p.1 hsecond)
  unfold Called Calling at hcalled
  rw [hcalled] at hshown
  exact hshown

/-- Where a stored mode is kept without an accepted expectation, it is the first of the interval or
    the last one again. -/
theorem Accounted.before (hp : Accounted p) (hcompanion : p.1.authority = .companion)
    (htaken : takenMode c p.1 i.1 = some observation) (hprompt : Prompt c p i)
    (hkept : classifies i.1 = true →
      (∀ now, i.2.first = .ok now → isFresh observation now (c.freshnessBounds .mode) = false) ∨
      sameMode (p.1.observations .mode) observation = true) :
    p.2.last = none ∧ p.2.first = none ∨ p.2.last = some observation.value ∧ p.2.Explained := by
  cases hlast : p.2.last with
  | none => exact Or.inl ⟨rfl, hp.begun hlast⟩
  | some last =>
    refine Or.inr ⟨?_, hp.explained hcompanion⟩
    by_contra hchanged
    have hne : observation.value ≠ last := fun h => hchanged (by rw [h])
    obtain ⟨hclassifies, hpresent, now, hfirst, hfresh⟩ :=
      hprompt hcompanion observation last htaken hlast hne
    rcases hkept hclassifies with hstale | hsame
    · rw [hstale now hfirst] at hfresh
      cases hfresh
    · cases hmode : p.1.observations .mode with
      | none => exact hpresent hmode
      | some previous =>
        rw [hmode] at hsame
        have hvalue : previous.value = observation.value := of_decide_eq_true hsame
        have hstored := hp.stored hcompanion previous hmode
        rw [hlast] at hstored
        cases hstored
        exact hne hvalue.symm

/-- **A prompt call** keeps the modes accounted for. -/
theorem Accounted.step (hp : Accounted p) (h : Recorded c p i o q)
    (hsecond : i.2.second = .ok now) (hprompt : Prompt c p i) : Accounted q := by
  have hrecord := h.2
  cases shown_of_recorded h hsecond with
  | deaf hnotes hmode hauthority =>
    have hsame : q.2 = p.2 := by rw [hrecord, show o = [] from hnotes, List.foldl_nil]
    refine ⟨by rw [hsame]; exact hp.begun, fun hq observation hstored => ?_, fun hq => ?_⟩
    · rw [hsame]
      rcases hmode with hmode | hmode
      · exact hp.stored (hauthority hq) observation (hmode.symm.trans hstored)
      · rw [show q.1.observations .mode = none from hmode] at hstored
        cases hstored
    · rw [hsame]
      exact hp.explained (hauthority hq)
  | stored observation htaken hmode hauthority hnotes =>
    have hmode' : q.1.observations .mode = some observation := hmode
    have hlast : q.2.last = some observation.value ∧ (q.2.last = none → q.2.first = none) := by
      rcases hnotes with ⟨hnotes, -⟩ | hnotes
      · rw [hrecord, show o = _ from hnotes]
        exact ⟨rfl, fun h => by cases h⟩
      · rw [hrecord, show o = _ from hnotes]
        exact ⟨rfl, fun h => by cases h⟩
    refine ⟨hlast.2, fun _ stored hstored => ?_, fun hq => ?_⟩
    · rw [hmode'] at hstored
      cases hstored
      exact hlast.1
    · have hcompanion := hauthority hq
      rcases hnotes with ⟨hnotes, hkept⟩ | hnotes
      · rw [hrecord, show o = _ from hnotes]
        exact explained_observed (hp.before hcompanion htaken hprompt (hkept hq))
      · rw [hrecord, show o = _ from hnotes]
        intro value hvalue
        cases hvalue
        exact Or.inr List.mem_cons_self
  | acquired _ hnotes hmode =>
    have hafter : q.2 = ⟨(p.1.observations .mode).map Observation.value,
        (p.1.observations .mode).map Observation.value, []⟩ := by
      rw [hrecord, show o = _ from hnotes]
      rfl
    refine ⟨by rw [hafter]; exact id, fun _ observation hstored => ?_, fun _ => ?_⟩
    · rw [hafter]
      show (p.1.observations .mode).map Observation.value = _
      rw [← show q.1.observations .mode = _ from hmode, hstored]
      rfl
    · rw [hafter]
      exact fun _ => Or.inl

variable {is js : List (FlightCall × CallSite)} {os ps : List FlightNote}

/-- A clock reads. -/
theorem Clocked.second (h : Clocked is) (hi : i ∈ is) : ∃ now, i.2.second = .ok now := by
  obtain ⟨times, -, htimes⟩ := h
  have hread : i.2.second ∈ is.flatMap fun i => [i.2.first, i.2.second, i.2.third] :=
    List.mem_flatMap.mpr ⟨i, hi, by simp⟩
  rw [htimes] at hread
  obtain ⟨now, -, hnow⟩ := List.mem_map.mp hread
  exact ⟨some now, hnow.symm⟩

/-- **A run of prompt calls** keeps the modes accounted for. -/
theorem accounted_of_run (h : Run (Meeting (Recorded c) (Prompt c)) p is os q)
    (hclock : ∀ i ∈ is, ∃ now, i.2.second = .ok now) (hp : Accounted p) : Accounted q := by
  induction h with
  | start => exact hp
  | step _ hs ih =>
    have hbefore := ih fun i hi => hclock i (List.mem_append_left _ hi)
    obtain ⟨now, hsecond⟩ := hclock _ (List.mem_append_right _ List.mem_cons_self)
    exact hbefore.step hs.1 hsecond hs.2

/-- Only an acquisition gains the authority. -/
theorem not_gained_of_run (h : Run (Called c) s js ps t)
    (hclock : ∀ j ∈ js, ∃ now, j.2.second = .ok now) (hcalls : ∀ j ∈ js, ∀ now, j.1 ≠ .acquire now)
    (ht : t.authority = .companion) : s.authority = .companion := by
  induction h with
  | start => exact ht
  | @step js ps t j o u h hs ih =>
    have hj : j ∈ js ++ [j] := List.mem_append_right _ List.mem_cons_self
    obtain ⟨now, hsecond⟩ := hclock j hj
    refine ih (fun i hi => hclock i (List.mem_append_left _ hi))
      (fun i hi => hcalls i (List.mem_append_left _ hi)) ?_
    have hrecorded : Recorded c (t, .empty) j o (u, o.foldl ModeRecord.after .empty) := ⟨hs, rfl⟩
    cases shown_of_recorded hrecorded hsecond with
    | deaf _ _ hauthority => exact hauthority ht
    | stored _ _ _ hauthority _ => exact hauthority ht
    | acquired hcall _ _ =>
      obtain ⟨given, hgiven⟩ := hcall
      exact absurd hgiven (hcalls j hj given)

/-- A prompt call that observes another mode, not as an expected one, ends under another authority. -/
theorem lost_of_change (hp : Accounted p) (h : Recorded c p i o q) (hsecond : i.2.second = .ok now)
    (hprompt : Prompt c p i) {value last : FlightValue} (hobserved : FlightNote.modeObserved value ∈ o)
    (hunexpected : FlightNote.expectedAccepted value ∉ o) (hlast : p.2.last = some last)
    (hchanged : value ≠ last) : q.1.authority ≠ .companion := by
  intro hq
  cases shown_of_recorded h hsecond with
  | deaf hnotes _ _ =>
    rw [show o = [] from hnotes] at hobserved
    exact absurd hobserved List.not_mem_nil
  | stored observation htaken hmode hauthority hnotes =>
    rcases hnotes with ⟨hnotes, hkept⟩ | hnotes
    · rw [show o = _ from hnotes] at hobserved
      cases List.mem_singleton.mp hobserved
      rcases hp.before (hauthority hq) htaken hprompt (hkept hq) with ⟨hnone, -⟩ | ⟨hsame, -⟩
      · rw [hnone] at hlast
        cases hlast
      · rw [hsame] at hlast
        cases hlast
        exact hchanged rfl
    · rw [show o = _ from hnotes] at hobserved hunexpected
      simp only [List.mem_cons, FlightNote.modeObserved.injEq, reduceCtorEq, List.not_mem_nil,
        or_false] at hobserved
      rw [hobserved] at hunexpected
      exact hunexpected (by simp)
  | acquired _ hnotes _ =>
    rw [show o = _ from hnotes] at hobserved
    cases List.mem_singleton.mp hobserved

/-- A heartbeat in LOITER received at the first time and processed at the second. -/
def benchLoiter (receivedAt now : ℚ) (sequence : ℤ) : FlightCall × CallSite :=
  (.observeHeartbeat (.integer 0) (some true) (some "LOITER") ⟨some receivedAt, sequence, ⟨1, 1⟩⟩,
    atTime now)

/-- A call as a step. -/
theorem recorded_call (p : FlightState × ModeRecord) (i : FlightCall × CallSite) :
    Recorded c p i (call (body c i) p.1).2.2
      ((call (body c i) p.1).2.1, (call (body c i) p.1).2.2.foldl ModeRecord.after p.2) := ⟨rfl, rfl⟩

/-- One more call under another authority. -/
theorem grounded_step (h : Run (Meeting (Recorded c) (Prompt c)) p is os q)
    (i : FlightCall × CallSite) (hq : q.1.authority ≠ .companion) :
    Run (Meeting (Recorded c) (Prompt c)) p (is ++ [i]) (os ++ (call (body c i) q.1).2.2)
      ((call (body c i) q.1).2.1, (call (body c i) q.1).2.2.foldl ModeRecord.after q.2) :=
  .step h ⟨recorded_call q i, fun hcompanion => absurd hcompanion hq⟩

/-- **An unexplained mode change revokes the authority.** In a run of prompt calls with a clock, the
    last mode observed under the companion's authority is the first one of the interval or an
    expected one; and after a prompt heartbeat that changes the mode to one not expected no
    permission is current, whatever is called next short of an acquisition. -/
theorem mode_change_revokes (hrun : Run (Meeting (Recorded c) (Prompt c)) (created, .empty) is os p)
    (hclock : Clocked is) :
    (p.1.authority = .companion → p.2.Explained) ∧
    ∀ (heartbeat : FlightValue) (armed : Option Bool) (mode : Option String) (m : Metadata)
      (w : CallSite) (o : List FlightNote) (q : FlightState × ModeRecord) (value last : FlightValue)
      (js : List (FlightCall × CallSite)) (ps : List FlightNote) (u : FlightState),
      Recorded c p (.observeHeartbeat heartbeat armed mode m, w) o q →
      Prompt c p (.observeHeartbeat heartbeat armed mode m, w) →
      .modeObserved value ∈ o → FlightNote.expectedAccepted value ∉ o →
      p.2.last = some last → value ≠ last →
      Run (Called c) q.1 js ps u → (∀ j ∈ js, ∀ now, j.1 ≠ .acquire now) →
      Clocked (is ++ (FlightCall.observeHeartbeat heartbeat armed mode m, w) :: js) →
      ∀ permission, u.permissionIsCurrent permission = false := by
  have haccounted := accounted_of_run hrun (fun i hi => hclock.second hi) accounted_created
  refine ⟨haccounted.explained, ?_⟩
  intro heartbeat armed mode m w o q value last js ps u hstep hprompt hobserved hunexpected hlast
    hchanged hnext hcalls hclocked permission
  obtain ⟨now, hsecond⟩ :=
    hclocked.second (List.mem_append_right is (List.mem_cons_self (l := js)))
  have hlost := lost_of_change haccounted hstep hsecond hprompt hobserved hunexpected hlast hchanged
  refine Bool.eq_false_of_not_eq_true fun hcurrent => hlost ?_
  exact not_gained_of_run hnext
    (fun j hj => hclocked.second (List.mem_append_right is (List.mem_cons_of_mem _ hj))) hcalls
    (companion_of_current hcurrent)

theorem mode_change_revokes_flown :
    ∃ os p, Run (Meeting (Recorded benchConfig) (Prompt benchConfig)) (created, .empty) benchStart
        os p ∧
      p.1.authority = .companion ∧
      (call (body benchConfig (benchLoiter 3 3 4)) p.1).2.1.permissionIsCurrent ⟨1⟩ = false := by
  have hbegun : Run (Meeting (Recorded benchConfig) (Prompt benchConfig)) (created, .empty) [] []
      (created, .empty) := .start
  have hfirst := grounded_step hbegun
    (.observeHeartbeat (.integer 0) (some false) (some "GUIDED") ⟨some 1, 1, ⟨1, 1⟩⟩, atTime 1)
    (by decide)
  have hsecond := grounded_step hfirst
    (.update [(.landedState, .integer onGround)] ⟨some 1, 2, ⟨1, 1⟩⟩, atTime 1) (by decide +kernel)
  have hthird := grounded_step hsecond
    (.observeRcInput 5 1100 (some true) ⟨some 1, 3, ⟨1, 1⟩⟩, atTime 1) (by decide +kernel)
  have hready := grounded_step hthird (.acquire none, atTime 1) (by decide +kernel)
  have hclock : Clocked benchStart :=
    ⟨[1, 1, 1, 1, 1, 1, 1, 1, 1, 1, 1, 1], by decide, rfl⟩
  obtain ⟨os, p, hrun, hcompanion, htaken, hstored, hlast, hobserved, hunexpected⟩ :
      ∃ os p, Run (Meeting (Recorded benchConfig) (Prompt benchConfig)) (created, .empty) benchStart
          os p ∧ p.1.authority = .companion ∧
        takenMode benchConfig p.1 (benchLoiter 3 3 4).1 = some ⟨.text "LOITER", 3, 4⟩ ∧
        p.1.observations .mode ≠ none ∧ p.2.last = some (.text "GUIDED") ∧
        .modeObserved (FlightValue.text "LOITER") ∈ (call (body benchConfig (benchLoiter 3 3 4)) p.1).2.2 ∧
        .expectedAccepted (FlightValue.text "LOITER") ∉ (call (body benchConfig (benchLoiter 3 3 4)) p.1).2.2 :=
    ⟨_, _, hready, by decide +kernel⟩
  refine ⟨os, p, hrun, hcompanion, ?_⟩
  refine (mode_change_revokes hrun hclock).2 (.integer 0) (some true) (some "LOITER")
    ⟨some 3, 4, ⟨1, 1⟩⟩ (atTime 3) _ _ (.text "LOITER") (.text "GUIDED") [] [] _
    (recorded_call p (benchLoiter 3 3 4)) ?_ hobserved hunexpected hlast (by decide) .start
    (fun _ hj => absurd hj List.not_mem_nil) ?_ ⟨1⟩
  · intro _ observation last htaken' _ _
    cases htaken.symm.trans htaken'
    exact ⟨rfl, hstored, some 3, rfl, by decide +kernel⟩
  · exact ⟨[1, 1, 1, 1, 1, 1, 1, 1, 1, 1, 1, 1, 3, 3, 3], by decide, rfl⟩

/-! ## 6. A late heartbeat -/

/-- The record goes along with any run. -/
theorem run_recorded (h : Run (Called c) s is os t) (r : ModeRecord) :
    Run (Recorded c) (s, r) is os (t, os.foldl ModeRecord.after r) := by
  induction h with
  | start => exact .start
  | step _ hs ih => exact .step ih ⟨hs, by rw [List.foldl_append]⟩

/-- LOITER is reported late once, and then on time. -/
def benchLate : List (FlightCall × CallSite) :=
  benchStart ++ [benchLoiter 2 10 4, benchLoiter 10 10 5]

theorem late_mode_keeps_authority :
    ∃ os p, Run (Recorded benchConfig) (created, .empty) benchLate os p ∧ Clocked benchLate ∧
      p.1.authority = .companion ∧ ¬ p.2.Explained ∧ p.1.permissionIsCurrent ⟨1⟩ = true := by
  refine ⟨_, _, run_recorded (calls_run (body benchConfig) benchLate created) .empty, ?_, ?_⟩
  · exact ⟨[1, 1, 1, 1, 1, 1, 1, 1, 1, 1, 1, 1, 10, 10, 10, 10, 10, 10], by decide, rfl⟩
  · refine ⟨?_, ?_, ?_⟩
    · decide +kernel
    · decide +kernel
    · decide +kernel

end FlightState

end DroneSim
