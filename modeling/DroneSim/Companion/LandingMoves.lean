/-
  File:      DroneSim/Companion/LandingMoves.lean
  Subject:   Looks at a marker and landings stay within the moves of the active operation.

  `within_markerCandidate` follows the state through a look exactly: where it comes to a candidate,
  the frame is newer than the last one. `within_evaluateSight` is the step that may send a
  LANDING_TARGET, right after the observation it was accepted from.
-/
import DroneSim.Companion.OperationMoves

namespace DroneSim

open Library Library.Attempt Library.Acting MachineFloat

namespace DroneOperations

variable {R : Type}
variable (e : Equipment R) (w : Surroundings R) (course : OperationCourse R) (arucoId : ℤ)
  (c : Precision R)

/-! ## 1. The look at a marker -/

section Look

variable {s t : DroneOperations R} {a : ActiveOperation R} {look : MarkerLook R}
  {observation : Option (MarkerObservation R)}

@[simp] theorem look_withLook {c : OperationContext R} (h : c.look = some look)
    (look' : MarkerLook R) : (c.withLook look').look = some look' := by
  cases c with
  | marker _ _ => rfl
  | precision _ => rfl
  | _ => cases h

@[simp] theorem withLook_withLook (c : OperationContext R) (look look' : MarkerLook R) :
    (c.withLook look).withLook look' = c.withLook look' := by
  cases c <;> rfl

theorem withLook_self {c : OperationContext R} (h : c.look = some look) : c.withLook look = c := by
  cases c with
  | marker _ _ =>
    cases h
    rfl
  | precision _ =>
    cases h
    rfl
  | _ => rfl

/-- The state `s` but for a look and the last frame. -/
def Looking (s : DroneOperations R) (a : ActiveOperation R) (look : MarkerLook R) (m : ℤ) :
    DroneOperations R :=
  { s.withOwn a (a.context.withLook look) with lastMarkerSequence := m }

theorem looking_self (h : s.active = some a) (hlook : a.context.look = some look) :
    Looking s a look s.lastMarkerSequence = s := by
  unfold Looking
  rw [withLook_self hlook, withOwn_self h]

theorem looking_active (look' : MarkerLook R) (m : ℤ) : (Looking s a look' m).active =
    some { a with context := a.context.withLook look' } := rfl

theorem looking_withLook (hlook : a.context.look = some look) (look' : MarkerLook R) (m : ℤ)
    (f : MarkerLook R → MarkerLook R) :
    (Looking s a look' m).withLook f = Looking s a (f look') m := by
  unfold withLook
  rw [withContext_some (looking_active look' m), look_withLook hlook]
  show (Looking s a look' m).withOwn _ ((a.context.withLook look').withLook (f look')) = _
  rw [withLook_withLook]
  rfl

theorem looking_takeFrame (hlook : a.context.look = some look) (look' : MarkerLook R) (m n : ℤ) :
    (Looking s a look' m).takeFrame n =
      Looking s a { look' with lastSequence := n } (max m n) := by
  unfold takeFrame
  rw [looking_withLook hlook]
  rfl

/-- One look after another, without a frame. -/
theorem work_looking (hlook : a.context.look = some look) {look₁ look₂ : MarkerLook R} (m : ℤ)
    (h : look₂.lastSequence = look₁.lastSequence) :
    Work (Looking s a look₁ m) [] (Looking s a look₂ m) := by
  have hlooked := @Work.looked _ _ _ _ look₂ _ (looking_active (s := s) (a := a) look₁ m)
    (look_withLook hlook look₁) (Or.inl ⟨h, rfl⟩)
  rw [withLook_withLook] at hlooked
  exact hlooked

theorem withLook_of_none (h : s.active = some a) (hlook : a.context.look = none)
    (f : MarkerLook R → MarkerLook R) : s.withLook f = s := by
  unfold withLook
  rw [withContext_some h, hlook]
  exact withOwn_self h

/-- What a marker candidate leaves: another look, and with a candidate a new frame in it. -/
structure Looked (s : DroneOperations R) (a : ActiveOperation R)
    (observation : Option (MarkerObservation R)) (candidate : Option (R × R))
    (t : DroneOperations R) : Prop where
  state : t = s ∨ ∃ look' m, t = Looking s a look' m
  found : candidate.isSome = true → ∃ o look look', observation = some o ∧
    a.context.look = some look ∧ look.lastSequence < o.sequence ∧
    look'.lastSequence = o.sequence ∧ look'.rejection = "healthy" ∧
    t = Looking s a look' (max s.lastMarkerSequence o.sequence)

theorem Looked.nothing (h : t = s ∨ ∃ look' m, t = Looking s a look' m) :
    Looked s a observation none t := ⟨h, fun hsome => by cases hsome⟩

/-- The look that the active operation has. -/
theorem within_currentLook : Within Work (fun t => t = s) currentLook fun look t =>
    t = s ∧ (s.active.bind fun a => a.context.look) = some look := by
  refine .current fun s' hs => ?_
  subst hs
  split
  · exact .throw _
  · rename_i look hlook
    exact .pure fun t ht => ⟨ht, hlook⟩

variable [MachineFloat R] (e : Equipment R) (w : Surroundings R) (course : OperationCourse R)
  (arucoId : ℤ) (c : Precision R)

/-- A candidate is healthy. -/
theorem judgePose_healthy (s : DroneOperations R) (o : MarkerObservation R)
    (acquisitionHeight : Bool) (pose : Pose R) :
    (judgePose w course s o acquisitionHeight pose).2.isSome = true →
      (judgePose w course s o acquisitionHeight pose).1 = "healthy" := by
  unfold judgePose
  split
  · exact fun h => by cases h
  · split
    · exact fun h => by cases h
    · split
      · exact fun _ => rfl
      · exact fun h => by cases h

/-- A frame that is judged leaves its number in the look. -/
theorem judgeFrame_sequence {w : Surroundings R} {course : OperationCourse R}
    {o : MarkerObservation R} {acquisitionHeight : Bool} {look : MarkerLook R}
    {judged : MarkerLook R × Option (R × R)}
    (h : judgeFrame w course s o acquisitionHeight look = .ok judged) :
    judged.1.lastSequence = look.lastSequence ∧
      (judged.2.isSome = true → judged.1.rejection = "healthy") := by
  unfold judgeFrame at h
  split at h
  · cases h
    exact ⟨rfl, fun hsome => by cases hsome⟩
  · split at h
    · cases h
      exact ⟨rfl, fun hsome => by cases hsome⟩
    · split at h
      · cases h
        exact ⟨rfl, fun hsome => by cases hsome⟩
      · split at h
        · cases h
        · split at h
          · cases h
            exact ⟨rfl, judgePose_healthy w course s o acquisitionHeight _⟩
          · cases h
            exact ⟨rfl, fun hsome => by cases hsome⟩

/-- A frame newer than the last one. -/
theorem within_freshCandidate (o : MarkerObservation R) (acquisitionHeight : Bool)
    (hlook : a.context.look = some look) (look₁ : MarkerLook R)
    (hnewer : look.lastSequence < o.sequence) (hsame : look₁.lastSequence = look.lastSequence) :
    Within Work (fun t => t = Looking s a look₁ s.lastMarkerSequence)
      (freshCandidate w course o acquisitionHeight) (Looked s a (some o)) := by
  have hframe : ∀ t, t = Looking s a look₁ s.lastMarkerSequence → t.takeFrame o.sequence =
      Looking s a { look₁ with lastSequence := o.sequence }
        (max s.lastMarkerSequence o.sequence) := by
    intro t ht
    rw [ht, looking_takeFrame hlook]
  refine .bind (B := fun _ t => t = Looking s a { look₁ with lastSequence := o.sequence }
    (max s.lastMarkerSequence o.sequence)) (.update (fun t ht => ?_) hframe) fun _ => ?_
  · rw [ht]
    refine work_takeFrame (looking_active look₁ _) (look_withLook hlook look₁) ?_
    rw [hsame]
    exact hnewer
  refine .current fun s' hs => .bind within_currentLook fun look₂ => ?_
  refine .bind (B := fun judged t => t = s' ∧ look₂.lastSequence = o.sequence ∧
      judged.1.lastSequence = look₂.lastSequence ∧
        (judged.2.isSome = true → judged.1.rejection = "healthy"))
    (.ofExcept fun judged t ht hjudged => ?_) fun judged => ?_
  · obtain ⟨rfl, hlook₂⟩ := ht
    rw [hs, looking_active] at hlook₂
    have hlook₃ : (a.context.withLook { look₁ with lastSequence := o.sequence }).look = some look₂ :=
      hlook₂
    rw [look_withLook hlook] at hlook₃
    cases hlook₃
    exact ⟨rfl, rfl, (judgeFrame_sequence hjudged).1, (judgeFrame_sequence hjudged).2⟩
  · have hdone : ∀ t, t = s' ∧ look₂.lastSequence = o.sequence ∧
        judged.1.lastSequence = look₂.lastSequence ∧
          (judged.2.isSome = true → judged.1.rejection = "healthy") →
        t.withLook (fun _ => judged.1) =
          Looking s a judged.1 (max s.lastMarkerSequence o.sequence) := by
      rintro t ⟨rfl, -, -, -⟩
      rw [hs, looking_withLook hlook]
    refine .bind (B := fun _ t => t = Looking s a judged.1 (max s.lastMarkerSequence o.sequence) ∧
        judged.1.lastSequence = o.sequence ∧
        (judged.2.isSome = true → judged.1.rejection = "healthy"))
      (.update (fun t ht => ?_) fun t ht => ⟨hdone t ht, ht.2.2.1.trans ht.2.1, ht.2.2.2⟩)
      fun _ => .pure fun t ht => ?_
    · rw [hdone t ht, ht.1, hs]
      exact work_looking hlook _ (ht.2.2.1.trans ht.2.1)
    · obtain ⟨rfl, hsequence, hhealthy⟩ := ht
      exact ⟨Or.inr ⟨_, _, rfl⟩, fun hsome =>
        ⟨o, look, judged.1, rfl, hlook, hnewer, hsequence, hhealthy hsome, rfl⟩⟩

/-- The frame's number against the last one. -/
theorem within_sequencedCandidate (o : MarkerObservation R) (acquisitionHeight : Bool)
    (hlook : a.context.look = some look) (look₁ : MarkerLook R)
    (hsame : look₁.lastSequence = look.lastSequence) :
    Within Work (fun t => t = Looking s a look₁ s.lastMarkerSequence)
      (sequencedCandidate w course o acquisitionHeight) (Looked s a (some o)) := by
  refine .bind (within_currentLook.weaken (fun _ ht => ht) fun _ _ hb => hb) fun look₂ => ?_
  refine .ite (fun _ => ?_) fun hnewer => ?_
  · refine .bind (B := fun _ t => t = Looking s a { look₁ with rejection := "repeated_frame" }
      s.lastMarkerSequence) (.update (fun t _ => work_withLook _ (by exact fun _ => rfl) t)
        fun t ht => ?_) fun _ => .pure fun t ht => .nothing (Or.inr ⟨_, _, ht⟩)
    rw [ht.1, looking_withLook hlook]
  · intro P hP r hr hA
    obtain ⟨hstate, hlook₂⟩ := hA
    rw [looking_active] at hlook₂
    have hlook₃ : (a.context.withLook look₁).look = some look₂ := hlook₂
    rw [look_withLook hlook] at hlook₃
    cases hlook₃
    refine within_freshCandidate w course o acquisitionHeight hlook look₁ ?_ hsame P hP r hr hstate
    rw [← hsame]
    exact Int.not_le.mp hnewer

/-- **A candidate comes with a new frame.** -/
theorem within_markerCandidate (acquisitionHeight : Bool)
    (observation : Option (MarkerObservation R)) (h : s.active = some a) :
    Within Work (fun t => t = s) (markerCandidate e w arucoId acquisitionHeight observation)
      (Looked s a observation) := by
  unfold markerCandidate
  split
  · exact .throw _
  · rename_i course _
    refine .bind (B := fun _ t => t = s.withLook fun look =>
      { look with rejection := "no_observation", poseTimestamps := [] })
      (.update (fun t _ => work_withLook _ (by exact fun _ => rfl) t) fun t ht => by rw [ht]) fun _ => ?_
    cases hlook : a.context.look with
    | none =>
      rw [withLook_of_none h hlook]
      split
      · exact .pure fun t ht => .nothing (Or.inl ht)
      · refine .ite (fun _ => .pure fun t ht => .nothing (Or.inl ht)) fun _ => ?_
        refine .bind within_currentLook fun look => ?_
        intro P hP r hr hA
        rw [h] at hA
        have hnone : a.context.look = some look := hA.2
        rw [hlook] at hnone
        cases hnone
    | some look =>
      have hreset : s.withLook (fun look =>
          { look with rejection := "no_observation", poseTimestamps := [] }) =
          Looking s a { look with rejection := "no_observation", poseTimestamps := [] }
            s.lastMarkerSequence := by
        have hlooking := looking_withLook (s := s) hlook look s.lastMarkerSequence fun look =>
          { look with rejection := "no_observation", poseTimestamps := [] }
        rw [looking_self h hlook] at hlooking
        exact hlooking
      rw [hreset]
      split
      · exact .pure fun t ht => .nothing (Or.inr ⟨_, _, ht⟩)
      · refine .ite (fun _ => .pure fun t ht => .nothing (Or.inr ⟨_, _, ht⟩)) fun _ => ?_
        exact within_sequencedCandidate w course _ acquisitionHeight hlook _ rfl

end Look

/-! ## 2. Requests of a landing -/

section Landing

variable {s t : DroneOperations R} {a : ActiveOperation R} {f : Precision R → Precision R}
  {tool : ToolCall R}

theorem busy_withLanding (h : Busy s) : Busy (s.withLanding f) :=
  busy_withContext h

theorem withLanding_of {c : Precision R} (h : s.active = some a)
    (hcontext : a.context = .precision c) : s.withLanding f = s.withOwn a (.precision (f c)) := by
  unfold withLanding
  rw [withContext_some h, hcontext]

/-- A change of the landing's context keeps an operation active. -/
theorem within_landing {f : DroneOperations R → Precision R → Precision R}
    (hlook : ∀ s c, (f s c).look = c.look) (hretry : ∀ s c, (f s c).retry = c.retry) :
    Within Work Busy (update fun s => s.withLanding (f s) : Operating R Unit) fun _ => Busy :=
  .update (fun s _ => work_withLanding (f s) (hlook s) (hretry s) s) fun _ h => busy_withLanding h

theorem within_markHealthy : Within Work Busy (markHealthy : Operating R Unit) fun _ => Busy :=
  within_landing (fun _ _ => rfl) fun _ _ => rfl

theorem within_refresh (nextHoldNs : ℤ) (holdTarget : R × R × R) (phase : ℤ → PrecisionPhase R) :
    Within Work Busy (refresh w nextHoldNs holdTarget phase) fun _ => Busy := by
  refine .current fun s h => .ite (fun _ => ?_) fun _ => .pure fun t ht => by rw [ht]; exact h
  refine .bind (B := fun _ => Busy) ((within_request (A := Busy) (fun _ h => h) rfl).weaken
    (fun t ht => by rw [ht]; exact h) fun _ _ h => h) fun _ => ?_
  exact within_landing (f := fun _ c => { c with phase := phase (s.clockNs + holdRefreshNs) })
    (fun _ _ => rfl) fun _ _ => rfl

theorem within_loseTarget : Within Work Busy (loseTarget w) fun _ => Busy := by
  refine .bind (within_request (A := Busy) (fun _ h => h) rfl) fun _ => .current fun s h => ?_
  have hstay : ∀ {x : Except String R}, Within Work (fun t => t = s)
      (ofExcept x : Operating R R) fun _ t => t = s := .ofExcept fun _ _ ht _ => ht
  refine .bind hstay fun latitude => .bind hstay fun longitude => .bind hstay fun altitude => ?_
  exact (within_landing (f := fun _ c =>
    { c with
      phase := .hold s.clockNs s.clockNs (latitude, longitude, altitude)
      reacquired := 0 }) (fun _ _ => rfl) fun _ _ => rfl).weaken
    (fun t ht => by rw [ht]; exact h) fun _ _ h => h

theorem within_beginLand : Within Work Busy (beginLand w) fun _ => Busy :=
  .bind (within_request (A := Busy) (fun _ h => h) rfl) fun _ =>
    within_landing (f := fun s c => { c with phase := .tracking, lastHealthyNs := s.clockNs })
      (fun _ _ => rfl) fun _ _ => rfl

theorem within_resumeLand : Within Work Busy (resumeLand w) fun _ => Busy :=
  .bind (within_request (A := Busy) (fun _ h => h) rfl) fun _ =>
    within_landing
      (f := fun s c => { c with phase := .tracking, lastHealthyNs := s.clockNs, reacquired := 0 })
      (fun _ _ => rfl) fun _ _ => rfl

/-- **The way back to the anchor is the first one.** -/
theorem within_retry {c : Precision R} (h : s.active = some a)
    (hcontext : a.context = .precision c) (hfirst : c.retry = 0) :
    Within Work (fun t => t = s) (retry w course a c) fun _ _ => True := by
  intro P hP r hr hA
  unfold retry
  rw [wp_bind]
  have hactive : r.state.active = some a := by rw [hA]; exact h
  have hsent := hP r _ _ hr (@Work.sent _ _ _ (.sendWaypoint c.anchor.latitudeDeg
    c.anchor.longitudeDeg course.acquisitionAglM) hactive rfl)
  refine wp_request w _ ?_ fun _ => hsent
  rw [wp_bind, wp_perform, wp_update]
  refine ⟨?_, trivial⟩
  -- the note and the change of the context are one move
  have hretried := hP ⟨r.state, _⟩ _ _ hsent (@Work.retried _ _ _ _
    { c with
      phase := .retryTransit (r.state.clockNs + holdRefreshNs)
        (c.anchor.latitudeDeg, c.anchor.longitudeDeg, course.acquisitionAglM)
      retry := 1
      reacquired := 0 } hactive hcontext hfirst rfl rfl)
  show P ⟨r.state.withLanding _, _⟩
  rw [withLanding_of hactive hcontext]
  exact hretried

theorem within_endHold : Within Work Busy (endHold e w course) fun _ _ => True := by
  refine .current fun s h => ?_
  split
  · exact .throw _
  · rename_i a hactive
    split
    · exact .throw _
    · rename_i c hlanding
      refine .ite (fun _ => within_finish e (fun h => by cases h) _) fun hfirst => ?_
      have hcontext : a.context = .precision c := by
        cases hc : a.context with
        | precision c' =>
          rw [hc] at hlanding
          cases hlanding
          rfl
        | _ =>
          rw [hc] at hlanding
          cases hlanding
      exact within_retry w course hactive hcontext (by omega)

/-- A reading of the landing's context. -/
theorem within_currentLanding : Within Work (fun t => t = s) currentLanding fun c t =>
    t = s ∧ (s.active.bind fun a => a.context.landing) = some c := by
  refine .current fun s' hs => ?_
  subst hs
  split
  · exact .throw _
  · rename_i c hc
    exact .pure fun t ht => ⟨ht, hc⟩

theorem within_holdOn (holdStartedNs nextHoldNs : ℤ) (holdTarget : R × R × R) (seen : Sight R) :
    Within Work Busy (holdOn e w course holdStartedNs nextHoldNs holdTarget seen)
      fun _ _ => True := by
  refine .bind (within_refresh w _ _ _) fun _ => ?_
  refine .bind (within_landing (f := fun _ => countFrame seen) (fun _ c => ?_) fun _ c => ?_)
    fun _ => ?_
  · unfold countFrame
    split
    · rfl
    · rfl
  · unfold countFrame
    split
    · rfl
    · rfl
  · refine .bind (B := fun _ => Busy) ?_ fun c => .current fun s h => ?_
    · refine .current fun s h => ?_
      split
      · exact .throw _
      · exact .pure fun t ht => by rw [ht]; exact h
    · have hbusy : ∀ t, t = s → Busy t := fun t ht => by rw [ht]; exact h
      refine .ite (fun _ => (within_resumeLand w).weaken hbusy fun _ _ _ => trivial) fun _ => ?_
      refine .ite (fun _ => (within_endHold e w course).weaken hbusy fun _ _ h => h) fun _ => ?_
      exact .pure fun _ _ => trivial

variable [MachineFloat R] (e : Equipment R) (w : Surroundings R) (course : OperationCourse R)
  (arucoId : ℤ) (c : Precision R)

/-- **Tracking without a target to send**: the sight is not healthy, or LAND is not observed. -/
theorem within_track (seen : Sight R) (h : Busy s)
    (hno : ¬(seen.healthy = true ∧ seen.observation.isSome = true ∧ s.modeIs "LAND" = true)) :
    Within Work (fun t => t = s) (track w c seen) fun _ _ => True := by
  have hbusy : ∀ t, t = s → Busy t := fun t ht => by rw [ht]; exact h
  refine .current fun s' hs => ?_
  subst hs
  split
  · rename_i o hhealthy hobservation
    refine .ite (fun hmode => absurd ⟨hhealthy, by rw [hobservation]; rfl, hmode⟩ hno) fun _ => ?_
    exact .pure fun _ _ => trivial
  · refine .ite (fun _ => within_markHealthy.weaken hbusy fun _ _ _ => trivial) fun _ => ?_
    refine .ite (fun _ => .pure fun _ _ => trivial) fun _ => ?_
    exact (within_loseTarget w).weaken hbusy fun _ _ _ => trivial

/-- A sight steers without a target to send. -/
theorem within_steer (seen : Sight R) (h : Busy s)
    (hno : ¬(c.phase = .tracking ∧ seen.healthy = true ∧ seen.observation.isSome = true ∧
      s.modeIs "LAND" = true)) :
    Within Work (fun t => t = s) (steer e w course c seen) fun _ _ => True := by
  have hbusy : ∀ t, t = s → Busy t := fun t ht => by rw [ht]; exact h
  unfold steer
  split
  · exact .ite (fun _ => (within_beginLand w).weaken hbusy fun _ _ _ => trivial) fun _ =>
      .pure fun _ _ => trivial
  · rename_i hphase
    exact within_track w c seen h fun hyes => hno ⟨hphase, hyes⟩
  · exact (within_holdOn e w course _ _ _ seen).weaken hbusy fun _ _ h => h
  · exact .throw _

/-- A precision landing is under way. -/
def Landing (s : DroneOperations R) : Prop :=
  ∃ a c, s.active = some a ∧ a.context = .precision c

omit [MachineFloat R] in
theorem Landing.busy (h : Landing s) : Busy s := by
  obtain ⟨a, -, hactive, -⟩ := h
  exact ⟨a, hactive⟩

omit [MachineFloat R] in
theorem landing_withLanding (h : Landing s) : Landing (s.withLanding f) := by
  obtain ⟨a, c, hactive, hcontext⟩ := h
  rw [withLanding_of hactive hcontext]
  exact ⟨_, _, rfl, rfl⟩

/-- A healthy sight has the observation that was judged. -/
theorem judgeCandidate_healthy {c : Precision R} {observation : Option (MarkerObservation R)}
    {candidate : Option (R × R)} {seen : Sight R}
    (h : judgeCandidate c observation candidate = .ok seen) (hhealthy : seen.healthy = true) :
    candidate.isSome = true ∧ seen.observation = observation := by
  unfold judgeCandidate at h
  split at h
  · refine ⟨rfl, ?_⟩
    split at h
    · unfold judgeCenter at h
      split at h
      · split at h
        · cases h
        · split at h
          · cases h
            rfl
          · cases h
            cases hhealthy
      · cases h
        rfl
    · cases h
      cases hhealthy
  · cases h
    cases hhealthy

/-- **A look of a landing**: a healthy sight comes with a new frame. -/
theorem within_sight (observation : Option (MarkerObservation R)) {c : Precision R}
    (h : s.active = some a) (hcontext : a.context = .precision c) :
    Within Work (fun t => t = s) (sight e w arucoId observation) fun seen t => Landing t ∧
      (seen.healthy = true → ∃ o c', observation = some o ∧ seen.observation = some o ∧
        Spotted s a c c' o t) := by
  refine .bind (within_markerCandidate e w arucoId false observation h) fun candidate => ?_
  refine .bind (B := fun _ => Looked s a observation candidate) ?_ fun c₁ => ?_
  · refine .current fun s' hs => ?_
    split
    · exact .throw _
    · exact .pure fun t ht => by rw [ht]; exact hs
  · refine .ofExcept fun seen t hlooked hjudged => ⟨?_, fun hhealthy => ?_⟩
    · rcases hlooked.state with rfl | ⟨look', m, rfl⟩
      · exact ⟨a, c, h, hcontext⟩
      · refine ⟨_, { c with look := look' }, looking_active look' m, ?_⟩
        rw [hcontext]
        rfl
    · obtain ⟨hcandidate, hsame⟩ := judgeCandidate_healthy hjudged hhealthy
      obtain ⟨o, look, look', rfl, hlook, hnewer, hsequence, hrejection, rfl⟩ :=
        hlooked.found hcandidate
      rw [hcontext] at hlook
      cases hlook
      refine ⟨o, { c with look := look' }, rfl, hsame, h, hcontext, hnewer, hsequence, hrejection, rfl,
        rfl, ?_⟩
      unfold Looking
      rw [hcontext]
      rfl

/-! ## 3. A step of a landing -/

section Silent

variable {log : List (OperationNote R)}

omit [MachineFloat R] in
theorem silent_update {f : DroneOperations R → DroneOperations R} :
    Keeps (fun r => r.log = log) (update f : Operating R Unit) := fun _ h => h

omit [MachineFloat R] in
theorem silent_current {α : Type} {f : DroneOperations R → Operating R α}
    (h : ∀ s, Keeps (fun r => r.log = log) (f s)) :
    Keeps (fun r => r.log = log) (current >>= f) := fun r hr => h r.state r hr

omit [MachineFloat R] in
theorem silent_currentLook : Keeps (fun r => r.log = log) (currentLook : Operating R _) := by
  refine silent_current fun s => ?_
  split
  · exact .throw _
  · exact .pure _

/-- A marker candidate notes nothing. -/
theorem silent_markerCandidate (acquisitionHeight : Bool)
    (observation : Option (MarkerObservation R)) :
    Keeps (fun r => r.log = log) (markerCandidate e w arucoId acquisitionHeight observation) := by
  unfold markerCandidate
  split
  · exact .throw _
  · refine .bind silent_update fun _ => ?_
    split
    · exact .pure _
    · refine .ite (.pure _) (.bind silent_currentLook fun look => .ite ?_ ?_)
      · exact .bind silent_update fun _ => .pure _
      · refine .bind silent_update fun _ => silent_current fun s => .bind silent_currentLook fun _ => ?_
        exact .bind (.ofExcept _) fun _ => .bind silent_update fun _ => .pure _

theorem silent_sight (observation : Option (MarkerObservation R)) :
    Keeps (fun r => r.log = log) (sight e w arucoId observation) := by
  refine .bind (silent_markerCandidate e w arucoId false observation) fun _ => .bind ?_ fun _ =>
    .ofExcept _
  refine silent_current fun s => ?_
  split
  · exact .throw _
  · exact .pure _

end Silent

/-- After a sight: its report, and where the landing goes. -/
def afterSight (seen : Sight R) : Operating R Unit := do
  let c ← currentLanding
  report w arucoId c seen
  steer e w course c seen

omit [MachineFloat R] in
theorem within_report (seen : Sight R) :
    Within Work (fun t => t = s) (report w arucoId c seen) fun _ t => t = s := by
  unfold report
  split
  · exact .pure fun _ ht => ht
  · exact within_emit fun _ => rfl

/-- After a sight that sends no target. -/
theorem within_afterSight (seen : Sight R) (h : Landing s)
    (hno : ∀ a c, s.active = some a → a.context = .precision c → ¬(c.phase = .tracking ∧
      seen.healthy = true ∧ seen.observation.isSome = true ∧ s.modeIs "LAND" = true)) :
    Within Work (fun t => t = s) (afterSight e w course arucoId seen) fun _ _ => True := by
  have hbusy := h.busy
  obtain ⟨a, c, hactive, hcontext⟩ := h
  refine .bind within_currentLanding fun c₁ => ?_
  intro P hP r hr hA
  obtain ⟨hstate, hc₁⟩ := hA
  rw [hactive] at hc₁
  have hc₂ : a.context.landing = some c₁ := hc₁
  rw [hcontext] at hc₂
  cases hc₂
  have hrest : Within Work (fun t => t = s)
      (report w arucoId c seen >>= fun _ => steer e w course c seen) fun _ _ => True :=
    .bind (within_report w arucoId c seen) fun _ =>
      within_steer e w course c seen hbusy (hno a c hactive hcontext)
  exact hrest P hP r hr hstate

/-- **A LANDING_TARGET is one move** with the poll and the report it comes from. -/
theorem targeted_afterSight {seen : Sight R} {c c' : Precision R} {o : MarkerObservation R}
    {P : Acting (DroneOperations R) (OperationNote R) → Prop}
    {r : Acting (DroneOperations R) (OperationNote R)} (hP : Stable Work P) (hr : P r)
    (hspotted : Spotted r.state a c c' o t) (hphase : c.phase = .tracking)
    (hhealthy : seen.healthy = true) (hobservation : seen.observation = some o)
    (hmode : t.modeIs "LAND" = true) :
    wp (afterSight e w course arucoId seen) (fun _ => P) (fun _ => P)
      ⟨t, r.log ++ [OperationNote.polled (.ok (some o))]⟩ := by
  have hactive : t.active = some { a with context := .precision c' } := by
    rw [hspotted.state]
    rfl
  have hclock : t.clockNs = r.state.clockNs := by
    rw [hspotted.state]
    rfl
  have hreport : (reportOf w arucoId c' o true seen.reason).observation = o ∧
      (reportOf w arucoId c' o true seen.reason).healthy = true := ⟨rfl, rfl⟩
  have htargeted := hP r _ t hr (.targeted hspotted hphase hmode hreport)
  unfold afterSight currentLanding
  rw [wp_bind, wp_bind, wp_current]
  simp only [hactive, Option.bind_some, OperationContext.landing, wp_pure]
  unfold report
  rw [hobservation, hhealthy]
  simp only [wp_bind, wp_emit]
  unfold steer
  rw [hspotted.phase, hphase]
  unfold track
  rw [wp_bind, wp_current, hobservation, hhealthy]
  simp only [hmode, if_true, wp_bind, List.append_assoc]
  have hsent : P ⟨t, (r.log ++ ([OperationNote.polled (.ok (some o))] ++
      [OperationNote.emitted t.clockNs (.precisionObservation (reportOf w arucoId c' o true seen.reason))])) ++
      [OperationNote.sent t (.sendLandingTarget o.vector)]⟩ := by
    rw [hclock, List.append_assoc]
    exact htargeted
  refine wp_request w _ ?_ fun _ => hsent
  exact (within_markHealthy P hP _ hsent ⟨_, hactive⟩).mono (fun _ _ ht => ht.1) fun _ _ ht => ht

/-- **The part of a step that needs the camera.** -/
theorem within_evaluateSight :
    Within Work Landing (evaluateSight e w course arucoId) fun _ _ => True := by
  intro P hP r hr hlanding
  obtain ⟨a, c, hactive, hcontext⟩ := hlanding
  have hquiet : (OperationNote.polled w.poll).isQuiet = true := rfl
  have hpolled := hP r _ _ hr (.noted hquiet)
  unfold evaluateSight poll
  rw [wp_bind, wp_bind, wp_perform, wp_ofExcept]
  refine ⟨fun observation hpoll => ?_, fun _ _ => hpolled⟩
  rw [wp_bind]
  have hseen := (within_sight e w arucoId observation hactive hcontext P hP _ hpolled rfl).and
    (silent_sight e w arucoId observation ⟨r.state, r.log ++ [OperationNote.polled w.poll]⟩ rfl)
  refine hseen.mono (fun seen u hu => ?_) fun _ _ hu => hu.1
  obtain ⟨⟨hu, hlanding, hspotted⟩, hlog⟩ := hu
  by_cases htarget : c.phase = .tracking ∧ seen.healthy = true ∧ u.state.modeIs "LAND" = true
  · obtain ⟨hphase, hhealthy, hmode⟩ := htarget
    obtain ⟨o, c', rfl, hobservation, hspotted⟩ := hspotted hhealthy
    have hafter := targeted_afterSight e w course arucoId hP hr hspotted hphase hhealthy
      hobservation hmode
    have hnoted : u.log = r.log ++ [OperationNote.polled w.poll] := hlog
    have hstate : u = ⟨u.state, r.log ++ [OperationNote.polled (.ok (some o))]⟩ := by
      rw [← hpoll, ← hnoted]
    rw [hstate]
    exact hafter.mono (fun _ _ ht => ⟨ht, trivial⟩) fun _ _ ht => ht
  · refine within_afterSight (s := u.state) e w course arucoId seen hlanding ?_ P hP u hu rfl
    rintro a' c' hactive' hcontext' ⟨hphase, hhealthy, -, hmode⟩
    obtain ⟨o, c'', -, -, hspotted⟩ := hspotted hhealthy
    have hsame : u.state.active = some { a with context := .precision c'' } := by
      rw [hspotted.state]
      rfl
    rw [hactive'] at hsame
    cases hsame
    cases hcontext'
    exact htarget ⟨by rw [← hspotted.phase]; exact hphase, hhealthy, hmode⟩

omit [MachineFloat R] in
theorem within_holdAtAnchor (holdTarget : R × R × R) :
    Within Work Landing (holdAtAnchor arucoId holdTarget) fun _ => Landing := by
  refine .bind (B := fun _ => Landing) ?_ fun c => .current fun s h => ?_
  · refine .current fun s h => ?_
    split
    · exact .throw _
    · exact .pure fun t ht => by rw [ht]; exact h
  · split
    · refine .bind (B := fun _ => Landing)
        (.update (fun t _ => work_withLanding _ (by exact fun _ => rfl) (by exact fun _ => rfl) t)
          fun t ht => landing_withLanding (by rw [ht]; exact h)) fun _ => within_emit fun _ => rfl
    · exact .throw _

omit [MachineFloat R] in
theorem landing_refresh (nextHoldNs : ℤ) (holdTarget : R × R × R) (phase : ℤ → PrecisionPhase R) :
    Within Work Landing (refresh w nextHoldNs holdTarget phase) fun _ => Landing := by
  refine .current fun s h => .ite (fun _ => ?_) fun _ => .pure fun t ht => by rw [ht]; exact h
  refine .bind (B := fun _ => Landing) ((within_request (A := Landing) (fun _ h => h.busy) rfl).weaken
    (fun t ht => by rw [ht]; exact h) fun _ _ h => h) fun _ => ?_
  exact .update (fun t _ => work_withLanding _ (by exact fun _ => rfl) (by exact fun _ => rfl) t)
    fun _ h => landing_withLanding h

theorem within_transit (nextHoldNs : ℤ) (holdTarget : R × R × R) :
    Within Work Landing (transit e w course arucoId nextHoldNs holdTarget) fun _ _ => True := by
  refine .bind (landing_refresh w _ _ _) fun _ => .current fun s h => ?_
  refine .bind (B := fun _ => Landing) (.ofExcept fun _ t ht _ => by rw [ht]; exact h)
    fun arrived => .ite (fun _ => ?_) fun _ => ?_
  · exact .bind (within_holdAtAnchor arucoId holdTarget) fun _ =>
      within_evaluateSight e w course arucoId
  · exact .bind (within_poll w) fun _ => .pure fun _ _ => trivial

omit [MachineFloat R] in
/-- Only a landing has a landing's context. -/
theorem landing_currentLanding :
    Within Work (fun _ => True) (currentLanding : Operating R (Precision R)) fun _ => Landing := by
  refine .current fun s _ => ?_
  split
  · exact .throw _
  · rename_i c hc
    refine .pure fun t ht => ?_
    obtain ⟨a, hactive, hlanding⟩ := Option.bind_eq_some_iff.mp hc
    cases hcontext : a.context with
    | precision c' => exact ⟨a, c', by rw [ht]; exact hactive, hcontext⟩
    | _ =>
      rw [hcontext] at hlanding
      cases hlanding

theorem within_evaluateFlying :
    Within Work (fun _ => True) (evaluateFlying e w course arucoId) fun _ _ => True := by
  refine .bind landing_currentLanding fun c => .current fun s h => ?_
  have hlanding : ∀ t, t = s → Landing t := fun t ht => by rw [ht]; exact h
  split
  · exact (within_transit e w course arucoId _ _).weaken hlanding fun _ _ h => h
  · refine .ite (fun _ => ?_) fun _ =>
      (within_evaluateSight e w course arucoId).weaken hlanding fun _ _ h => h
    exact within_markHealthy.weaken (fun t ht => (hlanding t ht).busy) fun _ _ _ => trivial
  · exact (within_evaluateSight e w course arucoId).weaken hlanding fun _ _ h => h

/-- **A step of a landing.** -/
theorem within_evaluatePrecision (a : ActiveOperation R) (arucoId : ℤ) :
    Within Work (fun _ => True) (evaluatePrecision e w a arucoId) fun _ _ => True := by
  refine .current fun s _ => ?_
  split
  · exact .throw _
  · rename_i course _
    refine .ite (fun _ => .bind (B := fun _ _ => True)
      (.update (fun _ _ => .quiet ⟨rfl, rfl, rfl, rfl, rfl, rfl⟩) fun _ _ => trivial)
      fun _ => .pure fun _ _ => trivial) fun _ => ?_
    refine .ite (fun _ => .bind (within_finish e (fun h => by cases h) _)
      fun _ => .pure fun _ _ => trivial) fun _ => ?_
    refine .ite (fun _ => .bind (within_finish e (fun h => by cases h) _)
      fun _ => .pure fun _ _ => trivial) fun _ => ?_
    exact .bind ((within_evaluateFlying e w course arucoId).weaken (fun _ _ => trivial)
      fun _ _ h => h) fun _ => .pure fun _ _ => trivial

/-! ## 4. The marker search -/

omit [MachineFloat R] in
theorem within_currentSamples : Within Work (Doing tool) currentSamples fun _ => Doing tool := by
  refine .current fun s h => ?_
  split
  · exact .pure fun t ht => by rw [ht]; exact h
  · exact .throw _

omit [MachineFloat R] in
theorem doing_currentLook : Within Work (Doing tool) currentLook fun _ => Doing tool := by
  refine .current fun s h => ?_
  split
  · exact .throw _
  · exact .pure fun t ht => by rw [ht]; exact h

theorem within_anchorMarker (samples : List (R × R)) :
    Within Work (Doing tool) (anchorMarker arucoId samples) fun _ _ => True := by
  refine .bind doing_currentLook fun look => ?_
  split
  · exact .bind (within_quiet (fun _ => ⟨rfl, rfl, rfl, rfl, rfl, rfl⟩) fun _ h => h)
      fun _ => .pure fun _ _ => trivial
  · exact .throw _

theorem within_gather (htool : tool.landingMarker = none) (arucoId : ℤ) (candidate : R × R) :
    Within Work (Doing tool) (gather arucoId candidate) fun _ _ => True := by
  refine .bind within_currentSamples fun samples => ?_
  refine .bind (B := fun _ => Doing tool) (.update (fun s h => ?_) fun s h => doing_withContext h)
    fun _ => .ite (fun _ => .pure fun _ _ => trivial) fun _ => within_anchorMarker arucoId _
  obtain ⟨a, hactive, rfl⟩ := h
  rw [withContext_some hactive]
  cases hcontext : a.context with
  | marker _ _ => exact .worked hactive rfl rfl rfl (Or.inr ⟨htool, rfl⟩) (Or.inl rfl)
  | _ => exact .worked hactive rfl rfl rfl (Or.inl hcontext.symm) (Or.inl rfl)

theorem within_evaluateFindMarker (tool : ToolCall R) (htool : tool.landingMarker = none)
    (arucoId : ℤ) : Within Work (Doing tool) (evaluateFindMarker e w arucoId) fun _ _ => True := by
  refine .bind (within_poll w) fun observation => .bind (B := fun _ => Doing tool) ?_
    fun candidate => ?_
  · intro P hP r hr hdoing
    obtain ⟨a, hactive, hsame⟩ := hdoing
    refine (within_markerCandidate e w arucoId true observation hactive P hP r hr rfl).mono
      (fun candidate t ht => ⟨ht.1, ?_⟩) fun _ _ ht => ht
    rcases ht.2.state with hstate | ⟨look', m, hstate⟩
    · rw [hstate]
      exact ⟨a, hactive, hsame⟩
    · rw [hstate]
      exact ⟨_, looking_active look' m, hsame⟩
  · cases candidate with
    | none => exact .pure fun _ _ => trivial
    | some candidate => exact within_gather htool arucoId candidate

end Landing

end DroneOperations

end DroneSim
