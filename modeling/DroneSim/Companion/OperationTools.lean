/-
  File:      DroneSim/Companion/OperationTools.lean
  Subject:   The tools of the drone operations stay within the moves of the active operation.

  One lemma for each way a tool begins and completes; `within_dispatch` and `within_evaluateActive`
  for all of them.
-/
import DroneSim.Companion.LandingMoves

namespace DroneSim

open Library Library.Attempt Library.Acting MachineFloat

namespace DroneOperations

variable {R : Type} {tool : ToolCall R}
variable (e : Equipment R) (w : Surroundings R)

/-! ## 1. Tools begin -/

/-- An operation of this tool has just begun. -/
def Launched (tool : ToolCall R) (s : DroneOperations R) : Prop :=
  ∃ a, s.active = some a ∧ a.tool = tool ∧ a.context = .empty ∧ a.status.startedAtNs = s.clockNs

theorem Launched.doing {s : DroneOperations R} (h : Launched tool s) : Doing tool s := by
  obtain ⟨a, hactive, htool, -, -⟩ := h
  exact ⟨a, hactive, htool⟩

theorem within_nextRequestId (stem : String) :
    Within Work (Doing tool) (nextRequestId stem) fun _ => Doing tool :=
  .bind (within_quiet (fun _ => ⟨rfl, rfl, rfl, rfl, rfl, rfl⟩) fun _ h => h) fun _ =>
    .current fun _ h => .pure fun _ ht => by rw [ht]; exact h

/-- A command whose ACK is waited for, by another tool than a landing. -/
theorem within_command (htool : tool.landingMarker = none) (kind : CommandKind)
    (altitudeM : Option R) :
    Within Work (Doing tool) (command w kind altitudeM) fun _ _ => True := by
  have hstep : ∀ s : DroneOperations R, Doing tool s →
      Work s [] { s with active := s.active.map fun a => { a with expectedAck := some kind } } ∧
        Doing tool
          { s with active := s.active.map fun a => { a with expectedAck := some kind } } := by
    rintro s ⟨a, hactive, rfl⟩
    rw [hactive]
    exact ⟨.worked hactive rfl rfl rfl (Or.inl rfl) (Or.inr htool), _, rfl, rfl⟩
  refine .bind (B := fun _ => Doing tool)
    (.update (fun s h => (hstep s h).1) fun s h => (hstep s h).2) fun _ => ?_
  exact (within_request (A := Doing tool) (fun _ h => h.busy) rfl).weaken (fun _ h => h)
    fun _ _ _ => trivial

/-- Another tool than a landing gets a context, and requests something. -/
theorem within_contextRequest (htool : tool.landingMarker = none) {context : OperationContext R}
    (hcontext : context.landing = none) {req : OperationRequest R} (htarget : req.target = none) :
    Within Work (Doing tool)
      (do
        update (withContext fun _ => context)
        request w req) fun _ _ => True := by
  refine .bind (B := fun _ => Doing tool)
    (.update (fun s h => work_withContext h htool fun _ => hcontext)
      fun s h => doing_withContext h) fun _ => ?_
  exact (within_request (A := Doing tool) (fun _ h => h.busy) htarget).weaken (fun _ h => h)
    fun _ _ _ => trivial

theorem within_requestNext (htool : tool.landingMarker = none) (stem : String)
    {make : String → ℤ → OperationRequest R} (hmake : ∀ id stamp, (make id stamp).target = none) :
    Within Work (Doing tool) (requestNext w stem make) fun _ _ => True := by
  refine .bind (within_nextRequestId stem) fun requestId => ?_
  refine .bind (B := fun _ => Doing tool)
    (.update (fun s h => work_withContext h htool fun _ => rfl)
      fun s h => doing_withContext h) fun _ => ?_
  refine .current fun s h => ?_
  exact (within_request (A := Doing tool) (fun _ h => h.busy) (hmake _ _)).weaken
    (fun _ ht => by rw [ht]; exact h) fun _ _ _ => trivial

theorem within_beginPhaseTool (htool : tool.landingMarker = none) (name phase : String)
    {make : String → ℤ → OperationRequest R} (hmake : ∀ id stamp, (make id stamp).target = none) :
    Within Work (Doing tool) (beginPhaseTool e w name phase make) fun _ _ => True :=
  .ite (fun _ => within_requestNext w htool phase hmake) fun _ => .throw _

theorem within_configureFlight (htool : tool.landingMarker = none) (tuning : FlightTuning R) :
    Within Work (Doing tool) (configureFlight w tuning) fun _ _ => True := by
  refine .current fun s h => .ite (fun _ => .throw _) fun _ => ?_
  refine .bind (B := fun _ => Doing tool)
    (.update (fun t ht => work_withContext (by rw [ht]; exact h) htool fun _ => rfl)
      fun t ht => doing_withContext (by rw [ht]; exact h)) fun _ => ?_
  refine .bind (within_quiet (fun _ => ⟨rfl, rfl, rfl, rfl, rfl, rfl⟩) fun _ h => h) fun _ => ?_
  exact (within_request (A := Doing tool) (fun _ h => h.busy) rfl).weaken (fun _ h => h)
    fun _ _ _ => trivial

theorem within_beginArm (htool : tool.landingMarker = none) :
    Within Work (Doing tool) (beginArm w) fun _ _ => True := by
  refine .current fun s h => .ite (fun _ => .throw _) fun _ => .ite (fun _ => .throw _) fun _ => ?_
  exact (within_command w htool .arm none).weaken (fun _ ht => by rw [ht]; exact h) fun _ _ h => h

theorem within_beginLanding (htool : tool.landingMarker = none) :
    Within Work (Doing tool) (beginLanding e w) fun _ _ => True := by
  refine .current fun s h => .ite (fun _ => within_finish e (fun h => by cases h) _) fun _ => ?_
  exact (within_command w htool .land none).weaken (fun _ ht => by rw [ht]; exact h) fun _ _ h => h

theorem within_beginFindMarker (htool : tool.landingMarker = none) (arucoId : ℤ) :
    Within Work (Doing tool) (beginFindMarker e w arucoId) fun _ _ => True := by
  refine .current fun s h => .ite (fun _ => ?_) fun _ => .throw _
  exact (within_contextRequest w htool rfl rfl).weaken (fun _ ht => by rw [ht]; exact h)
    fun _ _ h => h

theorem within_beginAttach (htool : tool.landingMarker = none) (arucoId : ℤ) :
    Within Work (Doing tool) (beginAttach e w arucoId) fun _ _ => True := by
  refine .current fun s h => .ite (fun _ => .throw _) fun _ => .ite (fun _ => .throw _) fun _ => ?_
  exact (within_requestNext w htool _ fun _ _ => rfl).weaken (fun _ ht => by rw [ht]; exact h)
    fun _ _ h => h

section Numbers

variable [MachineFloat R] (e : Equipment R) (w : Surroundings R)

theorem within_beginGotoCourse (htool : tool.landingMarker = none) (target : CourseTarget)
    (altitudeM : R) :
    Within Work (Doing tool) (beginGotoCourse e w target altitudeM) fun _ _ => True := by
  refine .current fun s h => .bind (B := fun _ => Doing tool)
    (.ofExcept fun _ t ht _ => by rw [ht]; exact h) fun point => ?_
  exact within_contextRequest w htool rfl rfl

theorem within_beginRelease (htool : tool.landingMarker = none) (arucoId : ℤ)
    (deliveryMode : DeliveryMode) :
    Within Work (Doing tool) (beginRelease e w arucoId deliveryMode) fun _ _ => True := by
  refine .current fun s h => .ite (fun _ => .throw _) fun _ => ?_
  split
  · exact .throw _
  · exact (within_requestNext w htool _ fun _ _ => rfl).weaken (fun _ ht => by rw [ht]; exact h)
      fun _ _ h => h

/-- **A landing begins** with the frames used so far behind it and at most 60 s ahead. -/
theorem within_beginPrecision (arucoId : ℤ) :
    Within Work (Launched (.precisionLand arucoId)) (beginPrecision e w arucoId)
      fun _ _ => True := by
  refine .current fun s h => .ite (fun _ => .throw _) fun _ => ?_
  obtain ⟨a, hactive, htool, hempty, hclock⟩ := h
  split
  · exact .throw _
  · refine .ite (fun _ => .throw _) fun _ => ?_
    refine .bind (B := fun _ => Busy) (.update (fun t ht => ?_) fun t ht => ?_) fun _ => ?_
    · rw [ht, hactive]
      exact .begun hactive (by rw [htool]; rfl) hempty hclock rfl rfl
    · rw [ht, hactive]
      exact ⟨_, rfl⟩
    · exact (within_request (A := Busy) (fun _ h => h) rfl).weaken (fun _ h => h)
        fun _ _ _ => trivial

theorem within_dispatchVehicle (tool : ToolCall R) :
    Within Work (Launched tool) (dispatchVehicle e w tool) fun _ _ => True := by
  have hdoing : ∀ {x : Operating R Unit}, Within Work (Doing tool) x (fun _ _ => True) →
      Within Work (Launched tool) x fun _ _ => True :=
    fun hx => hx.weaken (fun _ h => h.doing) fun _ _ h => h
  cases tool with
  | configureFlight tuning => exact hdoing (within_configureFlight w rfl tuning)
  | setMode _ => exact hdoing (within_command w rfl .setGuided none)
  | arm => exact hdoing (within_beginArm w rfl)
  | takeoff altitudeM _ => exact hdoing (within_command w rfl .takeoff (some altitudeM))
  | gotoWaypoint latitudeDeg longitudeDeg altitudeM _ =>
    exact (within_request (A := Launched _) (fun _ h => h.doing.busy) rfl).weaken (fun _ h => h)
      fun _ _ _ => trivial
  | hold _ => exact .pure fun _ _ => trivial
  | land => exact hdoing (within_beginLanding e w rfl)
  | gotoCourseWaypoint target altitudeM _ =>
    exact hdoing (within_beginGotoCourse e w rfl target altitudeM)
  | findMarker arucoId => exact hdoing (within_beginFindMarker e w rfl arucoId)
  | precisionLand arucoId => exact within_beginPrecision e w arucoId
  | attachPayload arucoId => exact hdoing (within_beginAttach e w rfl arucoId)
  | releasePayload arucoId deliveryMode =>
    exact hdoing (within_beginRelease e w rfl arucoId deliveryMode)
  | waitForState _ _ _ => exact .throw _
  | beginPhase _ => exact .throw _
  | checkPhase _ _ => exact .throw _
  | attemptRecovery => exact .throw _

/-- **A tool begins** within the moves of the operation that was opened for it. -/
theorem within_dispatch (tool : ToolCall R) :
    Within Work (Launched tool) (dispatch e w tool) fun _ _ => True := by
  refine .current fun s h => ?_
  have hvehicle : ∀ error error' : String, Within Work (fun t => t = s)
      (if !s.fresh [.heartbeat] then throw error
        else if tool.beginsGuided && !(s.flagIs .armed true && s.modeIs "GUIDED") then throw error'
        else dispatchVehicle e w tool) fun _ _ => True := by
    intro error error'
    refine .ite (fun _ => .throw _) fun _ => .ite (fun _ => .throw _) fun _ => ?_
    exact (within_dispatchVehicle e w tool).weaken (fun _ ht => by rw [ht]; exact h) fun _ _ h => h
  cases tool with
  | waitForState _ _ _ => exact .pure fun _ _ => trivial
  | beginPhase phase =>
    exact (within_beginPhaseTool e w rfl _ phase fun _ _ => rfl).weaken
      (fun _ ht => by rw [ht]; exact h.doing) fun _ _ h => h
  | checkPhase phase checkpoint =>
    exact (within_beginPhaseTool e w rfl _ phase fun _ _ => rfl).weaken
      (fun _ ht => by rw [ht]; exact h.doing) fun _ _ h => h
  | _ => exact hvehicle _ _

end Numbers

/-! ## 2. Tools complete -/

section Complete

variable (e : Equipment R) (w : Surroundings R) {a : ActiveOperation R}

/-- The answer to a request ends an operation or leaves it. -/
theorem within_evaluatePayload {A : DroneOperations R → Prop} :
    Within Work A (evaluatePayload e w a) fun _ _ => True := by
  refine .bind (B := fun _ => A) (.ofExcept fun _ _ h _ => h) fun requestId => ?_
  refine .bind (B := fun _ => A) (.ofExcept fun _ _ h _ => h) fun confirmation => ?_
  split
  · exact .pure fun _ _ => trivial
  · refine .ite (fun _ => .pure fun _ _ => trivial) fun _ => ?_
    refine .ite (fun _ => .pure fun _ _ => trivial) fun _ => ?_
    exact .bind (within_finish e (fun h => by cases h) _) fun _ => .pure fun _ _ => trivial

theorem within_evaluatePhaseCheck {A : DroneOperations R → Prop} (phase : String)
    (checkpoint : Option String) :
    Within Work A (evaluatePhaseCheck e w a phase checkpoint) fun _ _ => True := by
  refine .bind (B := fun _ => A) (.ofExcept fun _ _ h _ => h) fun requestId => ?_
  refine .bind (B := fun _ => A) (.ofExcept fun _ _ h _ => h) fun decision => ?_
  split
  · exact .pure fun _ _ => trivial
  · refine .ite (fun _ => .pure fun _ _ => trivial) fun _ => ?_
    refine .ite (fun _ => .pure fun _ _ => trivial) fun _ => ?_
    exact .bind (within_finish e (fun h => by cases h) _) fun _ => .pure fun _ _ => trivial

/-- The recovery goes down. -/
theorem work_homeLand {s : DroneOperations R} (htool : tool.landingMarker = none)
    (h : Doing tool s) : Work s [] (s.withContext fun _ => .homeLand) :=
  work_withContext h htool fun _ => rfl

variable [MachineFloat R]

theorem within_completeConfigure {A : DroneOperations R → Prop} :
    Within Work A (completeConfigure e a) fun _ _ => True := by
  refine .current fun s _ => .ite (fun _ => .bind (within_finish e (fun h => by cases h) _)
    fun _ => .pure fun _ _ => trivial) fun _ => ?_
  split
  · refine .ite (fun _ => ?_) fun _ => .pure fun _ _ => trivial
    exact .bind (within_emit (A := fun t => t = s) fun _ => rfl) fun _ => .pure fun _ _ => trivial
  · exact .throw _

theorem within_evaluateCourseWaypoint (htool : tool.landingMarker = none) (altitudeM : R)
    (toleranceM : Option R) :
    Within Work (Doing tool) (evaluateCourseWaypoint a altitudeM toleranceM) fun _ _ => True := by
  refine .current fun s h => .ite (fun _ => ?_) fun _ => .pure fun _ _ => trivial
  have hput : ∀ context : OperationContext R, context.landing = none →
      Within Work (fun t => t = s)
        (do
          update (withContext fun _ => context)
          return false : Operating R Bool) fun _ _ => True := by
    intro context hcontext
    refine .bind (B := fun _ _ => True) (.update (fun t ht => ?_) fun _ _ => trivial)
      fun _ => .pure fun _ _ => trivial
    exact work_withContext (by rw [ht]; exact h) htool fun _ => hcontext
  split
  · refine .bind (B := fun _ t => t = s) (.ofExcept fun _ _ ht _ => ht) fun still => ?_
    split
    · exact hput _ rfl
    · exact hput _ rfl
    · exact .pure fun _ _ => trivial
  · exact .throw _

theorem within_completion :
    Within Work (fun t => t.active = some a) (completion e w a) fun _ _ => True := by
  refine .current fun s h => ?_
  have hdoing : ∀ t, t = s → Doing a.tool t := fun t ht => ⟨a, by rw [ht]; exact h, rfl⟩
  have hread : ∀ {x : Except String Bool}, Within Work (fun t => t = s)
      (ofExcept x : Operating R Bool) fun _ _ => True := .ofExcept fun _ _ _ _ => trivial
  cases htool : a.tool with
  | configureFlight _ => exact within_completeConfigure e
  | waitForState _ _ _ => exact .pure fun _ _ => trivial
  | setMode _ => exact .pure fun _ _ => trivial
  | arm => exact .pure fun _ _ => trivial
  | takeoff _ _ => exact hread
  | gotoWaypoint _ _ _ _ => exact hread
  | hold _ => exact hread
  | land => exact .pure fun _ _ => trivial
  | gotoCourseWaypoint _ altitudeM toleranceM =>
    have hnone : a.tool.landingMarker = none := by
      rw [htool]
      rfl
    exact within_failing e ((within_evaluateCourseWaypoint hnone altitudeM
      toleranceM).weaken hdoing fun _ _ h => h)
  | findMarker arucoId =>
    refine within_failing e ((within_evaluateFindMarker e w a.tool ?_ arucoId).weaken hdoing
      fun _ _ h => h)
    rw [htool]
    rfl
  | precisionLand arucoId =>
    exact within_failing e ((within_evaluatePrecision e w a arucoId).weaken (fun _ _ => trivial)
      fun _ _ h => h)
  | attachPayload _ => exact within_failing e (within_evaluatePayload e w)
  | releasePayload _ _ => exact within_failing e (within_evaluatePayload e w)
  | beginPhase _ => exact .pure fun _ _ => trivial
  | checkPhase phase checkpoint =>
    exact within_failing e (within_evaluatePhaseCheck e w phase checkpoint)
  | attemptRecovery => exact .pure fun _ _ => trivial

/-! ## 3. The evaluation -/

theorem within_evaluateTool :
    Within Work (fun t => t.active = some a) (evaluateTool e w a) fun _ _ => True := by
  refine .current fun s h => .ite (fun _ => within_finish e (fun h => by cases h) _) fun _ => ?_
  refine .ite (fun _ => within_finish e (fun h => by cases h) _) fun _ => ?_
  refine .ite (fun _ => .pure fun _ _ => trivial) fun _ => ?_
  refine .bind ((within_completion e w).weaken (fun t ht => by rw [ht]; exact h) fun _ _ h => h)
    fun done => ?_
  exact .ite (fun _ => within_finish e (fun h => by cases h) _) fun _ => .pure fun _ _ => trivial

theorem within_returnHome (htool : tool.landingMarker = none) (latitudeDeg longitudeDeg : R) :
    Within Work (Doing tool) (returnHome w latitudeDeg longitudeDeg) fun _ _ => True := by
  refine .current fun s h => .ite (fun _ => ?_) fun _ => .pure fun _ _ => trivial
  refine .bind (B := fun _ => Doing tool) (.ofExcept fun _ t ht _ => by rw [ht]; exact h)
    fun home => .ite (fun _ => ?_) fun _ => .pure fun _ _ => trivial
  refine .bind (within_request (A := Doing tool) (fun _ h => h.busy) rfl) fun _ => ?_
  exact .update (fun t ht => work_homeLand htool ht) fun _ _ => trivial

theorem within_evaluateHomeRecovery (htool : a.tool.landingMarker = none) :
    Within Work (fun t => t.active = some a) (evaluateHomeRecovery e w a) fun _ _ => True := by
  refine .current fun s h => .ite (fun _ => within_finish e (fun h => by cases h) _) fun _ => ?_
  refine .ite (fun _ => within_finish e (fun h => by cases h) _) fun _ => ?_
  refine .ite (fun _ => within_finish e (fun h => by cases h) _) fun _ => ?_
  split
  · exact .pure fun _ _ => trivial
  · exact (within_returnHome w htool _ _).weaken (fun t ht => ⟨a, by rw [ht]; exact h, rfl⟩)
      fun _ _ h => h
  · exact .throw _

/-- **The evaluation of the active operation** stays within its moves. -/
theorem within_evaluateActive :
    Within Work (fun t => t.active = some a) (evaluateActive e w a) fun _ _ => True := by
  refine .current fun s h => .ite (fun _ => within_finish e (fun h => by cases h) _) fun _ => ?_
  have hactive : ∀ t, t = s → t.active = some a := fun t ht => by rw [ht]; exact h
  refine .ite (fun hrecovery => ?_) fun _ => (within_evaluateTool e w).weaken hactive fun _ _ h => h
  refine (within_evaluateHomeRecovery e w ?_).weaken hactive fun _ _ h => h
  cases htool : a.tool with
  | attemptRecovery => rfl
  | _ =>
    rw [htool] at hrecovery
    cases hrecovery

end Complete

end DroneOperations

end DroneSim
