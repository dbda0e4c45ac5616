/-
  File:      DroneSim/Companion/LandingDiscipline.lean
  Subject:   What a precision landing may send, and when it is over.

  `Disciplined` is the invariant over every order of telemetry, looks and ticks, and whatever else is
  called: a LANDING_TARGET comes right after the observation that it was accepted from, the frame of
  the landing's look is the last one that was used, the one retry is counted, and the deadline is the
  smaller of the two. `due_answer` ends an operation whose deadline has come.
-/
import DroneSim.Companion.OperationLifecycle
import DroneSim.Library.Emission

namespace DroneSim

open Library Library.Attempt Library.Acting MachineFloat

namespace DroneOperations

open OperationNote (sent)

variable {R : Type} {s t : DroneOperations R} {o os : List (OperationNote R)}
  {a : ActiveOperation R} {m : ℤ} {timeoutSimS : R} {n id : ℕ}

/-! ## 1. What is noted of a landing -/

/-- A retry of the operation. -/
def isRetry (operationId : ℕ) : OperationNote R → Bool
  | .retried id => id == operationId
  | _ => false

/-- How often the landing has been retried, by its context. -/
def retriesOf : OperationContext R → ℕ
  | .precision c => c.retry
  | _ => 0

/-- Every request was made at a frame no later than `m`. -/
def FramesUpTo (m : ℤ) (os : List (OperationNote R)) : Prop :=
  ∀ u request, sent u request ∈ os → u.lastMarkerSequence ≤ m

/-- **A LANDING_TARGET as it should be**: while tracking, in observed LAND, for the observation `seen`
    that was accepted right before it, of a frame after all that were used. -/
structure TargetFrom (before : List (OperationNote R)) (u : DroneOperations R) (v : BodyFrd R)
    (a : ActiveOperation R) (c : Precision R) (seen : MarkerObservation R)
    (prior : List (OperationNote R)) : Prop where
  active : u.active = some a
  tool : a.tool.landingMarker.isSome = true
  context : a.context = .precision c
  tracking : c.phase = .tracking
  land : u.modeIs "LAND" = true
  healthy : c.look.rejection = "healthy"
  sequence : c.look.lastSequence = seen.sequence
  used : u.lastMarkerSequence = seen.sequence
  vector : seen.vector = v
  accepted : ∃ stampNs report, report.observation = seen ∧ report.healthy = true ∧
    before = prior ++ [OperationNote.polled (.ok (some seen)), .emitted stampNs (.precisionObservation report)]
  newer : ∀ u' request, sent u' request ∈ prior → u'.lastMarkerSequence < seen.sequence

/-- The rule of every LANDING_TARGET. -/
def TargetRule (before : List (OperationNote R)) (note : OperationNote R) : Prop :=
  ∀ u v, note = sent u (.sendLandingTarget v) → ∃ a c seen prior, TargetFrom before u v a c seen prior

/-- The operation has ended. -/
def Terminal (operationId : ℕ) (s : DroneOperations R) : Prop :=
  ∃ status, s.entry operationId = some status ∧ status.state ≠ .running

/-- The start of a precision landing. -/
def landingStart (operationId : ℕ) (stampNs arucoId : ℤ) (timeoutSimS : R) : OperationNote R :=
  .emitted stampNs (.operationStarted operationId (.precisionLand arucoId) timeoutSimS)

/-- The landing under way, with its deadlines. -/
structure Timed (operationId : ℕ) (stampNs arucoId timeoutNs : ℤ) (a : ActiveOperation R) :
    Prop where
  operationId : a.status.operationId = operationId
  tool : a.tool = .precisionLand arucoId
  ack : a.expectedAck = none
  started : a.status.startedAtNs = stampNs
  timeout : a.deadlineNs ≤ stampNs + timeoutNs
  precision : a.context.landing.isSome = true → a.deadlineNs ≤ stampNs + precisionTimeoutNs

/-- The landing is under way or over. -/
def UnderWay (s : DroneOperations R) (operationId : ℕ) (stampNs arucoId timeoutNs : ℤ) : Prop :=
  (∃ a, s.active = some a ∧ Timed operationId stampNs arucoId timeoutNs a) ∨
    Terminal operationId s

/-! ## 2. The invariant -/

/-- **What every call keeps.** -/
structure Disciplined [MachineFloat R] (s : DroneOperations R) (os : List (OperationNote R)) :
    Prop where
  bound : ∀ a, s.active = some a → a.status.operationId < s.operations.length
  landing : ∀ a c, s.active = some a → a.context = .precision c →
    a.tool.landingMarker.isSome = true ∧ c.look.lastSequence = s.lastMarkerSequence
  counted : ∀ a, s.active = some a →
    os.countP (isRetry a.status.operationId) = retriesOf a.context
  once : ∀ id, os.countP (isRetry id) ≤ 1
  unopened : ∀ id, s.operations.length ≤ id → os.countP (isRetry id) = 0
  frames : FramesUpTo s.lastMarkerSequence os
  targets : Grounded TargetRule os
  underWay : ∀ id stampNs arucoId timeoutSimS, landingStart id stampNs arucoId timeoutSimS ∈ os →
    ∃ timeoutNs, nanoseconds timeoutSimS = some timeoutNs ∧
      UnderWay s id stampNs arucoId timeoutNs

/-- What a move notes but for the retry and the LANDING_TARGET. -/
def isPlain : OperationNote R → Bool
  | .sent _ request => request.target.isNone
  | .retried _ => false
  | .emitted _ (.operationStarted ..) => false
  | _ => true

theorem countP_plain (h : ∀ note ∈ o, isPlain note = true) (id : ℕ) : o.countP (isRetry id) = 0 := by
  rw [List.countP_eq_zero]
  intro note hmem hretry
  have hplain := h note hmem
  cases note with
  | retried _ => cases hplain
  | _ => cases hretry

theorem grounded_plain (h : Grounded TargetRule os) (ho : ∀ note ∈ o, isPlain note = true) :
    Grounded TargetRule (os ++ o) := by
  refine h.append fun before note after hsplit u v hnote => ?_
  have hplain := ho note (by rw [hsplit]; simp)
  rw [hnote] at hplain
  cases hplain

theorem start_of_plain {stampNs arucoId : ℤ} (ho : ∀ note ∈ o, isPlain note = true)
    (h : landingStart id stampNs arucoId timeoutSimS ∈ os ++ o) :
    landingStart id stampNs arucoId timeoutSimS ∈ os := by
  rcases List.mem_append.mp h with h | h
  · exact h
  · cases ho _ h

theorem FramesUpTo.mono {m n : ℤ} (h : FramesUpTo m os) (hle : m ≤ n) : FramesUpTo n os :=
  fun u request hmem => (h u request hmem).trans hle

theorem FramesUpTo.append (h : FramesUpTo m os) (ho : FramesUpTo m o) : FramesUpTo m (os ++ o) := by
  intro u request hmem
  rcases List.mem_append.mp hmem with hmem | hmem
  · exact h u request hmem
  · exact ho u request hmem

/-- No request. -/
theorem framesUpTo_of_unsent (h : ∀ u request, sent u request ∉ o) : FramesUpTo m o :=
  fun u request hmem => absurd hmem (h u request)

/-! ## 3. Moves that keep the operation, change it, or end it -/

/-- The operation `b` is `a` further on. -/
structure Onward (a b : ActiveOperation R) : Prop where
  status : b.status = a.status
  tool : b.tool = a.tool
  ack : b.expectedAck = a.expectedAck ∨ a.tool.landingMarker = none
  deadline : b.deadlineNs ≤ a.deadlineNs
  precision : b.context.landing.isSome = true → a.context.landing.isSome = true ∨
    b.deadlineNs ≤ a.status.startedAtNs + precisionTimeoutNs

theorem terminal_of_operations (h : t.operations = s.operations) (hs : Terminal id s) :
    Terminal id t := by
  obtain ⟨status, hentry, hstate⟩ := hs
  refine ⟨status, ?_, hstate⟩
  unfold entry
  rw [h]
  exact hentry

/-- An entry that has ended is not undone by the end of an operation. -/
theorem terminal_of_settled {id operationId : ℕ} {status : OperationStatus}
    (h : t.operations = s.operations.set operationId status) (hstate : status.state ≠ .running)
    (hs : Terminal id s) : Terminal id t := by
  obtain ⟨old, hentry, hold⟩ := hs
  have hbound := (List.getElem?_eq_some_iff.mp hentry).1
  unfold Terminal entry
  rw [h]
  by_cases heq : operationId = id
  · subst heq
    rw [List.getElem?_set_self hbound]
    exact ⟨status, rfl, hstate⟩
  · rw [List.getElem?_set_ne heq]
    exact ⟨old, hentry, hold⟩

theorem terminal_of_bound {operationId : ℕ} {status : OperationStatus}
    (hbound : operationId < s.operations.length)
    (h : t.operations = s.operations.set operationId status) (hstate : status.state ≠ .running) :
    Terminal operationId t := by
  unfold Terminal entry
  rw [h, List.getElem?_set_self hbound]
  exact ⟨status, rfl, hstate⟩

theorem terminal_of_append {new : OperationStatus} (h : t.operations = s.operations ++ [new])
    (hs : Terminal id s) : Terminal id t := by
  obtain ⟨status, hentry, hstate⟩ := hs
  have hbound := (List.getElem?_eq_some_iff.mp hentry).1
  refine ⟨status, ?_, hstate⟩
  unfold entry
  rw [h, List.getElem?_append_left hbound]
  exact hentry

theorem Timed.onward {stampNs arucoId timeoutNs : ℤ} {a b : ActiveOperation R}
    (h : Timed id stampNs arucoId timeoutNs a) (hab : Onward a b) :
    Timed id stampNs arucoId timeoutNs b where
  operationId := by rw [hab.status]; exact h.operationId
  tool := hab.tool.trans h.tool
  ack := by
    rcases hab.ack with hack | hnone
    · rw [hack]
      exact h.ack
    · rw [h.tool] at hnone
      cases hnone
  started := by rw [hab.status]; exact h.started
  timeout := hab.deadline.trans h.timeout
  precision hlanding := by
    rcases hab.precision hlanding with hbefore | hnow
    · exact hab.deadline.trans (h.precision hbefore)
    · rw [h.started] at hnow
      exact hnow

variable [MachineFloat R]

/-- **A move that leaves the operations alone.** -/
theorem Disciplined.still (h : Disciplined s os) (hoperations : t.operations = s.operations)
    (hactive : t.active = s.active) (hmarker : t.lastMarkerSequence = s.lastMarkerSequence)
    (ho : ∀ note ∈ o, isPlain note = true) (hframes : FramesUpTo s.lastMarkerSequence o) :
    Disciplined t (os ++ o) where
  bound a ha := by
    rw [hoperations]
    exact h.bound a (hactive.symm.trans ha)
  landing a c ha hc := by
    rw [hmarker]
    exact h.landing a c (hactive.symm.trans ha) hc
  counted a ha := by
    rw [List.countP_append, countP_plain ho]
    exact h.counted a (hactive.symm.trans ha)
  once id := by
    rw [List.countP_append, countP_plain ho]
    exact h.once id
  unopened id hid := by
    rw [List.countP_append, countP_plain ho]
    rw [hoperations] at hid
    exact h.unopened id hid
  frames := by
    rw [hmarker]
    exact h.frames.append hframes
  targets := grounded_plain h.targets ho
  underWay id stampNs arucoId timeoutSimS hmem := by
    obtain ⟨timeoutNs, hns, hway⟩ := h.underWay _ _ _ _ (start_of_plain ho hmem)
    rcases hway with ⟨a, ha, htimed⟩ | hend
    · exact ⟨timeoutNs, hns, Or.inl ⟨a, hactive.trans ha, htimed⟩⟩
    · exact ⟨timeoutNs, hns, Or.inr (terminal_of_operations hoperations hend)⟩

/-- **A move of the active operation.** -/
theorem Disciplined.onward {a b : ActiveOperation R} (h : Disciplined s os)
    (hactive : s.active = some a) (hafter : t.active = some b)
    (hoperations : t.operations = s.operations) (hab : Onward a b)
    (hmarker : s.lastMarkerSequence ≤ t.lastMarkerSequence)
    (hlanding : ∀ c, b.context = .precision c →
      a.tool.landingMarker.isSome = true ∧ c.look.lastSequence = t.lastMarkerSequence)
    (hretries : o.countP (isRetry a.status.operationId) + retriesOf a.context =
      retriesOf b.context)
    (hle : retriesOf b.context ≤ 1)
    (hothers : ∀ id, id ≠ a.status.operationId → o.countP (isRetry id) = 0)
    (hframes : FramesUpTo t.lastMarkerSequence o) (htargets : Grounded TargetRule (os ++ o))
    (hstarts : ∀ id stampNs arucoId timeoutSimS,
      landingStart id stampNs arucoId timeoutSimS ∉ o) : Disciplined t (os ++ o) := by
  have hcount : (os ++ o).countP (isRetry a.status.operationId) = retriesOf b.context := by
    rw [List.countP_append, h.counted a hactive]
    omega
  have hbound := h.bound a hactive
  refine ⟨fun b' hb' => ?_, fun b' c hb' hc => ?_, fun b' hb' => ?_, fun id => ?_,
    fun id hid => ?_, ?_, htargets, fun id stampNs arucoId timeoutSimS hmem => ?_⟩
  · cases hafter.symm.trans hb'
    rw [hab.status, hoperations]
    exact hbound
  · cases hafter.symm.trans hb'
    rw [hab.tool]
    exact hlanding c hc
  · cases hafter.symm.trans hb'
    rw [hab.status]
    exact hcount
  · by_cases hid : id = a.status.operationId
    · rw [hid, hcount]
      exact hle
    · rw [List.countP_append, hothers id hid]
      exact h.once id
  · rw [hoperations] at hid
    rw [List.countP_append, hothers id (by omega)]
    exact h.unopened id hid
  · exact (h.frames.mono hmarker).append hframes
  · rcases List.mem_append.mp hmem with hmem | hmem
    · obtain ⟨timeoutNs, hns, hway⟩ := h.underWay _ _ _ _ hmem
      rcases hway with ⟨a', ha', htimed⟩ | hend
      · cases hactive.symm.trans ha'
        exact ⟨timeoutNs, hns, Or.inl ⟨b, hafter, htimed.onward hab⟩⟩
      · exact ⟨timeoutNs, hns, Or.inr (terminal_of_operations hoperations hend)⟩
    · exact absurd hmem (hstarts _ _ _ _)

/-- **The end of the active operation.** -/
theorem Disciplined.ended {status : OperationStatus} (h : Disciplined s os)
    (hactive : s.active = some a) (hafter : t.active = none)
    (hoperations : t.operations = s.operations.set a.status.operationId status)
    (hstate : status.state ≠ .running) (hmarker : t.lastMarkerSequence = s.lastMarkerSequence)
    (ho : ∀ note ∈ o, isPlain note = true)
    (hunsent : ∀ u request, sent u request ∉ o) :
    Disciplined t (os ++ o) := by
  refine ⟨fun b hb => ?_, fun b c hb => ?_, fun b hb => ?_, fun id => ?_, fun id hid => ?_, ?_,
    grounded_plain h.targets ho, fun id stampNs arucoId timeoutSimS hmem => ?_⟩
  · cases hafter.symm.trans hb
  · cases hafter.symm.trans hb
  · cases hafter.symm.trans hb
  · rw [List.countP_append, countP_plain ho]
    exact h.once id
  · rw [hoperations, List.length_set] at hid
    rw [List.countP_append, countP_plain ho]
    exact h.unopened id hid
  · rw [hmarker]
    exact h.frames.append (framesUpTo_of_unsent hunsent)
  · obtain ⟨timeoutNs, hns, hway⟩ := h.underWay _ _ _ _ (start_of_plain ho hmem)
    refine ⟨timeoutNs, hns, Or.inr ?_⟩
    rcases hway with ⟨a', ha', htimed⟩ | hend
    · cases hactive.symm.trans ha'
      rw [← htimed.operationId]
      exact terminal_of_bound (h.bound a hactive) hoperations hstate
    · exact terminal_of_settled hoperations hstate hend

/-! ## 4. Every move -/

omit [MachineFloat R] in
theorem retriesOf_of_landing {c : OperationContext R} (h : c.landing = none) : retriesOf c = 0 := by
  cases c with
  | precision _ => cases h
  | _ => rfl

omit [MachineFloat R] in
theorem finishNotes_plain {e : Equipment R} {state : OperationState} {clockNs : ℤ}
    {error : String} :
    ∀ note ∈ finishNotes e a state clockNs error, isPlain note = true := by
  intro note hmem
  rcases mem_finishNotes.mp hmem with hmem | ⟨-, rfl⟩ | rfl
  · rcases mem_cancelNotes hmem with rfl | rfl
    · rfl
    · rfl
  · rfl
  · rfl

omit [MachineFloat R] in
theorem finishNotes_unsent {e : Equipment R} {state : OperationState} {clockNs : ℤ} {error : String}
    (u : DroneOperations R) (request : OperationRequest R) :
    .sent u request ∉ finishNotes e a state clockNs error := by
  intro hmem
  rcases mem_finishNotes.mp hmem with hmem | ⟨-, hmem⟩ | hmem
  · rcases mem_cancelNotes hmem with hmem | hmem
    · cases hmem
    · cases hmem
  · cases hmem
  · cases hmem

theorem Disciplined.retries_le (h : Disciplined s os) (hactive : s.active = some a) :
    retriesOf a.context ≤ 1 := by
  rw [← h.counted a hactive]
  exact h.once _

/-- A move without notes that changes the active operation. -/
theorem Disciplined.changed {a b : ActiveOperation R} (h : Disciplined s os)
    (hactive : s.active = some a) (hafter : t.active = some b)
    (hoperations : t.operations = s.operations) (hab : Onward a b)
    (hmarker : s.lastMarkerSequence ≤ t.lastMarkerSequence)
    (hlanding : ∀ c, b.context = .precision c →
      a.tool.landingMarker.isSome = true ∧ c.look.lastSequence = t.lastMarkerSequence)
    (hretries : retriesOf b.context = retriesOf a.context) : Disciplined t (os ++ []) := by
  refine h.onward hactive hafter hoperations hab hmarker hlanding ?_ ?_ (fun _ _ => rfl)
    (framesUpTo_of_unsent fun _ _ => List.not_mem_nil) ?_ fun _ _ _ _ => List.not_mem_nil
  · rw [hretries]
    exact Nat.zero_add _
  · rw [hretries]
    exact h.retries_le hactive
  · rw [List.append_nil]
    exact h.targets

/-- **A look** keeps the landing's last frame. -/
theorem Disciplined.looked {look look' : MarkerLook R} (h : Disciplined s os)
    (hactive : s.active = some a) (hlook : a.context.look = some look)
    (hstep : LookStep s look look' m) :
    Disciplined { s.withOwn a (a.context.withLook look') with lastMarkerSequence := m }
      (os ++ []) := by
  have hle : s.lastMarkerSequence ≤ m := by
    rcases hstep with ⟨-, rfl⟩ | ⟨-, rfl⟩
    · exact le_rfl
    · exact le_max_left _ _
  have hlanding : (a.context.withLook look').landing.isSome = a.context.landing.isSome := by
    cases a.context <;> rfl
  have hretries : retriesOf (a.context.withLook look') = retriesOf a.context := by
    cases a.context <;> rfl
  refine h.changed hactive rfl rfl ⟨rfl, rfl, Or.inl rfl, le_rfl, fun hsome => Or.inl ?_⟩ hle
    (fun c' hc' => ?_) hretries
  · rw [← hlanding]
    exact hsome
  · cases hcontext : a.context with
    | precision c =>
      obtain ⟨htool, hlast⟩ := h.landing a c hactive hcontext
      rw [hcontext] at hlook hc'
      cases hlook
      cases hc'
      refine ⟨htool, ?_⟩
      show look'.lastSequence = m
      rcases hstep with ⟨hsame, rfl⟩ | ⟨hnewer, rfl⟩
      · exact hsame.trans hlast
      · rw [hlast] at hnewer
        exact (max_eq_right hnewer.le).symm
    | _ =>
      rw [hcontext] at hc'
      cases hc'

/-- The accepted frame is a later one. -/
theorem Disciplined.spotted {c c' : Precision R} {seen : MarkerObservation R} (h : Disciplined s os)
    (hspotted : Spotted s a c c' seen t) :
    s.lastMarkerSequence < seen.sequence ∧ t.lastMarkerSequence = seen.sequence := by
  have hnewer : s.lastMarkerSequence < seen.sequence := by
    rw [← (h.landing a c hspotted.active hspotted.context).2]
    exact hspotted.newer
  refine ⟨hnewer, ?_⟩
  rw [hspotted.state]
  exact max_eq_right hnewer.le

/-- **The LANDING_TARGET** is as it should be. -/
theorem Disciplined.targeted {c c' : Precision R} {seen : MarkerObservation R}
    {report : PrecisionReport R} (h : Disciplined s os) (hspotted : Spotted s a c c' seen t)
    (hphase : c.phase = .tracking) (hmode : t.modeIs "LAND" = true)
    (hreport : report.observation = seen ∧ report.healthy = true) :
    Disciplined t (os ++ [OperationNote.polled (.ok (some seen)), .emitted s.clockNs (.precisionObservation report),
      .sent t (.sendLandingTarget seen.vector)]) := by
  obtain ⟨htool, -⟩ := h.landing a c hspotted.active hspotted.context
  obtain ⟨hnewer, hmarker⟩ := h.spotted hspotted
  have hafter : t.active = some { a with context := .precision c' } := by
    rw [hspotted.state]
    rfl
  have hretries : retriesOf (.precision c') = retriesOf a.context := by
    rw [hspotted.context]
    exact hspotted.retry
  refine h.onward hspotted.active hafter (by rw [hspotted.state]; rfl)
    ⟨rfl, rfl, Or.inl rfl, le_rfl, fun _ => Or.inl ?_⟩ (by rw [hmarker]; exact hnewer.le)
    (fun c'' hc'' => ?_) ?_ ?_ (fun _ _ => rfl) ?_ ?_ fun _ _ _ _ hmem => ?_
  · rw [hspotted.context]
    rfl
  · cases hc''
    exact ⟨htool, hspotted.sequence.trans hmarker.symm⟩
  · rw [hretries]
    exact Nat.zero_add _
  · rw [hretries]
    exact h.retries_le hspotted.active
  · intro u request hmem
    simp only [List.mem_cons, reduceCtorEq, sent.injEq, List.not_mem_nil, or_false,
      false_or] at hmem
    rw [hmem.1]
  · have hpolled : Grounded TargetRule (os ++ [OperationNote.polled (.ok (some seen))]) :=
      h.targets.snoc fun u v hnote => by cases hnote
    have hemitted : Grounded TargetRule (os ++ [OperationNote.polled (.ok (some seen))] ++
        [OperationNote.emitted s.clockNs (.precisionObservation report)]) :=
      hpolled.snoc fun u v hnote => by cases hnote
    have hsent := hemitted.snoc (x := .sent t (.sendLandingTarget seen.vector)) fun u v hnote => by
      cases hnote
      refine ⟨_, c', seen, os, hafter, htool, rfl, hspotted.phase.trans hphase, hmode,
        hspotted.healthy, hspotted.sequence, hmarker, rfl,
        ⟨s.clockNs, report, hreport.1, hreport.2, by rw [List.append_assoc]; rfl⟩,
        fun u' request hmem => ?_⟩
      exact (h.frames u' request hmem).trans_lt hnewer
    simpa only [List.append_assoc, List.cons_append, List.nil_append] using hsent
  · simp [landingStart] at hmem

/-- **Every move keeps the discipline.** -/
theorem Disciplined.work (h : Disciplined s os) (hwork : Work s o t) : Disciplined t (os ++ o) := by
  cases hwork with
  | quiet hquiet =>
    exact h.still hquiet.operations hquiet.active hquiet.lastMarkerSequence
      (fun _ hmem => absurd hmem List.not_mem_nil)
      (framesUpTo_of_unsent fun _ _ => List.not_mem_nil)
  | @noted note hnote =>
    refine h.still rfl rfl rfl (fun note' hmem => ?_) fun u request hmem => ?_
    · rw [List.mem_singleton.mp hmem]
      cases note with
      | emitted stampNs event =>
        cases event with
        | operationStarted _ _ _ => cases hnote
        | _ => rfl
      | sent _ _ => cases hnote
      | retried _ => cases hnote
      | _ => rfl
    · rw [← List.mem_singleton.mp hmem] at hnote
      cases hnote
  | @sent a request _ htarget =>
    refine h.still rfl rfl rfl (fun note hmem => ?_) fun u request' hmem => ?_
    · rw [List.mem_singleton.mp hmem]
      show request.target.isNone = true
      rw [htarget]
      rfl
    · cases List.mem_singleton.mp hmem
      exact le_rfl
  | @worked a b hactive hstatus htool hdeadline hcontext hack =>
    have hnone : a.tool.landingMarker = none → a.context.landing = none := by
      intro hmarker
      cases hshape : a.context with
      | precision c =>
        have hsome := (h.landing a c hactive hshape).1
        rw [hmarker] at hsome
        cases hsome
      | _ => rfl
    refine h.changed hactive rfl rfl ⟨hstatus, htool, hack, hdeadline.le, fun hsome => Or.inl ?_⟩
      le_rfl (fun c hc => ?_) ?_
    · rcases hcontext with hsame | ⟨-, hno⟩
      · rw [← hsame]
        exact hsome
      · rw [hno] at hsome
        cases hsome
    · rcases hcontext with hsame | ⟨-, hno⟩
      · exact h.landing a c hactive (hsame.symm.trans hc)
      · rw [hc] at hno
        cases hno
    · rcases hcontext with hsame | ⟨hmarker, hno⟩
      · rw [hsame]
      · rw [retriesOf_of_landing hno, retriesOf_of_landing (hnone hmarker)]
  | looked hactive hlook hstep => exact h.looked hactive hlook hstep
  | @begun a c hactive htool hempty hclock hlook hretry =>
    refine h.changed hactive rfl rfl ⟨rfl, rfl, Or.inl rfl, min_le_left _ _, fun _ => Or.inr ?_⟩
      le_rfl (fun c' hc' => ?_) ?_
    · rw [hclock]
      exact min_le_right _ _
    · cases hc'
      exact ⟨htool, hlook⟩
    · rw [hempty]
      exact hretry
  | @steered a c c' hactive hcontext hlook hretry =>
    refine h.changed hactive rfl rfl ⟨rfl, rfl, Or.inl rfl, le_rfl, fun _ => Or.inl ?_⟩ le_rfl
      (fun c'' hc'' => ?_) ?_
    · rw [hcontext]
      rfl
    · cases hc''
      rw [hlook]
      exact h.landing a c hactive hcontext
    · rw [hcontext]
      exact hretry
  | @retried a c c' hactive hcontext hfirst hlook hretry =>
    refine h.onward hactive rfl rfl ⟨rfl, rfl, Or.inl rfl, le_rfl, fun _ => Or.inl ?_⟩ le_rfl
      (fun c'' hc'' => ?_) ?_ ?_ (fun id hid => ?_) ?_ ?_ fun _ _ _ _ hmem => ?_
    · rw [hcontext]
      rfl
    · cases hc''
      rw [hlook]
      exact h.landing a c hactive hcontext
    · rw [hcontext]
      show _ + c.retry = c'.retry
      rw [hfirst, hretry]
      simp [isRetry]
    · exact hretry.le
    · simp [isRetry, hid.symm]
    · exact framesUpTo_of_unsent fun u request hmem => by cases List.mem_singleton.mp hmem
    · exact h.targets.snoc fun u v hnote => by cases hnote
    · cases List.mem_singleton.mp hmem
  | targeted hspotted hphase hmode hreport => exact h.targeted hspotted hphase hmode hreport
  | finished e state error hactive hstate =>
    exact h.ended hactive rfl rfl hstate rfl finishNotes_plain finishNotes_unsent
  | haltedIdle reason _ =>
    refine h.still rfl rfl rfl (fun note hmem => ?_) (framesUpTo_of_unsent fun u request hmem => ?_)
    · rw [List.mem_singleton.mp hmem]
      rfl
    · cases List.mem_singleton.mp hmem
  | halted e state reason hactive hstate _ =>
    refine h.ended hactive rfl rfl hstate rfl (fun note hmem => ?_) fun u request hmem => ?_
    · rcases List.mem_cons.mp hmem with rfl | hmem
      · rfl
      · exact finishNotes_plain note hmem
    · rcases List.mem_cons.mp hmem with hmem | hmem
      · cases hmem
      · exact finishNotes_unsent u request hmem

/-! ## 5. Every call -/

/-- **A new entry**, with its operation or without. -/
theorem Disciplined.opened {new : OperationStatus} (h : Disciplined s os) (hidle : s.active = none)
    (hoperations : t.operations = s.operations ++ [new])
    (hmarker : t.lastMarkerSequence = s.lastMarkerSequence)
    (hactive : ∀ a, t.active = some a →
      a.status.operationId = s.operations.length ∧ a.context = .empty)
    (hretries : ∀ id, o.countP (isRetry id) = 0) (hunsent : ∀ u request, sent u request ∉ o)
    (hstarts : ∀ id stampNs arucoId timeoutSimS, landingStart id stampNs arucoId timeoutSimS ∈ o →
      ∃ timeoutNs, nanoseconds timeoutSimS = some timeoutNs ∧
        UnderWay t id stampNs arucoId timeoutNs) : Disciplined t (os ++ o) := by
  have hlength : t.operations.length = s.operations.length + 1 := by
    rw [hoperations]
    simp
  refine ⟨fun a ha => ?_, fun a c ha hc => ?_, fun a ha => ?_, fun id => ?_, fun id hid => ?_, ?_,
    ?_, fun id stampNs arucoId timeoutSimS hmem => ?_⟩
  · rw [(hactive a ha).1]
    omega
  · rw [(hactive a ha).2] at hc
    cases hc
  · rw [(hactive a ha).1, (hactive a ha).2, List.countP_append, hretries,
      h.unopened _ le_rfl]
    rfl
  · rw [List.countP_append, hretries]
    exact h.once id
  · rw [List.countP_append, hretries]
    exact h.unopened id (by omega)
  · rw [hmarker]
    exact h.frames.append (framesUpTo_of_unsent hunsent)
  · refine h.targets.append fun before note after hsplit u v hnote => ?_
    refine absurd ?_ (hunsent u (.sendLandingTarget v))
    rw [hsplit, hnote]
    simp
  · rcases List.mem_append.mp hmem with hmem | hmem
    · obtain ⟨timeoutNs, hns, hway⟩ := h.underWay _ _ _ _ hmem
      rcases hway with ⟨a, ha, -⟩ | hend
      · cases hidle.symm.trans ha
      · exact ⟨timeoutNs, hns, Or.inr (terminal_of_append hoperations hend)⟩
    · exact hstarts _ _ _ _ hmem

/-- A tool that has been started. -/
theorem Disciplined.startedWith (h : Disciplined s os) (hidle : s.active = none) (tool : ToolCall R)
    {timeoutNs : ℤ} (hns : nanoseconds timeoutSimS = some timeoutNs) :
    Disciplined (s.startedWith tool timeoutNs) (os ++ s.startNotes tool timeoutSimS) := by
  refine h.opened hidle rfl rfl (fun a ha => ?_) (fun _ => rfl) (fun u request hmem => ?_)
    fun id stampNs arucoId timeout hmem => ?_
  · cases ha
    exact ⟨rfl, rfl⟩
  · simp [startNotes] at hmem
  · have hstart : id = s.operations.length ∧ stampNs = s.clockNs ∧ tool = .precisionLand arucoId ∧
        timeout = timeoutSimS := by
      simp only [landingStart, startNotes, List.mem_cons, reduceCtorEq, OperationNote.emitted.injEq,
        OperationEvent.operationStarted.injEq, List.not_mem_nil, or_false, false_or] at hmem
      exact ⟨hmem.2.1, hmem.1, hmem.2.2.1.symm, hmem.2.2.2⟩
    obtain ⟨rfl, rfl, rfl, rfl⟩ := hstart
    refine ⟨timeoutNs, hns, Or.inl ⟨_, rfl, rfl, rfl, rfl, rfl, le_rfl, fun hlanding => ?_⟩⟩
    cases hlanding

theorem Disciplined.frame (h : Disciplined s os) (hoperations : t.operations = s.operations)
    (hactive : t.active = s.active) (hmarker : t.lastMarkerSequence = s.lastMarkerSequence) :
    Disciplined t os := by
  have hstill := h.still hoperations hactive hmarker (fun _ hmem => absurd hmem List.not_mem_nil)
    (framesUpTo_of_unsent fun _ _ => List.not_mem_nil)
  rwa [List.append_nil] at hstill

theorem Disciplined.again (h : Disciplined s os) : Disciplined s (os ++ [OperationNote.stopped]) := by
  refine h.still rfl rfl rfl (fun note hmem => ?_) (framesUpTo_of_unsent fun u request hmem => ?_)
  · rw [List.mem_singleton.mp hmem]
    rfl
  · cases List.mem_singleton.mp hmem

theorem Disciplined.home (h : Disciplined s os) (course : OperationCourse R)
    (hidle : s.active = none) :
    Disciplined (openHome course s) (os ++ [OperationNote.opened s.operations.length, .stopped]) := by
  refine h.opened hidle rfl rfl (fun a ha => ?_) (fun _ => rfl) (fun u request hmem => ?_)
    fun id stampNs arucoId timeoutSimS hmem => ?_
  · cases ha
    exact ⟨rfl, rfl⟩
  · simp at hmem
  · simp [landingStart] at hmem

theorem Disciplined.loseHome (h : Disciplined s os) (hactive : s.active = some a) :
    Disciplined s.loseHome os := by
  have hended := h.ended (o := []) (t := s.loseHome) hactive
    (by unfold DroneOperations.loseHome; rw [hactive]; rfl)
    (by unfold DroneOperations.loseHome; rw [hactive]; rfl) (fun hstate => by cases hstate)
    (by unfold DroneOperations.loseHome; rw [hactive]; rfl)
    (fun _ hmem => absurd hmem List.not_mem_nil) fun _ _ => List.not_mem_nil
  rwa [List.append_nil] at hended

theorem Disciplined.openStart (h : Disciplined s os) (tool : ToolCall R)
    (hidle : s.active = none) :
    Disciplined (DroneOperations.openStart tool s) (os ++ [OperationNote.opened s.operations.length]) := by
  refine h.opened hidle rfl rfl (fun a ha => ?_) (fun _ => rfl) (fun u request hmem => ?_)
    fun id stampNs arucoId timeoutSimS hmem => ?_
  · cases hidle.symm.trans ha
  · simp at hmem
  · simp [landingStart] at hmem

/-- **The law of every call.** -/
theorem lawful_disciplined :
    Lawful (R := R) (fun _ s os => Disciplined s os) True True True where
  work h hwork := h.work hwork
  frame h hoperations hactive hmarker := h.frame hoperations hactive hmarker
  again _ h := h.again
  started tool _ _ hidle _ hns h := h.startedWith hidle tool hns
  recovered tool _ _ hidle hns h := h.startedWith hidle tool hns
  home course hidle _ h := h.home course hidle
  lost _ hactive _ h := h.loseHome hactive
  orphan tool _ hidle h := h.openStart tool hidle
  reenter _ h := h

omit [MachineFloat R] in
theorem disciplined_created [MachineFloat R] : Disciplined (created : DroneOperations R) [] where
  bound a h := by cases h
  landing a c h := by cases h
  counted a h := by cases h
  once id := by simp
  unopened id _ := rfl
  frames := framesUpTo_of_unsent fun _ _ => List.not_mem_nil
  targets := .nil
  underWay _ _ _ _ hmem := absurd hmem List.not_mem_nil

/-! ## 6. Frames of later calls -/

/-- A LANDING_TARGET after the first `n` notes is of a frame after `m`. -/
def LaterRule (n : ℕ) (m : ℤ) (before : List (OperationNote R)) (note : OperationNote R) : Prop :=
  ∀ u v, note = sent u (.sendLandingTarget v) → n ≤ before.length → m < u.lastMarkerSequence

/-- **A move uses no frame twice**: the last one only grows, and a LANDING_TARGET is of a later one. -/
theorem work_frames (h : Disciplined s os) (hwork : Work s o t) :
    s.lastMarkerSequence ≤ t.lastMarkerSequence ∧
      ∀ u v, sent u (OperationRequest.sendLandingTarget v) ∈ o → s.lastMarkerSequence < u.lastMarkerSequence := by
  cases hwork with
  | quiet hquiet => exact ⟨hquiet.lastMarkerSequence.ge, fun _ _ hmem => absurd hmem List.not_mem_nil⟩
  | noted hnote =>
    refine ⟨le_rfl, fun u v hmem => ?_⟩
    rw [← List.mem_singleton.mp hmem] at hnote
    cases hnote
  | sent _ htarget =>
    refine ⟨le_rfl, fun u v hmem => ?_⟩
    cases List.mem_singleton.mp hmem
    cases htarget
  | worked _ _ _ _ _ _ => exact ⟨le_rfl, fun _ _ hmem => absurd hmem List.not_mem_nil⟩
  | looked _ _ hstep =>
    refine ⟨?_, fun _ _ hmem => absurd hmem List.not_mem_nil⟩
    rcases hstep with ⟨-, rfl⟩ | ⟨-, rfl⟩
    · exact le_rfl
    · exact le_max_left _ _
  | begun _ _ _ _ _ _ => exact ⟨le_rfl, fun _ _ hmem => absurd hmem List.not_mem_nil⟩
  | steered _ _ _ _ => exact ⟨le_rfl, fun _ _ hmem => absurd hmem List.not_mem_nil⟩
  | retried _ _ _ _ _ => exact ⟨le_rfl, fun u v hmem => by cases List.mem_singleton.mp hmem⟩
  | targeted hspotted _ _ _ =>
    obtain ⟨hnewer, hmarker⟩ := h.spotted hspotted
    refine ⟨hmarker.symm ▸ hnewer.le, fun u v hmem => ?_⟩
    simp only [List.mem_cons, reduceCtorEq, sent.injEq, List.not_mem_nil, or_false,
      false_or] at hmem
    rw [hmem.1, hmarker]
    exact hnewer
  | finished e state error _ _ =>
    exact ⟨le_rfl, fun u v hmem => absurd hmem (finishNotes_unsent _ _)⟩
  | haltedIdle reason _ => exact ⟨le_rfl, fun u v hmem => by cases List.mem_singleton.mp hmem⟩
  | halted e state reason _ _ _ =>
    refine ⟨le_rfl, fun u v hmem => ?_⟩
    rcases List.mem_cons.mp hmem with hmem | hmem
    · cases hmem
    · exact absurd hmem (finishNotes_unsent _ _)

omit [MachineFloat R] in
theorem grounded_unsent {n : ℕ} (h : Grounded (LaterRule n m) os)
    (ho : ∀ u request, sent u request ∉ o) : Grounded (LaterRule n m) (os ++ o) := by
  refine h.append fun before note after hsplit u v hnote => ?_
  refine absurd ?_ (ho u (.sendLandingTarget v))
  rw [hsplit, hnote]
  simp

omit [MachineFloat R] in
theorem startNotes_unsent {tool : ToolCall R} (u : DroneOperations R) (request : OperationRequest R) :
    sent u request ∉ s.startNotes tool timeoutSimS := by
  simp [startNotes]

/-- The frames of later calls. -/
structure Later (n : ℕ) (m : ℤ) (s : DroneOperations R) (os : List (OperationNote R)) : Prop where
  disciplined : Disciplined s os
  mark : m ≤ s.lastMarkerSequence
  later : Grounded (LaterRule n m) os

/-- **The law of the frames of later calls.** -/
theorem lawful_later (n : ℕ) (m : ℤ) :
    Lawful (R := R) (fun _ s os => Later n m s os) True True True where
  work h hwork := by
    obtain ⟨hmono, hnew⟩ := work_frames h.disciplined hwork
    refine ⟨h.disciplined.work hwork, h.mark.trans hmono, h.later.append ?_⟩
    intro before note after hsplit u v hnote _
    refine h.mark.trans_lt (hnew u v ?_)
    rw [hsplit, hnote]
    simp
  frame h hoperations hactive hmarker :=
    ⟨h.disciplined.frame hoperations hactive hmarker, hmarker.symm ▸ h.mark, h.later⟩
  again _ h := ⟨h.disciplined.again, h.mark,
    grounded_unsent h.later fun _ _ hmem => by cases List.mem_singleton.mp hmem⟩
  started tool _ _ hidle _ hns h :=
    ⟨h.disciplined.startedWith hidle tool hns, h.mark, grounded_unsent h.later startNotes_unsent⟩
  recovered tool _ _ hidle hns h :=
    ⟨h.disciplined.startedWith hidle tool hns, h.mark, grounded_unsent h.later startNotes_unsent⟩
  home course hidle _ h := ⟨h.disciplined.home course hidle, h.mark,
    grounded_unsent h.later fun _ _ hmem => by simp at hmem⟩
  lost _ hactive _ h := by
    refine ⟨h.disciplined.loseHome hactive, ?_, h.later⟩
    unfold loseHome
    rw [hactive]
    exact h.mark
  orphan tool _ hidle h := ⟨h.disciplined.openStart tool hidle, h.mark,
    grounded_unsent h.later fun _ _ hmem => by simp at hmem⟩
  reenter _ h := h

/-! ## 7. The deadline -/

omit [MachineFloat R] in
theorem terminal_of_work (hwork : Work s o t) (h : Terminal id s) : Terminal id t := by
  rcases work_life hwork none with hsame | ⟨a, status, hends⟩
  · exact terminal_of_operations hsame.operations h
  · exact terminal_of_settled hends.operations hends.state h

/-- **What has ended stays ended**, by the law of every call. -/
theorem lawful_terminal (id : ℕ) : Lawful (R := R) (fun _ s _ => Terminal id s) True True True where
  work h hwork := terminal_of_work hwork h
  frame h hoperations _ _ := terminal_of_operations hoperations h
  again _ h := h
  started _ _ _ _ _ _ h := terminal_of_append rfl h
  recovered _ _ _ _ _ h := terminal_of_append rfl h
  home _ _ _ h := terminal_of_append rfl h
  lost {rec s os a} _ hactive _ h := by
    unfold loseHome
    rw [hactive]
    exact terminal_of_settled rfl (fun hstate => by cases hstate) h
  orphan _ _ _ h := terminal_of_append rfl h
  reenter _ h := h

section Due

variable {e : Equipment R} {w : Surroundings R} {a : ActiveOperation R} {id : ℕ} {arucoId : ℤ}
  {r : Acting (DroneOperations R) (OperationNote R)}

omit [MachineFloat R] in
/-- The operation is the active one. -/
structure Owns (id : ℕ) (a : ActiveOperation R) (s : DroneOperations R) : Prop where
  active : s.active = some a
  operationId : a.status.operationId = id
  bound : id < s.operations.length

omit [MachineFloat R] in
/-- The end of the operation. -/
theorem wp_finishOwn (h : Owns id a r.state) {state : OperationState} (hstate : state ≠ .running)
    (error : String) {E : String → Acting (DroneOperations R) (OperationNote R) → Prop} :
    wp (finish e state error) (fun _ u => Terminal id u.state) E r := by
  rw [wp_finish]
  refine ⟨fun hidle => ?_, fun a' hactive' => ?_⟩
  · cases hidle.symm.trans h.active
  · cases h.active.symm.trans hactive'
    have hbound : a.status.operationId < r.state.operations.length := by
      rw [h.operationId]
      exact h.bound
    have hend : Terminal a.status.operationId (r.state.finishedAs a state error) :=
      terminal_of_bound hbound rfl hstate
    rw [h.operationId] at hend
    exact hend

/-- **A step of a landing that was never begun** ends it, completes it, or raises. -/
theorem wp_evaluateUnbegun (h : Owns id a r.state) (hcontext : a.context.landing = none) :
    wp (evaluatePrecision e w a arucoId)
      (fun done u => if done then Owns id a u.state else Terminal id u.state)
      (fun _ u => Owns id a u.state) r := by
  unfold evaluatePrecision
  rw [wp_bind, wp_current]
  split
  · exact h
  · split
    · rw [wp_bind, wp_update]
      exact ⟨h.active, h.operationId, h.bound⟩
    · split
      · rw [wp_bind]
        exact wp_finishOwn h (fun hstate => by cases hstate) _
      · split
        · rw [wp_bind]
          exact wp_finishOwn h (fun hstate => by cases hstate) _
        · unfold evaluateFlying currentLanding
          rw [wp_bind, wp_bind, wp_bind, wp_current, h.active, Option.bind_some, hcontext]
          exact h

/-- A landing that was never begun is over. -/
theorem wp_completeUnbegun (h : Owns id a r.state) (htool : a.tool = .precisionLand arucoId)
    (hcontext : a.context.landing = none) :
    wp (complete e w a) (fun _ u => Terminal id u.state) (fun _ u => Terminal id u.state) r := by
  unfold complete completion
  rw [wp_bind, wp_bind, wp_current, htool]
  unfold failing
  rw [wp_tryCatch]
  refine (wp_evaluateUnbegun h hcontext).mono (fun done u hu => ?_) fun error u hu => ?_
  · cases done with
    | true => exact wp_finishOwn hu (fun hstate => by cases hstate) _
    | false => exact hu
  · rw [wp_bind]
    exact wp_finishOwn hu (fun hstate => by cases hstate) _

/-- **An evaluation at the deadline** ends the landing. -/
theorem wp_evaluateDue {os : List (OperationNote R)}
    (hr : Since (fun _ s os => Disciplined s os) os r)
    (h : Owns id a r.state) (htool : a.tool = .precisionLand arucoId) (hack : a.expectedAck = none)
    (hdue : a.deadlineNs ≤ r.state.clockNs ∨ a.context.landing = none) :
    wp (evaluate e w) (fun _ u => Terminal id u.state) (fun _ u => Terminal id u.state) r := by
  unfold evaluate
  rw [wp_bind, wp_current, h.active]
  have hrecovery : a.tool.isRecovery = false := by rw [htool]; rfl
  simp only [hrecovery, Bool.false_eq_true, if_false]
  split
  · rename_i reason hreason
    unfold expire
    rw [wp_bind, wp_finish]
    refine ⟨fun hidle => ?_, fun a' hactive' => ?_⟩
    · cases hidle.symm.trans h.active
    · cases h.active.symm.trans hactive'
      have hended := stable_since lawful_disciplined r _ _ hr
        (.finished e .failed reason hactive' fun hstate => by cases hstate)
      have hend : Terminal a.status.operationId (r.state.finishedAs a .failed reason) :=
        terminal_of_bound (hr.kept.bound a hactive') rfl fun hstate => by cases hstate
      rw [h.operationId] at hend
      have hgood : Since (fun _ s _ => Terminal id s) os
          ⟨r.state.finishedAs a .failed reason,
            r.log ++ finishNotes e a .failed r.state.clockNs reason⟩ :=
        ⟨hend, hended.stopped, hended.named⟩
      exact (wp_startHomeRecovery (lawful_terminal id) hgood rfl rfl (Or.inl trivial)).mono
        (fun _ _ hu => hu.kept) fun _ _ hu => hu.kept
  · unfold evaluateActive
    rw [wp_bind, wp_current]
    split
    · exact wp_finishOwn h (fun hstate => by cases hstate) _
    · rename_i hlate
      have hcontext := hdue.resolve_left hlate
      rw [if_neg (by rw [hrecovery]; exact Bool.false_ne_true)]
      unfold evaluateTool
      rw [wp_bind, wp_current]
      split
      · exact wp_finishOwn h (fun hstate => by cases hstate) _
      · have hstays : a.tool.staysGuided = false := by rw [htool]; rfl
        rw [hstays, hack]
        exact wp_completeUnbegun h htool hcontext

/-- **An evaluation of a landing whose time is over** ends it, if it has not ended. -/
theorem wp_evaluateUnderWay {os : List (OperationNote R)} {stampNs timeoutNs : ℤ}
    (hr : Since (fun _ s os => Disciplined s os) os r)
    (hmem : landingStart id stampNs arucoId timeoutSimS ∈ os)
    (hns : nanoseconds timeoutSimS = some timeoutNs)
    (hdue : min (stampNs + timeoutNs) (stampNs + precisionTimeoutNs) ≤ r.state.clockNs) :
    wp (evaluate e w) (fun _ u => Terminal id u.state) (fun _ u => Terminal id u.state) r := by
  obtain ⟨ns, hns', hway⟩ := hr.kept.underWay _ _ _ _ (List.mem_append_left r.log hmem)
  cases hns.symm.trans hns'
  rcases hway with ⟨a, hactive, htimed⟩ | hend
  · have howns : Owns id a r.state := by
      refine ⟨hactive, htimed.operationId, ?_⟩
      rw [← htimed.operationId]
      exact hr.kept.bound a hactive
    refine wp_evaluateDue hr howns htimed.tool htimed.ack ?_
    by_cases hlanding : a.context.landing.isSome = true
    · have htimeout := htimed.timeout
      have hprecision := htimed.precision hlanding
      refine Or.inl ((le_min htimeout hprecision).trans hdue)
    · exact Or.inr (by simpa using hlanding)
  · have hgood : Since (fun _ s _ => Terminal id s) os r := ⟨hend, hr.stopped, hr.named⟩
    exact (wp_evaluate (lawful_terminal id) hgood (Or.inl trivial)).mono
      (fun _ _ hu => hu.kept) fun _ _ hu => hu.kept

/-- The clock advances, or no operation is active. -/
theorem wp_advanceDue {os : List (OperationNote R)} (timestampNs : ℤ)
    (hr : Since (fun _ s os => Disciplined s os) os r) :
    wp (advance e (some timestampNs))
      (fun _ u => Since (fun _ s os => Disciplined s os) os u ∧ u.state.clockNs = timestampNs)
      (fun _ u => Since (fun _ s os => Disciplined s os) os u ∧ u.state.active = none) r := by
  unfold advance
  rw [wp_bind, wp_current]
  dsimp only
  split
  · rw [wp_bind]
    exact (wp_haltGood lawful_disciplined (fun h => by cases h) (fun h => by cases h) _ hr).mono
      (fun _ _ hu => ⟨hu.1, hu.2.1⟩) fun _ _ hu => hu.elim
  · rw [wp_update]
    exact ⟨⟨hr.kept.frame rfl rfl rfl, hr.stopped, hr.named⟩, rfl⟩

omit [MachineFloat R] in
/-- Where no operation is active it has ended. -/
theorem terminal_of_idle {s : DroneOperations R} {stampNs timeoutNs : ℤ}
    (h : UnderWay s id stampNs arucoId timeoutNs) (hidle : s.active = none) : Terminal id s := by
  rcases h with ⟨a, hactive, -⟩ | hend
  · cases hidle.symm.trans hactive
  · exact hend

/-- Telemetry is taken in without raising. -/
theorem calm_rejectReadings (telemetry : Telemetry R) :
    wp (rejectReadings e telemetry) (fun _ _ => True) (fun _ _ => False) r := by
  unfold rejectReadings
  split
  · trivial
  · rw [wp_finish]
    exact ⟨fun _ => trivial, fun _ _ => trivial⟩

omit [MachineFloat R] in
theorem calm_noteArmed (telemetry : Telemetry R) :
    wp (noteArmed telemetry) (fun _ _ => True) (fun _ _ => False) r := by
  unfold noteArmed
  rw [wp_bind, wp_current]
  split
  · trivial
  · trivial

omit [MachineFloat R] in
theorem calm_takeAck (telemetry : Telemetry R) :
    wp (takeAck e telemetry) (fun _ _ => True) (fun _ _ => False) r := by
  unfold takeAck
  rw [wp_bind, wp_current]
  split
  · split
    · trivial
    · split
      · trivial
      · rw [wp_finish]
        exact ⟨fun _ => trivial, fun _ _ => trivial⟩
  · trivial

/-- The clock reading that a call brings. -/
def Call.clock (i : Call R) : Option ℤ :=
  match i.input with
  | .tick timestampNs => timestampNs
  | .observe telemetry => some telemetry.timestampNs
  | _ => none

/-- **A call that brings the time of the deadline** leaves the landing ended. -/
theorem due_answer {s : DroneOperations R} {i : Call R} {os : List (OperationNote R)}
    {stampNs timeoutNs clockNs : ℤ} (hgood : Good (fun _ s os => Disciplined s os) s os)
    (hmem : landingStart id stampNs arucoId timeoutSimS ∈ os)
    (hns : nanoseconds timeoutSimS = some timeoutNs) (hclock : i.clock = some clockNs)
    (hdue : min (stampNs + timeoutNs) (stampNs + precisionTimeoutNs) ≤ clockNs) :
    Terminal id (call (answer e i) s).2.1 := by
  have hr : Since (fun _ s os => Disciplined s os) os ⟨s, []⟩ := by
    show Good _ s (os ++ [])
    rw [List.append_nil]
    exact hgood
  have hstopped : ∀ u : Acting (DroneOperations R) (OperationNote R),
      Since (fun _ s os => Disciplined s os) os u ∧ u.state.active = none → Terminal id u.state := by
    intro u hu
    obtain ⟨ns, -, hway⟩ := hu.1.kept.underWay _ _ _ _ (List.mem_append_left u.log hmem)
    exact terminal_of_idle hway hu.2
  refine call_state (P := fun u => Terminal id u.state) ?_
  obtain ⟨input, around⟩ := i
  unfold answer
  cases input with
  | tick timestampNs =>
    cases timestampNs with
    | none => cases hclock
    | some timestampNs =>
      cases hclock
      show wp (tick e around (some clockNs)) _ _ _
      unfold tick
      rw [wp_bind]
      refine (wp_advanceDue clockNs hr).mono (fun _ u hu => ?_) fun _ u hu => hstopped u hu
      exact wp_evaluateUnderWay hu.1 hmem hns (by rw [hu.2]; exact hdue)
  | observe telemetry =>
    cases hclock
    show wp (observe e around telemetry) _ _ _
    unfold observe
    rw [wp_bind]
    refine (wp_advanceDue _ hr).mono (fun _ u hu => ?_) fun _ u hu => hstopped u hu
    obtain ⟨hu, htime⟩ := hu
    rw [wp_bind, wp_update, wp_bind]
    have hsensed : Since (fun _ s os => Disciplined s os) os ⟨sense telemetry u.state, u.log⟩ :=
      ⟨hu.kept.frame rfl rfl rfl, hu.stopped, hu.named⟩
    refine ((wp_rejectReadings lawful_disciplined telemetry hsensed).and
      (calm_rejectReadings telemetry)).mono (fun _ v hv => ?_) fun _ _ hv => hv.2.elim
    obtain ⟨⟨hv, hkin, -⟩, -⟩ := hv
    rw [wp_bind]
    refine ((wp_noteArmed lawful_disciplined telemetry hv).and (calm_noteArmed telemetry)).mono
      (fun _ x hx => ?_) fun _ _ hx => hx.2.elim
    obtain ⟨⟨hx, hkin'⟩, -⟩ := hx
    rw [wp_bind]
    refine ((wp_takeAck lawful_disciplined telemetry hx).and (calm_takeAck telemetry)).mono
      (fun _ y hy => ?_) fun _ _ hy => hy.2.elim
    obtain ⟨⟨hy, hkin'', -⟩, -⟩ := hy
    have hsame : y.state.clockNs = u.state.clockNs :=
      hkin''.clockNs.trans (hkin'.clockNs.trans hkin.clockNs)
    exact wp_evaluateUnderWay hy hmem hns (by rw [hsame, htime]; exact hdue)
  | _ => cases hclock

/-! ## 8. Runs -/

/-- **The discipline of precision landings**, over every run: each LANDING_TARGET is as it should be
    and of a frame after all that any earlier call used, no operation is retried twice, and a tick or
    telemetry at the deadline leaves the landing ended. -/
theorem landing_discipline {is : List (Call R)} {os : List (OperationNote R)}
    {t : DroneOperations R} (hrun : Run (Calling (answer e)) created is os t) :
    (∀ before u v after, os = before ++ sent u (.sendLandingTarget v) :: after →
      ∃ a c seen prior, TargetFrom before u v a c seen prior) ∧
    (∀ id, os.countP (isRetry id) ≤ 1) ∧
    (∀ js ps u, Run (Calling (answer e)) t js ps u → ∀ x v, sent x (OperationRequest.sendLandingTarget v) ∈ ps →
      t.lastMarkerSequence < x.lastMarkerSequence) ∧
    ∀ id stampNs arucoId timeoutSimS,
      .emitted stampNs (OperationEvent.operationStarted id (ToolCall.precisionLand arucoId) timeoutSimS) ∈ os →
      ∃ timeoutNs, nanoseconds timeoutSimS = some timeoutNs ∧ ∀ (i : Call R) clockNs,
        i.clock = some clockNs →
        min (stampNs + timeoutNs) (stampNs + precisionTimeoutNs) ≤ clockNs →
        Terminal id (call (answer e i) t).2.1 := by
  have hfree : ∀ (s : DroneOperations R) (i : Call R), True → Admitted True True True e s i :=
    fun _ _ _ => ⟨Or.inl trivial, Or.inl trivial, Or.inl trivial⟩
  have hany : ∀ {s : DroneOperations R} {is os t}, Run (Calling (answer e)) s is os t →
      Run (Meeting (Calling (answer e)) fun _ _ => True) s is os t :=
    fun hrun => hrun.mono fun _ _ _ _ hs => ⟨hs, trivial⟩
  have hgood : Good (fun _ s os => Disciplined s os) t os :=
    good_run lawful_disciplined hfree (hany hrun) (good_created disciplined_created)
  refine ⟨fun before u v after hsplit => ?_, hgood.kept.once, fun js ps u hrest x v hmem => ?_,
    fun id stampNs arucoId timeoutSimS hmem => ?_⟩
  · exact hgood.kept.targets before _ after hsplit u v rfl
  · have hnow : Good (fun _ s os' => Later os.length t.lastMarkerSequence s os') t os := by
      refine ⟨⟨hgood.kept, le_rfl, fun before note after hsplit u v hnote hlength => ?_⟩,
        hgood.stopped, hgood.named⟩
      rw [hsplit, List.length_append, List.length_cons] at hlength
      omega
    have hlater := (good_run (lawful_later _ _) hfree (hany hrest) hnow).kept.later
    obtain ⟨before, after, hsplit⟩ := List.append_of_mem hmem
    refine hlater (os ++ before) _ after ?_ x v rfl (by simp)
    rw [hsplit, List.append_assoc]
  · obtain ⟨timeoutNs, hns, -⟩ := hgood.kept.underWay _ _ _ _ hmem
    exact ⟨timeoutNs, hns, fun i clockNs hclock hdue => due_answer hgood hmem hns hclock hdue⟩

end Due

/-! ## 9. A landing -/

/-- The profile that a precision landing asks for. -/
def landingProfile : List (String × ExactNumber) :=
  precisionParameters.map fun parameter => (parameter.name, parameter.expected)

/-- Level flight over the origin. -/
def levelTelemetry (timestampNs : ℤ) (mode : String) : Telemetry ExactNumber :=
  { guidedTelemetry with
    timestampNs := timestampNs
    mode := some mode
    latitudeDeg := some (ofRat 0)
    longitudeDeg := some (ofRat 0)
    rollRad := some (ofRat 0)
    pitchRad := some (ofRat 0)
    yawRad := some (ofRat 0)
    precisionParameters := landingProfile }

/-- The marker straight below, in the frame `sequence`, at this time. -/
def markerBelow (timestampNs sequence : ℤ) (input : Input ExactNumber) : Call ExactNumber :=
  ⟨input,
    { poll := .ok (some ⟨7, sequence, timestampNs, timestampNs, ⟨ofRat 0, ofRat 0, ofRat 5⟩⟩)
      range := some ⟨timestampNs, ofRat 5⟩ }⟩

/-- A marker search over five frames, a landing on the marker with one LANDING_TARGET, and the retry
    after the marker is lost. -/
def landingRun : List (Call ExactNumber) :=
  [inTime (.observe (levelTelemetry 1000000000 "GUIDED")),
    markerBelow 1000000000 1 (.start (.findMarker 7) (ofRat 60)),
    markerBelow 1000000000 2 (.tick (some 1000000000)),
    markerBelow 1000000000 3 (.tick (some 1000000000)),
    markerBelow 1000000000 4 (.tick (some 1000000000)),
    markerBelow 1000000000 5 (.tick (some 1000000000)),
    markerBelow 1000000000 6 (.start (.precisionLand 7) (ofRat 60)),
    markerBelow 1050000000 7 (.observe (levelTelemetry 1050000000 "LAND")),
    inTime (.observe (levelTelemetry 2000000000 "LAND")),
    inTime (.observe (levelTelemetry 9000000000 "GUIDED"))]

/-- The start of operation 1 as a landing at 1 s, with 60 s to go. -/
def startsLanding : OperationNote ExactNumber → Bool
  | .emitted stampNs (.operationStarted 1 (.precisionLand _) timeoutSimS) =>
    decide (stampNs = 1000000000 ∧ nanoseconds timeoutSimS = some 60000000000)
  | _ => false

/-- The vectors of the LANDING_TARGETs. -/
def targetsSent (os : List (OperationNote R)) : List (BodyFrd R) :=
  os.filterMap fun note =>
    match note with
    | .sent _ request => request.target
    | _ => none

/-- **The landing sends one LANDING_TARGET**, as it should be, is retried once, and is over with the
    first telemetry at its deadline. -/
theorem landing_discipline_landingRun :
    ∃ os t, Run (Calling (answer attemptEquipment)) created landingRun os t ∧
      (targetsSent os).length = 1 ∧
      (∀ before u v after, os = before ++ sent u (.sendLandingTarget v) :: after →
        ∃ a c seen prior, TargetFrom before u v a c seen prior) ∧
      os.countP (isRetry 1) = 1 ∧ (∀ id, os.countP (isRetry id) ≤ 1) ∧
      Terminal 1
        (call (answer attemptEquipment (inTime (.observe (levelTelemetry 61000000000 "GUIDED")))) t).2.1 := by
  have hrun := calls_run (answer attemptEquipment) landingRun created
  obtain ⟨htargets, honce, -, hdue⟩ := landing_discipline hrun
  refine ⟨_, _, hrun, by decide +kernel, htargets, by decide +kernel, honce, ?_⟩
  have hstarts : (calls (answer attemptEquipment) created landingRun).2.any startsLanding = true :=
    by decide +kernel
  obtain ⟨note, hmem, hstart⟩ := List.any_eq_true.mp hstarts
  unfold startsLanding at hstart
  split at hstart
  · obtain ⟨rfl, hns⟩ := of_decide_eq_true hstart
    obtain ⟨timeoutNs, hns', hover⟩ := hdue _ _ _ _ hmem
    obtain rfl := Option.some.inj (hns.symm.trans hns')
    exact hover _ 61000000000 rfl (by decide)
  · cases hstart

end DroneOperations

end DroneSim
