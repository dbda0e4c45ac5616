/-
  File:      DroneSim/Companion/OperationLifecycle.lean
  Subject:   One life for each operation, and nothing but the recovery after the stop.

  `Kept` is the invariant over every order of starts, telemetry, ticks, aborts and requests for the
  recovery: the running entry is the active operation's, an ended operation was reported once, and
  what is begun or commanded after a stop belongs to the recovery. Three kinds of call break it
  (`Overflows`, `LosesHome`, `Reenters`), each with a run of its own at the end.
-/
import DroneSim.Companion.OperationRecovery

namespace DroneSim

open Library Library.Attempt Library.Acting MachineFloat

namespace DroneOperations

variable {R : Type} {s t : DroneOperations R} {o os : List (OperationNote R)}
  {recovery : Option ℕ}

/-! ## 1. What is noted of an operation -/

/-- An `operation_finished` of the operation. -/
def isEnd (operationId : ℕ) : OperationNote R → Bool
  | .emitted _ (.operationFinished id ..) => id == operationId
  | _ => false

/-- How often the end of an entry is to be reported. -/
def endsOf : Option OperationStatus → ℕ
  | none => 0
  | some status => if status.state = .running then 0 else 1

/-- The note tells of no operation but the recovery. -/
def OfRecovery (recovery : Option ℕ) : OperationNote R → Prop
  | .opened operationId => recovery = some operationId
  | .sent s request =>
    request.isCommand = true → ∃ a, s.active = some a ∧ recovery = some a.status.operationId
  | _ => True

/-- **After a stop nothing but the recovery** begins or commands the vehicle. -/
def AfterStop (recovery : Option ℕ) (os : List (OperationNote R)) : Prop :=
  ∀ before after, os = before ++ OperationNote.stopped :: after → ∀ note ∈ after, OfRecovery recovery note

theorem OfRecovery.of_none {note : OperationNote R} (h : OfRecovery none note) :
    OfRecovery recovery note := by
  cases note with
  | opened _ => cases h
  | sent _ _ =>
    intro hcommand
    obtain ⟨_, _, hnone⟩ := h hcommand
    cases hnone
  | _ => trivial

theorem AfterStop.append (h : AfterStop recovery os)
    (ho : ∀ note ∈ o, OperationNote.stopped ∈ os ∨ OperationNote.stopped ∈ o → OfRecovery recovery note) :
    AfterStop recovery (os ++ o) := by
  intro before after heq note hmem
  rcases List.append_eq_append_iff.mp heq with ⟨p, -, hp⟩ | ⟨p, hp, hrest⟩
  · have hstop : OperationNote.stopped ∈ o := by
      rw [hp]
      simp
    refine ho note ?_ (Or.inr hstop)
    rw [hp]
    simp [hmem]
  · cases p with
    | nil =>
      have ho' : o = .stopped :: after := hrest.symm
      refine ho note ?_ (Or.inr ?_)
      · rw [ho']
        exact List.mem_cons_of_mem _ hmem
      · rw [ho']
        exact List.mem_cons_self
    | cons first p =>
      obtain ⟨rfl, rfl⟩ := List.cons.inj hrest
      rcases List.mem_append.mp hmem with hmem | hmem
      · exact h before p hp note hmem
      · refine ho note hmem (Or.inl ?_)
        rw [hp]
        simp

/-! ## 2. What a move does to an operation's life -/

/-- The entries and the active operation's status stay. -/
structure Same (recovery : Option ℕ) (s : DroneOperations R) (o : List (OperationNote R))
    (t : DroneOperations R) : Prop where
  operations : t.operations = s.operations
  status : t.active.map ActiveOperation.status = s.active.map ActiveOperation.status
  ends : ∀ id, o.countP (isEnd id) = 0
  idle : OperationNote.stopped ∈ o → s.active = none
  recovers : ∀ note ∈ o, ∀ a, s.active = some a → OfRecovery (some a.status.operationId) note
  silent : s.active = none → ∀ note ∈ o, OfRecovery recovery note

/-- The active operation ends. -/
structure Ends (recovery : Option ℕ) (s : DroneOperations R) (a : ActiveOperation R)
    (o : List (OperationNote R)) (status : OperationStatus) (t : DroneOperations R) : Prop where
  active : s.active = some a
  operationId : status.operationId = a.status.operationId
  state : status.state ≠ .running
  operations : t.operations = s.operations.set a.status.operationId status
  idle : t.active = none
  ends : ∀ id, o.countP (isEnd id) = if a.status.operationId = id then 1 else 0
  silent : ∀ note ∈ o, OfRecovery recovery note

theorem countP_cancelNotes (e : Equipment R) (state : OperationState) (tool : ToolCall R)
    (id : ℕ) : (cancelNotes e state tool).countP (isEnd id) = 0 := by
  rw [List.countP_eq_zero]
  intro note hmem
  rcases mem_cancelNotes hmem with rfl | rfl
  · exact Bool.false_ne_true
  · exact Bool.false_ne_true

/-- **An end is reported once.** -/
theorem countP_finishNotes (e : Equipment R) (a : ActiveOperation R) (state : OperationState)
    (clockNs : ℤ) (error : String) (id : ℕ) :
    (finishNotes e a state clockNs error).countP (isEnd id) =
      if a.status.operationId = id then 1 else 0 := by
  have hstop : (if state = .succeeded then [] else [OperationNote.stopped]).countP
      (isEnd (R := R) id) = 0 := by
    split
    · rfl
    · rfl
  unfold finishNotes
  rw [List.countP_append, List.countP_append, countP_cancelNotes, hstop]
  simp [List.countP_cons, isEnd]

theorem finishNotes_silent {e : Equipment R} {a : ActiveOperation R} {state : OperationState}
    {clockNs : ℤ} {error : String} :
    ∀ note ∈ finishNotes e a state clockNs error, OfRecovery recovery note := by
  intro note hmem
  rcases mem_finishNotes.mp hmem with hmem | ⟨-, rfl⟩ | rfl
  · rcases mem_cancelNotes hmem with rfl | rfl
    · trivial
    · trivial
  · trivial
  · trivial

/-- A move that notes nothing of a life keeps it. -/
theorem same_of_owned {a b : ActiveOperation R} (hactive : s.active = some a)
    (hoperations : t.operations = s.operations) (hafter : t.active = some b)
    (hstatus : b.status = a.status) (hends : ∀ id, o.countP (isEnd id) = 0)
    (hstop : OperationNote.stopped ∉ o) (hrecovers : ∀ note ∈ o, OfRecovery (some a.status.operationId) note) :
    Same recovery s o t where
  operations := hoperations
  status := by rw [hactive, hafter, Option.map_some, Option.map_some, hstatus]
  ends := hends
  idle hmem := absurd hmem hstop
  recovers note hmem b hb := by
    cases hactive.symm.trans hb
    exact hrecovers note hmem
  silent hnone := by cases hactive.symm.trans hnone

/-- **A move keeps the operation's life or ends it.** -/
theorem work_life (h : Work s o t) (recovery : Option ℕ) :
    Same recovery s o t ∨ ∃ a status, Ends recovery s a o status t := by
  cases h with
  | quiet h =>
    refine Or.inl ⟨h.operations, by rw [h.active], fun _ => rfl, ?_, ?_, ?_⟩
    · exact fun hmem => absurd hmem List.not_mem_nil
    · exact fun _ hmem => absurd hmem List.not_mem_nil
    · exact fun _ _ hmem => absurd hmem List.not_mem_nil
  | @noted note hnote =>
    have hend : ∀ id, isEnd id note = false := by
      intro id
      cases note with
      | emitted stampNs event =>
        cases event with
        | operationFinished _ _ _ _ => cases hnote
        | _ => rfl
      | _ => rfl
    have hfree : ∀ r, OfRecovery r note := by
      intro r
      cases note with
      | opened _ => cases hnote
      | sent _ _ => cases hnote
      | _ => trivial
    refine Or.inl ⟨rfl, rfl, fun id => ?_, fun hmem => ?_, fun _ hmem _ _ => ?_, fun _ _ hmem => ?_⟩
    · rw [List.countP_singleton, hend id]
      rfl
    · rw [← List.mem_singleton.mp hmem] at hnote
      cases hnote
    · rw [List.mem_singleton.mp hmem]
      exact hfree _
    · rw [List.mem_singleton.mp hmem]
      exact hfree _
  | @sent a request hactive _ =>
    refine Or.inl (same_of_owned hactive rfl hactive rfl (fun _ => rfl) (by simp) ?_)
    intro note hmem
    rw [List.mem_singleton.mp hmem]
    exact fun _ => ⟨a, hactive, rfl⟩
  | worked hactive hstatus _ _ _ _ =>
    exact Or.inl (same_of_owned hactive rfl rfl hstatus (fun _ => rfl) (by simp)
      fun _ hmem => absurd hmem List.not_mem_nil)
  | looked hactive _ _ =>
    exact Or.inl (same_of_owned hactive rfl rfl rfl (fun _ => rfl) (by simp)
      fun _ hmem => absurd hmem List.not_mem_nil)
  | begun hactive _ _ _ _ _ =>
    exact Or.inl (same_of_owned hactive rfl rfl rfl (fun _ => rfl) (by simp)
      fun _ hmem => absurd hmem List.not_mem_nil)
  | steered hactive _ _ _ =>
    exact Or.inl (same_of_owned hactive rfl rfl rfl (fun _ => rfl) (by simp)
      fun _ hmem => absurd hmem List.not_mem_nil)
  | retried hactive _ _ _ _ =>
    refine Or.inl (same_of_owned hactive rfl rfl rfl (fun _ => rfl) (by simp) fun note hmem => ?_)
    rw [List.mem_singleton.mp hmem]
    trivial
  | targeted h _ _ _ =>
    obtain ⟨hactive, -, -, -, -, -, -, rfl⟩ := h
    refine Or.inl (same_of_owned hactive rfl rfl rfl (fun _ => rfl) (by simp) fun note hmem => ?_)
    rcases List.mem_cons.mp hmem with rfl | hmem
    · trivial
    rcases List.mem_cons.mp hmem with rfl | hmem
    · trivial
    rw [List.mem_singleton.mp hmem]
    exact fun _ => ⟨_, rfl, rfl⟩
  | @finished a e state error hactive hstate =>
    exact Or.inr ⟨a, { a.status with
      state := state
      finishedAtNs := some s.clockNs
      error := error }, hactive, rfl, hstate, rfl, rfl, countP_finishNotes e a state _ error,
      finishNotes_silent⟩
  | haltedIdle reason hidle =>
    refine Or.inl ⟨rfl, rfl, fun _ => rfl, fun _ => hidle, fun note hmem _ _ => ?_,
      fun _ note hmem => ?_⟩
    · rw [List.mem_singleton.mp hmem]
      trivial
    · rw [List.mem_singleton.mp hmem]
      trivial
  | @halted a e state reason hactive hstate _ =>
    refine Or.inr ⟨a, { a.status with
      state := state
      finishedAtNs := some s.clockNs
      error := reason }, hactive, rfl, hstate, rfl, rfl, fun id => ?_, fun note hmem => ?_⟩
    · exact countP_finishNotes e a state _ reason id
    · rcases List.mem_cons.mp hmem with rfl | hmem
      · trivial
      · exact finishNotes_silent note hmem

/-! ## 3. The invariant -/

/-- **What every call keeps**, by the number of the recovery. -/
structure Kept (recovery : Option ℕ) (s : DroneOperations R) (os : List (OperationNote R)) :
    Prop where
  named : ∀ id status, s.entry id = some status → status.operationId = id
  active : ∀ a, s.active = some a →
    a.status.state = .running ∧ s.entry a.status.operationId = some a.status
  running : ∀ id status, s.entry id = some status → status.state = .running →
    ∃ a, s.active = some a ∧ a.status.operationId = id
  ended : ∀ id, os.countP (isEnd id) = endsOf (s.entry id)
  alone : Named recovery s os
  after : AfterStop recovery os

theorem entry_of_operations {s t : DroneOperations R} (h : t.operations = s.operations) (id : ℕ) :
    t.entry id = s.entry id := by
  unfold entry
  rw [h]

theorem Kept.same (h : Kept recovery s os) (hsame : Same recovery s o t)
    (hnamed : Named recovery t (os ++ o)) : Kept recovery t (os ++ o) where
  named id status hentry := by
    rw [entry_of_operations hsame.operations] at hentry
    exact h.named id status hentry
  active a' hactive' := by
    have hstatus := hsame.status
    rw [hactive', Option.map_some] at hstatus
    obtain ⟨a, hactive, heq⟩ := Option.map_eq_some_iff.mp hstatus.symm
    rw [entry_of_operations hsame.operations, ← heq]
    exact h.active a hactive
  running id status hentry hrunning := by
    rw [entry_of_operations hsame.operations] at hentry
    obtain ⟨a, hactive, hid⟩ := h.running id status hentry hrunning
    have hstatus := hsame.status
    rw [hactive, Option.map_some] at hstatus
    obtain ⟨a', hactive', heq⟩ := Option.map_eq_some_iff.mp hstatus
    exact ⟨a', hactive', by rw [heq]; exact hid⟩
  ended id := by
    rw [List.countP_append, hsame.ends, entry_of_operations hsame.operations]
    exact h.ended id
  alone := hnamed
  after := by
    refine h.after.append fun note hmem hstop => ?_
    cases hactive : s.active with
    | none => exact hsame.silent hactive note hmem
    | some a =>
      rcases hstop with hstop | hstop
      · rw [h.alone hstop a hactive]
        exact hsame.recovers note hmem a hactive
      · cases (hsame.idle hstop).symm.trans hactive

theorem Kept.ends {a : ActiveOperation R} {status : OperationStatus} (h : Kept recovery s os)
    (hends : Ends recovery s a o status t) : Kept recovery t (os ++ o) := by
  obtain ⟨hrunning, hentry⟩ := h.active a hends.active
  have hbound : a.status.operationId < s.operations.length :=
    (List.getElem?_eq_some_iff.mp hentry).1
  have hown : t.entry a.status.operationId = some status := by
    unfold entry
    rw [hends.operations, List.getElem?_set_self hbound]
  have hother : ∀ id, a.status.operationId ≠ id → t.entry id = s.entry id := by
    intro id hid
    unfold entry
    rw [hends.operations, List.getElem?_set_ne hid]
  refine ⟨fun id status' hstatus => ?_, fun a' hactive' => ?_, fun id status' hstatus hrun => ?_,
    fun id => ?_, fun _ a' hactive' => ?_, ?_⟩
  · by_cases hid : a.status.operationId = id
    · rw [← hid, hown] at hstatus
      cases hstatus
      exact hends.operationId.trans hid
    · exact h.named id status' ((hother id hid).symm.trans hstatus)
  · cases hends.idle.symm.trans hactive'
  · by_cases hid : a.status.operationId = id
    · rw [← hid, hown] at hstatus
      cases hstatus
      exact absurd hrun hends.state
    · obtain ⟨b, hactive, hb⟩ := h.running id status' ((hother id hid).symm.trans hstatus) hrun
      cases hends.active.symm.trans hactive
      exact absurd hb hid
  · rw [List.countP_append, h.ended, hends.ends]
    by_cases hid : a.status.operationId = id
    · rw [if_pos hid, ← hid, hown, hentry]
      unfold endsOf
      simp [hrunning, hends.state]
    · rw [if_neg hid, hother id hid]
      rfl
  · cases hends.idle.symm.trans hactive'
  · exact h.after.append fun note hmem _ => hends.silent note hmem

/-- **A move keeps the invariant.** -/
theorem Kept.work (h : Kept recovery s os) (hwork : Work s o t) : Kept recovery t (os ++ o) := by
  rcases work_life hwork recovery with hsame | ⟨a, status, hends⟩
  · exact h.same hsame (named_of_work h.alone hwork)
  · exact h.ends hends

/-- **A new operation begins** where none is active. -/
theorem Kept.open {recovery' : Option ℕ} {a : ActiveOperation R} (h : Kept recovery s os)
    (hidle : s.active = none) (hoperations : t.operations = s.operations ++ [a.status])
    (hid : a.status.operationId = s.operations.length) (hrunning : a.status.state = .running)
    (hactive : t.active = some a) (hends : ∀ id, o.countP (isEnd id) = 0)
    (halone : OperationNote.stopped ∈ os ++ o → recovery' = some s.operations.length)
    (hafter : AfterStop recovery' (os ++ o)) : Kept recovery' t (os ++ o) := by
  have hown : t.entry s.operations.length = some a.status := by
    unfold entry
    rw [hoperations, List.getElem?_concat_length]
  have hother : ∀ id, id ≠ s.operations.length → t.entry id = s.entry id := by
    intro id hne
    unfold entry
    rw [hoperations]
    rcases Nat.lt_or_gt_of_ne hne with hlt | hgt
    · rw [List.getElem?_append_left hlt]
    · rw [List.getElem?_eq_none (by simp; omega), List.getElem?_eq_none (by omega)]
  refine ⟨fun id status hstatus => ?_, fun a' hactive' => ?_, fun id status hstatus hrun => ?_,
    fun id => ?_, fun hmem a' hactive' => ?_, hafter⟩
  · by_cases hne : id = s.operations.length
    · rw [hne, hown] at hstatus
      cases hstatus
      exact hid.trans hne.symm
    · exact h.named id status ((hother id hne).symm.trans hstatus)
  · cases hactive.symm.trans hactive'
    rw [hid]
    exact ⟨hrunning, hown⟩
  · by_cases hne : id = s.operations.length
    · exact ⟨a, hactive, hid.trans hne.symm⟩
    · obtain ⟨b, hb, -⟩ := h.running id status ((hother id hne).symm.trans hstatus) hrun
      cases hidle.symm.trans hb
  · rw [List.countP_append, hends, h.ended]
    by_cases hne : id = s.operations.length
    · have hnone : s.entry id = none := List.getElem?_eq_none (by omega)
      rw [hnone, hne, hown]
      unfold endsOf
      simp [hrunning]
    · rw [hother id hne]
      rfl
  · cases hactive.symm.trans hactive'
    rw [hid]
    exact halone hmem

section Runs

variable [MachineFloat R] {e : Equipment R}

/-- **The law of every call but three kinds.** -/
theorem lawful_kept : Lawful (R := R) Kept False False False where
  work h hwork := h.work hwork
  frame {rec s t os} h hoperations hactive _ := by
    refine ⟨fun id status hstatus => ?_, fun a ha => ?_, fun id status hstatus hrun => ?_,
      fun id => ?_, fun hmem a ha => ?_, h.after⟩
    · rw [entry_of_operations hoperations] at hstatus
      exact h.named id status hstatus
    · rw [hactive] at ha
      rw [entry_of_operations hoperations]
      exact h.active a ha
    · rw [entry_of_operations hoperations] at hstatus
      rw [hactive]
      exact h.running id status hstatus hrun
    · rw [entry_of_operations hoperations]
      exact h.ended id
    · rw [hactive] at ha
      exact h.alone hmem a ha
  again {rec s os} hmem h := by
    refine ⟨h.named, h.active, h.running, fun id => ?_, fun _ => h.alone hmem, ?_⟩
    · rw [List.countP_append]
      exact h.ended id
    · refine h.after.append fun note hnote _ => ?_
      rw [List.mem_singleton.mp hnote]
      trivial
  started {rec s os} tool timeoutNs timeoutSimS hidle hnever _ h := by
    have hstill : OperationNote.stopped ∉ os ++ s.startNotes tool timeoutSimS := by
      simp [hnever, startNotes]
    refine h.open hidle rfl rfl rfl rfl (fun _ => rfl) (fun hmem => absurd hmem hstill) ?_
    intro before after heq
    exact absurd (by rw [heq]; simp) hstill
  recovered {s os} tool timeoutNs timeoutSimS hidle _ h := by
    refine h.open hidle rfl rfl rfl rfl (fun _ => rfl) (fun _ => rfl) ?_
    refine AfterStop.append (fun before after heq note hmem => ?_) fun note hmem _ => ?_
    · exact (h.after before after heq note hmem).of_none
    · rcases List.mem_cons.mp hmem with rfl | hmem
      · rfl
      · rw [List.mem_singleton.mp hmem]
        trivial
  home {s os} course hidle _ h := by
    refine h.open hidle rfl rfl rfl rfl (fun _ => rfl) (fun _ => rfl) ?_
    refine AfterStop.append (fun before after heq note hmem => ?_) fun note hmem _ => ?_
    · exact (h.after before after heq note hmem).of_none
    · rcases List.mem_cons.mp hmem with rfl | hmem
      · rfl
      · rw [List.mem_singleton.mp hmem]
        trivial
  lost h := h.elim
  orphan _ h := h.elim
  reenter h := h.elim

omit [MachineFloat R] in
theorem kept_created : Kept none (created : DroneOperations R) [] where
  named id status h := by simp [entry, created] at h
  active a h := by cases h
  running id status h := by simp [entry, created] at h
  ended id := rfl
  alone hmem := absurd hmem List.not_mem_nil
  after before after h := by simp at h

/-! ## 4. What has ended stays as it ended -/

omit [MachineFloat R] in
theorem entry_of_work {id : ℕ} {status : OperationStatus} (h : Kept recovery s os)
    (hwork : Work s o t) (hentry : s.entry id = some status) (hstate : status.state ≠ .running) :
    t.entry id = some status := by
  rcases work_life hwork recovery with hsame | ⟨a, status', hends⟩
  · rw [entry_of_operations hsame.operations]
    exact hentry
  · have hother : a.status.operationId ≠ id := by
      intro heq
      obtain ⟨hrunning, hown⟩ := h.active a hends.active
      rw [heq, hentry] at hown
      cases hown
      exact hstate hrunning
    unfold entry
    rw [hends.operations, List.getElem?_set_ne hother]
    exact hentry

omit [MachineFloat R] in
theorem entry_of_append {id : ℕ} {status new : OperationStatus}
    (hoperations : t.operations = s.operations ++ [new]) (hentry : s.entry id = some status) :
    t.entry id = some status := by
  have hbound := (List.getElem?_eq_some_iff.mp hentry).1
  unfold entry
  rw [hoperations, List.getElem?_append_left hbound]
  exact hentry

/-- **The law of an entry that has ended.** -/
theorem lawful_ended (id : ℕ) {status : OperationStatus} (hstate : status.state ≠ .running) :
    Lawful (R := R) (fun rec s os => Kept rec s os ∧ s.entry id = some status)
      False False False where
  work h hwork := ⟨h.1.work hwork, entry_of_work h.1 hwork h.2 hstate⟩
  frame h hoperations hactive hmarker := by
    refine ⟨lawful_kept.frame h.1 hoperations hactive hmarker, ?_⟩
    rw [entry_of_operations hoperations]
    exact h.2
  again hmem h := ⟨lawful_kept.again hmem h.1, h.2⟩
  started tool timeoutNs timeoutSimS hidle hnever hns h :=
    ⟨lawful_kept.started tool timeoutNs timeoutSimS hidle hnever hns h.1, entry_of_append rfl h.2⟩
  recovered tool timeoutNs timeoutSimS hidle hns h :=
    ⟨lawful_kept.recovered tool timeoutNs timeoutSimS hidle hns h.1, entry_of_append rfl h.2⟩
  home course hidle hmem h := ⟨lawful_kept.home course hidle hmem h.1, entry_of_append rfl h.2⟩
  lost h := h.elim
  orphan _ h := h.elim
  reenter h := h.elim

/-! ## 5. Runs -/

/-- The call is none of the three kinds. -/
def Sound (e : Equipment R) (s : DroneOperations R) (i : Call R) : Prop :=
  ¬ LosesHome e s i ∧ ¬ Overflows s i ∧ ¬ Reenters e s i

instance (e : Equipment R) (s : DroneOperations R) (i : Call R) : Decidable (Sound e s i) :=
  inferInstanceAs (Decidable (_ ∧ _ ∧ _))

omit [MachineFloat R] in
/-- **The operations live as they should**: one runs at a time, each end was reported once, and
    after a stop nothing but the recovery begins or commands the vehicle. -/
structure Lifecycle (s : DroneOperations R) (os : List (OperationNote R)) : Prop where
  running : ∀ id, (∃ status, s.entry id = some status ∧ status.state = .running) ↔
    ∃ a, s.active = some a ∧ a.status.operationId = id
  ended : ∀ id, os.countP (isEnd id) = endsOf (s.entry id)
  stopped : AfterStop s.recoveryId os

theorem good_of_run {is : List (Call R)}
    (hrun : Run (Meeting (Calling (answer e)) (Sound e)) created is os t) : Good Kept t os := by
  have hgood := good_run lawful_kept (C := Sound e)
    (fun _ _ h => ⟨Or.inr h.1, Or.inr h.2.1, Or.inr h.2.2⟩) hrun (good_created kept_created)
  exact hgood

/-- **The lifecycle of operations**, over every run of sound calls; and an operation that has ended
    stays as it ended over every further one. -/
theorem operation_lifecycle {is : List (Call R)}
    (hrun : Run (Meeting (Calling (answer e)) (Sound e)) created is os t) :
    Lifecycle t os ∧ ∀ js ps u, Run (Meeting (Calling (answer e)) (Sound e)) t js ps u →
      ∀ id status, t.entry id = some status → status.state ≠ .running →
        u.entry id = some status := by
  have hgood := good_of_run hrun
  refine ⟨⟨fun id => ⟨?_, ?_⟩, hgood.kept.ended, hgood.kept.after⟩, ?_⟩
  · rintro ⟨status, hentry, hrunning⟩
    exact hgood.kept.running id status hentry hrunning
  · rintro ⟨a, hactive, rfl⟩
    obtain ⟨hrunning, hentry⟩ := hgood.kept.active a hactive
    exact ⟨a.status, hentry, hrunning⟩
  · intro js ps u hrest id status hentry hstate
    have hnow : Good (fun rec s os => Kept rec s os ∧ s.entry id = some status) t os :=
      ⟨⟨hgood.kept, hentry⟩, hgood.stopped, hgood.named⟩
    exact (good_run (lawful_ended id hstate) (C := Sound e)
      (fun _ _ h => ⟨Or.inr h.1, Or.inr h.2.1, Or.inr h.2.2⟩) hrest hnow).kept.2

end Runs

/-! ## 6. A sound run, and the three that are not -/

/-- **An aborted hold and its recovery** live as they should. -/
theorem operation_lifecycle_abortedHold :
    ∃ os t, Run (Meeting (Calling (answer attemptEquipment)) (Sound attemptEquipment)) created
      abortedHold os t ∧ Lifecycle t os := by
  have hrun : Run (Meeting (Calling (answer attemptEquipment)) (Sound attemptEquipment)) created
      abortedHold _ _ := calls_meeting (by decide +kernel)
  exact ⟨_, _, hrun, (operation_lifecycle hrun).1⟩

/-- The recovery at home begins where no home was ever observed. -/
def homelessRun : List (Call ExactNumber) :=
  [inTime (.observe { guidedTelemetry with homeLatitudeDeg := none, homeLongitudeDeg := none }),
    inTime (.start (.hold (ofRat 5)) (ofRat 60)), expired (.tick (some 2000000000))]

/-- A timeout beyond any float in nanoseconds, and one that is not. -/
def overflowRun : List (Call ExactNumber) :=
  [inTime (.observe guidedTelemetry), inTime (.start (.hold (ofRat 5)) (ofRat (10 ^ 300))),
    inTime (.start (.hold (ofRat 5)) (ofRat 60))]

/-- The operations that begin after the first stop. -/
def begunAfterStop (os : List (OperationNote R)) : List ℕ :=
  (os.dropWhile fun note => !isStop note).filterMap fun note =>
    match note with
    | .opened operationId => some operationId
    | _ => none

theorem of_begunAfterStop (h : AfterStop recovery os) {id : ℕ} (hid : id ∈ begunAfterStop os) :
    recovery = some id := by
  obtain ⟨note, hmem, hnote⟩ := List.mem_filterMap.mp hid
  have hopened : note = .opened id := by
    split at hnote
    · cases hnote
      rfl
    · cases hnote
  subst hopened
  have hsplit := List.takeWhile_append_dropWhile (p := fun note => !isStop note) (l := os)
  have hhead := List.head?_dropWhile_not (fun note => !isStop note) os
  cases hrest : os.dropWhile (fun note => !isStop note) with
  | nil =>
    rw [hrest] at hmem
    cases hmem
  | cons first rest =>
    rw [hrest] at hmem hhead hsplit
    have hstop : first = .stopped := by
      cases first with
      | stopped => rfl
      | _ => simp [isStop] at hhead
    subst hstop
    rcases List.mem_cons.mp hmem with hmem | hmem
    · cases hmem
    · exact h _ _ hsplit.symm _ hmem

/-- **The lifecycle fails** where home is lost (an end is not reported), where the timeout overflows
    (two operations run), and for `recover_land` on the expired attempt (two begin after the stop). -/
theorem lifecycle_broken :
    (∃ os t, Run (Calling (answer attemptEquipment)) created homelessRun os t ∧
      ¬ Lifecycle t os ∧ os.countP (isEnd 1) = 0 ∧
      (t.entry 1).map OperationStatus.state = some .failed) ∧
    (∃ os t, Run (Calling (answer attemptEquipment)) created overflowRun os t ∧
      ¬ Lifecycle t os ∧ (t.entry 0).map OperationStatus.state = some .running ∧
      (t.entry 1).map OperationStatus.state = some .running) ∧
    (∃ os t, Run (Calling (answer attemptEquipment)) created lateRecovery os t ∧
      ¬ Lifecycle t os ∧ begunAfterStop os = [0, 1]) := by
  refine ⟨⟨_, _, calls_run _ homelessRun _, fun h => ?_, by decide +kernel, by decide +kernel⟩,
    ⟨_, _, calls_run _ overflowRun _, fun h => ?_, by decide +kernel, by decide +kernel⟩,
    ⟨_, _, calls_run _ lateRecovery _, fun h => ?_, by decide +kernel⟩⟩
  · exact absurd (h.ended 1) (by decide +kernel)
  · have hfirst : ∃ status, (calls (answer attemptEquipment) created overflowRun).1.entry 0 =
        some status ∧ status.state = .running :=
      Option.map_eq_some_iff.mp (by decide +kernel)
    obtain ⟨a, hactive, hid⟩ := (h.running 0).mp hfirst
    have hother : (calls (answer attemptEquipment) created overflowRun).1.active.map
        (fun a => a.status.operationId) = some 1 := by
      decide +kernel
    rw [hactive, Option.map_some, hid] at hother
    cases hother
  · have hbegun : begunAfterStop (calls (answer attemptEquipment) created lateRecovery).2 = [0, 1] := by
      decide +kernel
    have hnamed := fun id => @of_begunAfterStop _ _ _ h.stopped id
    rw [hbegun] at hnamed
    cases (hnamed 0 (by simp)).symm.trans (hnamed 1 (by simp))

end DroneOperations

end DroneSim
