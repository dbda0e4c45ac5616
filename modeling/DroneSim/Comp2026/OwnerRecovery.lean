/-
  File:      DroneSim/Comp2026/OwnerRecovery.lean
  Subject:   One recovery per attempt, and none forgotten (control/listener.py,
             CommandExecutionOwner).

  * `Law` -- what holds of phases, their notifications and the final recovery at every moment;
  * `Once` -- the recovery was not begun, or was begun once and called or found done;
  * `Quiet` -- what questions and turns of the others do; a predicate that it keeps is `Lasting`
    (`lasting_of_quiet`);
  * one lemma an operation of the owner, from the recovery up to the loop.
-/
import DroneSim.Comp2026.OwnerRules
import DroneSim.Library.Emission

namespace DroneSim

open Library Library.Attempt Library.Acting QgcCommand MissionSupervisor CommandSystem

namespace ExecutionOwner

variable {c : OwnerSetup} {w : OwnerWorld} {r t u : Acting CommandSystem OwnerNote}
  {e : CommandEnvelope} {p : ℤ} {P : Acting CommandSystem OwnerNote → Prop}
  {result : TerminalResult}

/-! ## 1. What is to hold -/

/-- The recovery is called. -/
def isRecovery : OwnerNote → Bool
  | .recovery _ => true
  | _ => false

/-- The observer is told that the phase started. -/
def isStart (p : ℤ) : OwnerNote → Bool
  | .observed command .started _ => command = p
  | _ => false

/-- What a notification stands on: a phase is complete where it is recorded as succeeded, and after
    one notification that it started. -/
def Announced (before : List OwnerNote) : OwnerNote → Prop
  | .observed command .complete _ =>
    .finalized command (some (AdmissionResult.result .succeeded)) ∈ before ∧ before.countP (isStart command) = 1
  | _ => True

/-- The recovery was called, or its outcome is recorded. -/
def Recovered (r : Acting CommandSystem OwnerNote) : Prop :=
  0 < r.log.countP isRecovery ∨ r.state.recoveryOutcome.isSome = true

/-- **One recovery, and none forgotten.** -/
structure OneRecovery (c : OwnerSetup) (outcome : Except OwnerError (Option TerminalResult))
    (r : Acting CommandSystem OwnerNote) : Prop where
  once : r.log.countP isRecovery ≤ 1
  returned : ∀ result, outcome = .ok (some result) → result ≠ .succeeded → Recovered r
  raised : ∀ error, outcome = .error error → Recovered r
  landed : c.config.enabledPhases = phaseCommands.take 2 → outcome = .ok (some .succeeded) →
    r.state.recoveryOutcome = some .homeLanded
  announced : Grounded Announced r.log

/-- What the owner is prepared for: the clock that bounds the wait raises clock errors only, the one
    in the idle check nothing but what is handled there, and an item of the queue has a command. -/
def Expected : OwnerNote → Prop
  | .clock .wait (.error error) => error = .clock
  | .clock .idle (.error error) => error ≠ .exception
  | .taken (some (.foreign none)) => False
  | _ => True

/-! ## 2. The invariants -/

/-- **The phases and their notifications.** -/
structure Law (c : OwnerSetup) (r : Acting CommandSystem OwnerNote) : Prop where
  orderly : Orderly c.config r.state
  landed : c.config.enabledPhases = phaseCommands.take 2 →
    r.state.supervisor.results.get fm2 = some .succeeded →
      r.state.recoveryOutcome = some .homeLanded
  single : ∀ p, r.log.countP (isStart p) ≤ 1
  unbegun : ∀ p, r.state.supervisor.states.get p ≠ some .running →
    r.state.supervisor.states.get p ≠ some .terminal → r.log.countP (isStart p) = 0
  announced : Grounded Announced r.log

/-- **The recovery.** -/
def Once (r : Acting CommandSystem OwnerNote) : Prop :=
  r.state.recoveryStarted = false ∧ r.log.countP isRecovery = 0 ∨
    r.state.recoveryStarted = true ∧ r.log.countP isRecovery ≤ 1 ∧ Recovered r

structure Kept (c : OwnerSetup) (r : Acting CommandSystem OwnerNote) : Prop where
  law : Law c r
  once : Once r

/-- The recovery was begun. -/
def Begun (r : Acting CommandSystem OwnerNote) : Prop := r.state.recoveryStarted = true

/-- Neither a notification nor a call of the recovery. -/
def Plain : OwnerNote → Prop
  | .observed _ _ _ => False
  | .recovery _ => False
  | _ => True

/-- **What questions and turns of the others do.** -/
structure Quiet (c : OwnerSetup) (r t : Acting CommandSystem OwnerNote) : Prop where
  aside : Aside c.config r.state t.state
  notes : ∃ new, t.log = r.log ++ new ∧ ∀ n ∈ new, Plain n

theorem plain_otherStep (s : CommandSystem) (i : OtherStep) :
    ∀ n ∈ (s.otherStep c.config c.profile i).2, Plain n := by
  intro n hn
  cases i with
  | callback thread step =>
    change n ∈ (s.callbackStep c.config c.profile thread step).2 at hn
    unfold callbackStep at hn
    split at hn <;> first
      | exact absurd hn List.not_mem_nil
      | (rw [List.mem_singleton.mp hn]; trivial)
  | put item =>
    rw [List.mem_singleton.mp hn]
    trivial
  | requestAbort reason site => cases hn
  | applyAbort => cases hn
  | recordRecovery outcome => cases hn

theorem quiet_note (h : Orderly c.config r.state) {n : OwnerNote} (hn : Plain n) :
    Quiet c r ⟨r.state, r.log ++ [n]⟩ :=
  ⟨.refl h, [n], rfl, fun m hm => by rw [List.mem_singleton.mp hm]; exact hn⟩

/-- **What it keeps lasts.** -/
theorem lasting_of_quiet (horderly : ∀ r, P r → Orderly c.config r.state)
    (h : ∀ r t, P r → Quiet c r t → P t) :
    Lasting c P where
  other r i hr := h r _ hr ⟨(horderly r hr).otherStep i, _, rfl, plain_otherStep r.state i⟩
  question r n hn hr := by
    refine h r _ hr (quiet_note (horderly r hr) ?_)
    cases n with
    | observed command state answer => exact hn
    | recovery answer => exact hn
    | _ => trivial
  timing r start deadline hr :=
    have ho := horderly r hr
    h r _ hr ⟨⟨⟨ho.sound, ho.reserving, ho.immediate⟩, .refl _, fun _ h => h, rfl⟩, [],
      (List.append_nil _).symm, fun _ hn => absurd hn List.not_mem_nil⟩

namespace Quiet

theorem countP (h : Quiet c r t) {b : OwnerNote → Bool} (hb : ∀ n, Plain n → b n = false) :
    t.log.countP b = r.log.countP b := by
  obtain ⟨new, hlog, hnew⟩ := h.notes
  have hzero : new.countP b = 0 := by
    rw [List.countP_eq_zero]
    intro n hn
    rw [hb n (hnew n hn)]
    simp
  rw [hlog, List.countP_append, hzero, Nat.add_zero]

theorem recoveries (h : Quiet c r t) : t.log.countP isRecovery = r.log.countP isRecovery :=
  h.countP fun n hn => by
    cases n with
    | recovery answer => exact hn.elim
    | _ => rfl

theorem starts (h : Quiet c r t) (p : ℤ) : t.log.countP (isStart p) = r.log.countP (isStart p) :=
  h.countP fun n hn => by
    cases n with
    | observed command state answer => exact hn.elim
    | _ => rfl

theorem running (h : Quiet c r t) (hr : r.state.supervisor.states.get p = some .running) :
    t.state.supervisor.states.get p = some .running := (h.aside.beside.running p).mpr hr

theorem recovered (h : Quiet c r t) (hr : Recovered r) : Recovered t := by
  rcases hr with hr | hr
  · exact Or.inl (by rw [h.recoveries]; exact hr)
  · obtain ⟨o, ho⟩ := Option.isSome_iff_exists.mp hr
    exact Or.inr (by rw [h.aside.outcome o ho]; rfl)

theorem once (h : Quiet c r t) (hr : Once r) : Once t := by
  unfold Once
  rw [h.aside.started, h.recoveries]
  rcases hr with hr | ⟨hbegun, hle, hr⟩
  · exact Or.inl hr
  · exact Or.inr ⟨hbegun, hle, h.recovered hr⟩

theorem law (h : Quiet c r t) (hr : Law c r) : Law c t where
  orderly := h.aside.orderly
  landed htwo hwon := by
    refine h.aside.outcome _ (hr.landed htwo ?_)
    rcases h.aside.beside.fresh fm2 _ hwon with hbefore | haborted
    · exact hbefore
    · cases haborted
  single p := by
    rw [h.starts]
    exact hr.single p
  unbegun p hrunning hterminal := by
    rw [h.starts]
    exact hr.unbegun p (fun hp => hrunning (h.running hp))
      fun hp => hterminal (h.aside.beside.terminal p hp)
  announced := by
    obtain ⟨new, hlog, hnew⟩ := h.notes
    rw [hlog]
    refine hr.announced.append fun before n after heq => ?_
    have hplain := hnew n (by rw [heq]; simp)
    cases n with
    | observed command state answer => exact hplain.elim
    | _ => trivial

theorem kept (h : Quiet c r t) (hr : Kept c r) : Kept c t := ⟨h.law hr.law, h.once hr.once⟩

theorem mem (h : Quiet c r t) {n : OwnerNote} (hn : n ∈ r.log) : n ∈ t.log := by
  obtain ⟨new, hlog, -⟩ := h.notes
  rw [hlog]
  exact List.mem_append_left _ hn

end Quiet

theorem kept_lasting : Lasting c (Kept c) :=
  lasting_of_quiet (fun _ h => h.law.orderly) fun _ _ h hquiet => hquiet.kept h

/-- With something more that lasts. -/
theorem lasting_and {F : Acting CommandSystem OwnerNote → Prop}
    (hF : ∀ r t, F r → Quiet c r t → F t) : Lasting c (fun r => Kept c r ∧ F r) :=
  lasting_of_quiet (fun _ h => h.1.law.orderly) fun _ _ h hquiet =>
    ⟨hquiet.kept h.1, hF _ _ h.2 hquiet⟩

/-! ## 3. Recovery -/

theorem Law.begun (h : Law c r) : Law c ⟨{ r.state with recoveryStarted := true }, r.log⟩ :=
  ⟨⟨h.orderly.sound, h.orderly.reserving, h.orderly.immediate⟩, h.landed, h.single, h.unbegun,
    h.announced⟩

/-- A note that tells of no start. -/
theorem Law.note (h : Law c r) {n : OwnerNote} (hstart : ∀ p, isStart p n = false)
    (hn : Announced r.log n) : Law c ⟨r.state, r.log ++ [n]⟩ := by
  have hcount : ∀ p, (r.log ++ [n]).countP (isStart p) = r.log.countP (isStart p) := by
    intro p
    rw [List.countP_append, List.countP_singleton, hstart p]
    rfl
  refine ⟨h.orderly, h.landed, fun p => ?_, fun p hrunning hterminal => ?_, h.announced.snoc hn⟩
  · rw [hcount]
    exact h.single p
  · rw [hcount]
    exact h.unbegun p hrunning hterminal

/-- What the recovery leaves as it is. -/
structure Frame (c : OwnerSetup) (F : Acting CommandSystem OwnerNote → Prop) : Prop where
  quiet : ∀ r t, F r → Quiet c r t → F t
  begun : ∀ r, F r → F ⟨{ r.state with recoveryStarted := true }, r.log⟩
  called : ∀ r answer, F r → F ⟨r.state, r.log ++ [OwnerNote.recovery answer]⟩

theorem Frame.trivial : Frame c fun _ => True := ⟨fun _ _ h _ => h, fun _ h => h, fun _ _ h => h⟩

variable {F : Acting CommandSystem OwnerNote → Prop}

/-- The recovery is about to be called. -/
structure Calling (c : OwnerSetup) (F : Acting CommandSystem OwnerNote → Prop)
    (r : Acting CommandSystem OwnerNote) : Prop where
  law : Law c r
  frame : F r
  begun : Begun r
  uncalled : r.log.countP isRecovery = 0

theorem Calling.quiet (hF : Frame c F) (h : Calling c F r) (hquiet : Quiet c r t) :
    Calling c F t :=
  ⟨hquiet.law h.law, hF.quiet _ _ h.frame hquiet, hquiet.aside.started.trans h.begun,
    hquiet.recoveries.trans h.uncalled⟩

theorem invokeRecovery_spec (hF : Frame c F) (h : Calling c F r) :
    wp (invokeRecovery c w) (fun _ t => Kept c t ∧ F t ∧ Begun t)
      (fun _ t => Kept c t ∧ F t ∧ Begun t) r := by
  have hlasting : Lasting c (Calling c F) :=
    lasting_of_quiet (fun _ h => h.law.orderly) fun _ _ h hquiet => h.quiet hF hquiet
  unfold invokeRecovery
  rw [wp_bind]
  refine (hlasting.turn r h).mono (fun _ t ht => ?_) fun _ _ hfalse => hfalse.elim
  rw [wp_bind, wp_get, wp_bind, wp_update, wp_bind, wp_perform]
  refine Keeps.ofExcept _ _ ?_
  have hquiet : Quiet c t ⟨t.state.withRecovery (w.recovery t.log.length).1, t.log⟩ :=
    ⟨ht.law.orderly.withRecovery _, [], (List.append_nil _).symm,
      fun _ hn => absurd hn List.not_mem_nil⟩
  have hrecorded := ht.quiet hF hquiet
  have hcount : (t.log ++ [OwnerNote.recovery (w.recovery t.log.length).2]).countP isRecovery = 1 := by
    rw [List.countP_append, ht.uncalled]
    rfl
  refine ⟨⟨hrecorded.law.note (fun _ => rfl) True.intro, Or.inr ⟨hrecorded.begun, ?_, Or.inl ?_⟩⟩,
    hF.called _ _ hrecorded.frame, hrecorded.begun⟩
  · exact hcount.le
  · exact hcount.symm ▸ Nat.one_pos

/-- **The recovery**, begun at most once. -/
theorem recoverOnce_spec (hF : Frame c F) (h : Kept c r) (hr : F r) :
    wp (recoverOnce c w) (fun _ t => Kept c t ∧ F t ∧ Begun t)
      (fun _ t => Kept c t ∧ F t ∧ Begun t) r := by
  unfold recoverOnce
  rw [wp_bind, wp_current]
  split
  · rename_i hbegun
    exact ⟨h, hr, hbegun⟩
  · rename_i hnot
    have hunbegun : r.state.recoveryStarted = false ∧ r.log.countP isRecovery = 0 :=
      h.once.resolve_right fun hright => hnot hright.1
    have hlasting : Lasting c fun t => Kept c t ∧ F t ∧ t.log.countP isRecovery = 0 :=
      lasting_and fun _ _ ht hquiet => ⟨hF.quiet _ _ ht.1 hquiet, hquiet.recoveries.trans ht.2⟩
    rw [wp_bind]
    refine (hlasting.recoveryOutcome ⟨h, hr, hunbegun.2⟩).mono (fun outcome t ht => ?_)
      fun _ _ hfalse => hfalse.elim
    obtain ⟨⟨hkept, hframe, hzero⟩, rfl⟩ := ht
    rw [wp_bind, wp_update]
    by_cases hsome : t.state.recoveryOutcome.isSome = true
    · rw [if_pos hsome]
      exact ⟨⟨hkept.law.begun, Or.inr ⟨rfl, by simp [hzero], Or.inr hsome⟩⟩, hF.begun _ hframe, rfl⟩
    · rw [if_neg hsome]
      exact invokeRecovery_spec hF ⟨hkept.law.begun, hF.begun _ hframe, rfl, hzero⟩

/-- Every way out leaves the recovery begun. -/
theorem recoverPreserving_spec {α : Type} (h : Kept c r) (error : OwnerRaised) :
    wp (recoverPreserving c w error : Owning α) (fun _ _ => False)
      (fun _ t => Kept c t ∧ Begun t) r := by
  unfold recoverPreserving
  rw [wp_bind, wp_tryCatch]
  refine (recoverOnce_spec .trivial h trivial).mono (fun _ t ht => ?_) fun _ t ht => ?_
  · exact ⟨ht.1, ht.2.2⟩
  · exact ⟨ht.1, ht.2.2⟩

/-! ## 4. The clock and the idle check -/

/-- The owner met what it is not prepared for. -/
def Unexpected (r : Acting CommandSystem OwnerNote) : Prop := ∃ n ∈ r.log, ¬ Expected n

theorem Quiet.unexpected (h : Quiet c r t) (hr : Unexpected r) : Unexpected t := by
  obtain ⟨n, hmem, hn⟩ := hr
  exact ⟨n, h.mem hmem, hn⟩

variable {P : Acting CommandSystem OwnerNote → Prop}

theorem ask_spec {α : Type} (hP : Lasting c P) (hr : P r) {answer : ℕ → Except OwnerRaised α}
    {note : Except OwnerRaised α → OwnerNote} (hnote : ∀ a, Question (note a)) :
    wp (ask c w answer note) (fun _ => P)
      (fun error t => P t ∧ ∃ x, error = .raised x ∧ note (.error x) ∈ t.log) r := by
  unfold ask
  rw [wp_bind]
  refine (hP.turn r hr).mono (fun _ t ht => ?_) fun _ _ hfalse => hfalse.elim
  rw [wp_bind, wp_get, wp_bind, wp_perform]
  have hasked := hP.question t _ (hnote (answer t.log.length)) ht
  cases hanswer : answer t.log.length with
  | ok a =>
    rw [hanswer] at hasked
    exact hasked
  | error x =>
    rw [hanswer] at hasked
    exact ⟨hasked, x, rfl, List.mem_append_right _ List.mem_cons_self⟩

/-- What a look at the clock raises. -/
def ClockRaised (place : ClockPlace) (error : OwnerError) (r : Acting CommandSystem OwnerNote) :
    Prop :=
  ∃ x, error = .raised x ∧ (x = .clock ∨ .clock place (.error x) ∈ r.log)

theorem now_spec (hP : Lasting c P) (hr : P r) (place : ClockPlace) :
    wp (now c w place) (fun _ => P) (fun error t => P t ∧ ClockRaised place error t) r := by
  unfold now
  rw [wp_bind]
  have hnote : ∀ a, Question (.clock place a) := fun _ => True.intro
  refine (ask_spec hP hr hnote).mono (fun value t ht => ?_) fun error t ht => ?_
  · cases value with
    | some value => exact ht
    | none => exact ⟨ht, .clock, rfl, Or.inl rfl⟩
  · obtain ⟨ht, x, rfl, hmem⟩ := ht
    exact ⟨ht, x, rfl, Or.inr hmem⟩

theorem expired_spec (hP : Lasting c P) (hr : P r) (place : ClockPlace) :
    wp (expired c w place) (fun _ => P) (fun error t => P t ∧ ClockRaised place error t) r := by
  unfold expired
  rw [wp_bind, wp_current]
  cases r.state.deadline with
  | none => exact hr
  | some deadline =>
    change wp (now c w place >>= _) _ _ _
    rw [wp_bind]
    exact (now_spec hP hr place).mono (fun _ _ ht => ht) fun _ _ ht => ht

theorem interrupted_spec (hP : Lasting c P) (hr : P r) (place : ClockPlace) :
    wp (interrupted c w place) (fun _ => P) (fun error t => P t ∧ ClockRaised place error t) r := by
  unfold interrupted
  rw [wp_bind]
  refine (hP.aborting r hr).mono (fun abort t ht => ?_) fun _ _ hfalse => hfalse.elim
  split
  · exact ht
  · rw [wp_bind]
    refine (expired_spec hP ht place).mono (fun late u hu => ?_) fun _ _ hu => hu
    split
    · rw [wp_bind]
      exact (hP.requestAbort _ u hu).mono (fun _ _ hv => hv) fun _ _ hfalse => hfalse.elim
    · exact hu

/-- What the idle check raises is handled there, or was not expected. -/
def Watched (error : OwnerError) (r : Acting CommandSystem OwnerNote) : Prop :=
  ∃ x, error = .raised x ∧ (x ≠ .exception ∨ Unexpected r)

theorem ClockRaised.watched {error : OwnerError} (h : ClockRaised .idle error r) :
    Watched error r := by
  obtain ⟨x, rfl, hx⟩ := h
  refine ⟨x, rfl, ?_⟩
  rcases hx with rfl | hmem
  · exact Or.inl fun h => by cases h
  · by_cases hexception : x = .exception
    · exact Or.inr ⟨_, hmem, fun h : x ≠ .exception => h hexception⟩
    · exact Or.inl hexception

theorem permitted_error {answer : PermissionAnswer} {error : OwnerError}
    (h : permitted answer = .error error) : ∃ x, error = .raised x ∧ x ≠ .exception := by
  cases answer <;> cases h <;> exact ⟨_, rfl, fun h => by cases h⟩

theorem checkPermission_spec (hP : Lasting c P) (hr : P r) :
    wp (checkPermission c w) (fun _ => P) (fun error t => P t ∧ Watched error t) r := by
  unfold checkPermission
  rw [wp_bind]
  refine (hP.turn r hr).mono (fun _ t ht => ?_) fun _ _ hfalse => hfalse.elim
  rw [wp_bind, wp_get, wp_bind, wp_perform, wp_bind]
  have hasked := hP.question t (.permission (w.permission t.log.length)) trivial ht
  refine (wp_ofExcept _).mpr ⟨fun _ _ => ?_, fun error herror => ?_⟩
  · rw [wp_bind]
    refine (hP.aborting _ hasked).mono (fun abort u hu => ?_) fun _ _ hfalse => hfalse.elim
    split
    · exact ⟨hu, .missionAbort, rfl, Or.inl fun h => by cases h⟩
    · exact hu
  · obtain ⟨x, rfl, hx⟩ := permitted_error herror
    exact ⟨hasked, x, rfl, Or.inl hx⟩

theorem watch_spec (hP : Lasting c P) (hr : P r) :
    wp (watch c w) (fun _ => P) (fun error t => P t ∧ Watched error t) r := by
  unfold watch
  rw [wp_bind]
  refine (interrupted_spec hP hr .idle).mono (fun interruption t ht => ?_)
    fun error t ht => ⟨ht.1, ht.2.watched⟩
  split
  · exact ht
  · rw [wp_bind, wp_current]
    split
    · rw [wp_bind]
      exact (checkPermission_spec hP ht).mono (fun _ _ hu => hu) fun _ _ hu => hu
    · exact ht

/-- A way out by an exception. -/
def Raised (c : OwnerSetup) (t : Acting CommandSystem OwnerNote) : Prop :=
  Kept c t ∧ (Begun t ∨ Unexpected t)

theorem judgeIdle_spec (h : Kept c r) {error : OwnerError} (herror : Watched error r) :
    wp (judgeIdle c w error) (fun _ => Kept c) (fun _ => Raised c) r := by
  obtain ⟨x, rfl, hx⟩ := herror
  have hafter : ∀ reason x, wp (requestAbort c w reason >>= fun _ => recoverPreserving c w x)
      (fun _ : Bool => Kept c) (fun _ => Raised c) r := by
    intro reason x
    rw [wp_bind]
    refine (kept_lasting.requestAbort reason r h).mono (fun _ t ht => ?_) fun _ _ hfalse => hfalse.elim
    exact (recoverPreserving_spec ht x).mono (fun _ _ hfalse => hfalse.elim)
      fun _ _ hu => ⟨hu.1, Or.inl hu.2⟩
  cases x with
  | missionAbort => exact h
  | timeout => exact hafter _ _
  | clock => exact hafter _ _
  | authorityLost reason =>
    change wp (requestAbort c w _ >>= _) _ _ _
    rw [wp_bind]
    exact (kept_lasting.requestAbort _ r h).mono (fun _ _ ht => ht) fun _ _ hfalse => hfalse.elim
  | exception => exact ⟨h, Or.inr (hx.resolve_left fun hne => hne rfl)⟩

theorem processIdle_spec (h : Kept c r) :
    wp (processIdle c w) (fun _ => Kept c) (fun _ => Raised c) r := by
  unfold processIdle
  rw [wp_bind, wp_tryCatch]
  have hafter : ∀ interruption t, Kept c t →
      wp (if interruption = true then do
          recoverOnce c w
          return some .aborted
        else return none : Owning (Option TerminalResult)) (fun _ => Kept c) (fun _ => Raised c) t := by
    intro interruption t ht
    split
    · rw [wp_bind]
      exact (recoverOnce_spec .trivial ht trivial).mono (fun _ _ hu => hu.1)
        fun _ _ hu => ⟨hu.1, Or.inl hu.2.2⟩
    · exact ht
  refine (watch_spec kept_lasting h).mono (fun b t ht => hafter b t ht) fun error t ht => ?_
  exact (judgeIdle_spec ht.1 ht.2).mono (fun b u hu => hafter b u hu) fun _ _ hu => hu

theorem boundWait_spec (h : Kept c r) :
    wp (boundWait c w) (fun _ => Kept c) (fun _ => Raised c) r := by
  unfold boundWait
  rw [wp_bind, wp_current]
  split
  · rw [wp_tryCatch, wp_bind]
    refine (now_spec kept_lasting h .wait).mono (fun _ _ ht => ht) fun error t ht => ?_
    obtain ⟨hkept, x, rfl, hx⟩ := ht
    by_cases hclock : x = .clock
    · subst hclock
      rw [if_pos rfl, wp_bind]
      refine (kept_lasting.requestAbort _ t hkept).mono (fun _ u hu => ?_) fun _ _ hfalse => hfalse.elim
      exact (recoverPreserving_spec hu _).mono (fun _ _ hfalse => hfalse.elim)
        fun _ _ hv => ⟨hv.1, Or.inl hv.2⟩
    · rw [if_neg fun heq => hclock (OwnerError.raised.inj heq)]
      exact ⟨hkept, Or.inr ⟨_, hx.resolve_left hclock, hclock⟩⟩
  · exact h

theorem takeItem_spec (h : Kept c r) :
    wp (takeItem c w) (fun item t => Kept c t ∧ OwnerNote.taken item ∈ t.log) (fun _ _ => False) r := by
  unfold takeItem
  rw [wp_bind]
  refine (kept_lasting.turn r h).mono (fun _ t ht => ?_) fun _ _ hfalse => hfalse
  rw [wp_bind, wp_current, wp_bind, wp_update, wp_bind, wp_perform]
  have ho := ht.law.orderly
  have hquiet : Quiet c t ⟨{ t.state with queue := t.state.queue.tail },
      t.log ++ [OwnerNote.taken t.state.queue.head?]⟩ :=
    ⟨⟨⟨ho.sound, ho.reserving, ho.immediate⟩, .refl _, fun _ h => h, rfl⟩, _, rfl, fun n hn => by
      rw [List.mem_singleton.mp hn]
      trivial⟩
  exact ⟨hquiet.kept ht, List.mem_append_right _ List.mem_cons_self⟩

/-! ## 5. One command -/

/-- The command is in the owner's hands. -/
structure InHand (c : OwnerSetup) (p : ℤ) (r : Acting CommandSystem OwnerNote) : Prop where
  kept : Kept c r
  running : r.state.supervisor.states.get p = some .running

theorem InHand.quiet (h : InHand c p r) (hquiet : Quiet c r t) : InHand c p t :=
  ⟨hquiet.kept h.kept, hquiet.running h.running⟩

/-- Nobody was told yet that it started. -/
structure Opened (c : OwnerSetup) (p : ℤ) (r : Acting CommandSystem OwnerNote) : Prop
    extends InHand c p r where
  silent : r.log.countP (isStart p) = 0

theorem opened_lasting (p : ℤ) : Lasting c (Opened c p) :=
  lasting_of_quiet (fun _ h => h.kept.law.orderly) fun _ _ h hquiet =>
    ⟨h.toInHand.quiet hquiet, (hquiet.starts p).trans h.silent⟩

/-- The observer, where there is one, was told once. -/
structure Told (c : OwnerSetup) (p : ℤ) (r : Acting CommandSystem OwnerNote) : Prop
    extends InHand c p r where
  once : isObserved c p = true → r.log.countP (isStart p) = 1

theorem told_quiet (h : Told c p r) (hquiet : Quiet c r t) : Told c p t :=
  ⟨h.toInHand.quiet hquiet, fun hp => (hquiet.starts p).trans (h.once hp)⟩

theorem told_lasting (p : ℤ) : Lasting c (Told c p) :=
  lasting_of_quiet (fun _ h => h.kept.law.orderly) fun _ _ => told_quiet

/-- A final `FM2` has come home. -/
def Home (c : OwnerSetup) (p : ℤ) (r : Acting CommandSystem OwnerNote) : Prop :=
  p = fm2 → c.config.enabledPhases = phaseCommands.take 2 →
    r.state.recoveryOutcome = some .homeLanded

theorem Home.quiet (h : Home c p r) (hquiet : Quiet c r t) : Home c p t :=
  fun hp htwo => hquiet.aside.outcome _ (h hp htwo)

/-- The command's verdict: a success stands on its notification and its recovery. -/
structure Judged (c : OwnerSetup) (p : ℤ) (result : TerminalResult)
    (r : Acting CommandSystem OwnerNote) : Prop extends InHand c p r where
  told : result = .succeeded → isObserved c p = true → r.log.countP (isStart p) = 1
  home : result = .succeeded → Home c p r

/-- No success stands on nothing. -/
theorem InHand.lost (h : InHand c p r) (hlost : result ≠ .succeeded) : Judged c p result r :=
  ⟨h, fun hwon => absurd hwon hlost, fun hwon => absurd hwon hlost⟩

theorem Judged.quiet (h : Judged c p result r) (hquiet : Quiet c r t) : Judged c p result t :=
  ⟨h.toInHand.quiet hquiet, fun hwon hp => (hquiet.starts p).trans (h.told hwon hp),
    fun hwon => (h.home hwon).quiet hquiet⟩

theorem judged_lasting (p : ℤ) (result : TerminalResult) : Lasting c (Judged c p result) :=
  lasting_of_quiet (fun _ h => h.kept.law.orderly) fun _ _ => Judged.quiet

theorem inHand_lasting (p : ℤ) : Lasting c (InHand c p) :=
  lasting_of_quiet (fun _ h => h.kept.law.orderly) fun _ _ => InHand.quiet

/-- The command begins. -/
theorem Kept.begin (h : Kept c r) (hqueued : r.state.supervisor.states.get p = some .queued)
    (hcall : (call (MissionSupervisor.begin p) r.state.supervisor).2.1 =
      { r.state.supervisor with states := r.state.supervisor.states.set p .running }) :
    Opened c p ⟨r.state.supervised (MissionSupervisor.begin p), r.log⟩ := by
  have ho := h.law.orderly
  have hstates : ∀ q, (r.state.supervisor.states.set p .running).get q =
      if q = p then some .running else r.state.supervisor.states.get q := fun q => Dict.get_set ..
  have hsound : Sound c.config
      { r.state.supervisor with states := r.state.supervisor.states.set p .running } :=
    ho.sound.began hqueued
  unfold CommandSystem.supervised
  rw [hcall]
  have hlaw : Law c ⟨{ r.state with supervisor :=
      { r.state.supervisor with states := r.state.supervisor.states.set p .running } }, r.log⟩ := by
    refine ⟨⟨hsound, ho.reserving, ho.immediate⟩, h.law.landed, h.law.single, fun q hrunning hterminal => ?_,
      h.law.announced⟩
    change (r.state.supervisor.states.set p .running).get q ≠ _ at hrunning hterminal
    rw [hstates] at hrunning hterminal
    by_cases hq : q = p
    · exact absurd (if_pos hq) hrunning
    · rw [if_neg hq] at hrunning hterminal
      exact h.law.unbegun q hrunning hterminal
  refine ⟨⟨⟨hlaw, h.once⟩, Dict.get_set_self _ _ _⟩, h.law.unbegun p ?_ ?_⟩
  · rw [hqueued]
    simp
  · rw [hqueued]
    simp

theorem beginCommand_spec (h : Kept c r) :
    wp (beginCommand c w e) (fun _ => Opened c e.command) (fun _ => Kept c) r := by
  unfold beginCommand
  rw [wp_bind]
  refine (kept_lasting.supervise_spec h fun t ht => ?_).mono (fun answer u hu => hu) fun _ _ hfalse =>
    hfalse.elim
  rcases call_begin t.state.supervisor e.command with ⟨hqueued, hok, hcall⟩ | ⟨error, herror, hcall⟩
  · rw [hok]
    exact ht.begin hqueued hcall
  · rw [herror]
    have hsame : t.state.supervised (MissionSupervisor.begin e.command) = t.state := by
      unfold CommandSystem.supervised
      rw [hcall]
    rw [hsame]
    exact ht

/-- How the part before the command runs leaves things. -/
def OpenedAs (c : OwnerSetup) (p : ℤ) : Opening → Acting CommandSystem OwnerNote → Prop
  | .began, r => Opened c p r
  | _, r => Kept c r

theorem sendTerminalAck_returns (hP : Lasting c P)
    (hnote : ∀ r e text recorded, P r → P ⟨r.state, r.log ++ [OwnerNote.terminal e text recorded]⟩)
    (result : TerminalResult) : Returns P (sendTerminalAck c w e result) := by
  refine .bind hP.turn fun _ => returns_current fun s => ?_
  cases s.accepted.get e.command with
  | none => exact .pure ()
  | some accepted => exact .ite (fun r hr => hnote r _ _ _ hr) (.pure ())

theorem kept_terminal (r : Acting CommandSystem OwnerNote) (e : CommandEnvelope) (text : AckText)
    (recorded : Option AdmissionResult) (h : Kept c r) :
    Kept c ⟨r.state, r.log ++ [OwnerNote.terminal e text recorded]⟩ :=
  (quiet_note h.law.orderly (n := .terminal e text recorded) trivial).kept h

theorem openEnvelope_spec (h : Kept c r) :
    wp (openEnvelope c w e) (OpenedAs c e.command) (fun _ => Kept c) r := by
  unfold openEnvelope
  rw [wp_bind]
  refine (kept_lasting.interrupted _ r h).mono (fun drop t ht => ?_) fun _ _ ht => ht
  split
  · rw [wp_bind]
    refine (sendTerminalAck_returns kept_lasting kept_terminal _ t ht).mono (fun _ u hu => ?_)
      fun _ _ hfalse => hfalse.elim
    rw [wp_bind]
    exact (recoverOnce_spec .trivial hu trivial).mono (fun _ _ hv => hv.1) fun _ _ hv => hv.1
  · rw [wp_bind]
    exact (beginCommand_spec ht).mono (fun _ _ hu => hu) fun _ _ hu => hu

theorem fm2IsFinal_two (h : c.config.enabledPhases = phaseCommands.take 2) :
    fm2IsFinal c = true := by
  unfold fm2IsFinal
  rw [h]
  decide

theorem isObserved_ne (h : isObserved c p = true) : p ≠ abortAndRecover := by
  unfold isObserved at h
  rw [Bool.and_eq_true, decide_eq_true_eq] at h
  rcases h.2 with rfl | rfl
  · decide
  · decide

/-- The observer is told that the phase started. -/
theorem Opened.told (h : Opened c p r) (answer : Except OwnerRaised Unit) :
    Told c p ⟨r.state, r.log ++ [OwnerNote.observed p .started answer]⟩ := by
  have hcount : ∀ q, (r.log ++ [OwnerNote.observed p .started answer]).countP (isStart q) =
      r.log.countP (isStart q) + if p = q then 1 else 0 := by
    intro q
    rw [List.countP_append, List.countP_singleton]
    simp [isStart]
  have hlaw := h.kept.law
  have hself : (r.log ++ [OwnerNote.observed p .started answer]).countP (isStart p) = 1 := by
    rw [hcount, h.silent, if_pos rfl]
  have hother : ∀ q, p ≠ q → (r.log ++ [OwnerNote.observed p .started answer]).countP (isStart q) =
      r.log.countP (isStart q) := fun q hq => by rw [hcount, if_neg hq, Nat.add_zero]
  refine ⟨⟨⟨⟨hlaw.orderly, hlaw.landed, fun q => ?_, fun q hrunning hterminal => ?_,
    hlaw.announced.snoc trivial⟩, ?_⟩, h.running⟩, fun _ => hself⟩
  · by_cases hq : p = q
    · subst hq
      exact hself.le
    · rw [hother q hq]
      exact hlaw.single q
  · by_cases hq : p = q
    · subst hq
      exact absurd h.running hrunning
    · rw [hother q hq]
      exact hlaw.unbegun q hrunning hterminal
  · have hsame : (r.log ++ [OwnerNote.observed p .started answer]).countP isRecovery =
        r.log.countP isRecovery := by
      rw [List.countP_append]
      rfl
    unfold Once Recovered
    rw [hsame]
    exact h.kept.once

theorem observePhaseStart_spec (h : Opened c p r) :
    wp (observePhaseStart c w p) (fun _ => Told c p) (fun _ => InHand c p) r := by
  unfold observePhaseStart
  split
  · rw [wp_tryCatch]
    unfold ask
    rw [wp_bind]
    refine ((opened_lasting p).turn r h).mono (fun _ t ht => ?_) fun _ _ hfalse => hfalse.elim
    rw [wp_bind, wp_get, wp_bind, wp_perform]
    have htold := ht.told (w.observer t.log.length)
    refine (wp_ofExcept _).mpr ⟨fun _ _ => htold, fun error _ => ?_⟩
    cases error with
    | raised error => exact htold.toInHand
    | observer error => exact htold.toInHand
  · rename_i hnot
    exact ⟨h.toInHand, fun hp => absurd hp hnot⟩

theorem told_frame (p : ℤ) : Frame c fun r => r.state.supervisor.states.get p = some .running ∧
    (isObserved c p = true → r.log.countP (isStart p) = 1) where
  quiet _ _ h hquiet := ⟨hquiet.running h.1, fun hp => (hquiet.starts p).trans (h.2 hp)⟩
  begun _ h := h
  called r answer h := by
    refine ⟨h.1, fun hp => ?_⟩
    rw [List.countP_append]
    exact h.2 hp

/-- The recovery of a final `FM2`. -/
theorem recoverFinal_spec (h : Told c p r) :
    wp (recoverFinal c w) (fun _ => Told c p) (fun _ => InHand c p) r := by
  unfold recoverFinal
  rw [wp_tryCatch, wp_bind]
  refine (recoverOnce_spec (told_frame p) h.kept ⟨h.running, h.once⟩).mono (fun _ t ht => ?_)
    fun error t ht => ?_
  · exact ⟨⟨ht.1, ht.2.1.1⟩, ht.2.1.2⟩
  · have htold : Told c p t := ⟨⟨ht.1, ht.2.1.1⟩, ht.2.1.2⟩
    split
    · exact htold
    · exact htold.toInHand

theorem closeCommand_spec (h : Told c e.command r) :
    wp (closeCommand c w e) (fun v => Judged c e.command v.result) (fun _ => InHand c e.command)
      r := by
  unfold closeCommand
  split
  · rw [wp_bind]
    refine (recoverFinal_spec h).mono (fun cancellation t ht => ?_) fun _ _ ht => ht
    cases cancellation with
    | some error => exact ht.toInHand.lost fun h => by cases h
    | none =>
      change wp (recoveryOutcome c w >>= _) _ _ _
      rw [wp_bind]
      refine ((told_lasting _).recoveryOutcome ht).mono (fun outcome u hu => ?_) fun _ _ hfalse =>
        hfalse.elim
      obtain ⟨htold, rfl⟩ := hu
      split
      · rename_i hhome
        exact ⟨htold.toInHand, fun _ => htold.once, fun _ _ _ => hhome⟩
      · exact htold.toInHand
  · rename_i hnot
    exact ⟨h.toInHand, fun _ => h.once, fun _ hp htwo => absurd ⟨hp, fm2IsFinal_two htwo⟩ hnot⟩

/-- **From the beginning of a command to its verdict.** -/
theorem flyCommand_spec (h : Opened c e.command r) :
    wp (flyCommand c w e) (fun v => Judged c e.command v.result) (fun _ => InHand c e.command)
      r := by
  have hopened := opened_lasting (c := c) e.command
  have htold := told_lasting (c := c) e.command
  unfold flyCommand
  rw [wp_bind]
  refine (hopened.startAttempt e r h).mono (fun _ t ht => ?_) fun _ _ ht => ht.toInHand
  rw [wp_bind]
  refine (hopened.requireBeforeDeadline t ht).mono (fun _ t ht => ?_) fun _ _ ht => ht.toInHand
  split
  · rw [wp_bind]
    refine (observePhaseStart_spec ht).mono (fun _ t ht => ?_) fun _ _ ht => ht
    rw [wp_bind]
    refine (htold.ask (fun r a => htold.question r (.handled e.command a) trivial) t ht).mono (fun literalTrue t ht => ?_)
      fun _ _ ht => ht.toInHand
    split
    · rw [wp_bind]
      refine (htold.requireBeforeDeadline t ht).mono (fun _ t ht => ?_) fun _ _ ht => ht.toInHand
      exact closeCommand_spec ht
    · exact ht.toInHand
  · exact ht.toInHand

/-- **A handler's verdict is no success.** -/
theorem judge_spec (hP : Lasting c P) (hr : P r) (error : OwnerError) :
    wp (judge c w error) (fun v t => P t ∧ v.result ≠ .succeeded) (fun _ _ => False) r := by
  have hfailed : ∀ v : TerminalResult → Verdict, (∀ result, (v result).result = result) →
      wp (failedOrAborted c w >>= fun result => Pure.pure (v result))
        (fun v t => P t ∧ v.result ≠ .succeeded) (fun _ _ => False) r := by
    intro v hv
    unfold failedOrAborted
    rw [wp_bind, wp_bind]
    refine (hP.aborting r hr).mono (fun abort t ht => ?_) fun _ _ hfalse => hfalse
    refine ⟨ht, ?_⟩
    rw [hv]
    cases abort with
    | false => exact fun h => by cases h
    | true => exact fun h => by cases h
  rcases error with (_ | _ | _ | reason | _) | error
  · exact ⟨hr, fun h => by cases h⟩
  · change wp (requestAbort c w _ >>= _) _ _ _
    rw [wp_bind]
    exact (hP.requestAbort _ r hr).mono (fun _ t ht => ⟨ht, fun h => by cases h⟩) fun _ _ h => h
  · exact ⟨hr, fun h => by cases h⟩
  · exact hfailed _ fun _ => rfl
  · exact hfailed _ fun _ => rfl
  · exact hfailed _ fun _ => rfl

/-! ## 6. Its end -/

/-- The result is recorded. -/
structure Recorded (c : OwnerSetup) (p : ℤ) (result : TerminalResult)
    (r : Acting CommandSystem OwnerNote) : Prop where
  kept : Kept c r
  terminal : r.state.supervisor.states.get p = some .terminal
  recorded : r.state.supervisor.results.get p = some result
  told : result = .succeeded → isObserved c p = true → r.log.countP (isStart p) = 1

theorem recorded_lasting (p : ℤ) (result : TerminalResult) : Lasting c (Recorded c p result) :=
  lasting_of_quiet (fun _ h => h.kept.law.orderly) fun _ _ h hquiet =>
    ⟨hquiet.kept h.kept, hquiet.aside.beside.terminal p h.terminal,
      hquiet.aside.beside.results p _ h.recorded,
      fun hwon hp => (hquiet.starts p).trans (h.told hwon hp)⟩

/-- **The supervisor finishes the command.** -/
theorem Judged.finish (h : Judged c p result r) :
    ∃ recorded, Recorded c p recorded
      ⟨r.state.supervised (MissionSupervisor.finish c.config p result.name), r.log⟩ := by
  have hlaw := h.kept.law
  have ho := hlaw.orderly
  obtain ⟨mid, ⟨hbeside, himmediate, -⟩, hcall⟩ := call_finish ho.sound h.running result
  have hsound : Sound c.config
      (call (MissionSupervisor.finish c.config p result.name) r.state.supervisor).2.1 := by
    obtain ⟨js, hrun⟩ := (@finish_moves c.config .finish (by decide) p result.name).call
      r.state.supervisor
    exact sound_run ho.sound hrun
  refine ⟨recordedResult mid p result, ?_⟩
  unfold CommandSystem.supervised
  rw [hcall] at hsound ⊢
  have hstates := @get_states_withFinished c.config mid p (recordedResult mid p result)
  have hresults := @get_results_withFinished c.config mid p (recordedResult mid p result)
  have hwon : recordedResult mid p result = .succeeded → result = .succeeded :=
    recordedResult_succeeded
  refine ⟨⟨⟨⟨hsound, ho.reserving, fun q hq => ?_⟩, fun htwo hresult => ?_, hlaw.single,
    fun q hrunning hterminal => ?_, hlaw.announced⟩, h.kept.once⟩, ?_, ?_,
    fun hrecorded => h.told (hwon hrecorded)⟩
  · show (withFinished c.config p _ mid).immediateResults.get q = none
    rw [withFinished_immediateResults, himmediate]
    exact ho.immediate q hq
  · change (withFinished c.config p _ mid).results.get fm2 = _ at hresult
    rw [hresults] at hresult
    split at hresult
    · rename_i hp
      exact h.home (hwon (Option.some.inj hresult)) hp.symm htwo
    · refine hlaw.landed htwo ?_
      rcases hbeside.fresh fm2 _ hresult with hbefore | haborted
      · exact hbefore
      · cases haborted
  · change (withFinished c.config p _ mid).states.get q ≠ _ at hrunning hterminal
    rw [hstates] at hrunning hterminal
    by_cases hq : q = p
    · exact absurd (if_pos hq) hterminal
    · rw [if_neg hq] at hrunning hterminal
      exact hlaw.unbegun q (fun hr => hrunning ((hbeside.running q).mpr hr))
        fun ht => hterminal (hbeside.terminal q ht)
  · show (withFinished c.config p _ mid).states.get p = _
    rw [hstates, if_pos rfl]
  · show (withFinished c.config p _ mid).results.get p = _
    rw [hresults, if_pos rfl]

/-- The phase is recorded as succeeded, after one notification. -/
structure Completed (c : OwnerSetup) (p : ℤ) (result : TerminalResult)
    (r : Acting CommandSystem OwnerNote) : Prop where
  kept : Kept c r
  finalized : result = .succeeded → isObserved c p = true →
    .finalized p (some (AdmissionResult.result .succeeded)) ∈ r.log ∧ r.log.countP (isStart p) = 1

theorem completed_lasting (p : ℤ) (result : TerminalResult) : Lasting c (Completed c p result) :=
  lasting_of_quiet (fun _ h => h.kept.law.orderly) fun _ _ h hquiet =>
    ⟨hquiet.kept h.kept, fun hwon hp =>
      ⟨hquiet.mem (h.finalized hwon hp).1, (hquiet.starts p).trans (h.finalized hwon hp).2⟩⟩

/-- What the record says of an observed phase is its result. -/
theorem Recorded.finalized {result own : TerminalResult} (h : Recorded c p result r) :
    Completed c p (finalizedResult own (r.state.record p))
      ⟨r.state, r.log ++ [OwnerNote.finalized p (r.state.record p)]⟩ := by
  have hquiet : Quiet c r ⟨r.state, r.log ++ [OwnerNote.finalized p (r.state.record p)]⟩ :=
    quiet_note h.kept.law.orderly (n := .finalized p (r.state.record p)) trivial
  refine ⟨hquiet.kept h.kept, fun hwon hp => ?_⟩
  have hrecord : r.state.record p = some (.result result) := admissionResult_terminal
    (h.kept.law.orderly.immediate p (isObserved_ne hp)) h.terminal h.recorded
  rw [hrecord] at hwon hquiet ⊢
  change result = .succeeded at hwon
  subst hwon
  exact ⟨List.mem_append_right _ List.mem_cons_self, (hquiet.starts p).trans (h.told rfl hp)⟩

theorem finishCommand_spec (h : Judged c e.command result r) :
    wp (finishCommand c w e result) (fun result => Completed c e.command result) (fun _ _ => False)
      r := by
  unfold finishCommand
  rw [wp_bind]
  refine ((judged_lasting e.command result).supervise_spec
    (Q := fun _ t => ∃ recorded, Recorded c e.command recorded t) h fun t ht => ht.finish).mono
    (fun answer t ht => ?_) fun _ _ hfalse => hfalse
  obtain ⟨recorded, ht⟩ := ht
  rw [wp_bind]
  refine ((recorded_lasting e.command recorded).turn t ht).mono (fun _ u hu => ?_) fun _ _ hfalse =>
    hfalse
  rw [wp_bind, wp_current, wp_bind, wp_perform]
  exact hu.finalized

/-- The observer is told that the phase is complete. -/
theorem Completed.announce (h : Completed c p .succeeded r) (hp : isObserved c p = true)
    (answer : Except OwnerRaised Unit) :
    Kept c ⟨r.state, r.log ++ [OwnerNote.observed p .complete answer]⟩ := by
  refine ⟨h.kept.law.note (fun _ => rfl) (h.finalized rfl hp), ?_⟩
  have hsame : (r.log ++ [OwnerNote.observed p .complete answer]).countP isRecovery =
      r.log.countP isRecovery := by
    rw [List.countP_append]
    rfl
  unfold Once Recovered
  rw [hsame]
  exact h.kept.once

theorem observeCompletion_spec (h : Completed c p result r) :
    wp (observeCompletion c w p result) (fun _ => Kept c) (fun _ _ => False) r := by
  unfold observeCompletion
  split
  · rename_i hobserved
    rw [Bool.and_eq_true, decide_eq_true_eq] at hobserved
    obtain ⟨hp, rfl⟩ := hobserved
    rw [wp_tryCatch, wp_bind]
    unfold ask
    rw [wp_bind]
    refine ((completed_lasting p .succeeded).turn r h).mono (fun _ t ht => ?_) fun _ _ hfalse =>
      hfalse.elim
    rw [wp_bind, wp_get, wp_bind, wp_perform]
    have hannounced := ht.announce hp (w.observer t.log.length)
    refine (wp_ofExcept _).mpr ⟨fun _ _ => hannounced, fun error _ => ?_⟩
    cases error with
    | raised error => exact hannounced
    | observer error => exact hannounced
  · exact h.kept

theorem settle_spec (h : Judged c e.command result r) :
    wp (settle c w e result) (fun _ => Kept c) (fun _ _ => False) r := by
  unfold settle
  rw [wp_bind]
  refine (finishCommand_spec h).mono (fun finalized t ht => ?_) fun _ _ hfalse => hfalse
  rw [wp_bind]
  refine (observeCompletion_spec ht).mono (fun observer u hu => ?_) fun _ _ hfalse => hfalse
  rw [wp_bind]
  exact sendTerminalAck_returns kept_lasting kept_terminal _ u hu

/-- **After the `try` statement**: what is raised for an item with a command leaves the recovery
    begun. -/
theorem conclude_spec (h : Kept c r) {item : QueueItem} {command : ℤ}
    (hitem : commandOf item = .ok command) (verdict : Verdict) (result : TerminalResult)
    (observer : Option OwnerRaised) :
    wp (conclude c w item verdict result observer) (fun _ => Kept c) (fun _ t => Kept c t ∧ Begun t)
      r := by
  have hpreserving : ∀ error, wp (recoverPreserving c w error : Owning TerminalResult)
      (fun _ => Kept c) (fun _ t => Kept c t ∧ Begun t) r := fun error =>
    (recoverPreserving_spec h error).mono (fun _ _ hfalse => hfalse.elim) fun _ _ ht => ht
  unfold conclude
  split
  · exact hpreserving _
  · exact hpreserving _
  · exact hpreserving _
  · rw [hitem, wp_bind, wp_ok]
    split
    · rw [wp_bind]
      exact (recoverOnce_spec .trivial h trivial).mono (fun _ _ ht => ht.1)
        fun _ _ ht => ⟨ht.1, ht.2.2⟩
    · exact h

/-- **A command that began.** -/
theorem runCommand_spec (h : Opened c e.command r) :
    wp (runCommand c w e) (fun _ => Kept c) (fun _ t => Kept c t ∧ Begun t) r := by
  have hafter : ∀ verdict t, Judged c e.command verdict.result t →
      wp (settle c w e verdict.result >>= fun settled =>
        conclude c w (.envelope e) verdict settled.1 settled.2) (fun _ => Kept c)
        (fun _ t => Kept c t ∧ Begun t) t := by
    intro verdict t ht
    rw [wp_bind]
    refine (settle_spec ht).mono (fun settled u hu => ?_) fun _ _ hfalse => hfalse.elim
    exact conclude_spec hu rfl _ _ _
  unfold runCommand
  rw [wp_bind, wp_tryCatch]
  refine (flyCommand_spec h).mono (fun verdict t ht => hafter verdict t ht) fun error t ht => ?_
  exact (judge_spec (inHand_lasting e.command) ht error).mono
    (fun verdict u hu => hafter verdict u (hu.1.lost hu.2)) fun _ _ hfalse => hfalse.elim

/-! ## 7. The loop -/

/-- What is no envelope ends at once with a verdict. -/
theorem openedForeign_spec (hP : Lasting c P) (hr : P r) (command : Option ℤ) :
    wp (opened c w (.foreign command)) (fun opening t => P t ∧ ∃ v, opening = .judged v)
      (fun _ _ => False) r := by
  unfold opened
  rw [wp_tryCatch]
  change wp (judge c w (.raised .exception) >>= _) _ _ _
  rw [wp_bind]
  exact (judge_spec hP hr _).mono (fun v t ht => ⟨ht.1, v, rfl⟩) fun _ _ hfalse => hfalse

theorem openedEnvelope_spec (h : Kept c r) :
    wp (opened c w (.envelope e)) (OpenedAs c e.command) (fun _ _ => False) r := by
  unfold opened
  rw [wp_tryCatch]
  refine (openEnvelope_spec h).mono (fun _ _ ht => ht) fun error t ht => ?_
  rw [wp_bind]
  exact (judge_spec kept_lasting ht error).mono (fun _ _ hu => hu.1) fun _ _ hfalse => hfalse

/-- **An item with a command.** -/
theorem processItem_spec (h : Kept c r) {item : QueueItem} {command : ℤ}
    (hitem : commandOf item = .ok command) :
    wp (processItem c w item) (fun _ => Kept c) (fun _ t => Kept c t ∧ Begun t) r := by
  unfold processItem
  rw [wp_bind]
  cases item with
  | envelope e =>
    refine (openedEnvelope_spec h).mono (fun opening t ht => ?_) fun _ _ hfalse => hfalse.elim
    cases opening with
    | began => exact runCommand_spec ht
    | dropped => exact ht
    | judged v => exact conclude_spec ht hitem _ _ _
  | foreign command =>
    refine (openedForeign_spec kept_lasting h command).mono (fun opening t ht => ?_)
      fun _ _ hfalse => hfalse.elim
    obtain ⟨ht, v, rfl⟩ := ht
    exact conclude_spec ht hitem _ _ _

/-- **An item without one** is raised for after the `try` statement. -/
theorem processForeign_spec (h : Kept c r) (hmet : Unexpected r) :
    wp (processItem c w (.foreign none)) (fun _ => Kept c) (fun _ => Raised c) r := by
  have hlasting : Lasting c fun t => Kept c t ∧ Unexpected t :=
    lasting_and fun _ _ ht hquiet => hquiet.unexpected ht
  have hend : ∀ t v, (Kept c t ∧ Unexpected t) →
      wp (conclude c w (.foreign none) v v.result none) (fun _ => Kept c) (fun _ => Raised c) t := by
    intro t v ht
    have hpreserving : ∀ error, wp (recoverPreserving c w error : Owning TerminalResult)
        (fun _ => Kept c) (fun _ => Raised c) t := fun error =>
      (recoverPreserving_spec ht.1 error).mono (fun _ _ hfalse => hfalse.elim)
        fun _ _ hu => ⟨hu.1, Or.inl hu.2⟩
    unfold conclude
    split
    · exact hpreserving _
    · exact hpreserving _
    · exact hpreserving _
    · exact ⟨ht.1, Or.inr ht.2⟩
  unfold processItem
  rw [wp_bind]
  refine (openedForeign_spec hlasting ⟨h, hmet⟩ none).mono (fun opening t ht => ?_)
    fun _ _ hfalse => hfalse.elim
  obtain ⟨ht, v, rfl⟩ := ht
  exact hend t v ht

theorem processNext_spec (h : Kept c r) :
    wp (processNext c w) (fun _ => Kept c) (fun _ => Raised c) r := by
  unfold processNext
  rw [wp_bind]
  refine (boundWait_spec h).mono (fun _ t ht => ?_) fun _ _ ht => ht
  rw [wp_bind]
  refine (takeItem_spec ht).mono (fun item u hu => ?_) fun _ _ hfalse => hfalse.elim
  obtain ⟨hkept, htaken⟩ := hu
  cases item with
  | none => exact processIdle_spec hkept
  | some item =>
    change wp (processItem c w item >>= _) _ _ _
    rw [wp_bind]
    cases hitem : commandOf item with
    | ok command =>
      exact (processItem_spec hkept hitem).mono (fun _ _ hv => hv) fun _ _ hv => ⟨hv.1, Or.inl hv.2⟩
    | error error =>
      have hnone : item = .foreign none := by
        cases item with
        | envelope e => cases hitem
        | foreign command =>
          cases command with
          | some command => cases hitem
          | none => rfl
      subst hnone
      exact (processForeign_spec hkept ⟨_, htaken, fun hfalse => hfalse⟩).mono (fun _ _ hv => hv)
        fun _ _ hv => hv

/-- What `run` returns. -/
def Ended (c : OwnerSetup) (returned : Option TerminalResult)
    (r : Acting CommandSystem OwnerNote) : Prop :=
  Kept c r ∧ ∀ result, returned = some result →
    (result ≠ .succeeded → Begun r) ∧
    (result = .succeeded → c.config.enabledPhases = phaseCommands.take 2 →
      r.state.recoveryOutcome = some .homeLanded)

/-- An attempt that is won in two phases came home. -/
theorem Law.won (h : Law c r) (hwon : r.state.supervisor.terminalResult = some .succeeded)
    (htwo : c.config.enabledPhases = phaseCommands.take 2) :
    r.state.recoveryOutcome = some .homeLanded := by
  refine h.landed htwo (h.orderly.sound.won hwon fm2 ?_)
  rw [htwo]
  decide

theorem iterate_spec (h : Kept c r) :
    wp (iterate c w) (Ended c) (fun _ => Raised c) r := by
  unfold iterate
  rw [wp_bind]
  refine (processNext_spec h).mono (fun _ t ht => ?_) fun _ _ ht => ht
  rw [wp_bind]
  refine (kept_lasting.terminalResult ht).mono (fun terminal u hu => ?_) fun _ _ hfalse => hfalse.elim
  obtain ⟨hkept, hterminal⟩ := hu
  have hlost : ∀ result, result ≠ .succeeded →
      wp (recoverOnce c w >>= fun _ => Pure.pure (some result)) (Ended c) (fun _ => Raised c) u := by
    intro result hresult
    rw [wp_bind]
    refine (recoverOnce_spec .trivial hkept trivial).mono (fun _ v hv => ⟨hv.1, fun other hother => ?_⟩)
      fun _ v hv => ⟨hv.1, Or.inl hv.2.2⟩
    cases hother
    exact ⟨fun _ => hv.2.2, fun hwon => absurd hwon hresult⟩
  rcases terminal with _ | _ | _ | _
  · exact ⟨hkept, fun result hresult => by cases hresult⟩
  · refine ⟨hkept, fun result hresult => ?_⟩
    cases hresult
    exact ⟨fun hne => absurd rfl hne, fun _ htwo => hkept.law.won hterminal.symm htwo⟩
  · exact hlost .failed fun h => by cases h
  · exact hlost .aborted fun h => by cases h

/-- **The loop**, by induction on its turns. -/
theorem run_spec (ws : List OwnerWorld) (h : Kept c r) :
    wp (run c ws) (Ended c) (fun _ => Raised c) r := by
  induction ws generalizing r with
  | nil => exact ⟨h, fun result hresult => by cases hresult⟩
  | cons w ws ih =>
    unfold run
    rw [wp_bind]
    refine (iterate_spec h).mono (fun returned t ht => ?_) fun _ _ ht => ht
    cases returned with
    | none => exact ih ht.1
    | some result => exact ht

theorem kept_started (c : OwnerSetup) : Kept c ⟨started c, []⟩ :=
  ⟨⟨orderly_started c, (fun _ h => by cases h), fun _ => Nat.zero_le _, fun _ _ _ => rfl,
    Grounded.nil⟩, Or.inl ⟨rfl, rfl⟩⟩

theorem Kept.recovered (h : Kept c r) (hbegun : Begun r) : Recovered r := by
  rcases h.once with hnot | hdone
  · rw [show r.state.recoveryStarted = true from hbegun] at hnot
    cases hnot.1
  · exact hdone.2.2

theorem Kept.called (h : Kept c r) : r.log.countP isRecovery ≤ 1 := by
  rcases h.once with hnot | hdone
  · omega
  · exact hdone.2.1

/-- **One recovery per attempt, and none forgotten**, over every run of the owner in which it meets
    nothing but what it is prepared for. -/
theorem one_recovery (c : OwnerSetup) (ws : List OwnerWorld)
    (hexpected : ∀ n ∈ (call (run c ws) (started c)).2.2, Expected n) :
    OneRecovery c (call (run c ws) (started c)).1
      ⟨(call (run c ws) (started c)).2.1, (call (run c ws) (started c)).2.2⟩ := by
  refine call_spec (P := fun outcome r => (∀ n ∈ r.log, Expected n) → OneRecovery c outcome r)
    ((run_spec ws (kept_started c)).mono (fun returned t ht _ => ?_) fun error t ht hall => ?_)
    hexpected
  · refine ⟨ht.1.called, fun result hresult hlost => ?_, (fun _ herror => by cases herror),
      fun htwo hresult => ?_, ht.1.law.announced⟩
    · exact ht.1.recovered ((ht.2 result (Except.ok.inj hresult)).1 hlost)
    · exact (ht.2 .succeeded (Except.ok.inj hresult)).2 rfl htwo
  · refine ⟨ht.1.called, (fun _ hresult => by cases hresult), fun _ _ => ?_,
      (fun _ hresult => by cases hresult), ht.1.law.announced⟩
    rcases ht.2 with hbegun | ⟨n, hmem, hn⟩
    · exact ht.1.recovered hbegun
    · exact absurd (hall n hmem) hn

instance decidableExpected : DecidablePred Expected := fun n =>
  match n with
  | .clock .wait (.error error) => inferInstanceAs (Decidable (error = .clock))
  | .clock .wait (.ok _) => isTrue trivial
  | .clock .idle (.error error) => inferInstanceAs (Decidable (error ≠ .exception))
  | .clock .idle (.ok _) => isTrue trivial
  | .clock .command _ => isTrue trivial
  | .taken none => isTrue trivial
  | .taken (some (.envelope _)) => isTrue trivial
  | .taken (some (.foreign (some _))) => isTrue trivial
  | .taken (some (.foreign none)) => isFalse id
  | .turn => isTrue trivial
  | .observed _ _ _ => isTrue trivial
  | .handled _ _ => isTrue trivial
  | .permission _ => isTrue trivial
  | .recovery _ => isTrue trivial
  | .finalized _ _ => isTrue trivial
  | .terminal _ _ _ => isTrue trivial
  | .answered _ _ _ _ _ => isTrue trivial
  | .refused _ _ _ => isTrue trivial
  | .put _ => isTrue trivial

/-- `FM1` is not flown to its end: it fails, and the recovery is called. -/
theorem one_recovery_failed :
    (call (run seventh [worldOf (callbackOf fm1) false]) (started seventh)).1 = .ok (some .failed) ∧
      OneRecovery seventh (call (run seventh [worldOf (callbackOf fm1) false]) (started seventh)).1
        ⟨(call (run seventh [worldOf (callbackOf fm1) false]) (started seventh)).2.1,
          (call (run seventh [worldOf (callbackOf fm1) false]) (started seventh)).2.2⟩ :=
  ⟨by decide +kernel, one_recovery seventh _ (by decide +kernel)⟩

/-- How a run of the seventh attempt ends. -/
def endOf (ws : List OwnerWorld) : Acting CommandSystem OwnerNote :=
  ⟨(call (run seventh ws) (started seventh)).2.1, (call (run seventh ws) (started seventh)).2.2⟩

theorem not_one_recovery {ws : List OwnerWorld} (error : OwnerError)
    (herror : (call (run seventh ws) (started seventh)).1 = .error error)
    (hcount : (endOf ws).log.countP isRecovery = 0)
    (houtcome : (endOf ws).state.recoveryOutcome = none) :
    ¬ OneRecovery seventh (call (run seventh ws) (started seventh)).1 (endOf ws) := by
  intro h
  rcases h.raised error herror with hcalled | hrecorded
  · omega
  · rw [houtcome] at hrecorded
    cases hrecorded

/-- The clock raises this at one place, and is right at the others. -/
def clockRaising (wrong : ClockPlace) (error : OwnerRaised) : OwnerWorld :=
  { worldOf [] true with
    clock := fun place _ => if place = wrong then .error error else .ok (some 1) }

/-- In flight, after `FM1`, the clock raises a `TimeoutError` where it bounds the wait or something
    that nobody handles in the idle check; or there is something in the queue that has no command:
    the owner raises without a recovery. -/
theorem recovery_forgotten :
    (¬ OneRecovery seventh
      (call (run seventh [worldOf (callbackOf fm1) true, clockRaising .wait .timeout])
        (started seventh)).1
      (endOf [worldOf (callbackOf fm1) true, clockRaising .wait .timeout])) ∧
    (¬ OneRecovery seventh
      (call (run seventh [worldOf (callbackOf fm1) true, clockRaising .idle .exception])
        (started seventh)).1
      (endOf [worldOf (callbackOf fm1) true, clockRaising .idle .exception])) ∧
    ¬ OneRecovery seventh
      (call (run seventh [worldOf [.put (.foreign none)] true]) (started seventh)).1
      (endOf [worldOf [.put (.foreign none)] true]) := by
  refine ⟨?_, ?_, ?_⟩
  · exact not_one_recovery (.raised .timeout) (by decide +kernel) (by decide +kernel)
      (by decide +kernel)
  · exact not_one_recovery (.raised .exception) (by decide +kernel) (by decide +kernel)
      (by decide +kernel)
  · exact not_one_recovery (.raised .exception) (by decide +kernel) (by decide +kernel)
      (by decide +kernel)

end ExecutionOwner

end DroneSim
