/-
  File:      DroneSim/Artifacts/ArtifactsHonest.lean
  Subject:   Every status of the artifacts is written at most once, and only when it is due.

  `Recorded` ties the flags of a state to what was written: it is the invariant of all calls
  (`answer_recorded`). Within a `finalize` call, `Under` says what was noted since the call began; each
  part of the call adds to it, and `Warrant` is what it comes to before the final status is written.

  * `wp_boundedBagValidation` -- a valid bag was validated in time;
  * `wp_writeFinal` -- the final status is written once, with its warrant;
  * `artifacts_honest` -- over every sequence of calls, whatever the recorders, the validators and
    the clock do, each status is written at most once and on its warrant;
  * `late_video_valid` -- a video is valid though its validator was asked after the deadline.
-/
import DroneSim.Artifacts.AggregateRuntime
import DroneSim.Artifacts.StatusFields
import DroneSim.Library.Fallible

namespace DroneSim

open Library Library.Attempt Library.Acting

namespace AggregateRuntime

open ArtifactsNote (wrote finalizedVideo finalizedBag waitedForBag finalizing)

variable {α : Type} {c : ArtifactsSetup} {r : Acting ArtifactsState ArtifactsNote}
  {result : ValidatorResult}

/-! ## 1. What was written -/

def wroteReady : ArtifactsNote → Bool
  | .wrote .ready => true
  | _ => false

def wroteFinal : ArtifactsNote → Bool
  | .wrote (.final _) => true
  | _ => false

def wroteNotified : ArtifactsNote → Bool
  | .wrote .notified => true
  | _ => false

def wroteFailure : ArtifactsNote → Bool
  | .wrote (.failure _) => true
  | _ => false

def beganFinalizing : ArtifactsNote → Bool
  | .finalizing _ _ => true
  | _ => false

/-- No status is written. -/
def Quiet (n : ArtifactsNote) : Prop := ∀ status, n ≠ .wrote status

/-- The validator of the bag returned `VALID`, and after that the clock was before the deadline. -/
def ValidInTime (deadline : ℚ) (p : List ArtifactsNote) : Prop :=
  ∃ result earlier now later,
    p = earlier ++ waitedForBag deadline (some (.ok result)) :: .clock (.ok now) :: later ∧
      now < deadline ∧ result.status = .ok (some .valid)

/-- The validator of the stream was given the deadline, and returned `VALID`. -/
def ValidVideo (c : ArtifactsSetup) (outcome : String) (deadline : ℚ) (stream : VideoStream)
    (p : List ArtifactsNote) : Prop :=
  ∃ result, .validatedVideo stream (videoPath stream) c.expectedCameraFrames outcome deadline
    (.ok result) ∈ p ∧ result.status = .ok (some .valid)

/-- **What a `finalize` call came to** before its final status. -/
structure Warrant (c : ArtifactsSetup) (outcome : String) (deadline : ℚ)
    (records : List ArtifactFinalRecord) (p : List ArtifactsNote) : Prop where
  frozen : ArtifactsNote.frozen (.ok true) ∈ p
  finalized : ∀ stream, finalizedVideo stream deadline outcome ∈ p
  ended : ∃ finalization, finalizedBag deadline (.ok finalization) ∈ p ∧
    finalization.exited = .ok true ∧ finalization.shutdownRequested = .ok true
  videos : ∀ stream, ∀ record ∈ records, record.relativePath = videoPath stream →
    record.status = .valid → ValidVideo c outcome deadline stream p
  bag : ∀ record ∈ records, record.relativePath = "rosbag" → record.status = .valid →
    ValidInTime deadline p

/-- The latest `finalize` call, and what was noted since it began. -/
def Since (F : String → ℚ → List ArtifactsNote → Prop) (os : List ArtifactsNote) : Prop :=
  ∃ earlier outcome deadline p, os = earlier ++ finalizing outcome deadline :: p ∧
    (∀ n ∈ p, beganFinalizing n = false) ∧ F outcome deadline p

/-- What was read before the terminal is notified. -/
def Notifiable (c : ArtifactsSetup) (os : List ArtifactsNote) : Prop :=
  (∃ records, wrote (ArtifactsStatus.final records) ∈ os) ∧ ∃ committed manifest,
    .committed (.ok (some committed)) ∈ os ∧ ArtifactsNote.manifest (.ok manifest) ∈ os ∧
      agrees c committed manifest = true

/-- **The flags stand for what was written**, and nothing was written before it was due. -/
structure Recorded (c : ArtifactsSetup) (s : ArtifactsState) (os : List ArtifactsNote) : Prop where
  failures : os.countP wroteFailure = s.failureWritten.toNat
  readies : os.countP wroteReady = s.ready.toNat
  finals : os.countP wroteFinal = s.finalReport.isSome.toNat
  terminals : os.countP wroteNotified = s.terminal.toNat
  beforeReady : ∀ before after, os = before ++ wrote .ready :: after →
    before.countP wroteFailure = 0
  beforeFinal : ∀ before (records : FinalRecords) after,
    os = before ++ wrote (.final records) :: after →
    Since (fun outcome deadline => Warrant c outcome deadline records.records) before
  beforeNotified : ∀ before after, os = before ++ wrote .notified :: after → Notifiable c before

theorem Recorded.initial : Recorded c .initial [] := by
  refine ⟨rfl, rfl, rfl, rfl, ?_, ?_, ?_⟩
  · intro before after h
    simp at h
  · intro before records after h
    simp at h
  · intro before after h
    simp at h

/-- The flags that `Recorded` reads are the same. -/
structure SameFlags (s t : ArtifactsState) : Prop where
  failureWritten : t.failureWritten = s.failureWritten
  ready : t.ready = s.ready
  finalReport : t.finalReport.isSome = s.finalReport.isSome
  terminal : t.terminal = s.terminal

/-- The last item of a list, or one before. -/
theorem split_last {ο : Type} {os before after : List ο} {n x : ο}
    (h : os ++ [n] = before ++ x :: after) :
    (∃ rest, os = before ++ x :: rest) ∨ before = os ∧ n = x := by
  rcases split_append h with ⟨rest, hos, _⟩ | ⟨rest, hbefore, hlast⟩
  · exact Or.inl ⟨rest, hos⟩
  · cases rest with
    | nil => exact Or.inr ⟨by rw [hbefore, List.append_nil], (List.cons.inj hlast).1⟩
    | cons _ rest =>
      have hlength := congrArg List.length hlast
      simp at hlength

namespace Recorded

variable {s t : ArtifactsState} {os : List ArtifactsNote}

theorem flags (h : Recorded c s os) (hst : SameFlags s t) : Recorded c t os :=
  ⟨by rw [hst.failureWritten]; exact h.failures, by rw [hst.ready]; exact h.readies,
    by rw [hst.finalReport]; exact h.finals, by rw [hst.terminal]; exact h.terminals,
    h.beforeReady, h.beforeFinal, h.beforeNotified⟩

/-- **One more note**, with the flags that it stands for. -/
theorem note (h : Recorded c s os) {n : ArtifactsNote}
    (hfailures : t.failureWritten.toNat = s.failureWritten.toNat + (wroteFailure n).toNat)
    (hreadies : t.ready.toNat = s.ready.toNat + (wroteReady n).toNat)
    (hfinals : t.finalReport.isSome.toNat = s.finalReport.isSome.toNat + (wroteFinal n).toNat)
    (hterminals : t.terminal.toNat = s.terminal.toNat + (wroteNotified n).toNat)
    (hready : n = .wrote .ready → os.countP wroteFailure = 0)
    (hfinal : ∀ records : FinalRecords, n = .wrote (.final records) →
      Since (fun outcome deadline => Warrant c outcome deadline records.records) os)
    (hnotified : n = .wrote .notified → Notifiable c os) : Recorded c t (os ++ [n]) := by
  have hcount : ∀ f : ArtifactsNote → Bool,
      (os ++ [n]).countP f = os.countP f + (f n).toNat := by
    intro f
    rw [List.countP_append, List.countP_singleton]
    cases f n with
    | false => rfl
    | true => rfl
  refine ⟨?_, ?_, ?_, ?_, ?_, ?_, ?_⟩
  · rw [hcount, h.failures, hfailures]
  · rw [hcount, h.readies, hreadies]
  · rw [hcount, h.finals, hfinals]
  · rw [hcount, h.terminals, hterminals]
  · intro before after hsplit
    rcases split_last hsplit with ⟨rest, hos⟩ | ⟨rfl, hn⟩
    · exact h.beforeReady before rest hos
    · exact hready hn
  · intro before records after hsplit
    rcases split_last hsplit with ⟨rest, hos⟩ | ⟨rfl, hn⟩
    · exact h.beforeFinal before records rest hos
    · exact hfinal records hn
  · intro before after hsplit
    rcases split_last hsplit with ⟨rest, hos⟩ | ⟨rfl, hn⟩
    · exact h.beforeNotified before rest hos
    · exact hnotified hn

theorem quiet (h : Recorded c s os) {n : ArtifactsNote} (hn : Quiet n) :
    Recorded c s (os ++ [n]) := by
  have hfalse : ∀ f : ArtifactsNote → Bool, (f = wroteFailure ∨ f = wroteReady ∨ f = wroteFinal ∨
      f = wroteNotified) → f n = false := by
    intro f hf
    cases n with
    | wrote status => exact absurd rfl (hn status)
    | _ => rcases hf with rfl | rfl | rfl | rfl <;> rfl
  refine h.note ?_ ?_ ?_ ?_ ?_ ?_ ?_
  · rw [hfalse wroteFailure (by simp)]
    rfl
  · rw [hfalse wroteReady (by simp)]
    rfl
  · rw [hfalse wroteFinal (by simp)]
    rfl
  · rw [hfalse wroteNotified (by simp)]
    rfl
  · exact fun heq => absurd heq (hn _)
  · exact fun records heq => absurd heq (hn _)
  · exact fun heq => absurd heq (hn _)

end Recorded

/-! ## 2. Questions and failures -/

/-- The invariant of a computation under way. -/
def Rec (c : ArtifactsSetup) (r : Acting ArtifactsState ArtifactsNote) : Prop :=
  Recorded c r.state r.log

theorem wp_ask {answer : ℕ → Except Raised α} {note : Except Raised α → ArtifactsNote}
    {Q : α → Acting ArtifactsState ArtifactsNote → Prop}
    {E : Raised → Acting ArtifactsState ArtifactsNote → Prop}
    (hQ : ∀ a, Q a ⟨r.state, r.log ++ [note (.ok a)]⟩)
    (hE : ∀ error, E error ⟨r.state, r.log ++ [note (.error error)]⟩) :
    wp (ask answer note) Q E r := by
  unfold ask
  rw [wp_bind, wp_get, wp_bind, wp_perform]
  refine (wp_ofExcept _).mpr ⟨fun a ha => ?_, fun error he => ?_⟩
  · rw [ha]
    exact hQ a
  · rw [he]
    exact hE error

/-- What quiet notes do not take back. -/
def Lasting (P : Acting ArtifactsState ArtifactsNote → Prop) : Prop :=
  ∀ r n, P r → Quiet n → beganFinalizing n = false → P ⟨r.state, r.log ++ [n]⟩

theorem rec_lasting : Lasting (Rec c) := fun _ _ hr hn _ => Recorded.quiet hr hn

variable {P : Acting ArtifactsState ArtifactsNote → Prop}

theorem keeps_ask (hP : Lasting P) {answer : ℕ → Except Raised α}
    {note : Except Raised α → ArtifactsNote} (hnote : ∀ x, Quiet (note x))
    (hbegan : ∀ x, beganFinalizing (note x) = false) : Keeps P (ask answer note) :=
  fun r hr => wp_ask (fun a => hP r _ hr (hnote (.ok a)) (hbegan (.ok a)))
    fun error => hP r _ hr (hnote (.error error)) (hbegan (.error error))

theorem keeps_inquire (hP : Lasting P) (w : ArtifactsWorld) (question : ArtifactsQuestion) :
    Keeps P (inquire w question) := keeps_ask hP (fun _ _ => by simp) fun _ => rfl

theorem keeps_publish (hP : Lasting P) (w : ArtifactsWorld) (document : ArtifactStatusDocument) :
    Keeps P (publish w document) := keeps_ask hP (fun _ _ => by simp) fun _ => rfl

theorem keeps_now (hP : Lasting P) (w : ArtifactsWorld) : Keeps P (now w) :=
  keeps_ask hP (fun _ _ => by simp) fun _ => rfl

theorem keeps_exceptException {x : Artifacts α} {h : Raised → Artifacts α} (hx : Keeps P x)
    (hh : ∀ error, Keeps P (h error)) : Keeps P (exceptException x h) :=
  .tryCatch hx fun error => .ite (hh error) (.throw error)

/-- What a written failure does not take back either. -/
structure Outlasting (P : Acting ArtifactsState ArtifactsNote → Prop) : Prop where
  lasting : Lasting P
  failure : ∀ r failure, P r → r.state.failureWritten = false →
    P ⟨{ r.state with failureWritten := true }, r.log ++ [wrote (.failure failure)]⟩
  flags : ∀ r t, P r → SameFlags r.state t → P ⟨t, r.log⟩

theorem rec_outlasting : Outlasting (Rec c) := by
  refine ⟨rec_lasting, fun r failure hr hfalse => ?_, fun _ _ hr hst => Recorded.flags hr hst⟩
  refine Recorded.note hr ?_ rfl rfl rfl ?_ ?_ ?_
  · rw [hfalse]
    rfl
  · exact fun heq => by cases heq
  · exact fun _ heq => by cases heq
  · exact fun heq => by cases heq

theorem keeps_current_bind {β : Type} {f : ArtifactsState → Artifacts β}
    (h : ∀ s, Keeps P (f s)) : Keeps P (current >>= f) := fun r hr => by
  rw [wp_bind, wp_current]
  exact h r.state r hr

/-- **A failure is written once.** -/
theorem keeps_reportFailure (hP : Outlasting P) (reason : String) (paths : List String) :
    Keeps P (reportFailure reason paths) := by
  intro r hr
  unfold reportFailure
  rw [wp_bind, wp_current]
  split
  · exact hr
  · rename_i hfalse
    rw [wp_bind]
    refine (wp_ofExcept _).mpr ⟨fun failure _ => ?_, fun _ _ => hr⟩
    rw [wp_bind, wp_perform, wp_update]
    exact hP.failure r failure hr (Bool.not_eq_true _ ▸ hfalse)

theorem keeps_flags (hP : Outlasting P) {f : ArtifactsState → ArtifactsState}
    (hf : ∀ s, SameFlags s (f s)) : Keeps P (update f : Artifacts Unit) :=
  fun r hr => hP.flags r _ hr (hf r.state)

theorem keeps_reportPrematureBagExit (hP : Outlasting P) (reason : String) :
    Keeps P (reportPrematureBagExit reason) :=
  .bind (keeps_flags hP fun _ => ⟨rfl, rfl, rfl, rfl⟩) fun _ => keeps_reportFailure hP _ _

theorem keeps_block (hP : Outlasting P) : Keeps P block :=
  keeps_flags hP fun _ => ⟨rfl, rfl, rfl, rfl⟩

/-- Reported failures go through, and nothing is raised. -/
theorem wp_takeReports (hP : Outlasting P) (reports : List FailureReport) (hr : P r) :
    wp (takeReports reports) (fun _ => P) (fun _ _ => False) r := by
  induction reports generalizing r with
  | nil => exact hr
  | cons report reports ih =>
    unfold takeReports
    rw [wp_bind, wp_tryCatch]
    exact (keeps_reportFailure hP _ _ r hr).mono (fun _ _ ht => ih ht) fun _ _ ht => ih ht

theorem keeps_takeReports (hP : Outlasting P) (reports : List FailureReport) :
    Keeps P (takeReports reports) :=
  fun _ hr => (wp_takeReports hP reports hr).mono (fun _ _ ht => ht) fun _ _ hfalse => hfalse.elim

theorem keeps_get_bind {β : Type} {f : Acting ArtifactsState ArtifactsNote → Artifacts β}
    (h : ∀ t, Keeps P (f t)) : Keeps P (get >>= f) := fun r hr => by
  rw [wp_bind, wp_get]
  exact h r r hr

theorem keeps_inquireReporting (hP : Outlasting P) (w : ArtifactsWorld)
    (question : ArtifactsQuestion) : Keeps P (inquireReporting w question) :=
  keeps_get_bind fun _ => .bind (keeps_takeReports hP _) fun _ =>
    .bind (keeps_inquire hP.lasting w question) fun _ => .pure _

/-! ## 3. Start, health and readiness -/

theorem keeps_start (hP : Outlasting P) (w : ArtifactsWorld) (deadline : ℚ) :
    Keeps P (start w deadline) := by
  refine keeps_current_bind fun s => .ite (.throw _) (.bind (keeps_flags hP fun _ => ?_) fun _ => ?_)
  · exact ⟨rfl, rfl, rfl, rfl⟩
  · refine keeps_exceptException ?_ fun error => ?_
    · exact .bind (keeps_inquire hP.lasting w _) fun _ =>
        .bind (keeps_inquireReporting hP w _) fun _ => .pure true
    · exact .bind (keeps_reportFailure hP _ _) fun _ => .pure false

/-- **Where all recorders are well** nothing but questions was noted. -/
theorem wp_recordersReady (hP : Outlasting P) {N : Acting ArtifactsState ArtifactsNote → Prop}
    (hN : Lasting N) (w : ArtifactsWorld) (streams : List VideoStream) (hr : P r) (hNr : N r) :
    wp (recordersReady w streams) (fun b t => P t ∧ (b = true → N t)) (fun _ => P) r := by
  induction streams generalizing r with
  | nil => exact ⟨hr, fun _ => hNr⟩
  | cons stream streams ih =>
    unfold recordersReady
    rw [wp_bind]
    have hboth := (keeps_inquire hP.lasting w (.recorderReady stream) r hr).and
      (keeps_inquire hN w (.recorderReady stream) r hNr)
    refine hboth.mono (fun ready t ht => ?_) fun _ _ ht => ht.1
    cases ready with
    | true => exact ih ht.1 ht.2
    | false =>
      show wp (reportFailure _ _ >>= _) _ _ t
      rw [wp_bind]
      exact (keeps_reportFailure hP _ _ t ht.1).mono
        (fun _ _ hu => ⟨hu, fun hfalse => by cases hfalse⟩) fun _ _ hu => hu

theorem wp_checkHealth (hP : Outlasting P) {N : Acting ArtifactsState ArtifactsNote → Prop}
    (hN : Lasting N) (w : ArtifactsWorld) (hr : P r) (hNr : N r) :
    wp (checkHealth w) (fun b t => P t ∧ (b = true → N t)) (fun _ => P) r := by
  unfold checkHealth
  rw [wp_bind, wp_current]
  split
  · exact ⟨hr, fun hfalse => by cases hfalse⟩
  · rw [wp_bind]
    have hboth := (keeps_inquire hP.lasting w .bagAlive r hr).and
      (keeps_inquire hN w .bagAlive r hNr)
    refine hboth.mono (fun alive t ht => ?_) fun _ _ ht => ht.1
    cases alive with
    | true => exact wp_recordersReady hP hN w streams ht.1 ht.2
    | false =>
      show wp (reportPrematureBagExit _ >>= _) _ _ t
      rw [wp_bind]
      exact (keeps_reportPrematureBagExit hP _ t ht.1).mono
        (fun _ _ hu => ⟨hu, fun hfalse => by cases hfalse⟩) fun _ _ hu => hu

theorem keeps_checkHealth (hP : Outlasting P) (w : ArtifactsWorld) : Keeps P (checkHealth w) :=
  fun _ hr => (wp_checkHealth hP hP.lasting w hr hr).mono (fun _ _ ht => ht.1) fun _ _ ht => ht

theorem keeps_allHold (hP : Lasting P) (w : ArtifactsWorld) (questions : List ArtifactsQuestion) :
    Keeps P (allHold w questions) := by
  induction questions with
  | nil => exact .pure true
  | cons question questions ih =>
    exact .bind (keeps_inquire hP w question) fun _ => .ite ih (.pure false)

theorem keeps_undelivered (hP : Outlasting P) (w : ArtifactsWorld) : Keeps P (undelivered w) := by
  refine keeps_current_bind fun s => ?_
  cases s.startupDeadline with
  | none => exact .pure false
  | some deadline =>
    exact .bind (keeps_now hP.lasting w) fun _ =>
      .ite (.bind (keeps_reportFailure hP _ _) fun _ => .pure false) (.pure false)

/-- No failure is written, and the artifacts are not ready yet. -/
def Fresh (c : ArtifactsSetup) (r : Acting ArtifactsState ArtifactsNote) : Prop :=
  Rec c r ∧ r.state.failureWritten = false ∧ r.state.ready = false

theorem fresh_lasting : Lasting (Fresh c) :=
  fun _ _ hr hn _ => ⟨Recorded.quiet hr.1 hn, hr.2.1, hr.2.2⟩

/-- **Readiness is announced once**, and only while no failure is written. -/
theorem wp_announceReady (w : ArtifactsWorld) (hr : Fresh c r) :
    wp (announceReady w) (fun _ => Rec c) (fun _ => Rec c) r := by
  unfold announceReady
  rw [wp_bind]
  refine (keeps_allHold fresh_lasting w _ r hr).mono (fun ready t ht => ?_) fun _ _ ht => ht.1
  cases ready with
  | false => exact ht.1
  | true =>
    show wp (publish w readyDocument >>= _) _ _ t
    rw [wp_bind]
    refine (keeps_publish fresh_lasting w _ t ht).mono (fun _ u hu => ?_) fun _ _ hu => hu.1
    rw [wp_bind, wp_perform, wp_bind, wp_update]
    obtain ⟨hrec, hfailure, hready⟩ := hu
    refine Recorded.note hrec rfl ?_ rfl rfl (fun _ => ?_) (fun _ heq => by cases heq)
      fun heq => by cases heq
    · rw [hready]
      rfl
    · rw [hrec.failures, hfailure]
      rfl

theorem wp_checkDelivery (w : ArtifactsWorld) (hr : Fresh c r) :
    wp (checkDelivery w) (fun _ => Rec c) (fun _ => Rec c) r := by
  unfold checkDelivery
  rw [wp_bind, wp_current]
  split
  · rw [wp_bind]
    refine (keeps_inquire fresh_lasting w _ r hr).mono (fun delivered t ht => ?_) fun _ _ ht => ht.1
    cases delivered with
    | true => exact wp_announceReady w ht
    | false => exact keeps_undelivered rec_outlasting w t ht.1
  · rw [wp_bind]
    refine (keeps_publish fresh_lasting w _ r hr).mono (fun _ t ht => ?_) fun _ _ ht => ht.1
    rw [wp_bind, wp_update]
    exact Recorded.flags ht.1 ⟨rfl, rfl, rfl, rfl⟩

theorem keeps_checkReady (w : ArtifactsWorld) : Keeps (Rec c) (checkReady w) := by
  intro r hr
  unfold checkReady
  rw [wp_bind, wp_current]
  split
  · exact hr
  · rename_i hopen
    have hfresh : Fresh c r := by
      simp only [Bool.or_eq_true, not_or, Bool.not_eq_true] at hopen
      exact ⟨hr, hopen.1.2, hopen.2⟩
    rw [wp_bind]
    refine (wp_checkHealth rec_outlasting fresh_lasting w hr hfresh).mono (fun healthy t ht => ?_)
      fun _ _ ht => ht
    cases healthy with
    | false => exact ht.1
    | true =>
      show wp (inquire w .bagReady >>= _) _ _ t
      rw [wp_bind]
      refine (keeps_inquire fresh_lasting w _ t (ht.2 rfl)).mono (fun bagReady u hu => ?_)
        fun _ _ hu => hu.1
      cases bagReady with
      | false => exact hu.1
      | true => exact wp_checkDelivery w hu

/-! ## 4. Within a `finalize` call -/

/-- The final status is not written, and of what was noted since the call began `F` holds. -/
def Under (c : ArtifactsSetup) (outcome : String) (deadline : ℚ) (F : List ArtifactsNote → Prop)
    (r : Acting ArtifactsState ArtifactsNote) : Prop :=
  Rec c r ∧ r.state.finalReport.isSome = false ∧ ∃ earlier p,
    r.log = earlier ++ finalizing outcome deadline :: p ∧
      (∀ n ∈ p, beganFinalizing n = false) ∧ F p

/-- What further notes do not take back. -/
def Growing (F : List ArtifactsNote → Prop) : Prop := ∀ p n, F p → F (p ++ [n])

variable {outcome : String} {deadline : ℚ} {F G : List ArtifactsNote → Prop}
  {r : Acting ArtifactsState ArtifactsNote}

theorem Growing.mem (n : ArtifactsNote) : Growing fun p => n ∈ p :=
  fun _ _ h => List.mem_append_left _ h

theorem Growing.and (hF : Growing F) (hG : Growing G) : Growing fun p => F p ∧ G p :=
  fun p n h => ⟨hF p n h.1, hG p n h.2⟩

theorem Growing.imp {A : Prop} (hF : Growing F) : Growing fun p => A → F p :=
  fun p n h hA => hF p n (h hA)

theorem ValidVideo.growing (stream : VideoStream) :
    Growing (ValidVideo c outcome deadline stream) := by
  rintro p n ⟨result, hmem, hvalid⟩
  exact ⟨result, List.mem_append_left _ hmem, hvalid⟩

namespace Under

theorem weaken (h : Under c outcome deadline F r) (hFG : ∀ p, F p → G p) :
    Under c outcome deadline G r := by
  obtain ⟨hrec, hreport, earlier, p, hlog, hbegan, hF⟩ := h
  exact ⟨hrec, hreport, earlier, p, hlog, hbegan, hFG p hF⟩

/-- **One more note** of the call. -/
theorem note (h : Under c outcome deadline F r) {n : ArtifactsNote} (hn : Quiet n)
    (hbegan : beganFinalizing n = false) (hFG : ∀ p, F p → G (p ++ [n])) :
    Under c outcome deadline G ⟨r.state, r.log ++ [n]⟩ := by
  obtain ⟨hrec, hreport, earlier, p, hlog, hp, hF⟩ := h
  refine ⟨Recorded.quiet hrec hn, hreport, earlier, p ++ [n], ?_, ?_, hFG p hF⟩
  · show r.log ++ [n] = _
    rw [hlog, List.append_assoc]
    rfl
  · intro m hm
    rcases List.mem_append.mp hm with hm | hm
    · exact hp m hm
    · rw [List.mem_singleton.mp hm]
      exact hbegan

theorem outlasting (hF : Growing F) : Outlasting (Under c outcome deadline F) := by
  refine ⟨fun r n hr hn hbegan => hr.note hn hbegan fun p => hF p n, ?_, ?_⟩
  · rintro r failure ⟨hrec, hreport, earlier, p, hlog, hp, hFp⟩ hfalse
    refine ⟨rec_outlasting.failure r failure hrec hfalse, hreport, earlier,
      p ++ [wrote (.failure failure)], ?_, ?_, hF p _ hFp⟩
    · show r.log ++ _ = _
      rw [hlog, List.append_assoc]
      rfl
    · intro m hm
      rcases List.mem_append.mp hm with hm | hm
      · exact hp m hm
      · rw [List.mem_singleton.mp hm]
        rfl
  · rintro r t ⟨hrec, hreport, hrest⟩ hst
    exact ⟨Recorded.flags hrec hst, by rw [hst.finalReport]; exact hreport, hrest⟩

end Under

theorem keeps_freezeAll (hP : Outlasting P) (w : ArtifactsWorld) (streams : List VideoStream) :
    Keeps P (freezeAll w streams) := by
  induction streams with
  | nil => exact .pure ()
  | cons stream streams ih => exact .bind (keeps_inquireReporting hP w _) fun _ => ih

/-- **Finalizing a recorder was attempted**, whatever it came to. -/
theorem wp_finalizeRecorder (hF : Growing F) (w : ArtifactsWorld) (stream : VideoStream)
    (hr : Under c outcome deadline F r) :
    wp (finalizeRecorder w outcome deadline stream)
      (fun _ => Under c outcome deadline fun p => F p ∧ finalizedVideo stream deadline outcome ∈ p)
      (fun _ => Rec c) r := by
  have hgrowing : Growing fun p => F p ∧ finalizedVideo stream deadline outcome ∈ p :=
    hF.and (.mem _)
  have hnote : ∀ t, Under c outcome deadline F t →
      Under c outcome deadline (fun p => F p ∧ finalizedVideo stream deadline outcome ∈ p)
        ⟨t.state, t.log ++ [finalizedVideo stream deadline outcome]⟩ :=
    fun t ht => ht.note (fun _ => by simp) rfl fun p hp => ⟨hF p _ hp, by simp⟩
  unfold finalizeRecorder exceptException
  rw [wp_tryCatch, wp_bind, wp_get, wp_bind]
  refine (wp_takeReports (Under.outlasting hF) _ hr).mono (fun _ t ht => ?_)
    fun _ _ hfalse => hfalse.elim
  refine wp_ask (fun _ => hnote t ht) fun error => ?_
  split
  · exact (keeps_reportFailure (Under.outlasting hgrowing) _ _ _ (hnote t ht)).mono
      (fun _ _ hu => hu) fun _ _ hu => hu.1
  · exact (hnote t ht).1

/-- The bag came to its end by the shutdown that was requested. -/
def Ended (deadline : ℚ) (p : List ArtifactsNote) : Prop :=
  ∃ finalization, finalizedBag deadline (.ok finalization) ∈ p ∧
    finalization.exited = .ok true ∧ finalization.shutdownRequested = .ok true

theorem Ended.growing : Growing (Ended deadline) := by
  rintro p n ⟨finalization, hmem, hended⟩
  exact ⟨finalization, List.mem_append_left _ hmem, hended⟩

theorem wp_finalizeBagRecorder (hF : Growing F) (w : ArtifactsWorld)
    (hr : Under c outcome deadline F r) :
    wp (finalizeBagRecorder w deadline)
      (fun finalization t => Rec c t ∧ ∀ f, finalization = some f →
        Under c outcome deadline (fun p => F p ∧ finalizedBag deadline (.ok f) ∈ p) t)
      (fun _ => Rec c) r := by
  unfold finalizeBagRecorder exceptException
  rw [wp_tryCatch, wp_bind]
  refine wp_ask (fun finalization => ?_) fun error => ?_
  · have hnote : Under c outcome deadline
        (fun p => F p ∧ finalizedBag deadline (.ok finalization) ∈ p)
        ⟨r.state, r.log ++ [finalizedBag deadline (.ok finalization)]⟩ :=
      hr.note (fun _ => by simp) rfl fun p hp => ⟨hF p _ hp, by simp⟩
    refine ⟨hnote.1, fun f hf => ?_⟩
    cases hf
    exact hnote
  · have hrec : Rec c ⟨r.state, r.log ++ [finalizedBag deadline (.error error)]⟩ :=
      Recorded.quiet hr.1 fun _ => by simp
    split
    · rw [wp_bind]
      refine (keeps_reportFailure rec_outlasting _ _ _ hrec).mono (fun _ t ht => ?_)
        fun _ _ ht => ht
      rw [wp_bind]
      refine (keeps_block rec_outlasting t ht).mono (fun _ u hu => ?_) fun _ _ hu => hu
      exact ⟨hu, fun _ hf => by cases hf⟩
    · exact hrec

/-- **Where the bag ended**, it was by the shutdown that was requested. -/
theorem wp_bagEnded (hF : Growing F) (w : ArtifactsWorld) (hr : Under c outcome deadline F r) :
    wp (bagEnded w deadline)
      (fun b t => Rec c t ∧
        (b = true → Under c outcome deadline (fun p => F p ∧ Ended deadline p) t))
      (fun _ => Rec c) r := by
  have hblocked : ∀ {x : Artifacts Unit} (t : Acting ArtifactsState ArtifactsNote),
      Keeps (Rec c) x → Rec c t →
      wp (do
        x
        block
        return false) (fun b t => Rec c t ∧
          (b = true → Under c outcome deadline (fun p => F p ∧ Ended deadline p) t))
        (fun _ => Rec c) t := by
    intro x t hx ht
    rw [wp_bind]
    refine (hx t ht).mono (fun _ u hu => ?_) fun _ _ hu => hu
    rw [wp_bind]
    exact (keeps_block rec_outlasting u hu).mono
      (fun _ _ hv => ⟨hv, fun hfalse => by cases hfalse⟩) fun _ _ hv => hv
  unfold bagEnded
  rw [wp_bind]
  refine (wp_finalizeBagRecorder hF w hr).mono (fun finalization t ht => ?_) fun _ _ ht => ht
  cases finalization with
  | none => exact ⟨ht.1, fun hfalse => by cases hfalse⟩
  | some f =>
    show wp (look f.exited >>= _) _ _ t
    rw [wp_bind]
    refine (wp_ofExcept _).mpr ⟨fun exited hexited => ?_, fun _ _ => ht.1⟩
    cases exited with
    | true =>
      show wp (look f.shutdownRequested >>= _) _ _ t
      rw [wp_bind]
      refine (wp_ofExcept _).mpr ⟨fun requested hrequested => ?_, fun _ _ => ht.1⟩
      cases requested with
      | true =>
        exact ⟨ht.1, fun _ => (ht.2 f rfl).weaken fun p hp => ⟨hp.1, f, hp.2, hexited, hrequested⟩⟩
      | false => exact hblocked t (keeps_reportPrematureBagExit rec_outlasting _) ht.1
    | false =>
      show wp (look f.detail >>= _) _ _ t
      rw [wp_bind]
      refine (wp_ofExcept _).mpr ⟨fun detail _ => ?_, fun _ _ => ht.1⟩
      exact hblocked t (keeps_reportFailure rec_outlasting _ _) ht.1

/-! ## 5. Results and records -/

/-- A result that is not made here comes from the validator of the stream. -/
theorem wp_validated (hF : Growing F) (w : ArtifactsWorld) (stream : VideoStream)
    (hr : Under c outcome deadline F r) :
    wp (validated w c stream outcome deadline)
      (fun result => Under c outcome deadline fun p => F p ∧
        (result.status = .ok (some .valid) → ValidVideo c outcome deadline stream p))
      (fun _ => Rec c) r := by
  unfold validated exceptException
  rw [wp_tryCatch]
  refine wp_ask (fun result => ?_) fun error => ?_
  · exact hr.note (fun _ => by simp) rfl fun p hp =>
      ⟨hF p _ hp, fun hvalid => ⟨result, by simp, hvalid⟩⟩
  · split
    · exact hr.note (fun _ => by simp) rfl fun p hp =>
        ⟨hF p _ hp, fun hvalid => by simp [invalidResult] at hvalid⟩
    · exact Recorded.quiet hr.1 fun _ => by simp

theorem faultProxy_invalid {result proxy : ValidatorResult} (h : faultProxy result = .ok proxy) :
    proxy.status ≠ .ok (some .valid) := by
  obtain ⟨size, _, h⟩ := bind_ok h
  obtain ⟨digest, _, h⟩ := bind_ok h
  obtain ⟨values, _, h⟩ := bind_ok h
  obtain ⟨diagnostics, _, h⟩ := bind_ok h
  obtain rfl := Except.ok.inj h
  simp

theorem wp_videoResult (hF : Growing F) (w : ArtifactsWorld) (stream : VideoStream)
    (hr : Under c outcome deadline F r) :
    wp (videoResult w c stream outcome deadline)
      (fun result => Under c outcome deadline fun p => F p ∧
        (result.status = .ok (some .valid) → ValidVideo c outcome deadline stream p))
      (fun _ => Rec c) r := by
  unfold videoResult
  rw [wp_bind]
  refine (wp_validated hF w stream hr).mono (fun result t ht => ?_) fun _ _ ht => ht
  split
  · have hgrowing : Growing fun p => F p ∧
        (result.status = .ok (some .valid) → ValidVideo c outcome deadline stream p) :=
      hF.and (.imp (ValidVideo.growing stream))
    rw [wp_bind]
    refine (keeps_inquire (Under.outlasting hgrowing).lasting w _ t ht).mono
      (fun failed u hu => ?_) fun _ _ hu => hu.1
    cases failed with
    | false => exact hu
    | true =>
      refine (wp_ofExcept _).mpr ⟨fun proxy hproxy => ?_, fun _ _ => hu.1⟩
      exact hu.weaken fun p hp => ⟨hp.1, fun hvalid => absurd hvalid (faultProxy_invalid hproxy)⟩
  · exact ht

theorem threadResult_valid {answer : Except Raised ValidatorResult}
    (h : threadResult answer = .ok result) (hvalid : result.status = .ok (some .valid)) :
    answer = .ok result := by
  unfold threadResult at h
  split at h
  · obtain rfl := Except.ok.inj h
    rfl
  · split at h
    · obtain rfl := Except.ok.inj h
      simp [invalidResult] at hvalid
    · cases h

/-- **A valid bag was validated in time.** -/
theorem wp_boundedBagValidation (hF : Growing F) (w : ArtifactsWorld)
    (hr : Under c outcome deadline F r) :
    wp (boundedBagValidation w deadline)
      (fun result => Under c outcome deadline fun p => F p ∧
        (result.status = .ok (some .valid) → ValidInTime deadline p))
      (fun _ => Rec c) r := by
  have hlate : ∀ {t}, Under c outcome deadline F t →
      Under c outcome deadline (fun p => F p ∧
        ((invalidResult "bag validation exceeded finalization deadline").status =
          .ok (some .valid) → ValidInTime deadline p)) t :=
    fun ht => ht.weaken fun p hp => ⟨hp, fun hvalid => by simp [invalidResult] at hvalid⟩
  unfold boundedBagValidation
  rw [wp_bind]
  refine (keeps_now (Under.outlasting hF).lasting w r hr).mono (fun _ t ht => ?_)
    fun _ _ ht => ht.1
  rw [wp_bind, wp_get]
  dsimp only
  rw [wp_bind, wp_perform]
  have hwaited : Under c outcome deadline
      (fun p => F p ∧ ∃ q, p = q ++ [waitedForBag deadline (w.waitForBag t.log.length)])
      ⟨t.state, t.log ++ [waitedForBag deadline (w.waitForBag t.log.length)]⟩ :=
    ht.note (fun _ => by simp) rfl fun p hp => ⟨hF p _ hp, p, rfl⟩
  cases hanswer : w.waitForBag t.log.length with
  | none =>
    rw [hanswer] at hwaited
    exact hlate (hwaited.weaken fun _ hp => hp.1)
  | some answer =>
    rw [hanswer] at hwaited
    show wp (now w >>= _) _ _ _
    rw [wp_bind]
    refine wp_ask (fun time => ?_) fun error => Recorded.quiet hwaited.1 fun _ => by simp
    have hclock : Under c outcome deadline
        (fun p => F p ∧ ∃ q, p = q ++ [waitedForBag deadline (some answer), .clock (.ok time)])
        ⟨t.state, t.log ++ [waitedForBag deadline (some answer)] ++ [ArtifactsNote.clock (.ok time)]⟩ := by
      refine hwaited.note (fun _ => by simp) rfl ?_
      rintro p ⟨hp, q, rfl⟩
      exact ⟨hF _ _ hp, q, by simp⟩
    split
    · exact hlate (hclock.weaken fun _ hp => hp.1)
    · rename_i hearly
      refine (wp_ofExcept _).mpr ⟨fun result hresult => ?_, fun _ _ => hclock.1⟩
      refine hclock.weaken ?_
      rintro p ⟨hp, q, rfl⟩
      refine ⟨hp, fun hvalid => ?_⟩
      obtain rfl := threadResult_valid hresult hvalid
      exact ⟨result, q, time, [], rfl, Rat.not_le.mp hearly, hvalid⟩

/-- **A record is as valid as the result** that it is made of. -/
theorem record_eq_ok {path : String} {semantic : PyValue} {row : ArtifactFinalRecord}
    (h : record path result semantic = .ok row) :
    row.relativePath = path ∧ result.status = .ok (some row.status) := by
  obtain ⟨status, hstatus, h⟩ := bind_ok h
  obtain ⟨detail, _, h⟩ := bind_ok h
  obtain ⟨size, _, h⟩ := bind_ok h
  obtain ⟨sha256, _, h⟩ := bind_ok h
  cases status with
  | none => cases h
  | some status =>
    change (ArtifactFinalRecord.make (.str path) status detail size sha256 semantic).mapError
      statusError = .ok row at h
    have hmade : ArtifactFinalRecord.make (.str path) status detail size sha256 semantic =
        .ok row := by
      cases hmake : ArtifactFinalRecord.make (.str path) status detail size sha256 semantic with
      | error text =>
        rw [hmake] at h
        cases h
      | ok made =>
        rw [hmake] at h
        obtain rfl := Except.ok.inj h
        rfl
    obtain ⟨hpath, rfl, _⟩ := ArtifactFinalRecord.make_eq_ok.mp hmade
    exact ⟨(PyValue.str.inj hpath).symm, hstatus⟩

theorem videoRecord_eq_ok {stream : VideoStream} {row : ArtifactFinalRecord}
    (h : videoRecord stream result = .ok row) :
    row.relativePath = videoPath stream ∧ result.status = .ok (some row.status) := by
  obtain ⟨semantic, _, h⟩ := bind_ok h
  exact record_eq_ok h

theorem bagRecord_eq_ok {row : ArtifactFinalRecord} (h : bagRecord result = .ok row) :
    row.relativePath = "rosbag" ∧ result.status = .ok (some row.status) := by
  obtain ⟨semantic, _, h⟩ := bind_ok h
  exact record_eq_ok h

theorem finalRecords_eq_ok {rows : List ArtifactFinalRecord} {records : FinalRecords}
    (h : finalRecords rows = .ok records) : records.records = rows := by
  unfold finalRecords at h
  split at h
  · obtain rfl := Except.ok.inj h
    rfl
  · cases h

/-! ## 6. The calls -/

/-- **The final status is written once**, with its warrant. -/
theorem wp_writeFinal (hF : Growing F) (w : ArtifactsWorld)
    (hwarrant : ∀ p, F p → ArtifactsNote.frozen (.ok true) ∈ p ∧
      (∀ stream, finalizedVideo stream deadline outcome ∈ p) ∧ Ended deadline p)
    (hr : Under c outcome deadline F r) :
    wp (writeFinal w c outcome deadline) (fun _ => Rec c) (fun _ => Rec c) r := by
  unfold writeFinal
  rw [wp_bind]
  refine (wp_videoResult hF w .onboard hr).mono (fun onboard t ht => ?_) fun _ _ ht => ht
  have hgrowing : Growing (ValidVideo c outcome deadline .onboard) := ValidVideo.growing .onboard
  have hF := hF.and (Growing.imp (A := onboard.status = .ok (some .valid)) hgrowing)
  rw [wp_bind]
  refine (wp_videoResult hF w .observer ht).mono (fun observer t ht => ?_) fun _ _ ht => ht
  have hgrowing : Growing (ValidVideo c outcome deadline .observer) := ValidVideo.growing .observer
  have hF := hF.and (Growing.imp (A := observer.status = .ok (some .valid)) hgrowing)
  rw [wp_bind]
  refine (wp_boundedBagValidation hF w ht).mono (fun bag t ht => ?_) fun _ _ ht => ht
  rw [wp_bind]
  refine (wp_ofExcept _).mpr ⟨fun first hfirst => ?_, fun _ _ => ht.1⟩
  rw [wp_bind]
  refine (wp_ofExcept _).mpr ⟨fun second hsecond => ?_, fun _ _ => ht.1⟩
  rw [wp_bind]
  refine (wp_ofExcept _).mpr ⟨fun third hthird => ?_, fun _ _ => ht.1⟩
  rw [wp_bind]
  refine (wp_ofExcept _).mpr ⟨fun records hrecords => ?_, fun _ _ => ht.1⟩
  rw [wp_bind]
  refine (wp_ofExcept _).mpr ⟨fun report _ => ?_, fun _ _ => ht.1⟩
  rw [wp_bind, wp_perform, wp_bind, wp_update]
  obtain ⟨hrec, hreport, earlier, p, hlog, hbegan, ⟨⟨hFp, honboard⟩, hobserver⟩, hbag⟩ := ht
  obtain ⟨hpath₁, hstatus₁⟩ := videoRecord_eq_ok hfirst
  obtain ⟨hpath₂, hstatus₂⟩ := videoRecord_eq_ok hsecond
  obtain ⟨hpath₃, hstatus₃⟩ := bagRecord_eq_ok hthird
  obtain ⟨hfrozen, hfinalized, hended⟩ := hwarrant p hFp
  refine Recorded.note hrec rfl rfl ?_ rfl (fun heq => by cases heq) (fun rows heq => ?_)
    fun heq => by cases heq
  · rw [hreport]
    rfl
  · cases heq
    have hwarranted : Warrant c outcome deadline records.records p := by
      rw [finalRecords_eq_ok hrecords]
      refine ⟨hfrozen, hfinalized, hended, ?_, ?_⟩
      · intro stream row hrow hpath hvalid
        simp only [List.mem_cons, List.not_mem_nil, or_false] at hrow
        rcases hrow with rfl | rfl | rfl
        · rw [hpath₁] at hpath
          cases stream with
          | onboard => exact honboard (by rw [hstatus₁, hvalid])
          | observer => exact absurd hpath (by decide)
        · rw [hpath₂] at hpath
          cases stream with
          | onboard => exact absurd hpath (by decide)
          | observer => exact hobserver (by rw [hstatus₂, hvalid])
        · rw [hpath₃] at hpath
          cases stream with
          | onboard => exact absurd hpath (by decide)
          | observer => exact absurd hpath (by decide)
      · intro row hrow hpath hvalid
        simp only [List.mem_cons, List.not_mem_nil, or_false] at hrow
        rcases hrow with rfl | rfl | rfl
        · rw [hpath₁] at hpath
          exact absurd hpath (by decide)
        · rw [hpath₂] at hpath
          exact absurd hpath (by decide)
        · exact hbag (by rw [hstatus₃, hvalid])
    exact ⟨earlier, outcome, deadline, p, hlog, hbegan, hwarranted⟩

theorem wp_finalizeFrozen (w : ArtifactsWorld)
    (hr : Under c outcome deadline (fun p => .frozen (.ok true) ∈ p) r) :
    wp (finalizeFrozen w c outcome deadline) (fun _ => Rec c) (fun _ => Rec c) r := by
  have hfrozen : Growing fun p => .frozen (.ok true) ∈ p := .mem _
  have hkeeps : Outlasting (Under c outcome deadline fun p => .frozen (.ok true) ∈ p) :=
    Under.outlasting hfrozen
  unfold finalizeFrozen
  rw [wp_bind, wp_update, wp_bind]
  have hstarted := hkeeps.flags r { r.state with finalizationStarted := true } hr
    ⟨rfl, rfl, rfl, rfl⟩
  refine (keeps_inquire hkeeps.lasting w _ _ hstarted).mono (fun alive t ht => ?_) fun _ _ ht => ht.1
  have hrest : ∀ t, Under c outcome deadline (fun p => .frozen (.ok true) ∈ p) t →
      wp (do
        freezeAll w streams
        finalizeRecorders w outcome deadline streams
        let s ← current
        if s.prematureBagExit then do
          block
          return none
        else do
          let ended ← bagEnded w deadline
          if ended then writeFinal w c outcome deadline else return none)
        (fun _ => Rec c) (fun _ => Rec c) t := by
    intro t ht
    rw [wp_bind]
    refine (keeps_freezeAll hkeeps w _ t ht).mono (fun _ t ht => ?_) fun _ _ ht => ht.1
    show wp ((do
      finalizeRecorder w outcome deadline .onboard
      finalizeRecorders w outcome deadline [.observer]) >>= _) _ _ t
    rw [wp_bind, wp_bind]
    refine (wp_finalizeRecorder hfrozen w .onboard ht).mono (fun _ t ht => ?_) fun _ _ ht => ht
    have hfirst := hfrozen.and (.mem (.finalizedVideo .onboard deadline outcome))
    show wp (finalizeRecorder w outcome deadline .observer >>= _) _ _ t
    rw [wp_bind]
    refine (wp_finalizeRecorder hfirst w .observer ht).mono (fun _ t ht => ?_) fun _ _ ht => ht
    have hboth := hfirst.and (.mem (.finalizedVideo .observer deadline outcome))
    show wp (current >>= _) _ _ t
    rw [wp_bind, wp_current]
    split
    · rw [wp_bind]
      exact (keeps_block rec_outlasting t ht.1).mono (fun _ _ hu => hu) fun _ _ hu => hu
    · rw [wp_bind]
      refine (wp_bagEnded hboth w ht).mono (fun ended t ht => ?_) fun _ _ ht => ht
      cases ended with
      | false => exact ht.1
      | true =>
        refine wp_writeFinal (hboth.and Ended.growing) w ?_ (ht.2 rfl)
        rintro p ⟨⟨⟨hfrozen, honboard⟩, hobserver⟩, hended⟩
        refine ⟨hfrozen, fun stream => ?_, hended⟩
        cases stream with
        | onboard => exact honboard
        | observer => exact hobserver
  cases alive with
  | true => exact hrest t ht
  | false =>
    show wp (reportPrematureBagExit _ >>= _) _ _ t
    rw [wp_bind]
    exact (keeps_reportPrematureBagExit hkeeps _ t ht).mono (fun _ u hu => hrest u hu)
      fun _ _ hu => hu.1

theorem keeps_finalize (w : ArtifactsWorld) (outcome : String) (deadline : ℚ) :
    Keeps (Rec c) (finalize w c outcome deadline) := by
  intro r hr
  unfold finalize
  rw [wp_bind, wp_perform, wp_bind, wp_current]
  have hrec : Rec c ⟨r.state, r.log ++ [finalizing outcome deadline]⟩ :=
    Recorded.quiet hr fun _ => by simp
  cases hreport : r.state.finalReport with
  | some report => exact hrec
  | none =>
    dsimp only
    split
    · exact hrec
    · rw [wp_bind]
      have hunder : Under c outcome deadline (fun p => p = [])
          ⟨r.state, r.log ++ [finalizing outcome deadline]⟩ :=
        ⟨hrec, by rw [hreport]; rfl, r.log, [], rfl, (fun _ h => by cases h), rfl⟩
      refine wp_ask (fun frozen => ?_) fun error => Recorded.quiet hrec fun _ => by simp
      have hnote : Under c outcome deadline (fun p => .frozen (.ok frozen) ∈ p)
          ⟨r.state, r.log ++ [finalizing outcome deadline] ++ [ArtifactsNote.frozen (.ok frozen)]⟩ :=
        hunder.note (fun _ => by simp) rfl fun p _ => by simp
      cases frozen with
      | false => exact hnote.1
      | true => exact wp_finalizeFrozen w hnote

/-- **The terminal is notified once**, after what it notifies of was read. -/
theorem keeps_pollTerminal (w : ArtifactsWorld) : Keeps (Rec c) (pollTerminal w c) := by
  intro r hr
  unfold pollTerminal
  rw [wp_bind, wp_current]
  split
  · exact hr
  · rename_i hterminal
    have hterminal := Bool.not_eq_true _ ▸ hterminal
    split
    · exact hr
    · rename_i hreport
      have hfinal : ∃ records, wrote (ArtifactsStatus.final records) ∈ r.log := by
        have hcount : 0 < r.log.countP wroteFinal := by
          rw [hr.finals]
          cases hsome : r.state.finalReport with
          | none => simp [hsome] at hreport
          | some report => exact Nat.one_pos
        obtain ⟨n, hmem, hn⟩ := List.countP_pos_iff.mp hcount
        unfold wroteFinal at hn
        split at hn
        · exact ⟨_, hmem⟩
        · cases hn
      rw [wp_bind]
      refine wp_ask (fun committed => ?_) fun error => Recorded.quiet hr fun _ => by simp
      have hcommitted : Rec c ⟨r.state, r.log ++ [ArtifactsNote.committed (.ok committed)]⟩ :=
        Recorded.quiet hr fun _ => by simp
      cases committed with
      | none => exact hcommitted
      | some committed =>
        show wp (notify w c committed) _ _ _
        unfold notify
        rw [wp_bind]
        refine wp_ask (fun manifest => ?_) fun error => Recorded.quiet hcommitted fun _ => by simp
        -- what was read, and the flag that is still down
        let N : Acting ArtifactsState ArtifactsNote → Prop := fun t =>
          Rec c t ∧ t.state.terminal = false ∧ (∃ records, wrote (ArtifactsStatus.final records) ∈ t.log) ∧
            .committed (.ok (some committed)) ∈ t.log ∧ ArtifactsNote.manifest (.ok manifest) ∈ t.log
        have hN : Lasting N := by
          rintro t n ⟨hrec, hflag, ⟨records, hrecords⟩, hread⟩ hn _
          exact ⟨Recorded.quiet hrec hn, hflag, ⟨records, List.mem_append_left _ hrecords⟩,
            List.mem_append_left _ hread.1, List.mem_append_left _ hread.2⟩
        have hread : N ⟨r.state, r.log ++ [ArtifactsNote.committed (.ok (some committed))] ++
            [ArtifactsNote.manifest (.ok manifest)]⟩ := by
          obtain ⟨records, hmem⟩ := hfinal
          exact ⟨Recorded.quiet hcommitted fun _ => by simp, hterminal, ⟨records, by simp [hmem]⟩,
            by simp, by simp⟩
        split
        · rename_i hagrees
          rw [wp_bind, wp_current, wp_bind]
          refine (wp_ofExcept _).mpr ⟨fun document _ => ?_, fun _ _ => hread.1⟩
          rw [wp_bind]
          refine (keeps_publish hN w document _ hread).mono (fun _ t ht => ?_) fun _ _ ht => ht.1
          rw [wp_bind, wp_perform, wp_bind, wp_update]
          obtain ⟨hrec, hflag, hrecords, hmems⟩ := ht
          refine Recorded.note hrec rfl rfl rfl ?_ (fun heq => by cases heq)
            (fun _ heq => by cases heq) fun _ => ?_
          · rw [hflag]
            rfl
          · exact ⟨hrecords, committed, manifest, hmems.1, hmems.2, hagrees⟩
        · exact hread.1

/-- **Every call keeps it.** -/
theorem keeps_answer (i : Input) : Keeps (Rec c) (answer c i) := by
  have hdrop : ∀ {β : Type} {x : Artifacts β}, Keeps (Rec c) x →
      Keeps (Rec c) (do
        let _ ← x) := fun hx => .bind hx fun _ => .pure _
  cases i with
  | start w deadline => exact hdrop (keeps_start rec_outlasting w deadline)
  | checkReady w => exact hdrop (keeps_checkReady w)
  | checkHealth w => exact hdrop (keeps_checkHealth rec_outlasting w)
  | finalize w outcome deadline => exact hdrop (keeps_finalize w outcome deadline)
  | pollTerminal w => exact hdrop (keeps_pollTerminal w)
  | reportFailure reason paths => exact keeps_reportFailure rec_outlasting reason paths

/-- **The calls keep it.** -/
theorem keeps_session (is : List Input) : Keeps (Rec c) (session c is) := by
  induction is with
  | nil => exact .pure ()
  | cons i is ih => exact .bind (.tryCatch (keeps_answer i) fun _ => .pure ()) fun _ => ih

theorem noted_recorded (c : ArtifactsSetup) (is : List Input) :
    Recorded c (call (session c is) .initial).2.1 (noted c is) :=
  call_state (P := Rec c) (keeps_session is _ Recorded.initial)

/-- **The artifacts are finalized honestly and once**, whatever the recorders, the validators and the
    files that are read do. -/
theorem artifacts_honest (c : ArtifactsSetup) (is : List Input) :
    (noted c is).countP wroteReady ≤ 1 ∧ (noted c is).countP wroteFinal ≤ 1 ∧
      (noted c is).countP wroteNotified ≤ 1 ∧ (noted c is).countP wroteFailure ≤ 1 ∧
      (∀ before after, noted c is = before ++ wrote .ready :: after →
        before.countP wroteFailure = 0) ∧
      (∀ before (records : FinalRecords) after,
        noted c is = before ++ wrote (.final records) :: after →
        Since (fun outcome deadline => Warrant c outcome deadline records.records) before) ∧
      ∀ before after, noted c is = before ++ wrote .notified :: after → Notifiable c before := by
  have h := noted_recorded c is
  refine ⟨?_, ?_, ?_, ?_, h.beforeReady, h.beforeFinal, h.beforeNotified⟩
  · rw [h.readies]
    exact Bool.toNat_le _
  · rw [h.finals]
    exact Bool.toNat_le _
  · rw [h.terminals]
    exact Bool.toNat_le _
  · rw [h.failures]
    exact Bool.toNat_le _

/-! ## 7. A late validator -/

/-- A result that is valid. -/
def validResult : ValidatorResult where
  status := .ok (some .valid)
  getattr name :=
    if name = "detail" then .ok (.str "valid")
    else if name = "size_bytes" then .ok (.int 1)
    else if name = "sha256" then .ok (.str (String.ofList (List.replicate 64 '0')))
    else .error ⟨true, "AttributeError", name⟩
  diagnostics := .ok []
  topics := .ok []

/-- All goes well at 5 seconds, only that the first status is never acknowledged. -/
def lateWorld : ArtifactsWorld where
  ask question _ := .ok (decide (question ≠ .initialStatusDelivered ∧ question ≠ .failedByFault))
  reports _ _ := []
  clock _ := .ok 5
  publish _ := .ok ()
  frozen _ := .ok true
  finalizeVideo _ _ := .ok ()
  videoReports _ _ := []
  finalizeBag _ := .ok ⟨.ok true, .ok true, .ok ""⟩
  validateVideo _ _ := .ok validResult
  waitForBag _ := some (.ok validResult)
  committed _ := .ok none
  manifest _ := .ok []

def lateSetup : ArtifactsSetup :=
  ⟨"00000000-0000-4000-8000-000000000000", by decide, 40⟩

/-- The clock is read at 5 seconds, and the call with its deadline at 3 follows. -/
def lateCalls : List Input :=
  [.start lateWorld 10, .checkReady lateWorld, .checkReady lateWorld,
    .finalize lateWorld "COMPLETED" 3]

/-- The clock was past this time. -/
def clockPast (time : ℚ) : ArtifactsNote → Bool
  | .clock (.ok now) => decide (time < now)
  | _ => false

def askedVideo (deadline : ℚ) : ArtifactsNote → Bool
  | .validatedVideo .onboard _ _ _ given _ => decide (given = deadline)
  | _ => false

/-- The final status has a valid record under this path. -/
def wroteValid (path : String) : ArtifactsNote → Bool
  | .wrote (.final records) =>
    records.records.any fun row => decide (row.relativePath = path) && decide (row.status = .valid)
  | _ => false

/-- **A video is valid though its validator was asked after the deadline.** -/
theorem late_video_valid : ∃ earlier later, noted lateSetup lateCalls = earlier ++ later ∧
    earlier.any (clockPast 3) = true ∧ earlier.any (askedVideo 3) = false ∧
    later.any (askedVideo 3) = true ∧ later.any (wroteValid "video/onboard.mp4") = true := by
  refine ⟨(noted lateSetup lateCalls).take 13, (noted lateSetup lateCalls).drop 13,
    (List.take_append_drop _ _).symm, ?_, ?_, ?_, ?_⟩
  · decide +kernel
  · decide +kernel
  · decide +kernel
  · decide +kernel

end AggregateRuntime

end DroneSim
