/-
  File:      DroneSim/Scorekeeper/FinalizerOrder.lean
  Subject:   What a finalization puts out, in which order, and how often.

  `plan` is what the finalization of a result comes to when nothing raises. What is noted over a whole
  run follows the plan of one result (`Follows`): it is a beginning of it, and at most its last note
  stands for something that raised. `Stage` is the invariant, `answer_keeps` its step, and
  `finalization_honest` what follows of every run.
-/
import DroneSim.Scorekeeper.ScoreFinalizer

namespace DroneSim

open Library Library.Attempt Library.Acting

namespace ScoreFinalizer

variable {ε α : Type} {printer : FloatPrinter} {runId : String}
  {r : Acting FinalizerState FinalizerNote} {w : FinalizerWorld ε} {result : ScoreResult}
  {E : FinalizerError ε → Acting FinalizerState FinalizerNote → Prop}

/-! ## 1. The plan -/

/-- The note of what raised. -/
def raised : FinalizerNote → FinalizerNote
  | .created file => .created file
  | .stored file payload _ => .stored file payload false
  | .published event _ => .published event false
  | .flushed _ => .flushed false
  | .status status _ => .status status false
  | .quiescence module _ => .quiescence module false

/-- The status that a result ends with. -/
def statusOf (runId : String) (result : ScoreResult) : Option FinalStatus :=
  if result.complete then
    result.events.getLast?.map fun event => .scoreFinished runId event.simTimestampNs
  else some (failureStatus runId result)

def publications (events : List ScoreEvent) : List FinalizerNote :=
  events.map fun event => .published event true

/-- After both files. -/
def announcement (runId : String) (result : ScoreResult) : List FinalizerNote :=
  publications result.events ++
    .flushed true :: (statusOf runId result).toList.map fun status => .status status true

/-- After `events.jsonl`. -/
def planResult (printer : FloatPrinter) (runId : String) (result : ScoreResult) :
    List FinalizerNote :=
  match jsonLine printer result.resultDocument with
  | .error _ => []
  | .ok line => .created .result :: .stored .result line true :: announcement runId result

/-- **What the finalization of a result comes to** when nothing raises. -/
def plan (printer : FloatPrinter) (runId : String) (result : ScoreResult) : List FinalizerNote :=
  match eventsPayload printer result.events with
  | .error _ => []
  | .ok bytes =>
    .created .events :: .stored .events bytes true :: planResult printer runId result

/-- A beginning of the plan, of which the last part may have raised. -/
def Follows (p os : List FinalizerNote) : Prop :=
  os <+: p ∨ ∃ done n rest, p = done ++ n :: rest ∧ os = done ++ [raised n]

/-! ## 2. Under way -/

/-- A complete file is as it was stored, and whatever was noted left `events.jsonl`. -/
structure Kept (disk : ScoreFile → Option (List UInt8)) (os : List FinalizerNote) : Prop where
  stored : ∀ file bytes, FinalizerNote.stored file bytes true ∈ os → disk file = some bytes
  begun : os ≠ [] → disk .events ≠ none

theorem Kept.append {disk : ScoreFile → Option (List UInt8)} {os : List FinalizerNote}
    (h : Kept disk os) {n : FinalizerNote} (hn : ∀ file bytes, n ≠ .stored file bytes true)
    (hevents : disk .events ≠ none) : Kept disk (os ++ [n]) := by
  refine ⟨fun file bytes hmem => ?_, fun _ => hevents⟩
  rcases List.mem_append.mp hmem with hmem | hmem
  · exact h.stored file bytes hmem
  · exact absurd (List.mem_singleton.mp hmem).symm (hn file bytes)

/-- No result, and so far along the plan. -/
structure Underway (p : List FinalizerNote) (r : Acting FinalizerState FinalizerNote) : Prop where
  result : r.state.result = none
  failure : r.state.failureWritten = false
  quiescent : r.state.quiescent = false
  follows : Follows p r.log
  kept : Kept r.state.disk r.log

/-- No result, and the rest of the plan ahead. -/
structure Reached (p rest : List FinalizerNote) (r : Acting FinalizerState FinalizerNote) :
    Prop where
  result : r.state.result = none
  failure : r.state.failureWritten = false
  quiescent : r.state.quiescent = false
  along : p = r.log ++ rest
  kept : Kept r.state.disk r.log

theorem Reached.underway {p rest : List FinalizerNote} (h : Reached p rest r) : Underway p r :=
  ⟨h.result, h.failure, h.quiescent, .inl ⟨rest, h.along.symm⟩, h.kept⟩

/-! ### The outside -/

theorem wp_ask {answer : ℕ → Except ε α} {Q : α → Acting FinalizerState FinalizerNote → Prop}
    (hQ : ∀ a noted, answer noted = .ok a → Q a r) (hE : ∀ error, E error r) :
    wp (ask answer) Q E r := by
  unfold ask
  rw [wp_bind, wp_get]
  refine (wp_ofExcept _).mpr ⟨fun a ha => hQ a r.log.length ?_, fun error _ => hE error⟩
  cases hanswer : answer r.log.length with
  | error error =>
    rw [hanswer] at ha
    cases ha
  | ok b =>
    rw [hanswer] at ha
    cases ha
    rfl

theorem wp_attempt {answer : ℕ → Except ε Unit} {note : Bool → FinalizerNote}
    {Q : Unit → Acting FinalizerState FinalizerNote → Prop}
    (hQ : Q () ⟨r.state, r.log ++ [note true]⟩)
    (hE : ∀ error, E error ⟨r.state, r.log ++ [note false]⟩) : wp (attempt answer note) Q E r := by
  unfold attempt
  rw [wp_bind, wp_get]
  cases answer r.log.length with
  | ok a => exact hQ
  | error error => exact hE (.outside error)

/-- **An effect along the plan.** -/
theorem attempt_along {p rest : List FinalizerNote} {answer : ℕ → Except ε Unit}
    {note : Bool → FinalizerNote} (hnote : raised (note true) = note false)
    (hstored : ∀ b file bytes, note b ≠ .stored file bytes true)
    (h : Reached p (note true :: rest) r) (hevents : r.state.disk .events ≠ none) :
    wp (attempt answer note)
      (fun _ t => Reached p rest t ∧ t.state.disk .events ≠ none) (fun _ => Underway p) r := by
  refine wp_attempt ⟨⟨h.result, h.failure, h.quiescent, ?_, h.kept.append (hstored true) hevents⟩,
    hevents⟩ fun error => ⟨h.result, h.failure, h.quiescent, .inr ⟨r.log, note true, rest, h.along, ?_⟩,
    h.kept.append (hstored false) hevents⟩
  · rw [h.along, List.append_assoc]
    rfl
  · rw [hnote]

/-- **One event after another.** -/
theorem publishAll_along {p rest : List FinalizerNote} (w : FinalizerWorld ε)
    (events : List ScoreEvent) (h : Reached p (publications events ++ rest) r)
    (hevents : r.state.disk .events ≠ none) :
    wp (publishAll w events)
      (fun _ t => Reached p rest t ∧ t.state.disk .events ≠ none) (fun _ => Underway p) r := by
  induction events generalizing r with
  | nil => exact ⟨h, hevents⟩
  | cons event events ih =>
    unfold publishAll
    rw [wp_bind]
    refine (attempt_along rfl (by simp) h hevents).mono (fun _ t ht => ih ht.1 ht.2)
      fun _ _ ht => ht

/-! ### The files -/

@[simp] theorem put_disk (file : ScoreFile) (bytes : List UInt8) (s : FinalizerState) :
    (put file bytes s).disk = Function.update s.disk file (some bytes) := rfl

theorem put_put (file : ScoreFile) (bytes more : List UInt8) (s : FinalizerState) :
    put file more (put file bytes s) = put file more s := by
  unfold put
  rw [Function.update_idem]

/-- **A new file**: it stays away, is left in part, or holds its payload. -/
theorem wp_writeNew {file : ScoreFile} {payload : List UInt8}
    {Q : Unit → Acting FinalizerState FinalizerNote → Prop} (habsent : r.state.disk file = none)
    (hQ : Q () ⟨put file payload r.state, r.log ++ [FinalizerNote.created file, .stored file payload true]⟩)
    (hE : ∀ error, E error r) (hpart : ∀ error kept, E error
      ⟨put file (payload.take kept) r.state, r.log ++ [FinalizerNote.created file, .stored file payload false]⟩) :
    wp (writeNew w file payload) Q E r := by
  unfold writeNew
  rw [wp_bind, wp_current, habsent]
  show wp (ask (w.create file) >>= _) Q E r
  rw [wp_bind]
  refine wp_ask (fun _ _ _ => ?_) hE
  rw [wp_bind, wp_update, wp_bind, wp_perform]
  unfold storePayload
  rw [wp_bind, wp_get]
  split
  · rw [wp_bind, wp_update, wp_perform, put_put, List.append_assoc]
    exact hQ
  · rename_i kept error _
    rw [wp_bind, wp_update, wp_bind, wp_perform, put_put, List.append_assoc]
    exact hpart (.outside error) kept

theorem Kept.written {disk : ScoreFile → Option (List UInt8)} {os : List FinalizerNote}
    (h : Kept disk os) {file : ScoreFile} (habsent : disk file = none)
    (hevents : file = .events ∨ disk .events ≠ none) {payload kept : List UInt8} {b : Bool}
    (hb : b = true → kept = payload) :
    Kept (Function.update disk file (some kept)) (os ++ [FinalizerNote.created file, .stored file payload b]) := by
  constructor
  · intro other bytes hmem
    rcases List.mem_append.mp hmem with hmem | hmem
    · have hother : disk other = some bytes := h.stored other bytes hmem
      have hne : other ≠ file := by
        rintro rfl
        rw [habsent] at hother
        cases hother
      rw [Function.update_of_ne hne]
      exact hother
    · have hlast : FinalizerNote.stored other bytes true = .stored file payload b := by
        rcases List.mem_pair.mp hmem with h | h
        · cases h
        · exact h
      cases hlast
      rw [Function.update_self, hb rfl]
  · intro _
    by_cases hfile : ScoreFile.events = file
    · rw [hfile, Function.update_self]
      exact Option.some_ne_none _
    · rw [Function.update_of_ne hfile]
      rcases hevents with hevents | hevents
      · exact absurd hevents.symm hfile
      · exact hevents

/-- **A file along the plan.** -/
theorem writeNew_along {p rest : List FinalizerNote} {file : ScoreFile} {payload : List UInt8}
    (h : Reached p (.created file :: .stored file payload true :: rest) r)
    (habsent : r.state.disk file = none) (hevents : file = .events ∨ r.state.disk .events ≠ none) :
    wp (writeNew w file payload)
      (fun _ t => Reached p rest t ∧ t.state = put file payload r.state)
      (fun _ => Underway p) r := by
  refine wp_writeNew habsent ⟨⟨h.result, h.failure, h.quiescent, ?_, ?_⟩, rfl⟩
    (fun _ => h.underway) fun _ kept => ⟨h.result, h.failure, h.quiescent, .inr ?_, ?_⟩
  · rw [h.along, List.append_assoc]
    rfl
  · exact h.kept.written habsent hevents fun _ => rfl
  · refine ⟨r.log ++ [FinalizerNote.created file], .stored file payload true, rest, ?_, ?_⟩
    · rw [h.along, List.append_assoc]
      rfl
    · rw [List.append_assoc]
      rfl
  · exact h.kept.written habsent hevents fun hb => by cases hb

/-! ### The whole -/

/-- **The result file**, whatever the `finally` comes to. -/
theorem writeResult_along {p : List FinalizerNote}
    (h : Reached p (planResult printer runId result) r) (habsent : r.state.disk .result = none)
    (hevents : r.state.disk .events ≠ none) :
    wp (writeResult printer w result)
      (fun _ t => (∃ line, jsonLine printer result.resultDocument = .ok line) ∧
        Reached p (announcement runId result) t ∧ t.state.disk .events ≠ none)
      (fun _ => Underway p) r := by
  unfold writeResult
  rw [wp_bind, wp_tryCatch, wp_bind]
  have hfinally : ∀ {Q : Unit → Acting FinalizerState FinalizerNote → Prop}
      (error : FinalizerError ε) (t : Acting FinalizerState FinalizerNote), Underway p t →
      wp (do
        ask w.syncDirectory
        throw error) Q (fun _ => Underway p) t := by
    intro Q error t ht
    rw [wp_bind]
    exact wp_ask (fun _ _ _ => ht) fun _ => ht
  cases hline : jsonLine printer result.resultDocument with
  | error error => exact hfinally (.encoding error) r h.underway
  | ok line =>
    have halong : Reached p
        (.created .result :: .stored .result line true :: announcement runId result) r := by
      have hp := h.along
      unfold planResult at hp
      rw [hline] at hp
      exact ⟨h.result, h.failure, h.quiescent, hp, h.kept⟩
    refine (writeNew_along (w := w) halong habsent (.inr hevents)).mono (fun _ t ht => ?_) hfinally
    have hstill : t.state.disk .events ≠ none := by
      rw [ht.2, put_disk, Function.update_of_ne (by decide)]
      exact hevents
    exact wp_ask (fun _ _ _ => ⟨⟨line, rfl⟩, ht.1, hstill⟩) fun _ => ht.1.underway

/-- **Both files**: where there is one already, nothing is done. -/
theorem persistScoreOutputs_along {s : FinalizerState}
    (h : Reached (plan printer runId result) (plan printer runId result) ⟨s, []⟩)
    (hstill : ∀ error, E error ⟨s, []⟩)
    (hraised : ∀ error t, s.disk .events = none → s.disk .result = none →
      Underway (plan printer runId result) t → E error t) :
    wp (persistScoreOutputs printer w result)
      (fun _ t => s.disk .events = none ∧ s.disk .result = none ∧
        (∃ bytes, eventsPayload printer result.events = .ok bytes) ∧
        (∃ line, jsonLine printer result.resultDocument = .ok line) ∧
        Reached (plan printer runId result) (announcement runId result) t ∧
        t.state.disk .events ≠ none) E ⟨s, []⟩ := by
  unfold persistScoreOutputs
  rw [wp_bind]
  refine wp_ask (fun _ _ _ => ?_) hstill
  unfold refuseExisting
  rw [wp_bind, wp_bind]
  refine wp_ask (fun _ _ _ => ?_) hstill
  rw [wp_bind, wp_current]
  cases hevents : s.disk .events with
  | some bytes => exact hstill _
  | none =>
    show wp (_ >>= _) _ _ _
    rw [wp_bind, wp_bind]
    refine wp_ask (fun _ _ _ => ?_) hstill
    rw [wp_bind, wp_current]
    cases hresult : s.disk .result with
    | some bytes => exact hstill _
    | none =>
      show wp (_ >>= _) _ _ _
      rw [wp_bind]
      cases hbytes : eventsPayload printer result.events with
      | error error => exact hstill _
      | ok bytes =>
        show wp (writeNew w .events bytes >>= _) _ _ _
        rw [wp_bind]
        have halong : Reached (plan printer runId result)
            (.created .events :: .stored .events bytes true :: planResult printer runId result)
            ⟨s, []⟩ := by
          refine ⟨h.result, h.failure, h.quiescent, ?_, h.kept⟩
          unfold plan
          rw [hbytes]
          rfl
        refine (writeNew_along (w := w) halong hevents (.inl rfl)).mono (fun _ t ht => ?_)
          fun error t ht => hraised error t hevents hresult ht
        have hthere : t.state.disk .events ≠ none := by
          rw [ht.2, put_disk, Function.update_self]
          exact Option.some_ne_none _
        have habsent : t.state.disk .result = none := by
          rw [ht.2, put_disk, Function.update_of_ne (by decide)]
          exact hresult
        exact (writeResult_along ht.1 habsent hthere).mono
          (fun _ u hu => ⟨rfl, rfl, ⟨bytes, rfl⟩, hu.1, hu.2⟩)
          fun error u hu => hraised error u hevents hresult hu

/-- The plan is through, but for the result itself. -/
structure Through (p : List FinalizerNote) (r : Acting FinalizerState FinalizerNote) : Prop where
  quiescent : r.state.quiescent = false
  log : r.log = p
  kept : Kept r.state.disk r.log

theorem Reached.through {p : List FinalizerNote} (h : Reached p [] r) : Through p r := by
  refine ⟨h.quiescent, ?_, h.kept⟩
  rw [h.along, List.append_nil]

theorem writeFinalStatus_along {p : List FinalizerNote}
    (h : Reached p ((statusOf runId result).toList.map fun status => .status status true) r)
    (hevents : r.state.disk .events ≠ none) :
    wp (writeFinalStatus runId w result)
      (fun _ t => (∃ status, statusOf runId result = some status) ∧ Through p t)
      (fun _ => Underway p) r := by
  unfold writeFinalStatus
  cases hcomplete : result.complete with
  | true =>
    rw [if_pos rfl]
    cases hlast : result.events.getLast? with
    | none => exact h.underway
    | some event =>
      have hstatus : statusOf runId result =
          some (.scoreFinished runId event.simTimestampNs) := by
        unfold statusOf
        rw [hcomplete, if_pos rfl, hlast]
        rfl
      rw [hstatus] at h
      exact (attempt_along rfl (by simp) h hevents).mono
        (fun _ t ht => ⟨⟨_, hstatus⟩, ht.1.through⟩) fun _ _ ht => ht
  | false =>
    rw [if_neg Bool.false_ne_true, wp_bind, wp_current, h.failure, if_neg Bool.false_ne_true, wp_bind]
    have hstatus : statusOf runId result = some (failureStatus runId result) := by
      unfold statusOf
      rw [hcomplete, if_neg Bool.false_ne_true]
    rw [hstatus] at h
    refine (attempt_along rfl (by simp) h hevents).mono (fun _ t ht => ?_) fun _ _ ht => ht
    have hthrough := ht.1.through
    exact ⟨⟨_, hstatus⟩, hthrough.quiescent, hthrough.log, hthrough.kept⟩

/-- What a result stands for: its documents were written, and its status. -/
structure Announced (printer : FloatPrinter) (runId : String) (result : ScoreResult) : Prop where
  events : ∃ bytes, eventsPayload printer result.events = .ok bytes
  line : ∃ line, jsonLine printer result.resultDocument = .ok line
  status : ∃ status, statusOf runId result = some status

/-- **One finalization**, begun where nothing was noted: nothing at all, a beginning of the plan, or the
    whole of it. -/
theorem settle_along {s : FinalizerState}
    (h : Reached (plan printer runId result) (plan printer runId result) ⟨s, []⟩)
    (hstill : ∀ error, E error ⟨s, []⟩)
    (hraised : ∀ error t, s.disk .events = none → s.disk .result = none →
      Underway (plan printer runId result) t → E error t) :
    wp (settle printer runId w result)
      (fun other t => other = result ∧ s.disk .events = none ∧ s.disk .result = none ∧
        t.state.result = some result ∧ Announced printer runId result ∧
        Through (plan printer runId result) t) E ⟨s, []⟩ := by
  unfold settle
  rw [wp_bind]
  refine (persistScoreOutputs_along h hstill hraised).mono (fun _ t ht => ?_) fun _ _ ht => ht
  obtain ⟨hevents, hresult, hbytes, hline, hreached, hthere⟩ := ht
  have hE : ∀ error u, Underway (plan printer runId result) u → E error u :=
    fun error u hu => hraised error u hevents hresult hu
  rw [wp_bind]
  refine (publishAll_along w result.events hreached hthere).mono (fun _ u hu => ?_) hE
  rw [wp_bind]
  refine (attempt_along rfl (by simp) hu.1 hu.2).mono (fun _ v hv => ?_) hE
  rw [wp_bind]
  refine (writeFinalStatus_along hv.1 hv.2).mono (fun _ x hx => ?_) hE
  exact ⟨rfl, hevents, hresult, rfl, ⟨hbytes, hline, hx.1⟩, hx.2.quiescent, hx.2.log, hx.2.kept⟩

/-! ## 3. Calls -/

/-- **Where a scoring stands**, whose results satisfy `G`. -/
inductive Stage (printer : FloatPrinter) (runId : String) (G : ScoreResult → Prop)
    (r : Acting FinalizerState FinalizerNote) : Prop where
  /-- Nothing was noted. -/
  | still (h : Underway [] r)
  /-- A finalization was cut short: `events.jsonl` is there, and there is no result. -/
  | short {result : ScoreResult} (hgood : G result) (h : Underway (plan printer runId result) r)
      (hevents : r.state.disk .events ≠ none)
  | done {result : ScoreResult} (hgood : G result) (hresult : r.state.result = some result)
      (hannounced : Announced printer runId result) (h : Through (plan printer runId result) r)
  /-- The writing of the marker has begun. -/
  | quiet {result : ScoreResult} (b : Bool) (hgood : G result)
      (hresult : r.state.result = some result)
      (hannounced : Announced printer runId result) (hquiescent : r.state.quiescent = true)
      (hlog : r.log = plan printer runId result ++ [FinalizerNote.quiescence "scorekeeper" b])
      (hkept : Kept r.state.disk r.log)

/-- What a call leaves of the state before it. -/
structure Later (s t : FinalizerState) : Prop where
  result : ∀ result, s.result = some result → t.result = some result
  disk : ∀ file bytes, s.disk file = some bytes → t.disk file = some bytes
  quiescent : s.quiescent = true → t.quiescent = true

theorem Later.refl (s : FinalizerState) : Later s s := ⟨fun _ h => h, fun _ _ h => h, fun h => h⟩

theorem Later.trans {s t u : FinalizerState} (h : Later s t) (h' : Later t u) : Later s u :=
  ⟨fun r hr => h'.result r (h.result r hr), fun f b hb => h'.disk f b (h.disk f b hb),
    fun hq => h'.quiescent (h.quiescent hq)⟩

/-- So far a run has come to a stage, and a call has left what was there before it. -/
def Standing (printer : FloatPrinter) (runId : String) (G : ScoreResult → Prop)
    (os : List FinalizerNote) (s : FinalizerState) (t : Acting FinalizerState FinalizerNote) :
    Prop :=
  Stage printer runId G ⟨t.state, os ++ t.log⟩ ∧ Later s t.state

/-- The scorer of this world answers results that satisfy `G`. -/
def Scores (G : ScoreResult → Prop) (w : FinalizerWorld ε) : Prop :=
  ∀ noted result, w.scorerFinalize noted = .ok result → G result

variable {G : ScoreResult → Prop} {os : List FinalizerNote} {s : FinalizerState}

theorem follows_nil {os : List FinalizerNote} (h : Follows [] os) : os = [] := by
  rcases h with h | ⟨done, n, rest, hp, -⟩
  · exact List.prefix_nil.mp h
  · cases done with
    | nil => cases hp
    | cons _ _ => cases hp

/-- The questions of a finalization before it writes anything. -/
theorem wp_untilSettled {stamp : Option ℕ}
    {Q : ScoreResult → Acting FinalizerState FinalizerNote → Prop} (hnone : r.state.result = none)
    (hE : ∀ error, E error r) (hsettle : ∀ result noted, w.scorerFinalize noted = .ok result →
      wp (settle printer runId w result) Q E r) : wp (finalize printer runId w stamp) Q E r := by
  unfold finalize
  rw [wp_bind, wp_current, hnone]
  show wp (checkSource w stamp >>= _) Q E r
  rw [wp_bind]
  have hrest : wp (ask w.scorerFinalize >>= fun result => settle printer runId w result) Q E r := by
    rw [wp_bind]
    exact wp_ask hsettle hE
  cases stamp with
  | none => exact hrest
  | some stamp =>
    unfold checkSource
    rw [wp_bind, wp_get]
    split
    · exact wp_ask (fun _ _ _ => hrest) hE
    · exact hrest

/-- Where `events.jsonl` is there, nothing is written. -/
theorem settle_refused {Q : ScoreResult → Acting FinalizerState FinalizerNote → Prop}
    (hevents : r.state.disk .events ≠ none) (hE : ∀ error, E error r) :
    wp (settle printer runId w result) Q E r := by
  unfold settle persistScoreOutputs refuseExisting
  rw [wp_bind, wp_bind]
  refine wp_ask (fun _ _ _ => ?_) hE
  rw [wp_bind, wp_bind]
  refine wp_ask (fun _ _ _ => ?_) hE
  rw [wp_bind, wp_current]
  cases hbytes : r.state.disk .events with
  | none => exact absurd hbytes hevents
  | some bytes => exact hE _

/-- A finalization that was cut short, or begun in vain. -/
theorem Underway.stage (hgood : G result) (h : Underway (plan printer runId result) r) :
    Stage printer runId G r := by
  by_cases hlog : r.log = []
  · refine .still ⟨h.result, h.failure, h.quiescent, .inl ?_, h.kept⟩
    rw [hlog]
  · exact .short hgood h (h.kept.begun hlog)

/-- **`finalize` at any stage.** -/
theorem finalize_standing (hw : Scores G w) (stamp : Option ℕ)
    (hr : Standing printer runId G os s r) :
    wp (finalize printer runId w stamp)
      (fun result t => Standing printer runId G os s t ∧ t.state.result = some result ∧
        t.state.quiescent = r.state.quiescent)
      (fun _ => Standing printer runId G os s) r := by
  have hreturned : ∀ {result : ScoreResult}, r.state.result = some result →
      wp (finalize printer runId w stamp)
        (fun result t => Standing printer runId G os s t ∧ t.state.result = some result ∧
          t.state.quiescent = r.state.quiescent)
        (fun _ => Standing printer runId G os s) r := by
    intro result hresult
    unfold finalize
    rw [wp_bind, wp_current, hresult]
    exact ⟨hr, hresult, rfl⟩
  cases hr.1 with
  | still h =>
    have hempty : os ++ r.log = [] := follows_nil h.follows
    obtain ⟨hos, hlog⟩ := List.append_eq_nil_iff.mp hempty
    obtain ⟨t, log⟩ := r
    subst hos
    subst hlog
    refine wp_untilSettled h.result (fun _ => hr) fun result noted hscored => ?_
    have hgood : G result := hw noted result hscored
    have hlater : ∀ {u : FinalizerState}, t.disk .events = none → t.disk .result = none →
        Later s u := by
      intro u hevents hresult
      refine ⟨fun x hx => ?_, fun file bytes hbytes => ?_, fun hquiescent => ?_⟩
      · have hthen := hr.2.result x hx
        rw [h.result] at hthen
        cases hthen
      · have hthen := hr.2.disk file bytes hbytes
        cases file with
        | events =>
          rw [hevents] at hthen
          cases hthen
        | result =>
          rw [hresult] at hthen
          cases hthen
      · have hthen := hr.2.quiescent hquiescent
        rw [h.quiescent] at hthen
        cases hthen
    have hready : Reached (plan printer runId result) (plan printer runId result) ⟨t, []⟩ :=
      ⟨h.result, h.failure, h.quiescent, rfl, h.kept⟩
    refine (settle_along hready (fun _ => hr)
      fun error u hevents hresult hu => ⟨hu.stage hgood, hlater hevents hresult⟩).mono
      (fun other u hu => ?_) fun _ _ hu => hu
    obtain ⟨rfl, hevents, hresult, hstored, hannounced, hthrough⟩ := hu
    exact ⟨⟨.done hgood hstored hannounced hthrough, hlater hevents hresult⟩, hstored,
      hthrough.quiescent.trans h.quiescent.symm⟩
  | short _ h hevents =>
    exact wp_untilSettled h.result (fun _ => hr) fun _ _ _ => settle_refused hevents fun _ => hr
  | done _ hresult _ _ => exact hreturned hresult
  | quiet _ _ hresult _ _ _ _ => exact hreturned hresult

theorem finalize_keeps (hw : Scores G w) (stamp : Option ℕ) :
    Keeps (Standing printer runId G os s) (finalize printer runId w stamp) :=
  fun _ hr => (finalize_standing hw stamp hr).mono (fun _ _ ht => ht.1) fun _ _ ht => ht

theorem ask_keeps (answer : ℕ → Except ε α) : Keeps (Standing printer runId G os s) (ask answer) :=
  fun _ hr => wp_ask (fun _ _ _ => hr) fun _ => hr

/-- **`quiesce` at any stage.** -/
theorem quiesce_keeps (hw : Scores G w) :
    Keeps (Standing printer runId G os s) (quiesce printer runId w) := by
  intro r hr
  unfold quiesce
  rw [wp_bind, wp_current]
  cases hquiescent : r.state.quiescent with
  | true => exact hr
  | false =>
    show wp (finalize printer runId w none >>= _) _ _ _
    rw [wp_bind]
    refine (finalize_standing hw none hr).mono (fun result t ht => ?_) fun _ _ ht => ht
    obtain ⟨hstanding, hresult, hstill⟩ := ht
    rw [hquiescent] at hstill
    rw [wp_bind, wp_update]
    have hdone : ∀ b, Standing printer runId G os s
        ⟨{ t.state with quiescent := true }, t.log ++ [FinalizerNote.quiescence "scorekeeper" b]⟩ := by
      intro b
      have hlater : Later s { t.state with quiescent := true } :=
        ⟨hstanding.2.result, hstanding.2.disk, fun _ => rfl⟩
      refine ⟨?_, hlater⟩
      cases hstanding.1 with
      | still h =>
        have hnone := h.result.symm.trans hresult
        cases hnone
      | short _ h _ =>
        have hnone := h.result.symm.trans hresult
        cases hnone
      | quiet _ _ _ _ hquiet _ _ =>
        have hfalse := hstill.symm.trans hquiet
        cases hfalse
      | done hgood hthen hannounced h =>
        refine .quiet b hgood hthen hannounced rfl ?_ ?_
        · rw [← List.append_assoc]
          exact congrArg (· ++ _) h.log
        · rw [← List.append_assoc]
          refine ⟨fun file bytes hmem => ?_, fun _ => h.kept.begun ?_⟩
          · rcases List.mem_append.mp hmem with hmem | hmem
            · exact h.kept.stored file bytes hmem
            · cases List.mem_singleton.mp hmem
          · obtain ⟨bytes, hbytes⟩ := hannounced.events
            rw [h.log]
            unfold plan
            rw [hbytes]
            exact List.cons_ne_nil _ _
    exact wp_attempt (hdone true) fun _ => hdone false

theorem runtimeFinalize_keeps (hw : Scores G w) (scenarioFailed : Bool) (stamp : Option ℕ) :
    Keeps (Standing printer runId G os s) (runtimeFinalize printer runId w scenarioFailed stamp) := by
  intro r hr
  unfold runtimeFinalize
  rw [wp_bind, wp_current]
  cases r.state.result with
  | some result => exact hr
  | none =>
    cases scenarioFailed with
    | false => exact finalize_keeps hw stamp r hr
    | true => exact Keeps.bind (ask_keeps w.scorerFail) (fun _ => finalize_keeps hw stamp) r hr

theorem beginFinalization_keeps (hw : Scores G w) (scenarioFailed : Bool) :
    Keeps (Standing printer runId G os s) (beginFinalization printer runId w scenarioFailed) := by
  intro r hr
  unfold beginFinalization
  rw [wp_bind, wp_current]
  split
  · exact hr
  · exact Keeps.bind (runtimeFinalize_keeps hw scenarioFailed none) (fun _ => quiesce_keeps hw) r hr

theorem fail_keeps (w : FinalizerWorld ε) (reason : String) :
    Keeps (Standing printer runId G os s) (fail w reason) := by
  intro r hr
  unfold fail
  split
  · exact hr
  · rw [wp_bind, wp_current]
    split
    · exact hr
    · exact ask_keeps w.scorerFail r hr

/-- **Every call** keeps the stage. -/
theorem answer_keeps {i : Input ε} (hi : Scores G i.world) :
    Keeps (Standing printer runId G os s) (answer printer runId i) := by
  cases i with
  | fail w reason => exact .bind (fail_keeps w reason) fun _ => .pure _
  | finalize w stamp => exact .bind (finalize_keeps hi stamp) fun _ => .pure _
  | quiesce w => exact .bind (quiesce_keeps hi) fun _ => .pure _
  | sourceFinished w scenarioFailed stamp =>
    exact .bind (runtimeFinalize_keeps hi scenarioFailed (some stamp)) fun _ => .pure _
  | beginFinalization w scenarioFailed =>
    exact .bind (beginFinalization_keeps hi scenarioFailed) fun _ => .pure _

theorem answer_standing {i : Input ε} (hi : Scores G i.world) {o : List FinalizerNote}
    {t : FinalizerState} (h : Stage printer runId G ⟨s, os⟩) (hcall : Calling (answer printer runId) s i o t) :
    Stage printer runId G ⟨t, os ++ o⟩ ∧ Later s t := by
  have hstart : Standing printer runId G os s ⟨s, []⟩ := by
    refine ⟨?_, Later.refl s⟩
    show Stage printer runId G ⟨s, os ++ []⟩
    rw [List.append_nil]
    exact h
  have hstanding := call_state (answer_keeps hi _ hstart)
  unfold Calling at hcall
  rw [hcall] at hstanding
  exact hstanding

/-- **Every run** keeps the stage, and what was there before it. -/
theorem run_standing {is : List (Input ε)} (hscores : ∀ i ∈ is, Scores G i.world)
    {o : List FinalizerNote} {t : FinalizerState} (h : Stage printer runId G ⟨s, os⟩) (hrun : Run (Calling (answer printer runId)) s is o t) :
    Stage printer runId G ⟨t, os ++ o⟩ ∧ Later s t := by
  induction hrun with
  | start =>
    rw [List.append_nil]
    exact ⟨h, Later.refl s⟩
  | step _ hcall ih =>
    have hbefore := ih fun i hi => hscores i (List.mem_append_left _ hi)
    have hnext := answer_standing (hscores _ (List.mem_append_right _ (List.mem_singleton_self _)))
      hbefore.1 hcall
    rw [← List.append_assoc]
    exact ⟨hnext.1, hbefore.2.trans hnext.2⟩

/-! ## 4. What was put out -/

/-- The events that were given to the publisher. -/
def publishedOf (os : List FinalizerNote) : List ScoreEvent :=
  os.filterMap fun n =>
    match n with
    | .published event _ => some event
    | _ => none

def isStatus : FinalizerNote → Bool
  | .status .. => true
  | _ => false

def isQuiescence : FinalizerNote → Bool
  | .quiescence .. => true
  | _ => false

/-- **What an honest scoring has put out**, whose results satisfy `G`. -/
structure Honest (printer : FloatPrinter) (runId : String) (G : ScoreResult → Prop)
    (os : List FinalizerNote) (t : FinalizerState) : Prop where
  /-- No file is created twice. -/
  created : ∀ file, os.countP (· == .created file) ≤ 1
  /-- A file that was stored is as it was stored. -/
  stored : ∀ file bytes, FinalizerNote.stored file bytes true ∈ os → t.disk file = some bytes
  /-- The events of one result are published in order, each at most once. -/
  published : publishedOf os = [] ∨ ∃ result, G result ∧ publishedOf os <+: result.events
  /-- Of scorers that number their events no event is published twice. -/
  once : (∀ result, G result → EventsNumbered result.events) →
    ((publishedOf os).map ScoreEvent.eventId).Nodup
  /-- One status at most. -/
  statuses : os.countP isStatus ≤ 1
  /-- A status is written after both files are complete and every event was published, and is the one
      that the result stands for. -/
  status : ∀ before status b after, os = before ++ FinalizerNote.status status b :: after →
    ∃ result bytes line, G result ∧ statusOf runId result = some status ∧
      eventsPayload printer result.events = .ok bytes ∧
      jsonLine printer result.resultDocument = .ok line ∧
      before = .created .events :: .stored .events bytes true :: .created .result ::
        .stored .result line true :: (publications result.events ++ [FinalizerNote.flushed true])
  /-- The writing of the marker begins once, and with it quiescence. -/
  quiescence : os.countP isQuiescence = t.quiescent.toNat
  quiescent : t.quiescent = true → t.result ≠ none ∧ ∃ b, FinalizerNote.quiescence "scorekeeper" b ∈ os

/-! ### Of the plan -/

/-- How a plan goes on, by what can be encoded. -/
theorem plan_cases (printer : FloatPrinter) (runId : String) (result : ScoreResult) :
    plan printer runId result = [] ∨
      ∃ bytes, eventsPayload printer result.events = .ok bytes ∧
        (plan printer runId result = [FinalizerNote.created .events, .stored .events bytes true] ∨
          ∃ line, jsonLine printer result.resultDocument = .ok line ∧
            plan printer runId result = .created .events :: .stored .events bytes true ::
              .created .result :: .stored .result line true :: announcement runId result) := by
  unfold plan planResult
  cases eventsPayload printer result.events with
  | error _ => exact .inl rfl
  | ok bytes =>
    refine .inr ⟨bytes, rfl, ?_⟩
    cases jsonLine printer result.resultDocument with
    | error _ => exact .inl rfl
    | ok line => exact .inr ⟨line, rfl, rfl⟩

theorem announcement_created (file : ScoreFile) (runId : String) (result : ScoreResult) :
    (announcement runId result).countP (· == .created file) = 0 := by
  rw [List.countP_eq_zero]
  intro n hn hcreated
  have hfile : n = .created file := by simpa using hcreated
  subst hfile
  simp [announcement, publications] at hn

theorem plan_created (file : ScoreFile) (result : ScoreResult) :
    (plan printer runId result).countP (· == .created file) ≤ 1 := by
  have hannouncement := announcement_created file runId result
  rcases plan_cases printer runId result with h | ⟨bytes, _, h | ⟨line, _, h⟩⟩
  · rw [h]
    exact Nat.zero_le 1
  · rw [h]
    cases file with
    | events => simp
    | result => simp
  · rw [h]
    simp only [List.countP_cons, hannouncement]
    cases file with
    | events => simp
    | result => simp

theorem announcement_published (runId : String) (result : ScoreResult) :
    publishedOf (announcement runId result) = result.events := by
  have hevents : ∀ events : List ScoreEvent, publishedOf (publications events) = events := by
    intro events
    induction events with
    | nil => rfl
    | cons event events ih => exact congrArg (event :: ·) ih
  have hrest : publishedOf (.flushed true ::
      (statusOf runId result).toList.map fun status => .status status true) = [] := by
    cases statusOf runId result with
    | none => rfl
    | some status => rfl
  unfold announcement publishedOf
  rw [List.filterMap_append]
  exact (congrArg₂ (· ++ ·) (hevents result.events) hrest).trans (List.append_nil _)

theorem plan_published (result : ScoreResult) :
    publishedOf (plan printer runId result) <+: result.events := by
  rcases plan_cases printer runId result with h | ⟨bytes, _, h | ⟨line, _, h⟩⟩
  · rw [h]
    exact List.nil_prefix
  · rw [h]
    exact List.nil_prefix
  · rw [h]
    have hpublished := announcement_published runId result
    show publishedOf (announcement runId result) <+: result.events
    rw [hpublished]

theorem announcement_status (runId : String) (result : ScoreResult) :
    ∃ rest, (rest = [] ∨ ∃ status, statusOf runId result = some status ∧
        rest = [FinalizerNote.status status true]) ∧
      announcement runId result = (publications result.events ++ [FinalizerNote.flushed true]) ++ rest := by
  unfold announcement
  cases statusOf runId result with
  | none => exact ⟨[], .inl rfl, by simp⟩
  | some status => exact ⟨_, .inr ⟨status, rfl, rfl⟩, by simp⟩

/-- What comes before the status is no status. -/
theorem before_status {files : List FinalizerNote} {events : List ScoreEvent}
    (hfiles : files.countP isStatus = 0) :
    (files ++ (publications events ++ [FinalizerNote.flushed true])).countP isStatus = 0 := by
  have hpublications : (publications events).countP isStatus = 0 := by
    rw [List.countP_eq_zero]
    intro n hn hstatus
    obtain ⟨event, _, rfl⟩ := List.mem_map.mp hn
    cases hstatus
  rw [List.countP_append, List.countP_append, hfiles, hpublications]
  rfl

/-- A list splits in one way at its only status. -/
theorem split_status {front before after rest : List FinalizerNote} {n : FinalizerNote}
    (hfront : front.countP isStatus = 0) (hn : isStatus n = true)
    (hrest : rest = [] ∨ ∃ m, rest = [m])
    (h : front ++ rest = before ++ n :: after) : before = front ∧ rest = [n] := by
  have hnot : n ∉ front := fun hmem =>
    absurd hn (by simpa using List.countP_eq_zero.mp hfront n hmem)
  rcases List.append_eq_append_iff.mp h with ⟨more, hbefore, hmore⟩ | ⟨more, hfront', hmore⟩
  · rcases hrest with rfl | ⟨m, rfl⟩
    · cases more with
      | nil => cases hmore
      | cons _ _ => cases hmore
    · cases more with
      | nil =>
        cases hmore
        exact ⟨by simpa using hbefore, rfl⟩
      | cons _ more =>
        cases more with
        | nil => cases hmore
        | cons _ _ => cases hmore
  · cases more with
    | nil =>
      rw [List.append_nil] at hfront'
      rcases hrest with rfl | ⟨m, rfl⟩
      · cases hmore
      · cases hmore
        exact ⟨hfront'.symm, rfl⟩
    | cons m more =>
      cases hmore
      exact absurd (by rw [hfront']; simp) hnot

theorem plan_status_front (result : ScoreResult) :
    (plan printer runId result).countP isStatus = 0 ∨
      ∃ bytes line front rest, eventsPayload printer result.events = .ok bytes ∧
        jsonLine printer result.resultDocument = .ok line ∧
        front = .created .events :: .stored .events bytes true :: .created .result ::
          .stored .result line true :: (publications result.events ++ [FinalizerNote.flushed true]) ∧
        front.countP isStatus = 0 ∧ plan printer runId result = front ++ rest ∧
        (rest = [] ∨ ∃ status, statusOf runId result = some status ∧
          rest = [FinalizerNote.status status true]) := by
  rcases plan_cases printer runId result with h | ⟨bytes, hbytes, h | ⟨line, hline, h⟩⟩
  · rw [h]
    exact .inl rfl
  · rw [h]
    exact .inl rfl
  · obtain ⟨rest, hrest, hannouncement⟩ := announcement_status runId result
    refine .inr ⟨bytes, line, _, rest, hbytes, hline, rfl, ?_, ?_, hrest⟩
    · have hfiles : [FinalizerNote.created .events, .stored .events bytes true,
          .created .result, .stored .result line true].countP isStatus = 0 := rfl
      exact before_status hfiles
    · rw [h, hannouncement]
      rfl

theorem plan_statuses (result : ScoreResult) :
    (plan printer runId result).countP isStatus ≤ 1 := by
  rcases @plan_status_front printer runId result with
    h | ⟨_, _, front, rest, _, _, _, hfront, h, hrest⟩
  · omega
  · rw [h, List.countP_append, hfront]
    rcases hrest with rfl | ⟨status, _, rfl⟩
    · exact Nat.zero_le 1
    · exact le_rfl

theorem plan_quiescence (result : ScoreResult) :
    (plan printer runId result).countP isQuiescence = 0 := by
  rw [List.countP_eq_zero]
  intro n hn hquiescence
  cases n with
  | quiescence module b =>
    rcases plan_cases printer runId result with h | ⟨bytes, _, h | ⟨line, _, h⟩⟩
    · rw [h] at hn
      cases hn
    · rw [h] at hn
      simp at hn
    · rw [h] at hn
      simp [announcement, publications] at hn
  | created _ => cases hquiescence
  | stored _ _ _ => cases hquiescence
  | published _ _ => cases hquiescence
  | flushed _ => cases hquiescence
  | status _ _ => cases hquiescence

/-! ### Of what follows a plan -/

theorem raised_raised (n : FinalizerNote) : raised (raised n) = raised n := by
  cases n with
  | created _ => rfl
  | stored _ _ _ => rfl
  | published _ _ => rfl
  | flushed _ => rfl
  | status _ _ => rfl
  | quiescence _ _ => rfl

theorem created_raised (file : ScoreFile) (n : FinalizerNote) :
    (raised n == .created file) = (n == .created file) := by
  cases n with
  | created _ => rfl
  | stored _ _ _ => rfl
  | published _ _ => rfl
  | flushed _ => rfl
  | status _ _ => rfl
  | quiescence _ _ => rfl

theorem isStatus_raised (n : FinalizerNote) : isStatus (raised n) = isStatus n := by
  cases n with
  | created _ => rfl
  | stored _ _ _ => rfl
  | published _ _ => rfl
  | flushed _ => rfl
  | status _ _ => rfl
  | quiescence _ _ => rfl

theorem isQuiescence_raised (n : FinalizerNote) : isQuiescence (raised n) = isQuiescence n := by
  cases n with
  | created _ => rfl
  | stored _ _ _ => rfl
  | published _ _ => rfl
  | flushed _ => rfl
  | status _ _ => rfl
  | quiescence _ _ => rfl

variable {p : List FinalizerNote}

/-- Whether a note stands for what raised apart, it is a beginning of the plan. -/
theorem Follows.beginning (h : Follows p os) : os.map raised <+: p.map raised := by
  rcases h with h | ⟨done, n, rest, rfl, rfl⟩
  · exact h.map raised
  · refine ⟨rest.map raised, ?_⟩
    simp [raised_raised]

theorem Follows.countP (h : Follows p os) {q : FinalizerNote → Bool}
    (hq : ∀ n, q (raised n) = q n) : os.countP q ≤ p.countP q := by
  have hmap : ∀ ns : List FinalizerNote, (ns.map raised).countP q = ns.countP q := by
    intro ns
    rw [List.countP_map]
    exact List.countP_congr fun n _ => by rw [Function.comp_apply, hq]
  rw [← hmap os, ← hmap p]
  exact h.beginning.sublist.countP_le

theorem publishedOf_raised (ns : List FinalizerNote) : publishedOf (ns.map raised) = publishedOf ns := by
  unfold publishedOf
  rw [List.filterMap_map]
  refine List.filterMap_congr fun n _ => ?_
  cases n with
  | created _ => rfl
  | stored _ _ _ => rfl
  | published _ _ => rfl
  | flushed _ => rfl
  | status _ _ => rfl
  | quiescence _ _ => rfl

theorem Follows.published (h : Follows p os) : publishedOf os <+: publishedOf p := by
  rw [← publishedOf_raised os, ← publishedOf_raised p]
  exact h.beginning.filterMap _

/-- **Up to any of its notes** the plan was followed. -/
theorem Follows.before (h : Follows p os) {front after : List FinalizerNote} {n : FinalizerNote}
    (hos : os = front ++ n :: after) : ∃ m rest, p = front ++ m :: rest ∧ raised m = raised n := by
  rcases h with ⟨rest, rfl⟩ | ⟨done, m, rest, rfl, rfl⟩
  · exact ⟨n, after ++ rest, by rw [hos]; simp, rfl⟩
  · rcases List.append_eq_append_iff.mp hos with ⟨more, hfront, hmore⟩ | ⟨more, hdone, hmore⟩
    · cases more with
      | nil =>
        cases hmore
        rw [List.append_nil] at hfront
        exact ⟨m, rest, by rw [hfront], (raised_raised m).symm⟩
      | cons _ more =>
        cases more with
        | nil => cases hmore
        | cons _ _ => cases hmore
    · cases more with
      | nil =>
        cases hmore
        rw [List.append_nil] at hdone
        exact ⟨m, rest, by rw [hdone], (raised_raised m).symm⟩
      | cons _ more =>
        cases hmore
        exact ⟨n, more ++ m :: rest, by rw [hdone]; simp, rfl⟩

/-- What was noted: along one plan, and the marker at the end. -/
structure Trail (printer : FloatPrinter) (runId : String) (G : ScoreResult → Prop)
    (main marks : List FinalizerNote) (t : FinalizerState) : Prop where
  along : main = [] ∨ ∃ result, G result ∧ Follows (plan printer runId result) main
  ending : (marks = [] ∧ t.quiescent = false) ∨
    ∃ b, marks = [FinalizerNote.quiescence "scorekeeper" b] ∧ t.quiescent = true ∧ t.result ≠ none
  kept : Kept t.disk (main ++ marks)

theorem Stage.trail (h : Stage printer runId G r) :
    ∃ main marks, r.log = main ++ marks ∧ Trail printer runId G main marks r.state := by
  cases h with
  | still h =>
    have hlog := follows_nil h.follows
    refine ⟨[], [], hlog, .inl rfl, .inl ⟨rfl, h.quiescent⟩, ?_⟩
    have hkept := h.kept
    rw [hlog] at hkept
    exact hkept
  | short hgood h _ =>
    refine ⟨r.log, [], (List.append_nil _).symm, .inr ⟨_, hgood, h.follows⟩,
      .inl ⟨rfl, h.quiescent⟩, ?_⟩
    rw [List.append_nil]
    exact h.kept
  | done hgood _ _ h =>
    refine ⟨r.log, [], (List.append_nil _).symm, .inr ⟨_, hgood, .inl ?_⟩,
      .inl ⟨rfl, h.quiescent⟩, ?_⟩
    · rw [h.log]
    · rw [List.append_nil]
      exact h.kept
  | quiet b hgood hresult _ hquiescent hlog hkept =>
    refine ⟨_, _, hlog, .inr ⟨_, hgood, .inl (List.prefix_refl _)⟩, .inr ⟨b, rfl, hquiescent, ?_⟩, ?_⟩
    · rw [hresult]
      exact Option.some_ne_none _
    · rw [← hlog]
      exact hkept

/-- The marker does not count for anything else. -/
theorem Trail.countP {main marks : List FinalizerNote} {t : FinalizerState}
    (h : Trail printer runId G main marks t) {q : FinalizerNote → Bool} {k : ℕ}
    (hq : ∀ n, q (raised n) = q n) (hmark : ∀ b, q (.quiescence "scorekeeper" b) = false)
    (hplan : ∀ result, (plan printer runId result).countP q ≤ k) : (main ++ marks).countP q ≤ k := by
  have hmain : main.countP q ≤ k := by
    rcases h.along with rfl | ⟨result, _, hfollows⟩
    · exact Nat.zero_le k
    · exact (hfollows.countP hq).trans (hplan result)
  have hmarks : marks.countP q = 0 := by
    rcases h.ending with ⟨rfl, _⟩ | ⟨b, rfl, _⟩
    · rfl
    · simp [hmark]
  rw [List.countP_append, hmarks]
  exact hmain

/-- **A stage is honest.** -/
theorem Stage.honest (h : Stage printer runId G r) : Honest printer runId G r.log r.state := by
  obtain ⟨main, marks, hlog, htrail⟩ := h.trail
  rw [hlog]
  have hmarks : publishedOf marks = [] ∧ marks.countP isQuiescence = r.state.quiescent.toNat := by
    rcases htrail.ending with ⟨rfl, hquiescent⟩ | ⟨b, rfl, hquiescent, _⟩
    · rw [hquiescent]
      exact ⟨rfl, rfl⟩
    · rw [hquiescent]
      exact ⟨rfl, rfl⟩
  have happend : publishedOf (main ++ marks) = publishedOf main := by
    unfold publishedOf at hmarks ⊢
    rw [List.filterMap_append, hmarks.1, List.append_nil]
  refine ⟨fun file => ?_, htrail.kept.stored, ?_, fun hnumbered => ?_, ?_,
    fun front status b after hsplit => ?_, ?_, fun hquiescent => ?_⟩
  · exact htrail.countP (created_raised file) (fun _ => rfl) (plan_created file)
  · rw [happend]
    rcases htrail.along with rfl | ⟨result, hgood, hfollows⟩
    · exact .inl rfl
    · exact .inr ⟨result, hgood, hfollows.published.trans (plan_published result)⟩
  · rw [happend]
    rcases htrail.along with rfl | ⟨result, hgood, hfollows⟩
    · exact List.nodup_nil
    · have hpublished := hfollows.published.trans (plan_published result)
      exact (hpublished.map ScoreEvent.eventId).sublist.nodup (hnumbered result hgood).nodup
  · exact htrail.countP isStatus_raised (fun _ => rfl) plan_statuses
  · -- the status stands before the marker
    have hmain : ∃ after, main = front ++ FinalizerNote.status status b :: after := by
      rcases htrail.ending with ⟨rfl, _⟩ | ⟨mark, rfl, _⟩
      · rw [List.append_nil] at hsplit
        exact ⟨after, hsplit⟩
      · rcases List.append_eq_append_iff.mp hsplit with ⟨more, _, hmore⟩ | ⟨more, hmain, hmore⟩
        · cases more with
          | nil => cases hmore
          | cons _ more =>
            cases more with
            | nil => cases hmore
            | cons _ _ => cases hmore
        · cases more with
          | nil => cases hmore
          | cons _ more =>
            cases hmore
            exact ⟨more, hmain⟩
    obtain ⟨after, hmain⟩ := hmain
    rcases htrail.along with rfl | ⟨result, hgood, hfollows⟩
    · cases front with
      | nil => cases hmain
      | cons _ _ => cases hmain
    · obtain ⟨m, rest, hplan, hm⟩ := hfollows.before hmain
      have hstatus : isStatus m = true := by
        rw [← isStatus_raised, hm]
        rfl
      rcases @plan_status_front printer runId result with
        hnone | ⟨bytes, line, files, last, hbytes, hline, hfiles, hfront, hplan', hlast⟩
      · have hcount := List.countP_eq_zero.mp hnone m (by rw [hplan]; simp)
        exact absurd hstatus hcount
      · have hone : last = [] ∨ ∃ m, last = [m] :=
          hlast.imp id fun ⟨_, _, h⟩ => ⟨_, h⟩
        obtain ⟨hbefore, hrest⟩ := split_status hfront hstatus hone (hplan'.symm.trans hplan)
        rcases hlast with rfl | ⟨other, hother, rfl⟩
        · cases hrest
        · cases hrest
          cases hm
          exact ⟨result, bytes, line, hgood, hother, hbytes, hline, hbefore.trans hfiles⟩
  · have hmain : main.countP isQuiescence = 0 := by
      rcases htrail.along with rfl | ⟨result, _, hfollows⟩
      · rfl
      · have hle := hfollows.countP isQuiescence_raised
        rw [plan_quiescence] at hle
        exact Nat.le_zero.mp hle
    rw [List.countP_append, hmain, hmarks.2, Nat.zero_add]
  · rcases htrail.ending with ⟨_, hfalse⟩ | ⟨b, rfl, _, hresult⟩
    · rw [hfalse] at hquiescent
      cases hquiescent
    · exact ⟨hresult, b, List.mem_append_right _ (List.mem_singleton_self _)⟩

/-! ## 5. Every run -/

/-- What a scorer of the calls has answered. -/
def Answered (is : List (Input ε)) (result : ScoreResult) : Prop :=
  ∃ i ∈ is, ∃ noted, i.world.scorerFinalize noted = .ok result

/-- **Every run of calls is honest**, and what it has come to stays. -/
theorem finalization_honest (printer : FloatPrinter) (runId : String)
    (disk : ScoreFile → Option (List UInt8)) (is : List (Input ε)) (os : List FinalizerNote)
    (t : FinalizerState) (hrun : Run (Calling (answer printer runId)) (.initial disk) is os t) :
    Honest printer runId (Answered is) os t ∧
      ∀ (js : List (Input ε)) ps u, Run (Calling (answer printer runId)) t js ps u → Later t u := by
  have hstart : ∀ G : ScoreResult → Prop, Stage printer runId G ⟨.initial disk, []⟩ := fun _ =>
    .still ⟨rfl, rfl, rfl, .inl (List.prefix_refl _),
      (fun _ _ hmem => absurd hmem List.not_mem_nil), fun hne => absurd rfl hne⟩
  have hstage := run_standing (G := Answered is)
    (fun i hi noted result hscored => ⟨i, hi, noted, hscored⟩) (hstart _) hrun
  refine ⟨hstage.1.honest, fun js ps u hlater => ?_⟩
  have hanything : ∀ (x : Input ε) (noted : ℕ) (result : ScoreResult),
      x.world.scorerFinalize noted = .ok result → True := fun _ _ _ _ => trivial
  have hthen := run_standing (G := fun _ => True) (fun i _ => hanything i) (hstart _) hrun
  exact (run_standing (fun i _ => hanything i) hthen.1 hlater).2

/-! ### A marker that is never written -/

/-- A printer, right of 0. -/
def zeroPrinter : FloatPrinter := ⟨fun _ => ofString "0.0", fun _ => encodable_ofString "0.0"⟩

def zeroEvent : ScoreEvent := ⟨"run", 50000000, 0, "score.finalized", 0, "scoring/result.json"⟩

def zeroResult : ScoreResult := ⟨"run", "rules", true, 0, 0, "sha256", [], [], [zeroEvent], none⟩

/-- Everything answers. -/
def calmWorld : FinalizerWorld String where
  scorerFail := fun _ => .ok ()
  lastSimTimestampNs := fun _ => 50000000
  scorerFinalize := fun _ => .ok zeroResult
  mkdir := fun _ => .ok ()
  exist := fun _ _ => .ok ()
  create := fun _ _ => .ok ()
  store := fun _ _ => .ok ()
  syncDirectory := fun _ => .ok ()
  publish := fun _ _ => .ok ()
  flush := fun _ => .ok ()
  writeStatus := fun _ _ => .ok ()
  writeQuiescence := fun _ _ => .ok ()

/-- The writing of the marker raises. -/
def unmarkedWorld : FinalizerWorld String :=
  { calmWorld with writeQuiescence := fun _ _ => .error "OSError" }

/-- Quiescence begins before the marker is written: where that raises, there is none. -/
theorem quiescent_unmarked :
    ¬ ∀ (is : List (Input String)) (os : List FinalizerNote) (t : FinalizerState),
      Run (Calling (answer zeroPrinter "run")) (.initial fun _ => none) is os t →
      t.quiescent = true → FinalizerNote.quiescence "scorekeeper" true ∈ os := by
  intro hclaim
  have hrun := calls_run (answer zeroPrinter "run") [.quiesce unmarkedWorld] (.initial fun _ => none)
  have hquiescent : (calls (answer zeroPrinter "run") (.initial fun _ => none)
      [.quiesce unmarkedWorld]).1.quiescent = true := by decide +kernel
  have hunmarked : FinalizerNote.quiescence "scorekeeper" true ∉ (calls (answer zeroPrinter "run")
      (.initial fun _ => none) [.quiesce unmarkedWorld]).2 := by decide +kernel
  exact hunmarked (hclaim _ _ _ hrun hquiescent)

theorem finalization_honest_calm :
    Honest zeroPrinter "run" (Answered [.finalize calmWorld none, .quiesce calmWorld])
        (calls (answer zeroPrinter "run") (.initial fun _ => none)
          [.finalize calmWorld none, .quiesce calmWorld]).2
        (calls (answer zeroPrinter "run") (.initial fun _ => none)
          [.finalize calmWorld none, .quiesce calmWorld]).1 ∧
      FinalizerNote.status (FinalStatus.scoreFinished "run" 50000000) true ∈
        (calls (answer zeroPrinter "run") (.initial fun _ => none)
          [.finalize calmWorld none, .quiesce calmWorld]).2 := by
  refine ⟨(finalization_honest zeroPrinter "run" (fun _ => none) _ _ _ (calls_run _ _ _)).1, ?_⟩
  decide +kernel

end ScoreFinalizer

end DroneSim
