/-
  File:      DroneSim/Comp2026/LedgerOnce.lean
  Subject:   Attempt tokens are prepared in order and consumed at most once.

  `TokenStep` says what the ledger is for: one counter of prepared tokens, one of consumed ones, and only
  the latest prepared token may be consumed. `run_tokens` is what its runs satisfy. `Serves` ties a state of
  the processes and their files to the counters, and `Serves.step` is the simulation.
-/
import DroneSim.Comp2026.AttemptLedger
import DroneSim.Library.Run
import Mathlib.Data.List.Range

namespace DroneSim

open Library

/-! ## 1. Tokens -/

/-- **What the ledger is for.** An operation may raise after its effect. -/
inductive TokenStep : Ledger → Unit → List LedgerNote → Ledger → Prop where
  | prepare {l : Ledger} (h : l.prepared < maxLedgerAttemptId) (yields : Bool) :
    TokenStep l () (.prepared (l.prepared + 1) ::
      if yields then [.yielded (l.prepared + 1)] else []) { l with prepared := l.prepared + 1 }
  | consume {l : Ledger} (h : l.consumed < l.prepared) (returns : Bool) :
    TokenStep l () (.marked l.prepared :: if returns then [LedgerNote.consumed l.prepared] else [])
      { l with consumed := l.prepared }
  | silent (l : Ledger) : TokenStep l () [] l

def preparedOf : LedgerNote → Option ℕ
  | .prepared attemptId => some attemptId
  | _ => none

def yieldedOf : LedgerNote → Option ℕ
  | .yielded attemptId => some attemptId
  | _ => none

def consumedOf : LedgerNote → Option ℕ
  | .consumed attemptId => some attemptId
  | _ => none

/-- The latest prepared attempt, of a ledger that began so. -/
def latestPrepared (l : Ledger) (os : List LedgerNote) : ℕ :=
  ((os.filterMap preparedOf).getLast?).getD l.prepared

/-- **What runs of the tokens satisfy.** -/
structure Tokens (start : Ledger) (os : List LedgerNote) (l : Ledger) : Prop where
  valid : l.Valid
  /-- The prepared ids go up one by one. -/
  prepared : ∃ count, os.filterMap preparedOf = List.range' (start.prepared + 1) count ∧
    l.prepared = start.prepared + count
  /-- What is yielded was prepared, in this order. -/
  yielded : (os.filterMap yieldedOf).Sublist (os.filterMap preparedOf)
  /-- What is consumed goes up. -/
  rising : (os.filterMap consumedOf).Pairwise (· < ·)
  below : ∀ attemptId ∈ os.filterMap consumedOf, attemptId ≤ l.consumed
  /-- Only the latest prepared attempt is consumed. -/
  latest : ∀ before attemptId after, os = before ++ LedgerNote.consumed attemptId :: after →
    attemptId = latestPrepared start before

theorem Tokens.latestPrepared {start : Ledger} {os : List LedgerNote} {l : Ledger}
    (h : Tokens start os l) : latestPrepared start os = l.prepared := by
  obtain ⟨count, hprepared, hcount⟩ := h.prepared
  unfold DroneSim.latestPrepared
  rw [hprepared, hcount]
  cases count with
  | zero => rfl
  | succ count =>
    rw [List.range'_concat, List.getLast?_append]
    simp
    omega

/-- **Every step of the tokens** keeps it. -/
theorem TokenStep.tokens {start l m : Ledger} {os o : List LedgerNote} (h : Tokens start os l)
    (hstep : TokenStep l () o m) : Tokens start (os ++ o) m := by
  have hlatest := h.latestPrepared
  cases hstep with
  | silent =>
    rw [List.append_nil]
    exact h
  | prepare hbound yields =>
    obtain ⟨count, hprepared, hcount⟩ := h.prepared
    have hnew : (os ++ (LedgerNote.prepared (l.prepared + 1) ::
        if yields then [.yielded (l.prepared + 1)] else [])).filterMap preparedOf =
        List.range' (start.prepared + 1) (count + 1) := by
      rw [List.filterMap_append, hprepared, List.range'_concat]
      cases yields with
      | false =>
        simp [preparedOf]
        omega
      | true =>
        simp [List.filterMap_cons, preparedOf]
        omega
    have hconsumed : (os ++ (LedgerNote.prepared (l.prepared + 1) ::
        if yields then [.yielded (l.prepared + 1)] else [])).filterMap consumedOf =
        os.filterMap consumedOf := by
      rw [List.filterMap_append]
      cases yields with
      | false => simp [List.filterMap_cons, consumedOf]
      | true => simp [List.filterMap_cons, consumedOf]
    refine ⟨⟨Nat.le_succ_of_le h.valid.ordered, hbound⟩, ⟨count + 1, hnew, ?_⟩, ?_, ?_, ?_, ?_⟩
    · show l.prepared + 1 = start.prepared + (count + 1)
      omega
    · rw [List.filterMap_append, List.filterMap_append]
      refine h.yielded.append ?_
      cases yields with
      | false => simp [List.filterMap_cons, yieldedOf]
      | true => simp [List.filterMap_cons, yieldedOf, preparedOf]
    · rw [hconsumed]
      exact h.rising
    · rw [hconsumed]
      exact h.below
    · intro before attemptId after hsplit
      rcases split_append hsplit with ⟨rest, hos, _⟩ | ⟨rest, _, ho⟩
      · exact h.latest before attemptId rest hos
      · have hmem : LedgerNote.consumed attemptId ∈ (LedgerNote.prepared (l.prepared + 1) ::
            if yields then [.yielded (l.prepared + 1)] else []) := by
          rw [ho]
          simp
        cases yields with
        | false => simp at hmem
        | true => simp at hmem
  | consume hbound returns =>
    have hprepared : (os ++ (LedgerNote.marked l.prepared ::
        if returns then [LedgerNote.consumed l.prepared] else [])).filterMap preparedOf =
        os.filterMap preparedOf := by
      rw [List.filterMap_append]
      cases returns with
      | false => simp [List.filterMap_cons, preparedOf]
      | true => simp [List.filterMap_cons, preparedOf]
    have hconsumed : (os ++ (LedgerNote.marked l.prepared ::
        if returns then [LedgerNote.consumed l.prepared] else [])).filterMap consumedOf =
        os.filterMap consumedOf ++ if returns then [l.prepared] else [] := by
      rw [List.filterMap_append]
      cases returns with
      | false => simp [List.filterMap_cons, consumedOf]
      | true => simp [List.filterMap_cons, consumedOf]
    have hless : ∀ attemptId ∈ os.filterMap consumedOf, attemptId < l.prepared :=
      fun attemptId hmem => (h.below attemptId hmem).trans_lt hbound
    refine ⟨⟨le_rfl, h.valid.bounded⟩, ?_, ?_, ?_, ?_, ?_⟩
    · rw [hprepared]
      exact h.prepared
    · rw [hprepared, List.filterMap_append]
      cases returns with
      | false => simpa [List.filterMap_cons, yieldedOf] using h.yielded
      | true => simpa [List.filterMap_cons, yieldedOf] using h.yielded
    · rw [hconsumed, List.pairwise_append]
      refine ⟨h.rising, ?_, fun attemptId hmem other hother => ?_⟩
      · cases returns with
        | false => exact List.Pairwise.nil
        | true => exact List.pairwise_singleton _ _
      · cases returns with
        | false => cases hother
        | true =>
          rw [List.mem_singleton.mp hother]
          exact hless attemptId hmem
    · intro attemptId hmem
      rw [hconsumed] at hmem
      rcases List.mem_append.mp hmem with hmem | hmem
      · exact (hless attemptId hmem).le
      · cases returns with
        | false => cases hmem
        | true => exact (List.mem_singleton.mp hmem).le
    · intro before attemptId after hsplit
      rcases split_append hsplit with ⟨rest, hos, _⟩ | ⟨rest, hbefore, ho⟩
      · exact h.latest before attemptId rest hos
      · cases returns with
        | false =>
          cases rest with
          | nil => cases ho
          | cons _ rest =>
            cases rest with
            | nil => cases ho
            | cons _ _ => cases ho
        | true =>
          have hrest : rest = [.marked l.prepared] ∧ attemptId = l.prepared := by
            cases rest with
            | nil => cases ho
            | cons _ rest =>
              cases rest with
              | nil =>
                cases ho
                exact ⟨rfl, rfl⟩
              | cons _ rest =>
                cases rest with
                | nil => cases ho
                | cons _ _ => cases ho
          rw [hrest.2, hbefore, hrest.1]
          unfold DroneSim.latestPrepared at hlatest ⊢
          rw [List.filterMap_append]
          simpa [List.filterMap_cons, preparedOf] using hlatest.symm

theorem run_tokens {start l : Ledger} {is : List Unit} {os : List LedgerNote} (h0 : start.Valid)
    (h : Run TokenStep start is os l) : Tokens start os l := by
  induction h with
  | start =>
    exact ⟨h0, ⟨0, rfl, rfl⟩, List.Sublist.slnil, List.Pairwise.nil, (fun _ h => by cases h),
      fun before _ _ h => by cases before with
        | nil => cases h
        | cons _ _ => cases h⟩
  | step _ hs ih => exact hs.tokens ih

/-! ## 2. Reading what was written -/

theorem ledgerOf_valid {schema : PyValue → Bool} {value : PyValue} {l : Ledger}
    (h : ledgerOf schema value = some l) : l.Valid := by
  have hcounter : ∀ {v : Option PyValue} {n : ℕ}, validateCounter v = some n → n ≤ maxLedgerAttemptId := by
    intro v n hv
    unfold validateCounter at hv
    split at hv
    · split at hv
      · rename_i hrange
        cases hv
        omega
      · cases hv
    · cases hv
  unfold ledgerOf at h
  split at h
  · split at h
    · split at h
      · split at h
        · rename_i hprepared _
          split at h
          · cases h
          · rename_i horder
            cases h
            exact ⟨Nat.not_lt.mp horder, hcounter hprepared⟩
        · cases h
      · cases h
    · cases h
  · cases h

/-- A document that the stricter check of the version accepts, the other accepts too. -/
theorem ledgerOf_isVersion {value : PyValue} {l : Ledger} (h : ledgerOf isVersion value = some l) :
    ledgerOf equalsVersion value = some l := by
  unfold ledgerOf at h ⊢
  split at h
  · split at h
    · split at h
      · rename_i items hkeys hversion
        have hequals : (PyValue.field items "schema_version").any equalsVersion = true := by
          cases hfield : PyValue.field items "schema_version" with
          | none =>
            rw [hfield] at hversion
            cases hversion
          | some v =>
            rw [hfield] at hversion
            cases v with
            | int n =>
              have hn : n = 1 := of_decide_eq_true hversion
              rw [hn]
              rfl
            | _ => cases hversion
        rw [if_pos hkeys, if_pos hequals]
        exact h
      · cases h
    · cases h
  · cases h

theorem ledgerOf_toDocument {l : Ledger} (h : l.Valid) :
    ledgerOf equalsVersion l.toDocument = some l := by
  have hordered := h.ordered
  have hbounded := h.bounded
  have hcounter : ∀ n : ℕ, n ≤ maxLedgerAttemptId → validateCounter (some (.int n)) = some n := by
    intro n hn
    unfold validateCounter
    dsimp only
    rw [if_pos ⟨Int.natCast_nonneg n, Int.ofNat_le.mpr hn⟩, Int.toNat_natCast]
  have hprepared := hcounter l.prepared hbounded
  have hconsumed := hcounter l.consumed (hordered.trans hbounded)
  unfold ledgerOf Ledger.toDocument
  dsimp only
  rw [if_pos (by rfl), if_pos (by rfl)]
  have hfirst : PyValue.field (document [("consumed_through_attempt_id", .int l.consumed),
      ("last_prepared_attempt_id", .int l.prepared), ("schema_version", .int 1)])
      "last_prepared_attempt_id" = some (.int l.prepared) := by rfl
  have hsecond : PyValue.field (document [("consumed_through_attempt_id", .int l.consumed),
      ("last_prepared_attempt_id", .int l.prepared), ("schema_version", .int 1)])
      "consumed_through_attempt_id" = some (.int l.consumed) := by rfl
  rw [hfirst, hsecond, hprepared, hconsumed]
  exact if_neg (Nat.not_lt.mpr hordered)

namespace LedgerDecoder

variable (d : LedgerDecoder)

theorem readLedger_valid {content : Option (List Char)} {l : Ledger}
    (h : d.readLedger content = some l) : l.Valid := by
  obtain ⟨text, _, h⟩ := Option.bind_eq_some_iff.mp h
  obtain ⟨value, _, h⟩ := Option.bind_eq_some_iff.mp h
  exact ledgerOf_valid h

theorem readLedger_jsonBytes {l : Ledger} (h : l.Valid) :
    d.readLedger (some l.jsonBytes) = some l := by
  show (d.loads l.jsonBytes).bind (ledgerOf equalsVersion) = some l
  rw [d.loads_jsonBytes l h]
  exact ledgerOf_toDocument h

theorem readLedger_of_descriptor {text : List Char} {l : Ledger}
    (h : d.readLedgerDescriptor text = some l) : d.readLedger (some text) = some l := by
  unfold readLedgerDescriptor at h
  split at h
  · obtain ⟨value, hvalue, hread⟩ := Option.bind_eq_some_iff.mp h
    show (d.loads text).bind (ledgerOf equalsVersion) = some l
    rw [hvalue]
    exact ledgerOf_isVersion hread
  · cases h

end LedgerDecoder

/-! ## 3. The processes serve one ledger -/

/-- No pinned file is between its first `pwrite` and its `ftruncate`. -/
def LedgerSystem.Settled (s : LedgerSystem) : Prop :=
  ∀ p inode attemptId payload offset, s.phase p = .writing inode attemptId payload offset →
    offset = 0

/-- No process has begun to write a pinned file. -/
def LedgerSystem.Unwritten (s : LedgerSystem) : Prop :=
  ∀ p inode attemptId payload offset, s.phase p ≠ .writing inode attemptId payload offset

/-- **The processes, their lock and their files serve the ledger.** -/
structure Serves (d : LedgerDecoder) (s : LedgerSystem) (l : Ledger) : Prop where
  valid : l.Valid
  /-- Who does not idle holds the lock. -/
  held : ∀ p, s.phase p ≠ .idle → s.holder = some p
  reads : s.Unwritten → d.readLedger s.disk.file = some l
  /-- A pinned file that is written has the name, and so much of the next ledger. -/
  writes : ∀ p inode attemptId payload offset, s.phase p = .writing inode attemptId payload offset →
    s.disk.named = some inode ∧ attemptId = l.prepared ∧ l.consumed < attemptId ∧
      payload = ({ l with consumed := attemptId } : Ledger).jsonBytes ∧
      (s.disk.content inode).take offset = payload.take offset ∧
      (offset = 0 → d.readLedger (some (s.disk.content inode)) = some l)

namespace Serves

variable {d : LedgerDecoder} {s : LedgerSystem} {l m : Ledger} {p : ℕ} {phase : LedgerPhase}
  {t : LedgerSystem} {o : List LedgerNote}

/-- A process that holds the lock is the only one that does not idle. -/
theorem alone (h : Serves d s l) (hp : s.phase p ≠ .idle) (q : ℕ) (hq : q ≠ p) :
    s.phase q = .idle := by
  by_contra hidle
  have heq : some q = some p := (h.held q hidle).symm.trans (h.held p hp)
  exact hq (Option.some.inj heq)

/-- If it does not write, then nobody does. -/
theorem unwritten (h : Serves d s l) (hp : s.phase p ≠ .idle)
    (hwrite : ∀ inode attemptId payload offset, s.phase p ≠ .writing inode attemptId payload offset) :
    s.Unwritten := by
  intro q inode attemptId payload offset hq
  by_cases hqp : q = p
  · rw [hqp] at hq
    exact hwrite _ _ _ _ hq
  · rw [h.alone hp q hqp] at hq
    cases hq

theorem unwritten_of_free (h : Serves d s l) (hfree : s.holder = none) : s.Unwritten := by
  intro q inode attemptId payload offset hq
  have hheld := h.held q (by rw [hq]; exact LedgerPhase.noConfusion)
  rw [hfree] at hheld
  cases hheld

/-- Before its first `pwrite` the file is still the ledger. -/
theorem reads_settled (h : Serves d s l) (hsettled : s.Settled) :
    d.readLedger s.disk.file = some l := by
  by_cases hwriting : s.Unwritten
  · exact h.reads hwriting
  · unfold LedgerSystem.Unwritten at hwriting
    push Not at hwriting
    obtain ⟨p, inode, attemptId, payload, offset, hp⟩ := hwriting
    obtain ⟨hnamed, _, _, _, _, hfirst⟩ := h.writes _ _ _ _ _ hp
    unfold LedgerDisk.file
    rw [hnamed]
    exact hfirst (hsettled _ _ _ _ _ hp)

/-- The process that holds the lock goes on, with the files in which it leaves the ledger. -/
theorem enter (h : Serves d s l) (hp : s.phase p ≠ .idle) (hm : m.Valid) {disk : LedgerDisk}
    (hreads : (∀ inode attemptId payload offset, phase ≠ .writing inode attemptId payload offset) →
      d.readLedger disk.file = some m)
    (hwrites : ∀ inode attemptId payload offset, phase = .writing inode attemptId payload offset →
      disk.named = some inode ∧ attemptId = m.prepared ∧ m.consumed < attemptId ∧
        payload = ({ m with consumed := attemptId } : Ledger).jsonBytes ∧
        (disk.content inode).take offset = payload.take offset ∧
        (offset = 0 → d.readLedger (some (disk.content inode)) = some m)) :
    Serves d (({ s with disk := disk } : LedgerSystem).enter p phase) m := by
  have hother : ∀ q, q ≠ p → Function.update s.phase p phase q = .idle := fun q hq => by
    rw [Function.update_of_ne hq]
    exact h.alone hp q hq
  refine ⟨hm, ?_, ?_, ?_⟩
  · intro q hq
    by_cases hqp : q = p
    · rw [hqp]
      exact h.held p hp
    · exact absurd (hother q hqp) hq
  · intro hunwritten
    refine hreads fun inode attemptId payload offset heq => hunwritten p inode attemptId payload offset ?_
    show Function.update s.phase p phase p = _
    rw [Function.update_self]
    exact heq
  · intro q inode attemptId payload offset hq
    have hq' : Function.update s.phase p phase q = .writing inode attemptId payload offset := hq
    by_cases hqp : q = p
    · rw [hqp, Function.update_self] at hq'
      exact hwrites _ _ _ _ hq'
    · rw [hother q hqp] at hq'
      cases hq'

/-- It goes on without a change in the files. -/
theorem leave (h : Serves d s l) (hp : s.phase p ≠ .idle)
    (hreads : d.readLedger s.disk.file = some l) : Serves d (s.enter p .leaving) l :=
  h.enter hp h.valid (fun _ => hreads) (fun _ _ _ _ heq => by cases heq)

theorem lock (h : Serves d s l)
    (hphase : ∀ inode attemptId payload offset, phase ≠ .writing inode attemptId payload offset)
    (hstep : s.lock p phase = some (t, o)) : o = [] ∧ Serves d t l := by
  unfold LedgerSystem.lock at hstep
  split at hstep
  · rename_i hfree
    cases hstep
    have hunwritten := h.unwritten_of_free hfree.1
    have hidle : ∀ q, s.phase q = .idle := fun q => by
      by_contra hq
      have hheld := h.held q hq
      rw [hfree.1] at hheld
      cases hheld
    refine ⟨rfl, h.valid, ?_, fun _ => h.reads hunwritten, ?_⟩
    · intro q hq
      by_cases hqp : q = p
      · rw [hqp]
      · exact absurd ((Function.update_of_ne hqp _ _).trans (hidle q)) hq
    · intro q inode attemptId payload offset hq
      have hq' : Function.update s.phase p phase q = .writing inode attemptId payload offset := hq
      by_cases hqp : q = p
      · rw [hqp, Function.update_self] at hq'
        exact absurd hq' (hphase _ _ _ _)
      · rw [Function.update_of_ne hqp, hidle q] at hq'
        cases hq'
  · cases hstep

theorem release (h : Serves d s l) (hp : s.phase p ≠ .idle) (hunwritten : s.Unwritten) :
    Serves d (s.release p) l := by
  have hidle : ∀ q, (s.release p).phase q = .idle := by
    intro q
    show Function.update s.phase p .idle q = .idle
    by_cases hqp : q = p
    · rw [hqp, Function.update_self]
    · rw [Function.update_of_ne hqp]
      exact h.alone hp q hqp
  refine ⟨h.valid, fun q hq => absurd (hidle q) hq, fun _ => h.reads hunwritten, ?_⟩
  intro q inode attemptId payload offset hq
  rw [hidle q] at hq
  cases hq

/-- **A replaced file** is the next ledger, if it is replaced at all. -/
theorem replaceWith (h : Serves d s l) (hp : s.phase p ≠ .idle)
    (hreads : d.readLedger s.disk.file = some l) (hm : m.Valid) {how : Replacing}
    (hphase : ∀ inode attemptId payload offset, phase ≠ .writing inode attemptId payload offset)
    {done returned : LedgerNote} (hstep : s.replaceWith p m how phase done returned = (t, o)) :
    (o = [] ∧ Serves d t l) ∨
      ∃ returns : Bool, (o = done :: if returns then [returned] else []) ∧ Serves d t m := by
  have hread : d.readLedger (s.atomicWrite m).disk.file = some m := by
    show d.readLedger (some (Function.update s.disk.content s.disk.unused m.jsonBytes
      s.disk.unused)) = some m
    rw [Function.update_self]
    exact d.readLedger_jsonBytes hm
  cases how with
  | raisesBefore =>
    cases hstep
    exact Or.inl ⟨rfl, h.leave hp hreads⟩
  | raisesAfter =>
    cases hstep
    exact Or.inr ⟨false, rfl, h.enter hp hm (fun _ => hread) (fun _ _ _ _ heq => by cases heq)⟩
  | returns =>
    cases hstep
    exact Or.inr ⟨true, rfl,
      h.enter hp hm (fun _ => hread) (fun _ _ _ _ heq => absurd heq (hphase _ _ _ _))⟩

/-- `consume` lets only the latest prepared attempt through. -/
theorem mayConsume {attemptId : ℕ} (h : LedgerSystem.mayConsume l attemptId = true) :
    attemptId = l.prepared ∧ l.consumed < attemptId := by
  unfold LedgerSystem.mayConsume at h
  obtain ⟨hless, heq⟩ := Bool.and_eq_true_iff.mp h
  exact ⟨of_decide_eq_true heq, of_decide_eq_true hless⟩

/-! ## 4. What one step does -/

theorem prepareNext (h : Serves d s l) (hp : s.phase p = .preparing) {how : Replacing}
    (hstep : s.prepareNext d p how = (t, o)) : ∃ m, TokenStep l () o m ∧ Serves d t m := by
  have hbusy : s.phase p ≠ .idle := by
    rw [hp]
    exact LedgerPhase.noConfusion
  have hreads := h.reads (h.unwritten hbusy fun _ _ _ _ heq => by
    rw [hp] at heq
    cases heq)
  unfold LedgerSystem.prepareNext at hstep
  rw [hreads] at hstep
  dsimp only at hstep
  split at hstep
  · cases hstep
    exact ⟨l, .silent l, h.leave hbusy hreads⟩
  · rename_i hbound
    have hless := Nat.not_le.mp hbound
    have hvalid : ({ l with prepared := l.prepared + 1 } : Ledger).Valid :=
      ⟨Nat.le_succ_of_le h.valid.ordered, hless⟩
    rcases h.replaceWith hbusy hreads hvalid (fun _ _ _ _ heq => by cases heq) hstep with
      ⟨rfl, hserves⟩ | ⟨yields, rfl, hserves⟩
    · exact ⟨l, .silent l, hserves⟩
    · exact ⟨_, .prepare hless yields, hserves⟩

theorem consume (h : Serves d s l) {attemptId : ℕ} (hp : s.phase p = .consuming attemptId)
    {how : Replacing} (hstep : s.consume d p attemptId how = (t, o)) :
    ∃ m, TokenStep l () o m ∧ Serves d t m := by
  have hbusy : s.phase p ≠ .idle := by
    rw [hp]
    exact LedgerPhase.noConfusion
  have hreads := h.reads (h.unwritten hbusy fun _ _ _ _ heq => by
    rw [hp] at heq
    cases heq)
  unfold LedgerSystem.consume at hstep
  rw [hreads] at hstep
  dsimp only at hstep
  split at hstep
  · rename_i hmay
    obtain ⟨rfl, hless⟩ := mayConsume hmay
    have hvalid : ({ l with consumed := l.prepared } : Ledger).Valid := ⟨le_rfl, h.valid.bounded⟩
    rcases h.replaceWith hbusy hreads hvalid (fun _ _ _ _ heq => by cases heq) hstep with
      ⟨rfl, hserves⟩ | ⟨returns, rfl, hserves⟩
    · exact ⟨l, .silent l, hserves⟩
    · exact ⟨_, .consume hless returns, hserves⟩
  · cases hstep
    exact ⟨l, .silent l, h.leave hbusy hreads⟩

/-- What is pinned and has the name is what the other writer would read. -/
theorem consumePinned (h : Serves d s l) {inode attemptId : ℕ}
    (hp : s.phase p = .pinned inode attemptId) :
    Serves d (s.consumePinned d p inode attemptId) l := by
  have hbusy : s.phase p ≠ .idle := by
    rw [hp]
    exact LedgerPhase.noConfusion
  have hreads := h.reads (h.unwritten hbusy fun _ _ _ _ heq => by
    rw [hp] at heq
    cases heq)
  unfold LedgerSystem.consumePinned
  split
  · rename_i hnamed
    have hfile : s.disk.file = some (s.disk.content inode) := by
      unfold LedgerDisk.file
      rw [hnamed]
      rfl
    split
    · exact h.leave hbusy hreads
    · rename_i k hk
      have hkl : k = l := by
        have hk' := d.readLedger_of_descriptor hk
        rw [← hfile, hreads] at hk'
        exact (Option.some.inj hk').symm
      rw [hkl]
      split
      · rename_i hmay
        obtain ⟨heq, hless⟩ := mayConsume hmay
        refine h.enter hbusy h.valid (fun hno => absurd rfl (hno _ _ _ _)) ?_
        rintro _ _ _ _ ⟨⟩
        refine ⟨hnamed, heq, hless, rfl, by rw [List.take_zero, List.take_zero], fun _ => ?_⟩
        rw [← hfile]
        exact hreads
      · exact h.leave hbusy hreads
  · exact h.leave hbusy hreads

/-- The part that is written grows. -/
theorem take_overwrite {text payload : List Char} {offset written : ℕ}
    (htext : text.take offset = payload.take offset) (hfit : offset + written ≤ payload.length) :
    (LedgerSystem.overwrite text payload offset written).take (offset + written) =
      payload.take (offset + written) := by
  have hpart : text.take offset ++ (payload.drop offset).take written =
      payload.take (offset + written) := by
    rw [htext, List.take_add]
  unfold LedgerSystem.overwrite
  rw [hpart]
  exact List.take_left' (List.length_take_of_le hfit)

theorem pwrite (h : Serves d s l) {inode attemptId offset written : ℕ} {payload : List Char}
    (hp : s.phase p = .writing inode attemptId payload offset)
    (hstep : s.pwrite p inode attemptId payload offset written = some (t, o)) :
    o = [] ∧ Serves d t l := by
  have hbusy : s.phase p ≠ .idle := by
    rw [hp]
    exact LedgerPhase.noConfusion
  obtain ⟨hnamed, heq, hless, hpayload, htake, _⟩ := h.writes _ _ _ _ _ hp
  unfold LedgerSystem.pwrite at hstep
  split at hstep
  · rename_i hfit
    cases hstep
    refine ⟨rfl, h.enter hbusy h.valid (fun hno => absurd rfl (hno _ _ _ _)) ?_⟩
    rintro _ _ _ _ ⟨⟩
    refine ⟨hnamed, heq, hless, hpayload, ?_, fun hzero => absurd hzero (by omega)⟩
    show (Function.update s.disk.content inode
      (LedgerSystem.overwrite (s.disk.content inode) payload offset written) inode).take _ = _
    rw [Function.update_self]
    exact take_overwrite htake hfit.2
  · cases hstep

theorem truncate (h : Serves d s l) {inode attemptId offset : ℕ} {payload : List Char}
    {synced : Bool} (hp : s.phase p = .writing inode attemptId payload offset)
    (hstep : s.truncate p inode attemptId payload offset synced = some (t, o)) :
    ∃ m, TokenStep l () o m ∧ Serves d t m := by
  have hbusy : s.phase p ≠ .idle := by
    rw [hp]
    exact LedgerPhase.noConfusion
  obtain ⟨hnamed, rfl, hless, hpayload, htake, _⟩ := h.writes _ _ _ _ _ hp
  unfold LedgerSystem.truncate at hstep
  split at hstep
  · rename_i hend
    cases hstep
    have hvalid : ({ l with consumed := l.prepared } : Ledger).Valid := ⟨le_rfl, h.valid.bounded⟩
    refine ⟨_, .consume hless synced,
      h.enter hbusy hvalid (fun _ => ?_) (fun _ _ _ _ heq => by cases heq)⟩
    show d.readLedger (s.disk.named.map (Function.update s.disk.content inode
      ((s.disk.content inode).take payload.length))) = _
    rw [hnamed, Option.map_some, Function.update_self, ← hend, htake, hend, List.take_length,
      hpayload]
    exact d.readLedger_jsonBytes hvalid
  · cases hstep

/-- **Every step of the processes** is a step of the tokens. -/
theorem step (h : Serves d s l) {act : LedgerAct} (hstep : s.step d p act = some (t, o)) :
    ∃ m, TokenStep l () o m ∧ Serves d t m := by
  have hsilent : o = [] ∧ Serves d t l → ∃ m, TokenStep l () o m ∧ Serves d t m := by
    rintro ⟨rfl, hserves⟩
    exact ⟨l, .silent l, hserves⟩
  have hleave : ∀ {phase : LedgerPhase}, s.phase p = phase → phase ≠ .idle →
      (∀ inode attemptId payload offset, phase ≠ .writing inode attemptId payload offset) →
      some (s.enter p .leaving, ([] : List LedgerNote)) = some (t, o) →
      ∃ m, TokenStep l () o m ∧ Serves d t m := by
    rintro phase rfl hbusy hwrite ⟨⟩
    exact ⟨l, .silent l, h.leave hbusy (h.reads (h.unwritten hbusy hwrite))⟩
  have hrelease : ∀ {phase : LedgerPhase}, s.phase p = phase → phase ≠ .idle →
      (∀ inode attemptId payload offset, phase ≠ .writing inode attemptId payload offset) →
      some (s.release p, ([] : List LedgerNote)) = some (t, o) →
      ∃ m, TokenStep l () o m ∧ Serves d t m := by
    rintro phase rfl hbusy hwrite ⟨⟩
    exact ⟨l, .silent l, h.release hbusy (h.unwritten hbusy hwrite)⟩
  unfold LedgerSystem.step at hstep
  split at hstep
  · exact hsilent (h.lock (fun _ _ _ _ heq => by cases heq) hstep)
  · split at hstep
    · exact hsilent (h.lock (fun _ _ _ _ heq => by cases heq) hstep)
    · cases hstep
  · split at hstep
    · exact hsilent (h.lock (fun _ _ _ _ heq => by cases heq) hstep)
    · cases hstep
  · rename_i hp
    exact h.prepareNext hp (Option.some.inj hstep)
  · rename_i hp
    exact h.consume hp (Option.some.inj hstep)
  · rename_i hp
    cases hstep
    exact hsilent ⟨rfl, h.consumePinned hp⟩
  · rename_i hp
    exact hsilent (h.pwrite hp hstep)
  · rename_i hp
    exact h.truncate hp hstep
  · rename_i hp
    exact hleave hp LedgerPhase.noConfusion (fun _ _ _ _ heq => by cases heq) hstep
  · rename_i hp
    exact hleave hp LedgerPhase.noConfusion (fun _ _ _ _ heq => by cases heq) hstep
  · rename_i hp
    exact hleave hp LedgerPhase.noConfusion (fun _ _ _ _ heq => by cases heq) hstep
  · -- the first `pwrite` raises: the pinned file is as it was
    rename_i hp
    cases hstep
    have hbusy : s.phase p ≠ .idle := by
      rw [hp]
      exact LedgerPhase.noConfusion
    obtain ⟨hnamed, _, _, _, _, hfirst⟩ := h.writes _ _ _ _ _ hp
    refine hsilent ⟨rfl, h.leave hbusy ?_⟩
    unfold LedgerDisk.file
    rw [hnamed]
    exact hfirst rfl
  · rename_i hp
    exact hrelease hp LedgerPhase.noConfusion (fun _ _ _ _ heq => by cases heq) hstep
  · rename_i hp
    exact hrelease hp LedgerPhase.noConfusion (fun _ _ _ _ heq => by cases heq) hstep
  · cases hstep

end Serves

/-! ## 5. A decoder of the written texts -/

/-- What follows a beginning. -/
def afterText : List Char → List Char → Option (List Char)
  | [], text => some text
  | c :: cs, a :: text => if c = a then afterText cs text else none
  | _ :: _, [] => none

theorem afterText_append (cs text : List Char) : afterText cs (cs ++ text) = some text := by
  induction cs with
  | nil => rfl
  | cons c cs ih =>
    show (if c = c then afterText cs (cs ++ text) else none) = some text
    rw [if_pos rfl]
    exact ih

/-- The number at the beginning, and what follows it. -/
def scanNumber (text : List Char) : ℕ × List Char :=
  (Nat.ofDigitChars 10 (text.takeWhile Char.isDigit) 0, text.dropWhile Char.isDigit)

theorem scanNumber_toDigits (n : ℕ) {c : Char} (hc : c.isDigit = false) (text : List Char) :
    scanNumber (Nat.toDigits 10 n ++ c :: text) = (n, c :: text) := by
  have hdigits : ∀ a ∈ Nat.toDigits 10 n, a.isDigit = true := fun a ha =>
    Nat.isDigit_of_mem_toDigits (by decide) (by decide) ha
  unfold scanNumber
  rw [List.takeWhile_append_of_pos hdigits, List.dropWhile_append_of_pos hdigits,
    List.takeWhile_cons_of_neg (by rw [hc]; decide), List.dropWhile_cons_of_neg (by rw [hc]; decide),
    List.append_nil, Nat.ofDigitChars_ten_toDigits]

/-- The ledger of a text as `_json_bytes` writes it. -/
def scanLedger (text : List Char) : Option Ledger :=
  (afterText Ledger.textHead text).bind fun text =>
    (afterText Ledger.textMiddle (scanNumber text).2).bind fun rest =>
      if (scanNumber rest).2 = Ledger.textTail then
        some ⟨(scanNumber rest).1, (scanNumber text).1⟩
      else none

theorem scanLedger_jsonBytes (l : Ledger) : scanLedger l.jsonBytes = some l := by
  have hmiddle : ∀ text, scanNumber (Nat.toDigits 10 l.consumed ++ (Ledger.textMiddle ++ text)) =
      (l.consumed, Ledger.textMiddle ++ text) := fun text => scanNumber_toDigits _ (by decide) _
  have htail : scanNumber (Nat.toDigits 10 l.prepared ++ Ledger.textTail) =
      (l.prepared, Ledger.textTail) := scanNumber_toDigits _ (by decide) _
  unfold scanLedger Ledger.jsonBytes
  rw [afterText_append, Option.bind_some, hmiddle, afterText_append, Option.bind_some, htail,
    if_pos rfl]

/-- A decoder that accepts these texts only. -/
def writtenDecoder : LedgerDecoder where
  loads text := (scanLedger text).map Ledger.toDocument
  loads_jsonBytes l _ := by
    rw [scanLedger_jsonBytes]
    rfl

/-! ## 6. Runs -/

theorem run_serves {d : LedgerDecoder} {s t : LedgerSystem} {start : Ledger}
    {is : List (ℕ × LedgerAct)} {os : List LedgerNote} (h0 : Serves d s start)
    (h : Run (LedgerSteps d) s is os t) :
    ∃ us l, Run TokenStep start us os l ∧ Serves d t l := by
  induction h with
  | start => exact ⟨[], start, .start, h0⟩
  | step _ hs ih =>
    obtain ⟨us, l, hrun, hserves⟩ := ih
    obtain ⟨m, hstep, hnext⟩ := hserves.step (LedgerSystem.step_of_accept hs)
    exact ⟨us ++ [()], m, .step hrun hstep, hnext⟩

/-- **Attempt tokens are prepared in order and consumed at most once**, by any number of processes
    with either writer; a ledger that nobody is writing into is valid. -/
theorem ledger_once (d : LedgerDecoder) {s t : LedgerSystem} {start : Ledger}
    {is : List (ℕ × LedgerAct)} {os : List LedgerNote} (hidle : ∀ p, s.phase p = .idle)
    (hfile : d.readLedger s.disk.file = some start) (h : Run (LedgerSteps d) s is os t) :
    (∃ count, os.filterMap preparedOf = List.range' (start.prepared + 1) count) ∧
      (os.filterMap yieldedOf).Sublist (os.filterMap preparedOf) ∧
      (os.filterMap consumedOf).Nodup ∧
      (∀ before attemptId after, os = before ++ LedgerNote.consumed attemptId :: after →
        attemptId = latestPrepared start before) ∧
      (t.Settled → ∃ l, d.readLedger t.disk.file = some l ∧ l.Valid) ∧
      ∀ p inode attemptId payload offset, t.phase p = .writing inode attemptId payload offset →
        t.holder = some p := by
  have h0 : Serves d s start := by
    refine ⟨d.readLedger_valid hfile, fun p hp => absurd (hidle p) hp, fun _ => hfile, ?_⟩
    intro p inode attemptId payload offset hp
    rw [hidle p] at hp
    cases hp
  obtain ⟨us, l, hrun, hserves⟩ := run_serves h0 h
  have htokens := run_tokens h0.valid hrun
  obtain ⟨count, hprepared, _⟩ := htokens.prepared
  refine ⟨⟨count, hprepared⟩, htokens.yielded, htokens.rising.imp Nat.ne_of_lt, htokens.latest,
    fun hsettled => ⟨l, hserves.reads_settled hsettled, hserves.valid⟩, ?_⟩
  intro p inode attemptId payload offset hp
  exact hserves.held p (by rw [hp]; exact LedgerPhase.noConfusion)

/-- A pinned ledger: attempt 20 is prepared, 19 is consumed. -/
def pinnedLedger : LedgerSystem where
  disk := { named := some 7, content := fun _ => (Ledger.mk 20 19).jsonBytes, unused := 8 }
  holder := none
  phase := fun _ => .idle

theorem pinnedLedger_reads :
    writtenDecoder.readLedger pinnedLedger.disk.file = some ⟨20, 19⟩ :=
  writtenDecoder.readLedger_jsonBytes ⟨by decide, by decide⟩

/-- The pinned writer consumes 20 in two writes, then another process prepares 21 and a third one
    asks for 20 again. -/
def bothWriters : List (ℕ × LedgerAct) :=
  [(0, .consumePinned 7 20), (0, .check), (0, .pwrite 38), (0, .pwrite 65), (0, .truncate true),
    (0, .release), (1, .prepareNext), (1, .replace .returns), (1, .release), (2, .consume 20),
    (2, .replace .returns)]

theorem ledger_once_both : ∃ (t : LedgerSystem) (os : List LedgerNote),
    Run (LedgerSteps writtenDecoder) pinnedLedger bothWriters os t ∧
      os.filterMap consumedOf = [20] ∧ (os.filterMap consumedOf).Nodup ∧
      ∃ count, os.filterMap preparedOf = List.range' 21 count := by
  have hexec : (exec (LedgerSystem.accept writtenDecoder) (fun _ _ => true) pinnedLedger
      bothWriters).any (fun r => decide (r.2.filterMap consumedOf = [20])) = true := by
    decide +kernel
  obtain ⟨t, os, hrun, hos⟩ := exists_run (f := LedgerSystem.accept writtenDecoder)
    (p := fun _ (os : List LedgerNote) => decide (os.filterMap consumedOf = [20])) hexec
  have hrun := hrun.of_meeting
  obtain ⟨hprepared, _, hconsumed, _⟩ :=
    ledger_once writtenDecoder (fun _ => rfl) pinnedLedger_reads hrun
  exact ⟨t, os, hrun, of_decide_eq_true hos, hconsumed, hprepared⟩

/-- **A short write shows**: the file that the path names has 29 as consumed. -/
theorem pinned_write_shows : ∃ t os, (∀ p, pinnedLedger.phase p = .idle) ∧
    writtenDecoder.readLedger pinnedLedger.disk.file = some ⟨20, 19⟩ ∧
    Run (LedgerSteps writtenDecoder) pinnedLedger
      [(0, .consumePinned 7 20), (0, .check), (0, .pwrite 38)] os t ∧
    t.disk.file = some (Ledger.mk 20 29).jsonBytes ∧ ¬ (Ledger.mk 20 29).Valid := by
  have hexec : (exec (LedgerSystem.accept writtenDecoder) (fun _ _ => true) pinnedLedger
      [(0, .consumePinned 7 20), (0, .check), (0, .pwrite 38)]).any
      (fun r => decide (r.1.disk.file = some (Ledger.mk 20 29).jsonBytes)) = true := by
    decide +kernel
  obtain ⟨t, os, hrun, hfile⟩ := exists_run (f := LedgerSystem.accept writtenDecoder)
    (p := fun t _ => decide (t.disk.file = some (Ledger.mk 20 29).jsonBytes)) hexec
  exact ⟨t, os, fun _ => rfl, pinnedLedger_reads, hrun.of_meeting, of_decide_eq_true hfile,
    fun h => absurd h.ordered (by decide)⟩

/-! ## 7. What the file records -/

def markedOf : LedgerNote → Option ℕ
  | .marked attemptId => some attemptId
  | _ => none

/-- The last attempt that a file named as consumed, of a ledger that began so. -/
def latestMarked (l : Ledger) (os : List LedgerNote) : ℕ :=
  ((os.filterMap markedOf).getLast?).getD l.consumed

theorem TokenStep.marked {start l m : Ledger} {os o : List LedgerNote}
    (h : l.consumed = latestMarked start os) (hstep : TokenStep l () o m) :
    m.consumed = latestMarked start (os ++ o) := by
  unfold latestMarked at h ⊢
  rw [List.filterMap_append]
  cases hstep with
  | silent => simpa using h
  | prepare _ yields => cases yields <;> simpa [List.filterMap_cons, markedOf] using h
  | consume _ returns => cases returns <;> simp [List.filterMap_cons, markedOf]

theorem run_marked {start l : Ledger} {us : List Unit} {os : List LedgerNote}
    (h : Run TokenStep start us os l) : l.consumed = latestMarked start os := by
  induction h with
  | start => rfl
  | step _ hs ih => exact hs.marked ih

/-- **The file is the record of the history.** Whenever the lock is free or no file is being
    written, the path reads as the last prepared and the last marked attempt of the whole run, so
    it never goes back, and it covers all that `consume` has returned. -/
theorem ledger_records (d : LedgerDecoder) {s t : LedgerSystem} {start : Ledger}
    {is : List (ℕ × LedgerAct)} {os : List LedgerNote} (hidle : ∀ p, s.phase p = .idle)
    (hfile : d.readLedger s.disk.file = some start) (h : Run (LedgerSteps d) s is os t)
    (hquiet : t.holder = none ∨ t.Settled) :
    d.readLedger t.disk.file = some ⟨latestPrepared start os, latestMarked start os⟩ ∧
      ∀ attemptId ∈ os.filterMap consumedOf, attemptId ≤ latestMarked start os := by
  have h0 : Serves d s start := ⟨d.readLedger_valid hfile, fun p hp => absurd (hidle p) hp,
    fun _ => hfile, fun p _ _ _ _ hp => nomatch (hidle p).symm.trans hp⟩
  obtain ⟨us, l, hrun, hserves⟩ := run_serves h0 h
  have htokens := run_tokens h0.valid hrun
  rw [htokens.latestPrepared, ← run_marked hrun]
  exact ⟨hquiet.elim (fun hfree => hserves.reads (hserves.unwritten_of_free hfree)) hserves.reads_settled, htokens.below⟩

/-- After both writers. -/
theorem ledger_records_both : ∃ t : LedgerSystem,
    writtenDecoder.readLedger t.disk.file = some ⟨21, 20⟩ := by
  obtain ⟨t, os, hrun, hos⟩ := exists_run (f := LedgerSystem.accept writtenDecoder)
    (C := fun _ _ => true) (s := pinnedLedger) (l := bothWriters ++ [(2, .release)])
    (p := fun t os => decide (t.holder = none ∧ latestPrepared ⟨20, 19⟩ os = 21 ∧
      latestMarked ⟨20, 19⟩ os = 20)) (by decide +kernel)
  obtain ⟨hfree, hprepared, hmarked⟩ := of_decide_eq_true hos
  have hread := (ledger_records writtenDecoder (fun _ => rfl) pinnedLedger_reads hrun.of_meeting
    (Or.inl hfree)).1
  rw [hprepared, hmarked] at hread
  exact ⟨t, hread⟩

end DroneSim
