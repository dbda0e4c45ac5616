/-
  File:      DroneSim/Library/Awaiting.lean
  Subject:   The newest value at a time, from two slots.

  Stamped values arrive in the order of their stamps, some ahead of the clock. One slot holds the
  value that is current at the clock, the other one value whose time is still to come; `promote`
  moves it once its time has come. `Kept` says what the slots hold of the values accepted so far.
  It outlasts a value that no awaited one is before (`Kept.accept`), and then a look at the slots
  is a look at the whole history (`Kept.reads`).
-/
import Mathlib.Algebra.Order.Ring.Int
import Mathlib.Data.List.Basic

namespace DroneSim.Library

variable {α : Type}

structure Awaiting (α : Type) where
  latest : Option α
  pending : Option α

/-- The newest of the values whose stamp is at most `t`. -/
def newestAt (f : α → ℤ) (accepted : List α) (t : ℤ) : Option α :=
  (accepted.filter fun a => f a ≤ t).getLast?

/-- This value, if it is at most `d` old. -/
def freshAt (f : α → ℤ) (d : ℤ) (accepted : List α) (t : ℤ) : Option α :=
  (newestAt f accepted t).filter fun a => t - f a ≤ d

namespace Awaiting

variable {f : α → ℤ} {d t : ℤ} {s : Awaiting α} {accepted : List α} {a : α}

def empty : Awaiting α := ⟨none, none⟩

/-- The pending value becomes the latest once its time has come. -/
def promote (f : α → ℤ) (now : Option ℤ) (s : Awaiting α) : Awaiting α :=
  match now, s.pending with
  | some now, some a => if f a ≤ now then ⟨some a, none⟩ else s
  | _, _ => s

/-- The value accepted last. -/
def newest (s : Awaiting α) : Option α := s.pending.or s.latest

/-- A new value: the latest, or the pending one where its time is still to come. -/
def put (f : α → ℤ) (now : Option ℤ) (a : α) (s : Awaiting α) : Awaiting α :=
  if now.any fun (now : ℤ) => f a ≤ now then ⟨some a, none⟩ else ⟨s.latest, some a⟩

/-- **What the slots hold of the accepted values**: the last one before the awaited ones, and the
    last of the awaited ones, which all have one stamp. -/
def Kept (f : α → ℤ) (accepted : List α) (s : Awaiting α) : Prop :=
  accepted.Pairwise (fun a b => f a ≤ f b) ∧ ∃ before after, accepted = before ++ after ∧
    s.latest = before.getLast? ∧ s.pending = after.getLast? ∧ ∀ a ∈ after, ∀ b ∈ after, f a = f b

theorem kept_empty : Kept f [] (empty : Awaiting α) :=
  ⟨.nil, [], [], rfl, rfl, rfl, fun _ ha => absurd ha List.not_mem_nil⟩

theorem last_of_some {l : List α} (h : l.getLast? = some a) : ∃ m, l = m ++ [a] :=
  List.getLast?_eq_some_iff.mp h

/-- In a list with rising stamps none is after that of the last value. -/
theorem le_last {l : List α} (h : l.Pairwise fun a b => f a ≤ f b) (ha : l.getLast? = some a) :
    ∀ b ∈ l, f b ≤ f a := by
  intro b hb
  obtain ⟨m, rfl⟩ := last_of_some ha
  rcases List.mem_append.mp hb with hb | hb
  · exact (List.pairwise_append.mp h).2.2 b hb a (List.mem_singleton_self a)
  · rw [List.mem_singleton.mp hb]

/-- The newest value is the one accepted last. -/
theorem Kept.newest (h : Kept f accepted s) : s.newest = accepted.getLast? := by
  obtain ⟨_, before, after, rfl, hlatest, hpending, _⟩ := h
  rw [Awaiting.newest, hlatest, hpending, List.getLast?_append]

theorem Kept.promote (h : Kept f accepted s) (now : Option ℤ) :
    Kept f accepted (s.promote f now) := by
  unfold Awaiting.promote
  split
  · rename_i now a hpending
    split
    · obtain ⟨hrising, before, after, rfl, _, hafter, _⟩ := h
      refine ⟨hrising, before ++ after, [], by rw [List.append_nil], ?_, rfl,
        fun _ ha => absurd ha List.not_mem_nil⟩
      rw [List.getLast?_append, ← hafter, hpending]
      rfl
    · exact h
  · exact h

/-- After a promotion the pending value is still to come. -/
theorem pending_promote {now : ℤ} (h : (s.promote f (some now)).pending = some a) : now < f a := by
  unfold Awaiting.promote at h
  split at h
  · rename_i n b hn hpending
    obtain rfl := Option.some.inj hn
    split at h
    · cases h
    · rename_i hlater
      rw [hpending] at h
      rw [← Option.some.inj h]
      exact Int.not_le.mp hlater
  · rename_i hno
    exact absurd h (hno now a rfl)

/-- **A value that is accepted**: no earlier one, and none after an awaited one. -/
theorem Kept.accept (h : Kept f accepted s) (now : Option ℤ)
    (hlast : ∀ b, (s.promote f now).newest = some b → f b ≤ f a)
    (hawaited : ∀ b, (s.promote f now).pending = some b → f a ≤ f b) :
    Kept f (accepted ++ [a]) ((s.promote f now).put f now a) := by
  have hkept := h.promote now
  have hnewest := hkept.newest
  obtain ⟨hrising, before, after, hsplit, hlatest, hpending, hsame⟩ := hkept
  have hall : ∀ b ∈ accepted, f b ≤ f a := by
    intro b hb
    obtain ⟨last, hgot⟩ : ∃ last, accepted.getLast? = some last :=
      ⟨_, List.getLast?_eq_some_getLast (List.ne_nil_of_mem hb)⟩
    exact (le_last hrising hgot b hb).trans (hlast last (hnewest.trans hgot))
  refine ⟨List.pairwise_append.mpr ⟨hrising, List.pairwise_singleton _ a, fun b hb c hc =>
    List.mem_singleton.mp hc ▸ hall b hb⟩, ?_⟩
  unfold put
  split
  · -- its time has come, so none is awaited any more
    exact ⟨accepted ++ [a], [], by rw [List.append_nil], by simp, rfl,
      fun _ hb => absurd hb List.not_mem_nil⟩
  · refine ⟨before, after ++ [a], by rw [hsplit, List.append_assoc], hlatest, by simp, ?_⟩
    have hstamp : ∀ b ∈ after, f b = f a := by
      intro b hb
      obtain ⟨last, hgot⟩ : ∃ last, after.getLast? = some last :=
        ⟨_, List.getLast?_eq_some_getLast (List.ne_nil_of_mem hb)⟩
      have hge := hawaited last (hpending.trans hgot)
      have hle := hall last (by rw [hsplit]; exact List.mem_append_right _ (List.mem_of_getLast? hgot))
      have heq := hsame b hb last (List.mem_of_getLast? hgot)
      omega
    intro b hb c hc
    rcases List.mem_append.mp hb with hb | hb <;> rcases List.mem_append.mp hc with hc | hc
    · exact hsame b hb c hc
    · rw [hstamp b hb, List.mem_singleton.mp hc]
    · rw [hstamp c hc, List.mem_singleton.mp hb]
    · rw [List.mem_singleton.mp hb, List.mem_singleton.mp hc]

/-- What a look at the slots finds at time `t`. -/
def look (f : α → ℤ) (d t : ℤ) (s : Awaiting α) : Option α :=
  (s.promote f (some t)).latest.filter fun a => decide (f a ≤ t) && decide (t - f a ≤ d)

/-- After a promotion to `t` the newest value at `t` is the latest, unless that is from later. -/
theorem Kept.latest (h : Kept f accepted (s.promote f (some t)))
    (hnow : ∀ a, (s.promote f (some t)).latest = some a → f a ≤ t) :
    newestAt f accepted t = (s.promote f (some t)).latest := by
  obtain ⟨hrising, before, after, rfl, hlatest, hpending, hsame⟩ := h
  have hbefore : before.filter (fun a => f a ≤ t) = before := by
    refine List.filter_eq_self.mpr fun b hb => ?_
    obtain ⟨last, hgot⟩ : ∃ last, before.getLast? = some last :=
      ⟨_, List.getLast?_eq_some_getLast (List.ne_nil_of_mem hb)⟩
    have hle := le_last (List.pairwise_append.mp hrising).1 hgot b hb
    exact decide_eq_true (hle.trans (hnow last (hlatest.trans hgot)))
  have hafter : after.filter (fun a => f a ≤ t) = [] := by
    refine List.filter_eq_nil_iff.mpr fun b hb => ?_
    obtain ⟨last, hgot⟩ : ∃ last, after.getLast? = some last :=
      ⟨_, List.getLast?_eq_some_getLast (List.ne_nil_of_mem hb)⟩
    have hlater := pending_promote (hpending.trans hgot)
    have heq := hsame b hb last (List.mem_of_getLast? hgot)
    simp only [decide_eq_true_eq]
    omega
  rw [newestAt, List.filter_append, hbefore, hafter, List.append_nil, hlatest]

/-- **A look at the slots is a look at the accepted values**, exactly where it is not for a time
    before the latest value at which an older one was fresh. -/
theorem Kept.reads (h : Kept f accepted s) (d t : ℤ) :
    s.look f d t = freshAt f d accepted t ↔
      ∀ a, (s.promote f (some t)).latest = some a → f a ≤ t ∨ freshAt f d accepted t = none := by
  have hkept := h.promote (some t)
  constructor
  · intro heq a ha
    by_cases hle : f a ≤ t
    · exact Or.inl hle
    · refine Or.inr (heq.symm.trans ?_)
      rw [look, ha, Option.filter_some, decide_eq_false hle]
      rfl
  · intro hcond
    by_cases hnow : ∀ a, (s.promote f (some t)).latest = some a → f a ≤ t
    · rw [look, freshAt, hkept.latest hnow]
      cases hlatest : (s.promote f (some t)).latest with
      | none => rfl
      | some a =>
        rw [Option.filter_some, Option.filter_some, decide_eq_true (hnow a hlatest), Bool.true_and]
    · obtain ⟨a, hno⟩ := not_forall.mp hnow
      obtain ⟨ha, hlater⟩ := Classical.not_imp.mp hno
      rw [(hcond a ha).resolve_left hlater, look, ha, Option.filter_some, decide_eq_false hlater]
      rfl

end Awaiting

end DroneSim.Library
