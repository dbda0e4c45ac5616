/-
  File:      DroneSim/Library/Settling.lean
  Subject:   The first element at which an unbroken run of a list is long enough.

  A run is a block of neighbouring elements that all pass a test and whose stamps are exactly one
  spacing apart (`UnbrokenRun`). `firstSettled` walks the list once and keeps the stamps of the
  present run's two ends (`RunEnds`). It answers at the first element that ends a run of the wanted
  length; where the stamps rise, that is the least stamp at which one ends
  (`firstSettled_some`, `firstSettled_none`).
-/
import DroneSim.Library.Streams
import Mathlib.Data.List.Chain
import Mathlib.Data.List.Infix
import Mathlib.Order.Bounds.Basic

namespace DroneSim.Library

variable {α : Type} {p : α → Bool} {f : α → ℕ} {i d : ℕ} {l l' run : List α} {a b : α} {t : ℕ}
  {ends : Option (ℕ × ℕ)}

/-! ## 1. Runs -/

/-- `run` is a block of `l` whose elements pass `p`, with stamps exactly `i` apart. -/
structure UnbrokenRun (p : α → Bool) (f : α → ℕ) (i : ℕ) (l run : List α) : Prop where
  part : run <:+: l
  passes : ∀ a ∈ run, p a = true
  spaced : run.IsChain fun a b => f b = f a + i

/-- A run of `l` spans at least `d` and ends at stamp `t`. -/
def SettledAt (p : α → Bool) (f : α → ℕ) (i d : ℕ) (l : List α) (t : ℕ) : Prop :=
  ∃ run first last, UnbrokenRun p f i l run ∧ run.head? = some first ∧ run.getLast? = some last ∧
    f first + d ≤ f last ∧ f last = t

/-- A run of `l` up to its last element begins at stamp `s`. -/
def RunFrom (p : α → Bool) (f : α → ℕ) (i : ℕ) (l : List α) (s : ℕ) : Prop :=
  ∃ run first, UnbrokenRun p f i l run ∧ run <:+ l ∧ run.head? = some first ∧ f first = s

/-- One more element ends the runs that it does not continue. -/
theorem runFrom_snoc {s : ℕ} : RunFrom p f i (l ++ [a]) s ↔
    p a = true ∧ (s = f a ∨ RunFrom p f i l s ∧ ∃ b, l.getLast? = some b ∧ f a = f b + i) := by
  constructor
  · rintro ⟨run, first, ⟨_, hpass, hspaced⟩, hend, hfirst, rfl⟩
    rcases List.suffix_concat_iff.mp hend with rfl | ⟨before, rfl, hbefore⟩
    · cases hfirst
    rw [List.isChain_append] at hspaced
    refine ⟨hpass a (by simp), ?_⟩
    cases before with
    | nil =>
      refine Or.inl ?_
      rw [List.nil_append, List.head?_cons] at hfirst
      rw [Option.some.inj hfirst]
    | cons c rest =>
      obtain ⟨b, hb⟩ : ∃ b, (c :: rest).getLast? = some b :=
        ⟨_, List.getLast?_eq_some_getLast (List.cons_ne_nil c rest)⟩
      have hc : c = first := Option.some.inj hfirst
      have hlast : l.getLast? = some b := by
        obtain ⟨w, hw⟩ := hbefore
        rw [← hw, List.getLast?_append, hb]
        rfl
      refine Or.inr ⟨⟨c :: rest, c, ⟨hbefore.isInfix, fun x hx => hpass x (List.mem_append_left _ hx),
        hspaced.1⟩, hbefore, rfl, by rw [hc]⟩, b, hlast, ?_⟩
      exact hspaced.2.2 b (by rw [hb]; rfl) a (by simp)
  · rintro ⟨hp, rfl | ⟨⟨run, first, ⟨_, hpass, hspaced⟩, hend, hfirst, rfl⟩, b, hb, hstep⟩⟩
    · have hend : [a] <:+ l ++ [a] := List.suffix_append l [a]
      exact ⟨[a], a, ⟨hend.isInfix, fun x hx => List.mem_singleton.mp hx ▸ hp, .singleton a⟩, hend,
        rfl, rfl⟩
    · obtain ⟨w, rfl⟩ := hend
      have hend : run ++ [a] <:+ w ++ run ++ [a] := ⟨w, by rw [List.append_assoc]⟩
      refine ⟨run ++ [a], first, ⟨hend.isInfix, fun x hx => ?_, ?_⟩, hend, ?_, rfl⟩
      · rcases List.mem_append.mp hx with hx | hx
        · exact hpass x hx
        · exact List.mem_singleton.mp hx ▸ hp
      · refine List.isChain_append.mpr ⟨hspaced, .singleton a, fun x hx y hy => ?_⟩
        rw [List.getLast?_append, hx] at hb
        have hxb : x = b := Option.some.inj hb
        have hya : a = y := by simpa using hy
        rw [hxb, ← hya]
        exact hstep
      · rw [List.head?_append, hfirst]
        rfl

/-- The list settles at its last element: a run up to it spans at least `d`. -/
def Settles (p : α → Bool) (f : α → ℕ) (i d : ℕ) (l : List α) : Prop :=
  ∃ s b, RunFrom p f i l s ∧ l.getLast? = some b ∧ s + d ≤ f b

/-- A list settles at stamp `t` where a part of it up to an element of that stamp settles. -/
theorem settledAt_iff : SettledAt p f i d l t ↔
    ∃ before a after, l = before ++ a :: after ∧ f a = t ∧ Settles p f i d (before ++ [a]) := by
  constructor
  · rintro ⟨run, first, last, ⟨⟨u, v, rfl⟩, hpass, hspaced⟩, hfirst, hlast, hlong, rfl⟩
    obtain ⟨rest, rfl⟩ := List.getLast?_eq_some_iff.mp hlast
    refine ⟨u ++ rest, last, v, by simp, rfl, f first, last, ?_, by simp, hlong⟩
    have hend : rest ++ [last] <:+ u ++ rest ++ [last] := ⟨u, by rw [List.append_assoc]⟩
    exact ⟨_, first, ⟨hend.isInfix, hpass, hspaced⟩, hend, hfirst, rfl⟩
  · rintro ⟨before, a, after, rfl, rfl, s, b, ⟨run, first, ⟨_, hpass, hspaced⟩, ⟨w, hw⟩, hfirst,
      rfl⟩, hb, hlong⟩
    have hba : a = b := by simpa using hb
    subst hba
    have hlast : run.getLast? = some a := by
      have hall : (w ++ run).getLast? = some a := by rw [hw, hb]
      cases run with
      | nil => cases hfirst
      | cons c rest =>
        rw [List.getLast?_append] at hall
        obtain ⟨x, hx⟩ : ∃ x, (c :: rest).getLast? = some x :=
          ⟨_, List.getLast?_eq_some_getLast (List.cons_ne_nil c rest)⟩
        rw [hx] at hall ⊢
        exact hall
    refine ⟨run, first, a, ⟨⟨w, after, ?_⟩, hpass, hspaced⟩, hfirst, hlast, hlong, rfl⟩
    rw [hw, List.append_assoc]
    rfl

/-! ## 2. The walk -/

/-- The stamps of the two ends of the present run, after one more element. -/
def runOn (p : α → Bool) (f : α → ℕ) (i : ℕ) (ends : Option (ℕ × ℕ)) (a : α) : Option (ℕ × ℕ) :=
  if p a then
    match ends with
    | some (s, b) => if f a = b + i then some (s, f a) else some (f a, f a)
    | none => some (f a, f a)
  else none

theorem runOn_failing (hp : p a = false) : runOn p f i ends a = none := by
  unfold runOn
  rw [hp]
  rfl

theorem runOn_first (hp : p a = true) : runOn p f i none a = some (f a, f a) := by
  unfold runOn
  rw [hp]
  rfl

theorem runOn_next {s t : ℕ} (hp : p a = true) (hon : f a = t + i) :
    runOn p f i (some (s, t)) a = some (s, f a) := by
  unfold runOn
  rw [if_pos hp]
  exact if_pos hon

theorem runOn_gap {s t : ℕ} (hp : p a = true) (hoff : f a ≠ t + i) :
    runOn p f i (some (s, t)) a = some (f a, f a) := by
  unfold runOn
  rw [if_pos hp]
  exact if_neg hoff

/-- The first stamp at which the present run spans at least `d`. -/
def firstSettled (p : α → Bool) (f : α → ℕ) (i d : ℕ) : Option (ℕ × ℕ) → List α → Option ℕ
  | _, [] => none
  | ends, a :: l =>
    match runOn p f i ends a with
    | some (s, b) => if s + d ≤ b then some b else firstSettled p f i d (some (s, b)) l
    | none => firstSettled p f i d none l

/-- What is known of the runs up to the last element of `l`. -/
def RunEnds (p : α → Bool) (f : α → ℕ) (i : ℕ) (l : List α) : Option (ℕ × ℕ) → Prop
  | none => ∀ s, ¬RunFrom p f i l s
  | some (s, t) => RunFrom p f i l s ∧ (∀ u, RunFrom p f i l u → s ≤ u) ∧
    ∃ b, l.getLast? = some b ∧ f b = t ∧ s ≤ t

theorem runEnds_nil : RunEnds p f i [] none := by
  rintro s ⟨run, first, _, hend, hfirst, _⟩
  rw [List.suffix_nil.mp hend] at hfirst
  cases hfirst

/-- The runs up to one more element, where no earlier run goes on. -/
theorem runEnds_fresh (hp : p a = true)
    (hnew : ∀ u b, RunFrom p f i l u → l.getLast? = some b → f a ≠ f b + i) :
    RunEnds p f i (l ++ [a]) (some (f a, f a)) := by
  refine ⟨runFrom_snoc.mpr ⟨hp, Or.inl rfl⟩, fun u hu => ?_, a, by simp, rfl, le_refl _⟩
  rcases (runFrom_snoc.mp hu).2 with rfl | ⟨hu, b, hb, hab⟩
  · exact le_refl _
  · exact absurd hab (hnew u b hu hb)

/-- **One element.** -/
theorem RunEnds.step (h : RunEnds p f i l ends) (a : α) :
    RunEnds p f i (l ++ [a]) (runOn p f i ends a) := by
  cases hp : p a with
  | false =>
    rw [runOn_failing hp]
    intro s hs
    have hpass := (runFrom_snoc.mp hs).1
    rw [hp] at hpass
    cases hpass
  | true =>
    cases ends with
    | none =>
      rw [runOn_first hp]
      exact runEnds_fresh hp fun u b hu => absurd hu (h u)
    | some ends =>
      obtain ⟨s, t⟩ := ends
      obtain ⟨hrun, hleast, b, hb, hbt, hst⟩ := h
      by_cases hon : f a = t + i
      · rw [runOn_next hp hon]
        refine ⟨runFrom_snoc.mpr ⟨hp, Or.inr ⟨hrun, b, hb, by rw [hbt]; exact hon⟩⟩, fun u hu => ?_,
          a, by simp, rfl, by omega⟩
        rcases (runFrom_snoc.mp hu).2 with rfl | ⟨hu, _⟩
        · omega
        · exact hleast u hu
      · rw [runOn_gap hp hon]
        refine runEnds_fresh hp fun u c _ hc hac => hon ?_
        rw [hb] at hc
        rw [hac, ← Option.some.inj hc, hbt]

/-- The list settles at its last element where the longest run up to it is long enough. -/
theorem RunEnds.settles (h : RunEnds p f i l ends) :
    Settles p f i d l ↔ ∃ s t, ends = some (s, t) ∧ s + d ≤ t := by
  cases ends with
  | none =>
    constructor
    · rintro ⟨s, b, hs, _⟩
      exact absurd hs (h s)
    · rintro ⟨_, _, he, _⟩
      cases he
  | some ends =>
    obtain ⟨s, t⟩ := ends
    obtain ⟨hrun, hleast, b, hb, rfl, _⟩ := h
    constructor
    · rintro ⟨u, c, hu, hc, hlong⟩
      rw [hb] at hc
      rw [← Option.some.inj hc] at hlong
      have hsu := hleast u hu
      exact ⟨s, f b, rfl, by omega⟩
    · rintro ⟨_, _, he, hlong⟩
      cases he
      exact ⟨s, b, hrun, hb, hlong⟩

/-- **The walk answers at the first element of the list at which it settles.** -/
theorem firstSettled_spec (h : RunEnds p f i l' ends) (l : List α) :
    (∀ t, firstSettled p f i d ends l = some t ↔ ∃ before a after, l = before ++ a :: after ∧
      f a = t ∧ Settles p f i d (l' ++ before ++ [a]) ∧
      ∀ m b, m ++ [b] <+: before → ¬Settles p f i d (l' ++ m ++ [b])) := by
  induction l generalizing l' ends with
  | nil =>
    intro t
    constructor
    · intro he
      cases he
    · rintro ⟨before, a, after, he, _⟩
      exact absurd he.symm (by simp)
  | cons x l ih =>
    intro t
    have hstep := h.step x
    have hsettles := hstep.settles (d := d)
    -- past the first element the walk goes on from the longer list
    have hrest (hno : ¬Settles p f i d (l' ++ [x])) :
        firstSettled p f i d (runOn p f i ends x) l = some t ↔
          ∃ before a after, x :: l = before ++ a :: after ∧ f a = t ∧
            Settles p f i d (l' ++ before ++ [a]) ∧
            ∀ m b, m ++ [b] <+: before → ¬Settles p f i d (l' ++ m ++ [b]) := by
      rw [ih hstep t]
      constructor
      · rintro ⟨before, a, after, rfl, hat, hset, hearlier⟩
        refine ⟨x :: before, a, after, rfl, hat, by simpa using hset, fun m b hm => ?_⟩
        cases m with
        | nil =>
          obtain ⟨rfl, _⟩ := List.cons_prefix_cons.mp hm
          simpa using hno
        | cons y m =>
          obtain ⟨rfl, hrest⟩ := List.cons_prefix_cons.mp hm
          simpa using hearlier m b hrest
      · rintro ⟨before, a, after, he, hat, hset, hearlier⟩
        cases before with
        | nil =>
          cases he
          exact absurd (by simpa using hset) hno
        | cons y before =>
          cases he
          refine ⟨before, a, after, rfl, hat, by simpa using hset, fun m b hm => ?_⟩
          simpa using hearlier (x :: m) b (List.cons_prefix_cons.mpr ⟨rfl, hm⟩)
    rw [firstSettled]
    split
    · rename_i s b hends
      obtain ⟨_, _, c, hc, hcb, _⟩ : RunEnds p f i (l' ++ [x]) (some (s, b)) := hends ▸ hstep
      have hxc : x = c := by simpa using hc
      split
      · rename_i hlong
        have hset : Settles p f i d (l' ++ [x]) := hsettles.mpr ⟨s, b, hends, hlong⟩
        constructor
        · intro he
          exact ⟨[], x, l, rfl, by rw [hxc, hcb]; exact Option.some.inj he, by simpa using hset,
            fun m b hm => absurd (List.prefix_nil.mp hm) (by simp)⟩
        · rintro ⟨before, a, after, he, hat, _, hearlier⟩
          cases before with
          | nil =>
            cases he
            rw [← hat, hxc, hcb]
          | cons y before =>
            cases he
            exact absurd (by simpa using hset) (hearlier [] x (by simp))
      · rename_i hshort
        rw [← hends]
        refine hrest fun hset => hshort ?_
        obtain ⟨s', b', he, hlong⟩ := hsettles.mp hset
        rw [hends] at he
        cases he
        exact hlong
    · rename_i hends
      rw [← hends]
      refine hrest fun hset => ?_
      obtain ⟨s', b', he, _⟩ := hsettles.mp hset
      rw [hends] at he
      cases he

/-! ## 3. What the walk answers -/

/-- **No answer means that no run is long enough.** -/
theorem firstSettled_none :
    firstSettled p f i d none l = none ↔ ∀ t, ¬SettledAt p f i d l t := by
  have hspec (t : ℕ) := firstSettled_spec (d := d) (runEnds_nil (p := p) (f := f) (i := i)) l t
  constructor
  · intro hnone t hat
    obtain ⟨before, a, after, hl, hfa, hset⟩ := settledAt_iff.mp hat
    clear hat hfa
    -- the first element at which the list settles is at or before `a`
    induction hn : before.length using Nat.strong_induction_on generalizing before a after with
    | _ n ih =>
      have hno : firstSettled p f i d none l ≠ some (f a) := by
        rw [hnone]
        exact (Option.some_ne_none (f a)).symm
      refine hno ((hspec (f a)).mpr ⟨before, a, after, hl, rfl, hset, fun m b hm hearlier => ?_⟩)
      obtain ⟨rest, rfl⟩ := hm
      rw [List.length_append, List.length_append, List.length_singleton] at hn
      exact ih m.length (by omega) m b (rest ++ a :: after) (by rw [hl]; simp)
        hearlier rfl
  · intro hno
    cases hat : firstSettled p f i d none l with
    | none => rfl
    | some t =>
      obtain ⟨before, a, after, hl, ha, hset, _⟩ := (hspec t).mp hat
      exact absurd (settledAt_iff.mpr ⟨before, a, after, hl, ha, hset⟩) (hno t)

/-- **Where the stamps rise, the answer is the least stamp at which a run is long enough.** -/
theorem firstSettled_some (hl : Increasing f l) :
    firstSettled p f i d none l = some t ↔ IsLeast {t | SettledAt p f i d l t} t := by
  have hleast {t : ℕ} (ht : firstSettled p f i d none l = some t) :
      IsLeast {t | SettledAt p f i d l t} t := by
    obtain ⟨before, a, after, rfl, rfl, hset, hearlier⟩ := (firstSettled_spec runEnds_nil l t).mp ht
    refine ⟨settledAt_iff.mpr ⟨before, a, after, rfl, rfl, by simpa using hset⟩, fun u hu => ?_⟩
    obtain ⟨m, b, rest, hall, rfl, hset⟩ := settledAt_iff.mp hu
    rcases List.append_eq_append_iff.mp hall with ⟨w, hw, hrest⟩ | ⟨w, hw, hrest⟩
    · cases w with
      | nil =>
        cases hrest
        exact le_refl _
      | cons c w =>
        obtain ⟨rfl, rfl⟩ := List.cons.inj hrest
        exact Nat.le_of_lt (hl.right.across (l := [a]) (by simp) (by simp))
    · cases w with
      | nil =>
        cases hrest
        exact le_refl _
      | cons c w =>
        obtain ⟨rfl, rfl⟩ := List.cons.inj hrest
        refine absurd (by simpa using hset) (hearlier m b ?_)
        rw [hw]
        exact ⟨w, by simp⟩
  constructor
  · exact hleast
  · intro ht
    cases hat : firstSettled p f i d none l with
    | none => exact absurd ht.1 (firstSettled_none.mp hat t)
    | some u => rw [(hleast hat).unique ht]

end DroneSim.Library
