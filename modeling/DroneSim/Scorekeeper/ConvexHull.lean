/-
  File:      DroneSim/Scorekeeper/ConvexHull.lean
  Subject:   The convex hull of the judge (scorekeeper/vfs.py, `_convex_hull`) is one.

  `Supporting Ahead points stack` is the invariant of a half of the monotone chain, for a sweep one
  way or the other: the stack leads from the last point back to the first, turns left at each, and
  every point so far is on the left of each of its sides. `Halves` says the same of both halves
  together; the corners, in their order, are the sides' beginnings.
-/
import DroneSim.Scorekeeper.Footprint
import DroneSim.Library.Polygon

namespace DroneSim

open Plane

theorem cross_eq_turn (o a b : Point) : cross o a b = turn o a b := rfl

/-! ## 1. A half of the hull -/

/-- The stack turns left at each point between its ends. -/
def Turning : List Point → Prop
  | c :: b :: a :: rest => 0 < turn a b c ∧ Turning (b :: a :: rest)
  | _ => True

/-- **The invariant of the monotone chain.** -/
structure Supporting (Ahead : Point → Prop) (points stack : List Point) : Prop where
  mem : ∀ p ∈ stack, p ∈ points
  newest : ∃ top rest, stack = top :: rest ∧ ∀ q ∈ points, q = top ∨ Ahead (top - q)
  oldest : ∃ first, stack.getLast? = some first ∧ ∀ q ∈ points, q = first ∨ Ahead (q - first)
  sorted : stack.Pairwise fun b a => Ahead (b - a)
  turning : Turning stack
  supports : ∀ s ∈ adjacent stack, ∀ q ∈ points, 0 ≤ turn s.2 s.1 q

theorem Supporting.congr {Ahead : Point → Prop} {points points' stack : List Point}
    (h : Supporting Ahead points stack) (hmem : ∀ p, p ∈ points ↔ p ∈ points') :
    Supporting Ahead points' stack where
  mem p hp := (hmem p).mp (h.mem p hp)
  newest := by
    obtain ⟨top, rest, hstack, hnewest⟩ := h.newest
    exact ⟨top, rest, hstack, fun q hq => hnewest q ((hmem q).mpr hq)⟩
  oldest := by
    obtain ⟨first, hlast, holdest⟩ := h.oldest
    exact ⟨first, hlast, fun q hq => holdest q ((hmem q).mpr hq)⟩
  sorted := h.sorted
  turning := h.turning
  supports s hs q hq := h.supports s hs q ((hmem q).mpr hq)

variable {points stack : List Point}

theorem turning_of_cons {p : Point} (h : Turning (p :: stack)) : Turning stack := by
  match stack, h with
  | [], _ => trivial
  | [_], _ => trivial
  | _ :: _ :: _, h => exact h.2

theorem turning_of_append {s stack : List Point} (h : Turning (s ++ stack)) : Turning stack := by
  induction s with
  | nil => exact h
  | cons p s ih => exact ih (turning_of_cons h)

theorem turning_cons {p top : Point} {rest : List Point} (h : Turning (top :: rest))
    (hturn : ∀ a ∈ rest.head?, 0 < turn a top p) : Turning (p :: top :: rest) := by
  cases rest with
  | nil => trivial
  | cons a rest => exact ⟨hturn a rfl, h⟩

/-- **What the pops leave**: a last leg that turns left to `p`, and right behind it a point that
    does not. -/
theorem popTurns_spec (p : Point) (h : stack ≠ []) :
    ∃ s top rest, stack = s ++ top :: rest ∧ popTurns p stack = top :: rest ∧
      (∀ a ∈ rest.head?, 0 < turn a top p) ∧
        (s = [] ∨ ∃ s' c, s = s' ++ [c] ∧ turn top c p ≤ 0) := by
  induction stack with
  | nil => exact absurd rfl h
  | cons b stack ih =>
    cases stack with
    | nil => exact ⟨[], b, [], rfl, rfl, fun a ha => by simp at ha, Or.inl rfl⟩
    | cons a stack =>
      by_cases hpop : cross a b p ≤ 0
      · obtain ⟨s, top, rest, hstack, hpopped, hturn, hbehind⟩ := ih (List.cons_ne_nil _ _)
        refine ⟨b :: s, top, rest, by rw [hstack, List.cons_append], ?_, hturn, Or.inr ?_⟩
        · rw [popTurns, if_pos hpop]
          exact hpopped
        · rcases hbehind with rfl | ⟨s', c, rfl, hc⟩
          · obtain ⟨rfl, rfl⟩ := List.cons.inj hstack
            exact ⟨[], b, rfl, hpop⟩
          · exact ⟨b :: s', c, rfl, hc⟩
      · refine ⟨[], b, a :: stack, rfl, ?_, fun c hc => ?_, Or.inl rfl⟩
        · rw [popTurns, if_neg hpop]
        · rw [List.head?_cons, Option.mem_some_iff] at hc
          subst hc
          exact lt_of_not_ge hpop

section Half

variable {Ahead : Point → Prop}

/-- A point to the left of the last leg is to the left of all. -/
theorem left_of_legs (hsweep : Sweep Ahead) {p : Point} {rest : List Point} {b a : Point}
    (hsorted : (b :: a :: rest).Pairwise fun b a => Ahead (b - a))
    (hturning : Turning (b :: a :: rest)) (hp : Ahead (p - b)) (hturn : 0 < turn a b p) :
    ∀ s ∈ adjacent (b :: a :: rest), 0 < turn s.2 s.1 p := by
  induction rest generalizing b a with
  | nil =>
    intro s hs
    rcases mem_adjacent_cons.mp hs with rfl | hs
    · exact hturn
    · simp [adjacent] at hs
  | cons z rest ih =>
    intro s hs
    rcases mem_adjacent_cons.mp hs with rfl | hs
    · exact hturn
    · rw [List.pairwise_cons] at hsorted
      have hab := hsorted.1 a (by simp)
      have hza := (List.pairwise_cons.mp hsorted.2).1 z (by simp)
      exact ih hsorted.2 hturning.2 (hsweep.trans hab hp)
        (hsweep.along hza hab hp hturning.1 hturn) s hs

/-- **The new leg** has every point so far on its left. -/
theorem left_of_newLeg (hsweep : Sweep Ahead) {points s rest : List Point} {top p q : Point}
    (h : Supporting Ahead points (s ++ top :: rest)) (hp : ∀ q ∈ points, Ahead (p - q))
    (hturn : ∀ a ∈ rest.head?, 0 < turn a top p)
    (hbehind : s = [] ∨ ∃ s' c, s = s' ++ [c] ∧ turn top c p ≤ 0) (hq : q ∈ points) :
    0 ≤ turn top p q := by
  have htop : top ∈ points := h.mem top (by simp)
  rcases hsweep.total (q - top) with heq | hafter | hbefore
  · rw [sub_eq_zero.mp heq, turn_right]
  · -- after `top`: a leg was given up, and `q` is on its left, `p` is not
    rcases hbehind with rfl | ⟨s', c, rfl, hc⟩
    · obtain ⟨t, r, hstack, hnewest⟩ := h.newest
      obtain ⟨rfl, -⟩ := List.cons.inj hstack
      rcases hnewest q hq with rfl | hback
      · rw [turn_right]
      · rw [← neg_sub] at hback
        exact absurd hback (hsweep.asymm hafter)
    · have hstack : s' ++ [c] ++ top :: rest = s' ++ c :: top :: rest := by simp
      have hsorted := h.sorted
      rw [hstack] at hsorted
      have hctop : Ahead (c - top) :=
        (List.pairwise_cons.mp (List.pairwise_append.mp hsorted).2.1).1 top (by simp)
      have hleg : (c, top) ∈ adjacent (s' ++ [c] ++ top :: rest) := by
        rw [hstack, mem_adjacent_append]
        exact Or.inr (mem_adjacent_cons.mpr (Or.inl rfl))
      have hqc : 0 ≤ turn top c q := h.supports _ hleg q hq
      have hpc : 0 ≤ turn top p c := by
        rw [turn_swap]
        exact neg_nonneg.mpr hc
      exact hsweep.around (hp top htop) hctop hafter hpc hqc
  · -- before `top`: both `q` and `p` are on the left of the leg before it
    rw [neg_sub] at hbefore
    cases rest with
    | nil =>
      obtain ⟨first, hlast, holdest⟩ := h.oldest
      rw [List.getLast?_append_of_ne_nil _ (List.cons_ne_nil _ _), List.getLast?_singleton] at hlast
      cases hlast
      rcases holdest q hq with rfl | hon
      · rw [turn_right]
      · rw [← neg_sub] at hbefore
        exact absurd hbefore (hsweep.asymm hon)
    | cons a rest =>
      have hleg : (top, a) ∈ adjacent (s ++ top :: a :: rest) := by
        rw [mem_adjacent_append]
        exact Or.inr (mem_adjacent_cons.mpr (Or.inl rfl))
      have hatop : Ahead (top - a) :=
        (List.pairwise_cons.mp (List.pairwise_append.mp h.sorted).2.1).1 a (by simp)
      exact hsweep.across hbefore hatop (hp top htop) (h.supports _ hleg q hq) (hturn a rfl).le

/-- **A point further on keeps the invariant.** -/
theorem Supporting.step (hsweep : Sweep Ahead) {p : Point} (h : Supporting Ahead points stack)
    (hp : ∀ q ∈ points, Ahead (p - q)) :
    Supporting Ahead (points ++ [p]) (p :: popTurns p stack) := by
  have hne : stack ≠ [] := by
    obtain ⟨top, rest, hstack, -⟩ := h.newest
    rw [hstack]
    exact List.cons_ne_nil _ _
  obtain ⟨s, top, rest, rfl, hpopped, hturn, hbehind⟩ := popTurns_spec p hne
  rw [hpopped]
  have hkept : ∀ q ∈ top :: rest, q ∈ points := fun q hq => h.mem q (List.mem_append_right s hq)
  have hsorted := (List.pairwise_append.mp h.sorted).2.1
  have hturning := turning_of_append h.turning
  refine ⟨fun q hq => ?_, ⟨p, _, rfl, fun q hq => ?_⟩, ?_, ?_, turning_cons hturning hturn,
    fun t ht q hq => ?_⟩
  · rcases List.mem_cons.mp hq with rfl | hq
    · simp
    · exact List.mem_append_left _ (hkept q hq)
  · rcases List.mem_append.mp hq with hq | hq
    · exact Or.inr (hp q hq)
    · exact Or.inl (List.mem_singleton.mp hq)
  · obtain ⟨first, hlast, holdest⟩ := h.oldest
    rw [List.getLast?_append_of_ne_nil _ (List.cons_ne_nil _ _)] at hlast
    refine ⟨first, by rw [List.getLast?_cons_cons, hlast], fun q hq => ?_⟩
    rcases List.mem_append.mp hq with hq | hq
    · exact holdest q hq
    · rw [List.mem_singleton.mp hq]
      exact Or.inr (hp first (hkept first (List.mem_of_getLast? hlast)))
  · exact List.pairwise_cons.mpr ⟨fun q hq => hp q (hkept q hq), hsorted⟩
  · rcases mem_adjacent_cons.mp ht with rfl | ht
    · rcases List.mem_append.mp hq with hq | hq
      · exact left_of_newLeg hsweep h hp hturn hbehind hq
      · rw [List.mem_singleton.mp hq, turn_self]
    · rcases List.mem_append.mp hq with hq | hq
      · refine h.supports t ?_ q hq
        rw [mem_adjacent_append]
        exact Or.inr ht
      · rw [List.mem_singleton.mp hq]
        cases rest with
        | nil => simp [adjacent] at ht
        | cons a rest =>
          exact (left_of_legs hsweep hsorted hturning (hp top (hkept top (by simp)))
            (hturn a rfl) t ht).le

theorem chain_append (points : List Point) (p : Point) :
    chain (points ++ [p]) = p :: popTurns p (chain points) := by
  unfold chain
  rw [List.foldl_append]
  rfl

/-- **A half of the hull** of points in the order of a sweep. -/
theorem supporting_chain (hsweep : Sweep Ahead) (hne : points ≠ [])
    (hsorted : points.Pairwise fun a b => Ahead (b - a)) :
    Supporting Ahead points (chain points) := by
  induction points using List.reverseRecOn with
  | nil => exact absurd rfl hne
  | append_singleton points p ih =>
    rw [List.pairwise_append] at hsorted
    rw [chain_append]
    cases hpoints : points with
    | nil =>
      refine ⟨fun q hq => hq, ⟨p, [], rfl, fun q hq => Or.inl (List.mem_singleton.mp hq)⟩,
        ⟨p, rfl, fun q hq => Or.inl (List.mem_singleton.mp hq)⟩, List.pairwise_singleton _ _,
        trivial, fun s hs => by simp [adjacent, chain, popTurns] at hs⟩
    | cons q points' =>
      rw [← hpoints]
      refine Supporting.step hsweep (ih (by rw [hpoints]; exact List.cons_ne_nil _ _) hsorted.1)
        fun q hq => hsorted.2.2 q hq p (by simp)

/-- A leg is followed by one to its left, or is the newest. -/
theorem turning_next {a b : Point} (h : Turning stack) (hs : (b, a) ∈ adjacent stack) :
    (∃ rest, stack = b :: a :: rest) ∨ ∃ c, (c, b) ∈ adjacent stack ∧ 0 < turn a b c := by
  induction stack with
  | nil => simp [adjacent] at hs
  | cons c stack ih =>
    cases stack with
    | nil => simp [adjacent] at hs
    | cons d stack =>
      rcases mem_adjacent_cons.mp hs with heq | hs
      · cases heq
        exact Or.inl ⟨stack, rfl⟩
      · refine Or.inr ?_
        rcases ih (turning_of_cons h) hs with ⟨rest, hrest⟩ | ⟨e, he, hturn⟩
        · obtain ⟨rfl, rfl⟩ := List.cons.inj hrest
          exact ⟨c, mem_adjacent_cons.mpr (Or.inl rfl), h.1⟩
        · exact ⟨e, mem_adjacent_cons.mpr (Or.inr he), hturn⟩

/-- A leg is preceded by one that it is to the left of, or is the oldest. -/
theorem turning_prev {a b : Point} (h : Turning stack) (hs : (b, a) ∈ adjacent stack) :
    stack.getLast? = some a ∨ ∃ z, (a, z) ∈ adjacent stack ∧ 0 < turn z a b := by
  induction stack with
  | nil => simp [adjacent] at hs
  | cons c stack ih =>
    cases stack with
    | nil => simp [adjacent] at hs
    | cons d stack =>
      rcases mem_adjacent_cons.mp hs with heq | hs
      · cases heq
        cases stack with
        | nil => exact Or.inl rfl
        | cons z stack =>
          exact Or.inr ⟨z, mem_adjacent_cons.mpr (Or.inr (mem_adjacent_cons.mpr (Or.inl rfl))), h.1⟩
      · rcases ih (turning_of_cons h) hs with hlast | ⟨z, hz, hturn⟩
        · refine Or.inl ?_
          rw [List.getLast?_cons_cons]
          exact hlast
        · exact Or.inr ⟨z, mem_adjacent_cons.mpr (Or.inr hz), hturn⟩

end Half

/-! ## 2. Both halves -/

/-- **The two halves of a hull**, one for the sweep and one for the way back. -/
structure Halves (A B : Point → Prop) (points lower upper : List Point) : Prop where
  sweep : Sweep A
  sweepBack : Sweep B
  back : ∀ v, B v ↔ A (-v)
  lower : Supporting A points lower
  upper : Supporting B points upper

/-- All points are on one line. -/
def Flat (points : List Point) : Prop :=
  ∀ p ∈ points, ∀ q ∈ points, ∀ r ∈ points, turn p q r = 0

/-- The sides of the two halves. -/
def HullSide (lower upper : List Point) (a b : Point) : Prop :=
  (b, a) ∈ adjacent lower ∨ (b, a) ∈ adjacent upper

namespace Halves

variable {A B : Point → Prop} {points lower upper : List Point}

theorem swap (h : Halves A B points lower upper) : Halves B A points upper lower where
  sweep := h.sweepBack
  sweepBack := h.sweep
  back v := by rw [h.back, neg_neg]
  lower := h.upper
  upper := h.lower

theorem ahead (h : Halves A B points lower upper) {a b : Point} (hs : (b, a) ∈ adjacent lower) :
    A (b - a) := by
  have hchain := List.Pairwise.isChain h.lower.sorted
  rw [isChain_iff_adjacent] at hchain
  exact hchain _ hs

/-- **The halves meet**: the newest point of one is the oldest of the other. -/
theorem meet (h : Halves A B points lower upper) : ∃ m rest, lower = m :: rest ∧
    upper.getLast? = some m ∧ m ∈ points ∧ ∀ q ∈ points, q = m ∨ A (m - q) := by
  obtain ⟨m, rest, hlower, hnewest⟩ := h.lower.newest
  obtain ⟨first, hlast, holdest⟩ := h.upper.oldest
  have hm : m ∈ points := h.lower.mem m (by rw [hlower]; simp)
  have hfirst : first ∈ points := h.upper.mem first (List.mem_of_getLast? hlast)
  refine ⟨m, rest, hlower, ?_, hm, hnewest⟩
  rcases holdest m hm with heq | hbefore
  · rw [hlast, heq]
  · rw [h.back, neg_sub] at hbefore
    rcases hnewest first hfirst with heq | hafter
    · rw [hlast, heq]
    · rw [← neg_sub] at hbefore
      exact absurd hbefore (h.sweep.asymm hafter)

/-- **Where two points differ** each half leads from one end of the sweep to the other. -/
theorem ends (h : Halves A B points lower upper) {p q : Point} (hp : p ∈ points) (hq : q ∈ points)
    (hne : p ≠ q) : ∃ m n lt ut, lower = m :: (lt ++ [n]) ∧ upper = n :: (ut ++ [m]) ∧ n ≠ m ∧
      (∀ q ∈ points, q = m ∨ A (m - q)) ∧ ∀ q ∈ points, q = n ∨ A (q - n) := by
  obtain ⟨m, lt, hlower, hlast, -, hm⟩ := h.meet
  obtain ⟨n, ut, hupper, hlast', -, hback⟩ := h.swap.meet
  have hn : ∀ q ∈ points, q = n ∨ A (q - n) := by
    intro q hq
    refine (hback q hq).imp id fun hbehind => ?_
    rwa [h.back, neg_sub] at hbehind
  have hnm : n ≠ m := by
    rintro rfl
    have hall : ∀ q ∈ points, q = n := by
      intro q hq
      rcases hm q hq with heq | hbefore
      · exact heq
      · rcases hn q hq with heq | hafter
        · exact heq
        · rw [← neg_sub] at hafter
          exact absurd hafter (h.sweep.asymm hbefore)
    exact hne ((hall p hp).trans (hall q hq).symm)
  have hsplit : ∀ {x y : Point} {l : List Point}, x ≠ y → (x :: l).getLast? = some y →
      ∃ l', l = l' ++ [y] := by
    intro x y l hxy hget
    rw [List.getLast?_cons] at hget
    cases hl : l.getLast? with
    | none =>
      rw [hl] at hget
      exact absurd (Option.some.inj hget) hxy
    | some z =>
      rw [hl] at hget
      cases hget
      exact List.getLast?_eq_some_iff.mp hl
  rw [hlower] at hlast'
  rw [hupper] at hlast
  obtain ⟨lt', rfl⟩ := hsplit hnm.symm hlast'
  obtain ⟨ut', rfl⟩ := hsplit hnm hlast
  exact ⟨m, n, lt', ut', hlower, hupper, hnm, hm, hn⟩

/-- **The halves meet at a left turn**, unless all points are on one line. -/
theorem junction (h : Halves A B points lower upper) (hflat : ¬Flat points) {a m c : Point}
    (ha : (m, a) ∈ adjacent lower) (hc : (c, m) ∈ adjacent upper)
    (hm : ∀ q ∈ points, q = m ∨ A (m - q)) : 0 < turn a m c := by
  have hcmem := h.upper.mem c (mem_of_adjacent hc).1
  refine lt_of_le_of_ne (h.lower.supports _ ha c hcmem) fun hzero => hflat ?_
  have ham := h.ahead ha
  have hcm : A (m - c) := by
    have hback := h.swap.ahead hc
    rwa [h.back, neg_sub] at hback
  have hline : ∀ q ∈ points, turn a m q = 0 := fun q hq =>
    h.sweep.straight ham hcm (hm q hq) hzero.symm (h.lower.supports _ ha q hq)
      (h.upper.supports _ hc q hq)
  intro p hp q hq r hr
  exact turn_collinear (h.sweep.ne ham) (hline p hp) (hline q hq) (hline r hr)

/-- A side of one half is followed by one to its left. -/
theorem next (h : Halves A B points lower upper) (hflat : ¬Flat points) {a b : Point}
    (hs : (b, a) ∈ adjacent lower) : ∃ c, HullSide lower upper b c ∧ 0 < turn a b c := by
  rcases turning_next h.lower.turning hs with ⟨rest, hlower⟩ | ⟨c, hc, hturn⟩
  · have hb := h.lower.mem b (mem_of_adjacent hs).1
    have ha := h.lower.mem a (mem_of_adjacent hs).2
    obtain ⟨m, n, lt, ut, hlower', hupper, -, hm, -⟩ :=
      h.ends ha hb (h.sweep.ne (h.ahead hs))
    rw [hlower] at hlower'
    obtain ⟨rfl, -⟩ := List.cons.inj hlower'
    obtain ⟨l, c, hc⟩ := (List.eq_nil_or_concat (n :: ut)).resolve_left (List.cons_ne_nil _ _)
    have hleg : (c, b) ∈ adjacent upper := by
      rw [hupper, ← List.cons_append, hc, List.concat_eq_append, List.append_assoc,
        List.singleton_append, mem_adjacent_append]
      exact Or.inr (mem_adjacent_cons.mpr (Or.inl rfl))
    exact ⟨c, Or.inr hleg, h.junction hflat hs hleg hm⟩
  · exact ⟨c, Or.inl hc, hturn⟩

/-- A side of one half is preceded by one that it is to the left of. -/
theorem prev (h : Halves A B points lower upper) (hflat : ¬Flat points) {a b : Point}
    (hs : (b, a) ∈ adjacent lower) : ∃ z, HullSide lower upper z a ∧ 0 < turn z a b := by
  rcases turning_prev h.lower.turning hs with hlast | ⟨z, hz, hturn⟩
  · have hb := h.lower.mem b (mem_of_adjacent hs).1
    have ha := h.lower.mem a (mem_of_adjacent hs).2
    obtain ⟨n, m, ut, lt, hupper, hlower, -, hn, -⟩ :=
      h.swap.ends ha hb (h.sweep.ne (h.ahead hs))
    rw [hlower, ← List.cons_append, List.getLast?_concat] at hlast
    cases hlast
    obtain ⟨z, l, hz⟩ := List.exists_cons_of_ne_nil (List.append_ne_nil_of_right_ne_nil ut
      (List.cons_ne_nil m []))
    have hleg : (a, z) ∈ adjacent upper := by
      rw [hupper, hz]
      exact mem_adjacent_cons.mpr (Or.inl rfl)
    exact ⟨z, Or.inr hleg, h.swap.junction hflat hleg hs hn⟩
  · exact ⟨z, Or.inl hz, hturn⟩

/-- **The sides of the halves bound a region.** -/
theorem region (h : Halves A B points lower upper) (hflat : ¬Flat points) :
    Region (HullSide lower upper) where
  next hab := by
    rcases hab with hs | hs
    · exact h.next hflat hs
    · obtain ⟨c, hc, hturn⟩ := h.swap.next hflat hs
      exact ⟨c, hc.symm, hturn⟩
  prev hab := by
    rcases hab with hs | hs
    · exact h.prev hflat hs
    · obtain ⟨z, hz, hturn⟩ := h.swap.prev hflat hs
      exact ⟨z, hz.symm, hturn⟩
  supports {a b c d} hab hcd := by
    have hc : c ∈ points := hcd.elim (fun hs => h.lower.mem c (mem_of_adjacent hs).2)
      fun hs => h.upper.mem c (mem_of_adjacent hs).2
    rcases hab with hs | hs
    · exact h.lower.supports _ hs c hc
    · exact h.upper.supports _ hs c hc

/-- **Every point is inside.** -/
theorem inside (h : Halves A B points lower upper) {q : Point} (hq : q ∈ points) :
    Inside (HullSide lower upper) q := by
  rintro a b (hs | hs)
  · exact h.lower.supports _ hs q hq
  · exact h.upper.supports _ hs q hq

/-- **No point is between the ends of both halves.** -/
theorem disjoint (h : Halves A B points lower upper) {a w c u : Point}
    (haw : (w, a) ∈ adjacent lower) (hwc : (c, w) ∈ adjacent lower) (hturn : 0 < turn a w c)
    (hwu : (u, w) ∈ adjacent upper) : False := by
  have hu := h.upper.mem u (mem_of_adjacent hwu).1
  have hc := h.lower.mem c (mem_of_adjacent hwc).1
  have ha := h.lower.mem a (mem_of_adjacent haw).2
  have hback : A (w - u) := by
    have hbehind := h.swap.ahead hwu
    rwa [h.back, neg_sub] at hbehind
  have hwuc : turn w u c = 0 := by
    have hover := h.upper.supports _ hwu c hc
    have hunder := h.lower.supports _ hwc u hu
    rw [turn_swap] at hunder
    exact le_antisymm (neg_nonneg.mp hunder) hover
  have hwua : turn w u a = 0 := by
    have hover := h.upper.supports _ hwu a ha
    have hdet : 0 ≤ det (w - a) (w - u) := by
      refine h.sweep.compose (h.ahead haw) (h.ahead hwc) hback ?_ ?_
      · have hsame : det (w - a) (c - w) = turn a w c := by
          unfold det turn
          simp only [Prod.fst_sub, Prod.snd_sub]
          ring
        rw [hsame]
        exact hturn.le
      · have hsame : det (c - w) (w - u) = turn w u c := by
          unfold det turn
          simp only [Prod.fst_sub, Prod.snd_sub]
          ring
        rw [hsame, hwuc]
    have hsame : turn w u a = -det (w - a) (w - u) := by
      unfold det turn
      simp only [Prod.fst_sub, Prod.snd_sub]
      ring
    refine le_antisymm ?_ hover
    rw [hsame]
    exact neg_nonpos.mpr hdet
  rw [turn_collinear (h.swap.sweep.ne (h.swap.ahead hwu)) hwua (turn_right w u) hwuc] at hturn
  exact lt_irrefl 0 hturn

end Halves

/-! ## 3. The corners -/

/-- The corners, in their order. -/
def corners (lower upper : List Point) : List Point := lower.tail.reverse ++ upper.tail.reverse

/-- The points in the order of the sweep, each once. -/
def sweptPoints (points : List Point) : List Point := points.dedup.insertionSort pointLe

theorem mem_sweptPoints {p : Point} : p ∈ sweptPoints points ↔ p ∈ points := by
  unfold sweptPoints
  rw [List.mem_insertionSort, List.mem_dedup]

theorem sweptPoints_sorted (points : List Point) :
    (sweptPoints points).Pairwise fun a b => Ahead (b - a) := by
  have htotal : Std.Total pointLe := ⟨fun a b => by
    unfold pointLe
    rcases lt_trichotomy a.1 b.1 with h | h | h
    · exact .inl (.inl h)
    · rcases le_total a.2 b.2 with h2 | h2
      · exact .inl (.inr ⟨h, h2⟩)
      · exact .inr (.inr ⟨h.symm, h2⟩)
    · exact .inr (.inl h)⟩
  have htrans : IsTrans Point pointLe := ⟨fun a b c hab hbc => by
    unfold pointLe at hab hbc ⊢
    rcases hab with h | ⟨h, h2⟩
    · rcases hbc with h' | ⟨h', -⟩
      · exact .inl (h.trans h')
      · exact .inl (h.trans_eq h')
    · rcases hbc with h' | ⟨h', h2'⟩
      · exact .inl (h.trans_lt h')
      · exact .inr ⟨h.trans h', h2.trans h2'⟩⟩
  have hle := List.pairwise_insertionSort pointLe points.dedup
  have hne : (sweptPoints points).Nodup :=
    (List.perm_insertionSort pointLe points.dedup).nodup_iff.mpr (List.nodup_dedup points)
  refine (hle.and hne).imp fun {a b} hab => ?_
  unfold Ahead
  rw [Prod.fst_sub, Prod.snd_sub, sub_pos, sub_pos, sub_eq_zero]
  rcases hab.1 with h | ⟨h, h2⟩
  · exact Or.inl h
  · exact Or.inr ⟨h.symm, lt_of_le_of_ne h2 fun heq => hab.2 (Prod.ext h heq)⟩

/-- **The halves that `_convex_hull` puts together.** -/
theorem halves_chain (hne : points ≠ []) :
    Halves Ahead Behind points (chain (sweptPoints points))
      (chain (sweptPoints points).reverse) := by
  have hswept : sweptPoints points ≠ [] := by
    obtain ⟨p, hp⟩ := List.exists_mem_of_ne_nil points hne
    exact List.ne_nil_of_mem (mem_sweptPoints.mpr hp)
  have hsorted := sweptPoints_sorted points
  have hlower := supporting_chain sweep_ahead hswept hsorted
  have hback : (sweptPoints points).reverse.Pairwise fun a b => Behind (b - a) := by
    refine List.pairwise_reverse.mpr (hsorted.imp fun {a b} hab => ?_)
    unfold Behind
    rwa [neg_sub]
  have hupper := supporting_chain sweep_behind (List.reverse_ne_nil_iff.mpr hswept) hback
  have hmem : ∀ {p}, p ∈ (sweptPoints points).reverse ↔ p ∈ points := by
    intro p
    rw [List.mem_reverse, mem_sweptPoints]
  exact ⟨sweep_ahead, sweep_behind, fun _ => Iff.rfl, hlower.congr fun p => mem_sweptPoints,
    hupper.congr fun p => hmem⟩

/-- **What `_convex_hull` returns**: nothing, the one point, or the halves put together. -/
theorem convexHull_cases (points : List Point) :
    (points = [] ∧ convexHull points = []) ∨
      (∃ p, convexHull points = [p] ∧ p ∈ points ∧ ∀ q ∈ points, q = p) ∨
        ∃ p q, p ∈ points ∧ q ∈ points ∧ p ≠ q ∧ convexHull points =
          corners (chain (sweptPoints points)) (chain (sweptPoints points).reverse) := by
  have hmem : ∀ p, p ∈ points.dedup.insertionSort pointLe ↔ p ∈ points :=
    fun p => mem_sweptPoints
  have hsorted := sweptPoints_sorted points
  unfold convexHull sweptPoints corners at *
  dsimp only
  generalize points.dedup.insertionSort pointLe = swept at hmem hsorted
  rcases swept with _ | ⟨p, _ | ⟨q, rest⟩⟩
  · refine Or.inl ⟨List.eq_nil_iff_forall_not_mem.mpr fun p hp => ?_, rfl⟩
    have := (hmem p).mpr hp
    cases this
  · exact Or.inr (Or.inl ⟨p, rfl, (hmem p).mp (by simp), fun q hq =>
      List.mem_singleton.mp ((hmem q).mpr hq)⟩)
  · refine Or.inr (Or.inr ⟨p, q, (hmem p).mp (by simp), (hmem q).mp (by simp), ?_, rfl⟩)
    exact sweep_ahead.ne ((List.pairwise_cons.mp hsorted).1 q (by simp))

namespace Halves

variable {A B : Point → Prop} {points lower upper : List Point}

/-- The corners from one end of the sweep to the other and back. -/
theorem corners_eq {m n : Point} {lt ut : List Point} :
    corners (m :: (lt ++ [n])) (n :: (ut ++ [m])) = n :: (lt.reverse ++ m :: ut.reverse) := by
  unfold corners
  simp

/-- **The sides of the corners** are those of the halves. -/
theorem mem_sides (h : Halves A B points lower upper) {p q : Point} (hp : p ∈ points)
    (hq : q ∈ points) (hne : p ≠ q) (a b : Point) :
    (a, b) ∈ sides (corners lower upper) ↔ HullSide lower upper a b := by
  obtain ⟨m, n, lt, ut, rfl, rfl, -⟩ := h.ends hp hq hne
  have hclosed : n :: (lt.reverse ++ m :: ut.reverse) ++ [n] =
      (n :: lt.reverse) ++ m :: (ut.reverse ++ [n]) := by simp
  have hleft : (n :: lt.reverse) ++ [m] = (m :: (lt ++ [n])).reverse := by simp
  have hright : m :: (ut.reverse ++ [n]) = (n :: (ut ++ [m])).reverse := by simp
  unfold HullSide
  rw [corners_eq, sides_eq_adjacent, hclosed, mem_adjacent_append, hleft, hright,
    mem_adjacent_reverse, mem_adjacent_reverse]

theorem corners_nodup (h : Halves A B points lower upper) : (corners lower upper).Nodup := by
  have hhalf : ∀ {A' B' lower' upper'}, Halves A' B' points lower' upper' →
      lower'.tail.reverse.Nodup := by
    intro A' B' lower' upper' h'
    rw [List.nodup_reverse]
    have hsorted := h'.lower.sorted.imp fun {b a} hab => (h'.sweep.ne hab).symm
    exact List.Pairwise.sublist (List.tail_sublist lower') hsorted
  have hlowerNodup := hhalf h
  have hupperNodup := hhalf h.swap
  unfold corners
  refine List.nodup_append'.mpr ⟨hlowerNodup, hupperNodup, ?_⟩
  intro w hw hw'
  rw [List.mem_reverse] at hw hw'
  obtain ⟨m, lt, hlower, -⟩ := h.lower.newest
  obtain ⟨n, ut, hupper, hlast, -⟩ := h.swap.meet
  have hnewer : ∀ {x : Point} {l : List Point}, w ∈ l → ∃ u, (u, w) ∈ adjacent (x :: l) := by
    intro x l hmem
    induction l generalizing x with
    | nil => cases hmem
    | cons y l ih =>
      rcases List.mem_cons.mp hmem with rfl | hmem
      · exact ⟨x, mem_adjacent_cons.mpr (Or.inl rfl)⟩
      · obtain ⟨u, hu⟩ := ih hmem (x := y)
        exact ⟨u, mem_adjacent_cons.mpr (Or.inr hu)⟩
  rw [hupper, List.tail_cons] at hw'
  obtain ⟨u, hu⟩ := hnewer hw' (x := n)
  rw [← hupper] at hu
  have hwn : w ≠ n := by
    rintro rfl
    have hsorted := h.upper.sorted
    rw [hupper] at hsorted
    exact h.sweepBack.ne ((List.pairwise_cons.mp hsorted).1 w hw') rfl
  rw [hlower, List.tail_cons] at hw
  obtain ⟨s, t, hst⟩ := List.append_of_mem hw
  cases t with
  | nil =>
    rw [hlower, hst, ← List.cons_append, List.getLast?_append_of_ne_nil _ (List.cons_ne_nil _ _),
      List.getLast?_singleton, Option.some.injEq] at hlast
    exact hwn hlast
  | cons a t =>
    have haw : (w, a) ∈ adjacent lower := by
      rw [hlower, hst, ← List.cons_append, mem_adjacent_append]
      exact Or.inr (mem_adjacent_cons.mpr (Or.inl rfl))
    rcases turning_next h.lower.turning haw with ⟨rest, hrest⟩ | ⟨c, hc, hturn⟩
    · have hsorted := h.lower.sorted
      rw [hlower] at hsorted hrest
      obtain ⟨rfl, -⟩ := List.cons.inj hrest
      exact h.sweep.ne ((List.pairwise_cons.mp hsorted).1 m hw) rfl
    · exact h.disjoint haw hc hturn hu

/-- With three corners the points are not on one line. -/
theorem not_flat (h : Halves A B points lower upper) (hlength : 3 ≤ (corners lower upper).length) :
    ¬Flat points := by
  have hhalf : ∀ {A' : Point → Prop} {stack : List Point}, Supporting A' points stack →
      3 ≤ stack.length → ¬Flat points := by
    intro A' stack h' hlong hflat
    rcases stack with _ | ⟨c, _ | ⟨b, _ | ⟨a, rest⟩⟩⟩
    · simp at hlong
    · simp at hlong
    · simp at hlong
    · have hturn := h'.turning.1
      rw [hflat a (h'.mem a (by simp)) b (h'.mem b (by simp)) c (h'.mem c (by simp))] at hturn
      exact lt_irrefl 0 hturn
  unfold corners at hlength
  rw [List.length_append, List.length_reverse, List.length_reverse, List.length_tail,
    List.length_tail] at hlength
  by_cases hlower : 3 ≤ lower.length
  · exact hhalf h.lower hlower
  · exact hhalf h.upper (by omega)

/-- Every corner is a point. -/
theorem corners_subset (h : Halves A B points lower upper) :
    ∀ v ∈ corners lower upper, v ∈ points := by
  intro v hv
  unfold corners at hv
  rw [List.mem_append, List.mem_reverse, List.mem_reverse] at hv
  rcases hv with hv | hv
  · exact h.lower.mem v (List.mem_of_mem_tail hv)
  · exact h.upper.mem v (List.mem_of_mem_tail hv)

/-- **Two corners**: all points are between them. -/
theorem between (h : Halves Ahead Behind points lower upper) {p q : Point} (hp : p ∈ points)
    (hq : q ∈ points) (hne : p ≠ q) (hlength : (corners lower upper).length < 3) {r : Point}
    (hr : r ∈ points) : r ∈ hull (corners lower upper) := by
  have hside := h.mem_sides hp hq hne
  obtain ⟨m, n, lt, ut, rfl, rfl, hnm, hm, hn⟩ := h.ends hp hq hne
  rw [corners_eq] at hlength hside ⊢
  obtain ⟨rfl, rfl⟩ : lt = [] ∧ ut = [] := by
    simp only [List.length_cons, List.length_append, List.length_reverse] at hlength
    exact ⟨List.eq_nil_of_length_eq_zero (by omega), List.eq_nil_of_length_eq_zero (by omega)⟩
  show r ∈ hull [n, m]
  have hzero : turn n m r = 0 := by
    have hover := h.inside hr m n ((hside m n).mp (by simp [sides]))
    have hswap : turn m n r = -turn n m r := by
      unfold turn
      ring
    rw [hswap] at hover
    exact le_antisymm (neg_nonneg.mp hover) (h.inside hr n m ((hside n m).mp (by simp [sides])))
  obtain ⟨s, t, hst, hplace⟩ := exists_place hnm hzero
  have hahead : Ahead (m - n) := (hm n (h.upper.mem n (by simp))).resolve_left hnm
  rcases hm r hr with rfl | hafter
  · exact mem_hull (by simp)
  · rcases hn r hr with rfl | hbefore
    · exact mem_hull (by simp)
    · have hs : m - r = s • (m - n) := by
        have ht : t = 1 - s := by rw [← hst, add_sub_cancel_left]
        rw [hplace, ht, smul_sub, sub_smul, one_smul]
        abel
      have ht : r - n = t • (m - n) := by
        have hs : s = 1 - t := by rw [← hst, add_sub_cancel_right]
        rw [hplace, hs, smul_sub, sub_smul, one_smul]
        abel
      rw [hs] at hafter
      rw [ht] at hbefore
      rw [hplace]
      exact convex_convexHull ℚ _ (mem_hull (by simp)) (mem_hull (by simp))
        (hahead.pos_of_smul hafter).le (hahead.pos_of_smul hbefore).le hst

end Halves

/-- With two points that differ the corners bound a region, or there are two of them. -/
theorem hull_region (hlength : 3 ≤ (convexHull points).length) :
    Region (fun a b => (a, b) ∈ sides (convexHull points)) ∧
      ∀ q ∈ points, Inside (fun a b => (a, b) ∈ sides (convexHull points)) q := by
  rcases convexHull_cases points with ⟨-, heq⟩ | ⟨p, heq, -, -⟩ | ⟨p, q, hp, hq, hne, heq⟩
  · rw [heq] at hlength
    simp at hlength
  · rw [heq] at hlength
    simp at hlength
  · rw [heq] at hlength ⊢
    have h := halves_chain (List.ne_nil_of_mem hp)
    have hside : (fun a b => (a, b) ∈ sides (corners (chain (sweptPoints points))
        (chain (sweptPoints points).reverse))) =
          HullSide (chain (sweptPoints points)) (chain (sweptPoints points).reverse) := by
      funext a b
      exact propext (h.mem_sides hp hq hne a b)
    rw [hside]
    exact ⟨h.region (h.not_flat hlength), fun q hq => h.inside hq⟩

theorem hull_nodup (points : List Point) : (convexHull points).Nodup := by
  rcases convexHull_cases points with ⟨-, heq⟩ | ⟨p, heq, -, -⟩ | ⟨p, q, hp, hq, hne, heq⟩
  · rw [heq]
    exact List.nodup_nil
  · rw [heq]
    exact List.nodup_singleton p
  · rw [heq]
    exact (halves_chain (List.ne_nil_of_mem hp)).corners_nodup

theorem hull_subset_points {v : Point} (hv : v ∈ convexHull points) : v ∈ points := by
  rcases convexHull_cases points with ⟨-, heq⟩ | ⟨p, heq, hp, -⟩ | ⟨p, q, hp, hq, hne, heq⟩
  · rw [heq] at hv
    cases hv
  · rw [heq, List.mem_singleton] at hv
    rw [hv]
    exact hp
  · rw [heq] at hv
    exact (halves_chain (List.ne_nil_of_mem hp)).corners_subset v hv

/-- A corner of a closed list begins a side. -/
theorem begins_side {l : List Point} {w : Point} (hw : w ∈ l) : ∃ x, (w, x) ∈ sides l := by
  obtain ⟨p, rest, rfl⟩ := List.exists_cons_of_ne_nil (List.ne_nil_of_mem hw)
  obtain ⟨i, hi, rfl⟩ := List.getElem_of_mem hw
  have hi' : i < (rest ++ [p]).length := by
    rw [List.length_append, List.length_singleton]
    exact hi
  refine ⟨(rest ++ [p])[i], ?_⟩
  have hzip : i < ((p :: rest).zip (rest ++ [p])).length := by
    rw [List.length_zip]
    omega
  have hget := List.getElem_mem hzip
  rwa [List.getElem_zip] at hget

/-- The neighbours in a list are sides of the closed list. -/
theorem side_of_adjacent {l : List Point} {s : Point × Point} (hs : s ∈ adjacent l) :
    s ∈ sides l := by
  cases l with
  | nil => simp [adjacent] at hs
  | cons p rest =>
    rw [sides_eq_adjacent]
    obtain ⟨l', z, hl'⟩ := (List.eq_nil_or_concat (p :: rest)).resolve_left (by simp)
    rw [List.concat_eq_append] at hl'
    rw [hl', List.append_assoc, List.singleton_append, mem_adjacent_append, ← hl']
    exact Or.inl hs

theorem hull_triplewise (points : List Point) :
    (convexHull points).Triplewise fun a b c => 0 < cross a b c := by
  by_cases hlength : 3 ≤ (convexHull points).length
  · exact (hull_region hlength).1.triplewise (fun s hs => side_of_adjacent hs)
      (fun w hw => begins_side hw) (hull_nodup points)
  · rcases hhull : convexHull points with _ | ⟨a, _ | ⟨b, _ | ⟨c, rest⟩⟩⟩
    · exact .nil
    · simp
    · simp
    · rw [hhull] at hlength
      simp at hlength

/-- Every point is in the hull of the corners. -/
theorem mem_hull_convexHull {p : Point} (hp : p ∈ points) : p ∈ hull (convexHull points) := by
  by_cases hlength : 3 ≤ (convexHull points).length
  · obtain ⟨hregion, hinside⟩ := hull_region hlength
    exact hregion.mem_hull (hull_nodup points) hlength (hinside p hp)
  · rcases convexHull_cases points with ⟨hnil, -⟩ | ⟨q, heq, -, hall⟩ | ⟨q, r, hq, hr, hne, heq⟩
    · rw [hnil] at hp
      cases hp
    · rw [heq, hall p hp]
      exact mem_hull (by simp)
    · rw [heq] at hlength ⊢
      exact (halves_chain (List.ne_nil_of_mem hp)).between hq hr hne (lt_of_not_ge hlength) hp

/-- **The convex hull**: its corners are points, each once; any three in their order turn left, also
    around the end; and every point is in their hull. -/
theorem convexHull_convex (points : List Point) :
    (∀ v ∈ convexHull points, v ∈ points) ∧ (convexHull points).Nodup ∧
      (convexHull points).Triplewise (fun a b c => 0 < cross a b c) ∧
      (∀ n a b c rest, (convexHull points).rotate n = a :: b :: c :: rest → 0 < cross a b c) ∧
      ∀ p ∈ points, p ∈ hull (convexHull points) := by
  refine ⟨fun v hv => hull_subset_points hv, hull_nodup points, hull_triplewise points,
    fun n a b c rest hrotate => ?_, fun p hp => mem_hull_convexHull hp⟩
  have hturned : ∀ a b c : Point, 0 < cross a b c → 0 < cross b c a := by
    intro a b c habc
    rw [cross_eq_turn, turn_rotate]
    exact habc
  have htriples := triplewise_rotate hturned (hull_triplewise points) n
  rw [hrotate, List.triplewise_cons] at htriples
  exact (List.pairwise_cons.mp htriples.1).1 c (by simp)

/-- A square with a point inside, one on a side and one given twice. -/
def squarePoints : List Point := [(2, 2), (1, 1), (0, 0), (2, 0), (1, 0), (0, 2), (0, 0)]

theorem convexHull_convex_square : convexHull squarePoints = [(0, 0), (2, 0), (2, 2), (0, 2)] ∧
    ((1, 1) : Point) ∈ hull (convexHull squarePoints) :=
  ⟨by decide +kernel, (convexHull_convex squarePoints).2.2.2.2 (1, 1) (by decide +kernel)⟩

end DroneSim
