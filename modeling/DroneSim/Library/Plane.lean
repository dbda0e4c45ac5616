/-
  File:      DroneSim/Library/Plane.lean
  Subject:   Turns, sweeps and hulls in the plane over an ordered field.

  * `turn o a b` -- positive where the way from `o` over `a` to `b` turns left;
  * `Sweep Ahead` -- the vectors that lead on are added, compared and composed (`Sweep.compose`);
    `sweep_ahead`, `sweep_behind` are the sweeps by coordinates and back;
  * `hull` -- the convex hull of the points of a list; `mem_hull_fan`: what is inside a fan;
  * `adjacent` -- the neighbours in a list; `sides` -- those of the closed list.
-/
import Mathlib.Analysis.Convex.Combination
import Mathlib.Data.List.Triplewise
import Mathlib.Tactic.Linarith
import Mathlib.Tactic.FieldSimp

namespace Plane

variable {K : Type} [Field K]

/-! ## 1. Turns -/

/-- The determinant of two vectors. -/
def det (u v : K × K) : K := u.1 * v.2 - u.2 * v.1

/-- Positive where the way from `o` over `a` to `b` turns left. -/
def turn (o a b : K × K) : K := (a.1 - o.1) * (b.2 - o.2) - (a.2 - o.2) * (b.1 - o.1)

theorem turn_rotate (o a b : K × K) : turn a b o = turn o a b := by
  unfold turn
  ring

theorem turn_swap (o a b : K × K) : turn o b a = -turn o a b := by
  unfold turn
  ring

@[simp] theorem turn_left (o b : K × K) : turn o o b = 0 := by
  unfold turn
  ring

@[simp] theorem turn_right (o a : K × K) : turn o a o = 0 := by
  unfold turn
  ring

@[simp] theorem turn_self (o a : K × K) : turn o a a = 0 := by
  unfold turn
  ring

/-- **A turn is affine** in its last point. -/
theorem turn_mix (a b c d : K × K) {s t : K} (h : s + t = 1) :
    turn a b (s • c + t • d) = s * turn a b c + t * turn a b d := by
  have hs : s = 1 - t := by rw [← h, add_sub_cancel_right]
  subst hs
  unfold turn
  simp only [Prod.fst_add, Prod.snd_add, Prod.smul_fst, Prod.smul_snd, smul_eq_mul]
  ring

/-- Points on one line make no turn. -/
theorem turn_collinear {a b p q r : K × K} (hne : a ≠ b) (hp : turn a b p = 0)
    (hq : turn a b q = 0) (hr : turn a b r = 0) : turn p q r = 0 := by
  have hfirst : (b.1 - a.1) * turn p q r = 0 := by
    have hsum : (b.1 - a.1) * turn p q r = (q.1 - p.1) * (turn a b r - turn a b p) -
        (r.1 - p.1) * (turn a b q - turn a b p) := by
      unfold turn
      ring
    rw [hsum, hp, hq, hr]
    ring
  have hsecond : (b.2 - a.2) * turn p q r = 0 := by
    have hsum : (b.2 - a.2) * turn p q r = (q.2 - p.2) * (turn a b r - turn a b p) -
        (r.2 - p.2) * (turn a b q - turn a b p) := by
      unfold turn
      ring
    rw [hsum, hp, hq, hr]
    ring
  rcases mul_eq_zero.mp hfirst with h1 | h1
  · rcases mul_eq_zero.mp hsecond with h2 | h2
    · exact absurd (Prod.ext (sub_eq_zero.mp h1).symm (sub_eq_zero.mp h2).symm) hne
    · exact h2
  · exact h1

theorem det_neg_neg (u v : K × K) : det (-u) (-v) = det u v := by
  unfold det
  simp

/-! ## 2. Sweeps -/

variable [LinearOrder K]

/-- **The vectors that lead on.** -/
structure Sweep (Ahead : K × K → Prop) : Prop where
  total : ∀ v, v = 0 ∨ Ahead v ∨ Ahead (-v)
  not_zero : ¬Ahead 0
  add : ∀ {u v}, Ahead u → Ahead v → Ahead (u + v)
  compose : ∀ {u v w}, Ahead u → Ahead v → Ahead w → 0 ≤ det u v → 0 ≤ det v w → 0 ≤ det u w

section Turns

variable {Ahead : K × K → Prop}

theorem Sweep.asymm (h : Sweep Ahead) {v : K × K} (hv : Ahead v) : ¬Ahead (-v) := by
  intro hback
  have hzero := h.add hv hback
  rw [add_neg_cancel] at hzero
  exact h.not_zero hzero

theorem Sweep.trans (h : Sweep Ahead) {a b c : K × K} (hab : Ahead (b - a)) (hbc : Ahead (c - b)) :
    Ahead (c - a) := by
  have hsum := h.add hbc hab
  rwa [sub_add_sub_cancel] at hsum

theorem Sweep.ne (h : Sweep Ahead) {a b : K × K} (hab : Ahead (b - a)) : a ≠ b := by
  rintro rfl
  rw [sub_self] at hab
  exact h.not_zero hab

/-- Around one point: a turn and a further one. -/
theorem Sweep.around (h : Sweep Ahead) {o a b c : K × K} (ha : Ahead (a - o)) (hb : Ahead (b - o))
    (hc : Ahead (c - o)) (hab : 0 ≤ turn o a b) (hbc : 0 ≤ turn o b c) : 0 ≤ turn o a c :=
  h.compose ha hb hc hab hbc

/-- Across a point: what is left of the leg before it is left of the leg after it. -/
theorem Sweep.across (h : Sweep Ahead) {q u v p : K × K} (hq : Ahead (v - q)) (hu : Ahead (v - u))
    (hp : Ahead (p - v)) (hleft : 0 ≤ turn u v q) (hturn : 0 ≤ turn u v p) : 0 ≤ turn v p q := by
  have hfirst : det (v - q) (v - u) = turn u v q := by
    unfold det turn
    simp only [Prod.fst_sub, Prod.snd_sub]
    ring
  have hsecond : det (v - u) (p - v) = turn u v p := by
    unfold det turn
    simp only [Prod.fst_sub, Prod.snd_sub]
    ring
  have hthird : 0 ≤ det (v - q) (p - v) :=
    h.compose hq hu hp (by rw [hfirst]; exact hleft) (by rw [hsecond]; exact hturn)
  have hsame : turn v p q = det (v - q) (p - v) := by
    unfold det turn
    simp only [Prod.fst_sub, Prod.snd_sub]
    ring
  rw [hsame]
  exact hthird

end Turns

variable [IsStrictOrderedRing K] {points : List (K × K)}

/-- By the first coordinate, then by the second. -/
def Ahead (v : K × K) : Prop := 0 < v.1 ∨ v.1 = 0 ∧ 0 < v.2

/-- The way back. -/
def Behind (v : K × K) : Prop := Ahead (-v)

theorem Ahead.compose {u v w : K × K} (hu : Ahead u) (hv : Ahead v) (hw : Ahead w)
    (huv : 0 ≤ det u v) (hvw : 0 ≤ det v w) : 0 ≤ det u w := by
  have hu1 : 0 ≤ u.1 := hu.elim le_of_lt fun h => h.1.ge
  have hw1 : 0 ≤ w.1 := hw.elim le_of_lt fun h => h.1.ge
  rcases hv with hv | ⟨hv1, hv2⟩
  · have hsum : v.1 * det u w = u.1 * det v w + w.1 * det u v := by
      unfold det
      ring
    have hnonneg : 0 ≤ v.1 * det u w := by
      rw [hsum]
      exact add_nonneg (mul_nonneg hu1 hvw) (mul_nonneg hw1 huv)
    exact nonneg_of_mul_nonneg_right hnonneg hv
  · -- upwards: what comes after it cannot lead to the right
    unfold det at hvw ⊢
    rw [hv1] at hvw
    have hw1' : w.1 = 0 := by
      refine le_antisymm ?_ hw1
      by_contra hpos
      have := mul_pos hv2 (lt_of_not_ge hpos)
      linarith
    have hw2 : 0 < w.2 := by
      rcases hw with hw | hw
      · rw [hw1'] at hw
        exact absurd hw (lt_irrefl 0)
      · exact hw.2
    rw [hw1']
    have := mul_nonneg hu1 hw2.le
    linarith

/-- Only a positive part of what leads on leads on. -/
theorem Ahead.pos_of_smul {t : K} {v : K × K} (hv : Ahead v) (htv : Ahead (t • v)) : 0 < t := by
  unfold Ahead at htv
  rw [Prod.smul_fst, Prod.smul_snd, smul_eq_mul, smul_eq_mul] at htv
  rcases hv with hv | ⟨hv1, hv2⟩
  · rcases htv with htv | ⟨ht1, ht2⟩
    · exact pos_of_mul_pos_left htv hv.le
    · rw [(mul_eq_zero.mp ht1).resolve_right hv.ne', zero_mul] at ht2
      exact absurd ht2 (lt_irrefl 0)
  · rw [hv1, mul_zero] at htv
    rcases htv with htv | ⟨-, ht2⟩
    · exact absurd htv (lt_irrefl 0)
    · exact pos_of_mul_pos_left ht2 hv2.le

theorem sweep_ahead : Sweep (Ahead : K × K → Prop) where
  total v := by
    rcases lt_trichotomy v.1 0 with h1 | h1 | h1
    · exact .inr (.inr (.inl (neg_pos.mpr h1)))
    · rcases lt_trichotomy v.2 0 with h2 | h2 | h2
      · exact .inr (.inr (.inr ⟨neg_eq_zero.mpr h1, neg_pos.mpr h2⟩))
      · exact .inl (Prod.ext h1 h2)
      · exact .inr (.inl (.inr ⟨h1, h2⟩))
    · exact .inr (.inl (.inl h1))
  not_zero h := by
    rcases h with h | h
    · exact lt_irrefl _ h
    · exact lt_irrefl _ h.2
  add {u v} hu hv := by
    rcases hu with hu | ⟨hu1, hu2⟩
    · refine .inl (add_pos_of_pos_of_nonneg hu ?_)
      exact hv.elim le_of_lt fun h => h.1.ge
    · rcases hv with hv | ⟨hv1, hv2⟩
      · exact .inl (add_pos_of_nonneg_of_pos hu1.ge hv)
      · exact .inr ⟨by rw [Prod.fst_add, hu1, hv1, add_zero], add_pos hu2 hv2⟩
  compose hu hv hw := hu.compose hv hw

theorem sweep_behind : Sweep (Behind : K × K → Prop) where
  total v := by
    rcases sweep_ahead.total (-v) with h | h | h
    · exact .inl (neg_eq_zero.mp h)
    · exact .inr (.inl h)
    · exact .inr (.inr h)
  not_zero h := by
    unfold Behind at h
    rw [neg_zero] at h
    exact sweep_ahead.not_zero h
  add {u v} hu hv := by
    show Ahead (-(u + v))
    rw [neg_add]
    exact sweep_ahead.add hu hv
  compose {u v w} hu hv hw huv hvw := by
    rw [← det_neg_neg] at huv hvw ⊢
    exact sweep_ahead.compose hu hv hw huv hvw

section Turns

variable {Ahead : K × K → Prop}

/-- Along a way: what turns left of its last leg turns left of the one before. -/
theorem Sweep.along (h : Sweep Ahead) {a b c p : K × K} (hab : Ahead (b - a)) (hbc : Ahead (c - b))
    (hcp : Ahead (p - c)) (habc : 0 < turn a b c) (hbcp : 0 < turn b c p) : 0 < turn a b p := by
  have hfirst : det (b - a) (c - b) = turn a b c := by
    unfold det turn
    simp only [Prod.fst_sub, Prod.snd_sub]
    ring
  have hsecond : det (c - b) (p - c) = turn b c p := by
    unfold det turn
    simp only [Prod.fst_sub, Prod.snd_sub]
    ring
  have hthird : 0 ≤ det (b - a) (p - c) :=
    h.compose hab hbc hcp (by rw [hfirst]; exact habc.le) (by rw [hsecond]; exact hbcp.le)
  have hsum : turn a b p = turn a b c + det (b - a) (p - c) := by
    unfold det turn
    simp only [Prod.fst_sub, Prod.snd_sub]
    ring
  rw [hsum]
  exact add_pos_of_pos_of_nonneg habc hthird

/-- At the furthest point: sides on one line have everything on it. -/
theorem Sweep.straight (h : Sweep Ahead) {z b c q : K × K} (hz : Ahead (b - z))
    (hc : Ahead (b - c)) (hq : q = b ∨ Ahead (b - q)) (hzero : turn z b c = 0)
    (hzq : 0 ≤ turn z b q) (hbq : 0 ≤ turn b c q) : turn z b q = 0 := by
  rcases hq with rfl | hq
  · exact turn_self _ _
  · refine le_antisymm ?_ hzq
    have hfirst : det (b - z) (b - c) = -turn z b c := by
      unfold det turn
      simp only [Prod.fst_sub, Prod.snd_sub]
      ring
    have hsecond : det (b - c) (b - q) = turn b c q := by
      unfold det turn
      simp only [Prod.fst_sub, Prod.snd_sub]
      ring
    have hthird : 0 ≤ det (b - z) (b - q) :=
      h.compose hz hc hq (by rw [hfirst, hzero, neg_zero]) (by rw [hsecond]; exact hbq)
    have hsame : turn z b q = -det (b - z) (b - q) := by
      unfold det turn
      simp only [Prod.fst_sub, Prod.snd_sub]
      ring
    rw [hsame]
    exact neg_nonpos.mpr hthird

end Turns

/-! ## 3. Convexity -/

/-- The points on the left of a line. -/
theorem convex_left (a b : K × K) : Convex K {q | 0 ≤ turn a b q} := by
  intro c hc d hd s t hs ht hst
  show 0 ≤ turn a b (s • c + t • d)
  rw [turn_mix a b c d hst]
  exact add_nonneg (mul_nonneg hs hc) (mul_nonneg ht hd)

/-- The convex hull of the points of a list. -/
def hull (points : List (K × K)) : Set (K × K) := convexHull K {p | p ∈ points}

omit [IsStrictOrderedRing K] in
theorem mem_hull {p : K × K} (h : p ∈ points) : p ∈ hull points :=
  subset_convexHull K _ h

omit [IsStrictOrderedRing K] in
theorem hull_subset {points vertices : List (K × K)} (h : ∀ p ∈ points, p ∈ hull vertices) :
    hull points ⊆ hull vertices := convexHull_min h (convex_convexHull K _)

/-- What is left of a line with all points has their hull left of it. -/
theorem left_of_hull {a b q : K × K} (h : ∀ p ∈ points, 0 ≤ turn a b p) (hq : q ∈ hull points) :
    0 ≤ turn a b q := convexHull_min h (convex_left a b) hq

/-- **What is left of the three sides of a triangle** is in every hull with its corners. -/
theorem mem_hull_triangle {o a b q : K × K} (ho : o ∈ points) (ha : a ∈ points) (hb : b ∈ points)
    (hpos : 0 < turn o a b) (hoa : 0 ≤ turn o a q) (hab : 0 ≤ turn a b q) (hbo : 0 ≤ turn b o q) :
    q ∈ hull points := by
  have hsum : turn a b q + turn b o q + turn o a q = turn o a b := by
    unfold turn
    ring
  have hmem := (convex_convexHull K {p | p ∈ points}).sum_mem (t := Finset.univ)
    (w := ![turn a b q / turn o a b, turn b o q / turn o a b, turn o a q / turn o a b])
    (z := ![o, a, b]) ?_ ?_ ?_
  · rw [Fin.sum_univ_three] at hmem
    have hq : q = (turn a b q / turn o a b) • o + (turn b o q / turn o a b) • a +
        (turn o a q / turn o a b) • b := by
      refine Prod.ext ?_ ?_
      · simp only [Prod.fst_add, Prod.smul_fst, smul_eq_mul]
        field_simp
        unfold turn
        ring
      · simp only [Prod.snd_add, Prod.smul_snd, smul_eq_mul]
        field_simp
        unfold turn
        ring
    rw [hq]
    exact hmem
  · intro i _
    fin_cases i
    · exact div_nonneg hab hpos.le
    · exact div_nonneg hbo hpos.le
    · exact div_nonneg hoa hpos.le
  · rw [Fin.sum_univ_three]
    show turn a b q / turn o a b + turn b o q / turn o a b + turn o a q / turn o a b = 1
    rw [← add_div, ← add_div, hsum, div_self hpos.ne']
  · intro i _
    fin_cases i
    · exact mem_hull ho
    · exact mem_hull ha
    · exact mem_hull hb

/-- **What is left of the sides of a fan** around `o` is in every hull with its points. -/
theorem mem_hull_fan {o q : K × K} (ho : o ∈ points) (rest : List (K × K)) {a b : K × K}
    (hmem : ∀ p ∈ a :: b :: rest, p ∈ points)
    (hsides : (a :: b :: rest).IsChain fun c d => 0 ≤ turn c d q ∧ 0 < turn o c d)
    (hfirst : 0 ≤ turn o a q) (hlast : ∀ z ∈ (b :: rest).getLast?, 0 ≤ turn z o q) :
    q ∈ hull points := by
  induction rest generalizing a b with
  | nil =>
    rw [List.isChain_pair] at hsides
    exact mem_hull_triangle ho (hmem a (by simp)) (hmem b (by simp)) hsides.2 hfirst hsides.1
      (hlast b rfl)
  | cons c rest ih =>
    rw [List.isChain_cons_cons] at hsides
    by_cases hb : 0 ≤ turn b o q
    · exact mem_hull_triangle ho (hmem a (by simp)) (hmem b (by simp)) hsides.1.2 hfirst
        hsides.1.1 hb
    · refine ih (fun p hp => hmem p (List.mem_cons_of_mem _ hp)) hsides.2 ?_ ?_
      · have hswap : turn o b q = -turn b o q := by
          unfold turn
          ring
        rw [hswap]
        exact neg_nonneg.mpr (le_of_lt (lt_of_not_ge hb))
      · rw [List.getLast?_cons_cons] at hlast
        exact hlast

/-! ## 4. Neighbours in a list -/

section Neighbours

variable {α : Type} {l : List α}

/-- The neighbours in a list. -/
def adjacent (l : List α) : List (α × α) := l.zip l.tail

theorem mem_adjacent_cons {a b : α} {s : α × α} :
    s ∈ adjacent (a :: b :: l) ↔ s = (a, b) ∨ s ∈ adjacent (b :: l) := List.mem_cons

theorem isChain_iff_adjacent {R : α → α → Prop} : l.IsChain R ↔ ∀ s ∈ adjacent l, R s.1 s.2 := by
  induction l with
  | nil => simp [adjacent]
  | cons a l ih =>
    cases l with
    | nil => simp [adjacent]
    | cons b l => simp [mem_adjacent_cons, ih]

/-- The neighbours on either side of an item. -/
theorem mem_adjacent_append {m : α} {l l' : List α} {s : α × α} :
    s ∈ adjacent (l ++ m :: l') ↔ s ∈ adjacent (l ++ [m]) ∨ s ∈ adjacent (m :: l') := by
  induction l with
  | nil => simp [adjacent]
  | cons a l ih =>
    cases l with
    | nil =>
      show s ∈ adjacent (a :: m :: l') ↔ s ∈ adjacent (a :: m :: []) ∨ s ∈ adjacent (m :: l')
      rw [mem_adjacent_cons, mem_adjacent_cons]
      simp [adjacent]
    | cons b l =>
      show s ∈ adjacent (a :: b :: (l ++ m :: l')) ↔
        s ∈ adjacent (a :: b :: (l ++ [m])) ∨ s ∈ adjacent (m :: l')
      rw [mem_adjacent_cons, mem_adjacent_cons, or_assoc]
      exact or_congr Iff.rfl ih

theorem mem_adjacent_reverse {a b : α} : (a, b) ∈ adjacent l.reverse ↔ (b, a) ∈ adjacent l := by
  induction l with
  | nil => simp [adjacent]
  | cons c l ih =>
    cases l with
    | nil => simp [adjacent]
    | cons d l =>
      have hends : (c :: d :: l).reverse = l.reverse ++ d :: [c] := by simp
      have hinner : l.reverse ++ [d] = (d :: l).reverse := by simp
      have hpair : (a, b) ∈ adjacent [d, c] ↔ (b, a) = (c, d) := by
        simp [adjacent, and_comm]
      rw [hends, mem_adjacent_append, hinner, ih, hpair, mem_adjacent_cons, or_comm]

theorem mem_of_adjacent {s : α × α} (h : s ∈ adjacent l) : s.1 ∈ l ∧ s.2 ∈ l :=
  ⟨(List.of_mem_zip h).1, List.mem_of_mem_tail (List.of_mem_zip h).2⟩

/-- The sides of the closed list. -/
def sides : List α → List (α × α)
  | [] => []
  | p :: rest => (p :: rest).zip (rest ++ [p])

theorem sides_eq_adjacent (p : α) (rest : List α) :
    sides (p :: rest) = adjacent (p :: rest ++ [p]) := by
  have hzip : (p :: rest ++ [p]).zip (rest ++ [p] ++ []) = (p :: rest).zip (rest ++ [p]) ++ [] :=
    List.zip_append (by simp)
  rw [List.append_nil, List.append_nil] at hzip
  exact hzip.symm

/-- What holds of triples however they are turned holds of a list turned by one. -/
theorem triplewise_turned {p : α → α → α → Prop} (hp : ∀ a b c, p a b c → p b c a) {a : α}
    (h : (a :: l).Triplewise p) : (l ++ [a]).Triplewise p := by
  rw [List.triplewise_cons] at h
  rw [List.triplewise_append]
  refine ⟨h.2, by simp, fun b _ => by simp, fun b hb => ?_⟩
  rw [List.mem_singleton.mp hb]
  exact h.1.imp fun hbc => hp _ _ _ hbc

theorem triplewise_rotate {p : α → α → α → Prop} (hp : ∀ a b c, p a b c → p b c a)
    (h : l.Triplewise p) (n : ℕ) : (l.rotate n).Triplewise p := by
  induction n generalizing l with
  | zero =>
    rw [List.rotate_zero]
    exact h
  | succ n ih =>
    cases l with
    | nil => simp
    | cons a l =>
      rw [List.rotate_cons_succ]
      exact ih (triplewise_turned hp h)

end Neighbours

end Plane
