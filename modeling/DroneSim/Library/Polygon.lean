/-
  File:      DroneSim/Library/Polygon.lean
  Subject:   Convex polygons in the plane over an ordered field.

  * `Region Side` -- a relation between points whose sides turn left and support each other;
    `Region.on_side`: what is inside and on the line of a side is on the side; `Region.strict`:
    a side has every other corner strictly on its left;
  * `Region.triplewise`, `Region.mem_hull` -- the corners as a list: any three turn left, and what
    is inside is in their hull;
  * `exists_exit` -- where a way out of finitely many half-planes leaves them; `Region.exit` and
    `box_exit` for a polygon and for a box;
  * `turn_mul_nonpos`, `fst_between`, `nearest` -- what a point of a segment says of its ends.
-/
import DroneSim.Library.Plane
import Mathlib.Analysis.Convex.Segment

namespace Plane

variable {K : Type} [Field K] [LinearOrder K] [IsStrictOrderedRing K]

/-! ## 1. Convex polygons -/

/-- **A relation of sides**: each is followed and preceded by one to its left, and each supports the
    beginnings of all. -/
structure Region (Side : K × K → K × K → Prop) : Prop where
  next : ∀ {a b}, Side a b → ∃ c, Side b c ∧ 0 < turn a b c
  prev : ∀ {a b}, Side a b → ∃ z, Side z a ∧ 0 < turn z a b
  supports : ∀ {a b c d}, Side a b → Side c d → 0 ≤ turn a b c

/-- On the left of every side. -/
def Inside (Side : K × K → K × K → Prop) (q : K × K) : Prop := ∀ a b, Side a b → 0 ≤ turn a b q

omit [LinearOrder K] [IsStrictOrderedRing K] in
/-- A point of a line between two points, by its place. -/
theorem exists_place {a b q : K × K} (hne : a ≠ b) (h : turn a b q = 0) :
    ∃ s t : K, s + t = 1 ∧ q = s • a + t • b := by
  have hplace : ∀ t : K, q.1 - a.1 = t * (b.1 - a.1) → q.2 - a.2 = t * (b.2 - a.2) →
      ∃ s t : K, s + t = 1 ∧ q = s • a + t • b := by
    intro t h1 h2
    refine ⟨1 - t, t, sub_add_cancel 1 t, Prod.ext ?_ ?_⟩
    · simp only [Prod.fst_add, Prod.smul_fst, smul_eq_mul]
      linear_combination h1
    · simp only [Prod.snd_add, Prod.smul_snd, smul_eq_mul]
      linear_combination h2
  unfold turn at h
  by_cases h1 : b.1 - a.1 = 0
  · have h2 : b.2 - a.2 ≠ 0 := fun h2 =>
      hne (Prod.ext (sub_eq_zero.mp h1).symm (sub_eq_zero.mp h2).symm)
    refine hplace ((q.2 - a.2) / (b.2 - a.2)) ?_ (div_mul_cancel₀ _ h2).symm
    rw [h1, zero_mul, zero_sub, neg_eq_zero] at h
    rw [h1, mul_zero]
    exact (mul_eq_zero.mp h).resolve_left h2
  · refine hplace ((q.1 - a.1) / (b.1 - a.1)) (div_mul_cancel₀ _ h1).symm ?_
    rw [div_mul_eq_mul_div, eq_div_iff h1]
    linear_combination h

namespace Region

variable {Side : K × K → K × K → Prop}

omit [IsStrictOrderedRing K] in
theorem ne (h : Region Side) {a b : K × K} (hab : Side a b) : a ≠ b := by
  rintro rfl
  obtain ⟨c, -, hturn⟩ := h.next hab
  rw [turn_left] at hturn
  exact lt_irrefl 0 hturn

/-- **What is inside and on the line of a side is on the side.** -/
theorem on_side (h : Region Side) {a b q : K × K} (hab : Side a b) (hq : Inside Side q)
    (hzero : turn a b q = 0) : ∃ s t : K, 0 ≤ s ∧ 0 ≤ t ∧ s + t = 1 ∧ q = s • a + t • b := by
  obtain ⟨s, t, hst, rfl⟩ := exists_place (h.ne hab) hzero
  obtain ⟨c, hbc, hnext⟩ := h.next hab
  obtain ⟨z, hza, hprev⟩ := h.prev hab
  have hs : 0 ≤ s * turn a b c := by
    have hleft := hq b c hbc
    rw [turn_mix b c a b hst, turn_right, mul_zero, add_zero] at hleft
    rwa [turn_rotate a b c] at hleft
  have ht : 0 ≤ t * turn z a b := by
    have hleft := hq z a hza
    rwa [turn_mix z a a b hst, turn_self, mul_zero, zero_add] at hleft
  exact ⟨s, t, nonneg_of_mul_nonneg_left hs hnext, nonneg_of_mul_nonneg_left ht hprev, hst, rfl⟩

omit [IsStrictOrderedRing K] in
theorem inside_of_side (h : Region Side) {c d : K × K} (hcd : Side c d) : Inside Side c :=
  fun _ _ hab => h.supports hab hcd

/-- **A side has every other corner strictly on its left.** -/
theorem strict (h : Region Side) {a b w x : K × K} (hab : Side a b) (hwx : Side w x) (ha : w ≠ a)
    (hb : w ≠ b) : 0 < turn a b w := by
  refine lt_of_le_of_ne (h.supports hab hwx) fun hzero => ?_
  obtain ⟨s, t, hs, ht, hst, hw⟩ := h.on_side hab (h.inside_of_side hwx) hzero.symm
  have hs' : s ≠ 0 := by
    rintro rfl
    rw [zero_add] at hst
    rw [hst, zero_smul, one_smul, zero_add] at hw
    exact hb hw
  have ht' : t ≠ 0 := by
    rintro rfl
    rw [add_zero] at hst
    rw [hst, zero_smul, one_smul, add_zero] at hw
    exact ha hw
  obtain ⟨y, hyw, hturn⟩ := h.prev hwx
  obtain ⟨c, hbc, -⟩ := h.next hab
  -- the corner lies between `a` and `b`, so the sides at it lie along theirs
  have hline : ∀ {c d : K × K}, Side c d → turn c d w = 0 → turn c d a = 0 ∧ turn c d b = 0 := by
    intro c d hcd hcw
    have ha0 := mul_nonneg hs (h.supports hcd hab)
    have hb0 := mul_nonneg ht (h.supports hcd hbc)
    rw [hw, turn_mix c d a b hst] at hcw
    have hs0 : s * turn c d a = 0 := by linarith
    have ht0 : t * turn c d b = 0 := by linarith
    exact ⟨(mul_eq_zero.mp hs0).resolve_left hs', (mul_eq_zero.mp ht0).resolve_left ht'⟩
  obtain ⟨hxa, hxb⟩ := hline hwx (turn_right w x)
  obtain ⟨hya, hyb⟩ := hline hyw (turn_self y w)
  have hx : turn a b x = 0 := turn_collinear (h.ne hwx) hxa hxb (turn_self w x)
  have hy : turn a b y = 0 := turn_collinear (h.ne hyw) hya hyb (turn_right y w)
  rw [turn_collinear (h.ne hab) hy hzero.symm hx] at hturn
  exact lt_irrefl 0 hturn

/-- Around a corner the others come in order. -/
theorem pairwise (h : Region Side) {o e : K × K} {l : List (K × K)} (hoe : Side o e)
    (hl : ∀ s ∈ adjacent (e :: l), Side s.1 s.2) (hcorner : ∀ w ∈ e :: l, ∃ x, Side w x)
    (ho : o ∉ e :: l) (he : e ∉ l) : (e :: l).Pairwise fun a b => 0 < turn o a b := by
  have htrans : ∀ a b c, (0 ≤ turn o e a ∧ 0 < turn o e b ∧ 0 < turn o a b) →
      (0 ≤ turn o e b ∧ 0 < turn o e c ∧ 0 < turn o b c) →
        0 ≤ turn o e a ∧ 0 < turn o e c ∧ 0 < turn o a c := by
    intro a b c hab hbc
    refine ⟨hab.1, hbc.2.1, ?_⟩
    have hsum : turn o e b * turn o a c = turn o e a * turn o b c + turn o e c * turn o a b := by
      unfold turn
      ring
    have hpos : 0 < turn o e b * turn o a c := by
      rw [hsum]
      exact add_pos_of_nonneg_of_pos (mul_nonneg hab.1 hbc.2.2.le) (mul_pos hbc.2.1 hab.2.2)
    exact pos_of_mul_pos_right hpos hab.2.1.le
  have _ : Trans (fun a b => 0 ≤ turn o e a ∧ 0 < turn o e b ∧ 0 < turn o a b)
      (fun a b => 0 ≤ turn o e a ∧ 0 < turn o e b ∧ 0 < turn o a b)
      (fun a b => 0 ≤ turn o e a ∧ 0 < turn o e b ∧ 0 < turn o a b) := ⟨htrans _ _ _⟩
  have hchain : (e :: l).IsChain fun a b =>
      0 ≤ turn o e a ∧ 0 < turn o e b ∧ 0 < turn o a b := by
    rw [isChain_iff_adjacent]
    intro s hs
    obtain ⟨x, hx⟩ := hcorner s.1 (mem_of_adjacent hs).1
    obtain ⟨y, hy⟩ := hcorner s.2 (mem_of_adjacent hs).2
    have hside := hl s hs
    have hso : o ≠ s.1 := fun heq => ho (heq ▸ (mem_of_adjacent hs).1)
    have hso' : o ≠ s.2 := fun heq => ho (heq ▸ (mem_of_adjacent hs).2)
    have hse : s.2 ≠ e := fun heq => he (heq ▸ (List.of_mem_zip hs).2)
    refine ⟨h.supports hoe hx, h.strict hoe hy hso'.symm hse, ?_⟩
    rw [← turn_rotate]
    exact h.strict hside hoe hso hso'
  exact (List.isChain_iff_pairwise.mp hchain).imp fun hab => hab.2.2

/-- **Distinct corners one after another**: any three turn left. -/
theorem triplewise (h : Region Side) {l : List (K × K)} (hl : ∀ s ∈ adjacent l, Side s.1 s.2)
    (hcorner : ∀ w ∈ l, ∃ x, Side w x) (hnodup : l.Nodup) :
    l.Triplewise fun a b c => 0 < turn a b c := by
  induction l with
  | nil => exact .nil
  | cons o l ih =>
    rw [List.nodup_cons] at hnodup
    have hrest : ∀ s ∈ adjacent l, Side s.1 s.2 := by
      intro s hs
      cases l with
      | nil => simp [adjacent] at hs
      | cons e l => exact hl s (mem_adjacent_cons.mpr (Or.inr hs))
    refine .cons ?_ (ih hrest (fun w hw => hcorner w (List.mem_cons_of_mem _ hw)) hnodup.2)
    cases l with
    | nil => exact List.Pairwise.nil
    | cons e l =>
      exact h.pairwise (hl (o, e) (mem_adjacent_cons.mpr (Or.inl rfl))) hrest
        (fun w hw => hcorner w (List.mem_cons_of_mem _ hw)) hnodup.1 (List.nodup_cons.mp hnodup.2).1

/-- **What is inside a polygon is in the hull of its corners.** -/
theorem mem_hull {l : List (K × K)} (h : Region fun a b => (a, b) ∈ sides l) (hnodup : l.Nodup)
    (hlength : 3 ≤ l.length) {q : K × K} (hq : Inside (fun a b => (a, b) ∈ sides l) q) :
    q ∈ hull l := by
  match l, hlength with
  | o :: a :: b :: rest, _ =>
    rw [List.nodup_cons] at hnodup
    rw [sides_eq_adjacent] at h hq
    have hside : ∀ s ∈ adjacent (a :: b :: rest),
        s ∈ adjacent (o :: a :: b :: rest ++ [o]) := by
      intro s hs
      obtain ⟨l', z, hl'⟩ := (List.eq_nil_or_concat (a :: b :: rest)).resolve_left (by simp)
      rw [List.concat_eq_append] at hl'
      show s ∈ adjacent (o :: (a :: b :: rest ++ [o]))
      rw [hl', List.append_assoc]
      show s ∈ adjacent ((o :: l') ++ z :: [o])
      rw [mem_adjacent_append]
      refine Or.inl ?_
      show s ∈ adjacent (o :: (l' ++ [z]))
      rw [← hl', mem_adjacent_cons]
      exact Or.inr hs
    refine mem_hull_fan (List.mem_cons_self) rest (fun p hp => List.mem_cons_of_mem _ hp) ?_ ?_ ?_
    · rw [isChain_iff_adjacent]
      intro s hs
      refine ⟨hq _ _ (hside s hs), ?_⟩
      rw [← turn_rotate]
      exact h.strict (hside s hs) (mem_adjacent_cons.mpr (Or.inl rfl))
        (fun heq => hnodup.1 (heq ▸ (mem_of_adjacent hs).1))
        fun heq => hnodup.1 (heq ▸ (mem_of_adjacent hs).2)
    · exact hq o a (mem_adjacent_cons.mpr (Or.inl rfl))
    · intro z hz
      obtain ⟨l', hl'⟩ := List.getLast?_eq_some_iff.mp hz
      refine hq z o ?_
      show (z, o) ∈ adjacent (o :: a :: (b :: rest ++ [o]))
      rw [hl', List.append_assoc]
      show (z, o) ∈ adjacent ((o :: a :: l') ++ z :: [o])
      rw [mem_adjacent_append]
      exact Or.inr (mem_adjacent_cons.mpr (Or.inl rfl))

end Region

/-! ## 2. Ways out -/

/-- **Where a way leaves finitely many half-planes**: of affine functions with these values at its
    two ends, one is the first to vanish. -/
theorem exists_exit {ends : List (K × K)} (hstart : ∀ f ∈ ends, 0 ≤ f.1)
    (hout : ∃ f ∈ ends, f.2 < 0) : ∃ s t : K, 0 ≤ s ∧ 0 ≤ t ∧ s + t = 1 ∧
      (∀ f ∈ ends, 0 ≤ s * f.1 + t * f.2) ∧ ∃ f ∈ ends, s * f.1 + t * f.2 = 0 := by
  induction ends with
  | nil =>
    obtain ⟨f, hf, -⟩ := hout
    cases hf
  | cons f rest ih =>
    have hf := hstart f List.mem_cons_self
    have hrest : ∀ g ∈ rest, 0 ≤ g.1 := fun g hg => hstart g (List.mem_cons_of_mem _ hg)
    -- where `f` vanishes on a way on which the others are not yet left
    have hroot : ∀ u v : K, 0 ≤ u → 0 ≤ v → u + v = 1 → u * f.1 + v * f.2 < 0 →
        (∀ g ∈ rest, 0 ≤ u * g.1 + v * g.2) → ∃ s t : K, 0 ≤ s ∧ 0 ≤ t ∧ s + t = 1 ∧
          (∀ g ∈ f :: rest, 0 ≤ s * g.1 + t * g.2) ∧
            ∃ g ∈ f :: rest, s * g.1 + t * g.2 = 0 := by
      intro u v hu hv huv hneg hothers
      have hv0 : 0 < f.1 - (u * f.1 + v * f.2) := by linarith
      have hc : 0 ≤ f.1 / (f.1 - (u * f.1 + v * f.2)) := div_nonneg hf hv0.le
      have hc1 : f.1 / (f.1 - (u * f.1 + v * f.2)) ≤ 1 := by
        rw [div_le_one hv0]
        linarith
      have hzero : f.1 - f.1 / (f.1 - (u * f.1 + v * f.2)) * (f.1 - (u * f.1 + v * f.2)) = 0 := by
        rw [div_mul_cancel₀ _ hv0.ne', sub_self]
      generalize f.1 / (f.1 - (u * f.1 + v * f.2)) = c at hc hc1 hzero
      have hsame : ∀ g : K × K, (1 - c * v) * g.1 + c * v * g.2 =
          (1 - c) * g.1 + c * (u * g.1 + v * g.2) := by
        intro g
        have hu' : u = 1 - v := by linarith
        rw [hu']
        ring
      have hvanish : (1 - c * v) * f.1 + c * v * f.2 = 0 := by
        rw [hsame, ← hzero]
        ring
      have hcv : c * v ≤ 1 := by
        have hv1 : v ≤ 1 := by linarith
        exact mul_le_one₀ hc1 hv hv1
      refine ⟨1 - c * v, c * v, by linarith, mul_nonneg hc hv, sub_add_cancel 1 _, ?_, f,
        List.mem_cons_self, hvanish⟩
      intro g hg
      rcases List.mem_cons.mp hg with rfl | hg
      · exact hvanish.ge
      · rw [hsame]
        exact add_nonneg (mul_nonneg (by linarith) (hrest g hg)) (mul_nonneg hc (hothers g hg))
    by_cases hlater : ∃ g ∈ rest, g.2 < 0
    · obtain ⟨s, t, hs, ht, hst, hall, g, hg, hzero⟩ := ih hrest hlater
      by_cases hfst : 0 ≤ s * f.1 + t * f.2
      · refine ⟨s, t, hs, ht, hst, fun k hk => ?_, g, List.mem_cons_of_mem _ hg, hzero⟩
        rcases List.mem_cons.mp hk with rfl | hk
        · exact hfst
        · exact hall k hk
      · exact hroot s t hs ht hst (lt_of_not_ge hfst) hall
    · obtain ⟨g, hg, hneg⟩ := hout
      rcases List.mem_cons.mp hg with rfl | hg
      · refine hroot 0 1 le_rfl zero_le_one (zero_add 1) (by linarith) fun k hk => ?_
        rw [zero_mul, one_mul, zero_add]
        exact le_of_not_gt fun hk' => hlater ⟨k, hk, hk'⟩
      · exact absurd ⟨g, hg, hneg⟩ hlater

/-- **A way out of a polygon** crosses a side. -/
theorem Region.exit {l : List (K × K)} (h : Region fun a b => (a, b) ∈ sides l) {q k : K × K}
    (hq : Inside (fun a b => (a, b) ∈ sides l) q) (hk : ¬Inside (fun a b => (a, b) ∈ sides l) k) :
    ∃ s ∈ sides l, ∃ x ∈ segment K q k, x ∈ segment K s.1 s.2 := by
  have hstart : ∀ f ∈ (sides l).map fun s => (turn s.1 s.2 q, turn s.1 s.2 k), 0 ≤ f.1 := by
    intro f hf
    obtain ⟨s, hs, rfl⟩ := List.mem_map.mp hf
    exact hq s.1 s.2 hs
  have hout : ∃ f ∈ (sides l).map fun s => (turn s.1 s.2 q, turn s.1 s.2 k), f.2 < 0 := by
    by_contra hnone
    refine hk fun a b hab => le_of_not_gt fun hneg => hnone ?_
    exact ⟨_, List.mem_map.mpr ⟨(a, b), hab, rfl⟩, hneg⟩
  obtain ⟨s, t, hs, ht, hst, hall, f, hf, hzero⟩ := exists_exit hstart hout
  obtain ⟨side, hside, rfl⟩ := List.mem_map.mp hf
  have hinside : Inside (fun a b => (a, b) ∈ sides l) (s • q + t • k) := by
    intro a b hab
    rw [turn_mix a b q k hst]
    exact hall _ (List.mem_map.mpr ⟨(a, b), hab, rfl⟩)
  have hon : turn side.1 side.2 (s • q + t • k) = 0 := by
    rw [turn_mix side.1 side.2 q k hst]
    exact hzero
  obtain ⟨u, v, hu, hv, huv, hplace⟩ := h.on_side hside hinside hon
  exact ⟨side, hside, _, ⟨s, t, hs, ht, hst, rfl⟩, ⟨u, v, hu, hv, huv, hplace.symm⟩⟩

/-- The distances from the four lines of a box at the two ends of a way. -/
def boxEnds (lo hi x a : K × K) : List (K × K) :=
  [(x.1 - lo.1, a.1 - lo.1), (hi.1 - x.1, hi.1 - a.1), (x.2 - lo.2, a.2 - lo.2),
    (hi.2 - x.2, hi.2 - a.2)]

/-- **A way out of a box** crosses its edge. -/
theorem box_exit {lo hi x a : K × K} (hx : x ∈ Set.Icc lo hi) (ha : a ∉ Set.Icc lo hi) :
    ∃ y ∈ segment K x a, y ∈ Set.Icc lo hi ∧
      (y.1 = lo.1 ∨ y.1 = hi.1 ∨ y.2 = lo.2 ∨ y.2 = hi.2) := by
  have hends : ∀ p : K × K, p ∈ Set.Icc lo hi ↔
      (0 ≤ p.1 - lo.1 ∧ 0 ≤ hi.1 - p.1) ∧ 0 ≤ p.2 - lo.2 ∧ 0 ≤ hi.2 - p.2 := by
    intro p
    rw [Set.mem_Icc, Prod.le_def, Prod.le_def]
    simp only [sub_nonneg]
    tauto
  rw [hends] at hx
  have hstart : ∀ f ∈ boxEnds lo hi x a, 0 ≤ f.1 := by
    simpa [boxEnds, and_assoc] using hx
  have hout : ∃ f ∈ boxEnds lo hi x a, f.2 < 0 := by
    by_contra hnone
    have hstay : ∀ f ∈ boxEnds lo hi x a, 0 ≤ f.2 :=
      fun f hf => le_of_not_gt fun hneg => hnone ⟨f, hf, hneg⟩
    exact ha ((hends a).mpr (by simpa [boxEnds, and_assoc] using hstay))
  obtain ⟨s, t, hs, ht, hst, hall, f, hf, hzero⟩ := exists_exit hstart hout
  have hmix : ∀ c d e : K, s * (c - e) + t * (d - e) = s * c + t * d - e := by
    intro c d e
    have hs' : s = 1 - t := by rw [← hst, add_sub_cancel_right]
    rw [hs']
    ring
  have hmix' : ∀ c d e : K, s * (e - c) + t * (e - d) = e - (s * c + t * d) := by
    intro c d e
    have hs' : s = 1 - t := by rw [← hst, add_sub_cancel_right]
    rw [hs']
    ring
  simp only [boxEnds, List.mem_cons, List.not_mem_nil, or_false, forall_eq_or_imp, forall_eq,
    hmix, hmix'] at hall
  refine ⟨s • x + t • a, ⟨s, t, hs, ht, hst, rfl⟩, (hends _).mpr ?_, ?_⟩
  · simp only [Prod.fst_add, Prod.snd_add, Prod.smul_fst, Prod.smul_snd, smul_eq_mul]
    exact ⟨⟨hall.1, hall.2.1⟩, hall.2.2⟩
  · simp only [Prod.fst_add, Prod.snd_add, Prod.smul_fst, Prod.smul_snd, smul_eq_mul]
    simp only [boxEnds, List.mem_cons, List.not_mem_nil, or_false] at hf
    rcases hf with rfl | rfl | rfl | rfl
    · rw [hmix] at hzero
      exact Or.inl (sub_eq_zero.mp hzero)
    · rw [hmix'] at hzero
      exact Or.inr (Or.inl (sub_eq_zero.mp hzero).symm)
    · rw [hmix] at hzero
      exact Or.inr (Or.inr (Or.inl (sub_eq_zero.mp hzero)))
    · rw [hmix'] at hzero
      exact Or.inr (Or.inr (Or.inr (sub_eq_zero.mp hzero).symm))

/-! ## 3. Segments -/

omit [IsStrictOrderedRing K] in
/-- A segment is on its line. -/
theorem turn_of_mem_segment {a b y : K × K} (hy : y ∈ segment K a b) : turn a b y = 0 := by
  obtain ⟨s, t, -, -, hst, rfl⟩ := hy
  rw [turn_mix a b a b hst, turn_right, turn_self, mul_zero, mul_zero, add_zero]

/-- **The ends of a segment that meets a line** are not on one side of it. -/
theorem turn_mul_nonpos {a b p q y : K × K} (hy : y ∈ segment K p q) (hzero : turn a b y = 0) :
    turn a b p * turn a b q ≤ 0 := by
  obtain ⟨s, t, hs, ht, hst, rfl⟩ := hy
  rw [turn_mix a b p q hst] at hzero
  by_contra hpos
  rcases mul_pos_iff.mp (lt_of_not_ge hpos) with ⟨hp, hq⟩ | ⟨hp, hq⟩
  · have hp' := mul_nonneg hs hp.le
    have hq' := mul_nonneg ht hq.le
    have hs0 := (mul_eq_zero.mp (show s * turn a b p = 0 by linarith)).resolve_right hp.ne'
    have ht0 := (mul_eq_zero.mp (show t * turn a b q = 0 by linarith)).resolve_right hq.ne'
    rw [hs0, ht0, add_zero] at hst
    exact zero_ne_one hst
  · have hp' := mul_nonpos_of_nonneg_of_nonpos hs hp.le
    have hq' := mul_nonpos_of_nonneg_of_nonpos ht hq.le
    have hs0 := (mul_eq_zero.mp (show s * turn a b p = 0 by linarith)).resolve_right hp.ne
    have ht0 := (mul_eq_zero.mp (show t * turn a b q = 0 by linarith)).resolve_right hq.ne
    rw [hs0, ht0, add_zero] at hst
    exact zero_ne_one hst

/-- A number between two. -/
theorem between_of_mix {s t c d : K} (hs : 0 ≤ s) (ht : 0 ≤ t) (hst : s + t = 1) :
    min c d ≤ s * c + t * d ∧ s * c + t * d ≤ max c d := by
  have hs' : s = 1 - t := by rw [← hst, add_sub_cancel_right]
  rcases le_total c d with h | h
  · rw [min_eq_left h, max_eq_right h]
    have hgap := mul_nonneg ht (sub_nonneg.mpr h)
    have hgap' := mul_nonneg hs (sub_nonneg.mpr h)
    rw [hs'] at hgap' ⊢
    constructor <;> linarith
  · rw [min_eq_right h, max_eq_left h]
    have hgap := mul_nonneg ht (sub_nonneg.mpr h)
    have hgap' := mul_nonneg hs (sub_nonneg.mpr h)
    rw [hs'] at hgap' ⊢
    constructor <;> linarith

theorem fst_between {a b y : K × K} (hy : y ∈ segment K a b) :
    min a.1 b.1 ≤ y.1 ∧ y.1 ≤ max a.1 b.1 := by
  obtain ⟨s, t, hs, ht, hst, rfl⟩ := hy
  exact between_of_mix hs ht hst

theorem snd_between {a b y : K × K} (hy : y ∈ segment K a b) :
    min a.2 b.2 ≤ y.2 ∧ y.2 ≤ max a.2 b.2 := by
  obtain ⟨s, t, hs, ht, hst, rfl⟩ := hy
  exact between_of_mix hs ht hst

/-- **The nearest point of a segment** is the foot of the perpendicular, held to the segment. -/
theorem nearest {n l t : K} (hl : 0 < l) (ht : 0 ≤ t) (ht1 : t ≤ 1) :
    let f := max 0 (min 1 (n / l))
    f * f * l - 2 * f * n ≤ t * t * l - 2 * t * n := by
  intro f
  have hfoot : n = n / l * l := (div_mul_cancel₀ n hl.ne').symm
  have hgap : (t * t * l - 2 * t * n) - (f * f * l - 2 * f * n) =
      (t - f) * (t + f - 2 * (n / l)) * l := by
    rw [hfoot]
    field_simp
    ring
  have hsign : 0 ≤ (t - f) * (t + f - 2 * (n / l)) := by
    rcases le_total (n / l) 0 with h0 | h0
    · have hf : f = 0 := by
        show max 0 (min 1 (n / l)) = 0
        exact max_eq_left ((min_le_right _ _).trans h0)
      rw [hf]
      exact mul_nonneg (by linarith) (by linarith)
    · rcases le_total (n / l) 1 with h1 | h1
      · have hf : f = n / l := by
          show max 0 (min 1 (n / l)) = n / l
          rw [min_eq_right h1, max_eq_right h0]
        rw [hf]
        have hsquare := mul_self_nonneg (t - n / l)
        linarith
      · have hf : f = 1 := by
          show max 0 (min 1 (n / l)) = 1
          rw [min_eq_left h1, max_eq_right zero_le_one]
        rw [hf]
        exact mul_nonneg_of_nonpos_of_nonpos (by linarith) (by linarith)
  have hpos := mul_nonneg hsign hl.le
  linarith

end Plane
