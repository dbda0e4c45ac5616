/-
  File:      DroneSim/Scorekeeper/Containment.lean
  Subject:   No touching placement is missed (scorekeeper/vfs.py, `_payload_contained`).

  The hull of the contact points and the closed zone are sets of real points. From a common point
  the way to a point of the zone, its centre or a corner, stays in the zone: either it ends in the
  polygon or it crosses a side (`meets_side`), and a side that meets the zone is found
  (`contact_containment_complete`).
-/
import DroneSim.Scorekeeper.ConvexHull

namespace DroneSim

open Library Plane

/-! ## 1. Real points -/

/-- A point with its coordinates as reals. -/
def realPoint (p : Point) : ℝ × ℝ := (p.1, p.2)

theorem turn_realPoint (a b c : Point) :
    turn (realPoint a) (realPoint b) (realPoint c) = (turn a b c : ℚ) := by
  unfold turn realPoint
  push_cast
  rfl

theorem sides_map {α β : Type} (f : α → β) (l : List α) :
    sides (l.map f) = (sides l).map (Prod.map f f) := by
  cases l with
  | nil => rfl
  | cons p rest =>
    have hlast : rest.map f ++ [f p] = (rest ++ [p]).map f := by simp
    show (f p :: rest.map f).zip (rest.map f ++ [f p]) = _
    rw [hlast, ← List.map_cons, List.zip_map]
    rfl

variable {l : List Point}

theorem mem_sides_real {a b : ℝ × ℝ} :
    (a, b) ∈ sides (l.map realPoint) ↔
      ∃ s ∈ sides l, a = realPoint s.1 ∧ b = realPoint s.2 := by
  rw [sides_map, List.mem_map]
  constructor
  · rintro ⟨s, hs, heq⟩
    exact ⟨s, hs, (congrArg Prod.fst heq).symm, (congrArg Prod.snd heq).symm⟩
  · rintro ⟨s, hs, rfl, rfl⟩
    exact ⟨s, hs, rfl⟩

/-- The sides of the real points bound a region too. -/
theorem region_real (h : Region fun a b => (a, b) ∈ sides l) :
    Region fun a b => (a, b) ∈ sides (l.map realPoint) where
  next hab := by
    obtain ⟨s, hs, rfl, rfl⟩ := mem_sides_real.mp hab
    obtain ⟨c, hc, hturn⟩ := h.next hs
    refine ⟨realPoint c, mem_sides_real.mpr ⟨_, hc, rfl, rfl⟩, ?_⟩
    rw [turn_realPoint]
    exact_mod_cast hturn
  prev hab := by
    obtain ⟨s, hs, rfl, rfl⟩ := mem_sides_real.mp hab
    obtain ⟨z, hz, hturn⟩ := h.prev hs
    refine ⟨realPoint z, mem_sides_real.mpr ⟨_, hz, rfl, rfl⟩, ?_⟩
    rw [turn_realPoint]
    exact_mod_cast hturn
  supports hab hcd := by
    obtain ⟨s, hs, rfl, rfl⟩ := mem_sides_real.mp hab
    obtain ⟨s', hs', rfl, rfl⟩ := mem_sides_real.mp hcd
    rw [turn_realPoint]
    exact_mod_cast h.supports hs hs'

theorem inside_real {k : Point} :
    Inside (fun a b => (a, b) ∈ sides (l.map realPoint)) (realPoint k) ↔
      Inside (fun a b => (a, b) ∈ sides l) k := by
  constructor
  · intro h a b hab
    have hleft := h _ _ (mem_sides_real.mpr ⟨(a, b), hab, rfl, rfl⟩)
    rw [turn_realPoint] at hleft
    exact_mod_cast hleft
  · intro h a b hab
    obtain ⟨s, hs, rfl, rfl⟩ := mem_sides_real.mp hab
    rw [turn_realPoint]
    exact_mod_cast h _ _ hs

/-! ## 2. Zones -/

/-- The closed zone of a waypoint. -/
def closedZone (w : VfsWaypoint) : Set (ℝ × ℝ) :=
  match w.radius with
  | some radius => {q | Real.sqrt ((q.1 - w.x) ^ 2 + (q.2 - w.y) ^ 2) ≤ radius}
  | none =>
    match w.width, w.height with
    | some width, some height => {q | |q.1 - w.x| ≤ width / 2 ∧ |q.2 - w.y| ≤ height / 2}
    | _, _ => ∅

/-- The points that are no further than `radius` from a centre. -/
def disc (centre : ℝ × ℝ) (radius : ℝ) : Set (ℝ × ℝ) :=
  {q | 0 ≤ radius ∧ (q.1 - centre.1) ^ 2 + (q.2 - centre.2) ^ 2 ≤ radius ^ 2}

theorem convex_disc (centre : ℝ × ℝ) (radius : ℝ) : Convex ℝ (disc centre radius) := by
  intro p hp q hq s t hs ht hst
  have hs' : s = 1 - t := by rw [← hst, add_sub_cancel_right]
  refine ⟨hp.1, ?_⟩
  simp only [Prod.fst_add, Prod.snd_add, Prod.smul_fst, Prod.smul_snd, smul_eq_mul]
  have hgap : s * ((p.1 - centre.1) ^ 2 + (p.2 - centre.2) ^ 2) +
      t * ((q.1 - centre.1) ^ 2 + (q.2 - centre.2) ^ 2) -
        ((s * p.1 + t * q.1 - centre.1) ^ 2 + (s * p.2 + t * q.2 - centre.2) ^ 2) =
          s * t * ((p.1 - q.1) ^ 2 + (p.2 - q.2) ^ 2) := by
    rw [hs']
    ring
  have hnonneg : 0 ≤ s * t * ((p.1 - q.1) ^ 2 + (p.2 - q.2) ^ 2) := by positivity
  have hp' := mul_le_mul_of_nonneg_left hp.2 hs
  have hq' := mul_le_mul_of_nonneg_left hq.2 ht
  have hsum : s * radius ^ 2 + t * radius ^ 2 = radius ^ 2 := by
    rw [← add_mul, hst, one_mul]
  linarith

/-! ## 3. What the tests find -/

theorem sameSide_of_left {point : Point} {sign : ℤ} (hsign : sign = 0 ∨ sign = 1)
    {l : List (Point × Point)} (h : ∀ s ∈ l, 0 ≤ cross s.1 s.2 point) :
    sameSide point sign l = true := by
  induction l generalizing sign with
  | nil => rfl
  | cons s rest ih =>
    have hs := h s List.mem_cons_self
    have hrest : ∀ t ∈ rest, 0 ≤ cross t.1 t.2 point :=
      fun t ht => h t (List.mem_cons_of_mem _ ht)
    have hslack : (0 : ℚ) ≤ containmentSlack := by
      unfold containmentSlack
      norm_num
    unfold sameSide
    dsimp only
    split
    · exact ih hsign hrest
    · rename_i hlarge
      have hpos : 0 < cross s.1 s.2 point := by
        refine lt_of_le_of_ne hs fun hzero => hlarge ?_
        rw [← hzero, abs_zero]
        exact hslack
      rw [if_pos hpos]
      rw [if_neg (by omega)]
      exact ih (Or.inr rfl) hrest

theorem segments_eq_sides (h : 3 ≤ l.length) : segments l = sides l := by
  rcases l with _ | ⟨a, _ | ⟨b, _ | ⟨c, rest⟩⟩⟩
  · simp at h
  · simp at h
  · simp at h
  · rfl

/-- **A point inside is found.** -/
theorem pointInPolygon_of_inside (hlength : 3 ≤ l.length) {k : Point}
    (h : Inside (fun a b => (a, b) ∈ sides l) k) : pointInPolygon k l = true := by
  unfold pointInPolygon
  rw [if_neg (by omega), segments_eq_sides hlength]
  exact sameSide_of_left (Or.inl rfl) fun s hs => h s.1 s.2 hs

theorem hypotLe_of_real {dx dy bound : ℚ} (hbound : 0 ≤ bound)
    (h : (dx : ℝ) ^ 2 + (dy : ℝ) ^ 2 ≤ (bound : ℝ) ^ 2) : hypotLe dx dy bound = true := by
  have hrat : dx ^ 2 + dy ^ 2 ≤ bound ^ 2 := by exact_mod_cast h
  unfold hypotLe sqrtLe
  rw [Bool.and_eq_true, decide_eq_true_eq, decide_eq_true_eq]
  refine ⟨hbound, ?_⟩
  rwa [pow_two, pow_two, pow_two] at hrat

/-- **The triangle inequality**: two ways, one no longer than `r`, the other than `d`. -/
theorem sum_sq_le (u u' v v' : ℝ) {r d : ℝ} (hr : 0 ≤ r) (hd : 0 ≤ d)
    (hu : u ^ 2 + u' ^ 2 ≤ r ^ 2) (hv : v ^ 2 + v' ^ 2 ≤ d ^ 2) :
    (u + v) ^ 2 + (u' + v') ^ 2 ≤ (r + d) ^ 2 := by
  have hproduct : (u * v + u' * v') ^ 2 ≤ (r * d) ^ 2 := by
    have hcauchy : (u * v + u' * v') ^ 2 + (u * v' - u' * v) ^ 2 =
        (u ^ 2 + u' ^ 2) * (v ^ 2 + v' ^ 2) := by ring
    have hbound : (u ^ 2 + u' ^ 2) * (v ^ 2 + v' ^ 2) ≤ r ^ 2 * d ^ 2 :=
      mul_le_mul hu hv (by positivity) (by positivity)
    have hrest := sq_nonneg (u * v' - u' * v)
    rw [mul_pow]
    linarith
  have hinner : u * v + u' * v' ≤ r * d := le_of_sq_le_sq hproduct (mul_nonneg hr hd)
  have hsum : (u + v) ^ 2 + (u' + v') ^ 2 =
      (u ^ 2 + u' ^ 2) + 2 * (u * v + u' * v') + (v ^ 2 + v' ^ 2) := by ring
  rw [hsum, add_sq]
  linarith

/-- **A segment that comes as near as `radius`** is found. -/
theorem segmentDistanceLe_of_mem {k a b : Point} {radius : ℚ} {x : ℝ × ℝ}
    (hx : x ∈ segment ℝ (realPoint a) (realPoint b)) (hdisc : x ∈ disc (realPoint k) radius) :
    segmentDistanceLe k a b (radius + containmentSlack) = true := by
  obtain ⟨s, t, hs, ht, hst, rfl⟩ := hx
  obtain ⟨hradius, hnear⟩ := hdisc
  have hs' : s = 1 - t := by rw [← hst, add_sub_cancel_right]
  have hradius' : 0 ≤ radius := by exact_mod_cast hradius
  have hslack : (containmentSlack : ℝ) = 1 / 1000000000 := by
    unfold containmentSlack
    norm_num
  have hbound : 0 ≤ radius + containmentSlack := add_nonneg hradius' (by
    unfold containmentSlack
    norm_num)
  simp only [realPoint, Prod.fst_add, Prod.snd_add, Prod.smul_fst, Prod.smul_snd, smul_eq_mul]
    at hnear
  unfold segmentDistanceLe
  dsimp only
  split
  · -- a short side stands for its beginning
    rename_i hshort
    have hshort' : (((b.1 - a.1) * (b.1 - a.1) + (b.2 - a.2) * (b.2 - a.2) : ℚ) : ℝ) ≤
        ((1 / 1000000000000000000 : ℚ) : ℝ) := by exact_mod_cast hshort
    push_cast at hshort'
    refine hypotLe_of_real hbound ?_
    push_cast
    rw [hslack]
    have hsmall : (0 : ℝ) ≤ 1 / 1000000000 := by norm_num
    have hway := sum_sq_le (k.1 - (s * a.1 + t * b.1)) (k.2 - (s * a.2 + t * b.2))
      (t * (b.1 - a.1)) (t * (b.2 - a.2)) hradius hsmall (by linarith) ?_
    · have hfirst : (k.1 : ℝ) - a.1 = k.1 - (s * a.1 + t * b.1) + t * (b.1 - a.1) := by
        rw [hs']
        ring
      have hsecond : (k.2 : ℝ) - a.2 = k.2 - (s * a.2 + t * b.2) + t * (b.2 - a.2) := by
        rw [hs']
        ring
      rw [hfirst, hsecond]
      exact hway
    · have ht1 : t * t ≤ 1 := mul_le_one₀ (by linarith) ht (by linarith)
      have hpart : t * t * ((b.1 - a.1 : ℝ) * (b.1 - a.1) + (b.2 - a.2) * (b.2 - a.2)) ≤
          1 * ((b.1 - a.1 : ℝ) * (b.1 - a.1) + (b.2 - a.2) * (b.2 - a.2)) :=
        mul_le_mul_of_nonneg_right ht1 (add_nonneg (mul_self_nonneg _) (mul_self_nonneg _))
      linarith
  · rename_i hlong
    have hlength : (0 : ℝ) < ((b.1 - a.1) * (b.1 - a.1) + (b.2 - a.2) * (b.2 - a.2) : ℚ) := by
      have hrat : 0 < (b.1 - a.1) * (b.1 - a.1) + (b.2 - a.2) * (b.2 - a.2) :=
        lt_of_le_of_lt (by norm_num) (lt_of_not_ge hlong)
      exact_mod_cast hrat
    have hfoot := nearest
      (n := (((k.1 - a.1) * (b.1 - a.1) + (k.2 - a.2) * (b.2 - a.2) : ℚ) : ℝ)) hlength ht
      (by linarith)
    refine hypotLe_of_real hbound ?_
    push_cast at hfoot ⊢
    generalize max (0 : ℝ) _ = f at hfoot ⊢
    have hgrow : (radius : ℝ) ^ 2 ≤ (radius + containmentSlack) ^ 2 := by
      rw [hslack]
      exact pow_le_pow_left₀ hradius (by linarith) 2
    have hsame : ((k.1 : ℝ) - (s * a.1 + t * b.1)) ^ 2 + (k.2 - (s * a.2 + t * b.2)) ^ 2 =
        (k.1 - a.1) ^ 2 + (k.2 - a.2) ^ 2 +
          (t * t * ((b.1 - a.1) * (b.1 - a.1) + (b.2 - a.2) * (b.2 - a.2)) -
            2 * t * ((k.1 - a.1) * (b.1 - a.1) + (k.2 - a.2) * (b.2 - a.2))) := by
      rw [hs']
      ring
    linarith

/-- **Segments with a common point** are found. -/
theorem segmentsIntersect_of_mem {s t : Point × Point} {y : ℝ × ℝ}
    (hs : y ∈ segment ℝ (realPoint s.1) (realPoint s.2))
    (ht : y ∈ segment ℝ (realPoint t.1) (realPoint t.2)) : segmentsIntersect s t = true := by
  have hproduct : ∀ {a b p q : Point}, y ∈ segment ℝ (realPoint a) (realPoint b) →
      y ∈ segment ℝ (realPoint p) (realPoint q) →
        ¬cross a b p * cross a b q > 1 / 1000000000000000000 := by
    intro a b p q hab hpq
    have hreal := turn_mul_nonpos hpq (turn_of_mem_segment hab)
    rw [turn_realPoint, turn_realPoint] at hreal
    have hrat : turn a b p * turn a b q ≤ 0 := by exact_mod_cast hreal
    rw [cross_eq_turn, cross_eq_turn]
    exact not_lt.mpr (hrat.trans (by norm_num))
  have hoverlap : ∀ {a b c d : ℚ} {v : ℝ}, (min (a : ℝ) b ≤ v ∧ v ≤ max (a : ℝ) b) →
      (min (c : ℝ) d ≤ v ∧ v ≤ max (c : ℝ) d) → overlaps a b c d = true := by
    intro a b c d v hab hcd
    have hreal : max (min (a : ℝ) b) (min (c : ℝ) d) ≤ min (max (a : ℝ) b) (max (c : ℝ) d) :=
      (max_le hab.1 hcd.1).trans (le_min hab.2 hcd.2)
    have hrat : max (min a b) (min c d) ≤ min (max a b) (max c d) := by exact_mod_cast hreal
    have hslack : (0 : ℚ) ≤ containmentSlack := by
      unfold containmentSlack
      norm_num
    exact decide_eq_true (hrat.trans (le_add_of_nonneg_right hslack))
  unfold segmentsIntersect
  dsimp only
  rw [if_neg (not_or.mpr ⟨hproduct hs ht, hproduct ht hs⟩), Bool.and_eq_true]
  exact ⟨hoverlap (fst_between hs) (fst_between ht), hoverlap (snd_between hs) (snd_between ht)⟩

/-! ## 4. From a common point to a test -/

theorem realPoint_mix (a b : Point) (s t : ℚ) :
    realPoint (s • a + t • b) = (s : ℝ) • realPoint a + (t : ℝ) • realPoint b := by
  unfold realPoint
  simp

/-- What is in the hull of rational points is in that of the real ones. -/
theorem mem_hull_real {p : Point} (h : p ∈ hull l) : realPoint p ∈ hull (l.map realPoint) := by
  have hconvex : Convex ℚ {p | realPoint p ∈ hull (l.map realPoint)} := by
    intro a ha b hb s t hs ht hst
    show realPoint (s • a + t • b) ∈ hull (l.map realPoint)
    rw [realPoint_mix]
    exact convex_convexHull ℝ _ ha hb (by exact_mod_cast hs) (by exact_mod_cast ht)
      (by exact_mod_cast hst)
  have hall : hull l ⊆ {p | realPoint p ∈ hull (l.map realPoint)} :=
    convexHull_min (fun v hv => mem_hull (List.mem_map_of_mem hv)) hconvex
  exact hall h

/-- The hull of the points is in that of the corners. -/
theorem mem_hull_corners {points : List Point} {q : ℝ × ℝ} (hq : q ∈ hull (points.map realPoint)) :
    q ∈ hull ((convexHull points).map realPoint) := by
  refine hull_subset (fun p hp => ?_) hq
  obtain ⟨p', hp', rfl⟩ := List.mem_map.mp hp
  exact mem_hull_real (mem_hull_convexHull hp')

theorem mem_of_segments {s : Point × Point} (hs : s ∈ segments l) : s.1 ∈ l := by
  rcases l with _ | ⟨a, _ | ⟨b, _ | ⟨c, rest⟩⟩⟩
  · cases hs
  · cases hs
  · rw [List.mem_singleton.mp hs]
    exact List.mem_cons_self
  · exact (List.of_mem_zip hs).1

/-- **From a common point to a point of the zone**: there is a corner in the zone, or the way ends
    in the polygon, or a side meets the zone. -/
theorem meets_side {points : List Point} {zone : Set (ℝ × ℝ)} (hzone : Convex ℝ zone) {q : ℝ × ℝ}
    (hq : q ∈ hull (points.map realPoint)) (hqz : q ∈ zone) {k : Point} (hk : realPoint k ∈ zone) :
    (∃ v ∈ convexHull points, realPoint v ∈ zone) ∨
      pointInPolygon k (convexHull points) = true ∨
        ∃ s ∈ segments (convexHull points), ∃ x ∈ zone,
          x ∈ segment ℝ (realPoint s.1) (realPoint s.2) := by
  by_cases hlength : 3 ≤ (convexHull points).length
  · obtain ⟨hregion, hinside⟩ := hull_region hlength
    by_cases hin : Inside (fun a b => (a, b) ∈ sides (convexHull points)) k
    · exact Or.inr (Or.inl (pointInPolygon_of_inside hlength hin))
    · have hqin : Inside (fun a b => (a, b) ∈ sides ((convexHull points).map realPoint)) q := by
        intro a b hab
        refine left_of_hull (fun p hp => ?_) hq
        obtain ⟨p', hp', rfl⟩ := List.mem_map.mp hp
        exact inside_real.mpr (hinside p' hp') a b hab
      obtain ⟨side, hside, x, hx, hon⟩ := (region_real hregion).exit hqin
        fun h => hin (inside_real.mp h)
      obtain ⟨s, hs, h1, h2⟩ := mem_sides_real.mp hside
      refine Or.inr (Or.inr ⟨s, ?_, x, hzone.segment_subset hqz hk hx, ?_⟩)
      · rw [segments_eq_sides hlength]
        exact hs
      · rw [← h1, ← h2]
        exact hon
  · have hcorners := mem_hull_corners hq
    rcases hhull : convexHull points with _ | ⟨a, _ | ⟨b, _ | ⟨c, rest⟩⟩⟩
    · rw [hhull] at hcorners
      simp [hull] at hcorners
    · rw [hhull] at hcorners
      have hsame : q = realPoint a := by simpa [hull] using hcorners
      exact Or.inl ⟨a, by simp, hsame ▸ hqz⟩
    · rw [hhull] at hcorners
      have hpair : {p | p ∈ [a, b].map realPoint} = {realPoint a, realPoint b} := by
        ext p
        simp
      unfold hull at hcorners
      rw [hpair, convexHull_pair] at hcorners
      exact Or.inr (Or.inr ⟨(a, b), by simp [segments], q, hqz, hcorners⟩)
    · rw [hhull] at hlength
      simp at hlength

/-! ## 5. Completeness -/

theorem mem_closedZone_circle {w : VfsWaypoint} {radius : ℚ} (h : w.radius = some radius) :
    closedZone w = disc (realPoint (w.x, w.y)) radius := by
  unfold closedZone
  rw [h]
  ext q
  exact Real.sqrt_le_iff

/-- The corners of a rectangle, in the order of the source. -/
def rectangleCorners (w : VfsWaypoint) (width height : ℚ) : List Point :=
  [(w.x - width / 2, w.y - height / 2), (w.x + width / 2, w.y - height / 2),
    (w.x + width / 2, w.y + height / 2), (w.x - width / 2, w.y + height / 2)]

theorem mem_closedZone_rectangle {w : VfsWaypoint} {width height : ℚ} (h : w.radius = none)
    (hwidth : w.width = some width) (hheight : w.height = some height) :
    closedZone w = Set.Icc (realPoint (w.x - width / 2, w.y - height / 2))
      (realPoint (w.x + width / 2, w.y + height / 2)) := by
  unfold closedZone
  rw [h, hwidth, hheight]
  ext q
  show |q.1 - w.x| ≤ (width : ℝ) / 2 ∧ |q.2 - w.y| ≤ (height : ℝ) / 2 ↔ _
  rw [Set.mem_Icc, Prod.le_def, Prod.le_def, abs_le, abs_le]
  unfold realPoint
  push_cast
  constructor
  · rintro ⟨⟨h1, h2⟩, h3, h4⟩
    exact ⟨⟨by linarith, by linarith⟩, by linarith, by linarith⟩
  · rintro ⟨⟨h1, h2⟩, h3, h4⟩
    exact ⟨⟨by linarith, by linarith⟩, by linarith, by linarith⟩

/-- **A point on the edge of a rectangle** is on one of its sides. -/
theorem edge_segment {w : VfsWaypoint} {width height : ℚ} {y : ℝ × ℝ}
    (hy : y ∈ Set.Icc (realPoint (w.x - width / 2, w.y - height / 2))
      (realPoint (w.x + width / 2, w.y + height / 2)))
    (hedge : y.1 = (realPoint (w.x - width / 2, w.y - height / 2)).1 ∨
      y.1 = (realPoint (w.x + width / 2, w.y + height / 2)).1 ∨
        y.2 = (realPoint (w.x - width / 2, w.y - height / 2)).2 ∨
          y.2 = (realPoint (w.x + width / 2, w.y + height / 2)).2) :
    ∃ s ∈ segments (rectangleCorners w width height),
      y ∈ segment ℝ (realPoint s.1) (realPoint s.2) := by
  have hacross : ∀ {l h v : ℝ} (c : ℝ), l ≤ v → v ≤ h → (v, c) ∈ segment ℝ (l, c) (h, c) := by
    intro l h v c hl hh
    rw [← Prod.image_mk_segment_left, segment_eq_Icc (hl.trans hh)]
    exact ⟨v, ⟨hl, hh⟩, rfl⟩
  have hup : ∀ {l h v : ℝ} (c : ℝ), l ≤ v → v ≤ h → (c, v) ∈ segment ℝ (c, l) (c, h) := by
    intro l h v c hl hh
    rw [← Prod.image_mk_segment_right, segment_eq_Icc (hl.trans hh)]
    exact ⟨v, ⟨hl, hh⟩, rfl⟩
  have hsegments : segments (rectangleCorners w width height) =
      (rectangleCorners w width height).zip ((rectangleCorners w width height).tail ++
        [(w.x - width / 2, w.y - height / 2)]) := rfl
  obtain ⟨y1, y2⟩ := y
  rw [Set.mem_Icc, Prod.le_def, Prod.le_def] at hy
  obtain ⟨⟨hl1, hl2⟩, hh1, hh2⟩ := hy
  rw [hsegments]
  rcases hedge with h | h | h | h
  · refine ⟨_, List.mem_cons_of_mem _ (List.mem_cons_of_mem _ (List.mem_cons_of_mem _
      List.mem_cons_self)), ?_⟩
    rw [segment_symm, show y1 = _ from h]
    exact hup _ hl2 hh2
  · refine ⟨_, List.mem_cons_of_mem _ List.mem_cons_self, ?_⟩
    rw [show y1 = _ from h]
    exact hup _ hl2 hh2
  · refine ⟨_, List.mem_cons_self, ?_⟩
    rw [show y2 = _ from h]
    exact hacross _ hl1 hh1
  · refine ⟨_, List.mem_cons_of_mem _ (List.mem_cons_of_mem _ List.mem_cons_self), ?_⟩
    rw [segment_symm, show y2 = _ from h]
    exact hacross _ hl1 hh1

/-- A point of the closed zone passes the test of a point. -/
theorem waypointContains_of_mem {w : VfsWaypoint} {v : Point} (h : realPoint v ∈ closedZone w) :
    waypointContains w v.1 v.2 0 = true := by
  have hslack : (0 : ℚ) ≤ containmentSlack := by
    unfold containmentSlack
    norm_num
  unfold waypointContains
  cases hradius : w.radius with
  | some radius =>
    rw [mem_closedZone_circle hradius] at h
    obtain ⟨hnonneg, hnear⟩ := h
    have hnonneg' : 0 ≤ radius := by exact_mod_cast hnonneg
    have hslack' : (0 : ℝ) ≤ containmentSlack := by exact_mod_cast hslack
    dsimp only
    rw [sub_zero]
    refine hypotLe_of_real (add_nonneg hnonneg' hslack) ?_
    push_cast
    exact hnear.trans (pow_le_pow_left₀ hnonneg (by linarith) 2)
  | none =>
    unfold closedZone at h
    rw [hradius] at h
    cases hwidth : w.width with
    | none =>
      rw [hwidth] at h
      exact absurd h (Set.notMem_empty _)
    | some width =>
      cases hheight : w.height with
      | none =>
        rw [hwidth, hheight] at h
        exact absurd h (Set.notMem_empty _)
      | some height =>
        rw [hwidth, hheight] at h
        have h1 : |(v.1 : ℝ) - w.x| ≤ (width : ℝ) / 2 := h.1
        have h2 : |(v.2 : ℝ) - w.y| ≤ (height : ℝ) / 2 := h.2
        have h1' : |v.1 - w.x| ≤ width / 2 := by exact_mod_cast h1
        have h2' : |v.2 - w.y| ≤ height / 2 := by exact_mod_cast h2
        dsimp only
        rw [sub_zero, sub_zero, Bool.and_eq_true, decide_eq_true_eq, decide_eq_true_eq]
        exact ⟨h1'.trans (le_add_of_nonneg_right hslack), h2'.trans (le_add_of_nonneg_right hslack)⟩

/-- **No touching placement is missed.** Whatever the pose of the payload: where the hull of its
    contact points has a point in common with the closed zone, the payload is contained. -/
theorem contact_containment_complete (sample : PayloadStateSample) (w : VfsWaypoint) (size : Xyz)
    (groundZM epsilonM : ℚ) (q : ℝ × ℝ)
    (hhull : q ∈ hull ((contactPoints sample size groundZM epsilonM).map realPoint))
    (hzone : q ∈ closedZone w) : payloadContained sample w size groundZM epsilonM = true := by
  unfold payloadContained
  generalize contactPoints sample size groundZM epsilonM = points at hhull
  dsimp only
  have hne : (convexHull points).isEmpty = false := by
    have hcorners := mem_hull_corners hhull
    rw [List.isEmpty_eq_false_iff]
    intro hnil
    rw [hnil] at hcorners
    simp [hull] at hcorners
  rw [hne, if_neg (by simp)]
  split
  · rfl
  · rename_i hnone
    have hout : ∀ v ∈ convexHull points, realPoint v ∉ closedZone w := fun v hv hmem =>
      hnone (List.any_eq_true.mpr ⟨v, hv, waypointContains_of_mem hmem⟩)
    cases hradius : w.radius with
    | some radius =>
      have hcircle := mem_closedZone_circle hradius
      have hconvex : Convex ℝ (closedZone w) := by
        rw [hcircle]
        exact convex_disc _ _
      have hcentre : realPoint (w.x, w.y) ∈ closedZone w := by
        rw [hcircle] at hzone ⊢
        refine ⟨hzone.1, ?_⟩
        rw [sub_self, sub_self]
        simpa using sq_nonneg (radius : ℝ)
      dsimp only
      rw [Bool.or_eq_true]
      rcases meets_side hconvex hhull hzone hcentre with ⟨v, hv, hmem⟩ | hin | ⟨s, hs, x, hx, hon⟩
      · exact absurd hmem (hout v hv)
      · exact Or.inl hin
      · rw [hcircle] at hx
        exact Or.inr (List.any_eq_true.mpr ⟨s, hs, segmentDistanceLe_of_mem hon hx⟩)
    | none =>
      have hsome : ∃ width height, w.width = some width ∧ w.height = some height := by
        unfold closedZone at hzone
        rw [hradius] at hzone
        cases hwidth : w.width with
        | none =>
          rw [hwidth] at hzone
          exact absurd hzone (Set.notMem_empty _)
        | some width =>
          cases hheight : w.height with
          | none =>
            rw [hwidth, hheight] at hzone
            exact absurd hzone (Set.notMem_empty _)
          | some height => exact ⟨width, height, rfl, rfl⟩
      obtain ⟨width, height, hwidth, hheight⟩ := hsome
      have hbox := mem_closedZone_rectangle hradius hwidth hheight
      have hconvex : Convex ℝ (closedZone w) := by
        rw [hbox]
        rw [Set.Icc_prod_eq]
        exact (convex_Icc _ _).prod (convex_Icc _ _)
      have hcorner : realPoint (w.x - width / 2, w.y - height / 2) ∈ closedZone w := by
        rw [hbox] at hzone ⊢
        exact ⟨le_rfl, hzone.1.trans hzone.2⟩
      rw [hwidth, hheight]
      dsimp only
      rw [Bool.or_eq_true]
      rcases meets_side hconvex hhull hzone hcorner with ⟨v, hv, hmem⟩ | hin | ⟨s, hs, x, hx, hon⟩
      · exact absurd hmem (hout v hv)
      · exact Or.inl (List.any_eq_true.mpr ⟨_, List.mem_cons_self, hin⟩)
      · -- from the common point to the beginning of the side the way leaves the rectangle
        have hbegin := hout s.1 (mem_of_segments hs)
        rw [hbox] at hx hbegin
        obtain ⟨y, hy, hybox, hedge⟩ := box_exit hx hbegin
        obtain ⟨zone, hzoneSide, hyzone⟩ := edge_segment hybox hedge
        have hyside : y ∈ segment ℝ (realPoint s.1) (realPoint s.2) :=
          (convex_segment _ _).segment_subset hon (left_mem_segment ℝ _ _) hy
        refine Or.inr (List.any_eq_true.mpr ⟨s, hs, List.any_eq_true.mpr ⟨zone, hzoneSide, ?_⟩⟩)
        exact segmentsIntersect_of_mem hyside hyzone

/-- A box of two metres that stands at the origin. -/
def standingBox : PayloadStateSample where
  runId := "run"
  simTimestampNs := 0
  arucoId := 1
  positionXyz := ⟨0, 0, 1⟩
  orientationXyzw := ⟨0, 0, 0, 1⟩
  linearVelocityXyz := ⟨0, 0, 0⟩
  grounded := true
  attached := false
  orientation_ne := Xyzw.unit_normSq

/-- A circle that touches the middle of a side of the box. -/
def touchingCircle : VfsWaypoint := ⟨"L", 2, 0, "zone", none, none, some 1⟩

theorem contact_containment_complete_touching :
    payloadContained standingBox touchingCircle ⟨2, 2, 2⟩ 0 (1 / 100) = true := by
  refine contact_containment_complete standingBox touchingCircle ⟨2, 2, 2⟩ 0 (1 / 100) (1, 0) ?_ ?_
  · have hpoints : ∀ p ∈ [((1 : ℚ), (-1 : ℚ)), (1, 1)],
        p ∈ contactPoints standingBox ⟨2, 2, 2⟩ 0 (1 / 100) := by decide +kernel
    have hmiddle := mem_hull_real (l := contactPoints standingBox ⟨2, 2, 2⟩ 0 (1 / 100))
      (convex_convexHull ℚ _ (mem_hull (hpoints (1, -1) (by simp)))
        (mem_hull (hpoints (1, 1) (by simp))) (show (0 : ℚ) ≤ 1 / 2 by norm_num)
        (show (0 : ℚ) ≤ 1 / 2 by norm_num) (by norm_num))
    rw [realPoint_mix] at hmiddle
    unfold realPoint at hmiddle
    norm_num at hmiddle
    exact hmiddle
  · rw [mem_closedZone_circle (show touchingCircle.radius = some 1 from rfl)]
    unfold disc realPoint touchingCircle
    norm_num

end DroneSim
