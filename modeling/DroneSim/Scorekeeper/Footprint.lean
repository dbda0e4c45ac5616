/-
  File:      DroneSim/Scorekeeper/Footprint.lean
  Subject:   The judge's planar geometry (scorekeeper/vfs.py, `_waypoint_contains` to
             `_payload_contained`), over exact rationals.

  A grounded payload touches the ground with the corners of its box that lie within epsilon of
  the lowest one. It is contained in a zone when the convex hull of these contact points meets
  the zone. The source's distances are roots of sums of squares and are only compared with a
  bound, so `hypotLe` answers for them; the rotation is built from products of two normalised
  quaternion components, so it is a quotient by the squared norm and needs no root either.
-/
import DroneSim.Scorekeeper.Samples
import Mathlib.Data.List.Dedup
import Mathlib.Data.List.Sort

namespace DroneSim

open Library

/-- A point of the ground plane. -/
abbrev Point := ℚ × ℚ

/-! ## 1. Zones -/

/-- `_waypoint_contains`. -/
def waypointContains (w : VfsWaypoint) (x y inward : ℚ) : Bool :=
  match w.radius with
  | some radius => hypotLe (x - w.x) (y - w.y) (radius - inward + containmentSlack)
  | none =>
    match w.width, w.height with
    | some width, some height =>
      decide (|x - w.x| ≤ width / 2 - inward + containmentSlack) &&
        decide (|y - w.y| ≤ height / 2 - inward + containmentSlack)
    | _, _ => false

/-! ## 2. Contact points -/

/-- The rotation matrix of a quaternion, row by row. -/
def rotationRows (q : Xyzw) : Xyz × Xyz × Xyz :=
  let n := q.normSq
  (⟨1 - 2 * (q.y * q.y + q.z * q.z) / n, 2 * (q.x * q.y - q.z * q.w) / n,
      2 * (q.x * q.z + q.y * q.w) / n⟩,
    ⟨2 * (q.x * q.y + q.z * q.w) / n, 1 - 2 * (q.x * q.x + q.z * q.z) / n,
      2 * (q.y * q.z - q.x * q.w) / n⟩,
    ⟨2 * (q.x * q.z - q.y * q.w) / n, 2 * (q.y * q.z + q.x * q.w) / n,
      1 - 2 * (q.x * q.x + q.y * q.y) / n⟩)

def Xyz.dot (a b : Xyz) : ℚ := a.x * b.x + a.y * b.y + a.z * b.z

/-- The half-extent offsets of the eight corners, in the order of the source's three loops. -/
def cornerOffsets (size : Xyz) : List Xyz :=
  [-(size.x / 2), size.x / 2].flatMap fun dx =>
    [-(size.y / 2), size.y / 2].flatMap fun dy =>
      [-(size.z / 2), size.z / 2].map fun dz => ⟨dx, dy, dz⟩

/-- The eight corners of the payload's box in the world. -/
def boxCorners (sample : PayloadStateSample) (size : Xyz) : List Xyz :=
  let rows := rotationRows sample.orientationXyzw
  (cornerOffsets size).map fun d =>
    ⟨sample.positionXyz.x + rows.1.dot d, sample.positionXyz.y + rows.2.1.dot d,
      sample.positionXyz.z + rows.2.2.dot d⟩

/-- The least of the heights, `0` for no corner at all. -/
def lowestZ (corners : List Xyz) : ℚ := ((corners.map Xyz.z).min?).getD 0

/-- `_contact_points`. -/
def contactPoints (sample : PayloadStateSample) (size : Xyz) (groundZM epsilonM : ℚ) :
    List Point :=
  if !sample.grounded then []
  -- norm <= 1e-12
  else if sqrtLe sample.orientationXyzw.normSq (1 / 1000000000000) then []
  else
    let corners := boxCorners sample size
    let lowest := lowestZ corners
    if |lowest - groundZM| > epsilonM then []
    else (corners.filter fun p => p.z - lowest ≤ epsilonM && |p.z - groundZM| ≤ epsilonM).map
      fun p => (p.x, p.y)

/-! ## 3. Convex hull -/

/-- `cross(origin, a, b)`: positive when `origin → a → b` turns left. -/
def cross (o a b : Point) : ℚ := (a.1 - o.1) * (b.2 - o.2) - (a.2 - o.2) * (b.1 - o.1)

/-- The `while` loop of the monotone chain on a stack whose head is the newest point: pops while
    the last two points and `p` make no left turn. -/
def popTurns (p : Point) : List Point → List Point
  | b :: a :: rest => if cross a b p ≤ 0 then popTurns p (a :: rest) else b :: a :: rest
  | stack => stack

/-- One half of the hull, newest point first. -/
def chain (points : List Point) : List Point :=
  points.foldl (fun stack p => p :: popTurns p stack) []

/-- The order `sorted` puts pairs in. -/
def pointLe (a b : Point) : Prop := a.1 < b.1 ∨ a.1 = b.1 ∧ a.2 ≤ b.2

instance : DecidableRel pointLe := fun a b =>
  inferInstanceAs (Decidable (a.1 < b.1 ∨ a.1 = b.1 ∧ a.2 ≤ b.2))

/-- `_convex_hull`. -/
def convexHull (points : List Point) : List Point :=
  let unique := points.dedup.insertionSort pointLe
  match unique with
  | [] => []
  | [p] => [p]
  | _ => (chain unique).tail.reverse ++ (chain unique.reverse).tail.reverse

/-- `_segments`: the sides of the polygon, one side for two points. -/
def segments : List Point → List (Point × Point)
  | [] => []
  | [_] => []
  | [a, b] => [(a, b)]
  | p :: rest => (p :: rest).zip (rest ++ [p])

/-! ## 4. Points, segments and polygons -/

/-- The loop of `_point_in_polygon` over the sides; `sign` is the sign seen so far. -/
def sameSide (point : Point) : ℤ → List (Point × Point) → Bool
  | _, [] => true
  | sign, (start, stop) :: rest =>
    let c := cross start stop point
    if |c| ≤ containmentSlack then sameSide point sign rest
    else
      let current := if c > 0 then 1 else -1
      if sign ≠ 0 ∧ current ≠ sign then false else sameSide point current rest

/-- `_point_in_polygon`. -/
def pointInPolygon (point : Point) (polygon : List Point) : Bool :=
  if polygon.length < 3 then false else sameSide point 0 (segments polygon)

/-- `_segment_distance(point, start, end) <= bound`. -/
def segmentDistanceLe (point start stop : Point) (bound : ℚ) : Bool :=
  let dx := stop.1 - start.1
  let dy := stop.2 - start.2
  let lengthSquared := dx * dx + dy * dy
  if lengthSquared ≤ 1 / 1000000000000000000 then
    hypotLe (point.1 - start.1) (point.2 - start.2) bound
  else
    let fraction :=
      max 0 (min 1 (((point.1 - start.1) * dx + (point.2 - start.2) * dy) / lengthSquared))
    hypotLe (point.1 - start.1 - fraction * dx) (point.2 - start.2 - fraction * dy) bound

/-- `overlaps`: the intervals of the two pairs of numbers meet. -/
def overlaps (a b c d : ℚ) : Bool :=
  decide (max (min a b) (min c d) ≤ min (max a b) (max c d) + containmentSlack)

/-- `_segments_intersect`. -/
def segmentsIntersect (s t : Point × Point) : Bool :=
  let firstA := cross s.1 s.2 t.1
  let firstB := cross s.1 s.2 t.2
  let secondA := cross t.1 t.2 s.1
  let secondB := cross t.1 t.2 s.2
  if firstA * firstB > 1 / 1000000000000000000 ∨ secondA * secondB > 1 / 1000000000000000000 then
    false
  else
    overlaps s.1.1 s.2.1 t.1.1 t.2.1 && overlaps s.1.2 s.2.2 t.1.2 t.2.2

/-- `_payload_contained`. -/
def payloadContained (sample : PayloadStateSample) (w : VfsWaypoint) (size : Xyz)
    (groundZM epsilonM : ℚ) : Bool :=
  let points := convexHull (contactPoints sample size groundZM epsilonM)
  if points.isEmpty then false
  else if points.any fun p => waypointContains w p.1 p.2 0 then true
  else
    match w.radius with
    | some radius =>
      pointInPolygon (w.x, w.y) points ||
        (segments points).any fun s =>
          segmentDistanceLe (w.x, w.y) s.1 s.2 (radius + containmentSlack)
    | none =>
      match w.width, w.height with
      | some width, some height =>
        let rectangle : List Point :=
          [(w.x - width / 2, w.y - height / 2), (w.x + width / 2, w.y - height / 2),
            (w.x + width / 2, w.y + height / 2), (w.x - width / 2, w.y + height / 2)]
        (rectangle.any fun corner => pointInPolygon corner points) ||
          (segments points).any fun contact =>
            (segments rectangle).any fun zone => segmentsIntersect contact zone
      | _, _ => false

end DroneSim
