/-
  File:      DroneSim/Companion/Rangefinders.lean
  Subject:   The downward range at a time: ConfiguredRangefinder (companion/vfs_operations.py) and
             RosLidar (companion/comp2026_host.py).

  Both keep the range that is current at the clock and one that is ahead of it. Calls come in any
  order and with any clock readings. A look at time `t` is right (`freshAt`) as long as no range is
  accepted that is later than one still awaited; then that one is lost (`rangefinder_displaced`).

  * `RangefinderRun`, `LidarRun` -- the adapters with the ranges they have accepted;
  * `Fits` -- the condition on a call;
  * `range_lookup` -- in the runs that meet it every look is right.
-/
import DroneSim.Companion.PrecisionLanding
import DroneSim.Library.Awaiting
import DroneSim.Library.Run

namespace DroneSim

open Library

variable {R : Type} [MachineFloat R]

/-! ## 1. The adapters -/

/-- What a `LaserScan` holds of a range. -/
structure RangeMessage (R : Type) where
  ranges : List R
  rangeMin : R
  rangeMax : R

/-- `RangeObservation` with its sequence. -/
structure NumberedRange (R : Type) extends RangeObservation R where
  sequence : ℕ

/-- 0.5 s: the oldest range that is used. -/
def maxRangeAgeNs : ℤ := 500000000

structure ConfiguredRangefinder (R : Type) where
  /-- There is a `clock_ns`. -/
  clocked : Bool
  readTimestampNs : Option ℤ
  slots : Awaiting (NumberedRange R)
  sequence : ℕ

namespace ConfiguredRangefinder

def initial (clocked : Bool) : ConfiguredRangefinder R := ⟨clocked, none, .empty, 0⟩

/-- The distance of a message, where it is valid. -/
def distance (message : RangeMessage R) : Except String R :=
  match message.ranges with
  | [distance] =>
    if MachineFloat.isFinite distance && decide (message.rangeMin ≤ distance) &&
        decide (distance ≤ message.rangeMax) then .ok distance
    else .error "downward range is invalid"
  | _ => .error "downward range must contain exactly one beam"

/-- `current_ns` of `accept`. -/
def currentNs (s : ConfiguredRangefinder R) (clockNs : Option ℤ) : Option ℤ :=
  if s.clocked then clockNs else s.readTimestampNs

/-- `accept`; `clockNs` is the clock at the call. -/
def accept (s : ConfiguredRangefinder R) (message : RangeMessage R) (timestampNs : ℤ)
    (clockNs : Option ℤ) : ConfiguredRangefinder R × Except String (NumberedRange R) :=
  match distance message with
  | .error error => (s, .error error)
  | .ok distance =>
    let slots := s.slots.promote (fun o => o.timestampNs) (s.currentNs clockNs)
    if slots.newest.any fun last => timestampNs < last.timestampNs then
      ({ s with slots := slots }, .error "downward range timestamp regressed")
    else
      let observation := { timestampNs, distanceM := distance, sequence := s.sequence + 1 }
      ({ s with
        slots := slots.put (fun o => o.timestampNs) (s.currentNs clockNs) observation
        sequence := s.sequence + 1 }, .ok observation)

/-- `latest`. -/
def latest (s : ConfiguredRangefinder R) (timestampNs : ℤ) :
    ConfiguredRangefinder R × Except String (NumberedRange R) :=
  let slots := s.slots.promote (fun o => o.timestampNs) (some timestampNs)
  ({ s with readTimestampNs := some timestampNs, slots := slots },
    match slots.latest with
    | some observation =>
      if 0 ≤ timestampNs - observation.timestampNs ∧
          timestampNs - observation.timestampNs ≤ maxRangeAgeNs then .ok observation
      else .error "fresh downward range is unavailable"
    | none => .error "fresh downward range is unavailable")

end ConfiguredRangefinder

/-- `RosLidar`: timestamp and distance of the latest and of the pending range. -/
structure RosLidar (R : Type) where
  slots : Awaiting (ℤ × R)

namespace RosLidar

def initial : RosLidar R := ⟨.empty⟩

/-- The distance of a message, where it is valid. -/
def distance (message : RangeMessage R) : Except String R :=
  match message.ranges with
  | [distance] =>
    if MachineFloat.isFinite distance && MachineFloat.isFinite message.rangeMin &&
        MachineFloat.isFinite message.rangeMax &&
        !decide (message.rangeMin < MachineFloat.ofRat 0) &&
        !decide (message.rangeMax ≤ message.rangeMin) &&
        decide (message.rangeMin ≤ distance) && decide (distance ≤ message.rangeMax) then
      .ok distance
    else .error "downward range is invalid"
  | _ => .error "downward range must contain exactly one beam"

/-- `accept`; `clockNs` is the clock at the call. -/
def accept (s : RosLidar R) (message : RangeMessage R) (timestampNs : ℤ) (clockNs : Option ℤ) :
    RosLidar R × Except String (ℤ × R) :=
  match distance message with
  | .error error => (s, .error error)
  | .ok distance =>
    let slots := s.slots.promote Prod.fst clockNs
    if slots.newest.any fun last => timestampNs < last.1 then
      (⟨slots⟩, .error "downward range timestamp regressed")
    else
      (⟨slots.put Prod.fst clockNs (timestampNs, distance)⟩, .ok (timestampNs, distance))

/-- `get_distance`; `nowNs` is the clock at the call. -/
def getDistance (s : RosLidar R) (nowNs : Option ℤ) : RosLidar R × Except String R :=
  let slots := s.slots.promote Prod.fst nowNs
  (⟨slots⟩, match slots.latest, nowNs with
    | some (timestampNs, distanceM), some nowNs =>
      if nowNs - timestampNs < 0 then .error "downward range is newer than the current clock"
      else if maxRangeAgeNs < nowNs - timestampNs then
        .error "downward range is older than 0.5 simulated seconds"
      else .ok distanceM
    | _, _ => .error "downward range is not ready")

end RosLidar

/-! ## 2. Runs -/

/-- A rangefinder with the ranges it has accepted. -/
structure RangefinderRun (R : Type) where
  adapter : ConfiguredRangefinder R
  accepted : List (NumberedRange R)

inductive RangefinderCall (R : Type) where
  | accept (message : RangeMessage R) (timestampNs : ℤ) (clockNs : Option ℤ)
  | latest (timestampNs : ℤ)

namespace RangefinderRun

def initial (clocked : Bool) : RangefinderRun R := ⟨.initial clocked, []⟩

/-- One call. -/
def step (s : RangefinderRun R) : RangefinderCall R → RangefinderRun R
  | .accept message timestampNs clockNs =>
    let after := s.adapter.accept message timestampNs clockNs
    ⟨after.1, s.accepted ++ after.2.toOption.toList⟩
  | .latest timestampNs => ⟨(s.adapter.latest timestampNs).1, s.accepted⟩

def Calls (s : RangefinderRun R) (call : RangefinderCall R) (_ : List Unit)
    (t : RangefinderRun R) : Prop :=
  t = s.step call

/-- What `latest` must answer. -/
def expected (s : RangefinderRun R) (timestampNs : ℤ) : Option (NumberedRange R) :=
  freshAt (fun o => o.timestampNs) maxRangeAgeNs s.accepted timestampNs

/-- The condition on a call. No valid range is given that is later than one that is still ahead of
    the clock; no look is for a time before the range held as current, unless there is none to
    find. -/
def Fits (s : RangefinderRun R) : RangefinderCall R → Prop
  | .accept message timestampNs clockNs =>
    ∀ distance, ConfiguredRangefinder.distance message = .ok distance → ∀ awaited, (s.adapter.slots.promote (fun o => o.timestampNs)
      (s.adapter.currentNs clockNs)).pending = some awaited → timestampNs ≤ awaited.timestampNs
  | .latest timestampNs =>
    ∀ held, (s.adapter.slots.promote (fun o => o.timestampNs) (some timestampNs)).latest =
      some held → held.timestampNs ≤ timestampNs ∨ s.expected timestampNs = none

/-- What the slots hold. -/
def Kept (s : RangefinderRun R) : Prop :=
  Awaiting.Kept (fun (o : NumberedRange R) => o.timestampNs) s.accepted s.adapter.slots

theorem step_kept {s : RangefinderRun R} (h : s.Kept) {call : RangefinderCall R}
    (hfits : s.Fits call) : (s.step call).Kept := by
  cases call with
  | latest timestampNs => exact Awaiting.Kept.promote h _
  | accept message timestampNs clockNs =>
    rw [step, ConfiguredRangefinder.accept]
    split
    · rw [Kept]
      dsimp only [Except.toOption]
      rw [Option.toList_none, List.append_nil]
      exact h
    · rename_i distance hdistance
      dsimp only
      split
      · rw [Kept]
        dsimp only [Except.toOption]
        rw [Option.toList_none, List.append_nil]
        exact Awaiting.Kept.promote h _
      · rename_i hnew
        refine Awaiting.Kept.accept h _ (fun last hlast => ?_) (hfits distance hdistance)
        rw [hlast, Option.any_some, decide_eq_true_eq] at hnew
        exact Int.not_lt.mp hnew

/-- **A look is right** where the slots are. -/
theorem latest_right {s : RangefinderRun R} (h : s.Kept) {timestampNs : ℤ}
    (hfits : s.Fits (.latest timestampNs)) :
    (s.adapter.latest timestampNs).2 = match s.expected timestampNs with
      | some observation => .ok observation
      | none => .error "fresh downward range is unavailable" := by
  have hlook := (Awaiting.Kept.reads h maxRangeAgeNs timestampNs).mpr hfits
  rw [expected, ← hlook, ConfiguredRangefinder.latest, Awaiting.look]
  dsimp only
  cases (s.adapter.slots.promote (fun o => o.timestampNs) (some timestampNs)).latest with
  | none => rfl
  | some observation =>
    dsimp only
    rw [Option.filter_some]
    by_cases hfuture : observation.timestampNs ≤ timestampNs
    · by_cases hold : timestampNs - observation.timestampNs ≤ maxRangeAgeNs
      · rw [if_pos ⟨by omega, hold⟩, decide_eq_true hfuture, decide_eq_true hold]
        rfl
      · rw [if_neg fun h => hold h.2, decide_eq_false hold, Bool.and_false]
        rfl
    · rw [if_neg fun h => hfuture (by omega), decide_eq_false hfuture, Bool.false_and]
      rfl

end RangefinderRun

/-- A lidar with the ranges it has accepted. -/
structure LidarRun (R : Type) where
  adapter : RosLidar R
  accepted : List (ℤ × R)

inductive LidarCall (R : Type) where
  | accept (message : RangeMessage R) (timestampNs : ℤ) (clockNs : Option ℤ)
  | getDistance (nowNs : Option ℤ)

namespace LidarRun

def initial : LidarRun R := ⟨.initial, []⟩

/-- One call. -/
def step (s : LidarRun R) : LidarCall R → LidarRun R
  | .accept message timestampNs clockNs =>
    let after := s.adapter.accept message timestampNs clockNs
    ⟨after.1, s.accepted ++ after.2.toOption.toList⟩
  | .getDistance nowNs => ⟨(s.adapter.getDistance nowNs).1, s.accepted⟩

def Calls (s : LidarRun R) (call : LidarCall R) (_ : List Unit) (t : LidarRun R) : Prop :=
  t = s.step call

/-- What `get_distance` must answer: nothing without a clock. -/
def expected (s : LidarRun R) (nowNs : Option ℤ) : Option (ℤ × R) :=
  nowNs.bind fun nowNs => freshAt Prod.fst maxRangeAgeNs s.accepted nowNs

/-- The condition on a call, as for the rangefinder. -/
def Fits (s : LidarRun R) : LidarCall R → Prop
  | .accept message timestampNs clockNs =>
    ∀ distance, RosLidar.distance message = .ok distance → ∀ awaited,
      (s.adapter.slots.promote Prod.fst clockNs).pending = some awaited → timestampNs ≤ awaited.1
  | .getDistance nowNs =>
    ∀ now held, nowNs = some now → (s.adapter.slots.promote Prod.fst nowNs).latest = some held →
      held.1 ≤ now ∨ s.expected nowNs = none

/-- What the slots hold. -/
def Kept (s : LidarRun R) : Prop := Awaiting.Kept Prod.fst s.accepted s.adapter.slots

theorem step_kept {s : LidarRun R} (h : s.Kept) {call : LidarCall R} (hfits : s.Fits call) :
    (s.step call).Kept := by
  cases call with
  | getDistance nowNs => exact Awaiting.Kept.promote h _
  | accept message timestampNs clockNs =>
    rw [step, RosLidar.accept]
    split
    · rw [Kept]
      dsimp only [Except.toOption]
      rw [Option.toList_none, List.append_nil]
      exact h
    · rename_i distance hdistance
      dsimp only
      split
      · rw [Kept]
        dsimp only [Except.toOption]
        rw [Option.toList_none, List.append_nil]
        exact Awaiting.Kept.promote h _
      · rename_i hnew
        refine Awaiting.Kept.accept h _ (fun last hlast => ?_) (hfits distance hdistance)
        rw [hlast, Option.any_some, decide_eq_true_eq] at hnew
        exact Int.not_lt.mp hnew

/-- **A look is right** where the slots are. -/
theorem getDistance_right {s : LidarRun R} (h : s.Kept) {nowNs : Option ℤ}
    (hfits : s.Fits (.getDistance nowNs)) :
    match s.expected nowNs with
    | some range => (s.adapter.getDistance nowNs).2 = .ok range.2
    | none => ∃ reason, (s.adapter.getDistance nowNs).2 = .error reason := by
  unfold expected RosLidar.getDistance
  cases nowNs with
  | none =>
    dsimp only [Option.bind_none]
    split
    · rename_i hnow
      cases hnow
    · exact ⟨_, rfl⟩
  | some now =>
    have hlook := (Awaiting.Kept.reads h maxRangeAgeNs now).mpr fun held => hfits now held rfl
    dsimp only [Option.bind_some]
    rw [← hlook, Awaiting.look]
    cases (s.adapter.slots.promote Prod.fst (some now)).latest with
    | none => exact ⟨_, rfl⟩
    | some range =>
      obtain ⟨timestampNs, distanceM⟩ := range
      rw [Option.filter_some]
      dsimp only
      by_cases hfuture : now - timestampNs < 0
      · rw [if_pos hfuture, decide_eq_false (show ¬timestampNs ≤ now by omega)]
        exact ⟨_, rfl⟩
      · rw [if_neg hfuture, decide_eq_true (show timestampNs ≤ now by omega)]
        by_cases hold : maxRangeAgeNs < now - timestampNs
        · rw [if_pos hold, decide_eq_false (by omega)]
          exact ⟨_, rfl⟩
        · rw [if_neg hold, decide_eq_true (by omega)]
          rfl

end LidarRun

/-! ## 3. Every look in a run -/

/-- **A look finds the newest accepted range that is not from later**, where it is at most 0.5 s
    old, and raises where there is none, for both adapters and for every interleaving of their
    calls that meets `Fits`. -/
theorem range_lookup :
    (∀ (clocked : Bool) (calls : List (RangefinderCall R)) (os : List Unit)
      (s : RangefinderRun R) (timestampNs : ℤ),
      Run (Meeting RangefinderRun.Calls RangefinderRun.Fits) (.initial clocked) calls os s →
      s.Fits (.latest timestampNs) →
      (s.adapter.latest timestampNs).2 = match s.expected timestampNs with
        | some observation => .ok observation
        | none => .error "fresh downward range is unavailable") ∧
    (∀ (calls : List (LidarCall R)) (os : List Unit) (s : LidarRun R) (nowNs : Option ℤ),
      Run (Meeting LidarRun.Calls LidarRun.Fits) .initial calls os s →
      s.Fits (.getDistance nowNs) →
      match s.expected nowNs with
      | some range => (s.adapter.getDistance nowNs).2 = .ok range.2
      | none => ∃ reason, (s.adapter.getDistance nowNs).2 = .error reason) := by
  constructor
  · intro clocked calls os s timestampNs hrun hfits
    refine RangefinderRun.latest_right (hrun.invariant Awaiting.kept_empty ?_) hfits
    intro s call o t hkept hstep
    obtain ⟨rfl, hcall⟩ := hstep
    exact RangefinderRun.step_kept hkept hcall
  · intro calls os s nowNs hrun hfits
    refine LidarRun.getDistance_right (hrun.invariant Awaiting.kept_empty ?_) hfits
    intro s call o t hkept hstep
    obtain ⟨rfl, hcall⟩ := hstep
    exact LidarRun.step_kept hkept hcall

/-- Two metres down. -/
def twoMetres : RangeMessage ExactNumber := ⟨[2.0], 0.1, 30.0⟩

theorem distance_twoMetres :
    ConfiguredRangefinder.distance twoMetres = .ok 2.0 ∧ RosLidar.distance twoMetres = .ok 2.0 := by
  have hconfigured : (MachineFloat.isFinite (2.0 : ExactNumber) &&
      decide ((0.1 : ExactNumber) ≤ 2.0) && decide ((2.0 : ExactNumber) ≤ 30.0)) = true := by
    decide +kernel
  have hros : (MachineFloat.isFinite (2.0 : ExactNumber) &&
      MachineFloat.isFinite (0.1 : ExactNumber) && MachineFloat.isFinite (30.0 : ExactNumber) &&
      !decide ((0.1 : ExactNumber) < MachineFloat.ofRat 0) &&
      !decide ((30.0 : ExactNumber) ≤ 0.1) && decide ((0.1 : ExactNumber) ≤ 2.0) &&
      decide ((2.0 : ExactNumber) ≤ 30.0)) = true := by
    decide +kernel
  constructor
  · unfold ConfiguredRangefinder.distance twoMetres
    dsimp only
    rw [hconfigured, if_pos rfl]
  · unfold RosLidar.distance twoMetres
    dsimp only
    rw [hros, if_pos rfl]

/-- The range that `twoMetres` gives. -/
def rangeAt (timestampNs : ℤ) (sequence : ℕ) : NumberedRange ExactNumber :=
  ⟨⟨timestampNs, 2.0⟩, sequence⟩

/-- A call with a message at `timestampNs` that does not regress. -/
theorem RangefinderRun.calls_twoMetres (s : RangefinderRun ExactNumber) (timestampNs clock : ℤ)
    (hclocked : s.adapter.clocked = true)
    (hnew : ((s.adapter.slots.promote (fun o => o.timestampNs) (some clock)).newest.any
      fun last => timestampNs < last.timestampNs) = false) :
    Calls s (.accept twoMetres timestampNs (some clock)) []
      ⟨{ s.adapter with
        slots := (s.adapter.slots.promote (fun o => o.timestampNs) (some clock)).put
          (fun o => o.timestampNs) (some clock) (rangeAt timestampNs (s.adapter.sequence + 1))
        sequence := s.adapter.sequence + 1 },
      s.accepted ++ [rangeAt timestampNs (s.adapter.sequence + 1)]⟩ := by
  have hcurrent : s.adapter.currentNs (some clock) = some clock := if_pos hclocked
  rw [Calls, step, ConfiguredRangefinder.accept, distance_twoMetres.1]
  dsimp only
  rw [hcurrent, hnew, if_neg Bool.false_ne_true]
  rfl

theorem LidarRun.calls_twoMetres (s : LidarRun ExactNumber) (timestampNs clock : ℤ)
    (hnew : ((s.adapter.slots.promote Prod.fst (some clock)).newest.any
      fun last => timestampNs < last.1) = false) :
    Calls s (.accept twoMetres timestampNs (some clock)) []
      ⟨⟨(s.adapter.slots.promote Prod.fst (some clock)).put Prod.fst (some clock)
        (timestampNs, 2.0)⟩, s.accepted ++ [(timestampNs, 2.0)]⟩ := by
  rw [Calls, step, RosLidar.accept, distance_twoMetres.2]
  dsimp only
  rw [hnew, if_neg Bool.false_ne_true]
  rfl

/-- A range of the present and one from the future, which is the current one at its time. -/
theorem range_lookup_awaited :
    (∃ s, Run (Meeting RangefinderRun.Calls RangefinderRun.Fits) (.initial true)
      [RangefinderCall.accept twoMetres 100 (some 100), .accept twoMetres 150 (some 100)] [] s ∧
      (s.adapter.latest 150).2 = .ok (rangeAt 150 2)) ∧
    ∃ s, Run (Meeting LidarRun.Calls LidarRun.Fits) .initial
      [LidarCall.accept twoMetres 100 (some 100), .accept twoMetres 150 (some 100)] [] s ∧
      (s.adapter.getDistance (some 150)).2 = .ok (2.0 : ExactNumber) := by
  constructor
  · have hfirst : RangefinderRun.Calls (.initial true) (.accept twoMetres 100 (some 100)) []
        ⟨⟨true, none, ⟨some (rangeAt 100 1), none⟩, 1⟩, [rangeAt 100 1]⟩ :=
      RangefinderRun.calls_twoMetres _ _ _ rfl rfl
    have hsecond : RangefinderRun.Calls
        ⟨⟨true, none, ⟨some (rangeAt 100 1), none⟩, 1⟩, [rangeAt 100 1]⟩
        (.accept twoMetres 150 (some 100)) []
        ⟨⟨true, none, ⟨some (rangeAt 100 1), some (rangeAt 150 2)⟩, 2⟩,
          [rangeAt 100 1, rangeAt 150 2]⟩ :=
      RangefinderRun.calls_twoMetres _ _ _ rfl rfl
    have hrun := Run.step (Run.single (R := Meeting RangefinderRun.Calls RangefinderRun.Fits)
      ⟨hfirst, fun _ _ _ hawaited => by cases hawaited⟩)
      ⟨hsecond, fun _ _ _ hawaited => by cases hawaited⟩
    refine ⟨_, hrun, range_lookup.1 _ _ _ _ 150 hrun fun held hheld => Or.inl ?_⟩
    rw [← Option.some.inj (show some (rangeAt 150 2) = some held from hheld)]
    exact Int.le_refl 150
  · have hfirst : LidarRun.Calls .initial (.accept twoMetres 100 (some 100)) []
        ⟨⟨⟨some (100, 2.0), none⟩⟩, [(100, 2.0)]⟩ :=
      LidarRun.calls_twoMetres _ _ _ rfl
    have hsecond : LidarRun.Calls ⟨⟨⟨some (100, 2.0), none⟩⟩, [(100, 2.0)]⟩
        (.accept twoMetres 150 (some 100)) []
        ⟨⟨⟨some (100, 2.0), some (150, 2.0)⟩⟩, [(100, 2.0), (150, 2.0)]⟩ :=
      LidarRun.calls_twoMetres _ _ _ rfl
    have hrun := Run.step (Run.single (R := Meeting LidarRun.Calls LidarRun.Fits)
      ⟨hfirst, fun _ _ _ hawaited => by cases hawaited⟩)
      ⟨hsecond, fun _ _ _ hawaited => by cases hawaited⟩
    refine ⟨_, hrun, range_lookup.2 _ _ _ (some 150) hrun fun now held hnow hheld => Or.inl ?_⟩
    obtain rfl := Option.some.inj hnow
    exact (congrArg Prod.fst (Option.some.inj (show some ((150 : ℤ), (2.0 : ExactNumber)) =
      some held from hheld))).ge

/-- **A second range from the future displaces the first**: with the clock at 100 ns ranges for
    150 and 200 ns are accepted, and the look at 150 ns, at which the first is the newest and
    fresh, raises. -/
theorem rangefinder_displaced :
    (∃ s, Run RangefinderRun.Calls (.initial true)
      [RangefinderCall.accept twoMetres 150 (some 100), .accept twoMetres 200 (some 100)] [] s ∧
      s.expected 150 = some (rangeAt 150 1) ∧
      (s.adapter.latest 150).2 = .error "fresh downward range is unavailable") ∧
    ∃ s, Run LidarRun.Calls .initial
      [LidarCall.accept twoMetres 150 (some 100), .accept twoMetres 200 (some 100)] [] s ∧
      s.expected (some 150) = some (150, (2.0 : ExactNumber)) ∧
      (s.adapter.getDistance (some 150)).2 = .error "downward range is not ready" := by
  constructor
  · have hfirst : RangefinderRun.Calls (.initial true) (.accept twoMetres 150 (some 100)) []
        ⟨⟨true, none, ⟨none, some (rangeAt 150 1)⟩, 1⟩, [rangeAt 150 1]⟩ :=
      RangefinderRun.calls_twoMetres _ _ _ rfl rfl
    have hsecond : RangefinderRun.Calls
        ⟨⟨true, none, ⟨none, some (rangeAt 150 1)⟩, 1⟩, [rangeAt 150 1]⟩
        (.accept twoMetres 200 (some 100)) []
        ⟨⟨true, none, ⟨none, some (rangeAt 200 2)⟩, 2⟩, [rangeAt 150 1, rangeAt 200 2]⟩ :=
      RangefinderRun.calls_twoMetres _ _ _ rfl rfl
    exact ⟨_, Run.step (Run.single (R := RangefinderRun.Calls) hfirst) hsecond, rfl, rfl⟩
  · have hfirst : LidarRun.Calls .initial (.accept twoMetres 150 (some 100)) []
        ⟨⟨⟨none, some (150, 2.0)⟩⟩, [(150, 2.0)]⟩ :=
      LidarRun.calls_twoMetres _ _ _ rfl
    have hsecond : LidarRun.Calls ⟨⟨⟨none, some (150, 2.0)⟩⟩, [(150, 2.0)]⟩
        (.accept twoMetres 200 (some 100)) []
        ⟨⟨⟨none, some (200, 2.0)⟩⟩, [(150, 2.0), (200, 2.0)]⟩ :=
      LidarRun.calls_twoMetres _ _ _ rfl
    exact ⟨_, Run.step (Run.single (R := LidarRun.Calls) hfirst) hsecond, rfl, rfl⟩

end DroneSim
