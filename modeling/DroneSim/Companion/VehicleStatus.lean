/-
  File:      DroneSim/Companion/VehicleStatus.lean
  Subject:   The vehicle status on the simulation-time grid (companion/vfs_operations.py,
             VehicleStatusStream), and the judge's wait for it (scorekeeper/vfs_runtime.py,
             `_epoch_complete`).

  The stream publishes the last observed status once for the grid point of a clock reading, if that
  point is new. The runtime of the scorekeeper takes an epoch on the grid only with a status of its
  timestamp.

  * `Cadence` -- ids from zero on, one status for every grid point from the first on;
  * `NextPoint` -- a clock reading is before the second grid point after the last published one;
  * `cadence_step` -- the condition is exact;
  * `status_cadence` -- in the runs that meet it no grid point is left out, and no epoch the judge
    has buffered waits for a status that has not been published.
-/
import DroneSim.Companion.OperationState
import DroneSim.Library.PyText
import DroneSim.Library.Run
import DroneSim.Scorekeeper.RuntimeStreams

namespace DroneSim

open Library

/-! ## 1. The stream -/

/-- What the stream reads of a `Telemetry`. -/
structure StatusTelemetry where
  mode : Option String
  armed : Option Bool
  failsafe : Option Bool
  failsafeReason : Option String

structure VehicleStatusSnapshot where
  timestampNs : ℤ
  sequenceId : ℕ
  armed : Bool
  mode : String
  failsafeActive : Bool
  failsafeReason : String
  deriving DecidableEq, Repr

/-- The stream; `upper` is `str.upper`. -/
structure VehicleStatusStream where
  upper : String → String
  intervalNs : ℕ
  interval_pos : 0 < intervalNs
  mode : Option String
  armed : Option Bool
  failsafe : Option Bool
  failsafeReason : Option String
  lastGridNs : ℤ
  sequenceId : ℕ
  latestSnapshot : Option VehicleStatusSnapshot
  firstDisarmedPublishedNs : Option ℤ

inductive StatusInput where
  | observe (telemetry : StatusTelemetry)
  | sample (publicClockNs : ℤ)

namespace VehicleStatusStream

variable (s : VehicleStatusStream)

def initial (upper : String → String) (intervalNs : ℕ) (h : 0 < intervalNs) :
    VehicleStatusStream where
  upper := upper
  intervalNs := intervalNs
  interval_pos := h
  mode := none
  armed := none
  failsafe := none
  failsafeReason := none
  lastGridNs := 0
  sequenceId := 0
  latestSnapshot := none
  firstDisarmedPublishedNs := none

/-- The mode of `observe`. -/
def observeMode (telemetry : StatusTelemetry) : VehicleStatusStream :=
  match telemetry.mode with
  | none => s
  | some text =>
    let mode := s.upper (strip text)
    if mode = "" then s else { s with mode := some mode }

/-- The armed flag of `observe`. -/
def observeArmed (telemetry : StatusTelemetry) : VehicleStatusStream :=
  match telemetry.armed with
  | none => s
  | some armed =>
    { s with
      armed := some armed
      firstDisarmedPublishedNs := if armed then none else s.firstDisarmedPublishedNs }

/-- The failsafe of `observe`: an active one needs a reason. -/
def observeFailsafe (telemetry : StatusTelemetry) : VehicleStatusStream :=
  match telemetry.failsafe with
  | none => s
  | some failsafe =>
    let reason := strip (telemetry.failsafeReason.getD "")
    if failsafe && reason = "" then s
    else { s with failsafe := some failsafe, failsafeReason := some reason }

/-- `observe`. -/
def observe (telemetry : StatusTelemetry) : VehicleStatusStream :=
  ((s.observeMode telemetry).observeArmed telemetry).observeFailsafe telemetry

/-- The grid point of a clock reading. -/
def gridPoint (publicClockNs : ℤ) : ℤ :=
  publicClockNs / s.intervalNs * s.intervalNs

/-- The status at a grid point. -/
def snapshot (gridNs : ℤ) (mode : String) (armed failsafe : Bool) : VehicleStatusSnapshot where
  timestampNs := gridNs
  sequenceId := s.sequenceId
  armed := armed
  mode := mode
  failsafeActive := failsafe
  failsafeReason := s.failsafeReason.getD ""

/-- The stream once the status is published. -/
def publish (snapshot : VehicleStatusSnapshot) : VehicleStatusStream :=
  { s with
    lastGridNs := snapshot.timestampNs
    sequenceId := s.sequenceId + 1
    latestSnapshot := some snapshot
    firstDisarmedPublishedNs := if snapshot.armed then none
      else some (s.firstDisarmedPublishedNs.getD snapshot.timestampNs) }

/-- `sample`. -/
def sample (publicClockNs : ℤ) : VehicleStatusStream × List VehicleStatusSnapshot :=
  let gridNs := s.gridPoint publicClockNs
  if gridNs ≤ s.lastGridNs then (s, [])
  else
    match s.mode, s.armed, s.failsafe with
    | some mode, some armed, some failsafe =>
      let snapshot := s.snapshot gridNs mode armed failsafe
      (s.publish snapshot, [snapshot])
    | _, _, _ => (s, [])

def step : StatusInput → VehicleStatusStream × List VehicleStatusSnapshot
  | .observe telemetry => (s.observe telemetry, [])
  | .sample publicClockNs => s.sample publicClockNs

/-- The runs of the stream. -/
def Steps (i : StatusInput) (os : List VehicleStatusSnapshot) (t : VehicleStatusStream) : Prop :=
  s.step i = (t, os)

/-- The condition on a clock reading: once a status is published, the reading is before the second
    grid point after that of the last one. -/
def NextPoint : StatusInput → Prop
  | .observe _ => True
  | .sample publicClockNs =>
    s.latestSnapshot ≠ none → publicClockNs < s.lastGridNs + 2 * s.intervalNs

/-- All that a status needs has been observed. -/
def Known : Prop :=
  s.mode ≠ none ∧ s.armed ≠ none ∧ s.failsafe ≠ none

end VehicleStatusStream

/-- **The status cadence**: ids from zero on, timestamps on the grid, and after each status the one
    of the next grid point. -/
structure Cadence (intervalNs : ℕ) (os : List VehicleStatusSnapshot) : Prop where
  ids : os.map VehicleStatusSnapshot.sequenceId = List.range os.length
  onGrid : ∀ x ∈ os, (intervalNs : ℤ) ∣ x.timestampNs
  unskipped : os.IsChain fun (x y : VehicleStatusSnapshot) =>
    y.timestampNs = x.timestampNs + (intervalNs : ℤ)

variable {intervalNs : ℕ} {os : List VehicleStatusSnapshot}

/-- A grid point between the first and the last status has its status. -/
theorem Cadence.covers (hpos : 0 < intervalNs) (hgrid : ∀ x ∈ os, (intervalNs : ℤ) ∣ x.timestampNs)
    (hchain : os.IsChain fun (x y : VehicleStatusSnapshot) =>
      y.timestampNs = x.timestampNs + (intervalNs : ℤ)) {first last : VehicleStatusSnapshot}
    (hfirst : os.head? = some first) (hlast : os.getLast? = some last) {t : ℤ}
    (ht : (intervalNs : ℤ) ∣ t) (hle : first.timestampNs ≤ t)
    (hlt : t < last.timestampNs + intervalNs) : ∃ x ∈ os, x.timestampNs = t := by
  induction os generalizing first with
  | nil => cases hfirst
  | cons x os ih =>
    obtain rfl : x = first := Option.some.inj hfirst
    obtain ⟨k, hk⟩ := hgrid x List.mem_cons_self
    obtain ⟨m, rfl⟩ := ht
    by_cases heq : x.timestampNs = intervalNs * m
    · exact ⟨x, List.mem_cons_self, heq⟩
    -- `t` is a later grid point, so it is not before the next status
    have hpos' : (0 : ℤ) < intervalNs := by omega
    have hkm : k < m := by
      refine lt_of_mul_lt_mul_left ?_ (le_of_lt hpos')
      omega
    have hnext : x.timestampNs + intervalNs ≤ intervalNs * m := by
      rw [hk]
      have := mul_le_mul_of_nonneg_left (Int.add_one_le_of_lt hkm) (le_of_lt hpos')
      rw [mul_add, mul_one] at this
      exact this
    cases os with
    | nil =>
      obtain rfl : x = last := Option.some.inj hlast
      omega
    | cons y os =>
      rw [List.isChain_cons_cons] at hchain
      obtain ⟨z, hz, hzt⟩ := ih (fun z hz => hgrid z (List.mem_cons_of_mem x hz)) hchain.2 rfl
        (by rw [← hlast]; rfl) (by rw [hchain.1]; exact hnext)
      exact ⟨z, List.mem_cons_of_mem x hz, hzt⟩

/-! ## 2. One input -/

namespace VehicleStatusStream

variable {s t : VehicleStatusStream} {os : List VehicleStatusSnapshot}

/-- What an observation keeps. -/
structure Observed (s t : VehicleStatusStream) : Prop where
  interval : t.intervalNs = s.intervalNs
  grid : t.lastGridNs = s.lastGridNs
  next : t.sequenceId = s.sequenceId
  latest : t.latestSnapshot = s.latestSnapshot
  known : s.Known → t.Known

theorem Observed.trans {u : VehicleStatusStream} (h : Observed s t) (h' : Observed t u) :
    Observed s u :=
  ⟨h'.interval.trans h.interval, h'.grid.trans h.grid, h'.next.trans h.next,
    h'.latest.trans h.latest, fun hs => h'.known (h.known hs)⟩

theorem observe_spec (s : VehicleStatusStream) (telemetry : StatusTelemetry) :
    Observed s (s.observe telemetry) := by
  have hmode (s : VehicleStatusStream) : Observed s (s.observeMode telemetry) := by
    unfold observeMode
    split
    · exact ⟨rfl, rfl, rfl, rfl, id⟩
    · dsimp only
      split
      · exact ⟨rfl, rfl, rfl, rfl, id⟩
      · exact ⟨rfl, rfl, rfl, rfl, fun h => ⟨Option.some_ne_none _, h.2⟩⟩
  have harmed (s : VehicleStatusStream) : Observed s (s.observeArmed telemetry) := by
    unfold observeArmed
    split
    · exact ⟨rfl, rfl, rfl, rfl, id⟩
    · exact ⟨rfl, rfl, rfl, rfl, fun h => ⟨h.1, Option.some_ne_none _, h.2.2⟩⟩
  have hfailsafe (s : VehicleStatusStream) : Observed s (s.observeFailsafe telemetry) := by
    unfold observeFailsafe
    split
    · exact ⟨rfl, rfl, rfl, rfl, id⟩
    · dsimp only
      split
      · exact ⟨rfl, rfl, rfl, rfl, id⟩
      · exact ⟨rfl, rfl, rfl, rfl, fun h => ⟨h.1, h.2.1, Option.some_ne_none _⟩⟩
  exact ((hmode s).trans (harmed _)).trans (hfailsafe _)

theorem gridPoint_dvd (s : VehicleStatusStream) (clock : ℤ) :
    (s.intervalNs : ℤ) ∣ s.gridPoint clock := ⟨clock / s.intervalNs, mul_comm _ _⟩

/-- A clock reading is at or after its grid point, and before the next. -/
theorem gridPoint_bounds (s : VehicleStatusStream) (clock : ℤ) :
    s.gridPoint clock ≤ clock ∧ clock < s.gridPoint clock + s.intervalNs := by
  have hpos : (0 : ℤ) < s.intervalNs := by exact_mod_cast s.interval_pos
  refine ⟨Int.ediv_mul_le clock (ne_of_gt hpos), ?_⟩
  have hlt := Int.lt_ediv_add_one_mul_self clock hpos
  rwa [add_mul, one_mul] at hlt

/-- Of two grid points the later is at least one interval after the other. -/
theorem next_grid {a b : ℤ} (ha : (s.intervalNs : ℤ) ∣ a)
    (hb : (s.intervalNs : ℤ) ∣ b) (hab : a < b) : a + s.intervalNs ≤ b := by
  have hdvd : (s.intervalNs : ℤ) ∣ b - a := dvd_sub hb ha
  have hle := Int.le_of_dvd (by omega) hdvd
  omega

/-- **What a sample publishes**: nothing, or the status of a new grid point. -/
theorem sample_cases (s : VehicleStatusStream) (clock : ℤ) :
    (s.sample clock = (s, []) ∧ (s.Known → s.gridPoint clock ≤ s.lastGridNs)) ∨
      s.Known ∧ s.lastGridNs < s.gridPoint clock ∧ ∃ x, x.timestampNs = s.gridPoint clock ∧
        x.sequenceId = s.sequenceId ∧ s.sample clock = (s.publish x, [x]) := by
  unfold sample
  dsimp only
  split
  · rename_i hold
    exact Or.inl ⟨rfl, fun _ => hold⟩
  · rename_i hnew
    split
    · rename_i mode armed failsafe hmode harmed hfailsafe
      exact Or.inr ⟨⟨hmode ▸ Option.some_ne_none _, harmed ▸ Option.some_ne_none _,
        hfailsafe ▸ Option.some_ne_none _⟩, Int.not_le.mp hnew, _, rfl, rfl, rfl⟩
    · rename_i hno
      refine Or.inl ⟨rfl, fun hknown => ?_⟩
      obtain ⟨mode, hmode⟩ := Option.ne_none_iff_exists'.mp hknown.1
      obtain ⟨armed, harmed⟩ := Option.ne_none_iff_exists'.mp hknown.2.1
      obtain ⟨failsafe, hfailsafe⟩ := Option.ne_none_iff_exists'.mp hknown.2.2
      exact absurd hfailsafe (hno mode armed failsafe hmode harmed)

/-- What the stream holds of the statuses published so far. -/
structure Holds (intervalNs : ℕ) (s : VehicleStatusStream) (os : List VehicleStatusSnapshot) :
    Prop where
  interval : s.intervalNs = intervalNs
  next : s.sequenceId = os.length
  latest : s.latestSnapshot = none ↔ os = []
  known : os ≠ [] → s.Known
  last : ∀ x, os.getLast? = some x → s.lastGridNs = x.timestampNs
  grid : (intervalNs : ℤ) ∣ s.lastGridNs
  positive : 0 ≤ s.lastGridNs ∧ ∀ x ∈ os, 0 < x.timestampNs

theorem holds_initial (upper : String → String) (intervalNs : ℕ) (h : 0 < intervalNs) :
    (initial upper intervalNs h).Holds intervalNs [] where
  interval := rfl
  next := rfl
  latest := ⟨fun _ => rfl, fun _ => rfl⟩
  known hne := absurd rfl hne
  last _ hx := by cases hx
  grid := dvd_zero _
  positive := ⟨le_refl _, fun _ hx => absurd hx List.not_mem_nil⟩

/-- **Every input** keeps what the stream holds. -/
theorem Holds.step (h : s.Holds intervalNs os) (i : StatusInput) :
    (s.step i).1.Holds intervalNs (os ++ (s.step i).2) := by
  cases i with
  | observe telemetry =>
    have hobs := s.observe_spec telemetry
    rw [VehicleStatusStream.step, List.append_nil]
    exact ⟨hobs.interval.trans h.interval, hobs.next.trans h.next, by rw [hobs.latest, h.latest],
      fun hne => hobs.known (h.known hne), fun x hx => hobs.grid.trans (h.last x hx),
      by rw [hobs.grid]; exact h.grid, by rw [hobs.grid]; exact h.positive⟩
  | sample clock =>
    rw [VehicleStatusStream.step]
    rcases s.sample_cases clock with ⟨hsame, _⟩ | ⟨hknown, hnew, x, hx, hid, hsample⟩
    · rw [hsame, List.append_nil]
      exact h
    · rw [hsample]
      have hgrid : (intervalNs : ℤ) ∣ s.gridPoint clock := h.interval ▸ s.gridPoint_dvd clock
      refine ⟨h.interval, ?_, ?_, fun _ => hknown, fun y hy => ?_, ?_, ?_, fun y hy => ?_⟩
      · show s.sequenceId + 1 = _
        rw [h.next, List.length_append]
        rfl
      · exact ⟨fun hnone => absurd hnone (Option.some_ne_none x), fun hnil => by simp at hnil⟩
      · have hxy : x = y := by simpa using hy
        rw [← hxy]
        rfl
      · show (intervalNs : ℤ) ∣ x.timestampNs
        rw [hx]
        exact hgrid
      · show 0 ≤ x.timestampNs
        have := h.positive.1
        omega
      · rcases List.mem_append.mp hy with hy | hy
        · exact h.positive.2 y hy
        · rw [List.mem_singleton.mp hy, hx]
          have := h.positive.1
          omega

/-- **The condition is exact**: an input keeps the cadence if and only if it meets it. -/
theorem cadence_step (h : s.Holds intervalNs os) (hos : Cadence intervalNs os) (i : StatusInput) :
    Cadence intervalNs (os ++ (s.step i).2) ↔ s.NextPoint i := by
  cases i with
  | observe telemetry =>
    rw [VehicleStatusStream.step, List.append_nil]
    exact ⟨fun _ => trivial, fun _ => hos⟩
  | sample clock =>
    obtain ⟨hle, hlt⟩ := s.gridPoint_bounds clock
    have hpos := s.interval_pos
    rw [VehicleStatusStream.step]
    rcases s.sample_cases clock with ⟨hsame, hold⟩ | ⟨_, hnew, x, hx, hid, hsample⟩
    · rw [hsame, List.append_nil]
      refine ⟨fun _ hlatest => ?_, fun _ => hos⟩
      have hgrid := hold (h.known fun hnil => hlatest (h.latest.mpr hnil))
      omega
    rw [hsample]
    have hchain : (os ++ [x]).IsChain (fun (x y : VehicleStatusSnapshot) =>
        y.timestampNs = x.timestampNs + (intervalNs : ℤ)) ↔
        ∀ y, os.getLast? = some y → x.timestampNs = y.timestampNs + intervalNs := by
      rw [List.isChain_append]
      constructor
      · exact fun hc y hy => hc.2.2 y hy x rfl
      · exact fun hc => ⟨hos.unskipped, .singleton x, fun y hy z hz => by
          rw [← Option.some.inj hz]
          exact hc y hy⟩
    have hids : (os ++ [x]).map VehicleStatusSnapshot.sequenceId =
        List.range (os ++ [x]).length := by
      rw [List.map_append, hos.ids, List.length_append, List.map_singleton, hid, h.next]
      exact List.range_succ.symm
    have hgrid : ∀ y ∈ os ++ [x], (intervalNs : ℤ) ∣ y.timestampNs := by
      intro y hy
      rcases List.mem_append.mp hy with hy | hy
      · exact hos.onGrid y hy
      · rw [List.mem_singleton.mp hy, hx, ← h.interval]
        exact s.gridPoint_dvd clock
    constructor
    · intro hafter hlatest
      have hne : os ≠ [] := fun hnil => hlatest (h.latest.mpr hnil)
      have hlast := List.getLast?_eq_some_getLast hne
      have hstep := hchain.mp hafter.unskipped _ hlast
      rw [← h.last _ hlast, ← h.interval] at hstep
      omega
    · intro hcond
      refine ⟨hids, hgrid, hchain.mpr fun y hy => ?_⟩
      have hlatest : s.latestSnapshot ≠ none := fun hnone => by
        rw [h.latest.mp hnone] at hy
        cases hy
      have hbefore := hcond hlatest
      have hnext := next_grid (s := s) (h.interval ▸ h.grid) (s.gridPoint_dvd clock) hnew
      have hlast := h.last y hy
      rw [hx, ← hlast, ← h.interval]
      by_contra hne
      have hfar : s.lastGridNs + s.intervalNs < s.gridPoint clock := by omega
      have hdvd : (s.intervalNs : ℤ) ∣ s.lastGridNs + s.intervalNs :=
        dvd_add (h.interval ▸ h.grid) (dvd_refl _)
      have hsecond := next_grid (s := s) hdvd (s.gridPoint_dvd clock) hfar
      omega

/-- After a clock reading the published statuses reach its grid point. -/
theorem Holds.reaches (h : s.Holds intervalNs os) (clock : ℤ)
    (hne : os ++ (s.step (.sample clock)).2 ≠ []) :
    s.gridPoint clock ≤ (s.step (.sample clock)).1.lastGridNs := by
  rw [VehicleStatusStream.step] at hne ⊢
  rcases s.sample_cases clock with ⟨hsame, hold⟩ | ⟨_, _, x, hx, _, hsample⟩
  · rw [hsame] at hne ⊢
    exact hold (h.known (by simpa using hne))
  · rw [hsample, ← hx]
    exact le_refl _

end VehicleStatusStream

/-! ## 3. The judge's wait -/

namespace VfsScorekeeperRuntime

/-- What `_epoch_complete` asks of the status is missing. -/
def waitsForStatus (s : VfsScorekeeperRuntime) (timestampNs : ℕ) : Bool :=
  match s.statusGridOffsetNs with
  | none => true
  | some offset =>
    timestampNs % statusPeriodNs == offset && (s.vehicleStatusBuffer.get timestampNs).isNone

/-- The buffers after a run. -/
theorem buffered_run {c : RuntimeSetup} {scorer : Option VfsScorer} {is : List Input}
    {s : VfsScorekeeperRuntime} (hs : Streams is) (h : run c scorer is = .ok s) :
    ∃ joined rest, Buffered is joined rest s := by
  induction is using List.reverseRecOn generalizing s with
  | nil =>
    cases h
    exact ⟨[], [], buffered_init scorer⟩
  | append_singleton is i ih =>
    obtain ⟨u, hu, hi⟩ := foldlM_snoc.mp h
    obtain ⟨joined, rest, hb⟩ := ih hs.prefix hu
    exact hb.accept hs hi

end VfsScorekeeperRuntime

/-- The message of a status, as the runtime takes it. -/
def VehicleStatusSnapshot.message (runId : String) (x : VehicleStatusSnapshot) :
    VehicleStatusSample where
  runId := runId
  simTimestampNs := x.timestampNs.toNat
  sequenceId := x.sequenceId
  armed := x.armed
  mode := x.mode
  failsafeActive := x.failsafeActive

section Received

open VfsScorekeeperRuntime (Input statuses gridOffset Streams)

variable {os : List VehicleStatusSnapshot} {runId : String} {first : VehicleStatusSnapshot}
  {c : RuntimeSetup} {scorer : Option VfsScorer} {is : List Input} {s : VfsScorekeeperRuntime}

/-- The published statuses fix the grid at zero, and all are on it. -/
theorem published_grid (hgrid : ∀ x ∈ os, (statusPeriodNs : ℤ) ∣ x.timestampNs)
    (hpos : ∀ x ∈ os, 0 < x.timestampNs) (hfirst : os.head? = some first)
    (hmarkers : ∀ p, Input.payloadState p ∈ is → p.arucoId ∈ payloadMarkers)
    (hstatuses : statuses is = os.map (VehicleStatusSnapshot.message runId)) :
    gridOffset is = some 0 ∧ Streams is := by
  have hzero : ∀ x ∈ os, (x.message runId).simTimestampNs % statusPeriodNs = 0 := by
    intro x hx
    have hnat : ((x.timestampNs.toNat : ℕ) : ℤ) = x.timestampNs :=
      Int.toNat_of_nonneg (le_of_lt (hpos x hx))
    exact Nat.mod_eq_zero_of_dvd (Int.natCast_dvd_natCast.mp (hnat ▸ hgrid x hx))
  have hoffset : gridOffset is = some 0 := by
    rw [gridOffset, hstatuses, List.head?_map, hfirst]
    exact congrArg some (hzero first (List.mem_of_mem_head? hfirst))
  refine ⟨hoffset, hmarkers, fun offset ho status hst => ?_⟩
  rw [hoffset] at ho
  rw [hstatuses] at hst
  obtain ⟨x, hx, rfl⟩ := List.mem_map.mp hst
  rw [← Option.some.inj ho]
  exact hzero x hx

/-- **An epoch waits exactly for a status that was not published**, where the runtime has buffered
    the epoch and received the published statuses and the payloads of the course. -/
theorem waits_iff (hgrid : ∀ x ∈ os, (statusPeriodNs : ℤ) ∣ x.timestampNs)
    (hpos : ∀ x ∈ os, 0 < x.timestampNs) (hfirst : os.head? = some first)
    (hrun : VfsScorekeeperRuntime.run c scorer is = .ok s)
    (hmarkers : ∀ p, Input.payloadState p ∈ is → p.arucoId ∈ payloadMarkers)
    (hstatuses : statuses is = os.map (VehicleStatusSnapshot.message runId)) {t : ℕ}
    (hbuffered : s.groundTruthBuffer.get t ≠ none) :
    s.waitsForStatus t = true ↔
      (statusPeriodNs : ℤ) ∣ t ∧ ∀ x ∈ os, x.timestampNs ≠ t := by
  obtain ⟨hoffset, hstreams⟩ := published_grid hgrid hpos hfirst hmarkers hstatuses
  obtain ⟨joined, rest, hb⟩ := VfsScorekeeperRuntime.buffered_run hstreams hrun
  have hopen : t ∉ joined.map GroundTruthSample.simTimestampNs := by
    rw [hb.truth] at hbuffered
    obtain ⟨truth, htruth⟩ := Option.ne_none_iff_exists'.mp hbuffered
    obtain ⟨hmem, hstamp⟩ := stamped_spec htruth
    exact hstamp ▸ hb.open hmem
  have hperiod : (statusPeriodNs : ℤ) ∣ t ↔ t % statusPeriodNs = 0 :=
    Int.natCast_dvd_natCast.trans Nat.dvd_iff_mod_eq_zero
  have hstatus : s.vehicleStatusBuffer.get t = none ↔ ∀ x ∈ os, x.timestampNs ≠ t := by
    rw [hb.status, if_neg hopen, VfsScorekeeperRuntime.streamStatus, stamped_eq_none, hstatuses]
    constructor
    · intro h x hx hxt
      refine h (x.message runId) (List.mem_map_of_mem hx) ?_
      show x.timestampNs.toNat = t
      rw [hxt]
      rfl
    · intro h status hst hstamp
      obtain ⟨x, hx, rfl⟩ := List.mem_map.mp hst
      have hpositive := hpos x hx
      have hnat : x.timestampNs.toNat = t := hstamp
      exact h x hx (by omega)
  unfold VfsScorekeeperRuntime.waitsForStatus
  rw [hb.grid, hoffset]
  dsimp only
  rw [Bool.and_eq_true, beq_iff_eq, Option.isNone_iff_eq_none, hstatus, hperiod]

end Received

/-! ## 4. Runs -/

/-- **What the published statuses must serve** once the clock has been read: every grid point from
    the first status up to the reading has one status, and of the epochs that the judge has
    buffered for these points none waits for a status. -/
structure VehicleStatusStream.Serves (intervalNs : ℕ) (clock : ℤ) (os : List VehicleStatusSnapshot) : Prop where
  points : ∀ first t, os.head? = some first → (intervalNs : ℤ) ∣ t → first.timestampNs ≤ t →
    t ≤ clock → ∃! x, x ∈ os ∧ x.timestampNs = t
  join : intervalNs = statusPeriodNs → ∀ first, os.head? = some first →
    ∀ (c : RuntimeSetup) (scorer : Option VfsScorer) (is : List VfsScorekeeperRuntime.Input)
      (r : VfsScorekeeperRuntime) (runId : String) (t : ℕ),
      VfsScorekeeperRuntime.run c scorer is = .ok r →
      (∀ p, VfsScorekeeperRuntime.Input.payloadState p ∈ is → p.arucoId ∈ payloadMarkers) →
      VfsScorekeeperRuntime.statuses is = os.map (VehicleStatusSnapshot.message runId) →
      r.groundTruthBuffer.get t ≠ none → first.timestampNs ≤ t → (t : ℤ) ≤ clock →
      r.waitsForStatus t = false

/-- Under the cadence no two statuses have one timestamp. -/
theorem Cadence.unique (hpos : 0 < intervalNs) (h : Cadence intervalNs os)
    {x y : VehicleStatusSnapshot} (hx : x ∈ os) (hy : y ∈ os) (hxy : x.timestampNs = y.timestampNs)
    : x = y := by
  have hchain : os.IsChain fun (a b : VehicleStatusSnapshot) => a.timestampNs < b.timestampNs :=
    h.unskipped.imp fun a b hab => by omega
  have htrans : IsTrans VehicleStatusSnapshot fun (a b : VehicleStatusSnapshot) =>
      a.timestampNs < b.timestampNs := ⟨fun _ _ _ hab hbc => lt_trans hab hbc⟩
  have hrising := List.isChain_iff_pairwise.mp hchain
  refine List.Pairwise.forall_of_forall_of_flip
    (R := fun (a b : VehicleStatusSnapshot) => a.timestampNs = b.timestampNs → a = b)
    (fun _ _ _ => rfl) (hrising.imp fun hab he => ?_) (hrising.imp fun hab he => ?_) hx hy hxy
  · exact absurd he (ne_of_lt hab)
  · exact absurd he.symm (ne_of_lt hab)

namespace VehicleStatusStream

/-- What the stream holds after a run that meets the condition. -/
theorem holds_run {upper : String → String} {hpos : 0 < intervalNs} {inputs : List StatusInput}
    {s : VehicleStatusStream}
    (hrun : Run (Meeting Steps NextPoint) (initial upper intervalNs hpos) inputs os s) :
    s.Holds intervalNs os ∧ Cadence intervalNs os := by
  induction hrun with
  | start =>
    exact ⟨holds_initial upper intervalNs hpos, ⟨rfl, fun _ hx => absurd hx List.not_mem_nil, .nil⟩⟩
  | @step is os s i new t _ hs ih =>
    obtain ⟨hholds, hcadence⟩ := ih
    obtain ⟨hstep, hcond⟩ := hs
    have hnext := hholds.step i
    have hkept := (cadence_step hholds hcadence i).mpr hcond
    rw [Steps] at hstep
    rw [hstep] at hnext hkept
    exact ⟨hnext, hkept⟩

/-- **The status cadence meets the judge's join** in every run whose clock readings never pass a
    grid point after the last published one. -/
theorem status_cadence {upper : String → String} {intervalNs : ℕ} {hpos : 0 < intervalNs}
    {inputs : List StatusInput} {os : List VehicleStatusSnapshot} {s : VehicleStatusStream}
    (hrun : Run (Meeting Steps NextPoint) (initial upper intervalNs hpos) inputs os s) :
    Cadence intervalNs os ∧ ∀ is clock, inputs = is ++ [StatusInput.sample clock] →
      Serves intervalNs clock os := by
  obtain ⟨hholds, hcadence⟩ := holds_run hrun
  refine ⟨hcadence, fun is clock hinputs => ?_⟩
  subst hinputs
  obtain ⟨u, before, new, rfl, hbefore, hstep, _⟩ := hrun.last
  obtain ⟨hu, _⟩ := holds_run hbefore
  rw [Steps] at hstep
  have hcover : ∀ first t, (before ++ new).head? = some first → (intervalNs : ℤ) ∣ t →
      first.timestampNs ≤ t → t ≤ clock → ∃ x ∈ before ++ new, x.timestampNs = t := by
    intro first t hfirst ht hle hclock
    have hne : before ++ new ≠ [] := fun hnil => by
      rw [hnil] at hfirst
      cases hfirst
    have hlast := List.getLast?_eq_some_getLast hne
    have hreach := hu.reaches clock (by rw [hstep]; exact hne)
    rw [hstep, hholds.last _ hlast] at hreach
    obtain ⟨_, hbound⟩ := u.gridPoint_bounds clock
    refine Cadence.covers hpos hcadence.onGrid hcadence.unskipped hfirst hlast ht hle ?_
    rw [hu.interval] at hbound
    by_contra hfar
    omega
  refine ⟨fun first t hfirst ht hle hclock => ?_, fun hinterval first hfirst c scorer js r runId t
    hr hmarkers hstatuses hbuffered hle hclock => ?_⟩
  · obtain ⟨x, hx, hxt⟩ := hcover first t hfirst ht hle hclock
    exact ⟨x, ⟨hx, hxt⟩, fun y hy => hcadence.unique hpos hy.1 hx (hy.2.trans hxt.symm)⟩
  · subst hinterval
    refine Bool.eq_false_iff.mpr fun hwaits => ?_
    obtain ⟨hdvd, hmissing⟩ := (waits_iff hcadence.onGrid hholds.positive.2 hfirst hr hmarkers
      hstatuses hbuffered).mp hwaits
    obtain ⟨x, hx, hxt⟩ := hcover first t hfirst hdvd hle hclock
    exact hmissing x hx hxt

/-! ## 5. A grid point that is left out -/

/-- What is published later is later, and on the grid. -/
theorem later_published {new : List VehicleStatusSnapshot} {s t : VehicleStatusStream}
    {inputs : List StatusInput} (hs : s.intervalNs = intervalNs) (hrun : Run Steps s inputs new t) :
    ∀ x ∈ new, s.lastGridNs < x.timestampNs ∧ (intervalNs : ℤ) ∣ x.timestampNs := by
  have hstep : ∀ (u : VehicleStatusStream) (i : StatusInput) (o : List VehicleStatusSnapshot)
      (v : VehicleStatusStream), u.intervalNs = intervalNs ∧ s.lastGridNs ≤ u.lastGridNs →
      Steps u i o v → (v.intervalNs = intervalNs ∧ s.lastGridNs ≤ v.lastGridNs) ∧
        ∀ x ∈ o, s.lastGridNs < x.timestampNs ∧ (intervalNs : ℤ) ∣ x.timestampNs := by
    rintro u i o v ⟨hu, hle⟩ hstep
    rw [Steps] at hstep
    cases i with
    | observe telemetry =>
      obtain ⟨rfl, rfl⟩ := Prod.mk.inj hstep
      have hobs := u.observe_spec telemetry
      exact ⟨⟨hobs.interval.trans hu, hobs.grid ▸ hle⟩, fun _ hx => absurd hx List.not_mem_nil⟩
    | sample clock =>
      rw [VehicleStatusStream.step] at hstep
      rcases u.sample_cases clock with ⟨hsame, _⟩ | ⟨_, hnew, x, hx, _, hsample⟩
      · rw [hsame] at hstep
        obtain ⟨rfl, rfl⟩ := Prod.mk.inj hstep
        exact ⟨⟨hu, hle⟩, fun _ hx => absurd hx List.not_mem_nil⟩
      · rw [hsample] at hstep
        obtain ⟨rfl, rfl⟩ := Prod.mk.inj hstep
        have hlater : s.lastGridNs < x.timestampNs := by omega
        refine ⟨⟨hu, le_of_lt hlater⟩, fun y hy => ?_⟩
        rw [List.mem_singleton.mp hy]
        exact ⟨hlater, hx ▸ hu ▸ u.gridPoint_dvd clock⟩
  exact hrun.outputs (P := fun u => u.intervalNs = intervalNs ∧ s.lastGridNs ≤ u.lastGridNs)
    ⟨hs, le_refl _⟩ (fun u i o v hle h => (hstep u i o v hle h).1)
    (fun u i o v hle h => (hstep u i o v hle h).2)

/-- A vehicle of which everything is known. -/
def armedGuided : StatusTelemetry := ⟨some "GUIDED", some true, some false, none⟩

/-- The status of this vehicle at a clock reading. -/
def statusAtMs (ms : ℤ) (sequenceId : ℕ) : VehicleStatusSnapshot where
  timestampNs := ms * 1000000
  sequenceId := sequenceId
  armed := true
  mode := "GUIDED"
  failsafeActive := false
  failsafeReason := ""

/-- The default stream. -/
def tenHertz : VehicleStatusStream := initial id statusPeriodNs (by decide)

/-- The stream that has observed this vehicle. -/
def known : VehicleStatusStream := tenHertz.observe armedGuided

theorem status_cadence_two :
    ∃ os s, Run (Meeting Steps NextPoint) tenHertz [.observe armedGuided, .sample 100000000,
        .sample 250000000] os s ∧ os = [statusAtMs 100 0, statusAtMs 200 1] ∧
      Cadence statusPeriodNs os ∧ ∀ is clock,
        [StatusInput.observe armedGuided, .sample 100000000, .sample 250000000] =
          is ++ [StatusInput.sample clock] → Serves statusPeriodNs clock os := by
  obtain ⟨s, hrun⟩ : ∃ s, Run (Meeting Steps NextPoint) tenHertz [.observe armedGuided,
      .sample 100000000, .sample 250000000] [statusAtMs 100 0, statusAtMs 200 1] s := by
    have hobserve : Meeting Steps NextPoint tenHertz (.observe armedGuided) [] known :=
      ⟨rfl, trivial⟩
    have hfirst : Meeting Steps NextPoint known (.sample 100000000) [statusAtMs 100 0]
        (known.publish (statusAtMs 100 0)) := ⟨rfl, fun hne => absurd rfl hne⟩
    have hsecond : Meeting Steps NextPoint (known.publish (statusAtMs 100 0)) (.sample 250000000)
        [statusAtMs 200 1] ((known.publish (statusAtMs 100 0)).publish (statusAtMs 200 1)) :=
      ⟨rfl, fun _ => by decide⟩
    have hrun := Run.step (Run.step (Run.step (Run.start (R := Meeting Steps NextPoint)) hobserve)
      hfirst) hsecond
    exact ⟨_, hrun⟩
  exact ⟨_, s, hrun, rfl, status_cadence hrun⟩

/-- **A clock that jumps from 100 ms to 300 ms leaves out the grid point at 200 ms**: its status is
    not published later either, so the judge, once it has buffered this epoch, waits for good. -/
theorem cadence_broken :
    ∃ s, Run Steps tenHertz [.observe armedGuided, .sample 100000000, .sample 300000000]
        [statusAtMs 100 0, statusAtMs 300 1] s ∧
      ¬Cadence statusPeriodNs [statusAtMs 100 0, statusAtMs 300 1] ∧
      ∀ inputs new t, Run Steps s inputs new t →
        (∀ x ∈ [statusAtMs 100 0, statusAtMs 300 1] ++ new, x.timestampNs ≠ 200000000) ∧
        ∀ (c : RuntimeSetup) (scorer : Option VfsScorer) (is : List VfsScorekeeperRuntime.Input)
          (r : VfsScorekeeperRuntime) (runId : String),
          VfsScorekeeperRuntime.run c scorer is = .ok r →
          (∀ p, VfsScorekeeperRuntime.Input.payloadState p ∈ is → p.arucoId ∈ payloadMarkers) →
          VfsScorekeeperRuntime.statuses is = ([statusAtMs 100 0, statusAtMs 300 1] ++ new).map
            (VehicleStatusSnapshot.message runId) →
          r.groundTruthBuffer.get 200000000 ≠ none → r.waitsForStatus 200000000 = true := by
  have hobserve : Steps tenHertz (.observe armedGuided) [] known := rfl
  have hfirst : Steps known (.sample 100000000) [statusAtMs 100 0]
      (known.publish (statusAtMs 100 0)) := rfl
  have hjump : Steps (known.publish (statusAtMs 100 0)) (.sample 300000000) [statusAtMs 300 1]
      ((known.publish (statusAtMs 100 0)).publish (statusAtMs 300 1)) := rfl
  have hthere := Run.step (Run.step (Run.step (Run.start (R := Steps)) hobserve) hfirst) hjump
  refine ⟨_, hthere, fun h => ?_, fun inputs new t hrun => ?_⟩
  · have hgap := (List.isChain_cons_cons.mp h.unskipped).1
    revert hgap
    decide
  have hinterval : ((known.publish (statusAtMs 100 0)).publish (statusAtMs 300 1)).intervalNs =
      statusPeriodNs := rfl
  have hnew := later_published hinterval hrun
  have hall : ∀ x ∈ [statusAtMs 100 0, statusAtMs 300 1] ++ new,
      0 < x.timestampNs ∧ (statusPeriodNs : ℤ) ∣ x.timestampNs ∧ x.timestampNs ≠ 200000000 := by
    intro x hx
    rcases List.mem_append.mp hx with hx | hx
    · rcases List.mem_cons.mp hx with rfl | hx
      · decide
      · rw [List.mem_singleton.mp hx]
        decide
    · obtain ⟨hlater, hdvd⟩ := hnew x hx
      have hthree : (300000000 : ℤ) < x.timestampNs := hlater
      exact ⟨by omega, hdvd, by omega⟩
  refine ⟨fun x hx => (hall x hx).2.2, fun c scorer is r runId hr hmarkers hstatuses hbuffered => ?_⟩
  exact (waits_iff (fun x hx => (hall x hx).2.1) (fun x hx => (hall x hx).1) rfl hr hmarkers
    hstatuses hbuffered).mpr ⟨by decide, fun x hx => (hall x hx).2.2⟩

end VehicleStatusStream

end DroneSim
