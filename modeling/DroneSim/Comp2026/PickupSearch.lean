/-
  File:      DroneSim/Comp2026/PickupSearch.lean
  Subject:   The rule of a pickup, and the search for its anchor.

  `PickupRule` says of every note of a pickup what has to come before it.

  * `SearchStage` -- how many landings a pickup has attempted, and how the last one ended;
  * `Samples` -- the samples of a cell are the last readings, one after another;
  * `tells_acquireTargetAnchor` -- **every anchor is coherent**, and it is found in time.
-/
import DroneSim.Comp2026.Pickup
import DroneSim.Comp2026.ArucoRules

namespace DroneSim

open Library Library.Attempt Library.Acting PrecisionNote

/-! ## 1. What the notes say -/

namespace PrecisionNote

def pickupOf : PrecisionNote → Option ℚ
  | .pickup t => some t
  | _ => none

def landedOf : PrecisionNote → Option LandingResult
  | .landed result => some result
  | _ => none

def isAttempt : PrecisionNote → Bool
  | .attempted => true
  | _ => false

/-- The landing profile was confirmed. -/
def isProfiled : PrecisionNote → Bool
  | .done .requireLandingProfile => true
  | _ => false

def isAttach : PrecisionNote → Bool
  | .command (.attach _) => true
  | _ => false

def isLandCommand : PrecisionNote → Bool
  | .command .setLandMode => true
  | _ => false

/-- A waypoint or an altitude is commanded. -/
def isMove : PrecisionNote → Bool
  | .command (.gotoWaypoint _ _) => true
  | .command (.moveRelative _ _) => true
  | .command (.guidedWaypoint _) => true
  | _ => false

/-- A note that tells how far a pickup has come. -/
def isMilestone : PrecisionNote → Bool
  | .pickup _ => true
  | .attempted => true
  | .landed _ => true
  | .command (.attach _) => true
  | .done .requireLandingProfile => true
  | _ => false

/-- A note that is no more than a step of a search or a landing. -/
def isStep (n : PrecisionNote) : Bool :=
  !n.isMilestone && !n.isLandCommand && match n with
    | .anchored _ => false
    | _ => true

end PrecisionNote

/-! ## 2. The rule -/

section Rule

variable (m : MathFunctions) (p : PrecisionPolicy)

/-- An evidence within the tolerances of the acquisition. -/
structure Steady (e : PrecisionEvidence) (target : GpsPoint) : Prop where
  hover : |e.clearance.projected - p.targetHoverHeight| ≤ p.hoverTolerance
  vector : ∃ vector, e.vector = some vector ∧ 0 < vector.z ∧
    m.horizontalError e vector ≤ p.centeredTolerance ∧ target = m.projectedTarget e vector

/-- Readings one after another that agree in their generations, with the targets they project. -/
structure Chain (generations : ℤ × ℤ × ℤ) (frames : List PrecisionEvidence)
    (targets : List GpsPoint) : Prop where
  steady : List.Forall₂ (Steady m p) frames targets
  increasing : frames.Pairwise fun e e' => e.frameSequence < e'.frameSequence
  generation : ∀ e ∈ frames, e.generations = generations

/-- **A coherent anchor**: the median of the targets of the last five readings, with no move since
    before the first of them. -/
def AnchorRule (before : List PrecisionNote) (anchor : GpsPoint) : Prop :=
  ∃ (older : List (Option PrecisionEvidence)) (frames : List PrecisionEvidence)
    (targets : List GpsPoint) (generations : ℤ × ℤ × ℤ),
    (since isMove before).filterMap readingOf = older ++ frames.map some ∧
    Chain m p generations frames targets ∧ targets.length = requiredCenteredObservations ∧
    anchor = medianPoint targets ∧
    targets.Pairwise fun first second => m.horizontalDistance first second ≤ anchorDriftLimit

/-- **What has to come before a landing**: the profile, a retry where it is not the first, and a
    reading of the clock before the deadline. -/
structure AttemptRule (before : List PrecisionNote) : Prop where
  second : before.countP isAttempt ≤ 1
  retried : before.countP isAttempt = 1 → latest landedOf before = some .retry
  profiled : before.countP isProfiled = 1
  timed : ∃ startedAt t, latest pickupOf before = some startedAt ∧
    latest timeOf before = some t ∧ t < startedAt + p.acquisitionTimeout

/-- The LAND command that opens a landing comes right after the reading that starts it. -/
def OpeningRule (before : List PrecisionNote) : Prop :=
  (∃ n ∈ since isAttempt before, isLandCommand n = true) ∨
    ∃ startedAt t, latest pickupOf before = some startedAt ∧ latest timeOf before = some t ∧
      .started t ∈ before

/-- **What has to come before the attachment**: a landing that confirmed its touchdown, and then a
    disarm that was confirmed. -/
def AttachRule (before : List PrecisionNote) : Prop :=
  before.countP isAttach = 0 ∧ ∃ a b, before = a ++ PrecisionNote.landed .touchdown :: b ∧
    (∃ timeout, PrecisionNote.done (PrecisionCommand.confirmLanding timeout) ∈ since isAttempt a) ∧ PrecisionNote.done .disarm ∈ b

/-- **What has to come before a note.** -/
def PickupRule (before : List PrecisionNote) : PrecisionNote → Prop
  | .anchored anchor => AnchorRule m p before anchor
  | .attempted => AttemptRule p before
  | .command .setLandMode => OpeningRule before
  | .command (.attach _) => AttachRule before
  | _ => True

/-- How far a pickup has come. -/
structure SearchStage (startedAt : ℚ) (attempts : ℕ) (profiled : Bool) (landed : Option LandingResult)
    (log : List PrecisionNote) : Prop where
  grounded : Grounded (PickupRule m p) log
  pickup : latest pickupOf log = some startedAt
  attempts : log.countP isAttempt = attempts
  profiled : log.countP isProfiled = if profiled then 1 else 0
  landed : latest landedOf log = landed
  unattached : log.countP isAttach = 0

end Rule

section Stages

variable {m : MathFunctions} {p : PrecisionPolicy} {startedAt : ℚ} {attempts : ℕ}
  {profiled : Bool} {landed : Option LandingResult} {log : List PrecisionNote} {n : PrecisionNote}

/-- A note that is no milestone does not change how far the pickup has come. -/
theorem SearchStage.snoc (h : SearchStage m p startedAt attempts profiled landed log)
    (hrule : PickupRule m p log n) (hn : isMilestone n = false) :
    SearchStage m p startedAt attempts profiled landed (log ++ [n]) := by
  obtain ⟨hpickup, hattempt, hprofiled, hlanded, hattach⟩ : pickupOf n = none ∧
      isAttempt n = false ∧ isProfiled n = false ∧ landedOf n = none ∧ isAttach n = false := by
    cases n with
    | command c => cases c <;> first | exact ⟨rfl, rfl, rfl, rfl, rfl⟩ | cases hn
    | done c => cases c <;> first | exact ⟨rfl, rfl, rfl, rfl, rfl⟩ | cases hn
    | _ => first | exact ⟨rfl, rfl, rfl, rfl, rfl⟩ | cases hn
  have hcount : ∀ {q : PrecisionNote → Bool}, q n = false →
      (log ++ [n]).countP q = log.countP q := by
    intro q hq
    rw [List.countP_append, List.countP_singleton, hq]
    rfl
  refine ⟨h.grounded.snoc hrule, ?_, ?_, ?_, ?_, ?_⟩
  · rw [latest_snoc, hpickup, Option.none_or, h.pickup]
  · rw [hcount hattempt, h.attempts]
  · rw [hcount hprofiled, h.profiled]
  · rw [latest_snoc, hlanded, Option.none_or, h.landed]
  · rw [hcount hattach, h.unattached]

theorem SearchStage.step (h : SearchStage m p startedAt attempts profiled landed log)
    (hn : isStep n = true) : SearchStage m p startedAt attempts profiled landed (log ++ [n]) := by
  unfold isStep at hn
  rw [Bool.and_eq_true, Bool.and_eq_true, Bool.not_eq_true', Bool.not_eq_true'] at hn
  obtain ⟨⟨hmilestone, hland⟩, hanchored⟩ := hn
  refine h.snoc ?_ hmilestone
  cases n with
  | command c => cases c <;> first | exact trivial | exact Bool.noConfusion hland |
      exact Bool.noConfusion hmilestone
  | anchored => cases hanchored
  | attempted => cases hmilestone
  | _ => exact trivial

theorem SearchStage.time (h : SearchStage m p startedAt attempts profiled landed log) (t : ℚ) :
    SearchStage m p startedAt attempts profiled landed (log ++ [PrecisionNote.time t]) := h.step rfl

end Stages

/-! ## 3. The search -/

section Searching

open PrecisionWorld

variable {m : MathFunctions} {p : PrecisionPolicy} {w : PrecisionWorld} {startedAt : ℚ}
  {attempts : ℕ} {profiled : Bool} {landed : Option LandingResult} {log : List PrecisionNote}
  {n : PrecisionNote} {v : AcquireState} {e : PrecisionEvidence} {deadline : ℚ}
  {generations : ℤ × ℤ × ℤ} {frames : List PrecisionEvidence} {targets : List GpsPoint}
  {target : GpsPoint}

/-- The readings since the last move. -/
def readingsOf (log : List PrecisionNote) : List (Option PrecisionEvidence) :=
  (since isMove log).filterMap readingOf

theorem readingsOf_snoc (hn : isMove n = false) :
    readingsOf (log ++ [n]) = readingsOf log ++ (readingOf n).toList := by
  unfold readingsOf
  rw [since_snoc, hn, if_neg Bool.false_ne_true, List.filterMap_append]
  cases h : readingOf n with
  | none => simp [h]
  | some r => simp [h]

theorem Chain.nil : Chain m p generations [] [] :=
  ⟨.nil, .nil, fun _ he => by cases he⟩

theorem Chain.single (hsteady : Steady m p e target) : Chain m p e.generations [e] [target] := by
  refine ⟨.cons hsteady .nil, List.pairwise_singleton _ _, fun e' he => ?_⟩
  rw [List.mem_singleton.mp he]

theorem Chain.snoc (h : Chain m p generations frames targets) (hsteady : Steady m p e target)
    (hnewer : ∀ e' ∈ frames, e'.frameSequence < e.frameSequence)
    (hgeneration : e.generations = generations) :
    Chain m p generations (frames ++ [e]) (targets ++ [target]) := by
  refine ⟨List.rel_append h.steady (.cons hsteady .nil), ?_, fun e' he => ?_⟩
  · refine List.pairwise_append.mpr ⟨h.increasing, List.pairwise_singleton _ _, ?_⟩
    intro e' he' x hx
    rw [List.mem_singleton.mp hx]
    exact hnewer e' he'
  · rcases List.mem_append.mp he with hmem | hmem
    · exact h.generation e' hmem
    · rw [List.mem_singleton.mp hmem]
      exact hgeneration

/-- **The samples are the last readings**, one after another. -/
def Samples (m : MathFunctions) (p : PrecisionPolicy) (v : AcquireState)
    (readings : List (Option PrecisionEvidence)) : Prop :=
  ∃ (older : List (Option PrecisionEvidence)) (frames : List PrecisionEvidence),
    readings = older ++ frames.map some ∧ Chain m p v.generations frames v.samples ∧
      ∀ e ∈ frames, e.frameSequence ≤ v.lastSequence

/-- No samples are the last readings, whatever was read. -/
theorem Samples.none (lastSequence : ℤ) (generations : ℤ × ℤ × ℤ)
    (readings : List (Option PrecisionEvidence)) :
    Samples m p ⟨lastSequence, generations, []⟩ readings :=
  ⟨readings, [], (List.append_nil _).symm, .nil, fun _ he => by cases he⟩

/-- The pickup is as far as before, and the samples are the last readings. -/
structure SearchProgress (m : MathFunctions) (p : PrecisionPolicy) (startedAt : ℚ) (attempts : ℕ)
    (profiled : Bool) (landed : Option LandingResult) (v : AcquireState)
    (log : List PrecisionNote) : Prop where
  stage : SearchStage m p startedAt attempts profiled landed log
  samples : Samples m p v (readingsOf log)

theorem SearchProgress.timeless : Timeless (SearchProgress m p startedAt attempts profiled landed v) := by
  intro log t h
  refine ⟨h.stage.time t, ?_⟩
  rw [readingsOf_snoc rfl]
  simpa [readingOf] using h.samples

theorem SearchStage.cleared (h : SearchStage m p startedAt attempts profiled landed log) :
    SearchProgress m p startedAt attempts profiled landed v.cleared log := ⟨h, .none _ _ _⟩

/-- What a part of the search leaves. -/
def SearchEnd (m : MathFunctions) (p : PrecisionPolicy) (startedAt : ℚ) (attempts : ℕ)
    (profiled : Bool) (landed : Option LandingResult) (deadline : ℚ) (log : List PrecisionNote) :
    Except (Option GpsPoint) AcquireState → Prop
  | .ok v => SearchProgress m p startedAt attempts profiled landed v log
  | .error none => SearchStage m p startedAt attempts profiled landed log
  | .error (some _) => SearchStage m p startedAt attempts profiled landed log ∧
      ∃ t, latest timeOf log = some t ∧ t < deadline

/-- A part of the search keeps to the rule. -/
def Searches (m : MathFunctions) (p : PrecisionPolicy) (startedAt : ℚ) (attempts : ℕ)
    (profiled : Bool) (landed : Option LandingResult) (deadline : ℚ)
    (x : PrecisionCall (Except (Option GpsPoint) AcquireState)) (log : List PrecisionNote) : Prop :=
  Tells x (fun out os => SearchEnd m p startedAt attempts profiled landed deadline os out)
    (fun _ os => Grounded (PickupRule m p) os) log

theorem searches_resume (h : SearchProgress m p startedAt attempts profiled landed v log) :
    Searches m p startedAt attempts profiled landed deadline (w.resume p deadline v) log := by
  unfold resume
  refine .bind ((Tells.keeps (keeps_sleepBounded SearchProgress.timeless deadline) h).mono
    (fun slept os hos => ?_) fun _ _ hos => hos.stage.grounded)
  exact .ite (fun _ => .pure hos) fun _ => .pure hos.stage

theorem searches_resumeInTime (h : SearchProgress m p startedAt attempts profiled landed v log) :
    Searches m p startedAt attempts profiled landed deadline (w.resumeInTime p deadline v) log := by
  unfold resumeInTime
  refine .bind (tells_now (fun t => ?_) fun _ => h.stage.grounded)
  exact .ite (fun _ => .pure (h.stage.time t)) fun _ => searches_resume (SearchProgress.timeless log t h)

/-- A move begins the samples again. -/
theorem searches_correct (h : SearchStage m p startedAt attempts profiled landed log)
    {operation : String} {move : ℚ → PrecisionCommand}
    (hmove : ∀ t, isStep (.command (move t)) = true ∧ isStep (.done (move t)) = true) :
    Searches m p startedAt attempts profiled landed deadline
      (w.correct p deadline v operation move) log := by
  unfold correct
  refine .bind (tells_permission ?_ fun _ => h.grounded)
  refine .bind (tells_now (fun t => ?_) fun _ => h.grounded)
  refine .ite (fun _ => .pure (h.time t)) fun _ => ?_
  have hcommand := (h.time t).step (hmove (deadline - t)).1
  refine .bind (tells_require ?_ fun _ => hcommand.grounded)
  exact searches_resumeInTime (hcommand.step (hmove (deadline - t)).2).cleared

/-! ## 4. A reading of the search -/

/-- The evidence was read last, after the samples. -/
def Weighed (m : MathFunctions) (p : PrecisionPolicy) (v : AcquireState) (e : PrecisionEvidence)
    (readings : List (Option PrecisionEvidence)) : Prop :=
  ∃ before, readings = before ++ [some e] ∧ Samples m p v before

/-- One more sample. -/
theorem Weighed.sampled {readings : List (Option PrecisionEvidence)} (h : Weighed m p v e readings)
    (hnew : v.lastSequence < e.frameSequence) (hgenerations : e.generations = v.generations)
    (hsteady : Steady m p e target) :
    Samples m p ⟨e.frameSequence, v.generations, v.samples ++ [target]⟩ readings := by
  obtain ⟨before, rfl, older, frames, rfl, hchain, hframes⟩ := h
  have hnewer : ∀ e' ∈ frames, e'.frameSequence < e.frameSequence :=
    fun e' he' => lt_of_le_of_lt (hframes e' he') hnew
  refine ⟨older, frames ++ [e], ?_, hchain.snoc hsteady hnewer hgenerations, fun e' he' => ?_⟩
  · rw [List.map_append, List.append_assoc]
    rfl
  · rcases List.mem_append.mp he' with hmem | hmem
    · exact le_of_lt (hnewer e' hmem)
    · rw [List.mem_singleton.mp hmem]

/-- The first of new samples. -/
theorem Weighed.restarted {readings : List (Option PrecisionEvidence)}
    (h : Weighed m p v e readings) (hgenerations : e.generations = v.generations)
    (hsteady : Steady m p e target) :
    Samples m p ⟨e.frameSequence, v.generations, [target]⟩ readings := by
  obtain ⟨before, rfl, -⟩ := h
  refine ⟨before, [e], rfl, ?_, fun e' he' => ?_⟩
  · rw [← hgenerations]
    exact .single hsteady
  · rw [List.mem_singleton.mp he']

theorem anyApart_false {samples : List GpsPoint} (h : anyApart m samples = false) :
    samples.Pairwise fun first second => m.horizontalDistance first second ≤ anchorDriftLimit := by
  induction samples with
  | nil => exact .nil
  | cons first rest ih =>
    unfold anyApart at h
    rw [Bool.or_eq_false_iff, List.any_eq_false] at h
    refine .cons (fun second hsecond => ?_) (ih h.2)
    simpa using h.1 second hsecond

theorem medianAnchor_some {samples : List GpsPoint} {anchor : GpsPoint}
    (h : medianAnchor m samples = some anchor) :
    samples.length = requiredCenteredObservations ∧ anchor = medianPoint samples ∧
      samples.Pairwise fun first second =>
        m.horizontalDistance first second ≤ anchorDriftLimit := by
  unfold medianAnchor at h
  split at h
  · cases h
  · rename_i hlength
    split at h
    · cases h
    · rename_i hapart
      cases h
      exact ⟨not_not.mp hlength, rfl, anyApart_false (Bool.eq_false_iff.mpr hapart)⟩

/-- **Samples that make an anchor make a coherent one.** -/
theorem Samples.anchor {anchor : GpsPoint} (h : Samples m p v (readingsOf log))
    (hanchor : medianAnchor m v.samples = some anchor) : AnchorRule m p log anchor := by
  obtain ⟨older, frames, hreadings, hchain, -⟩ := h
  obtain ⟨hlength, hmedian, hpairwise⟩ := medianAnchor_some hanchor
  exact ⟨older, frames, v.samples, v.generations, hreadings, hchain, hlength, hmedian, hpairwise⟩

theorem searches_sample (h : SearchStage m p startedAt attempts profiled landed log)
    (hweighed : Weighed m p v e (readingsOf log)) (hnew : v.lastSequence < e.frameSequence)
    (hgenerations : e.generations = v.generations) (hsteady : Steady m p e target)
    (htimed : ∃ t, latest timeOf log = some t ∧ t < deadline) :
    Searches m p startedAt attempts profiled landed deadline
      (w.sample m p deadline { v with lastSequence := e.frameSequence } target) log := by
  have hmore := hweighed.sampled hnew hgenerations hsteady
  unfold sample
  dsimp only
  cases hanchor : medianAnchor m (v.samples ++ [target]) with
  | some anchor =>
    have hrule : PickupRule m p log (.anchored anchor) := hmore.anchor hanchor
    refine .bind (.perform (.pure ⟨h.snoc hrule rfl, ?_⟩))
    obtain ⟨t, ht, hlt⟩ := htimed
    exact ⟨t, by rw [latest_snoc]; exact ht, hlt⟩
  | none =>
    refine .ite (fun _ => ?_) fun _ => ?_
    · exact searches_resume ⟨h, hweighed.restarted hgenerations hsteady⟩
    · exact searches_resume ⟨h, hmore⟩

theorem searches_center (h : SearchStage m p startedAt attempts profiled landed log)
    (hweighed : Weighed m p v e (readingsOf log)) (hnew : v.lastSequence < e.frameSequence)
    (hgenerations : e.generations = v.generations) {vector : RelPosComplete}
    (hvector : e.vector = some vector) (hbelow : 0 < vector.z)
    (htimed : ∃ t, latest timeOf log = some t ∧ t < deadline) :
    Searches m p startedAt attempts profiled landed deadline
      (w.center m p deadline { v with lastSequence := e.frameSequence } e vector) log := by
  unfold center
  refine .ite (fun _ => searches_correct h fun _ => ⟨rfl, rfl⟩) fun hhover => ?_
  refine .ite (fun _ => ?_) fun hcentred => ?_
  · exact .bind (.ask (fun _ => searches_correct h fun _ => ⟨rfl, rfl⟩) fun _ => h.grounded)
  · exact searches_sample h hweighed hnew hgenerations
      ⟨not_lt.mp hhover, vector, hvector, hbelow, not_lt.mp hcentred, rfl⟩ htimed

theorem searches_weigh (h : SearchStage m p startedAt attempts profiled landed log)
    (hweighed : Weighed m p v e (readingsOf log)) :
    Searches m p startedAt attempts profiled landed deadline (w.weigh m p deadline v e) log := by
  unfold weigh
  refine .bind (tells_permission ?_ fun _ => h.grounded)
  refine .bind (tells_now (fun t => ?_) fun _ => h.grounded)
  have htime := h.time t
  have hweighed : Weighed m p v e (readingsOf (log ++ [PrecisionNote.time t])) := by
    rw [readingsOf_snoc rfl]
    simpa [readingOf] using hweighed
  refine .ite (fun _ => .pure htime) fun hlate => ?_
  have htimed : ∃ u, latest timeOf (log ++ [PrecisionNote.time t]) = some u ∧ u < deadline :=
    ⟨t, by rw [latest_snoc]; rfl, not_le.mp hlate⟩
  refine .ite (fun _ => searches_resume htime.cleared) fun hnew => ?_
  refine .ite (fun _ => searches_resume ⟨htime, .none _ _ _⟩)
    fun hgenerations => ?_
  cases hvector : e.vector with
  | none => exact searches_resume htime.cleared
  | some vector =>
    refine .ite (fun _ => searches_resume htime.cleared) fun hbelow => ?_
    exact searches_center htime hweighed (not_le.mp hnew) (not_not.mp hgenerations) hvector
      (not_le.mp hbelow) htimed

/-- **One pass of a cell.** -/
theorem searches_acquireRound (h : SearchProgress m p startedAt attempts profiled landed v log)
    (targetId : ℕ) : Searches m p startedAt attempts profiled landed deadline
      (w.acquireRound m p targetId deadline v) log := by
  unfold acquireRound
  refine .bind (tells_now (fun t => ?_) fun _ => h.stage.grounded)
  refine .bind (tells_attemptEvidence SearchProgress.timeless (SearchProgress.timeless log t h) ?_ ?_
    fun _ _ hos => hos.stage.grounded)
  · intro e os hos
    refine searches_weigh (hos.stage.step rfl) ⟨readingsOf os, ?_, hos.samples⟩
    rw [readingsOf_snoc rfl]
    rfl
  · intro failed os hos
    have hstage : SearchStage m p startedAt attempts profiled landed (os ++ [PrecisionNote.unread]) :=
      hos.stage.step rfl
    cases failed with
    | noFrame =>
      exact .bind (tells_permission (searches_resumeInTime hstage.cleared)
        fun _ => hstage.grounded)
    | unavailableEvidence => exact searches_resume hstage.cleared

/-- **The passes of a cell**, by induction on how many are left. -/
theorem searches_cellLoop (targetId passes : ℕ) : ∀ {v log},
    SearchProgress m p startedAt attempts profiled landed v log →
    Searches m p startedAt attempts profiled landed deadline
      (w.cellLoop m p targetId deadline passes v) log := by
  induction passes with
  | zero =>
    intro v log h
    exact .bind (tells_now (fun t => .pure (SearchProgress.timeless log t h)) fun _ => h.stage.grounded)
  | succ passes ih =>
    intro v log h
    unfold cellLoop
    refine .bind (tells_now (fun t => ?_) fun _ => h.stage.grounded)
    have htime := SearchProgress.timeless log t h
    refine .ite (fun _ => ?_) fun _ => .pure htime
    refine .bind ((searches_acquireRound htime targetId).mono (fun out os hout => ?_)
      fun _ _ hos => hos)
    cases out with
    | error found => exact .pure hout
    | ok v' => exact ih hout

/-- What an acquisition leaves. -/
def AcquireEnd (m : MathFunctions) (p : PrecisionPolicy) (startedAt : ℚ) (attempts : ℕ)
    (profiled : Bool) (landed : Option LandingResult) (deadline : ℚ) (found : Option GpsPoint)
    (log : List PrecisionNote) : Prop :=
  SearchStage m p startedAt attempts profiled landed log ∧
    (found.isSome = true → ∃ t, latest timeOf log = some t ∧ t < deadline)

theorem acquireEnd_none (h : SearchStage m p startedAt attempts profiled landed log) :
    AcquireEnd m p startedAt attempts profiled landed deadline none log :=
  ⟨h, fun hsome => by cases hsome⟩

/-- **The cells**, by induction on those that are left. -/
theorem tells_gridLoop (targetId : ℕ) (middle : GpsPoint) (cells : List (ℚ × ℚ)) : ∀ {v log},
    SearchStage m p startedAt attempts profiled landed log →
    Tells (w.gridLoop m p targetId deadline middle cells v)
      (AcquireEnd m p startedAt attempts profiled landed deadline)
      (fun _ os => Grounded (PickupRule m p) os) log := by
  induction cells with
  | nil => exact fun h => .pure (acquireEnd_none h)
  | cons cell cells ih =>
    intro v log h
    unfold gridLoop
    refine .bind (tells_now (fun t => ?_) fun _ => h.grounded)
    have htime := h.time t
    refine .ite (fun _ => .pure (acquireEnd_none htime)) fun _ => ?_
    refine .bind (tells_permission ?_ fun _ => htime.grounded)
    refine .bind (.ask (fun waypoint => ?_) fun _ => htime.grounded)
    refine .bind (tells_now (fun t' => ?_) fun _ => htime.grounded)
    refine .ite (fun _ => .pure (acquireEnd_none (htime.time t'))) fun _ => ?_
    have hcommand : SearchStage m p startedAt attempts profiled landed
        (log ++ [PrecisionNote.time t] ++ [PrecisionNote.time t'] ++ [PrecisionNote.command (.gotoWaypoint waypoint (deadline - t'))]) :=
      (htime.time t').step rfl
    refine .bind (tells_require ?_ fun _ => hcommand.grounded)
    have hdone := hcommand.step (n := .done (.gotoWaypoint waypoint (deadline - t'))) rfl
    refine .bind (tells_now (fun t'' => ?_) fun _ => hdone.grounded)
    refine .ite (fun _ => .pure (acquireEnd_none (hdone.time t''))) fun _ => ?_
    refine .bind ((searches_cellLoop targetId _ (hdone.time t'').cleared).mono
      (fun out os hout => ?_) fun _ _ hos => hos)
    cases out with
    | ok v' => exact ih hout.stage
    | error found =>
      cases found with
      | none => exact .pure (acquireEnd_none hout)
      | some anchor => exact .pure ⟨hout.1, fun _ => hout.2⟩

theorem tells_acquireTargetAnchor (h : SearchStage m p startedAt attempts profiled landed log)
    (targetId : ℕ) (initial : Option ProjectedClearance) :
    Tells (w.acquireTargetAnchor m p targetId deadline initial)
      (AcquireEnd m p startedAt attempts profiled landed deadline)
      (fun _ os => Grounded (PickupRule m p) os) log := by
  have htimeless : Timeless (SearchStage m p startedAt attempts profiled landed) :=
    fun _ t hos => hos.time t
  have hgrid : ∀ (clearance : ProjectedClearance) {os},
      SearchStage m p startedAt attempts profiled landed os → Tells (do
        let snapshot ← ask w.flightSnapshot
        let place ← w.location snapshot
        w.gridLoop m p targetId deadline place.1 gridOffsetsNe
          ⟨0, (clearance.range.invalidationGeneration, generationOf snapshot.location,
            generationOf snapshot.attitude), []⟩)
        (AcquireEnd m p startedAt attempts profiled landed deadline)
        (fun _ os => Grounded (PickupRule m p) os) os := by
    intro clearance os hos
    refine .bind (.ask (fun snapshot => ?_) fun _ => hos.grounded)
    refine .bind ((Tells.keeps (keeps_location snapshot) hos).mono (fun place os hos => ?_)
      fun _ _ hos => hos.grounded)
    exact tells_gridLoop targetId _ _ hos
  unfold acquireTargetAnchor
  cases initial with
  | some clearance => exact hgrid clearance h
  | none =>
    refine .bind ((Tells.keeps (keeps_attemptClearance htimeless) h).mono (fun read os hos => ?_)
      fun _ _ hos => hos.grounded)
    cases read with
    | none => exact .pure (acquireEnd_none hos)
    | some clearance => exact hgrid clearance hos

end Searching

end DroneSim
