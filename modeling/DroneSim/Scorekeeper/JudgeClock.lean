/-
  File:      DroneSim/Scorekeeper/JudgeClock.lean
  Subject:   The attempt clock of the judge.

  The clock is three loosely coupled fields: `activeSinceNs` (running since), the accumulated
  time, and `paused`. `AttemptClock R` is what they should give over every run of `R`: the clock
  stands while PAUSED or APPROVED is published, the elapsed time never falls, and between two
  truth samples of a running clock it grows by their distance.

  `ClockInv` is the invariant behind it, and one call can break it: an FM2 check approved before
  the first takeoff pauses a clock that has not started. The first takeoff then starts it under
  the pause, and the second one restarts it without adding up.

  * `advance_clock` -- a truth sample keeps the invariant, and what it adds to the clock;
  * `clock_step`, `clock_run` -- so does every call of a run that is `Timely`;
  * `attemptClock_of_timely` -- without an approval before the first takeoff the clock is right;
  * `attemptClock_fails_after_early_approval` -- and after one it is not.
-/
import DroneSim.Scorekeeper.JudgeCalls
import DroneSim.Scorekeeper.Config2027

namespace DroneSim

open Library

namespace VfsJudge

variable {c : JudgeSetup} {j j' : VfsJudge} {ds : List JudgeDecision}

/-! ## 1. The clock of a state -/

/-- The time the clock shows at `stamp`. -/
def clockAt (j : VfsJudge) (stamp : ℕ) : ℤ :=
  match j.activeSinceNs with
  | none => j.activeAccumulatedNs
  | some since => j.activeAccumulatedNs + stamp - since

theorem activeElapsedNs_eq_clockAt {truth : GroundTruthSample} (h : j.truth = some truth) :
    j.activeElapsedNs = j.clockAt truth.simTimestampNs := by
  unfold activeElapsedNs clockAt
  rw [h]
  cases j.activeSinceNs <;> rfl

/-- A stopped clock shows what it accumulated. -/
theorem activeElapsedNs_of_stopped (h : j.activeSinceNs = none) :
    j.activeElapsedNs = j.activeAccumulatedNs := by
  unfold activeElapsedNs
  rw [h]

/-- Nothing the clock reads changed, except that the attempt may be finished now. -/
structure SameClock (j j' : VfsJudge) : Prop where
  truth : j'.truth = j.truth
  started : j'.startedAtNs = j.startedAtNs
  since : j'.activeSinceNs = j.activeSinceNs
  accumulated : j'.activeAccumulatedNs = j.activeAccumulatedNs
  paused : j'.paused = j.paused
  approval : j'.approvalNs = j.approvalNs
  finished : j.finished = true → j'.finished = true

theorem SameClock.refl (j : VfsJudge) : SameClock j j := ⟨rfl, rfl, rfl, rfl, rfl, rfl, id⟩

theorem SameClock.clockAt (h : SameClock j j') (stamp : ℕ) : j'.clockAt stamp = j.clockAt stamp := by
  unfold VfsJudge.clockAt
  rw [h.since, h.accumulated]

theorem SameClock.elapsed (h : SameClock j j') : j'.activeElapsedNs = j.activeElapsedNs := by
  unfold activeElapsedNs
  rw [h.since, h.accumulated, h.truth]

/-! ## 2. What a call does to the clock -/

/-- **Truth advances the clock, a status or an approved FM2 check may stop it, and no other call
    touches it.** -/
inductive ClockSpec (c : JudgeSetup) (j : VfsJudge) (k : Call) (j' : VfsJudge) : Prop where
  | truth (sample : GroundTruthSample) (hk : k = .groundTruth sample)
      (hts : ∀ t, j.truth = some t → t.simTimestampNs < sample.simTimestampNs)
      (e : j' = j.advance c sample)
  | status (sample : VehicleStatusSample) (hk : k = .vehicleStatus sample)
      (e : j' = j.noteStatus c sample)
  | freeze (event : MissionEventSample) (hk : k = .missionEvent event)
      (happ : j.approvesFm2 c k = true) (hmet : j.fm2Met c event.simTimestampNs = true)
      (e : SameClock (j.freezeFm2 c event.simTimestampNs) j')
  | same (e : SameClock j j')

theorem clock_spec {k : Call} (h : Accepts c j k ds j') : ClockSpec c j k j' := by
  cases accepts_spec h with
  | groundTruth sample hrun hts => exact .truth sample rfl hts rfl
  | vehicleStatus sample hrun hts => exact .status sample rfl rfl
  | payloadState sample hrun hts => exact .same ⟨rfl, rfl, rfl, rfl, rfl, rfl, id⟩
  | payloadEvent sample hrun => exact .same (.refl j)
  | started event hrun hs => exact .same ⟨rfl, rfl, rfl, rfl, rfl, rfl, id⟩
  | ignored => exact .same (.refl j)
  | repeated => exact .same (.refl j)
  | refused => exact .same ⟨rfl, rfl, rfl, rfl, rfl, rfl, id⟩
  | approved event hrun hs checkpoint requestId hdetail hp hev reason refs eligible i happ d hd =>
    cases happ with
    | fm1 => exact .same ⟨rfl, rfl, rfl, rfl, rfl, rfl, id⟩
    | fm2 hphase hcp hmet =>
      have happ : j.approvesFm2 c (.missionEvent event) = true := by
        simp [approvesFm2, hs, hphase, hdetail, hcp, hp, hmet]
      exact .freeze event rfl happ hmet ⟨rfl, rfl, rfl, rfl, rfl, rfl, id⟩
    | fm3 => exact .same ⟨rfl, rfl, rfl, rfl, rfl, rfl, fun _ => rfl⟩

/-! ## 3. The invariant -/

/-- **The invariant of the clock**: it runs from a truth sample on, it stands before the start
    and under a pause, and what is paused before the start is finished. -/
structure ClockInv (j : VfsJudge) : Prop where
  paused_stands : j.paused = true → j.finished = false → j.activeSinceNs = none
  unstarted_stands : j.startedAtNs = none → j.activeSinceNs = none
  unstarted_paused : j.startedAtNs = none → j.paused = true → j.finished = true
  since_le : ∀ since, j.activeSinceNs = some since →
    ∃ t, j.truth = some t ∧ since ≤ t.simTimestampNs

theorem clockInv_init : ClockInv init where
  paused_stands _ _ := rfl
  unstarted_stands _ := rfl
  unstarted_paused _ h := by cases h
  since_le _ h := by cases h

/-- The invariant reads the clock only. -/
theorem ClockInv.of_same (h : ClockInv j) (e : SameClock j j') : ClockInv j' where
  paused_stands hp hf := by
    rw [e.since]
    refine h.paused_stands (e.paused ▸ hp) ?_
    by_contra hne
    rw [e.finished (by simpa using hne)] at hf
    cases hf
  unstarted_stands hs := by
    rw [e.since]
    exact h.unstarted_stands (e.started ▸ hs)
  unstarted_paused hs hp := e.finished (h.unstarted_paused (e.started ▸ hs) (e.paused ▸ hp))
  since_le since hs := by
    rw [e.truth]
    exact h.since_le since (e.since ▸ hs)

/-! ### Truth samples -/

section Advance

variable (sample : GroundTruthSample)

/-- The new sample is the current truth; a running clock started no later. -/
theorem ClockInv.with_truth (h : ClockInv j)
    (hts : ∀ t, j.truth = some t → t.simTimestampNs < sample.simTimestampNs) :
    ClockInv { j with truth := some sample } where
  paused_stands := h.paused_stands
  unstarted_stands := h.unstarted_stands
  unstarted_paused := h.unstarted_paused
  since_le since hs := by
    obtain ⟨t, ht, hle⟩ := h.since_le since hs
    exact ⟨sample, rfl, hle.trans (hts t ht).le⟩

theorem sameClock_trackPeak : SameClock j (j.trackPeak c sample) := by
  unfold trackPeak
  split
  · exact .refl j
  · exact ⟨rfl, rfl, rfl, rfl, rfl, rfl, id⟩

theorem sameClock_expireApproval : SameClock j (j.expireApproval c sample) := by
  unfold expireApproval
  split
  · exact ⟨rfl, rfl, rfl, rfl, rfl, rfl, fun _ => rfl⟩
  · exact .refl j

/-- **A takeoff keeps the invariant and the time shown**: it starts or resumes a clock that
    stands. -/
theorem takeOff_clock (h : ClockInv j) (ht : j.truth = some sample) :
    ClockInv (j.takeOff c sample) ∧
      (j.takeOff c sample).clockAt sample.simTimestampNs = j.clockAt sample.simTimestampNs := by
  have hshow : ∀ i : VfsJudge, i.activeSinceNs = some sample.simTimestampNs →
      i.activeAccumulatedNs = j.activeAccumulatedNs → j.activeSinceNs = none →
      i.clockAt sample.simTimestampNs = j.clockAt sample.simTimestampNs := by
    intro i hi ha hj
    unfold clockAt
    rw [hi, hj]
    show i.activeAccumulatedNs + (sample.simTimestampNs : ℤ) - sample.simTimestampNs =
      j.activeAccumulatedNs
    rw [ha]
    omega
  unfold takeOff
  dsimp only
  split
  · rename_i hs
    have hs : j.startedAtNs = none := by simpa using hs
    refine ⟨⟨fun hp hf => ?_, fun e => (by cases e), fun e => (by cases e), fun since e => ?_⟩,
      hshow _ rfl rfl (h.unstarted_stands hs)⟩
    · have hf' : j.finished = false := hf
      rw [h.unstarted_paused hs hp] at hf'
      cases hf'
    · cases e
      exact ⟨sample, ht, le_rfl⟩
  · rename_i hs
    split
    · rename_i hp
      simp only [Bool.and_eq_true, Bool.not_eq_true'] at hp
      refine ⟨⟨fun e => (by cases e), fun e => absurd e (by simpa using hs),
        fun _ e => (by cases e), fun since e => ?_⟩, hshow _ rfl rfl (h.paused_stands hp.1 hp.2)⟩
      cases e
      exact ⟨sample, ht, le_rfl⟩
    · exact ⟨⟨h.paused_stands, h.unstarted_stands, h.unstarted_paused, h.since_le⟩, rfl⟩

/-- The clock stopped at `stamp`, with what it shows then accumulated. -/
theorem stop_clock (h : ClockInv j) {since : ℕ} (hsince : j.activeSinceNs = some since)
    (i : VfsJudge) (stamp : ℕ) (hi : i.activeSinceNs = none) (hstart : i.startedAtNs = j.startedAtNs)
    (ha : i.activeAccumulatedNs = j.activeAccumulatedNs + stamp - since) :
    ClockInv i ∧ ∀ n, i.clockAt n = j.clockAt stamp := by
  have hrun : j.startedAtNs ≠ none := by
    intro e
    rw [h.unstarted_stands e] at hsince
    cases hsince
  refine ⟨⟨fun _ _ => hi, fun _ => hi, fun e => absurd (hstart ▸ e) hrun, fun s e => ?_⟩,
    fun n => ?_⟩
  · rw [hi] at e
    cases e
  · unfold clockAt
    rw [hi, hsince]
    exact ha

theorem touchDown_clock (h : ClockInv j) :
    ClockInv (j.touchDown c sample) ∧
      (j.touchDown c sample).clockAt sample.simTimestampNs = j.clockAt sample.simTimestampNs := by
  unfold touchDown
  split
  · exact ⟨h, rfl⟩
  · rename_i since hsince
    split
    · have hstop := stop_clock h hsince
        { j with
          activeAccumulatedNs := j.activeAccumulatedNs + sample.simTimestampNs - since
          activeSinceNs := none
          paused := true } sample.simTimestampNs rfl rfl rfl
      exact ⟨hstop.1, hstop.2 _⟩
    · exact ⟨h, rfl⟩

theorem changeContact_clock (previous : Option GroundTruthSample) (h : ClockInv j)
    (ht : j.truth = some sample) :
    ClockInv (j.changeContact c previous sample) ∧
      (j.changeContact c previous sample).clockAt sample.simTimestampNs =
        j.clockAt sample.simTimestampNs := by
  unfold changeContact
  split
  · exact ⟨h, rfl⟩
  · split
    · exact takeOff_clock sample h ht
    · split
      · exact touchDown_clock sample h
      · exact ⟨h, rfl⟩

theorem enforceDeadline_clock (h : ClockInv j) :
    ClockInv (j.enforceDeadline c sample) ∧
      (j.enforceDeadline c sample).clockAt sample.simTimestampNs =
        j.clockAt sample.simTimestampNs := by
  unfold enforceDeadline
  split
  · cases hs : j.activeSinceNs with
    | none =>
      have e : SameClock j { j with
          finished := true, terminalFailureReason := some "active_deadline_exceeded" } :=
        ⟨rfl, rfl, rfl, rfl, rfl, rfl, fun _ => rfl⟩
      exact ⟨h.of_same e, e.clockAt _⟩
    | some since =>
      have hstop := stop_clock h hs
        { j with
          activeAccumulatedNs := j.activeAccumulatedNs + sample.simTimestampNs - since
          activeSinceNs := none
          finished := true
          terminalFailureReason := some "active_deadline_exceeded" } sample.simTimestampNs rfl rfl rfl
      exact ⟨hstop.1, hstop.2 _⟩
  · exact ⟨h, rfl⟩

theorem truth_changeContact (previous : Option GroundTruthSample) :
    (j.changeContact c previous sample).truth = j.truth := by
  dsimp only [changeContact, takeOff, touchDown]
  repeat' split
  all_goals rfl

theorem truth_enforceDeadline : (j.enforceDeadline c sample).truth = j.truth := by
  unfold enforceDeadline
  split
  · cases j.activeSinceNs <;> rfl
  · rfl

theorem truth_advance : (j.advance c sample).truth = some sample := by
  dsimp only [advance]
  rw [truth_enforceDeadline, truth_changeContact, (sameClock_expireApproval sample).truth,
    (sameClock_trackPeak sample).truth]

/-- **An accepted truth sample keeps the invariant, and the clock shows afterwards what it shows
    before when read at the sample.** -/
theorem advance_clock (h : ClockInv j)
    (hts : ∀ t, j.truth = some t → t.simTimestampNs < sample.simTimestampNs) :
    ClockInv (j.advance c sample) ∧
      (j.advance c sample).activeElapsedNs = j.clockAt sample.simTimestampNs := by
  have h0 := h.with_truth sample hts
  have e1 := sameClock_trackPeak (c := c) (j := { j with truth := some sample }) sample
  have h1 := h0.of_same e1
  have e2 := sameClock_expireApproval (c := c)
    (j := trackPeak c { j with truth := some sample } sample) sample
  have h2 := h1.of_same e2
  have ht2 := e2.truth.trans e1.truth
  have h3 := changeContact_clock (c := c) sample j.truth h2 ht2
  have h4 := enforceDeadline_clock (c := c) sample h3.1
  refine ⟨h4.1.of_same ⟨rfl, rfl, rfl, rfl, rfl, rfl, id⟩, ?_⟩
  rw [activeElapsedNs_eq_clockAt (truth_advance sample)]
  exact h4.2.trans (h3.2.trans ((e2.clockAt _).trans (e1.clockAt _)))

/-- The time shown by a running clock grows by the distance of the samples. -/
theorem clockAt_sub {since : ℕ} (h : j.activeSinceNs = some since) (m n : ℕ) :
    j.clockAt n - j.clockAt m = (n : ℤ) - m := by
  unfold clockAt
  rw [h]
  dsimp only
  omega

/-- An accepted truth sample does not turn the elapsed time back. -/
theorem elapsed_le_advance (h : ClockInv j)
    (hts : ∀ t, j.truth = some t → t.simTimestampNs < sample.simTimestampNs) :
    j.activeElapsedNs ≤ (j.advance c sample).activeElapsedNs := by
  rw [(advance_clock sample h hts).2]
  cases hs : j.activeSinceNs with
  | none =>
    rw [activeElapsedNs_of_stopped hs]
    unfold clockAt
    rw [hs]
  | some since =>
    obtain ⟨t, ht, _⟩ := h.since_le since hs
    rw [activeElapsedNs_eq_clockAt ht]
    have hsub := clockAt_sub hs t.simTimestampNs sample.simTimestampNs
    have hlt := hts t ht
    omega

end Advance

/-! ### Stops -/

/-- What a status does to the clock: nothing, or the FM2 stop. -/
theorem noteStatus_cases (sample : VehicleStatusSample) :
    SameClock j (j.noteStatus c sample) ∨
    ∃ since truth, j.activeSinceNs = some since ∧ j.truth = some truth ∧
      j.pausesFm2 c sample = true ∧
      j.noteStatus c sample = { j with
        status := some sample
        activeAccumulatedNs := j.activeAccumulatedNs +
          max sample.simTimestampNs truth.simTimestampNs - since
        activeSinceNs := none
        paused := true } := by
  unfold noteStatus
  dsimp only
  split
  · rename_i since truth hs ht
    split
    · rename_i hp
      exact Or.inr ⟨since, truth, hs, ht, hp, rfl⟩
    · exact Or.inl ⟨rfl, rfl, rfl, rfl, rfl, rfl, id⟩
  · exact Or.inl ⟨rfl, rfl, rfl, rfl, rfl, rfl, id⟩

theorem noteStatus_clock (sample : VehicleStatusSample) (h : ClockInv j) :
    ClockInv (j.noteStatus c sample) ∧
      j.activeElapsedNs ≤ (j.noteStatus c sample).activeElapsedNs := by
  rcases noteStatus_cases (c := c) (j := j) sample with e | ⟨since, truth, hs, ht, _, e⟩
  · exact ⟨h.of_same e, e.elapsed.ge⟩
  · have hstop := stop_clock h hs (j.noteStatus c sample)
      (max sample.simTimestampNs truth.simTimestampNs) (by rw [e]) (by rw [e])
      (by rw [e])
    refine ⟨hstop.1, ?_⟩
    have hsince : (j.noteStatus c sample).activeSinceNs = none := by rw [e]
    have hacc := hstop.2 0
    unfold clockAt at hacc
    rw [hsince, hs] at hacc
    dsimp only at hacc
    rw [activeElapsedNs_of_stopped hsince, hacc, activeElapsedNs_eq_clockAt ht]
    unfold clockAt
    rw [hs]
    dsimp only
    omega

/-- The current truth is no later than a request that meets the requirements. -/
theorem truth_le_of_evidenceCurrent {stamp : ℕ} (h : j.evidenceCurrent stamp = true) :
    ∃ t, j.truth = some t ∧ t.simTimestampNs ≤ stamp ∧
      stamp ≤ t.simTimestampNs + evidenceFreshnessNs := by
  unfold evidenceCurrent at h
  rw [Bool.and_eq_true] at h
  cases ht : j.truth with
  | none =>
    rw [ht] at h
    exact absurd h.1 (by simp)
  | some t =>
    rw [ht] at h
    have hf := fresh_iff.mp (by simpa using h.1)
    exact ⟨t, rfl, hf.1, hf.2⟩

theorem evidenceCurrent_of_fm2Met {stamp : ℕ} (h : j.fm2Met c stamp = true) :
    j.evidenceCurrent stamp = true := by
  simp only [fm2Met, Bool.and_eq_true] at h
  exact h.1.1

/-- An approved FM2 check keeps the invariant unless it freezes payloads of an attempt that has
    not started. -/
theorem freezeFm2_clock {stamp : ℕ} (hmet : j.fm2Met c stamp = true)
    (hearly : j.startedAtNs = none → j.eligible c stamp = []) :
    ClockInv (j.freezeFm2 c stamp) ∧
      j.activeElapsedNs ≤ (j.freezeFm2 c stamp).activeElapsedNs := by
  refine ⟨⟨fun _ _ => rfl, fun _ => rfl, fun hs _ => ?_, fun _ e => by cases e⟩, ?_⟩
  · show (j.finished || (j.eligible c stamp).isEmpty) = true
    rw [hearly hs]
    simp
  · obtain ⟨t, ht, hle, _⟩ := truth_le_of_evidenceCurrent (evidenceCurrent_of_fm2Met hmet)
    have hsince : (j.freezeFm2 c stamp).activeSinceNs = none := rfl
    rw [activeElapsedNs_of_stopped hsince, activeElapsedNs_eq_clockAt ht]
    unfold clockAt freezeFm2
    cases hs : j.activeSinceNs with
    | none => exact le_rfl
    | some since =>
      dsimp only
      omega

/-! ## 4. The attempt clock over a run -/

/-- The calls between two truth samples that leave the clock running. -/
def KeepsRunning (R : VfsJudge → Call → List JudgeDecision → VfsJudge → Prop) :
    VfsJudge → Call → List JudgeDecision → VfsJudge → Prop :=
  fun j k ds j' => R j k ds j' ∧ (∀ sample, k ≠ .groundTruth sample) ∧ j'.activeSinceNs ≠ none

/-- **The attempt clock is right in every run of `R`.** -/
structure AttemptClock (R : VfsJudge → Call → List JudgeDecision → VfsJudge → Prop) : Prop where
  /-- It stands while the published state is PAUSED or APPROVED. -/
  stands : ∀ {ks ds j}, Run R init ks ds j →
    j.attemptState = .paused ∨ j.attemptState = .approved → j.activeSinceNs = none
  /-- No call turns it back. -/
  grows : ∀ {ks ds j k o j'}, Run R init ks ds j → R j k o j' →
    j.activeElapsedNs ≤ j'.activeElapsedNs
  /-- Between consecutive truth samples, running and not stopped, it counts their distance. -/
  counts : ∀ {ks ds j s o j₁ ls os j₂ s' o' j₃}, Run R init ks ds j →
    R j (.groundTruth s) o j₁ → j₁.activeSinceNs ≠ none → Run (KeepsRunning R) j₁ ls os j₂ →
    R j₂ (.groundTruth s') o' j₃ →
    j₃.activeElapsedNs - j₁.activeElapsedNs = (s'.simTimestampNs : ℤ) - s.simTimestampNs

/-- A new FM2 check is approved, with payloads to freeze, before the attempt has started. -/
def earlyApproval (c : JudgeSetup) (j : VfsJudge) (k : Call) : Bool :=
  j.approvesFm2 c k && j.startedAtNs.isNone &&
    match k with
    | .missionEvent event => !(j.eligible c event.simTimestampNs).isEmpty
    | _ => false

/-- The accepted calls that approve nothing early. -/
abbrev Timely (c : JudgeSetup) : VfsJudge → Call → List JudgeDecision → VfsJudge → Prop :=
  Meeting (Accepts c) fun j k => j.earlyApproval c k = false

/-- **One call**: the invariant stays and the clock does not go back. -/
theorem clock_step {k : Call} (h : ClockInv j) (hs : Timely c j k ds j') :
    ClockInv j' ∧ j.activeElapsedNs ≤ j'.activeElapsedNs := by
  obtain ⟨hacc, hearly⟩ := hs
  cases clock_spec hacc with
  | truth sample hk hts e =>
    subst e
    exact ⟨(advance_clock sample h hts).1, elapsed_le_advance sample h hts⟩
  | status sample hk e =>
    subst e
    exact noteStatus_clock sample h
  | freeze event hk happ hmet e =>
    have hnone : j.startedAtNs = none → j.eligible c event.simTimestampNs = [] := by
      intro hstart
      subst hk
      simpa [earlyApproval, happ, hstart] using hearly
    have hfreeze := freezeFm2_clock hmet hnone
    exact ⟨hfreeze.1.of_same e, hfreeze.2.trans e.elapsed.ge⟩
  | same e => exact ⟨h.of_same e, e.elapsed.ge⟩

/-- **The invariant holds in every reachable state.** -/
theorem clock_run {ks : List Call} (h : Run (Timely c) init ks ds j) : ClockInv j :=
  h.invariant clockInv_init fun _ _ _ _ hi hs => (clock_step hi hs).1

/-- Between two truth samples nothing the running clock reads changes. -/
theorem clockAt_keepsRunning {ks : List Call} (h : Run (KeepsRunning (Timely c)) j ks ds j') :
    ∀ n, j'.clockAt n = j.clockAt n := by
  induction h with
  | start => exact fun _ => rfl
  | @step ks ds i k o i' _ hs ih =>
    obtain ⟨⟨hacc, _⟩, hk, hrun⟩ := hs
    cases clock_spec hacc with
    | truth sample hk' => exact absurd hk' (hk sample)
    | status sample hk' e =>
      rcases noteStatus_cases (c := c) (j := i) sample with es | ⟨_, _, _, _, _, es⟩
      · intro n
        rw [e, es.clockAt, ih]
      · rw [e, es] at hrun
        exact absurd rfl hrun
    | freeze event hk' happ hmet e =>
      rw [e.since] at hrun
      exact absurd rfl hrun
    | same e =>
      intro n
      rw [e.clockAt, ih]

/-- A published pause is a pause of an attempt that is not finished. -/
theorem paused_of_attemptState (h : j.attemptState = .paused ∨ j.attemptState = .approved) :
    j.paused = true ∧ j.finished = false := by
  unfold attemptState at h
  cases hf : j.finished with
  | true => simp [hf] at h
  | false =>
    cases hp : j.paused with
    | true => exact ⟨rfl, rfl⟩
    | false =>
      cases hs : j.startedAtNs <;> simp [hf, hp, hs] at h

/-- **Where no FM2 check is approved before the first takeoff, the attempt clock is right.** -/
theorem attemptClock_of_timely (c : JudgeSetup) : AttemptClock (Timely c) where
  stands h hstate := by
    obtain ⟨hp, hf⟩ := paused_of_attemptState hstate
    exact (clock_run h).paused_stands hp hf
  grows h hs := (clock_step (clock_run h) hs).2
  counts := by
    intro ks ds j s o j₁ ls os j₂ s' o' j₃ h hs hrun hkeep hs'
    have h₁ : Run (Timely c) init (ks ++ [Call.groundTruth s]) (ds ++ o) j₁ := .step h hs
    have h₂ : Run (Timely c) init _ _ j₂ := h₁.append (hkeep.mono fun _ _ _ _ hk => hk.1)
    have e₁ : j₁.truth = some s := by
      rw [(accepts_groundTruth hs.1).1, truth_advance]
    have e₃ : j₃.activeElapsedNs = j₂.clockAt s'.simTimestampNs := by
      obtain ⟨rfl, hts⟩ := accepts_groundTruth hs'.1
      exact (advance_clock s' (clock_run h₂) hts).2
    obtain ⟨since, hsince⟩ := Option.ne_none_iff_exists'.mp hrun
    rw [e₃, activeElapsedNs_eq_clockAt e₁, clockAt_keepsRunning hkeep]
    exact clockAt_sub hsince _ _

/-- A check request is not stamped before the current truth. -/
def requestsCurrent (j : VfsJudge) : Call → Bool
  | .missionEvent event => event.state != "CHECK_REQUESTED" ||
      j.truth.all fun truth => decide (truth.simTimestampNs ≤ event.simTimestampNs)
  | _ => true

section EarlyApproval

open Sample2027

/-- Payload 2 lies in its circle for a second, then an FM2 check is approved before any takeoff;
    the first takeoff starts the clock with APPROVED published. -/
def earlyApprovalCalls : List Call :=
  [Call.groundTruth (homeAt 0), .payloadState (deliveredAt 0 2), .payloadState (waitingAt 0 3),
    .payloadState (waitingAt 0 4), .groundTruth (homeAt (ms 1000)),
    .payloadState (deliveredAt (ms 1000) 2), .payloadState (waitingAt (ms 1000) 3),
    .payloadState (waitingAt (ms 1000) 4), .vehicleStatus (statusAt (ms 1000) 0 false),
    .missionEvent (checkAt (ms 1000) 0 "FM2" "" "a"), .groundTruth (aloftAt (ms 2000))]

theorem attemptClock_fails_after_early_approval :
    ¬ AttemptClock (Meeting (Accepts (setup2027 [("", "a")]))
      fun j k => j.requestsCurrent k = true) := by
  intro hclock
  have hrun : ∃ j ds, Run (Meeting (Accepts (setup2027 [("", "a")]))
      fun j k => j.requestsCurrent k = true) init earlyApprovalCalls ds j ∧
      (decide (j.attemptState = .approved) && j.activeSinceNs.isSome) = true :=
    exists_run (p := fun (j : VfsJudge) _ => decide (j.attemptState = .approved) && j.activeSinceNs.isSome)
      (by decide +kernel)
  obtain ⟨j, ds, hrun, hj⟩ := hrun
  rw [Bool.and_eq_true, decide_eq_true_eq] at hj
  rw [hclock.stands hrun (Or.inr hj.1)] at hj
  exact absurd hj.2 (by decide)

end EarlyApproval

end VfsJudge

end DroneSim
