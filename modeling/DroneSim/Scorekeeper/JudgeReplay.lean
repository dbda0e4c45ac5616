/-
  File:      DroneSim/Scorekeeper/JudgeReplay.lean
  Subject:   The judge's clock and the validator's replay of it.

  Two machines keep the attempt clock: the judge on the calls it receives, the validator on the
  rows recorded of them (`physicsRows`). Where the rows are in the order of the validator's sort,
  the replay meets them in the order of the calls (`physicsEvents_recording`), and `InStep` relates
  the two states.

  One call can part them (`replayable`): an FM2 check approved while the clock runs, which the
  replay does not know; a running clock past the deadline, which the judge alone stops; a takeoff
  which the judge does not take for a resumption, or takes for one while the clock runs; a
  started phase the judge does not know. In every run without such a call an approval carries
  what the replay computes for its stamp (`elapsed_of_taken`).
-/
import DroneSim.Artifacts.ActiveClock
import DroneSim.Scorekeeper.JudgeClock
import DroneSim.Scorekeeper.JudgeEligible
import DroneSim.Scorekeeper.JudgeFm2

namespace DroneSim

open Library

namespace VfsJudge

variable {c : JudgeSetup} {j j' : VfsJudge} {r : ActiveClock} {ks ls : List Call}
  {ds es : List JudgeDecision} {row : GroundTruthSample}

/-! ## 1. The rows of a run -/

/-- The row recorded of a call that the validator's clock reads. -/
def physicsOf (k : Call) : Option PhysicsEvent :=
  match k with
  | .groundTruth sample => some (.truth sample)
  | .vehicleStatus sample => some (.status sample)
  | .missionEvent event | .missingEvidence event =>
    if event.state == "STARTED" then some (.phase event) else none
  | _ => none

/-- The rows of the calls, in the order of the calls. -/
def physicsRows (ks : List Call) : List PhysicsEvent := ks.filterMap physicsOf

theorem physicsRows_snoc (k : Call) :
    physicsRows (ks ++ [k]) = physicsRows ks ++ (physicsOf k).toList := by
  unfold physicsRows
  cases h : physicsOf k <;> simp [h]

/-- The streams of the rows are the streams of the recording. -/
theorem streams_physicsRows (ks : List Call) :
    streams PhysicsEvent.priority [0, 1, 2] (physicsRows ks) =
      (recording ks).groundTruth.map PhysicsEvent.truth ++
        ((recording ks).vehicleStatuses.map PhysicsEvent.status ++
          ((recording ks).missionEvents.filter fun row => row.state == "STARTED").map
            PhysicsEvent.phase) := by
  have hstream : ∀ (n : ℕ) (f : Call → Option PhysicsEvent),
      (∀ k, (physicsOf k).filter (fun x => decide (x.priority = n)) = f k) →
        (physicsRows ks).filter (fun x => decide (x.priority = n)) = ks.filterMap f := by
    intro n f hf
    rw [physicsRows, List.filter_filterMap]
    exact congrArg (ks.filterMap ·) (funext hf)
  unfold streams recording
  rw [List.flatMap_cons, List.flatMap_cons, List.flatMap_cons, List.flatMap_nil, List.append_nil,
    List.map_filterMap, List.map_filterMap, List.filter_filterMap, List.map_filterMap]
  congr 1
  · refine hstream 0 _ fun k => ?_
    cases k with
    | missionEvent event | missingEvidence event => dsimp only [physicsOf]; split_ifs <;> rfl
    | _ => rfl
  congr 1
  · refine hstream 1 _ fun k => ?_
    cases k with
    | missionEvent event | missingEvidence event => dsimp only [physicsOf]; split_ifs <;> rfl
    | _ => rfl
  · refine hstream 2 _ fun k => ?_
    cases k with
    | missionEvent event | missingEvidence event =>
      simp only [physicsOf, eventOf, Option.filter_some]
      split_ifs <;> rfl
    | _ => rfl

/-- **Where the rows are in order, the validator replays them in the order of the calls.** -/
theorem physicsEvents_recording (h : (physicsRows ks).Pairwise PhysicsEvent.le) :
    physicsEvents (recording ks) = physicsRows ks := by
  unfold physicsEvents
  dsimp only
  rw [← streams_physicsRows]
  have hpriorities : [0, 1, 2].Nodup := by decide
  refine insertionSort_streams hpriorities (fun _ _ h h' => PhysicsEvent.priority_of_le h h') h
    fun x _ => ?_
  cases x <;> simp [PhysicsEvent.priority]

/-! ## 2. Calls the replay follows -/

/-- The sample shows a takeoff. -/
def takesOff (j : VfsJudge) (sample : GroundTruthSample) : Bool :=
  j.truth.any fun previous => previous.inContact && !sample.inContact

/-- The sample shows a touchdown inside the home circle in FM3. -/
def landsHome (c : JudgeSetup) (j : VfsJudge) (sample : GroundTruthSample) : Bool :=
  (j.truth.any fun previous => !previous.inContact && sample.inContact) && j.phase == "FM3" &&
    insideHome c sample

/-- A takeoff of a started attempt would resume the clock: PAUSED or APPROVED is published, and
    the approval has not timed out. -/
def resumes (c : JudgeSetup) (j : VfsJudge) (sample : GroundTruthSample) : Bool :=
  j.paused && !(j.finished || j.approvalExpired c sample.simTimestampNs)

/-- The clock runs once the contact of the sample was taken in. -/
def runsThrough (c : JudgeSetup) (j : VfsJudge) (sample : GroundTruthSample) : Bool :=
  j.takesOff sample || j.activeSinceNs.isSome && !landsHome c j sample

/-- **A call both machines take alike.** A truth: a takeoff of a started attempt resumes the clock
    where it stands and only there, and a running clock is within the deadline. An event: what is
    started is FM1, FM2 or FM3, and FM2 is approved with the clock standing. -/
def replayable (c : JudgeSetup) (j : VfsJudge) : Call → Bool
  | .groundTruth sample =>
    (!j.takesOff sample || j.startedAtNs.isNone ||
        j.resumes c sample == j.activeSinceNs.isNone) &&
      (!runsThrough c j sample || decide (j.clockAt sample.simTimestampNs ≤ c.course.durationNs))
  | .missionEvent event =>
    (event.state != "STARTED" || event.startsPhase) &&
      !(j.approvesFm2 c (.missionEvent event) && j.activeSinceNs.isSome)
  | _ => true

/-- The accepted calls both machines take alike. -/
abbrev Replayable (c : JudgeSetup) : VfsJudge → Call → List JudgeDecision → VfsJudge → Prop :=
  Meeting (Accepts c) fun j k => j.replayable c k = true

/-! ## 3. In step -/

/-- **The two clocks agree.** The last field is the judge's own: it stands before the start. -/
structure InStep (j : VfsJudge) (r : ActiveClock) : Prop where
  truth : r.latestTruth = j.truth
  status : r.status = j.status
  since : r.activeSince = j.activeSinceNs
  accumulated : r.accumulated = j.activeAccumulatedNs
  phase : r.phase = j.phase
  airborne : r.fm2Airborne = j.fm2Airborne
  unstarted : j.startedAtNs = none → j.activeSinceNs = none

theorem InStep.clockAt (h : InStep j r) (stamp : ℕ) : r.shown stamp = j.clockAt stamp := by
  cases hs : j.activeSinceNs <;>
    simp only [ActiveClock.shown, VfsJudge.clockAt, h.since, h.accumulated, hs]

/-- A home circle is the same for both. -/
theorem insideHome_eq (hhome : (c.course.waypoint .H).radius.isSome = true)
    (sample : GroundTruthSample) : ActiveClock.insideHome c.course sample = insideHome c sample := by
  obtain ⟨radius, hr⟩ := Option.isSome_iff_exists.mp hhome
  have hbound : radius + containmentSlack - c.course.attempt.aircraftRadiusM =
      radius - c.course.attempt.aircraftRadiusM + containmentSlack := by ring
  unfold ActiveClock.insideHome insideHome VfsWaypoint.contains waypointContains
  rw [hr]
  dsimp only
  rw [hbound]

/-- **A change of contact**, where a takeoff of a started attempt resumes a standing clock only. -/
theorem inStep_changeContact (hhome : (c.course.waypoint .H).radius.isSome = true)
    (h : InStep j { r with latestTruth := some row })
    (hresume : (r.previousTruth.any fun previous => previous.inContact && !row.inContact) = true →
      j.startedAtNs = none ∨ (j.paused && !j.finished) = j.activeSinceNs.isNone) :
    InStep (j.changeContact c r.previousTruth row) (r.noteTruth c.course row) := by
  obtain ⟨htruth, hstatus, hsince, hacc, hphase, hair, hunstarted⟩ := h
  unfold changeContact takeOff touchDown ActiveClock.noteTruth
  rw [insideHome_eq hhome, hsince, hphase]
  cases hprevious : r.previousTruth with
  | none => cases hs : j.activeSinceNs <;> constructor <;> simp_all
  | some previous =>
    cases hs : j.activeSinceNs <;> dsimp only [Option.any_some] at hresume ⊢ <;> split_ifs <;>
      constructor <;> simp_all

/-- **The deadline**, where a running clock has not passed it. -/
theorem inStep_enforceDeadline (c : JudgeSetup) (row : GroundTruthSample) (h : InStep j r)
    (hin : j.activeSinceNs.isSome = true → j.activeElapsedNs ≤ c.course.durationNs) :
    InStep (j.enforceDeadline c row) r := by
  obtain ⟨htruth, hstatus, hsince, hacc, hphase, hair, hunstarted⟩ := h
  unfold enforceDeadline
  split
  · rename_i hover
    cases hs : j.activeSinceNs with
    | none => constructor <;> simp_all
    | some since => exact absurd (hin (by rw [hs]; rfl)) (not_le.mpr hover)
  · constructor <;> assumption

/-- A clock that runs after the truth is one that runs through it. -/
theorem runsThrough_of_running (hhome : (c.course.waypoint .H).radius.isSome = true)
    (h : InStep j r) (hprevious : r.previousTruth = j.truth)
    (hrun : (r.noteTruth c.course row).activeSince.isSome = true) :
    j.runsThrough c row = true := by
  unfold runsThrough takesOff landsHome
  unfold ActiveClock.noteTruth at hrun
  rw [← hprevious, ← h.phase, ← h.since, ← insideHome_eq hhome]
  cases hs : r.activeSince <;> rw [hs] at hrun <;> dsimp only at hrun <;> split_ifs at hrun <;>
    simp_all [imp_iff_not_or, or_assoc]

/-- **A truth both machines take alike.** -/
theorem inStep_advance (hhome : (c.course.waypoint .H).radius.isSome = true) (h : InStep j r)
    (hprevious : r.previousTruth = j.truth) (hrep : j.replayable c (.groundTruth row) = true) :
    InStep (j.advance c row) (r.noteTruth c.course row) := by
  simp only [replayable, Bool.and_eq_true, Bool.or_eq_true, Bool.not_eq_true', beq_iff_eq,
    decide_eq_true_eq, Option.isNone_iff_eq_none] at hrep
  obtain ⟨hresume, hdeadline⟩ := hrep
  -- the peak and the approval timeout change no clock
  obtain ⟨i, hi⟩ : ∃ i, i = ({ j with truth := some row }.trackPeak c row).expireApproval c row :=
    ⟨_, rfl⟩
  have hquiet : InStep i { r with latestTruth := some row } ∧ i.startedAtNs = j.startedAtNs ∧
      i.paused = j.paused ∧ i.finished = (j.finished || j.approvalExpired c row.simTimestampNs) ∧
      i.activeSinceNs = j.activeSinceNs := by
    obtain ⟨_, hstatus, hsince, hacc, hphase, hair, hunstarted⟩ := h
    rw [hi]
    unfold trackPeak
    split <;> unfold expireApproval <;> split <;> rename_i hexpired <;>
      refine ⟨⟨rfl, hstatus, hsince, hacc, hphase, hair, hunstarted⟩, rfl, rfl, ?_, rfl⟩ <;>
      simp_all [approvalExpired]
  obtain ⟨hstep, hstarted, hpaused, hfinished, hsince⟩ := hquiet
  have hcontact := inStep_changeContact hhome hstep (by
    rw [hprevious, hstarted, hpaused, hfinished, hsince]
    intro hoff
    rcases hresume with (hno | hstart) | hresume
    · rw [takesOff, hoff] at hno
      cases hno
    · exact Or.inl hstart
    · exact Or.inr hresume)
  rw [hprevious] at hcontact
  have hend := inStep_enforceDeadline c row hcontact (by
    intro hrun
    rw [← hcontact.since] at hrun
    have htruth : (r.noteTruth c.course row).latestTruth = some row :=
      (ActiveClock.last_note (.truth row)).1
    have hshown : (r.noteTruth c.course row).shown row.simTimestampNs =
        r.shown row.simTimestampNs := ActiveClock.shown_note (x := .truth row) (Or.inr rfl)
    rw [activeElapsedNs_eq_clockAt (hcontact.truth.symm.trans htruth), ← hcontact.clockAt, hshown,
      h.clockAt]
    refine hdeadline.resolve_left fun hno => ?_
    rw [runsThrough_of_running hhome h hprevious hrun] at hno
    cases hno)
  rw [hi] at hend
  exact ⟨hend.truth, hend.status, hend.since, hend.accumulated, hend.phase, hend.airborne,
    hend.unstarted⟩

/-- **A status no older than the truth.** -/
theorem inStep_noteStatus (hhome : (c.course.waypoint .H).radius.isSome = true) (h : InStep j r)
    {row : VehicleStatusSample}
    (hle : ∀ t, j.truth = some t → t.simTimestampNs ≤ row.simTimestampNs) :
    InStep (j.noteStatus c row) (r.noteStatus c.course row) := by
  obtain ⟨htruth, hstatus, hsince, hacc, hphase, hair, hunstarted⟩ := h
  unfold noteStatus pausesFm2 ActiveClock.noteStatus
  simp only [htruth, hsince, hphase, hair, insideHome_eq hhome]
  cases hs : j.activeSinceNs with
  | none => constructor <;> simp_all
  | some since =>
    cases ht : j.truth with
    | none => constructor <;> simp_all
    | some t =>
      have hle := hle t ht
      have hstarted : j.startedAtNs.isSome = true := by
        cases hst : j.startedAtNs <;> simp_all
      have habs : |(row.simTimestampNs : ℤ) - t.simTimestampNs| =
          row.simTimestampNs - t.simTimestampNs := abs_of_nonneg (by omega)
      simp only [Option.any_some, Option.isSome_some, hstarted, habs, Bool.and_true,
        statusFreshnessNs, Nat.cast_ofNat]
      split_ifs <;> constructor <;> simp_all

/-! ## 4. Runs -/

theorem physicsOf_event {k : Call} {event : MissionEventSample} (hk : eventOf k = some event) :
    physicsOf k = if event.state == "STARTED" then some (.phase event) else none := by
  cases k with
  | missionEvent | missingEvidence =>
    cases hk
    rfl
  | _ => cases hk

theorem physicsOf_other {k : Call} {event : MissionEventSample} (hk : eventOf k = some event)
    (hs : event.state ≠ "STARTED") : physicsOf k = none := by
  rw [physicsOf_event hk, if_neg]
  simpa using hs

/-- **One call**: what both machines take alike keeps them in step. -/
theorem inStep_step (hhome : (c.course.waypoint .H).radius.isSome = true) (h : InStep j r)
    (hprevious : r.previousTruth = j.truth) {k : Call} (hs : Replayable c j k ds j')
    (hle : ∀ row, k = .vehicleStatus row → ∀ t, j.truth = some t →
      t.simTimestampNs ≤ row.simTimestampNs)
    (hmissing : ∀ event, k = .missingEvidence event → event.state ≠ "STARTED") :
    InStep j' ((physicsOf k).toList.foldl (ActiveClock.note c.course) r) := by
  obtain ⟨hacc, hrep⟩ := hs
  have hquiet : ∀ event, eventOf k = some event → event.state ≠ "STARTED" → InStep j' r →
      InStep j' ((physicsOf k).toList.foldl (ActiveClock.note c.course) r) := by
    intro event hk hstate hstep
    rw [physicsOf_other hk hstate]
    exact hstep
  have hrequest : ∀ event : MissionEventSample, event.state = "CHECK_REQUESTED" →
      event.state ≠ "STARTED" := by
    intro event hstate
    rw [hstate]
    decide
  obtain ⟨htruth, hstatus, hsince, hacc', hphase, hair, hunstarted⟩ := h
  cases accepts_spec hacc with
  | groundTruth row => exact inStep_advance hhome (by constructor <;> assumption) hprevious hrep
  | vehicleStatus row =>
    exact inStep_noteStatus hhome (by constructor <;> assumption) (hle row rfl)
  | payloadState => exact ⟨htruth, hstatus, hsince, hacc', hphase, hair, hunstarted⟩
  | payloadEvent => exact ⟨htruth, hstatus, hsince, hacc', hphase, hair, hunstarted⟩
  | started event hrun hstart =>
    have hstate : (event.state == "STARTED") = true := (Bool.and_eq_true_iff.mp hstart).1
    rw [physicsOf_event rfl, if_pos hstate]
    refine ⟨htruth, hstatus, hsince, hacc', rfl, ?_, hunstarted⟩
    show (if _ then r.latestTruth.any _ else r.fm2Airborne) =
      if _ then j.truth.any _ else j.fm2Airborne
    rw [htruth, hair]
  | ignored _ event hk hrun hstate hstart =>
    refine hquiet event hk ?_ ⟨htruth, hstatus, hsince, hacc', hphase, hair, hunstarted⟩
    cases k with
    | missionEvent event' =>
      cases hk
      intro e
      simp [replayable, e, hstart rfl] at hrep
    | missingEvidence event' =>
      cases hk
      exact hmissing event rfl
    | _ => cases hk
  | repeated _ event hk hrun hstate =>
    exact hquiet event hk (hrequest event hstate)
      ⟨htruth, hstatus, hsince, hacc', hphase, hair, hunstarted⟩
  | refused _ event hk hrun hstate =>
    exact hquiet event hk (hrequest event hstate)
      ⟨htruth, hstatus, hsince, hacc', hphase, hair, hunstarted⟩
  | approved event hrun hstate checkpoint requestId hdetail hp hev reason refs eligible i happ =>
    refine hquiet event rfl (hrequest event hstate) ?_
    cases happ with
    | fm1 => exact ⟨htruth, hstatus, hsince, hacc', hphase, hair, hunstarted⟩
    | fm2 hphase' hcp hmet =>
      have happ : j.approvesFm2 c (.missionEvent event) = true := by
        simp [approvesFm2, hstate, hphase', hdetail, hcp, hp, hmet]
      have hstands : j.activeSinceNs = none := by
        simp only [replayable, happ, Bool.true_and, Bool.and_eq_true, Bool.not_eq_true',
          Option.isSome_eq_false_iff, Option.isNone_iff_eq_none] at hrep
        exact hrep.2
      refine ⟨htruth, hstatus, hsince.trans hstands, ?_, hphase, hair, fun _ => rfl⟩
      simpa [freezeFm2, hstands] using hacc'
    | fm3 => exact ⟨htruth, hstatus, hsince, hacc', hphase, hair, hunstarted⟩

/-- **In every run of calls both machines take alike, with its rows in order, the replay ends in
    step with the judge.** -/
theorem inStep_run (hhome : (c.course.waypoint .H).radius.isSome = true)
    (h : Run (Replayable c) init ks ds j) (hsort : (physicsRows ks).Pairwise PhysicsEvent.le)
    (hmissing : ∀ event, Call.missingEvidence event ∈ ks → event.state ≠ "STARTED") :
    InStep j ((physicsRows ks).foldl (ActiveClock.note c.course) .start) := by
  induction h with
  | start => exact ⟨rfl, rfl, rfl, rfl, rfl, rfl, fun _ => rfl⟩
  | @step ks ds i k o i' hrun hs ih =>
    rw [physicsRows_snoc] at hsort ⊢
    rw [List.foldl_append]
    obtain ⟨hbefore, _, hlater⟩ := List.pairwise_append.mp hsort
    have hstep := ih hbefore fun event he => hmissing event (List.mem_append_left _ he)
    have hprevious := (ActiveClock.settled_foldl c.course (physicsRows ks)).previous
    refine inStep_step hhome hstep (hprevious.trans hstep.truth) hs ?_ ?_
    · -- the judge's truth is a row that comes before the status
      rintro row rfl t ht
      have hmem := (ActiveClock.seen_foldl _ hbefore).truth t (hstep.truth.trans ht)
      exact PhysicsEvent.stamp_le (hlater _ hmem _ (List.mem_singleton_self _))
    · rintro event rfl
      exact hmissing event (List.mem_append_right _ (List.mem_singleton_self _))

/-- A new approval carries the elapsed time of the state it leaves, and leaves the evidence. -/
theorem elapsed_of_approval {event : MissionEventSample} {d : JudgeDecision}
    (h : Accepts c j (.missionEvent event) [d] j') (hnew : j'.decisionId ≠ j.decisionId)
    (happ : d.outcome = .approved) :
    d.activeElapsedNs = j'.activeElapsedNs ∧ j'.truth = j.truth ∧ j'.status = j.status ∧
      j.evidenceCurrent d.simTimestampNs = true := by
  generalize hds : [d] = ds at h
  cases accepts_spec h with
  | started => cases hds
  | ignored => cases hds
  | repeated => exact absurd rfl hnew
  | refused _ event' hk hrun hs requests d' hfm2 ho =>
    obtain rfl := List.singleton_inj.mp hds
    exact absurd happ ho
  | approved _ hrun hs checkpoint requestId hdetail hp hev reason refs eligible i happ' d' hd =>
    obtain rfl := List.singleton_inj.mp hds
    rw [hd]
    cases happ' <;> exact ⟨rfl, rfl, rfl, hev⟩

/-- **An approval taken on a truth of its own stamp carries what the validator computes for that
    stamp from the whole recording.** -/
theorem elapsed_of_taken (hhome : (c.course.waypoint .H).radius.isSome = true)
    {event : MissionEventSample} {d : JudgeDecision} {i : VfsJudge}
    (h : Run (Replayable c) init (ks ++ Call.missionEvent event :: ls) ds i)
    (hsort : (physicsRows (ks ++ Call.missionEvent event :: ls)).Pairwise PhysicsEvent.le)
    (hmissing : ∀ event', Call.missingEvidence event' ∈ ks ++ Call.missionEvent event :: ls →
      event'.state ≠ "STARTED")
    (hbefore : Run (Accepts c) init ks es j) (hs : Accepts c j (.missionEvent event) [d] j')
    (hnew : j'.decisionId ≠ j.decisionId) (happ : d.outcome = .approved)
    (htruth : ∃ t, j.truth = some t ∧ t.simTimestampNs = d.simTimestampNs) :
    activeElapsedFromPhysics d.simTimestampNs (recording (ks ++ Call.missionEvent event :: ls))
      c.course = .ok d.activeElapsedNs := by
  obtain ⟨t, ht, hT⟩ := htruth
  obtain ⟨helapsed, htruth', hstatus', hev⟩ := elapsed_of_approval hs hnew happ
  have hassoc : ks ++ Call.missionEvent event :: ls = (ks ++ [Call.missionEvent event]) ++ ls := by
    rw [List.append_assoc]
    rfl
  rw [hassoc] at h hsort hmissing ⊢
  have happend : physicsRows (ks ++ [Call.missionEvent event] ++ ls) =
      physicsRows (ks ++ [Call.missionEvent event]) ++ physicsRows ls := List.filterMap_append
  unfold activeElapsedFromPhysics
  rw [physicsEvents_recording hsort, happend]
  rw [happend] at hsort
  obtain ⟨hrows, _, hlater⟩ := List.pairwise_append.mp hsort
  -- the replay at the decision
  obtain ⟨i₁, os, _, _, h₁, _⟩ := h.split
  obtain rfl : i₁ = j' := (run_unique h₁.of_meeting (.step hbefore hs)).2
  have hstep := inStep_run hhome h₁ hrows fun event' he => hmissing event' (List.mem_append_left _ he)
  have hlatest := hstep.truth.trans (htruth'.trans ht)
  have hseen := ActiveClock.seen_foldl c.course hrows
  refine ActiveClock.elapsed_cut hsort (fun x hx => ?_) (fun y hy => ?_)
    ⟨?_, ActiveClock.settled_foldl c.course _, ?_⟩
  · -- a row before the decision is no later than its truth or its status
    refine (hseen.rows x hx).imp_right ?_
    rintro (⟨t', ht', hle⟩ | ⟨st, hst, hle⟩)
    · obtain rfl := Option.some.inj (hlatest.symm.trans ht')
      exact hle.trans hT.le
    · simp only [evidenceCurrent, Bool.and_eq_true] at hev
      obtain ⟨st', hst', hfresh⟩ := (Option.any_eq_true _ _).mp hev.2
      obtain rfl := Option.some.inj (((hstep.status.trans hstatus').symm.trans hst).symm.trans hst')
      exact hle.trans (fresh_iff.mp hfresh).1
  · exact hT ▸ PhysicsEvent.stamp_le (hlater _ (hseen.truth t hlatest) y hy)
  · rw [hlatest, Option.map_some, hT]
  · rw [hstep.clockAt, helapsed, activeElapsedNs_eq_clockAt (htruth'.trans ht), hT]

end VfsJudge

end DroneSim
