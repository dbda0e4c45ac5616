/-
  File:      DroneSim/Scorekeeper/JudgeCalls.lean
  Subject:   What one call can do to the judge, said once.

  * `CheckSpec`, `judgeCheck_spec` -- a new request is refused without a change of state, or
    approved by one of three branches;
  * `RespondSpec`, `respond_spec` -- the four answers to a check request;
  * `CallSpec`, `accepts_spec` -- every accepted call is one of nine kinds, each with its answer
    and its successor state;
  * `SameEvidence`, `sameEvidence_of_request` -- no answer to a request touches what was seen;
  * `SameRecord`, `sameRecord_advance` -- an accepted truth touches nothing else.

  The invariants of the judge go through `accepts_spec`; none of them unfolds a method again.
-/
import DroneSim.Scorekeeper.Judge
import DroneSim.Library.Fallible

namespace DroneSim

open Library

namespace VfsJudge

variable {c : JudgeSetup} {j j' : VfsJudge} {ds : List JudgeDecision} {event : MissionEventSample}
  {checkpoint : String}

/-! ## 1. New requests -/

/-- The call is a new FM2 check request that meets the physical requirements. -/
def approvesFm2 (c : JudgeSetup) (j : VfsJudge) : Call → Bool
  | .missionEvent event =>
    event.state == "CHECK_REQUESTED" && event.phase == "FM2" &&
      match requestDetail c.loads event.detail with
      | some (checkpoint, requestId) =>
        checkpoint == "" && (j.requests.get requestId).isNone &&
          j.fm2Met c event.simTimestampNs
      | none => false
  | _ => false

/-- **The three approvals**: the branch, what it found, the eligible payloads it reports and the
    state it leaves. -/
inductive ApprovalSpec (c : JudgeSetup) (j : VfsJudge) (event : MissionEventSample)
    (checkpoint : String) : List ℕ → VfsJudge → Prop where
  | fm1 (hphase : event.phase = "FM1") (hmet : j.fm1Met c checkpoint = true) :
      ApprovalSpec c j event checkpoint []
        { j with fm1DApproved := j.fm1DApproved || checkpoint == "D" }
  | fm2 (hphase : event.phase = "FM2") (hcp : checkpoint = "")
      (hmet : j.fm2Met c event.simTimestampNs = true) :
      ApprovalSpec c j event checkpoint (j.eligible c event.simTimestampNs)
        (j.freezeFm2 c event.simTimestampNs)
  | fm3 (hphase : event.phase = "FM3") (hcp : checkpoint = "")
      (hterm : j.terminalFailureReason = none)
      (hcur : j.frozenCurrent event.simTimestampNs = true)
      (hret : j.payloadsRetrieved c = true) (hstarted : j.phase = "FM3")
      (happ : j.fm2Approved = true) (hhome : j.homeDisarmed c = true) :
      ApprovalSpec c j event checkpoint [] { j with finished := true }

/-- What `_decision` finds for a request. -/
inductive CheckSpec (c : JudgeSetup) (j : VfsJudge) (event : MissionEventSample)
    (checkpoint : String) : VfsJudge × Verdict → Prop where
  | refused (v : Verdict) (ho : v.outcome ≠ .approved) (he : v.eligible = [])
      (hfm2 : event.phase = "FM2" → checkpoint = "" →
        j.fm2Met c event.simTimestampNs = false) :
      CheckSpec c j event checkpoint (j, v)
  | approved (reason : String) (eligible : List ℕ) (refs : List String) (j' : VfsJudge)
      (hev : j.evidenceCurrent event.simTimestampNs = true)
      (h : ApprovalSpec c j event checkpoint eligible j') :
      CheckSpec c j event checkpoint (j', ⟨.approved, reason, eligible, refs⟩)

theorem Verdict.stale_refused (refs : List String) :
    (Verdict.stale refs).outcome ≠ .approved ∧ (Verdict.stale refs).eligible = [] :=
  ⟨JudgeOutcome.noConfusion, rfl⟩

theorem Verdict.unmet_refused (refs : List String) :
    (Verdict.unmet refs).outcome ≠ .approved ∧ (Verdict.unmet refs).eligible = [] :=
  ⟨JudgeOutcome.noConfusion, rfl⟩

/-- A branch that refuses a request that is not for FM2. -/
theorem CheckSpec.of_refused {v : Verdict} (hphase : event.phase ≠ "FM2")
    (h : v.outcome ≠ .approved ∧ v.eligible = []) : CheckSpec c j event checkpoint (j, v) :=
  .refused v h.1 h.2 fun hp => absurd hp hphase

theorem fm1Decision_spec (refs : List String) (hphase : event.phase = "FM1")
    (hev : j.evidenceCurrent event.simTimestampNs = true) :
    CheckSpec c j event checkpoint (j.fm1Decision c checkpoint refs) := by
  unfold fm1Decision
  split
  · rename_i hmet
    exact .approved _ _ _ _ hev (.fm1 hphase hmet)
  · exact .of_refused (by rw [hphase]; decide) (Verdict.unmet_refused _)

theorem fm2Decision_spec (refs : List String) (hphase : event.phase = "FM2") (hcp : checkpoint = "")
    (hev : j.evidenceCurrent event.simTimestampNs = true) :
    CheckSpec c j event checkpoint (j.fm2Decision c event.simTimestampNs refs) := by
  unfold fm2Decision
  split
  · rename_i ht
    refine .refused _ JudgeOutcome.noConfusion rfl fun _ _ => ?_
    rw [Bool.not_eq_true'] at ht
    simp [fm2Met, ht]
  · rename_i ht
    split
    · rename_i hhome
      have hmet : j.fm2Met c event.simTimestampNs = true := by
        rw [fm2Met, hev, hhome]
        simpa using ht
      exact .approved _ _ _ _ hev (.fm2 hphase hcp hmet)
    · rename_i hhome
      refine .refused _ JudgeOutcome.noConfusion rfl fun _ _ => ?_
      rw [Bool.not_eq_true] at hhome
      simp [fm2Met, hhome]

theorem fm3Decision_spec (refs : List String) (hphase : event.phase = "FM3") (hcp : checkpoint = "")
    (hev : j.evidenceCurrent event.simTimestampNs = true) :
    CheckSpec c j event checkpoint (j.fm3Decision c event.simTimestampNs refs) := by
  have hne : event.phase ≠ "FM2" := by
    rw [hphase]
    decide
  unfold fm3Decision
  split
  · exact .of_refused hne ⟨JudgeOutcome.noConfusion, rfl⟩
  · rename_i hterm
    split
    · exact .of_refused hne (Verdict.stale_refused _)
    · rename_i hcur
      split
      · exact .of_refused hne ⟨JudgeOutcome.noConfusion, rfl⟩
      · rename_i hret
        split
        · rename_i happ
          simp only [Bool.and_eq_true, beq_iff_eq] at happ
          exact .approved _ _ _ _ hev (.fm3 hphase hcp hterm (by simpa using hcur)
            (by simpa using hret) happ.1.1 happ.1.2 happ.2)
        · exact .of_refused hne (Verdict.unmet_refused _)

/-- **A new request is refused without a change of state, or approved by one branch.** -/
theorem judgeCheck_spec (j : VfsJudge) (event : MissionEventSample) (checkpoint : String) :
    CheckSpec c j event checkpoint (j.judgeCheck c event checkpoint) := by
  dsimp only [judgeCheck]
  split
  · rename_i hev
    refine .refused _ JudgeOutcome.noConfusion rfl fun _ _ => ?_
    rw [Bool.not_eq_true'] at hev
    simp [fm2Met, hev]
  · rename_i hev
    have hev : j.evidenceCurrent event.simTimestampNs = true := by simpa using hev
    split
    · rename_i h1
      simp only [Bool.and_eq_true, beq_iff_eq] at h1
      exact fm1Decision_spec _ h1.1 hev
    · split
      · rename_i h2
        simp only [Bool.and_eq_true, beq_iff_eq] at h2
        exact fm2Decision_spec _ h2.1 h2.2 hev
      · rename_i h2
        split
        · rename_i h3
          simp only [Bool.and_eq_true, beq_iff_eq] at h3
          exact fm3Decision_spec _ h3.1 h3.2 hev
        · refine .refused _ JudgeOutcome.noConfusion rfl fun hp hc => ?_
          simp [hp, hc] at h2

/-! ## 2. Answers to a request -/

/-- How a request is answered. -/
inductive RespondSpec (c : JudgeSetup)
    (answer : VfsJudge → MissionEventSample → String → String → VfsJudge × JudgeDecision)
    (j : VfsJudge) (event : MissionEventSample) : VfsJudge × List JudgeDecision → Prop where
  | unreadable (h : requestDetail c.loads event.detail = none) :
      RespondSpec c answer j event
        ((j.error c event "" "" "invalid_request_detail" j.activeElapsedNs).1,
          [(j.error c event "" "" "invalid_request_detail" j.activeElapsedNs).2])
  | repeated (checkpoint requestId : String) (previous : JudgeDecision)
      (h : requestDetail c.loads event.detail = some (checkpoint, requestId))
      (hp : j.requests.get requestId = some (event.phase, checkpoint, previous)) :
      RespondSpec c answer j event (j, [previous])
  | conflict (checkpoint requestId : String) (stored : String × String × JudgeDecision)
      (h : requestDetail c.loads event.detail = some (checkpoint, requestId))
      (hp : j.requests.get requestId = some stored)
      (hne : (stored.1, stored.2.1) ≠ (event.phase, checkpoint)) :
      RespondSpec c answer j event
        ((j.error c event requestId checkpoint "request_id_conflict" j.activeElapsedNs).1,
          [(j.error c event requestId checkpoint "request_id_conflict" j.activeElapsedNs).2])
  | new (checkpoint requestId : String)
      (h : requestDetail c.loads event.detail = some (checkpoint, requestId))
      (hp : j.requests.get requestId = none) :
      RespondSpec c answer j event
        ({ (answer j event requestId checkpoint).1 with
            requests := (answer j event requestId checkpoint).1.requests.set requestId
              (event.phase, checkpoint, (answer j event requestId checkpoint).2) },
          [(answer j event requestId checkpoint).2])

theorem respond_spec
    (answer : VfsJudge → MissionEventSample → String → String → VfsJudge × JudgeDecision)
    (j : VfsJudge) (event : MissionEventSample) :
    RespondSpec c answer j event (j.respond c answer event) := by
  unfold respond
  split
  · rename_i h
    exact .unreadable h
  · rename_i checkpoint requestId h
    split
    · rename_i phase previousCheckpoint previous hp
      split
      · rename_i he
        obtain ⟨rfl, rfl⟩ := he
        exact .repeated _ _ previous h hp
      · rename_i he
        refine .conflict checkpoint requestId _ h hp fun e => he ?_
        simpa using e
    · rename_i hp
      exact .new checkpoint requestId h hp

/-! ## 3. Calls -/

/-- The mission event a call delivers. -/
def eventOf : Call → Option MissionEventSample
  | .missionEvent event => some event
  | .missingEvidence event => some event
  | _ => none

/-- The decision is stored under a request id. -/
def Stored (j : VfsJudge) (d : JudgeDecision) : Prop :=
  ∃ requestId phase checkpoint, j.requests.get requestId = some (phase, checkpoint, d)

/-- **What an accepted call does.** -/
inductive CallSpec (c : JudgeSetup) (j : VfsJudge) :
    Call → List JudgeDecision → VfsJudge → Prop where
  | groundTruth (sample : GroundTruthSample) (hrun : sample.runId = c.runId)
      (hts : ∀ t, j.truth = some t → t.simTimestampNs < sample.simTimestampNs) :
      CallSpec c j (.groundTruth sample) [] (j.advance c sample)
  | vehicleStatus (sample : VehicleStatusSample) (hrun : sample.runId = c.runId)
      (hts : ∀ s, j.status = some s → s.simTimestampNs < sample.simTimestampNs ∧
        sample.sequenceId = s.sequenceId + 1) :
      CallSpec c j (.vehicleStatus sample) [] (j.noteStatus c sample)
  | payloadState (sample : PayloadStateSample) (hrun : sample.runId = c.runId)
      (hts : ∀ p, j.payloads.get sample.arucoId = some p →
        p.simTimestampNs < sample.simTimestampNs) :
      CallSpec c j (.payloadState sample) [] (j.notePayload sample)
  | payloadEvent (sample : PayloadEventSample) (hrun : sample.runId = c.runId) :
      CallSpec c j (.payloadEvent sample) [] j
  | started (event : MissionEventSample) (hrun : event.runId = c.runId)
      (hs : event.startsPhase = true) :
      CallSpec c j (.missionEvent event) [] (j.startPhase event.phase)
  | ignored (k : Call) (event : MissionEventSample) (hk : eventOf k = some event)
      (hrun : event.runId = c.runId) (hs : event.state ≠ "CHECK_REQUESTED")
      (hstart : k = .missionEvent event → event.startsPhase = false) :
      CallSpec c j k [] j
  | repeated (k : Call) (event : MissionEventSample) (hk : eventOf k = some event)
      (hrun : event.runId = c.runId) (hs : event.state = "CHECK_REQUESTED")
      (checkpoint requestId : String) (d : JudgeDecision)
      (hdetail : requestDetail c.loads event.detail = some (checkpoint, requestId))
      (hp : j.requests.get requestId = some (event.phase, checkpoint, d)) :
      CallSpec c j k [d] j
  | refused (k : Call) (event : MissionEventSample) (hk : eventOf k = some event)
      (hrun : event.runId = c.runId) (hs : event.state = "CHECK_REQUESTED")
      (requests : Dict String (String × String × JudgeDecision)) (d : JudgeDecision)
      (hfm2 : j.approvesFm2 c k = false) (ho : d.outcome ≠ .approved)
      (he : d.eligibleArucoIds = []) (ht : d.simTimestampNs = event.simTimestampNs)
      (hreq : ∀ id x, requests.get id = some x → j.requests.get id = some x ∨ x.2.2 = d) :
      CallSpec c j k [d] { j with decisionId := j.decisionId + 1, requests := requests }
  | approved (event : MissionEventSample) (hrun : event.runId = c.runId)
      (hs : event.state = "CHECK_REQUESTED") (checkpoint requestId : String)
      (hdetail : requestDetail c.loads event.detail = some (checkpoint, requestId))
      (hp : j.requests.get requestId = none)
      (hev : j.evidenceCurrent event.simTimestampNs = true)
      (reason : String) (refs : List String) (eligible : List ℕ) (i : VfsJudge)
      (h : ApprovalSpec c j event checkpoint eligible i) (d : JudgeDecision)
      (hd : d = ⟨c.runId, event.simTimestampNs, i.decisionId, requestId, event.eventId,
        event.phase, checkpoint, .approved, eligible, i.activeElapsedNs, reason, refs⟩) :
      CallSpec c j (.missionEvent event) [d]
        { i with
          decisionId := i.decisionId + 1
          requests := i.requests.set requestId (event.phase, checkpoint, d) }

/-- What a request without an answer in store gets where nothing new is stored. -/
theorem refused_error {k : Call} (hk : eventOf k = some event) (hrun : event.runId = c.runId)
    (hs : event.state = "CHECK_REQUESTED") (hfm2 : j.approvesFm2 c k = false)
    (requestId checkpoint reason : String) (n : ℤ) :
    CallSpec c j k [(j.error c event requestId checkpoint reason n).2]
      (j.error c event requestId checkpoint reason n).1 :=
  .refused k event hk hrun hs j.requests _ hfm2 JudgeOutcome.noConfusion rfl rfl
    fun _ _ h => Or.inl h

/-- What a stored answer adds to the answers in store. -/
theorem stored_set {requests : Dict String (String × String × JudgeDecision)}
    {requestId : String} {x : String × String × JudgeDecision} :
    ∀ id y, (requests.set requestId x).get id = some y → requests.get id = some y ∨ y.2.2 = x.2.2 := by
  intro id y h
  rw [Dict.get_set] at h
  split at h
  · cases h
    exact Or.inr rfl
  · exact Or.inl h

theorem request_spec (event : MissionEventSample) (hrun : event.runId = c.runId)
    (hs : event.state = "CHECK_REQUESTED") :
    CallSpec c j (.missionEvent event) (j.respond c (decision c) event).2
      (j.respond c (decision c) event).1 := by
  have h := respond_spec (c := c) (decision c) j event
  revert h
  generalize j.respond c (decision c) event = r
  intro h
  cases h with
  | unreadable hd => exact refused_error rfl hrun hs (by simp [approvesFm2, hd]) _ _ _ _
  | repeated checkpoint requestId previous hd hp =>
    exact .repeated _ event rfl hrun hs checkpoint requestId previous hd hp
  | conflict checkpoint requestId stored hd hp =>
    exact refused_error rfl hrun hs (by simp [approvesFm2, hd, hp]) _ _ _ _
  | new checkpoint requestId hd hp =>
    unfold decision
    have hcheck := judgeCheck_spec (c := c) j event checkpoint
    revert hcheck
    generalize j.judgeCheck c event checkpoint = r
    intro hcheck
    cases hcheck with
    | refused v ho he hfm2 =>
      have hno : j.approvesFm2 c (.missionEvent event) = false := by
        rw [Bool.eq_false_iff]
        intro happ
        simp only [approvesFm2, hd, Bool.and_eq_true, beq_iff_eq] at happ
        rw [hfm2 happ.1.2 happ.2.1.1] at happ
        exact absurd happ.2.2 (by decide)
      exact .refused _ event rfl hrun hs _ _ hno ho he rfl stored_set
    | approved reason eligible refs i hev happ =>
      exact .approved event hrun hs checkpoint requestId hd hp hev reason refs eligible i happ _ rfl

theorem missing_spec (event : MissionEventSample) (hrun : event.runId = c.runId)
    (hs : event.state = "CHECK_REQUESTED") :
    CallSpec c j (.missingEvidence event) (j.respond c (missingEvidence c) event).2
      (j.respond c (missingEvidence c) event).1 := by
  have h := respond_spec (c := c) (missingEvidence c) j event
  revert h
  generalize j.respond c (missingEvidence c) event = r
  intro h
  cases h with
  | unreadable => exact refused_error rfl hrun hs rfl _ _ _ _
  | repeated checkpoint requestId previous hd hp =>
    exact .repeated _ event rfl hrun hs checkpoint requestId previous hd hp
  | conflict => exact refused_error rfl hrun hs rfl _ _ _ _
  | new => exact .refused _ event rfl hrun hs _ _ rfl JudgeOutcome.noConfusion rfl rfl stored_set

theorem missionEvent_spec (h : j.acceptMissionEvent c event = .ok (j', ds)) :
    CallSpec c j (.missionEvent event) ds j' := by
  unfold acceptMissionEvent at h
  split at h
  · cases h
  · rename_i hrun
    split at h
    · rename_i hs
      cases h
      exact .started event (not_not.mp hrun) hs
    · rename_i hs
      split at h
      · rename_i hc
        cases h
        exact .ignored _ event rfl (not_not.mp hrun) hc fun _ => by simpa using hs
      · rename_i hc
        have hspec := request_spec (c := c) (j := j) event (not_not.mp hrun) (not_not.mp hc)
        rw [Except.ok.inj h] at hspec
        exact hspec

theorem missingEvidence_spec (h : j.rejectMissionEventMissingEvidence c event = .ok (j', ds)) :
    CallSpec c j (.missingEvidence event) ds j' := by
  unfold rejectMissionEventMissingEvidence at h
  split at h
  · cases h
  · rename_i hrun
    split at h
    · rename_i hc
      cases h
      exact .ignored _ event rfl (not_not.mp hrun) hc Call.noConfusion
    · rename_i hc
      have hspec := missing_spec (c := c) (j := j) event (not_not.mp hrun) (not_not.mp hc)
      rw [Except.ok.inj h] at hspec
      exact hspec

/-- **Every accepted call is one of the nine kinds.** -/
theorem accepts_spec {k : Call} (h : Accepts c j k ds j') : CallSpec c j k ds j' := by
  have h : j.call c k = .ok (j', ds) := h
  cases k with
  | groundTruth sample =>
    obtain ⟨r, hr, e⟩ := map_ok h
    unfold acceptGroundTruth at hr
    split at hr
    · cases hr
    · split at hr
      · cases hr
      · rename_i hrun hts
        cases hr
        cases e
        exact .groundTruth sample (not_not.mp hrun) (lt_of_any_false hts)
  | vehicleStatus sample =>
    obtain ⟨r, hr, e⟩ := map_ok h
    unfold acceptVehicleStatus at hr
    split at hr
    · cases hr
    · split at hr
      · cases hr
      · rename_i hrun hts
        cases hr
        cases e
        refine .vehicleStatus sample (not_not.mp hrun) fun s hs => ?_
        rw [hs] at hts
        simpa using hts
  | payloadState sample =>
    obtain ⟨r, hr, e⟩ := map_ok h
    unfold acceptPayloadState at hr
    split at hr
    · cases hr
    · split at hr
      · cases hr
      · rename_i hrun hts
        cases hr
        cases e
        exact .payloadState sample (not_not.mp hrun) (lt_of_any_false hts)
  | payloadEvent sample =>
    obtain ⟨r, hr, e⟩ := map_ok h
    unfold acceptPayloadEvent at hr
    split at hr
    · cases hr
    · rename_i hrun
      cases hr
      cases e
      exact .payloadEvent sample (not_not.mp hrun)
  | missionEvent event => exact missionEvent_spec h
  | missingEvidence event => exact missingEvidence_spec h

theorem accepts_groundTruth {sample : GroundTruthSample}
    (h : Accepts c j (.groundTruth sample) ds j') :
    j' = j.advance c sample ∧ ∀ t, j.truth = some t → t.simTimestampNs < sample.simTimestampNs := by
  cases accepts_spec h with
  | groundTruth _ _ hts => exact ⟨rfl, hts⟩
  | ignored _ event hk => cases hk
  | repeated _ event hk => cases hk
  | refused _ event hk => cases hk

theorem accepts_vehicleStatus {sample : VehicleStatusSample}
    (h : Accepts c j (.vehicleStatus sample) ds j') : j' = j.noteStatus c sample := by
  cases accepts_spec h with
  | vehicleStatus => rfl
  | ignored _ event hk => cases hk
  | repeated _ event hk => cases hk
  | refused _ event hk => cases hk

theorem accepts_payloadState {sample : PayloadStateSample}
    (h : Accepts c j (.payloadState sample) ds j') : j' = j.notePayload sample := by
  cases accepts_spec h with
  | payloadState => rfl
  | ignored _ event hk => cases hk
  | repeated _ event hk => cases hk
  | refused _ event hk => cases hk

theorem accepts_payloadEvent {sample : PayloadEventSample}
    (h : Accepts c j (.payloadEvent sample) ds j') : j' = j := by
  cases accepts_spec h with
  | payloadEvent => rfl
  | ignored => rfl
  | repeated => rfl
  | refused _ event hk => cases hk

/-- A sample is answered without a decision. -/
theorem decisions_of_sample {k : Call} (h : Accepts c j k ds j') (hk : eventOf k = none) :
    ds = [] := by
  cases accepts_spec h with
  | repeated _ event hk' => rw [hk] at hk'; cases hk'
  | refused _ event hk' => rw [hk] at hk'; cases hk'
  | approved => cases hk
  | _ => rfl

/-! ## 4. What a call leaves alone -/

/-- What the judge has seen of the flight is the same. -/
structure SameEvidence (j j' : VfsJudge) : Prop where
  truth : j'.truth = j.truth
  status : j'.status = j.status
  payloads : j'.payloads = j.payloads
  payloadGroundedSince : j'.payloadGroundedSince = j.payloadGroundedSince
  startedAtNs : j'.startedAtNs = j.startedAtNs
  phase : j'.phase = j.phase
  terminalFailureReason : j'.terminalFailureReason = j.terminalFailureReason
  takeoffCount : j'.takeoffCount = j.takeoffCount
  fm2Airborne : j'.fm2Airborne = j.fm2Airborne
  legPeakAglM : j'.legPeakAglM = j.legPeakAglM

theorem SameEvidence.refl (j : VfsJudge) : SameEvidence j j :=
  ⟨rfl, rfl, rfl, rfl, rfl, rfl, rfl, rfl, rfl, rfl⟩

/-- **A request, however it is answered, leaves the evidence alone.** -/
theorem sameEvidence_of_request {k : Call} (h : Accepts c j k ds j') (hk : eventOf k = some event)
    (hs : event.state = "CHECK_REQUESTED") : SameEvidence j j' := by
  cases accepts_spec h with
  | groundTruth => cases hk
  | vehicleStatus => cases hk
  | payloadState => cases hk
  | payloadEvent => cases hk
  | started event' hrun hstart =>
    cases hk
    simp [MissionEventSample.startsPhase, hs] at hstart
  | ignored => exact .refl j
  | repeated => exact .refl j
  | refused => exact ⟨rfl, rfl, rfl, rfl, rfl, rfl, rfl, rfl, rfl, rfl⟩
  | approved _ _ _ _ _ _ _ _ _ _ _ i happ =>
    cases happ <;> exact ⟨rfl, rfl, rfl, rfl, rfl, rfl, rfl, rfl, rfl, rfl⟩

/-- Answers, phase, status and payloads are the same: what only the flight moves may differ. -/
structure SameRecord (j j' : VfsJudge) : Prop where
  status : j'.status = j.status
  payloads : j'.payloads = j.payloads
  payloadGroundedSince : j'.payloadGroundedSince = j.payloadGroundedSince
  requests : j'.requests = j.requests
  decisionId : j'.decisionId = j.decisionId
  phase : j'.phase = j.phase
  fm1DApproved : j'.fm1DApproved = j.fm1DApproved
  fm2Approved : j'.fm2Approved = j.fm2Approved
  fm2EligibleIds : j'.fm2EligibleIds = j.fm2EligibleIds

theorem SameRecord.refl (j : VfsJudge) : SameRecord j j :=
  ⟨rfl, rfl, rfl, rfl, rfl, rfl, rfl, rfl, rfl⟩

theorem SameRecord.trans {i : VfsJudge} (h : SameRecord i j) (h' : SameRecord j j') :
    SameRecord i j' where
  status := h'.status.trans h.status
  payloads := h'.payloads.trans h.payloads
  payloadGroundedSince := h'.payloadGroundedSince.trans h.payloadGroundedSince
  requests := h'.requests.trans h.requests
  decisionId := h'.decisionId.trans h.decisionId
  phase := h'.phase.trans h.phase
  fm1DApproved := h'.fm1DApproved.trans h.fm1DApproved
  fm2Approved := h'.fm2Approved.trans h.fm2Approved
  fm2EligibleIds := h'.fm2EligibleIds.trans h.fm2EligibleIds

section Truth

variable (c) (j) (sample : GroundTruthSample)

theorem sameRecord_trackPeak : SameRecord j (j.trackPeak c sample) := by
  unfold trackPeak
  split
  · exact .refl j
  · exact ⟨rfl, rfl, rfl, rfl, rfl, rfl, rfl, rfl, rfl⟩

theorem sameRecord_expireApproval : SameRecord j (j.expireApproval c sample) := by
  unfold expireApproval
  split
  · exact ⟨rfl, rfl, rfl, rfl, rfl, rfl, rfl, rfl, rfl⟩
  · exact .refl j

theorem sameRecord_takeOff : SameRecord j (j.takeOff c sample) := by
  dsimp only [takeOff]
  split
  · exact ⟨rfl, rfl, rfl, rfl, rfl, rfl, rfl, rfl, rfl⟩
  · split
    · exact ⟨rfl, rfl, rfl, rfl, rfl, rfl, rfl, rfl, rfl⟩
    · exact ⟨rfl, rfl, rfl, rfl, rfl, rfl, rfl, rfl, rfl⟩

theorem sameRecord_touchDown : SameRecord j (j.touchDown c sample) := by
  unfold touchDown
  split
  · exact .refl j
  · split
    · exact ⟨rfl, rfl, rfl, rfl, rfl, rfl, rfl, rfl, rfl⟩
    · exact .refl j

theorem sameRecord_changeContact (previous : Option GroundTruthSample) :
    SameRecord j (j.changeContact c previous sample) := by
  unfold changeContact
  split
  · exact .refl j
  · split
    · exact sameRecord_takeOff c j sample
    · split
      · exact sameRecord_touchDown c j sample
      · exact .refl j

theorem sameRecord_enforceDeadline : SameRecord j (j.enforceDeadline c sample) := by
  unfold enforceDeadline
  split
  · cases j.activeSinceNs <;> exact ⟨rfl, rfl, rfl, rfl, rfl, rfl, rfl, rfl, rfl⟩
  · exact .refl j

/-- **An accepted truth moves the flight only.** -/
theorem sameRecord_advance : SameRecord j (j.advance c sample) := by
  have h0 : SameRecord j { j with truth := some sample } :=
    ⟨rfl, rfl, rfl, rfl, rfl, rfl, rfl, rfl, rfl⟩
  have h1 := h0.trans (sameRecord_trackPeak c _ sample)
  have h2 := h1.trans (sameRecord_expireApproval c _ sample)
  have h3 := h2.trans (sameRecord_changeContact c _ sample j.truth)
  have h4 := h3.trans (sameRecord_enforceDeadline c _ sample)
  exact h4.trans ⟨rfl, rfl, rfl, rfl, rfl, rfl, rfl, rfl, rfl⟩

end Truth

/-- An accepted status is stored, and may stop the clock besides. -/
theorem sameRecord_noteStatus (c : JudgeSetup) (j : VfsJudge) (sample : VehicleStatusSample) :
    SameRecord { j with status := some sample } (j.noteStatus c sample) := by
  dsimp only [noteStatus]
  split
  · split
    · exact ⟨rfl, rfl, rfl, rfl, rfl, rfl, rfl, rfl, rfl⟩
    · exact .refl _
  · exact .refl _

/-- A sample changes no answer in store. -/
theorem requests_of_sample {k : Call} (h : Accepts c j k ds j') (hk : eventOf k = none) :
    j'.requests = j.requests := by
  cases accepts_spec h with
  | groundTruth sample => exact (sameRecord_advance c j sample).requests
  | vehicleStatus sample => exact (sameRecord_noteStatus c j sample).requests
  | payloadState => rfl
  | payloadEvent => rfl
  | started => cases hk
  | ignored => rfl
  | repeated => rfl
  | refused _ event hk' => rw [hk] at hk'; cases hk'
  | approved => cases hk

/-- **Only what is answered comes into store.** -/
theorem stored_step {k : Call} (h : Accepts c j k ds j') {d : JudgeDecision} (hd : Stored j' d) :
    Stored j d ∨ d ∈ ds := by
  obtain ⟨id, phase, checkpoint, hd⟩ := hd
  have hsame : j'.requests = j.requests → Stored j d ∨ d ∈ ds := fun e =>
    Or.inl ⟨id, phase, checkpoint, e ▸ hd⟩
  cases accepts_spec h with
  | groundTruth => exact hsame (requests_of_sample h rfl)
  | vehicleStatus => exact hsame (requests_of_sample h rfl)
  | payloadState => exact hsame rfl
  | payloadEvent => exact hsame rfl
  | started => exact hsame rfl
  | ignored => exact hsame rfl
  | repeated => exact hsame rfl
  | refused _ _ _ _ _ _ x _ _ _ _ hreq =>
    rcases hreq _ _ hd with hold | hnew
    · exact Or.inl ⟨id, phase, checkpoint, hold⟩
    · have hdx : d = x := hnew
      exact Or.inr (List.mem_singleton.mpr hdx)
  | approved _ _ _ _ _ _ _ _ _ _ _ i happ x =>
    have hi : i.requests = j.requests := by cases happ <;> rfl
    rcases stored_set _ _ hd with hold | hnew
    · exact Or.inl ⟨id, phase, checkpoint, hi ▸ hold⟩
    · have hdx : d = x := hnew
      exact Or.inr (List.mem_singleton.mpr hdx)

/-- What is in store was answered before. -/
theorem answered_of_stored {ks : List Call} (h : Run (Accepts c) init ks ds j) :
    ∀ d, Stored j d → d ∈ ds := by
  induction h with
  | start =>
    intro d ⟨_, _, _, hd⟩
    cases hd
  | step _ hs ih =>
    intro d hd
    rcases stored_step hs hd with hd | hd
    · exact List.mem_append_left _ (ih d hd)
    · exact List.mem_append_right _ hd

end VfsJudge

end DroneSim
