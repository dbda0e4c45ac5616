/-
  File:      DroneSim/Scorekeeper/RuntimeDeadline.lean
  Subject:   The deadline of the attempt binds every FM3 approval.

  The judge compares the clock with the duration at every truth sample. Between two truths a
  status or an FM2 approval may stop the clock later than the truth; in a runtime both carry the
  timestamp of the current truth, so the elapsed time stays what the deadline was checked for
  (`WithinDeadline`). A recorded failure is never taken back, and it refuses every new FM3
  request; a repeated request gets the decision of before the failure, also an approval.
-/
import DroneSim.Scorekeeper.JudgeRequests
import DroneSim.Scorekeeper.RuntimeChecks

namespace DroneSim

open Library
open VfsJudge (Call Accepts Stored)

namespace VfsJudge

variable {c : JudgeSetup} {j j' : VfsJudge} {ks : List Call} {ds : List JudgeDecision}

/-! ## 1. A recorded failure stays -/

theorem terminal_changeContact (previous : Option GroundTruthSample) (sample : GroundTruthSample) :
    (j.changeContact c previous sample).terminalFailureReason = j.terminalFailureReason := by
  dsimp only [changeContact, takeOff, touchDown]
  repeat' split
  all_goals rfl

theorem terminal_trackPeak (sample : GroundTruthSample) :
    (j.trackPeak c sample).terminalFailureReason = j.terminalFailureReason := by
  unfold trackPeak
  split <;> rfl

theorem terminal_expireApproval (sample : GroundTruthSample) (h : j.terminalFailureReason ≠ none) :
    (j.expireApproval c sample).terminalFailureReason ≠ none := by
  unfold expireApproval
  split
  · exact Option.some_ne_none _
  · exact h

theorem terminal_enforceDeadline (sample : GroundTruthSample)
    (h : j.terminalFailureReason ≠ none) :
    (j.enforceDeadline c sample).terminalFailureReason ≠ none := by
  unfold enforceDeadline
  split
  · exact Option.some_ne_none _
  · exact h

theorem terminal_advance (sample : GroundTruthSample) (h : j.terminalFailureReason ≠ none) :
    (j.advance c sample).terminalFailureReason ≠ none := by
  refine terminal_enforceDeadline sample ?_
  rw [terminal_changeContact]
  refine terminal_expireApproval sample ?_
  rw [terminal_trackPeak]
  exact h

theorem terminal_noteStatus (sample : VehicleStatusSample) :
    (j.noteStatus c sample).terminalFailureReason = j.terminalFailureReason := by
  dsimp only [noteStatus]
  split
  · split <;> rfl
  · rfl

/-- **A recorded failure is never taken back.** -/
theorem terminal_step {k : Call} (h : Accepts c j k ds j') (hj : j.terminalFailureReason ≠ none) :
    j'.terminalFailureReason ≠ none := by
  cases accepts_spec h with
  | groundTruth sample => exact terminal_advance sample hj
  | vehicleStatus sample =>
    rw [terminal_noteStatus]
    exact hj
  | payloadState => exact hj
  | payloadEvent => exact hj
  | started => exact hj
  | ignored => exact hj
  | repeated => exact hj
  | refused => exact hj
  | approved event hrun hs =>
    rw [(sameEvidence_of_request h rfl hs).terminalFailureReason]
    exact hj

/-- The decision approves FM3. -/
def isFm3Approval (d : JudgeDecision) : Bool := d.phase == "FM3" && d.outcome == .approved

/-- **Where a failure is recorded, an FM3 approval answers a repeated request**, and it is in store
    for that request. -/
theorem fm3_answers {k : Call} (h : Accepts c j k ds j') (hj : j.terminalFailureReason ≠ none) :
    ∀ d ∈ ds, isFm3Approval d = true → ∃ event checkpoint requestId,
      Requests c k event checkpoint requestId ∧
        j.requests.get requestId = some (event.phase, checkpoint, d) := by
  intro x hx happ
  cases accepts_spec h with
  | repeated _ event hk hrun hs checkpoint requestId d hdetail hp =>
    rw [List.mem_singleton.mp hx]
    exact ⟨event, checkpoint, requestId, ⟨hk, hs, hdetail⟩, hp⟩
  | refused _ event hk hrun hs requests d hfm2 ho =>
    rw [List.mem_singleton.mp hx] at happ
    simp [isFm3Approval, ho] at happ
  | approved event hrun hs checkpoint requestId hdetail hp hev reason refs eligible i hi d hd =>
    rw [List.mem_singleton.mp hx] at happ
    cases hi with
    | fm1 hphase => simp [isFm3Approval, hd, hphase] at happ
    | fm2 hphase => simp [isFm3Approval, hd, hphase] at happ
    | fm3 hphase hcp hterm => exact absurd hterm hj
  | _ => exact absurd hx List.not_mem_nil

/-- Where a failure is recorded, no new FM3 approval comes into store. -/
theorem fm3_stored {k : Call} (h : Accepts c j k ds j') (hj : j.terminalFailureReason ≠ none)
    {requestId : String} {x : String × String × JudgeDecision}
    (hx : j'.requests.get requestId = some x) (happ : isFm3Approval x.2.2 = true) :
    j.requests.get requestId = some x := by
  rcases stored_new h hx with hold | ⟨hmem, event, hrequests, hphase⟩
  · exact hold
  · obtain ⟨event', checkpoint, id, hrequests', hstored⟩ := fm3_answers h hj _ hmem happ
    have hevent : event = event' := Option.some.inj (hrequests.delivers.symm.trans hrequests'.delivers)
    subst hevent
    obtain ⟨hcheckpoint, rfl⟩ :=
      Prod.mk.inj (Option.some.inj (hrequests.detail.symm.trans hrequests'.detail))
    rw [hstored, ← hcheckpoint, hphase]

/-! ## 2. The elapsed time within the deadline -/

/-- Without a recorded failure the clock shows no more than the duration, once there is a
    truth. -/
def WithinDeadline (c : JudgeSetup) (j : VfsJudge) : Prop :=
  j.truth ≠ none → j.terminalFailureReason = none → j.activeElapsedNs ≤ c.course.durationNs

/-- **The deadline is checked at every truth.** -/
theorem within_advance (sample : GroundTruthSample) : WithinDeadline c (j.advance c sample) := by
  intro _ hterm
  have hdone : ∀ i : VfsJudge, (i.enforceDeadline c sample).terminalFailureReason = none →
      (i.enforceDeadline c sample).activeElapsedNs ≤ c.course.durationNs := by
    intro i hi
    unfold enforceDeadline at hi ⊢
    split
    · rename_i hlate
      rw [if_pos hlate] at hi
      cases hi
    · rename_i hin
      exact not_lt.mp hin
  exact hdone _ hterm

/-- The elapsed time and the failure decide. -/
theorem WithinDeadline.of_eq (h : WithinDeadline c j) (ht : j'.truth = j.truth)
    (hterm : j'.terminalFailureReason = j.terminalFailureReason)
    (hel : j'.activeElapsedNs = j.activeElapsedNs) : WithinDeadline c j' := by
  intro htruth hnone
  rw [hel]
  exact h (ht ▸ htruth) (hterm ▸ hnone)

/-- A status stamped like the current truth does not move the elapsed time. -/
theorem elapsed_noteStatus {truth : GroundTruthSample} (ht : j.truth = some truth)
    (sample : VehicleStatusSample) (hts : sample.simTimestampNs = truth.simTimestampNs) :
    (j.noteStatus c sample).activeElapsedNs = j.activeElapsedNs := by
  rcases noteStatus_cases (c := c) (j := j) sample with e | ⟨since, truth', hs, ht', _, e⟩
  · exact e.elapsed
  · rw [ht] at ht'
    cases ht'
    have hsince : (j.noteStatus c sample).activeSinceNs = none := by rw [e]
    have hacc : (j.noteStatus c sample).activeAccumulatedNs = j.activeAccumulatedNs +
        max sample.simTimestampNs truth.simTimestampNs - since := by rw [e]
    rw [activeElapsedNs_of_stopped hsince, activeElapsedNs_eq_clockAt ht, hacc, hts]
    unfold clockAt
    rw [hs]
    simp

theorem WithinDeadline.noteStatus (h : WithinDeadline c j) {truth : GroundTruthSample}
    (ht : j.truth = some truth) {sample : VehicleStatusSample}
    (hts : sample.simTimestampNs = truth.simTimestampNs) :
    WithinDeadline c (j.noteStatus c sample) := by
  refine h.of_eq ?_ (terminal_noteStatus sample) (elapsed_noteStatus ht sample hts)
  dsimp only [VfsJudge.noteStatus]
  split
  · split <;> rfl
  · rfl

/-- So does an FM2 approval stamped like the current truth. -/
theorem elapsed_freezeFm2 {truth : GroundTruthSample} (ht : j.truth = some truth) {stamp : ℕ}
    (hts : stamp = truth.simTimestampNs) :
    (j.freezeFm2 c stamp).activeElapsedNs = j.activeElapsedNs := by
  have hsince : (j.freezeFm2 c stamp).activeSinceNs = none := rfl
  rw [activeElapsedNs_of_stopped hsince, activeElapsedNs_eq_clockAt ht, hts]
  unfold clockAt freezeFm2
  cases j.activeSinceNs <;> rfl

end VfsJudge

namespace VfsScorekeeperRuntime

open VfsJudge (isFm3Approval eventOf WithinDeadline Requests)

variable {c : RuntimeSetup} {s s' : VfsScorekeeperRuntime}

/-! ## 3. The deadline in a runtime -/

/-- An epoch leaves the judge within the deadline: its truth is checked, and its status carries
    the timestamp of the truth. -/
theorem within_noteEpoch (c : JudgeSetup) (j : VfsJudge) {truth : GroundTruthSample}
    (payloads : List PayloadStateSample) {status : Option VehicleStatusSample}
    (hst : ∀ st, status = some st → st.simTimestampNs = truth.simTimestampNs) :
    WithinDeadline c (noteEpoch c j truth payloads status) := by
  obtain ⟨p, g, e⟩ := notePayloads_frame payloads (j.advance c truth)
  have hadv := VfsJudge.within_advance (c := c) (j := j) truth
  have hpay : WithinDeadline c (payloads.foldl VfsJudge.notePayload (j.advance c truth)) := by
    rw [e]
    exact hadv.of_eq rfl rfl rfl
  have htruth : (payloads.foldl VfsJudge.notePayload (j.advance c truth)).truth = some truth := by
    rw [e]
    exact VfsJudge.truth_advance truth
  cases status with
  | none => exact hpay
  | some status => exact hpay.noteStatus htruth (hst status rfl)

/-- A mission event answered by the runtime leaves the judge within the deadline. -/
theorem within_answer (hep : EpochTruth s) (h : WithinDeadline c.judge s.judge)
    {event : MissionEventSample} {missing : Bool}
    (hwhy : missing = false → event.state ≠ "CHECK_REQUESTED" ∨
      requestDetail c.judge.loads event.detail = none ∨ s.epochReady event = true)
    (hs : s.acceptMissionEventNow c event missing = .ok s') :
    WithinDeadline c.judge s'.judge := by
  obtain ⟨j, ds, scorer, hj, rfl⟩ := answer_spec hs
  have hevent : eventOf (answerCall event missing) = some event := by
    unfold answerCall
    split <;> rfl
  generalize hk : answerCall event missing = k at *
  cases VfsJudge.accepts_spec hj with
  | groundTruth => cases hevent
  | vehicleStatus => cases hevent
  | payloadState => cases hevent
  | payloadEvent => cases hevent
  | started => exact h.of_eq rfl rfl rfl
  | ignored => exact h
  | repeated => exact h
  | refused => exact h.of_eq rfl rfl rfl
  | approved event' hrun hstate checkpoint requestId hdetail hp hev reason refs eligible i happ d hd =>
    cases hevent
    cases happ with
    | fm1 => exact h.of_eq rfl rfl rfl
    | fm3 => exact h.of_eq rfl rfl rfl
    | fm2 hphase hcp hmet =>
      have hready : s.epochReady event = true := by
        cases missing with
        | true => cases hk
        | false =>
          rcases hwhy rfl with hw | hw | hw
          · exact absurd hstate hw
          · rw [hdetail] at hw
            cases hw
          · exact hw
      obtain ⟨t, ht, hts⟩ := (exactEvidence_of_approval hep hready hev
        (.fm2 hphase hcp hmet) (d := d) (by rw [hd]) (by rw [hd])).truth
      refine h.of_eq rfl rfl ?_
      have hstamp : event.simTimestampNs = t.simTimestampNs := by
        rw [hts, hd]
      exact VfsJudge.elapsed_freezeFm2 (c := c.judge) ht hstamp

/-- The judge is within the deadline, and every published approval of FM3 was. -/
structure DeadlineInv (c : RuntimeSetup) (s : VfsScorekeeperRuntime) : Prop where
  checks : CheckInv c s
  within : WithinDeadline c.judge s.judge
  stored : ∀ d, Stored s.judge d → isFm3Approval d = true →
    d.activeElapsedNs ≤ c.judge.course.durationNs
  published : ∀ event d, Effect.decided event d ∈ s.log → isFm3Approval d = true →
    d.activeElapsedNs ≤ c.judge.course.durationNs
  answered : ∀ event d, Effect.decided event d ∈ s.log →
    ∃ k ds, Effect.called k ds ∈ s.log ∧ d ∈ ds ∧ eventOf k = some event

/-- What the judge answers to a mission event within the deadline is. -/
theorem fm3_within_answer {j : VfsJudge} {event : MissionEventSample} {k : Call}
    {ds : List JudgeDecision} (h : DeadlineInv c s) (hk : eventOf k = some event)
    (hj : Accepts c.judge s.judge k ds j) :
    ∀ d ∈ ds, isFm3Approval d = true → d.activeElapsedNs ≤ c.judge.course.durationNs := by
  intro x hx happ
  cases VfsJudge.accepts_spec hj with
  | repeated _ event' hk' hrun hs checkpoint requestId d hdetail hp =>
    rw [List.mem_singleton.mp hx] at happ ⊢
    exact h.stored d ⟨requestId, event'.phase, checkpoint, hp⟩ happ
  | refused _ event' hk' hrun hs requests d hfm2 ho =>
    rw [List.mem_singleton.mp hx] at happ
    simp [isFm3Approval, ho] at happ
  | approved event' hrun hs checkpoint requestId hdetail hp hev reason refs eligible i hi d hd =>
    rw [List.mem_singleton.mp hx] at happ ⊢
    cases hi with
    | fm1 hphase => simp [isFm3Approval, hd, hphase] at happ
    | fm2 hphase => simp [isFm3Approval, hd, hphase] at happ
    | fm3 hphase hcp hterm =>
      obtain ⟨t, ht, _⟩ := VfsJudge.truth_le_of_evidenceCurrent hev
      have hsome : s.judge.truth ≠ none := by
        rw [ht]
        exact Option.some_ne_none _
      rw [hd]
      exact h.within hsome hterm
  | _ => exact absurd hx List.not_mem_nil

theorem deadlineInv_answer {event : MissionEventSample} {missing : Bool} (h : DeadlineInv c s)
    (hm : Move c s s')
    (hwhy : missing = false → event.state ≠ "CHECK_REQUESTED" ∨
      requestDetail c.judge.loads event.detail = none ∨ s.epochReady event = true)
    (hs : s.acceptMissionEventNow c event missing = .ok s') : DeadlineInv c s' := by
  have hwithin := within_answer h.checks.epoch h.within hwhy hs
  have hchecks := checkInv_move h.checks hm
  obtain ⟨j, ds, scorer, hj, rfl⟩ := answer_spec hs
  have hk : eventOf (answerCall event missing) = some event := by
    unfold answerCall
    split <;> rfl
  have hds := fm3_within_answer h hk hj
  refine ⟨hchecks, hwithin, fun d hd happ => ?_, fun e d hd happ => ?_, fun e d hd => ?_⟩
  · rcases VfsJudge.stored_step hj hd with hd | hd
    · exact h.stored d hd happ
    · exact hds d hd happ
  · rcases List.mem_append.mp hd with hd | hd
    · exact h.published e d hd happ
    · have hmem : e = event ∧ d ∈ ds := by
        simpa [eq_comm, and_comm] using hd
      exact hds d hmem.2 happ
  · rcases List.mem_append.mp hd with hd | hd
    · obtain ⟨k, ds', hmem, hrest⟩ := h.answered e d hd
      exact ⟨k, ds', List.mem_append_left _ hmem, hrest⟩
    · have hmem : e = event ∧ d ∈ ds := by
        simpa [eq_comm, and_comm] using hd
      exact ⟨answerCall event missing, ds, by simp, hmem.2, hmem.1 ▸ hk⟩

/-- Where the log grows without a decision and the store stays, only the clock is to be
    checked. -/
theorem DeadlineInv.of_frame (h : DeadlineInv c s) (hchecks : CheckInv c s')
    (hwithin : WithinDeadline c.judge s'.judge) (log' : List Effect)
    (hlog : s'.log = s.log ++ log') (hquiet : ∀ event d, Effect.decided event d ∉ log')
    (hreq : s'.judge.requests = s.judge.requests) : DeadlineInv c s' := by
  have hold : ∀ event d, Effect.decided event d ∈ s'.log → Effect.decided event d ∈ s.log := by
    intro event d hd
    rw [hlog] at hd
    exact (List.mem_append.mp hd).resolve_right (hquiet event d)
  refine ⟨hchecks, hwithin, fun d ⟨id, phase, cp, hd⟩ happ => ?_,
    fun event d hd happ => h.published event d (hold event d hd) happ, fun event d hd => ?_⟩
  · exact h.stored d ⟨id, phase, cp, hreq ▸ hd⟩ happ
  · obtain ⟨k, ds, hmem, hrest⟩ := h.answered event d (hold event d hd)
    exact ⟨k, ds, hlog ▸ List.mem_append_left _ hmem, hrest⟩

theorem deadlineInv_move (h : DeadlineInv c s) (hm : Move c s s') : DeadlineInv c s' := by
  have hchecks := checkInv_move h.checks hm
  cases hm with
  | receive i hi => cases i <;> exact ⟨hchecks, h.within, h.stored, h.published, h.answered⟩
  | inner hm =>
    cases hm with
    | payloadEvent _ sample hs =>
      obtain ⟨j, ds, hj, rfl⟩ := acceptPayloadEvent_spec hs
      have hframe : j = s.judge := VfsJudge.accepts_payloadEvent hj
      refine h.of_frame hchecks ?_ _ rfl (fun e d hd => ?_) (VfsJudge.requests_of_sample hj rfl)
      · rw [hframe]
        exact h.within
      · simp at hd
    | queue => exact ⟨hchecks, h.within, h.stored, h.published, h.answered⟩
    | answer _ event hwhy hs =>
      exact deadlineInv_answer h (.inner (.answer _ _ event hwhy hs)) (fun _ => hwhy) hs
    | expire _ event hready hs hmem =>
      exact deadlineInv_answer h (.inner (.expire _ _ event hready hs hmem)) Bool.noConfusion hs
    | resolved => exact ⟨hchecks, h.within, h.stored, h.published, h.answered⟩
    | join _ timestampNs hn hs =>
      obtain ⟨truth, payloads, t, ht, _, ⟨j, g, v, p, hj, rfl⟩, rfl⟩ := joinEpoch_spec hs
      have hjudge := judge_of_epoch hj
      refine h.of_frame hchecks ?_ (silent _ ++ [_]) (List.append_assoc _ _ _) (fun e d hd => ?_) ?_
      · show WithinDeadline c.judge j
        rw [hjudge]
        refine within_noteEpoch c.judge _ _ fun st hst => ?_
        rw [h.checks.keyed.status _ _ hst, h.checks.keyed.truth _ _ ht]
      · rcases List.mem_append.mp hd with hd | hd
        · obtain ⟨k, _, hk⟩ := List.mem_map.mp hd
          cases hk
        · simp at hd
      · show j.requests = s.judge.requests
        rw [hjudge]
        exact requests_noteEpoch _ _ _ _ _

theorem deadlineInv_run {scorer : Option VfsScorer} {is : List Input}
    (h : run c scorer is = .ok s) : DeadlineInv c s := by
  refine run_invariant h ⟨⟨.start, keyed_init scorer, rfl, exact_init scorer⟩, ?_, ?_, ?_, ?_⟩
    fun _ _ => deadlineInv_move
  · exact fun htruth => absurd rfl htruth
  · intro d ⟨_, _, _, hd⟩
    cases hd
  · exact fun _ _ hd => absurd hd List.not_mem_nil
  · exact fun _ _ hd => absurd hd List.not_mem_nil

/-- The events are one request: the same id, phase and checkpoint. -/
def SameRequest (c : RuntimeSetup) (event event' : MissionEventSample) : Prop :=
  event'.phase = event.phase ∧ ∃ checkpoint requestId,
    requestDetail c.judge.loads event.detail = some (checkpoint, requestId) ∧
      requestDetail c.judge.loads event'.detail = some (checkpoint, requestId)

/-- The log has a call of the same request that the judge answered with `d`. -/
def AnsweredBefore (c : RuntimeSetup) (log : List Effect) (event : MissionEventSample)
    (d : JudgeDecision) : Prop :=
  ∃ k ds event', Effect.called k ds ∈ log ∧ d ∈ ds ∧ eventOf k = some event' ∧
    SameRequest c event event'

/-- What is in store after a log was answered in it, to a request of its id, phase and
    checkpoint. -/
theorem answered_of_replays {log : List Effect} {ds : List JudgeDecision} {j : VfsJudge}
    (h : Run (Replays c) VfsJudge.init log ds j) {requestId : String}
    {x : String × String × JudgeDecision} (hx : j.requests.get requestId = some x) :
    ∃ k ds event, Effect.called k ds ∈ log ∧ x.2.2 ∈ ds ∧
      Requests c.judge k event x.2.1 requestId ∧ event.phase = x.1 := by
  induction h with
  | start => cases hx
  | @step log os i e o i' h hs ih =>
    have hold : i.requests.get requestId = some x → ∃ k ds event,
        Effect.called k ds ∈ log ++ [e] ∧ x.2.2 ∈ ds ∧
          Requests c.judge k event x.2.1 requestId ∧ event.phase = x.1 := fun hx => by
      obtain ⟨k, ds, event, hmem, hrest⟩ := ih hx
      exact ⟨k, ds, event, List.mem_append_left [e] hmem, hrest⟩
    cases e with
    | called k ds =>
      rcases VfsJudge.stored_new hs.2 hx with hx | ⟨hmem, event, hrequests, hphase⟩
      · exact hold hx
      · exact ⟨k, ds, event, by simp, hmem, hrequests, hphase⟩
    | _ =>
      obtain ⟨-, rfl⟩ := hs
      exact hold hx

/-- **From a recorded failure on, an FM3 approval answers a request of before the failure.** -/
theorem fm3_replays {log : List Effect} {ds : List JudgeDecision} {j j' : VfsJudge}
    (h : Run (Replays c) j log ds j') (hj : j.terminalFailureReason ≠ none) :
    ∀ k es, Effect.called k es ∈ log → ∀ d ∈ es, isFm3Approval d = true →
      ∃ event checkpoint requestId, Requests c.judge k event checkpoint requestId ∧
        j.requests.get requestId = some (event.phase, checkpoint, d) := by
  have hall : j'.terminalFailureReason ≠ none ∧
      (∀ requestId x, j'.requests.get requestId = some x → isFm3Approval x.2.2 = true →
        j.requests.get requestId = some x) ∧
      ∀ k es, Effect.called k es ∈ log → ∀ d ∈ es, isFm3Approval d = true →
        ∃ event checkpoint requestId, Requests c.judge k event checkpoint requestId ∧
          j.requests.get requestId = some (event.phase, checkpoint, d) := by
    induction h with
    | start => exact ⟨hj, fun _ _ hx _ => hx, fun _ _ hmem => absurd hmem List.not_mem_nil⟩
    | @step log os i e o i' _ hs ih =>
      obtain ⟨hterm, hstored, hanswered⟩ := ih
      cases e with
      | called k ds =>
        refine ⟨VfsJudge.terminal_step hs.2 hterm, fun requestId x hx happ =>
          hstored _ _ (VfsJudge.fm3_stored hs.2 hterm hx happ) happ, fun k' es hmem d hd happ => ?_⟩
        rcases List.mem_append.mp hmem with hmem | hmem
        · exact hanswered k' es hmem d hd happ
        · obtain ⟨rfl, rfl⟩ := Effect.called.inj (List.mem_singleton.mp hmem)
          obtain ⟨event, checkpoint, requestId, hrequests, hget⟩ :=
            VfsJudge.fm3_answers hs.2 hterm d hd happ
          exact ⟨event, checkpoint, requestId, hrequests, hstored _ _ hget happ⟩
      | _ =>
        obtain ⟨-, rfl⟩ := hs
        refine ⟨hterm, hstored, fun k es hmem => hanswered k es ?_⟩
        simpa using hmem
  exact hall.2.2

/-- **The deadline is binding**: a published FM3 approval is within the duration, and once the
    judge has recorded a failure, an FM3 approval that is answered or published repeats what the
    judge answered to the same request before. -/
structure BoundByDeadline (c : RuntimeSetup) (s : VfsScorekeeperRuntime) : Prop where
  within : ∀ event d, Effect.decided event d ∈ s.log → isFm3Approval d = true →
    d.activeElapsedNs ≤ c.judge.course.durationNs
  failed : ∀ before after j, s.log = before ++ after →
    Run (Accepts c.judge) VfsJudge.init (judgeCalls before) (judgeAnswers before) j →
    j.terminalFailureReason ≠ none → ∀ d, isFm3Approval d = true →
      (∀ k ds, Effect.called k ds ∈ after → d ∈ ds →
        ∃ event, eventOf k = some event ∧ AnsweredBefore c before event d) ∧
      ∀ event, Effect.decided event d ∈ after → AnsweredBefore c before event d

/-- **The deadline is binding in every run.** -/
theorem fm3_bound_by_deadline (c : RuntimeSetup) (scorer : Option VfsScorer) (is : List Input)
    (s : VfsScorekeeperRuntime) (h : run c scorer is = .ok s) : BoundByDeadline c s := by
  have hinv := deadlineInv_run h
  refine ⟨hinv.published, fun before after j hlog hrun hterm d happ => ?_⟩
  have hall := hinv.checks.replayed
  unfold Replayed at hall
  rw [hlog] at hall
  obtain ⟨t, os₁, os₂, hos, h₁, h₂⟩ := hall.split
  obtain ⟨rfl, rfl⟩ := run_unique (calls_of_replays h₁) hrun
  have hcalled : ∀ k ds, Effect.called k ds ∈ after → d ∈ ds →
      ∃ event, eventOf k = some event ∧ AnsweredBefore c before event d := by
    intro k ds hmem hd
    obtain ⟨event, checkpoint, requestId, hrequests, hget⟩ := fm3_replays h₂ hterm k ds hmem d hd happ
    obtain ⟨k', ds', event', hmem', hd', hrequests', hphase⟩ := answered_of_replays h₁ hget
    exact ⟨event, hrequests.delivers, k', ds', event', hmem', hd', hrequests'.delivers, hphase,
      checkpoint, requestId, hrequests.detail, hrequests'.detail⟩
  refine ⟨hcalled, fun event hd => ?_⟩
  have hd : Effect.decided event d ∈ s.log := hlog ▸ List.mem_append_right _ hd
  obtain ⟨k, ds, hmem, hd', hk⟩ := hinv.answered event d hd
  rw [hlog, List.mem_append] at hmem
  rcases hmem with hmem | hmem
  · -- the call is the request itself, its decision is published later
    have hout : d.outcome = .approved := by
      simp only [isFm3Approval, Bool.and_eq_true, beq_iff_eq] at happ
      exact happ.2
    obtain ⟨checkpoint, requestId, hdetail, -⟩ := hinv.checks.exact.published event d hd hout
    exact ⟨k, ds, event, hmem, hd', hk, rfl, checkpoint, requestId, hdetail, hdetail⟩
  · obtain ⟨event', hk', hbefore⟩ := hcalled k ds hmem hd'
    rw [hk] at hk'
    exact Option.some.inj hk' ▸ hbefore

section Repeated

open Sample2027

/-- FM2 is approved without any payload in its circle, FM3 right after it. -/
def fm3Inputs : List Input :=
  homeEpoch (ms 100) 0 ++ [Input.missionEvent (checkAt (ms 100) 0 "FM2" "" "a"),
    .missionEvent (startedAt (ms 100) 1 "FM3"), .missionEvent (checkAt (ms 100) 2 "FM3" "" "b")]

/-- 61 seconds later the approval has expired. -/
def fm3ExpiredInputs : List Input := fm3Inputs ++ homeEpoch (ms 61100) 1

/-- The FM3 approval of `fm3Inputs` is within the deadline. -/
theorem fm3_bound_by_deadline_fm3 : ∃ s,
    run (runtime2027 [("", "a"), ("", "b")]) (some .init) fm3Inputs = .ok s ∧
    (judgeAnswers s.log).any isFm3Approval = true ∧
    BoundByDeadline (runtime2027 [("", "a"), ("", "b")]) s := by
  have hrun : ∃ s, run (runtime2027 [("", "a"), ("", "b")]) (some .init) fm3Inputs = .ok s ∧
      (judgeAnswers s.log).any isFm3Approval = true :=
    exists_ok (p := fun (s : VfsScorekeeperRuntime) => (judgeAnswers s.log).any isFm3Approval) (by decide +kernel)
  obtain ⟨s, hs, happ⟩ := hrun
  exact ⟨s, hs, happ, fm3_bound_by_deadline _ _ _ s hs⟩

/-- A repeated FM3 request is answered with its approval, also after the failure. -/
theorem fm3_approval_repeated_after_failure :
    ¬ ∀ is s, run (runtime2027 [("", "a"), ("", "b")]) (some .init) is = .ok s →
      (∀ event d, Effect.decided event d ∈ s.log → isFm3Approval d = true →
        d.activeElapsedNs ≤ course2027.durationNs) ∧
      ∀ before after j, s.log = before ++ after →
        Run (Accepts (setup2027 [("", "a"), ("", "b")])) VfsJudge.init (judgeCalls before)
          (judgeAnswers before) j →
        j.terminalFailureReason ≠ none → ∀ d ∈ judgeAnswers after,
          isFm3Approval d = false := by
  intro hclaim
  have hfailed : ∃ s, run (runtime2027 [("", "a"), ("", "b")]) (some .init) fm3ExpiredInputs =
      .ok s ∧ (s.judge.terminalFailureReason.isSome &&
        (judgeAnswers s.log).countP isFm3Approval == 1) = true :=
    exists_ok (p := fun (s : VfsScorekeeperRuntime) => s.judge.terminalFailureReason.isSome &&
      (judgeAnswers s.log).countP isFm3Approval == 1) (by decide +kernel)
  have hrepeated : ∃ s, run (runtime2027 [("", "a"), ("", "b")]) (some .init)
      (fm3ExpiredInputs ++ [Input.missionEvent (checkAt (ms 61100) 3 "FM3" "" "b")]) = .ok s ∧
      ((judgeAnswers s.log).countP isFm3Approval == 2) = true :=
    exists_ok (p := fun (s : VfsScorekeeperRuntime) => (judgeAnswers s.log).countP isFm3Approval == 2)
      (by decide +kernel)
  obtain ⟨s, hs, hp⟩ := hfailed
  obtain ⟨s', hs', hp'⟩ := hrepeated
  obtain ⟨t, ht, hstep⟩ := foldlM_snoc.mp hs'
  obtain rfl : t = s := Except.ok.inj (ht.symm.trans hs)
  obtain ⟨after, hafter⟩ := Moves.log_prefix (accept_moves hstep)
  rw [Bool.and_eq_true, beq_iff_eq] at hp
  rw [beq_iff_eq, hafter, judgeAnswers_append, List.countP_append, hp.2] at hp'
  -- the second approval was answered after the failure
  have hpos : 0 < (judgeAnswers after).countP isFm3Approval := by omega
  obtain ⟨d, hd, happ⟩ := List.countP_pos_iff.mp hpos
  have hno := (hclaim _ s' hs').2 t.log after t.judge hafter (calls_of_replays (replayed_run hs))
    (by simpa [Option.isSome_iff_ne_none] using hp.1) d hd
  rw [happ] at hno
  cases hno

end Repeated

end VfsScorekeeperRuntime

end DroneSim
