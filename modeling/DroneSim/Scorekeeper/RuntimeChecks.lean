/-
  File:      DroneSim/Scorekeeper/RuntimeChecks.lean
  Subject:   Checks are decided on exact evidence.

  The log of a runtime is a run of the judge (`Logged`), so a decision in it can be traced to the
  judge state it was taken in (`TakenIn`). The judge's truth is the epoch joined last, and the
  runtime asks the judge only once the epoch of a check was joined; the judge itself accepts no
  later truth than the check. Both together leave the truth stamped exactly like the check.

  * `CheckInv` -- the invariants of every run;
  * `approved_on_exact_evidence` -- every published approval was taken on exact evidence.
-/
import DroneSim.Scorekeeper.RuntimeMoves
import DroneSim.Scorekeeper.JudgeFm2

namespace DroneSim

open Library
open VfsJudge (Call Accepts Stored lastTruth)

namespace VfsScorekeeperRuntime

variable {c : RuntimeSetup} {s s' : VfsScorekeeperRuntime} {log : List Effect}

/-! ## 1. The log as a run of the judge -/

/-- The calls on the judge. -/
def judgeCalls (log : List Effect) : List Call :=
  log.filterMap fun e => match e with
    | .called k _ => some k
    | _ => none

/-- What the judge answered. -/
def judgeAnswers (log : List Effect) : List JudgeDecision :=
  log.flatMap fun e => match e with
    | .called _ ds => ds
    | _ => []

@[simp] theorem judgeCalls_append (log log' : List Effect) :
    judgeCalls (log ++ log') = judgeCalls log ++ judgeCalls log' := List.filterMap_append

@[simp] theorem judgeAnswers_append (log log' : List Effect) :
    judgeAnswers (log ++ log') = judgeAnswers log ++ judgeAnswers log' := List.flatMap_append

@[simp] theorem judgeCalls_called (k : Call) (ds : List JudgeDecision) (log : List Effect) :
    judgeCalls (.called k ds :: log) = k :: judgeCalls log := rfl

@[simp] theorem judgeAnswers_called (k : Call) (ds : List JudgeDecision) (log : List Effect) :
    judgeAnswers (.called k ds :: log) = ds ++ judgeAnswers log := rfl

@[simp] theorem judgeCalls_decided (event : MissionEventSample) (ds : List JudgeDecision) :
    judgeCalls (ds.map (.decided event)) = [] := by
  induction ds with
  | nil => rfl
  | cons d ds ih => exact ih

@[simp] theorem judgeAnswers_decided (event : MissionEventSample) (ds : List JudgeDecision) :
    judgeAnswers (ds.map (.decided event)) = [] := by
  induction ds with
  | nil => rfl
  | cons d ds ih => exact ih

@[simp] theorem judgeCalls_attempted (status : AttemptStatus) :
    judgeCalls [.attempted status] = [] := rfl

@[simp] theorem judgeAnswers_attempted (status : AttemptStatus) :
    judgeAnswers [.attempted status] = [] := rfl

@[simp] theorem judgeCalls_silent (ks : List Call) : judgeCalls (silent ks) = ks := by
  induction ks with
  | nil => rfl
  | cons k ks ih => exact congrArg (k :: ·) ih

@[simp] theorem judgeAnswers_silent (ks : List Call) : judgeAnswers (silent ks) = [] := by
  induction ks with
  | nil => rfl
  | cons k ks ih => exact ih

/-- **The log shows a run of the judge**, which ends in its current state. -/
def Logged (c : RuntimeSetup) (s : VfsScorekeeperRuntime) : Prop :=
  Run (Accepts c.judge) VfsJudge.init (judgeCalls s.log) (judgeAnswers s.log) s.judge

/-- The judge over one entry of the log: a call moves it, other entries leave it. -/
def Replays (c : RuntimeSetup) (j : VfsJudge) (e : Effect) (ds : List JudgeDecision)
    (j' : VfsJudge) : Prop :=
  match e with
  | .called k ds' => ds = ds' ∧ Accepts c.judge j k ds' j'
  | _ => ds = [] ∧ j' = j

/-- The log entry by entry leads the judge to its current state. -/
def Replayed (c : RuntimeSetup) (s : VfsScorekeeperRuntime) : Prop :=
  Run (Replays c) VfsJudge.init s.log (judgeAnswers s.log) s.judge

theorem calls_of_replays {ds : List JudgeDecision} {j j' : VfsJudge}
    (h : Run (Replays c) j log ds j') : Run (Accepts c.judge) j (judgeCalls log) ds j' := by
  induction h with
  | start => exact .start
  | @step _ _ _ e _ _ _ hs ih =>
    rw [judgeCalls_append]
    cases e with
    | called k ds =>
      obtain ⟨rfl, hs⟩ := hs
      exact ih.step hs
    | _ =>
      obtain ⟨rfl, rfl⟩ := hs
      simpa [judgeCalls] using ih

theorem replays_silent {ks : List Call} {ds : List JudgeDecision} {j j' : VfsJudge}
    (h : Run (Accepts c.judge) j ks ds j') (hds : ds = []) : Run (Replays c) j (silent ks) [] j' := by
  induction h with
  | start => exact .start
  | step _ hs ih =>
    obtain ⟨hold, rfl⟩ := List.append_eq_nil_iff.mp hds
    rw [silent, List.map_append]
    exact (ih hold).step ⟨rfl, hs⟩

theorem replays_decided (event : MissionEventSample) (ds : List JudgeDecision) (j : VfsJudge) :
    Run (Replays c) j (ds.map (.decided event)) [] j := by
  induction ds with
  | nil => exact .start
  | cons d ds ih => exact (Run.single (i := Effect.decided event d) ⟨rfl, rfl⟩).append ih

theorem replayed_answer {event : MissionEventSample} {missing : Bool} (h : Replayed c s)
    (hs : s.acceptMissionEventNow c event missing = .ok s') : Replayed c s' := by
  obtain ⟨j, ds, scorer, hj, rfl⟩ := answer_spec hs
  have hcalled : Run (Replays c) VfsJudge.init
      (s.log ++ [Effect.called (answerCall event missing) ds]) (judgeAnswers s.log ++ ds) j :=
    Run.step h ⟨rfl, hj⟩
  have hrun := hcalled.append (replays_decided event ds j)
  simpa [Replayed] using hrun

theorem replayed_move (h : Replayed c s) (hm : Move c s s') : Replayed c s' := by
  cases hm with
  | receive i hi => cases i <;> exact h
  | inner hm =>
    cases hm with
    | payloadEvent _ sample hs =>
      obtain ⟨j, ds, hj, rfl⟩ := acceptPayloadEvent_spec hs
      have hrun := Run.step (i := Effect.called (.payloadEvent sample) ds) h ⟨rfl, hj⟩
      simpa [Replayed, judgeAnswers] using hrun
    | queue => exact h
    | answer _ event hwhy hs => exact replayed_answer h hs
    | expire _ event hready hs => exact replayed_answer h hs
    | resolved => exact h
    | join _ timestampNs hn hs =>
      obtain ⟨truth, payloads, t, _, _, ⟨j, g, v, p, hj, rfl⟩, rfl⟩ := joinEpoch_spec hs
      have hrun := (Run.append h (replays_silent hj rfl)).step
        (i := Effect.attempted (j.attemptStatus c.judge)) ⟨rfl, rfl⟩
      simpa [Replayed, closeEpoch, withoutEpoch, takeEpoch, takeStatus] using hrun

/-- **After every run the log shows the judge's history.** -/
theorem replayed_run {scorer : Option VfsScorer} {is : List Input} (h : run c scorer is = .ok s) :
    Replayed c s :=
  run_invariant h .start fun _ _ => replayed_move

/-! ## 2. The current epoch -/

/-- Buffered samples lie under their own timestamp. -/
structure Keyed (s : VfsScorekeeperRuntime) : Prop where
  truth : ∀ t sample, s.groundTruthBuffer.get t = some sample → sample.simTimestampNs = t
  status : ∀ t sample, s.vehicleStatusBuffer.get t = some sample → sample.simTimestampNs = t

theorem keyed_init (scorer : Option VfsScorer) : Keyed (init scorer) where
  truth _ _ h := by cases h
  status _ _ h := by cases h

/-- A dictionary keyed by a field of its values stays so. -/
theorem keyed_set {α : Type} {d : Dict ℕ α} {f : α → ℕ} (h : ∀ t a, d.get t = some a → f a = t)
    (b : α) : ∀ t a, (d.set (f b) b).get t = some a → f a = t := by
  intro t a ht
  rw [Dict.get_set] at ht
  split at ht
  · rename_i e
    cases ht
    exact e.symm
  · exact h t a ht

theorem keyed_erase {α : Type} {d : Dict ℕ α} {f : α → ℕ} (h : ∀ t a, d.get t = some a → f a = t)
    (k : ℕ) : ∀ t a, (d.erase k).get t = some a → f a = t := by
  intro t a ht
  rw [Dict.get_erase] at ht
  split at ht
  · cases ht
  · exact h t a ht

theorem keyed_move (h : Keyed s) (hm : Move c s s') : Keyed s' := by
  cases hm with
  | receive i hi =>
    cases i with
    | groundTruth sample => exact ⟨keyed_set h.truth sample, h.status⟩
    | vehicleStatus sample => exact ⟨h.truth, keyed_set h.status sample⟩
    | payloadState sample => exact ⟨h.truth, h.status⟩
    | _ => exact h
  | inner hm =>
    cases hm with
    | payloadEvent _ sample hs =>
      obtain ⟨j, ds, hj, rfl⟩ := acceptPayloadEvent_spec hs
      exact ⟨h.truth, h.status⟩
    | queue => exact ⟨h.truth, h.status⟩
    | answer _ event hwhy hs =>
      rw [answer_frame hs]
      exact ⟨h.truth, h.status⟩
    | expire _ event hready hs =>
      rw [answer_frame hs]
      exact ⟨h.truth, h.status⟩
    | resolved => exact ⟨h.truth, h.status⟩
    | join _ timestampNs hn hs =>
      obtain ⟨truth, payloads, t, _, _, ⟨j, g, v, p, hj, rfl⟩, rfl⟩ := joinEpoch_spec hs
      exact ⟨keyed_erase h.truth timestampNs, keyed_erase h.status timestampNs⟩

/-- **The judge's truth is the one of the epoch joined last.** -/
def EpochTruth (s : VfsScorekeeperRuntime) : Prop :=
  s.judge.truth.map GroundTruthSample.simTimestampNs = s.lastEpochTimestampNs

/-- A call that delivers no truth leaves the judge's truth. -/
theorem truth_of_other {j j' : VfsJudge} {k : Call} {ds : List JudgeDecision}
    (h : Accepts c.judge j k ds j') (hk : ∀ sample, k ≠ .groundTruth sample) :
    j'.truth = j.truth := by
  cases VfsJudge.phase_spec h with
  | truth sample e => exact absurd e (hk sample)
  | started event e hs ej =>
    rw [ej]
    rfl
  | same _ _ ht => exact ht

/-- What payload samples do not touch. -/
theorem notePayloads_frame (payloads : List PayloadStateSample) (j : VfsJudge) :
    ∃ p g, payloads.foldl VfsJudge.notePayload j =
      { j with payloads := p, payloadGroundedSince := g } := by
  induction payloads generalizing j with
  | nil => exact ⟨j.payloads, j.payloadGroundedSince, rfl⟩
  | cons sample payloads ih =>
    obtain ⟨p, g, e⟩ := ih (j.notePayload sample)
    exact ⟨p, g, e⟩

/-- The truth after an epoch was handed over. -/
theorem truth_noteEpoch (c : JudgeSetup) (j : VfsJudge) (truth : GroundTruthSample)
    (payloads : List PayloadStateSample) (status : Option VehicleStatusSample) :
    (noteEpoch c j truth payloads status).truth = some truth := by
  obtain ⟨p, g, e⟩ := notePayloads_frame payloads (j.advance c truth)
  unfold noteEpoch
  rw [e]
  have htruth : (j.advance c truth).truth = some truth := VfsJudge.truth_advance truth
  cases status with
  | none => exact htruth
  | some status =>
    dsimp only [VfsJudge.noteStatus]
    split
    · split <;> exact htruth
    · exact htruth

/-- An epoch leaves the answers in store. -/
theorem requests_noteEpoch (c : JudgeSetup) (j : VfsJudge) (truth : GroundTruthSample)
    (payloads : List PayloadStateSample) (status : Option VehicleStatusSample) :
    (noteEpoch c j truth payloads status).requests = j.requests := by
  obtain ⟨p, g, e⟩ := notePayloads_frame payloads (j.advance c truth)
  have hpay : (payloads.foldl VfsJudge.notePayload (j.advance c truth)).requests = j.requests := by
    rw [e]
    exact (VfsJudge.sameRecord_advance c j truth).requests
  cases status with
  | none => exact hpay
  | some status => exact (VfsJudge.sameRecord_noteStatus c _ status).requests.trans hpay

/-- An epoch consists of samples. -/
theorem eventOf_epochCalls {truth : GroundTruthSample} {payloads : List PayloadStateSample}
    {status : Option VehicleStatusSample} :
    ∀ k ∈ epochCalls truth payloads status, VfsJudge.eventOf k = none := by
  intro k hk
  rcases List.mem_append.mp hk with hk | hk
  · rcases List.mem_cons.mp hk with rfl | hk
    · rfl
    · obtain ⟨p, _, rfl⟩ := List.mem_map.mp hk
      rfl
  · obtain ⟨status, _, rfl⟩ := List.mem_map.mp hk
    rfl

theorem epochTruth_answer {event : MissionEventSample} {missing : Bool} (h : EpochTruth s)
    (hs : s.acceptMissionEventNow c event missing = .ok s') : EpochTruth s' := by
  obtain ⟨j, ds, scorer, hj, rfl⟩ := answer_spec hs
  have hne : ∀ sample, answerCall event missing ≠ .groundTruth sample := by
    intro sample
    unfold answerCall
    split <;> exact Call.noConfusion
  unfold EpochTruth
  rw [truth_of_other hj hne]
  exact h

theorem epochTruth_move (hkey : Keyed s) (h : EpochTruth s) (hm : Move c s s') : EpochTruth s' := by
  cases hm with
  | receive i hi => cases i <;> exact h
  | inner hm =>
    cases hm with
    | payloadEvent _ sample hs =>
      obtain ⟨j, ds, hj, rfl⟩ := acceptPayloadEvent_spec hs
      unfold EpochTruth
      rw [truth_of_other hj fun _ => Call.noConfusion]
      exact h
    | queue => exact h
    | answer _ event hwhy hs => exact epochTruth_answer h hs
    | expire _ event hready hs => exact epochTruth_answer h hs
    | resolved => exact h
    | join _ timestampNs hn hs =>
      obtain ⟨truth, payloads, t, ht, _, ⟨j, g, v, p, hj, rfl⟩, rfl⟩ := joinEpoch_spec hs
      unfold EpochTruth closeEpoch
      rw [judge_of_epoch hj, truth_noteEpoch, Option.map_some, hkey.truth _ _ ht]

/-! ## 3. Exact evidence -/

/-- **The decision was taken in judge state `j`**: at some point of the log the judge is in `j`
    and takes `d` as a new decision in answer to a mission event. -/
def TakenIn (c : RuntimeSetup) (log : List Effect) (d : JudgeDecision) (j : VfsJudge) : Prop :=
  ∃ before after event j', log = before ++ Effect.called (.missionEvent event) [d] :: after ∧
    Run (Accepts c.judge) VfsJudge.init (judgeCalls before) (judgeAnswers before) j ∧
    Accepts c.judge j (.missionEvent event) [d] j' ∧ j'.decisionId ≠ j.decisionId ∧
    event.simTimestampNs = d.simTimestampNs

theorem TakenIn.append {d : JudgeDecision} {j : VfsJudge} (h : TakenIn c log d j)
    (log' : List Effect) : TakenIn c (log ++ log') d j := by
  obtain ⟨before, after, event, j', rfl, hrun⟩ := h
  exact ⟨before, after ++ log', event, j', by simp, hrun⟩

/-- **What an approval stamped `T` rests on**: truth of exactly `T`, a status of the last 500 ms,
    and for FM2 and FM3 payload samples of the last 50 ms of the markers it depends on. -/
structure ExactEvidence (c : RuntimeSetup) (j : VfsJudge) (d : JudgeDecision) : Prop where
  truth : ∃ t, j.truth = some t ∧ t.simTimestampNs = d.simTimestampNs
  status : ∃ st, j.status = some st ∧ st.simTimestampNs ≤ d.simTimestampNs ∧
    d.simTimestampNs ≤ st.simTimestampNs + statusFreshnessNs
  payloads : ∀ marker, d.phase = "FM2" ∧ marker ∈ c.judge.scenario.targets.keys ∨
      d.phase = "FM3" ∧ marker ∈ j.fm2EligibleIds →
    ∃ p, j.payloads.get marker = some p ∧ p.simTimestampNs ≤ d.simTimestampNs ∧
      d.simTimestampNs ≤ p.simTimestampNs + evidenceFreshnessNs

theorem freshStatus_spec {j : VfsJudge} {stamp : ℕ} (h : j.freshStatus stamp = true) :
    ∃ st, j.status = some st ∧ st.simTimestampNs ≤ stamp ∧
      stamp ≤ st.simTimestampNs + statusFreshnessNs := by
  obtain ⟨st, hst, hf⟩ := (Option.any_eq_true _ _).mp h
  exact ⟨st, hst, fresh_iff.mp hf⟩

theorem payloadCurrent_spec {j : VfsJudge} {stamp marker : ℕ}
    (h : j.payloadCurrent stamp marker = true) :
    ∃ p, j.payloads.get marker = some p ∧ p.simTimestampNs ≤ stamp ∧
      stamp ≤ p.simTimestampNs + evidenceFreshnessNs := by
  obtain ⟨p, hp, hf⟩ := (Option.any_eq_true _ _).mp h
  exact ⟨p, hp, fresh_iff.mp hf⟩

/-- The approval is the answer to its own request, and was taken on exact evidence. -/
structure ExactlyTaken (c : RuntimeSetup) (log : List Effect) (requestId phase checkpoint : String)
    (d : JudgeDecision) : Prop where
  requestId : d.requestId = requestId
  phase : d.phase = phase
  checkpoint : d.checkpoint = checkpoint
  taken : ∃ j, TakenIn c log d j ∧ ExactEvidence c j d

theorem ExactlyTaken.append {requestId phase checkpoint : String} {d : JudgeDecision}
    (h : ExactlyTaken c log requestId phase checkpoint d) (log' : List Effect) :
    ExactlyTaken c (log ++ log') requestId phase checkpoint d := by
  obtain ⟨j, ht, he⟩ := h.taken
  exact ⟨h.requestId, h.phase, h.checkpoint, j, ht.append log', he⟩

/-- **The invariant**: every approval in store and every published one was taken on exact
    evidence. -/
structure Exact (c : RuntimeSetup) (s : VfsScorekeeperRuntime) : Prop where
  stored : ∀ requestId phase checkpoint d,
    s.judge.requests.get requestId = some (phase, checkpoint, d) → d.outcome = .approved →
      ExactlyTaken c s.log requestId phase checkpoint d
  published : ∀ event d, Effect.decided event d ∈ s.log → d.outcome = .approved →
    ∃ checkpoint requestId,
      requestDetail c.judge.loads event.detail = some (checkpoint, requestId) ∧
        ExactlyTaken c s.log requestId event.phase checkpoint d

theorem exact_init (scorer : Option VfsScorer) : Exact c (init scorer) where
  stored _ _ _ _ h := by cases h
  published _ _ h := absurd h List.not_mem_nil

/-- The log grows by entries that publish no approval, and the store by none. -/
theorem Exact.of_frame (h : Exact c s) (log' : List Effect) (hlog : s'.log = s.log ++ log')
    (hstore : ∀ requestId x, s'.judge.requests.get requestId = some x →
      s.judge.requests.get requestId = some x ∨ x.2.2.outcome ≠ .approved)
    (hpub : ∀ event d, Effect.decided event d ∈ log' → d.outcome ≠ .approved) : Exact c s' where
  stored requestId phase checkpoint d hd happ := by
    rcases hstore _ _ hd with hd | hd
    · rw [hlog]
      exact (h.stored requestId phase checkpoint d hd happ).append log'
    · exact absurd happ hd
  published event d hd happ := by
    rw [hlog] at hd ⊢
    rcases List.mem_append.mp hd with hd | hd
    · obtain ⟨checkpoint, requestId, hdetail, htaken⟩ := h.published event d hd happ
      exact ⟨checkpoint, requestId, hdetail, htaken.append log'⟩
    · exact absurd happ (hpub event d hd)

/-- An approval rests on exact evidence where the epoch of its request is joined. -/
theorem exactEvidence_of_approval (hep : EpochTruth s) {event : MissionEventSample}
    (hready : s.epochReady event = true)
    (hev : s.judge.evidenceCurrent event.simTimestampNs = true) {checkpoint : String}
    {eligible : List ℕ} {i : VfsJudge}
    (happ : VfsJudge.ApprovalSpec c.judge s.judge event checkpoint eligible i) {d : JudgeDecision}
    (ht : d.simTimestampNs = event.simTimestampNs) (hp : d.phase = event.phase) :
    ExactEvidence c s.judge d := by
  have hfresh := hev
  simp only [VfsJudge.evidenceCurrent, Bool.and_eq_true] at hfresh
  refine ⟨?_, ?_, ?_⟩
  · obtain ⟨t, htruth, hle, _⟩ := VfsJudge.truth_le_of_evidenceCurrent hev
    refine ⟨t, htruth, ?_⟩
    -- the epoch joined last is not before the request, and its truth not after
    obtain ⟨last, hlast, hge⟩ := (Option.any_eq_true _ _).mp hready
    have hep : s.judge.truth.map GroundTruthSample.simTimestampNs = s.lastEpochTimestampNs := hep
    rw [htruth, hlast, Option.map_some, Option.some.injEq] at hep
    have hge : event.simTimestampNs ≤ last := by simpa using hge
    omega
  · rw [ht]
    exact freshStatus_spec hfresh.2
  · rw [ht, hp]
    intro marker hmarker
    cases happ with
    | fm1 hphase =>
      rw [hphase] at hmarker
      exact absurd hmarker (by simp)
    | fm2 hphase hcp hmet =>
      rw [hphase] at hmarker
      have hcur : s.judge.targetsCurrent c.judge event.simTimestampNs = true := by
        simp only [VfsJudge.fm2Met, Bool.and_eq_true] at hmet
        exact hmet.1.2
      have hmem : marker ∈ c.judge.scenario.targets.keys := by simpa using hmarker
      exact payloadCurrent_spec (List.all_eq_true.mp hcur marker hmem)
    | fm3 hphase hcp hterm hcur =>
      rw [hphase] at hmarker
      have hmem : marker ∈ s.judge.fm2EligibleIds := by simpa using hmarker
      exact payloadCurrent_spec (List.all_eq_true.mp hcur marker hmem)

/-- A mission event is answered exactly, or without an approval. -/
theorem exact_answer (hlog : Logged c s) (hep : EpochTruth s) (h : Exact c s)
    {event : MissionEventSample} {missing : Bool}
    (hwhy : missing = false → event.state ≠ "CHECK_REQUESTED" ∨
      requestDetail c.judge.loads event.detail = none ∨ s.epochReady event = true)
    (hs : s.acceptMissionEventNow c event missing = .ok s') : Exact c s' := by
  obtain ⟨j, ds, scorer, hj, rfl⟩ := answer_spec hs
  have hevent : VfsJudge.eventOf (answerCall event missing) = some event := by
    unfold answerCall
    split <;> rfl
  have hquiet : ∀ {ds : List JudgeDecision}, (∀ d ∈ ds, d.outcome ≠ .approved) →
      ∀ k e d, Effect.decided e d ∈ Effect.called k ds :: ds.map (.decided event) →
        d.outcome ≠ .approved := by
    intro ds hds k e d hd
    rcases List.mem_cons.mp hd with hd | hd
    · cases hd
    · obtain ⟨x, hx, ex⟩ := List.mem_map.mp hd
      cases ex
      exact hds _ hx
  generalize hk : answerCall event missing = k at *
  cases VfsJudge.accepts_spec hj with
  | groundTruth => cases hevent
  | vehicleStatus => cases hevent
  | payloadState => cases hevent
  | payloadEvent => cases hevent
  | started => exact h.of_frame _ rfl (fun _ _ hx => Or.inl hx) (hquiet (by simp) _)
  | ignored => exact h.of_frame _ rfl (fun _ _ hx => Or.inl hx) (hquiet (by simp) _)
  | repeated _ event' hk' hrun hstate checkpoint requestId d hdetail hp =>
    rw [hevent] at hk'
    cases hk'
    refine ⟨fun id phase cp x hx happ => (h.stored id phase cp x hx happ).append _,
      fun e x hx happ => ?_⟩
    rcases List.mem_append.mp hx with hx | hx
    · obtain ⟨cp, id, hdetail', htaken⟩ := h.published e x hx happ
      exact ⟨cp, id, hdetail', htaken.append _⟩
    · have hxe : e = event ∧ x = d := by simpa using hx
      obtain ⟨rfl, rfl⟩ := hxe
      exact ⟨checkpoint, requestId, hdetail, (h.stored _ _ _ _ hp happ).append _⟩
  | refused _ event' hk' hrun hstate requests d hfm2 ho he ht hreq =>
    refine h.of_frame _ rfl (fun id x hx => ?_) (hquiet (by simpa using ho) _)
    rcases hreq id x hx with hold | hnew
    · exact Or.inl hold
    · rw [hnew]
      exact Or.inr ho
  | approved event' hrun hstate checkpoint requestId hdetail hp hev reason refs eligible i happ d hd =>
    cases hevent
    have hmissing : missing = false := by
      cases missing with
      | false => rfl
      | true => cases hk
    have hready : s.epochReady event = true := by
      rcases hwhy hmissing with hw | hw | hw
      · exact absurd hstate hw
      · rw [hdetail] at hw
        cases hw
      · exact hw
    have htaken : ExactlyTaken c (s.log ++ (Effect.called (.missionEvent event) [d] ::
        [d].map (.decided event))) requestId event.phase checkpoint d := by
      subst hd
      refine ⟨rfl, rfl, rfl, s.judge, ⟨s.log, _, event, _, rfl, hlog, hj, ?_, rfl⟩,
        exactEvidence_of_approval hep hready hev happ rfl rfl⟩
      have hid : i.decisionId = s.judge.decisionId := by cases happ <;> rfl
      show i.decisionId + 1 ≠ s.judge.decisionId
      omega
    have hi : i.requests = s.judge.requests := by cases happ <;> rfl
    refine ⟨fun id phase cp x hx happ => ?_, fun e x hx happ => ?_⟩
    · have hx : (i.requests.set requestId (event.phase, checkpoint, d)).get id =
          some (phase, cp, x) := hx
      rw [hi, Dict.get_set] at hx
      split at hx
      · rename_i hid
        cases hx
        rw [hid]
        exact htaken
      · exact (h.stored id phase cp x hx happ).append _
    · rcases List.mem_append.mp hx with hx | hx
      · obtain ⟨cp, id, hdetail', ht⟩ := h.published e x hx happ
        exact ⟨cp, id, hdetail', ht.append _⟩
      · have hxe : e = event ∧ x = d := by simpa using hx
        obtain ⟨rfl, rfl⟩ := hxe
        exact ⟨checkpoint, requestId, hdetail, htaken⟩

/-- What the runtime keeps about its checks. -/
structure CheckInv (c : RuntimeSetup) (s : VfsScorekeeperRuntime) : Prop where
  replayed : Replayed c s
  keyed : Keyed s
  epoch : EpochTruth s
  exact : Exact c s

theorem CheckInv.logged (h : CheckInv c s) : Logged c s := calls_of_replays h.replayed

/-- Samples handed to the judge publish no decision and store none. -/
theorem exact_handed {ks : List Call} (h : Exact c s) (hk : ∀ k ∈ ks, VfsJudge.eventOf k = none)
    (hh : Handed c s ks s') : Exact c s' := by
  obtain ⟨j, g, v, p, hrun, rfl⟩ := hh
  have hstore : ∀ {ks ds i}, Run (Accepts c.judge) s.judge ks ds i →
      (∀ k ∈ ks, VfsJudge.eventOf k = none) → i.requests = s.judge.requests := by
    intro ks ds i h
    induction h with
    | start => exact fun _ => rfl
    | @step ks ds i k o i' _ hs ih =>
      intro hks
      rw [← ih fun k hk => hks k (by simp [hk])]
      exact VfsJudge.requests_of_sample hs (hks k (by simp))
  refine h.of_frame (silent ks) rfl (fun id x hx => Or.inl ?_) fun e d hd => ?_
  · rw [← hstore hrun hk]
    exact hx
  · obtain ⟨k, _, hk⟩ := List.mem_map.mp hd
    cases hk

theorem checkInv_move (h : CheckInv c s) (hm : Move c s s') : CheckInv c s' := by
  refine ⟨replayed_move h.replayed hm, keyed_move h.keyed hm, epochTruth_move h.keyed h.epoch hm, ?_⟩
  cases hm with
  | receive i hi => cases i <;> exact ⟨h.exact.stored, h.exact.published⟩
  | inner hm =>
    cases hm with
    | payloadEvent _ sample hs =>
      obtain ⟨j, ds, hj, rfl⟩ := acceptPayloadEvent_spec hs
      refine h.exact.of_frame _ rfl (fun _ _ hx => Or.inl ?_) fun e d hd => ?_
      · rw [← VfsJudge.requests_of_sample hj rfl]
        exact hx
      · simp at hd
    | queue => exact ⟨h.exact.stored, h.exact.published⟩
    | answer _ event hwhy hs => exact exact_answer h.logged h.epoch h.exact (fun _ => hwhy) hs
    | expire _ event hready hs => exact exact_answer h.logged h.epoch h.exact Bool.noConfusion hs
    | resolved => exact ⟨h.exact.stored, h.exact.published⟩
    | join _ timestampNs hn hs =>
      obtain ⟨truth, payloads, t, _, _, hh, rfl⟩ := joinEpoch_spec hs
      have hex : Exact c (s.withoutEpoch timestampNs) := ⟨h.exact.stored, h.exact.published⟩
      have ht := exact_handed hex ?_ hh
      · refine ht.of_frame _ rfl (fun _ _ hx => Or.inl hx) fun e d hd => ?_
        simp at hd
      · intro k hk
        exact eventOf_epochCalls k hk

theorem checkInv_run {scorer : Option VfsScorer} {is : List Input}
    (h : run c scorer is = .ok s) : CheckInv c s :=
  run_invariant h ⟨.start, keyed_init scorer, rfl, exact_init scorer⟩ fun _ _ => checkInv_move

/-- **No decision from stale or future evidence**: every published approval is the answer to the
    request of its id and was taken on exact evidence; where the judge never was in a state with
    such evidence, the decision does not approve. -/
structure ApprovedExactly (c : RuntimeSetup) (s : VfsScorekeeperRuntime) : Prop where
  approved : ∀ event d, Effect.decided event d ∈ s.log → d.outcome = .approved →
    ∃ checkpoint requestId,
      requestDetail c.judge.loads event.detail = some (checkpoint, requestId) ∧
        ExactlyTaken c s.log requestId event.phase checkpoint d
  never : ∀ event d, Effect.decided event d ∈ s.log →
    (∀ before after j, s.log = before ++ after →
      Run (Accepts c.judge) VfsJudge.init (judgeCalls before) (judgeAnswers before) j →
      ¬ ExactEvidence c j d) → d.outcome ≠ .approved

/-- **Every run of the runtime approves on exact evidence only.** -/
theorem approved_on_exact_evidence (c : RuntimeSetup) (scorer : Option VfsScorer)
    (is : List Input) (s : VfsScorekeeperRuntime) (h : run c scorer is = .ok s) :
    ApprovedExactly c s := by
  have hinv := checkInv_run h
  refine ⟨hinv.exact.published, fun event d hd hno happ => ?_⟩
  obtain ⟨_, _, _, htaken⟩ := hinv.exact.published event d hd happ
  obtain ⟨j, ⟨before, after, event', j', hlog, hrun, _⟩, hex⟩ := htaken.taken
  exact hno before _ j hlog hrun hex

section Approved

open Sample2027

/-- One epoch at `ns` with the vehicle disarmed at home and the payloads at their places. -/
def homeEpoch (ns sequenceId : ℕ) : List Input :=
  [.vehicleStatus (statusAt ns sequenceId false), .groundTruth (homeAt ns),
    .payloadState (waitingAt ns 2), .payloadState (waitingAt ns 3), .payloadState (waitingAt ns 4)]

/-- An FM2 check after one epoch at home is approved, on exact evidence. -/
theorem approved_on_exact_evidence_fm2 : ∃ s,
    run (runtime2027 [("", "a")]) (some .init)
      (homeEpoch (ms 100) 0 ++ [Input.missionEvent (checkAt (ms 100) 0 "FM2" "" "a")]) = .ok s ∧
    (judgeAnswers s.log).any VfsJudge.isFm2Approval = true ∧
    ApprovedExactly (runtime2027 [("", "a")]) s := by
  have hrun : ∃ s, run (runtime2027 [("", "a")]) (some .init)
      (homeEpoch (ms 100) 0 ++ [Input.missionEvent (checkAt (ms 100) 0 "FM2" "" "a")]) = .ok s ∧
      (judgeAnswers s.log).any VfsJudge.isFm2Approval = true :=
    exists_ok (p := fun (s : VfsScorekeeperRuntime) => (judgeAnswers s.log).any VfsJudge.isFm2Approval) (by decide +kernel)
  obtain ⟨s, hs, happ⟩ := hrun
  exact ⟨s, hs, happ, approved_on_exact_evidence _ _ _ s hs⟩

end Approved

end VfsScorekeeperRuntime

end DroneSim
