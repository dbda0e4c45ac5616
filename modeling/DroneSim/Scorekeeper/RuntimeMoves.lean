/-
  File:      DroneSim/Scorekeeper/RuntimeMoves.lean
  Subject:   What a callback of the runtime can do, said once.

  A callback is a sequence of moves (`accept_moves`): a sample is received into its buffer, then
  (`Inner`) a check goes to the pending ones, a mission event or an expired check to the judge,
  an epoch to the judge, a resolved check leaves. Each move has its successor state as an update of the old one
  (`answer_spec`, `joinEpoch_spec`), so what it does not mention it leaves alone.
  `Move.invariant` and `run_invariant` are the rules the safety results go through.
-/
import DroneSim.Scorekeeper.Runtime
import DroneSim.Scorekeeper.JudgeCalls
import Mathlib.Logic.Relation

namespace DroneSim

open Library
open VfsJudge (Call Accepts)

namespace VfsScorekeeperRuntime

variable {c : RuntimeSetup} {s s' : VfsScorekeeperRuntime} {event : MissionEventSample}
  {P : VfsScorekeeperRuntime → Prop}

/-! ## 1. A call on the judge -/

theorem callJudge_spec {k : Call} {r : VfsScorekeeperRuntime × List JudgeDecision}
    (h : s.callJudge c k = .ok r) :
    ∃ j, Accepts c.judge s.judge k r.2 j ∧
      r.1 = { s with judge := j, log := s.log ++ [Effect.called k r.2] } := by
  obtain ⟨a, ha, e⟩ := map_ok h
  subst e
  exact ⟨a.1, ha, rfl⟩

/-- What a call with a sample does to the scorer. -/
def scoreCall (c : ScorerSetup) : Call → VfsScorer → VfsScorer
  | .groundTruth sample, scorer => scorer.acceptGroundTruth c sample
  | .vehicleStatus sample, scorer => scorer.acceptVehicleStatus c sample
  | .payloadState sample, scorer => scorer.acceptPayloadState c sample
  | .payloadEvent sample, scorer => scorer.acceptPayloadEvent c sample
  | .missionEvent event, scorer => scorer.acceptMissionEvent c event
  | .missingEvidence event, scorer => scorer.acceptMissionEvent c event

/-- A publication touches scorer and log only. -/
theorem publishDecision_spec {d : JudgeDecision} (h : s.publishDecision c event d = .ok s') :
    ∃ scorer, s' = { s with scorer := scorer, log := s.log ++ [Effect.decided event d] } := by
  unfold publishDecision at h
  split at h
  · rename_i hs
    exact ⟨none, by rw [← Except.ok.inj h, ← hs]⟩
  · obtain ⟨scorer, _, e⟩ := map_ok h
    exact ⟨some scorer, e.symm⟩

theorem publishDecisions_spec {ds : List JudgeDecision}
    (h : ds.foldlM (publishDecision c event) s = .ok s') :
    ∃ scorer, s' = { s with scorer := scorer, log := s.log ++ ds.map (.decided event) } := by
  induction ds generalizing s with
  | nil =>
    rw [← Except.ok.inj h]
    exact ⟨s.scorer, by simp⟩
  | cons d ds ih =>
    rw [List.foldlM_cons] at h
    obtain ⟨t, ht, h⟩ := bind_ok h
    obtain ⟨_, rfl⟩ := publishDecision_spec ht
    obtain ⟨scorer, rfl⟩ := ih h
    exact ⟨scorer, by simp⟩

/-- The call that answers a mission event. -/
def answerCall (event : MissionEventSample) (missing : Bool) : Call :=
  if missing then .missingEvidence event else .missionEvent event

/-- **An answered mission event**: one call on the judge, its decisions published. -/
theorem answer_spec {missing : Bool} (h : s.acceptMissionEventNow c event missing = .ok s') :
    ∃ j ds scorer, Accepts c.judge s.judge (answerCall event missing) ds j ∧
      s' = { s with
        judge := j
        scorer := scorer
        log := s.log ++ (Effect.called (answerCall event missing) ds :: ds.map (.decided event)) } := by
  unfold acceptMissionEventNow at h
  obtain ⟨r, hr, h⟩ := bind_ok h
  obtain ⟨j, hj, e⟩ := callJudge_spec hr
  obtain ⟨scorer, rfl⟩ := publishDecisions_spec h
  exact ⟨j, r.2, scorer, hj, by simp [e, score, answerCall]⟩

theorem acceptPayloadEvent_spec {sample : PayloadEventSample}
    (h : s.acceptPayloadEvent c sample = .ok s') :
    ∃ j ds, Accepts c.judge s.judge (.payloadEvent sample) ds j ∧
      s' = { s with
        judge := j
        scorer := s.scorer.map (scoreCall c.scorer (.payloadEvent sample))
        log := s.log ++ [Effect.called (.payloadEvent sample) ds] } := by
  obtain ⟨r, hr, e⟩ := map_ok h
  obtain ⟨j, hj, e'⟩ := callJudge_spec hr
  exact ⟨j, r.2, hj, by rw [← e, e']; rfl⟩

/-! ## 2. An epoch -/

/-- The payload samples of an epoch by marker. -/
def sortedSamples (payloads : Dict ℕ PayloadStateSample) : List PayloadStateSample :=
  (payloads.keys.insertionSort (· ≤ ·)).filterMap payloads.get

/-- The calls that hand an epoch to the judge: truth, payloads by marker, status. -/
def epochCalls (truth : GroundTruthSample) (payloads : List PayloadStateSample)
    (status : Option VehicleStatusSample) : List Call :=
  .groundTruth truth :: payloads.map .payloadState ++ status.toList.map .vehicleStatus

/-- The judge after an epoch. -/
def noteEpoch (c : JudgeSetup) (j : VfsJudge) (truth : GroundTruthSample)
    (payloads : List PayloadStateSample) (status : Option VehicleStatusSample) : VfsJudge :=
  let j := payloads.foldl VfsJudge.notePayload (j.advance c truth)
  match status with
  | none => j
  | some status => j.noteStatus c status

theorem judge_of_payloads {c : JudgeSetup} {j j' : VfsJudge} {ds : List JudgeDecision}
    {payloads : List PayloadStateSample}
    (h : Run (Accepts c) j (payloads.map .payloadState) ds j') :
    j' = payloads.foldl VfsJudge.notePayload j := by
  induction payloads generalizing j ds with
  | nil => exact h.of_nil.2
  | cons sample payloads ih =>
    obtain ⟨_, _, _, _, hs, hrest⟩ := Run.first h
    rw [VfsJudge.accepts_payloadState hs] at hrest
    exact ih hrest

/-- **The epoch's calls leave the judge in the state of `noteEpoch`.** -/
theorem judge_of_epoch {c : JudgeSetup} {j j' : VfsJudge} {ds : List JudgeDecision}
    {truth : GroundTruthSample} {payloads : List PayloadStateSample}
    {status : Option VehicleStatusSample}
    (h : Run (Accepts c) j (epochCalls truth payloads status) ds j') :
    j' = noteEpoch c j truth payloads status := by
  obtain ⟨_, _, _, _, hs, hrest⟩ := Run.first h
  obtain rfl := (VfsJudge.accepts_groundTruth hs).1
  obtain ⟨_, _, _, _, hpayloads, hstatus⟩ := hrest.split
  obtain rfl := judge_of_payloads hpayloads
  cases status with
  | none => exact hstatus.of_nil.2
  | some status =>
    obtain ⟨_, _, _, _, hs', hnil⟩ := Run.first hstatus
    rw [hnil.of_nil.2]
    exact VfsJudge.accepts_vehicleStatus hs'

/-- Calls the judge answers without a decision, as log entries. -/
def silent (ks : List Call) : List Effect := ks.map fun k => .called k []

/-- The calls `ks` were made: judge, scorer and log show them, the epoch's own timestamps may
    have moved, and nothing else has. -/
def Handed (c : RuntimeSetup) (s : VfsScorekeeperRuntime) (ks : List Call)
    (s' : VfsScorekeeperRuntime) : Prop :=
  ∃ j g v p, Run (Accepts c.judge) s.judge ks [] j ∧
    s' = { s with
      judge := j
      scorer := s.scorer.map fun scorer => ks.foldl (fun scorer k => scoreCall c.scorer k scorer) scorer
      groundTruthTimestampNs := g
      vehicleStatusTimestampNs := v
      payloadTimestampsNs := p
      log := s.log ++ silent ks }

theorem Handed.refl (c : RuntimeSetup) (s : VfsScorekeeperRuntime) : Handed c s [] s := by
  refine ⟨s.judge, s.groundTruthTimestampNs, s.vehicleStatusTimestampNs, s.payloadTimestampsNs,
    .start, ?_⟩
  simp [silent]

theorem Handed.trans {t : VfsScorekeeperRuntime} {ks ls : List Call} (h : Handed c s ks t)
    (h' : Handed c t ls s') : Handed c s (ks ++ ls) s' := by
  obtain ⟨j, g, v, p, hrun, rfl⟩ := h
  obtain ⟨j', g', v', p', hrun', rfl⟩ := h'
  refine ⟨j', g', v', p', hrun.append hrun', ?_⟩
  cases s.scorer <;> simp [silent, List.append_assoc]

/-- A sample handed to the judge is answered without a decision. -/
theorem Handed.of_call {t : VfsScorekeeperRuntime} {k : Call}
    {r : VfsScorekeeperRuntime × List JudgeDecision} (h : s.callJudge c k = .ok r)
    (hk : VfsJudge.eventOf k = none)
    (ht : ∃ g v p, t = { r.1 with
      scorer := r.1.scorer.map (scoreCall c.scorer k)
      groundTruthTimestampNs := g
      vehicleStatusTimestampNs := v
      payloadTimestampsNs := p }) : Handed c s [k] t := by
  obtain ⟨j, hj, e⟩ := callJudge_spec h
  obtain ⟨g, v, p, rfl⟩ := ht
  have hds := VfsJudge.decisions_of_sample hj hk
  rw [hds] at hj e
  refine ⟨j, g, v, p, .single hj, ?_⟩
  rw [e]
  rfl

theorem joinTruth_spec {truth : GroundTruthSample} (h : s.joinTruth c truth = .ok s') :
    Handed c s [Call.groundTruth truth] s' := by
  obtain ⟨r, hr, e⟩ := map_ok h
  exact .of_call hr rfl ⟨_, _, _, e.symm⟩

theorem Handed.vehicleStatusBuffer {ks : List Call} (h : Handed c s ks s') :
    s'.vehicleStatusBuffer = s.vehicleStatusBuffer := by
  obtain ⟨_, _, _, _, _, rfl⟩ := h
  rfl

theorem Handed.takeStatus {ks : List Call} (h : Handed c s ks s') (timestampNs : ℕ) :
    Handed c (s.takeStatus timestampNs) ks (s'.takeStatus timestampNs) := by
  obtain ⟨j, g, v, p, hrun, rfl⟩ := h
  exact ⟨j, g, v, p, hrun, rfl⟩

theorem pop_ok {α : Type} {d : Dict ℕ α} {k : ℕ} {a : α} (h : pop d k = .ok a) :
    d.get k = some a := by
  unfold pop at h
  split at h
  · rename_i b hb
    cases h
    exact hb
  · cases h

theorem joinPayload_spec {timestampNs marker : ℕ} {payloads : Dict ℕ PayloadStateSample}
    (h : s.joinPayload c timestampNs payloads marker = .ok s') :
    ∃ sample, payloads.get marker = some sample ∧ Handed c s [.payloadState sample] s' := by
  unfold joinPayload at h
  obtain ⟨sample, hs, h⟩ := bind_ok h
  obtain ⟨r, hr, h⟩ := bind_ok h
  cases h
  exact ⟨sample, pop_ok hs, .of_call hr rfl ⟨_, _, _, rfl⟩⟩

theorem joinPayloads_spec {timestampNs : ℕ} {payloads : Dict ℕ PayloadStateSample}
    {markers : List ℕ} (h : markers.foldlM (joinPayload c timestampNs payloads) s = .ok s') :
    Handed c s ((markers.filterMap payloads.get).map .payloadState) s' := by
  induction markers generalizing s with
  | nil =>
    rw [← Except.ok.inj h]
    exact .refl c s
  | cons marker markers ih =>
    rw [List.foldlM_cons] at h
    obtain ⟨t, ht, h⟩ := bind_ok h
    obtain ⟨sample, hget, hh⟩ := joinPayload_spec ht
    rw [List.filterMap_cons, hget]
    exact hh.trans (ih h)

theorem joinStatus_spec {timestampNs : ℕ} (h : s.joinStatus c timestampNs = .ok s') :
    Handed c (s.takeStatus timestampNs)
      ((s.vehicleStatusBuffer.get timestampNs).toList.map .vehicleStatus) s' := by
  unfold joinStatus at h
  split at h
  · rename_i hs
    rw [← Except.ok.inj h, hs]
    have htake : s.takeStatus timestampNs = s := by
      unfold takeStatus
      rw [Dict.erase_eq_self hs]
    rw [htake]
    exact .refl c s
  · rename_i status hs
    obtain ⟨r, hr, e⟩ := map_ok h
    rw [hs]
    exact .of_call hr rfl ⟨_, _, _, e.symm⟩

/-- The buffers without the samples of an epoch. -/
def withoutEpoch (s : VfsScorekeeperRuntime) (timestampNs : ℕ) : VfsScorekeeperRuntime :=
  (s.takeEpoch timestampNs).takeStatus timestampNs

/-- **A joined epoch**: its samples leave the buffers and are handed over in the canonical order,
    then the attempt status is published. -/
theorem joinEpoch_spec {timestampNs : ℕ} (h : s.joinEpoch c timestampNs = .ok s') :
    ∃ truth payloads t, s.groundTruthBuffer.get timestampNs = some truth ∧
      s.payloadBuffer.get timestampNs = some payloads ∧
      Handed c (s.withoutEpoch timestampNs)
        (epochCalls truth (sortedSamples payloads) (s.vehicleStatusBuffer.get timestampNs)) t ∧
      s' = t.closeEpoch c timestampNs := by
  unfold joinEpoch at h
  obtain ⟨truth, ht, h⟩ := bind_ok h
  obtain ⟨payloads, hp, h⟩ := bind_ok h
  obtain ⟨t₁, h₁, h⟩ := bind_ok h
  obtain ⟨t₂, h₂, h⟩ := bind_ok h
  obtain ⟨t₃, h₃, h⟩ := bind_ok h
  have h12 := (joinTruth_spec h₁).trans (joinPayloads_spec h₂)
  have h3 := joinStatus_spec h₃
  -- the status is read after the truth and the payloads were handed over
  rw [h12.vehicleStatusBuffer] at h3
  exact ⟨truth, payloads, t₃, pop_ok ht, pop_ok hp, (h12.takeStatus timestampNs).trans h3,
    (Except.ok.inj h).symm⟩

/-! ## 3. Moves -/

/-- The sample of a callback goes to its buffer. -/
def receive (s : VfsScorekeeperRuntime) : Input → VfsScorekeeperRuntime
  | .groundTruth sample => s.bufferGroundTruth sample
  | .vehicleStatus sample => s.bufferVehicleStatus sample
  | .payloadState sample => s.bufferPayloadState sample
  | _ => s

/-- A sample comes later than the last one of its stream. -/
def Receivable (s : VfsScorekeeperRuntime) : Input → Prop
  | .groundTruth sample =>
    ∀ t, s.latestGroundTruthReceivedNs = some t → t < sample.simTimestampNs
  | .vehicleStatus sample =>
    ∀ t, s.latestVehicleStatusReceivedNs = some t → t < sample.simTimestampNs
  | .payloadState sample =>
    ∀ t, s.latestPayloadReceivedNs.get sample.arucoId = some t → t < sample.simTimestampNs
  | _ => True

/-- **What happens inside a callback** once its sample is received, one thing after another. -/
inductive Inner (c : RuntimeSetup) : VfsScorekeeperRuntime → VfsScorekeeperRuntime → Prop where
  | payloadEvent (s s' : VfsScorekeeperRuntime) (sample : PayloadEventSample)
      (h : s.acceptPayloadEvent c sample = .ok s') : Inner c s s'
  | queue (s : VfsScorekeeperRuntime) (event : MissionEventSample)
      (hs : event.state = "CHECK_REQUESTED")
      (hd : requestDetail c.judge.loads event.detail ≠ none) (hready : s.epochReady event = false) :
      Inner c s { s with pendingChecks := s.pendingChecks ++ [event] }
  | answer (s s' : VfsScorekeeperRuntime) (event : MissionEventSample)
      (hwhy : event.state ≠ "CHECK_REQUESTED" ∨
        requestDetail c.judge.loads event.detail = none ∨ s.epochReady event = true)
      (h : s.acceptMissionEventNow c event false = .ok s') : Inner c s s'
  | expire (s s' : VfsScorekeeperRuntime) (event : MissionEventSample)
      (hready : s.epochReady event = false)
      (h : s.acceptMissionEventNow c event true = .ok s') (hmem : event ∈ s.pendingChecks) :
      Inner c s s'
  | resolved (s : VfsScorekeeperRuntime) (force : Bool) :
      Inner c s { s with pendingChecks := s.pendingChecks.filter (s.waits force) }
  | join (s s' : VfsScorekeeperRuntime) (timestampNs : ℕ) (hn : s.nextEpoch = some timestampNs)
      (h : s.joinEpoch c timestampNs = .ok s') : Inner c s s'

/-- **A move**: a sample is received, or something happens inside a callback. -/
inductive Move (c : RuntimeSetup) : VfsScorekeeperRuntime → VfsScorekeeperRuntime → Prop where
  | receive (s : VfsScorekeeperRuntime) (i : Input) (h : s.Receivable i) : Move c s (s.receive i)
  | inner {s s' : VfsScorekeeperRuntime} (h : Inner c s s') : Move c s s'

/-- A sequence of moves inside a callback. -/
abbrev Inners (c : RuntimeSetup) : VfsScorekeeperRuntime → VfsScorekeeperRuntime → Prop :=
  Relation.ReflTransGen (Inner c)

/-- A sequence of moves. -/
abbrev Moves (c : RuntimeSetup) : VfsScorekeeperRuntime → VfsScorekeeperRuntime → Prop :=
  Relation.ReflTransGen (Move c)

/-- An answered event leaves buffers and pending checks alone. -/
theorem answer_frame {missing : Bool} (h : s.acceptMissionEventNow c event missing = .ok s') :
    s' = { s with judge := s'.judge, scorer := s'.scorer, log := s'.log } := by
  obtain ⟨j, ds, scorer, _, rfl⟩ := answer_spec h
  rfl

theorem resolveCheck_frame {force : Bool} (h : s.resolveCheck c force event = .ok s') :
    s' = { s with judge := s'.judge, scorer := s'.scorer, log := s'.log } := by
  unfold resolveCheck at h
  split at h
  · exact answer_frame h
  · split at h
    · exact answer_frame h
    · rw [← Except.ok.inj h]

theorem resolveCheck_inners {force : Bool} (hmem : event ∈ s.pendingChecks)
    (h : s.resolveCheck c force event = .ok s') : Inners c s s' := by
  unfold resolveCheck at h
  split at h
  · rename_i hr
    exact .single (.answer s s' event (Or.inr (Or.inr hr)) h)
  · rename_i hr
    split at h
    · exact .single (.expire s s' event (by simpa using hr) h hmem)
    · rw [← Except.ok.inj h]

/-- The pass over the pending checks, before they are dropped. -/
theorem resolveChecks_spec {force : Bool} {events : List MissionEventSample}
    (hevents : ∀ event ∈ events, event ∈ s.pendingChecks)
    (h : events.foldlM (resolveCheck c force) s = .ok s') :
    Inners c s s' ∧ s' = { s with judge := s'.judge, scorer := s'.scorer, log := s'.log } := by
  refine foldlM_keeps (P := fun t => Inners c s t ∧
    t = { s with judge := t.judge, scorer := t.scorer, log := t.log }) h ⟨.refl, rfl⟩ ?_
  intro t event u he ⟨hinners, hframe⟩ hu
  have hmem : event ∈ t.pendingChecks := by
    rw [hframe]
    exact hevents event he
  refine ⟨hinners.trans (resolveCheck_inners hmem hu), ?_⟩
  rw [resolveCheck_frame hu, hframe]

theorem resolvePendingChecks_inners {force : Bool}
    (h : s.resolvePendingChecks c force = .ok s') : Inners c s s' := by
  obtain ⟨r, hr, e⟩ := map_ok h
  obtain ⟨hinners, hframe⟩ := resolveChecks_spec (fun _ he => he) hr
  refine hinners.tail ?_
  have hlast := Inner.resolved (c := c) r force
  have hpending : r.pendingChecks = s.pendingChecks := by rw [hframe]
  have hwaits : r.waits force = s.waits force := by
    rw [hframe]
    rfl
  rw [hpending, hwaits, e] at hlast
  exact hlast

theorem drainEpochs_inners {n : ℕ} (h : drainEpochs c n s = .ok s') : Inners c s s' := by
  induction n generalizing s with
  | zero =>
    rw [← Except.ok.inj h]
  | succ n ih =>
    unfold drainEpochs at h
    split at h
    · rw [← Except.ok.inj h]
    · rename_i timestampNs hn
      obtain ⟨t, ht, h⟩ := bind_ok h
      obtain ⟨u, hu, h⟩ := bind_ok h
      have hjoin : Inners c s t := .single (.join s t timestampNs hn ht)
      exact (hjoin.trans (resolvePendingChecks_inners hu)).trans (ih h)

theorem drainPhysicalEpochs_inners (h : s.drainPhysicalEpochs c = .ok s') : Inners c s s' := by
  unfold drainPhysicalEpochs at h
  obtain ⟨t, ht, h⟩ := bind_ok h
  obtain ⟨u, hu, h⟩ := bind_ok h
  split at h
  · cases h
  · rw [← Except.ok.inj h]
    exact (drainEpochs_inners ht).trans (resolvePendingChecks_inners hu)

theorem acceptMissionEvent_inners (h : s.acceptMissionEvent c event = .ok s') : Inners c s s' := by
  unfold acceptMissionEvent at h
  split at h
  · rename_i hs
    exact .single (.answer s s' event (Or.inl hs) h)
  · rename_i hs
    split at h
    · rename_i hd
      exact .single (.answer s s' event (Or.inr (Or.inl (by simpa using hd))) h)
    · rename_i hd
      split at h
      · rw [← Except.ok.inj h]
      · split at h
        · rename_i hr
          exact .single (.answer s s' event (Or.inr (Or.inr hr)) h)
        · rename_i hr
          have hqueue := Inner.queue (c := c) s event (not_not.mp hs) (by simpa using hd)
            (by simpa using hr)
          exact .head hqueue (resolvePendingChecks_inners h)

/-- **A callback receives its sample, then works inside.** -/
theorem accept_stages {i : Input} (h : s.accept c i = .ok s') :
    s.Receivable i ∧ Inners c (s.receive i) s' := by
  cases i with
  | groundTruth sample =>
    have h : s.acceptGroundTruth c sample = .ok s' := h
    unfold acceptGroundTruth at h
    split at h
    · cases h
    · rename_i hts
      exact ⟨lt_of_any_false (f := id) hts, drainPhysicalEpochs_inners h⟩
  | vehicleStatus sample =>
    have h : s.acceptVehicleStatus c sample = .ok s' := h
    unfold acceptVehicleStatus at h
    split at h
    · cases h
    · rename_i hts
      exact ⟨lt_of_any_false (f := id) hts, drainPhysicalEpochs_inners h⟩
  | payloadState sample =>
    have h : s.acceptPayloadState c sample = .ok s' := h
    unfold acceptPayloadState at h
    split at h
    · cases h
    · rename_i hts
      exact ⟨lt_of_any_false (f := id) hts, drainPhysicalEpochs_inners h⟩
  | payloadEvent sample => exact ⟨trivial, .single (.payloadEvent s s' sample h)⟩
  | missionEvent event => exact ⟨trivial, acceptMissionEvent_inners h⟩
  | sourceFinished =>
    have h : s.acceptSourceFinished c = .ok s' := h
    unfold acceptSourceFinished at h
    split at h
    · cases h
    · exact ⟨trivial, resolvePendingChecks_inners h⟩

/-- **A callback is a sequence of moves.** -/
theorem accept_moves {i : Input} (h : s.accept c i = .ok s') : Moves c s s' := by
  obtain ⟨hi, hinners⟩ := accept_stages h
  exact .head (.receive s i hi) (hinners.lift id fun _ _ hm => .inner hm)

/-- What every move inside a callback keeps, a sequence of them keeps. -/
theorem Inners.keeps (h : Inners c s s') (h0 : P s) (hinner : ∀ s s', P s → Inner c s s' → P s') :
    P s' := by
  induction h with
  | refl => exact h0
  | tail _ hm ih => exact hinner _ _ ih hm

/-- What every move keeps, a sequence of moves keeps. -/
theorem Moves.keeps (h : Moves c s s') (h0 : P s) (hmove : ∀ s s', P s → Move c s s' → P s') :
    P s' := by
  induction h with
  | refl => exact h0
  | tail _ hm ih => exact hmove _ _ ih hm

/-- **The invariant rule of the runtime**: what every move keeps holds after every run. -/
theorem run_invariant {scorer : Option VfsScorer} {is : List Input} (h : run c scorer is = .ok s)
    (h0 : P (init scorer)) (hmove : ∀ s s', P s → Move c s s' → P s') : P s :=
  foldlM_keeps h h0 fun _ _ _ _ hP hi => Moves.keeps (accept_moves hi) hP hmove

/-- The log only grows. -/
theorem Moves.log_prefix (h : Moves c s s') : ∃ log, s'.log = s.log ++ log := by
  refine Moves.keeps (P := fun t => ∃ log, t.log = s.log ++ log) h ⟨[], by simp⟩ ?_
  intro t u ⟨log, ht⟩ hm
  have hgrow : ∀ log', u.log = t.log ++ log' → ∃ log, u.log = s.log ++ log := by
    intro log' hu
    exact ⟨log ++ log', by rw [hu, ht, List.append_assoc]⟩
  cases hm with
  | receive i hi => exact ⟨log, by cases i <;> exact ht⟩
  | inner hm =>
    cases hm with
    | payloadEvent _ sample hs =>
      obtain ⟨j, ds, _, rfl⟩ := acceptPayloadEvent_spec hs
      exact hgrow _ rfl
    | queue => exact ⟨log, ht⟩
    | answer _ event hwhy hs =>
      obtain ⟨j, ds, scorer, _, rfl⟩ := answer_spec hs
      exact hgrow _ rfl
    | expire _ event hready hs =>
      obtain ⟨j, ds, scorer, _, rfl⟩ := answer_spec hs
      exact hgrow _ rfl
    | resolved => exact ⟨log, ht⟩
    | join _ timestampNs hn hs =>
      obtain ⟨truth, payloads, v, _, _, ⟨j, g, w, p, _, rfl⟩, rfl⟩ := joinEpoch_spec hs
      exact hgrow (silent _ ++ [_]) (List.append_assoc _ _ _)

end VfsScorekeeperRuntime

end DroneSim
