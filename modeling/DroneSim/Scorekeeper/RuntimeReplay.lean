/-
  File:      DroneSim/Scorekeeper/RuntimeReplay.lean
  Subject:   Published approvals and the validator's clock.

  A published approval was taken on a truth of its own stamp, and the log says which calls came
  before and after it. So the replay of the recorded calls (`elapsed_of_taken`) gives the elapsed
  time it carries, in every run whose calls both clocks take alike, where no phase starts before
  the epoch of its stamp (`clockAgrees_of_replayable`). Past the deadline they part: the judge's
  clock stops, the replayed one runs on (`clockAgrees_fails`).
-/
import DroneSim.Scorekeeper.JudgeReplay
import DroneSim.Scorekeeper.RuntimeChecks

namespace DroneSim

open Library
open VfsJudge (Call Accepts Replayable physicsRows recording)

namespace VfsScorekeeperRuntime

variable {c : RuntimeSetup} {s s' : VfsScorekeeperRuntime}

/-! ## 1. What the judge is handed -/

/-- **The rows of the epochs are in order**, none is later than the judge's truth. -/
structure Paced (truth : Option GroundTruthSample) (rows : List PhysicsEvent) : Prop where
  reached : ∀ x ∈ rows, x.isPhase = false → ∃ t, truth = some t ∧ x.stamp ≤ t.simTimestampNs
  ordered : rows.Pairwise fun x y => x.isPhase = false → y.isPhase = false → PhysicsEvent.le x y

section Rows

variable {truth : Option GroundTruthSample} {rows : List PhysicsEvent}

theorem Paced.phases (h : Paced truth rows) {xs : List PhysicsEvent}
    (hxs : ∀ x ∈ xs, x.isPhase ≠ false) : Paced truth (rows ++ xs) where
  reached x hx hno := (List.mem_append.mp hx).elim (h.reached x · hno) fun hx =>
    absurd hno (hxs x hx)
  ordered := List.pairwise_append.mpr ⟨h.ordered,
    List.pairwise_of_forall_mem_list fun x hx _ _ hno => absurd hno (hxs x hx),
    fun _ _ y hy _ hno => absurd hno (hxs y hy)⟩

/-- **An epoch** comes after all before it, and its status after its truth. -/
theorem Paced.epoch (h : Paced truth rows) {t : GroundTruthSample}
    {status : Option VehicleStatusSample}
    (ht : ∀ t', truth = some t' → t'.simTimestampNs < t.simTimestampNs)
    (hstatus : ∀ a, status = some a → a.simTimestampNs = t.simTimestampNs) :
    Paced (some t) (rows ++ .truth t :: status.toList.map .status) := by
  have hstamp : ∀ y ∈ PhysicsEvent.truth t :: status.toList.map .status,
      y.stamp = t.simTimestampNs := by
    intro y hy
    rcases List.mem_cons.mp hy with rfl | hy
    · rfl
    · obtain ⟨a, ha, rfl⟩ := List.mem_map.mp hy
      exact hstatus a (Option.mem_toList.mp ha)
  refine ⟨fun y hy hno => ⟨t, rfl, ?_⟩, List.pairwise_append.mpr ⟨h.ordered, ?_,
    fun x hx y hy hno _ => ?_⟩⟩
  · rcases List.mem_append.mp hy with hy | hy
    · obtain ⟨t', ht', hle⟩ := h.reached y hy hno
      exact hle.trans (ht t' ht').le
    · exact (hstamp y hy).le
  · cases status with
    | none => exact List.pairwise_singleton _ _
    | some a =>
      refine List.pairwise_pair.mpr fun _ _ => Or.inr ⟨(hstatus a rfl).symm, ?_⟩
      exact Nat.zero_le _
  · obtain ⟨t', ht', hle⟩ := h.reached x hx hno
    exact Or.inl (hle.trans_lt (hstamp y hy ▸ ht t' ht'))

end Rows

/-- The rows of an epoch. -/
theorem physicsRows_epoch (ks : List Call) (truth : GroundTruthSample)
    (payloads : List PayloadStateSample) (status : Option VehicleStatusSample) :
    physicsRows (ks ++ epochCalls truth payloads status) =
      physicsRows ks ++ .truth truth :: status.toList.map .status := by
  cases status <;> simp [physicsRows, epochCalls, VfsJudge.physicsOf, Function.comp_def]

/-- **What the judge is handed**: only check requests wait, only they are answered without
    evidence, and the rows are paced. -/
structure Handing (s : VfsScorekeeperRuntime) : Prop where
  pending : ∀ event ∈ s.pendingChecks, event.state = "CHECK_REQUESTED"
  missing : ∀ event, Call.missingEvidence event ∈ judgeCalls s.log →
    event.state = "CHECK_REQUESTED"
  paced : Paced s.judge.truth (physicsRows (judgeCalls s.log))

/-- One more call, of an event. -/
theorem Handing.call (h : Handing s) {k : Call} {ds : List JudgeDecision}
    (hj : Accepts c.judge s.judge k ds s'.judge) (hk : ∀ x, k ≠ .groundTruth x)
    (hrows : ∀ x ∈ (VfsJudge.physicsOf k).toList, x.isPhase ≠ false)
    (hstate : ∀ event, k = .missingEvidence event → event.state = "CHECK_REQUESTED")
    (hpending : s'.pendingChecks = s.pendingChecks)
    (hlog : judgeCalls s'.log = judgeCalls s.log ++ [k]) : Handing s' := by
  refine ⟨fun e he => h.pending e (hpending ▸ he), fun e he => ?_, ?_⟩
  · rw [hlog] at he
    rcases List.mem_append.mp he with he | he
    · exact h.missing e he
    · exact hstate e (List.mem_singleton.mp he).symm
  · rw [hlog, VfsJudge.physicsRows_snoc, truth_of_other hj hk]
    exact h.paced.phases hrows

theorem handing_move (hkey : Keyed s) (h : Handing s) (hm : Move c s s') : Handing s' := by
  have hanswer : ∀ {event : MissionEventSample} {missing : Bool},
      s.acceptMissionEventNow c event missing = .ok s' →
      (missing = true → event.state = "CHECK_REQUESTED") → Handing s' := by
    intro event missing hs hstate
    obtain ⟨j, ds, scorer, hj, rfl⟩ := answer_spec hs
    have hk : VfsJudge.eventOf (answerCall event missing) = some event := by
      cases missing <;> rfl
    refine h.call hj (fun _ => by cases missing <;> exact Call.noConfusion) ?_ ?_ rfl (by simp)
    · rw [VfsJudge.physicsOf_event hk]
      split_ifs <;> simp [PhysicsEvent.isPhase]
    · cases missing with
      | false => exact fun _ => Call.noConfusion
      | true => exact fun e he => Call.missingEvidence.inj he ▸ hstate rfl
  cases hm with
  | receive i hi => cases i <;> exact ⟨h.pending, h.missing, h.paced⟩
  | inner hm =>
    cases hm with
    | payloadEvent _ sample hs =>
      obtain ⟨j, ds, hj, rfl⟩ := acceptPayloadEvent_spec hs
      exact h.call hj (fun _ => Call.noConfusion) (fun _ hx => absurd hx List.not_mem_nil)
        (fun _ => Call.noConfusion) rfl (by simp [judgeCalls])
    | queue event hs hd hready =>
      refine ⟨fun e he => ?_, h.missing, h.paced⟩
      rcases List.mem_append.mp he with he | he
      · exact h.pending e he
      · rw [List.mem_singleton.mp he]
        exact hs
    | answer _ event hwhy hs => exact hanswer hs Bool.noConfusion
    | expire _ event hready hs hmem => exact hanswer hs fun _ => h.pending _ hmem
    | resolved force =>
      exact ⟨fun e he => h.pending e (List.mem_of_mem_filter he), h.missing, h.paced⟩
    | join _ timestampNs hn hs =>
      obtain ⟨truth, payloads, t, ht, _, ⟨j, g, v, p, hj, rfl⟩, rfl⟩ := joinEpoch_spec hs
      obtain ⟨_, _, _, _, hfirst, _⟩ := Run.first hj
      have hpaced := h.paced.epoch (VfsJudge.accepts_groundTruth hfirst).2 fun a ha =>
        (hkey.status _ a ha).trans (hkey.truth _ _ ht).symm
      rw [← physicsRows_epoch _ _ (sortedSamples payloads)] at hpaced
      have htruth : j.truth = some truth := by rw [judge_of_epoch hj, truth_noteEpoch]
      refine ⟨h.pending, fun e he => ?_, by
        simpa [closeEpoch, withoutEpoch, takeEpoch, takeStatus, htruth] using hpaced⟩
      have hcalls : Call.missingEvidence e ∈ judgeCalls s.log ++
          epochCalls truth (sortedSamples payloads) (s.vehicleStatusBuffer.get timestampNs) := by
        simpa [closeEpoch, withoutEpoch, takeEpoch, takeStatus] using he
      rcases List.mem_append.mp hcalls with he | he
      · exact h.missing e he
      · cases eventOf_epochCalls _ he

/-! ## 2. Clock agreement -/

/-- **Every published approval carries what the validator computes for its stamp** from the
    recording of the calls. -/
def ClockAgrees (c : RuntimeSetup) (s : VfsScorekeeperRuntime) : Prop :=
  ∀ event d, Effect.decided event d ∈ s.log → d.outcome = .approved →
    activeElapsedFromPhysics d.simTimestampNs (recording (judgeCalls s.log)) c.judge.course =
      .ok d.activeElapsedNs

/-- Started phases reached the judge in the order of their stamps with respect to the epochs. -/
def DeliveredInOrder (s : VfsScorekeeperRuntime) : Prop :=
  (physicsRows (judgeCalls s.log)).Pairwise fun x y => x.isPhase ≠ y.isPhase → x.stamp ≤ y.stamp

/-- No phase was started before one of an earlier stamp, or before the truth or the status of its
    own stamp. -/
def StartsInOrder (s : VfsScorekeeperRuntime) : Prop :=
  (physicsRows (judgeCalls s.log)).Pairwise fun x y => x.isPhase = true →
    if y.isPhase then x.stamp ≤ y.stamp else x.stamp ≠ y.stamp

instance (s : VfsScorekeeperRuntime) : Decidable s.DeliveredInOrder := by
  unfold DeliveredInOrder
  infer_instance

instance (s : VfsScorekeeperRuntime) : Decidable s.StartsInOrder := by
  unfold StartsInOrder
  infer_instance

/-- **In every run whose calls both clocks take alike, with the phases started in order, the
    validator's clock agrees with every published approval.** -/
theorem clockAgrees_of_replayable (c : RuntimeSetup) (scorer : Option VfsScorer)
    (is : List Input) (s : VfsScorekeeperRuntime) (h : run c scorer is = .ok s)
    (haccepted : AcceptedConfiguration c.judge.course c.judge.scenario)
    (horder : s.DeliveredInOrder) (hstarts : s.StartsInOrder)
    (hreplay : ∃ ds j, Run (Replayable c.judge) VfsJudge.init (judgeCalls s.log) ds j) :
    ClockAgrees c s := by
  intro event d hd happ
  obtain ⟨ds, j, hrun⟩ := hreplay
  obtain ⟨_, _, _, htaken⟩ := (checkInv_run h).exact.published event d hd happ
  obtain ⟨i, ⟨before, after, event', i', hlog, hbefore, hs, hnew, _⟩, hexact⟩ := htaken.taken
  obtain ⟨_, _, hmissing, hpaced⟩ := run_invariant (P := fun s => Keyed s ∧ Handing s) h
    ⟨keyed_init scorer, nofun, nofun, nofun, .nil⟩
    fun _ _ h hm => ⟨keyed_move h.1 hm, handing_move h.1 h.2 hm⟩
  have hsort : (physicsRows (judgeCalls s.log)).Pairwise PhysicsEvent.le := by
    refine (horder.and (hstarts.and hpaced.ordered)).imp fun {x y} ⟨hepoch, hstart, hle⟩ => ?_
    cases x <;> cases y <;>
      simp_all [PhysicsEvent.le, PhysicsEvent.priority, PhysicsEvent.isPhase] <;> omega
  have hcalls : judgeCalls s.log =
      judgeCalls before ++ Call.missionEvent event' :: judgeCalls after := by
    rw [hlog, judgeCalls_append, judgeCalls_called]
  rw [hcalls] at hrun hsort hmissing ⊢
  refine VfsJudge.elapsed_of_taken haccepted.home hrun hsort (fun e he hstart => ?_) hbefore hs
    hnew happ hexact.truth
  rw [hmissing e he] at hstart
  exact absurd hstart (by decide)

section Clock

open Sample2027

/-- One epoch at `ns` with the vehicle armed and aloft. -/
def aloftEpoch (ns sequenceId : ℕ) : List Input :=
  [.vehicleStatus (statusAt ns sequenceId true), .groundTruth (aloftAt ns),
    .payloadState (waitingAt ns 2), .payloadState (waitingAt ns 3), .payloadState (waitingAt ns 4)]

/-- An FM2 flight that ends disarmed at home, where a check is requested. -/
def fm2Inputs : List Input :=
  homeEpoch (ms 100) 0 ++ [Input.missionEvent (startedAt (ms 100) 0 "FM2")] ++
    aloftEpoch (ms 200) 1 ++ homeEpoch (ms 300) 2 ++
    [Input.missionEvent (checkAt (ms 300) 1 "FM2" "" "a")]

theorem clockAgrees_fm2 : ∃ s, run (runtime2027 [("", "a")]) none fm2Inputs = .ok s ∧
    (judgeAnswers s.log).map JudgeDecision.activeElapsedNs = [100000000] ∧
    ClockAgrees (runtime2027 [("", "a")]) s := by
  obtain ⟨s, hs, hp⟩ := exists_ok (x := run (runtime2027 [("", "a")]) none fm2Inputs)
    (p := fun (s : VfsScorekeeperRuntime) =>
      decide ((judgeAnswers s.log).map JudgeDecision.activeElapsedNs = [100000000]) &&
        decide s.DeliveredInOrder && decide s.StartsInOrder &&
        (exec (VfsJudge.call (setup2027 [("", "a")])) (VfsJudge.replayable (setup2027 [("", "a")]))
          VfsJudge.init (judgeCalls s.log)).isSome) (by decide +kernel)
  simp only [Bool.and_eq_true, decide_eq_true_eq] at hp
  obtain ⟨⟨⟨helapsed, horder⟩, hstarts⟩, hexec⟩ := hp
  obtain ⟨r, hr⟩ := Option.isSome_iff_exists.mp hexec
  exact ⟨s, hs, helapsed, clockAgrees_of_replayable _ _ _ s hs VfsJudge.accepted2027 horder hstarts
    ⟨r.2, r.1, exec_run _ _ hr⟩⟩

/-- A published approval carries another time than the validator computes. -/
def parted (c : RuntimeSetup) (s : VfsScorekeeperRuntime) : Bool :=
  s.log.any fun
    | .decided _ d => d.outcome == .approved && decide
      ((activeElapsedFromPhysics d.simTimestampNs (recording (judgeCalls s.log))
        c.judge.course).toOption ≠ some d.activeElapsedNs)
    | _ => false

theorem not_clockAgrees {c : RuntimeSetup} {is : List Input}
    (h : ∃ s, run c none is = .ok s ∧ (decide s.DeliveredInOrder && parted c s) = true) :
    ∃ s, run c none is = .ok s ∧ s.DeliveredInOrder ∧ ¬ClockAgrees c s := by
  obtain ⟨s, hs, htest⟩ := h
  obtain ⟨horder, hparted⟩ := Bool.and_eq_true_iff.mp htest
  refine ⟨s, hs, of_decide_eq_true horder, fun hagrees => ?_⟩
  obtain ⟨e, he, hd⟩ := List.any_eq_true.mp hparted
  cases e with
  | decided event d =>
    obtain ⟨happ, hne⟩ := Bool.and_eq_true_iff.mp hd
    have hsame := hagrees event d he (beq_iff_eq.mp happ)
    exact of_decide_eq_true hne (congrArg Except.toOption hsame)
  | _ => cases hd

/-- A flight that ends past the deadline, and an FM2 check a second after it. -/
def pastDeadlineInputs : List Input :=
  homeEpoch (ms 100) 0 ++ [Input.missionEvent (startedAt (ms 100) 0 "FM1")] ++
    aloftEpoch (ms 200) 1 ++ homeEpoch (ms 602000) 2 ++ homeEpoch (ms 603000) 3 ++
    [Input.missionEvent (checkAt (ms 603000) 1 "FM2" "" "a")]

/-- A flight that ends at the stamp at which FM3 starts, and an FM2 check after it. -/
def earlyStartInputs : List Input :=
  homeEpoch (ms 100) 0 ++ aloftEpoch (ms 200) 1 ++
    [Input.missionEvent (startedAt (ms 300) 0 "FM3")] ++ homeEpoch (ms 300) 2 ++
    homeEpoch (ms 400) 3 ++ [Input.missionEvent (checkAt (ms 400) 1 "FM2" "" "a")]

/-- **The judge's clock stops at the first truth past the deadline, the validator's runs on**; and
    the judge alone sees a landing of FM3 where FM3 starts just before the epoch of its stamp. -/
theorem clockAgrees_fails :
    (∃ s, run (runtime2027 [("", "a")]) none pastDeadlineInputs = .ok s ∧ s.DeliveredInOrder ∧
      ¬ClockAgrees (runtime2027 [("", "a")]) s) ∧
    ∃ s, run (runtime2027 [("", "a")]) none earlyStartInputs = .ok s ∧ s.DeliveredInOrder ∧
      ¬ClockAgrees (runtime2027 [("", "a")]) s :=
  ⟨not_clockAgrees (exists_ok (by decide +kernel)), not_clockAgrees (exists_ok (by decide +kernel))⟩

end Clock

end VfsScorekeeperRuntime

end DroneSim
