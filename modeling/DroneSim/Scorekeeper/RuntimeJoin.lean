/-
  File:      DroneSim/Scorekeeper/RuntimeJoin.lean
  Subject:   The join of the physical streams is exact and free of arrival order.

  Without a pending check a callback joins every epoch that has arrived (`Joined.drain`), so the
  log is the one the streams prescribe: for each arrived truth in turn the calls of its epoch and
  the attempt status after them (`epochLog`). The order of arrival does not occur in it.

  Until the first status the grid is not known, and the runtime joins nothing: an epoch off the
  grid waits as well (`joinsEveryArrival_fails_before_first_status`).
-/
import DroneSim.Scorekeeper.RuntimeStreams

namespace DroneSim

open Library
open VfsJudge (Call Accepts)

namespace VfsScorekeeperRuntime

variable {c : RuntimeSetup} {s s' : VfsScorekeeperRuntime} {is js : List Input}

/-! ## 1. The log the streams prescribe -/

/-- A callback of one of the five physical streams. -/
def Input.isSample : Input → Bool
  | .groundTruth _ => true
  | .vehicleStatus _ => true
  | .payloadState _ => true
  | _ => false

/-- The calls on the judge for the epoch of a truth. -/
def callsAt (is : List Input) (x : GroundTruthSample) : List Call :=
  epochCalls x (streamPayloads is x.simTimestampNs) (streamStatus is x.simTimestampNs)

/-- The judge after the epoch of a truth. -/
def judgeAt (c : JudgeSetup) (is : List Input) (j : VfsJudge) (x : GroundTruthSample) : VfsJudge :=
  noteEpoch c j x (streamPayloads is x.simTimestampNs) (streamStatus is x.simTimestampNs)

/-- One more epoch: its calls and the attempt status after them. -/
def logAt (c : JudgeSetup) (is : List Input) (r : VfsJudge × List Effect) (x : GroundTruthSample) :
    VfsJudge × List Effect :=
  (judgeAt c is r.1 x,
    r.2 ++ silent (callsAt is x) ++ [Effect.attempted ((judgeAt c is r.1 x).attemptStatus c)])

/-- **The judge and the log after the epochs of the given truths**, read off the streams. -/
def epochLog (c : JudgeSetup) (is : List Input) (xs : List GroundTruthSample) :
    VfsJudge × List Effect :=
  xs.foldl (logAt c is) (VfsJudge.init, [])

/-- The published attempt statuses. -/
def attempts (log : List Effect) : List AttemptStatus :=
  log.filterMap fun e => match e with
    | .attempted status => some status
    | _ => none

/-- The truths of the maximal prefix of arrived epochs. -/
def arrivedTruths (offset : ℕ) (is : List Input) : List GroundTruthSample :=
  (truths is).takeWhile fun x => arrived offset is x.simTimestampNs

theorem judgeCalls_epochLog (c : JudgeSetup) (is : List Input) (xs : List GroundTruthSample) :
    judgeCalls (epochLog c is xs).2 = xs.flatMap (callsAt is) := by
  induction xs using List.reverseRecOn with
  | nil => rfl
  | append_singleton xs x ih =>
    have hstep : epochLog c is (xs ++ [x]) = logAt c is (epochLog c is xs) x := List.foldl_concat ..
    rw [hstep, List.flatMap_append, ← ih]
    simp [logAt]

/-- An epoch that has arrived looks the same later. -/
theorem logAt_append {offset : ℕ} {x : GroundTruthSample} (c : JudgeSetup)
    (r : VfsJudge × List Effect) (hs : Streams (is ++ js)) (hg : gridOffset is = some offset)
    (ha : arrived offset is x.simTimestampNs = true) :
    logAt c (is ++ js) r x = logAt c is r x := by
  unfold logAt callsAt judgeAt
  rw [streamPayloads_append ha, streamStatus_of_arrived hs hg ha]

/-! ## 2. Draining without checks -/

/-- **The invariant of the join**: the buffers hold the rest of the streams, no check is pending,
    judge and log are those of the joined epochs. -/
structure Joined (c : RuntimeSetup) (is : List Input) (joined rest : List GroundTruthSample)
    (s : VfsScorekeeperRuntime) : Prop where
  buffered : Buffered is joined rest s
  pending : s.pendingChecks = []
  log : (s.judge, s.log) = epochLog c.judge is joined

variable {joined rest : List GroundTruthSample}

theorem joined_init (scorer : Option VfsScorer) : Joined c [] [] [] (init scorer) where
  buffered := buffered_init scorer
  pending := rfl
  log := rfl

/-- Receiving a sample keeps the invariant. -/
theorem Joined.receive (h : Joined c is joined rest s) {i : Input} (hs : Streams (is ++ [i]))
    (hi : s.Receivable i) : ∃ rest', Joined c (is ++ [i]) joined rest' (s.receive i) := by
  obtain ⟨rest', hb⟩ := h.buffered.receive hs hi
  have hsame : (s.receive i).pendingChecks = s.pendingChecks ∧
      ((s.receive i).judge, (s.receive i).log) = (s.judge, s.log) := by
    cases i <;> exact ⟨rfl, rfl⟩
  refine ⟨rest', hb, by rw [hsame.1, h.pending], ?_⟩
  rw [hsame.2, h.log]
  refine List.foldl_ext _ _ _ fun r x hx => ?_
  obtain ⟨offset, ho, ha⟩ := h.buffered.complete x hx
  exact (logAt_append c.judge r hs ho ha).symm

/-- Joining an epoch appends it to the log. -/
theorem Joined.join (h : Joined c is joined rest s) (hs : Streams is) {t : ℕ}
    (hn : s.nextEpoch = some t) (hj : s.joinEpoch c t = .ok s') :
    ∃ x rest', rest = x :: rest' ∧ Joined c is (joined ++ [x]) rest' s' := by
  obtain ⟨x, rest', u, hrest, hx, hh, hs', hb⟩ := h.buffered.join hs hn hj
  subst hx
  obtain ⟨j, g, v, p, hrun, rfl⟩ := hh
  subst hs'
  refine ⟨x, rest', hrest, hb, h.pending, ?_⟩
  have hstep : epochLog c.judge is (joined ++ [x]) =
      logAt c.judge is (epochLog c.judge is joined) x := List.foldl_concat ..
  have hjudge : j = judgeAt c.judge is s.judge x := judge_of_epoch hrun
  rw [hstep, ← h.log, hjudge]
  rfl

/-- Without pending checks there is nothing to resolve. -/
theorem resolvePendingChecks_quiet (h : s.pendingChecks = [])
    (hr : s.resolvePendingChecks c false = .ok s') : s' = s := by
  unfold resolvePendingChecks at hr
  rw [h] at hr
  rw [← Except.ok.inj hr]
  show { s with pendingChecks := [] } = s
  rw [← h]

/-- As many truths are buffered as are not joined. -/
theorem Buffered.length_keys (h : Buffered is joined rest s) :
    s.groundTruthBuffer.keys.length = rest.length := by
  have hnodup : (rest.map GroundTruthSample.simTimestampNs).Nodup := by
    refine List.pairwise_map.mpr (h.restRising.imp fun hlt => ?_)
    omega
  have hperm : s.groundTruthBuffer.keys.Perm (rest.map GroundTruthSample.simTimestampNs) := by
    refine (List.perm_ext_iff_of_nodup s.groundTruthBuffer.nodup hnodup).mpr fun t => ?_
    rw [← Dict.keys, Dict.mem_keys, h.truth, stamped, List.find?_isSome]
    simp
  rw [hperm.length_eq, List.length_map]

/-- **The loop joins until no epoch can be joined.** -/
theorem Joined.drainEpochs (h : Joined c is joined rest s) (hs : Streams is)
    (hd : drainEpochs c rest.length s = .ok s') :
    ∃ joined' rest', Joined c is joined' rest' s' ∧ s'.nextEpoch = none := by
  induction rest generalizing joined s with
  | nil =>
    rw [← Except.ok.inj hd]
    refine ⟨joined, [], h, ?_⟩
    unfold nextEpoch
    rw [min_keys h.buffered.restRising h.buffered.truth]
    rfl
  | cons y rest ih =>
    rw [List.length_cons, VfsScorekeeperRuntime.drainEpochs] at hd
    split at hd
    · rename_i hn
      rw [← Except.ok.inj hd]
      exact ⟨joined, y :: rest, h, hn⟩
    · rename_i t hn
      obtain ⟨u, hu, hd⟩ := bind_ok hd
      obtain ⟨v, hv, hd⟩ := bind_ok hd
      obtain ⟨x, rest', hrest, hu'⟩ := h.join hs hn hu
      obtain ⟨rfl, rfl⟩ := List.cons.inj hrest
      rw [resolvePendingChecks_quiet hu'.pending hv] at hd
      exact ih hu' hd

theorem Joined.drain (h : Joined c is joined rest s) (hs : Streams is)
    (hd : s.drainPhysicalEpochs c = .ok s') :
    ∃ joined' rest', Joined c is joined' rest' s' ∧ s'.nextEpoch = none := by
  unfold drainPhysicalEpochs at hd
  rw [h.buffered.length_keys] at hd
  obtain ⟨u, hu, hd⟩ := bind_ok hd
  obtain ⟨v, hv, hd⟩ := bind_ok hd
  obtain ⟨joined', rest', hj, hn⟩ := h.drainEpochs hs hu
  have hvu := resolvePendingChecks_quiet hj.pending hv
  split at hd
  · cases hd
  · rw [← Except.ok.inj hd, hvu]
    exact ⟨joined', rest', hj, hn⟩

/-- A callback of a physical stream receives its sample and drains. -/
theorem drain_of_accept {i : Input} (hsample : i.isSample = true) (hi : s.accept c i = .ok s') :
    (s.receive i).drainPhysicalEpochs c = .ok s' := by
  cases i with
  | groundTruth sample =>
    have hi : s.acceptGroundTruth c sample = .ok s' := hi
    unfold acceptGroundTruth at hi
    split at hi
    · cases hi
    · exact hi
  | vehicleStatus sample =>
    have hi : s.acceptVehicleStatus c sample = .ok s' := hi
    unfold acceptVehicleStatus at hi
    split at hi
    · cases hi
    · exact hi
  | payloadState sample =>
    have hi : s.acceptPayloadState c sample = .ok s' := hi
    unfold acceptPayloadState at hi
    split at hi
    · cases hi
    · exact hi
  | _ => cases hsample

/-- **One callback of a physical stream** joins all that can be joined. -/
theorem Joined.accept (h : Joined c is joined rest s) {i : Input} (hs : Streams (is ++ [i]))
    (hsample : i.isSample = true) (hi : s.accept c i = .ok s') :
    ∃ joined' rest', Joined c (is ++ [i]) joined' rest' s' ∧ s'.nextEpoch = none := by
  obtain ⟨rest', hr⟩ := h.receive hs (accept_stages hi).1
  exact hr.drain hs (drain_of_accept hsample hi)

theorem joined_run {scorer : Option VfsScorer} (hs : Streams is)
    (hsample : ∀ i ∈ is, i.isSample = true) (h : run c scorer is = .ok s) :
    ∃ joined rest, Joined c is joined rest s ∧ s.nextEpoch = none := by
  induction is using List.reverseRecOn generalizing s with
  | nil =>
    cases h
    exact ⟨[], [], joined_init scorer, rfl⟩
  | append_singleton is i ih =>
    obtain ⟨u, hu, hi⟩ := foldlM_snoc.mp h
    obtain ⟨joined, rest, hj, _⟩ := ih hs.prefix (fun x hx => hsample x (by simp [hx])) hu
    exact hj.accept hs (hsample i (by simp)) hi

/-! ## 3. The joined epochs -/

/-- **Once the grid is known the joined epochs are the maximal arrived prefix.** -/
theorem Joined.maximal (h : Joined c is joined rest s) (hs : Streams is)
    (hn : s.nextEpoch = none) {offset : ℕ} (ho : gridOffset is = some offset) :
    joined = arrivedTruths offset is := by
  have hjoined : ∀ x ∈ joined, arrived offset is x.simTimestampNs = true := by
    intro x hx
    obtain ⟨offset', ho', ha⟩ := h.buffered.complete x hx
    rw [ho] at ho'
    rw [Option.some.inj ho']
    exact ha
  have hrest : rest.takeWhile (fun x => arrived offset is x.simTimestampNs) = [] := by
    cases hr : rest with
    | nil => rfl
    | cons x rest' =>
      have hopen := h.buffered.open (x := x) (by rw [hr]; exact List.mem_cons_self)
      have hna : arrived offset is x.simTimestampNs = false := by
        refine Bool.eq_false_iff.mpr fun ha => ?_
        have hc : s.epochComplete x.simTimestampNs = true := by
          rw [h.buffered.epochComplete hs hopen, ho]
          exact ha
        unfold nextEpoch at hn
        rw [min_keys h.buffered.restRising h.buffered.truth, hr] at hn
        simp [h.pending, hc] at hn
      rw [List.takeWhile_cons_of_neg (by simpa using hna)]
  unfold arrivedTruths
  rw [h.buffered.split, List.takeWhile_append_of_pos hjoined, hrest, List.append_nil]

/-- Before the first status nothing is joined. -/
theorem Joined.waits (h : Joined c is joined rest s) (ho : gridOffset is = none) :
    joined = [] := by
  refine List.eq_nil_iff_forall_not_mem.mpr fun x hx => ?_
  obtain ⟨offset, ho', _⟩ := h.buffered.complete x hx
  rw [ho] at ho'
  cases ho'

/-- The same samples on every stream. -/
structure SameStreams (is js : List Input) : Prop where
  truths : truths is = truths js
  statuses : statuses is = statuses js
  payloadStates : ∀ marker, payloadStates marker is = payloadStates marker js

/-- The prescribed log is a function of the streams. -/
theorem SameStreams.epochLog (h : SameStreams is js) (c : JudgeSetup)
    (xs : List GroundTruthSample) : epochLog c is xs = epochLog c js xs := by
  have hp : ∀ t, streamPayloads is t = streamPayloads js t := by
    intro t
    simp only [streamPayloads, streamPayload, h.payloadStates]
  have hst : ∀ t, streamStatus is t = streamStatus js t := by
    intro t
    simp only [streamStatus, h.statuses]
  refine List.foldl_ext _ _ _ fun r x _ => ?_
  simp only [logAt, callsAt, judgeAt, hp, hst]

theorem SameStreams.arrivedTruths (h : SameStreams is js) (offset : ℕ) :
    arrivedTruths offset is = arrivedTruths offset js := by
  unfold VfsScorekeeperRuntime.arrivedTruths
  rw [h.truths]
  congr 1
  funext x
  simp only [arrived, streamPayload, streamStatus, h.payloadStates, h.statuses]

theorem SameStreams.gridOffset (h : SameStreams is js) : gridOffset is = gridOffset js := by
  simp only [VfsScorekeeperRuntime.gridOffset, h.statuses]

/-- The whole log is a function of the streams. -/
theorem log_of_sameStreams {scorer scorer' : Option VfsScorer} (hsame : SameStreams is js)
    (hs : Streams is) (hs' : Streams js) (hi : ∀ i ∈ is, i.isSample = true)
    (hj : ∀ i ∈ js, i.isSample = true) (h : run c scorer is = .ok s)
    (h' : run c scorer' js = .ok s') : s.log = s'.log := by
  obtain ⟨joined, rest, hjoined, hn⟩ := joined_run hs hi h
  obtain ⟨joined', rest', hjoined', hn'⟩ := joined_run hs' hj h'
  have hsamejoined : joined = joined' := by
    cases ho : gridOffset is with
    | none => rw [hjoined.waits ho, hjoined'.waits (hsame.gridOffset ▸ ho)]
    | some offset =>
      rw [hjoined.maximal hs hn ho, hjoined'.maximal hs' hn' (hsame.gridOffset ▸ ho)]
      exact hsame.arrivedTruths offset
  have hlog := hjoined.log
  rw [hsamejoined, hsame.epochLog, ← hjoined'.log] at hlog
  exact congrArg Prod.snd hlog

/-! ## 4. The join -/

/-- **The join is exact and order-free**: once the first status has arrived the calls on the judge
    are those of the maximal arrived prefix of epochs, each once and in ascending order; before
    it there are none; and another order of the same streams publishes the same statuses. -/
structure ExactJoin (c : RuntimeSetup) (is : List Input) (s : VfsScorekeeperRuntime) : Prop where
  calls : ∀ offset, gridOffset is = some offset →
    judgeCalls s.log = (arrivedTruths offset is).flatMap (callsAt is)
  ascending : Increasing GroundTruthSample.simTimestampNs (truths is)
  waits : gridOffset is = none → judgeCalls s.log = []
  orderFree : ∀ js scorer s', SameStreams is js → Streams js → (∀ i ∈ js, i.isSample = true) →
    run c scorer js = .ok s' → attempts s'.log = attempts s.log

/-- **Every run over the physical streams joins exactly.** -/
theorem join_exact (c : RuntimeSetup) (scorer : Option VfsScorer) (is : List Input)
    (s : VfsScorekeeperRuntime) (hs : Streams is) (hi : ∀ i ∈ is, i.isSample = true)
    (h : run c scorer is = .ok s) : ExactJoin c is s := by
  obtain ⟨joined, rest, hj, hn⟩ := joined_run hs hi h
  have hcalls : judgeCalls s.log = joined.flatMap (callsAt is) := by
    rw [← judgeCalls_epochLog c.judge is joined, ← hj.log]
  refine ⟨fun offset ho => ?_, hj.buffered.truthRising, fun ho => ?_,
    fun js scorer' s' hsame hs' hi' h' => ?_⟩
  · rw [hcalls, hj.maximal hs hn ho]
  · rw [hcalls, hj.waits ho]
    rfl
  · rw [log_of_sameStreams hsame hs hs' hi hi' h h']

section Grid

open Sample2027

/-- The epoch at 50 ms without its status, which it does not need. -/
def earlyInputs : List Input :=
  [.groundTruth (homeAt (ms 50)), .payloadState (waitingAt (ms 50) 2),
    .payloadState (waitingAt (ms 50) 3), .payloadState (waitingAt (ms 50) 4)]

/-- The epoch at 100 ms, whose status is the first. -/
def earlyThenHome : List Input := earlyInputs ++ homeEpoch (ms 100) 0

theorem streams_laterHome : Streams (earlyThenHome ++ homeEpoch (ms 200) 1) where
  markers sample hs := by
    simp only [earlyThenHome, earlyInputs, homeEpoch, List.cons_append, List.nil_append,
      List.mem_cons, List.not_mem_nil, or_false, reduceCtorEq, false_or,
      Input.payloadState.injEq] at hs
    rcases hs with rfl | rfl | rfl | rfl | rfl | rfl | rfl | rfl | rfl <;> decide
  grid offset ho status hst := by
    have ho : some 0 = some offset := ho
    have hst : status ∈ [statusAt (ms 100) 0 false, statusAt (ms 200) 1 false] := hst
    rw [← Option.some.inj ho]
    simp only [List.mem_cons, List.not_mem_nil, or_false] at hst
    rcases hst with rfl | rfl <;> rfl

theorem streams_earlyThenHome : Streams earlyThenHome := streams_laterHome.prefix

/-- Both epochs are joined once the status of the second has arrived. -/
theorem join_exact_home : ∃ s, run (runtime2027 []) none earlyThenHome = .ok s ∧
    (judgeCalls s.log).length = 9 ∧ ExactJoin (runtime2027 []) earlyThenHome s := by
  have hrun : ∃ s, run (runtime2027 []) none earlyThenHome = .ok s ∧
      (decide ((judgeCalls s.log).length = 9)) = true :=
    exists_ok (p := fun (s : VfsScorekeeperRuntime) => decide ((judgeCalls s.log).length = 9))
      (by decide +kernel)
  obtain ⟨s, hs, hlen⟩ := hrun
  exact ⟨s, hs, of_decide_eq_true hlen,
    join_exact _ _ _ s streams_earlyThenHome (by decide) hs⟩

/-- Every arrived prefix is joined at once, also while the first status is still to come. -/
def JoinsEveryArrival (c : RuntimeSetup) : Prop :=
  ∀ scorer is js s s' offset, Streams (is ++ js) → (∀ i ∈ is ++ js, i.isSample = true) →
    run c scorer is = .ok s → run c scorer (is ++ js) = .ok s' →
    gridOffset (is ++ js) = some offset →
    judgeCalls s.log = (arrivedTruths offset is).flatMap (callsAt is)

/-- **Before the first status an epoch off the grid waits**, though all it needs has arrived. -/
theorem joinsEveryArrival_fails_before_first_status : ¬ JoinsEveryArrival (runtime2027 []) := by
  intro h
  have hrun : ∃ s, run (runtime2027 []) none earlyInputs = .ok s ∧
      (judgeCalls s.log).isEmpty = true :=
    exists_ok (p := fun (s : VfsScorekeeperRuntime) => (judgeCalls s.log).isEmpty)
      (by decide +kernel)
  have hrun' : ∃ s, run (runtime2027 []) none earlyThenHome = .ok s ∧ true = true :=
    exists_ok (p := fun _ => true) (by decide +kernel)
  obtain ⟨s, hs, hempty⟩ := hrun
  obtain ⟨s', hs', _⟩ := hrun'
  have hcalls := h none earlyInputs (homeEpoch (ms 100) 0) s s' 0 streams_earlyThenHome
    (by decide) hs hs' rfl
  rw [List.isEmpty_iff.mp hempty] at hcalls
  have hlen : ((arrivedTruths 0 earlyInputs).flatMap (callsAt earlyInputs)).length = 4 := by
    decide +kernel
  rw [← hcalls] at hlen
  cases hlen

end Grid

/-! ## 5. The end of the source -/

def truthOf : Call → Option GroundTruthSample
  | .groundTruth truth => some truth
  | _ => none

/-- The truths that the judge has been given. -/
def judgedTruths (log : List Effect) : List GroundTruthSample :=
  (judgeCalls log).filterMap truthOf

/-- **The judge has the truths of the joined epochs**, and the runtime the stamp of the last. -/
def Judged (is : List Input) (s : VfsScorekeeperRuntime) : Prop :=
  ∃ rest, Buffered is (judgedTruths s.log) rest s ∧
    s.groundTruthTimestampNs = received GroundTruthSample.simTimestampNs (judgedTruths s.log)

theorem joinEpoch_stamp {t : ℕ} (h : s.joinEpoch c t = .ok s') :
    ∃ truth, s.groundTruthBuffer.get t = some truth ∧
      s'.groundTruthTimestampNs = some truth.simTimestampNs := by
  obtain ⟨truth, ht, h⟩ := bind_ok h
  obtain ⟨payloads, -, h⟩ := bind_ok h
  obtain ⟨t₁, h₁, h⟩ := bind_ok h
  obtain ⟨t₂, h₂, h⟩ := bind_ok h
  obtain ⟨t₃, h₃, h⟩ := bind_ok h
  obtain rfl := Except.ok.inj h
  have hcall : ∀ {u : VfsScorekeeperRuntime} {k r}, u.callJudge c k = .ok r →
      r.1.groundTruthTimestampNs = u.groundTruthTimestampNs := by
    intro u k r hr
    obtain ⟨j, -, e⟩ := callJudge_spec hr
    rw [e]
  have htruth : t₁.groundTruthTimestampNs = some truth.simTimestampNs := by
    obtain ⟨r, -, rfl⟩ := map_ok h₁
    rfl
  have hpayloads : t₂.groundTruthTimestampNs = some truth.simTimestampNs := by
    refine foldlM_keeps (P := fun u => u.groundTruthTimestampNs = _) h₂ htruth ?_
    intro u marker v _ hu hv
    obtain ⟨sample, -, hv⟩ := bind_ok hv
    obtain ⟨r, hr, hv⟩ := bind_ok hv
    obtain rfl := Except.ok.inj hv
    exact (hcall hr).trans hu
  refine ⟨truth, pop_ok ht, ?_⟩
  show t₃.groundTruthTimestampNs = _
  unfold joinStatus at h₃
  split at h₃
  · rw [← Except.ok.inj h₃, hpayloads]
  · obtain ⟨r, hr, rfl⟩ := map_ok h₃
    exact (hcall hr).trans hpayloads

theorem Judged.inner (h : Judged is s) (hs : Streams is) (hm : Inner c s s') : Judged is s' := by
  obtain ⟨rest, hb, hlast⟩ := h
  have hquiet : ∀ {judge scorer log}, judgedTruths log = [] →
      Judged is { s with judge := judge, scorer := scorer, log := s.log ++ log } := by
    intro judge scorer log hlog
    have hsame : judgedTruths (s.log ++ log) = judgedTruths s.log := by
      simpa [judgedTruths] using hlog
    exact ⟨rest, hsame.symm ▸ hb.frame judge scorer _ _, hsame.symm ▸ hlast⟩
  have hanswer : ∀ {event missing}, s.acceptMissionEventNow c event missing = .ok s' →
      Judged is s' := by
    intro event missing ha
    obtain ⟨j, ds, scorer, -, rfl⟩ := answer_spec ha
    refine hquiet ?_
    rw [judgedTruths, judgeCalls_called, judgeCalls_decided]
    cases missing <;> rfl
  cases hm with
  | payloadEvent _ sample hp =>
    obtain ⟨j, ds, -, rfl⟩ := acceptPayloadEvent_spec hp
    exact hquiet rfl
  | queue event => exact ⟨rest, hb.frame _ _ _ _, hlast⟩
  | answer _ event hwhy ha => exact hanswer ha
  | expire _ event hready ha => exact hanswer ha
  | resolved force => exact ⟨rest, hb.frame _ _ _ _, hlast⟩
  | join _ t hn hj =>
    obtain ⟨x, rest', u, hrest, hx, ⟨j, g, v, p, -, rfl⟩, rfl, hb'⟩ := hb.join hs hn hj
    obtain ⟨truth, htruth, hstamp⟩ := joinEpoch_stamp hj
    rw [hb.truth, hrest, stamped_cons, if_pos hx] at htruth
    have hlog : judgedTruths (s.log ++ silent (epochCalls x (streamPayloads is t)
        (streamStatus is t)) ++ [Effect.attempted (j.attemptStatus c.judge)]) =
        judgedTruths s.log ++ [x] := by
      simp [judgedTruths, epochCalls, truthOf]
    refine ⟨rest', hlog.symm ▸ hb', hstamp.trans ?_⟩
    rw [← Option.some.inj htruth, ← received_snoc, ← hlog]
    rfl

theorem judged_run {scorer : Option VfsScorer} (hs : Streams is) (h : run c scorer is = .ok s) :
    Judged is s := by
  induction is using List.reverseRecOn generalizing s with
  | nil =>
    cases h
    exact ⟨[], buffered_init scorer, rfl⟩
  | append_singleton is i ih =>
    obtain ⟨u, hu, hi⟩ := foldlM_snoc.mp h
    obtain ⟨rest, hb, hlast⟩ := ih hs.prefix hu
    obtain ⟨hrec, hinners⟩ := accept_stages hi
    obtain ⟨rest', hb'⟩ := hb.receive hs hrec
    refine Inners.keeps (P := Judged (is ++ [i])) hinners ?_ fun _ _ ht hm => ht.inner hs hm
    cases i <;> exact ⟨rest', hb', hlast⟩

/-- **The gate of the source is sound.** Once the runtime has observed its inputs through `t`, the
    judge has every truth through `t` that there will ever be, however the callbacks go on. -/
theorem source_gate_sound {scorer : Option VfsScorer} {t : ℕ} (hs : Streams (is ++ js))
    (h : run c scorer is = .ok s) (hgate : s.sourceInputsObservedThrough t = true)
    (hlater : run c scorer (is ++ js) = .ok s') :
    (judgedTruths s.log).filter (·.simTimestampNs ≤ t) =
      (truths (is ++ js)).filter (·.simTimestampNs ≤ t) := by
  obtain ⟨rest, hb, hstamp⟩ := judged_run hs.prefix h
  obtain ⟨_, hb', _⟩ := judged_run hs hlater
  unfold sourceInputsObservedThrough at hgate
  rw [Bool.and_assoc, Bool.and_eq_true, hstamp] at hgate
  obtain ⟨last, hlast, ht⟩ := (Option.any_eq_true _ _).mp hgate.1
  obtain ⟨y, hy, rfl⟩ := mem_of_received hlast
  have hrising := hb'.truthRising
  rw [truths_append, hb.split, List.append_assoc] at hrising ⊢
  have hrest : (rest ++ truths js).filter (·.simTimestampNs ≤ t) = [] := by
    refine List.filter_eq_nil_iff.mpr fun x hx hle => ?_
    have hlt := hrising.across hy hx
    have hle := of_decide_eq_true hle
    have hge := of_decide_eq_true ht
    omega
  rw [List.filter_append, hrest, List.append_nil]

open Sample2027 in
/-- Two epochs, the gate at the second, and a third epoch after it. -/
theorem source_gate_sound_home : ∃ s : VfsScorekeeperRuntime,
    (judgedTruths s.log).filter (·.simTimestampNs ≤ ms 100) =
      (truths (earlyThenHome ++ homeEpoch (ms 200) 1)).filter (·.simTimestampNs ≤ ms 100) := by
  obtain ⟨s, hs, hgate⟩ : ∃ s, run (runtime2027 []) none earlyThenHome = .ok s ∧
      s.sourceInputsObservedThrough (ms 100) = true := exists_ok (by decide +kernel)
  obtain ⟨s', hs'⟩ : ∃ s, run (runtime2027 []) none (earlyThenHome ++ homeEpoch (ms 200) 1) =
      .ok s := exists_of_isOk (by decide +kernel)
  exact ⟨s, source_gate_sound streams_laterHome hs hgate hs'⟩

end VfsScorekeeperRuntime

end DroneSim
