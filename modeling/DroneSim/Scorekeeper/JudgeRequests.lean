/-
  File:      DroneSim/Scorekeeper/JudgeRequests.lean
  Subject:   Requests are answered once.

  `acceptMissionEvent` and `rejectMissionEventMissingEvidence` share one table of answers and one
  counter. Whatever answers a new request leaves the table alone and moves the counter by one
  (`Answers`), so both methods are one step on table and counter (`RequestStep`, `request_step`),
  and no other call touches either (`store_of_other`).

  Over a run: the table never loses or changes an entry (`stored_run`), every entry is the answer
  to a request of the run (`requested_of_stored`), and the decisions that are no repetitions are
  numbered from zero (`numbered_run`).
-/
import DroneSim.Scorekeeper.JudgeCalls

namespace DroneSim

open Library

namespace VfsJudge

variable {c : JudgeSetup} {j j' i : VfsJudge} {ks ls : List Call} {ds es : List JudgeDecision}

/-! ## 1. One request -/

/-- The call delivers a readable check request. -/
structure Requests (c : JudgeSetup) (k : Call) (event : MissionEventSample)
    (checkpoint requestId : String) : Prop where
  delivers : eventOf k = some event
  state : event.state = "CHECK_REQUESTED"
  detail : requestDetail c.loads event.detail = some (checkpoint, requestId)

/-- The next decision id is `n`, and the table holds what it held. -/
structure Counted (j j' : VfsJudge) : Prop where
  requests : j'.requests = j.requests
  decisionId : j'.decisionId = j.decisionId + 1

/-- **A way to answer a new request**: one decision under the next id, the table untouched. -/
def Answers (answer : VfsJudge → MissionEventSample → String → String → VfsJudge × JudgeDecision) :
    Prop :=
  ∀ j event requestId checkpoint, Counted j (answer j event requestId checkpoint).1 ∧
    (answer j event requestId checkpoint).2.decisionId = j.decisionId

theorem answers_decision (c : JudgeSetup) : Answers (decision c) := by
  intro j event requestId checkpoint
  unfold decision
  have h := judgeCheck_spec (c := c) j event checkpoint
  revert h
  generalize j.judgeCheck c event checkpoint = r
  intro h
  cases h with
  | refused v => exact ⟨⟨rfl, rfl⟩, rfl⟩
  | approved reason eligible refs i hev happ => cases happ <;> exact ⟨⟨rfl, rfl⟩, rfl⟩

theorem answers_missingEvidence (c : JudgeSetup) : Answers (missingEvidence c) :=
  fun _ _ _ _ => ⟨⟨rfl, rfl⟩, rfl⟩

/-- **What a check request does to table and counter.** -/
inductive RequestStep (c : JudgeSetup) (j : VfsJudge) (event : MissionEventSample) :
    List JudgeDecision → VfsJudge → Prop where
  | unreadable (h : requestDetail c.loads event.detail = none) (x : JudgeDecision)
      (hid : x.decisionId = j.decisionId) :
      RequestStep c j event [x] { j with decisionId := j.decisionId + 1 }
  | repeated (checkpoint requestId : String) (d : JudgeDecision)
      (h : requestDetail c.loads event.detail = some (checkpoint, requestId))
      (hp : j.requests.get requestId = some (event.phase, checkpoint, d)) :
      RequestStep c j event [d] j
  | conflict (checkpoint requestId : String) (stored : String × String × JudgeDecision)
      (h : requestDetail c.loads event.detail = some (checkpoint, requestId))
      (hp : j.requests.get requestId = some stored)
      (hne : (stored.1, stored.2.1) ≠ (event.phase, checkpoint)) (x : JudgeDecision)
      (hid : x.decisionId = j.decisionId) (ho : x.outcome = .error) :
      RequestStep c j event [x] { j with decisionId := j.decisionId + 1 }
  | new (checkpoint requestId : String)
      (h : requestDetail c.loads event.detail = some (checkpoint, requestId))
      (hp : j.requests.get requestId = none) (i : VfsJudge) (hi : Counted j i) (d : JudgeDecision)
      (hid : d.decisionId = j.decisionId) :
      RequestStep c j event [d]
        { i with requests := j.requests.set requestId (event.phase, checkpoint, d) }

theorem respond_step {answer : VfsJudge → MissionEventSample → String → String →
    VfsJudge × JudgeDecision} (ha : Answers answer) (j : VfsJudge) (event : MissionEventSample) :
    RequestStep c j event (j.respond c answer event).2 (j.respond c answer event).1 := by
  have h := respond_spec (c := c) answer j event
  revert h
  generalize j.respond c answer event = r
  intro h
  cases h with
  | unreadable h => exact .unreadable h _ rfl
  | repeated checkpoint requestId previous h hp => exact .repeated checkpoint requestId previous h hp
  | conflict checkpoint requestId stored h hp hne =>
    exact .conflict checkpoint requestId stored h hp hne _ rfl rfl
  | new checkpoint requestId h hp =>
    obtain ⟨hcounted, hid⟩ := ha j event requestId checkpoint
    have hnew : RequestStep c j event _ _ := .new checkpoint requestId h hp _ hcounted _ hid
    rw [← hcounted.requests] at hnew
    exact hnew

/-- **Both methods take the same step on a request.** -/
theorem request_step {k : Call} {event : MissionEventSample} (h : Accepts c j k ds j')
    (hk : eventOf k = some event) (hs : event.state = "CHECK_REQUESTED") :
    RequestStep c j event ds j' := by
  have h : j.call c k = .ok (j', ds) := h
  cases k with
  | missionEvent event' =>
    obtain rfl := Option.some.inj hk
    have h : j.acceptMissionEvent c event' = .ok (j', ds) := h
    have hstart : event'.startsPhase = false := by simp [MissionEventSample.startsPhase, hs]
    unfold acceptMissionEvent at h
    rw [hstart, if_neg Bool.false_ne_true, if_neg (not_not.mpr hs)] at h
    split at h
    · cases h
    · have hstep := respond_step (c := c) (answers_decision c) j event'
      rw [Except.ok.inj h] at hstep
      exact hstep
  | missingEvidence event' =>
    obtain rfl := Option.some.inj hk
    have h : j.rejectMissionEventMissingEvidence c event' = .ok (j', ds) := h
    unfold rejectMissionEventMissingEvidence at h
    rw [if_neg (not_not.mpr hs)] at h
    split at h
    · cases h
    · have hstep := respond_step (c := c) (answers_missingEvidence c) j event'
      rw [Except.ok.inj h] at hstep
      exact hstep
  | _ => cases hk

/-- No other call touches table or counter, or answers anything. -/
theorem store_of_other {k : Call} (h : Accepts c j k ds j')
    (hk : ∀ event, eventOf k = some event → event.state ≠ "CHECK_REQUESTED") :
    j'.requests = j.requests ∧ j'.decisionId = j.decisionId ∧ ds = [] := by
  cases accepts_spec h with
  | groundTruth sample =>
    have hsame := sameRecord_advance c j sample
    exact ⟨hsame.requests, hsame.decisionId, rfl⟩
  | vehicleStatus sample =>
    have hsame := sameRecord_noteStatus c j sample
    exact ⟨hsame.requests, hsame.decisionId, rfl⟩
  | payloadState => exact ⟨rfl, rfl, rfl⟩
  | payloadEvent => exact ⟨rfl, rfl, rfl⟩
  | started => exact ⟨rfl, rfl, rfl⟩
  | ignored => exact ⟨rfl, rfl, rfl⟩
  | repeated _ event hk' hrun hs => exact absurd hs (hk event hk')
  | refused _ event hk' hrun hs => exact absurd hs (hk event hk')
  | approved event hrun hs => exact absurd hs (hk event rfl)

/-- The call is a check request or it is not. -/
theorem request_or_other (k : Call) :
    (∃ event, eventOf k = some event ∧ event.state = "CHECK_REQUESTED") ∨
      ∀ event, eventOf k = some event → event.state ≠ "CHECK_REQUESTED" := by
  by_cases h : ∃ event, eventOf k = some event ∧ event.state = "CHECK_REQUESTED"
  · exact Or.inl h
  · exact Or.inr fun event hk hs => h ⟨event, hk, hs⟩

/-! ## 2. The table over a run -/

/-- **No call changes what is stored under a request id.** -/
theorem stored_kept {k : Call} (h : Accepts c j k ds j') {requestId : String}
    {x : String × String × JudgeDecision} (hx : j.requests.get requestId = some x) :
    j'.requests.get requestId = some x := by
  rcases request_or_other k with ⟨event, hk, hs⟩ | hk
  · cases request_step h hk hs with
    | unreadable => exact hx
    | repeated => exact hx
    | conflict => exact hx
    | new checkpoint id hdetail hp i hi d =>
      show (j.requests.set id _).get requestId = some x
      rw [Dict.get_set]
      split
      · rename_i e
        rw [e, hp] at hx
        cases hx
      · exact hx
  · rw [(store_of_other h hk).1]
    exact hx

theorem stored_run (h : Run (Accepts c) j ks ds j') {requestId : String}
    {x : String × String × JudgeDecision} (hx : j.requests.get requestId = some x) :
    j'.requests.get requestId = some x := by
  induction h with
  | start => exact hx
  | step _ hs ih => exact stored_kept hs ih

/-- **What comes into store answers this call**, a request of the stored id, phase and
    checkpoint. -/
theorem stored_new {k : Call} (h : Accepts c j k ds j') {requestId : String}
    {x : String × String × JudgeDecision} (hx : j'.requests.get requestId = some x) :
    j.requests.get requestId = some x ∨
      x.2.2 ∈ ds ∧ ∃ event, Requests c k event x.2.1 requestId ∧ event.phase = x.1 := by
  rcases request_or_other k with ⟨event, hk, hstate⟩ | hk
  · cases request_step h hk hstate with
    | unreadable => exact Or.inl hx
    | repeated => exact Or.inl hx
    | conflict => exact Or.inl hx
    | new checkpoint id hdetail hp i hi d =>
      have hx : (j.requests.set id (event.phase, checkpoint, d)).get requestId = some x := hx
      rw [Dict.get_set] at hx
      split at hx
      · rename_i e
        obtain rfl := Option.some.inj hx
        rw [e]
        exact Or.inr ⟨List.mem_singleton_self d, event, ⟨hk, hstate, hdetail⟩, rfl⟩
      · exact Or.inl hx
  · rw [(store_of_other h hk).1] at hx
    exact Or.inl hx

/-- **What is stored was requested.** -/
theorem requested_of_stored (h : Run (Accepts c) init ks ds j) {requestId : String}
    {x : String × String × JudgeDecision} (hx : j.requests.get requestId = some x) :
    ∃ k ∈ ks, ∃ event checkpoint, Requests c k event checkpoint requestId := by
  induction h with
  | start => cases hx
  | @step ks ds i k o i' hrun hs ih =>
    rcases stored_new hs hx with hold | ⟨_, event, hrequests, _⟩
    · obtain ⟨k', hk', hrequests⟩ := ih hold
      exact ⟨k', List.mem_append_left _ hk', hrequests⟩
    · exact ⟨k, List.mem_append_right _ (List.mem_singleton_self k), event, _, hrequests⟩

/-! ## 3. New decisions -/

/-- The call repeats a request that has an answer in store. -/
def repeats (c : JudgeSetup) (j : VfsJudge) (k : Call) : Bool :=
  (eventOf k).any fun event => event.state == "CHECK_REQUESTED" &&
    match requestDetail c.loads event.detail with
    | some (checkpoint, requestId) => (j.requests.get requestId).any fun stored =>
        stored.1 == event.phase && stored.2.1 == checkpoint
    | none => false

/-- The accepted calls with the decisions they create: all they answer but repetitions. -/
def Creates (c : JudgeSetup) : VfsJudge → Call → List JudgeDecision → VfsJudge → Prop :=
  fun j k os j' => ∃ ds, Accepts c j k ds j' ∧ os = if repeats c j k then [] else ds

/-- The created decisions are numbered from `n` to the counter. -/
theorem creates_step {k : Call} (h : Creates c j k ds j') :
    (ds = [] ∧ j'.decisionId = j.decisionId) ∨
      ∃ d, ds = [d] ∧ d.decisionId = j.decisionId ∧ j'.decisionId = j.decisionId + 1 := by
  obtain ⟨os, h, rfl⟩ := h
  rcases request_or_other k with ⟨event, hk, hs⟩ | hk
  · have hrepeats : ∀ checkpoint requestId,
        requestDetail c.loads event.detail = some (checkpoint, requestId) →
        repeats c j k = (j.requests.get requestId).any fun stored =>
          stored.1 == event.phase && stored.2.1 == checkpoint := by
      intro checkpoint requestId hdetail
      simp [repeats, hk, hs, hdetail]
    cases request_step h hk hs with
    | unreadable hdetail x hid =>
      have hno : repeats c j k = false := by simp [repeats, hk, hdetail]
      rw [hno]
      exact Or.inr ⟨x, rfl, hid, rfl⟩
    | repeated checkpoint requestId d hdetail hp =>
      rw [hrepeats checkpoint requestId hdetail, hp]
      exact Or.inl ⟨by simp, rfl⟩
    | conflict checkpoint requestId stored hdetail hp hne x hid =>
      have hno : repeats c j k = false := by
        rw [hrepeats checkpoint requestId hdetail, hp]
        simpa using hne
      rw [hno]
      exact Or.inr ⟨x, rfl, hid, rfl⟩
    | new checkpoint requestId hdetail hp i hi d hid =>
      rw [hrepeats checkpoint requestId hdetail, hp]
      exact Or.inr ⟨d, rfl, hid, hi.decisionId⟩
  · obtain ⟨_, hid, rfl⟩ := store_of_other h hk
    exact Or.inl ⟨ite_self [], hid⟩

/-- **The created decisions are numbered 0, 1, 2, ... and the counter is the next number.** -/
theorem numbered_run (h : Run (Creates c) init ks ds j) :
    ds.map JudgeDecision.decisionId = List.range ds.length ∧ j.decisionId = ds.length := by
  induction h with
  | start => exact ⟨rfl, rfl⟩
  | step _ hs ih =>
    obtain ⟨hids, hnext⟩ := ih
    rcases creates_step hs with ⟨rfl, e⟩ | ⟨d, rfl, hid, e⟩
    · rw [List.append_nil]
      exact ⟨hids, e.trans hnext⟩
    · rw [List.map_append, hids, List.length_append, List.length_singleton, List.range_succ, e, hnext]
      exact ⟨by rw [List.map_singleton, hid, hnext], rfl⟩

/-- Every run of the judge creates decisions. -/
theorem creates_of_run (h : Run (Accepts c) j ks ds j') : ∃ os, Run (Creates c) j ks os j' := by
  induction h with
  | start => exact ⟨[], .start⟩
  | step _ hs ih =>
    obtain ⟨os, hos⟩ := ih
    exact ⟨_, .step hos ⟨_, hs, rfl⟩⟩

/-! ## 4. Idempotence -/

/-- **Requests are idempotent.** -/
structure Idempotent (c : JudgeSetup) : Prop where
  /-- The first request of an id is answered by one decision; every later one with the same phase
      and checkpoint gets it again and changes nothing, every other one gets an error and moves
      the counter only. -/
  answered : ∀ {ks ds j k event checkpoint requestId os i}, Run (Accepts c) init ks ds j →
    (∀ k' ∈ ks, ∀ event' checkpoint', ¬ Requests c k' event' checkpoint' requestId) →
    Requests c k event checkpoint requestId → Accepts c j k os i →
    ∃ d, os = [d] ∧ ∀ {ls es j₂ l event' checkpoint' os' i₂}, Run (Accepts c) i ls es j₂ →
      Requests c l event' checkpoint' requestId → Accepts c j₂ l os' i₂ →
      (event'.phase = event.phase ∧ checkpoint' = checkpoint → os' = [d] ∧ i₂ = j₂) ∧
      (¬ (event'.phase = event.phase ∧ checkpoint' = checkpoint) →
        ∃ x, os' = [x] ∧ x.outcome = .error ∧ i₂ = { j₂ with decisionId := j₂.decisionId + 1 })
  /-- The decisions that repeat none are numbered from zero. -/
  numbered : ∀ {ks ds j}, Run (Accepts c) init ks ds j → ∃ os, Run (Creates c) init ks os j ∧
    os.map JudgeDecision.decisionId = List.range os.length

/-- **In every run of the judge requests are idempotent.** -/
theorem requests_idempotent (c : JudgeSetup) : Idempotent c where
  answered := by
    intro ks ds j k event checkpoint requestId os i hrun hfirst hk hs
    have hnone : j.requests.get requestId = none := by
      cases hx : j.requests.get requestId with
      | none => rfl
      | some x =>
        obtain ⟨k', hk', event', checkpoint', hr⟩ := requested_of_stored hrun hx
        exact absurd hr (hfirst k' hk' event' checkpoint')
    -- the first request is new, so its answer is stored
    have hstored : ∃ d, os = [d] ∧ i.requests.get requestId = some (event.phase, checkpoint, d) := by
      cases request_step hs hk.delivers hk.state with
      | unreadable hdetail =>
        rw [hk.detail] at hdetail
        cases hdetail
      | repeated checkpoint' id d hdetail hp =>
        rw [hk.detail] at hdetail
        cases hdetail
        rw [hnone] at hp
        cases hp
      | conflict checkpoint' id stored hdetail hp =>
        rw [hk.detail] at hdetail
        cases hdetail
        rw [hnone] at hp
        cases hp
      | new checkpoint' id hdetail hp i' hi d =>
        rw [hk.detail] at hdetail
        cases hdetail
        exact ⟨d, rfl, by rw [Dict.get_set, if_pos rfl]⟩
    obtain ⟨d, hos, hd⟩ := hstored
    refine ⟨d, hos, fun {ls es j₂ l event' checkpoint' os' i₂} hrun' hl hs' => ?_⟩
    have hd₂ := stored_run hrun' hd
    cases request_step hs' hl.delivers hl.state with
    | unreadable hdetail =>
      rw [hl.detail] at hdetail
      cases hdetail
    | repeated cp id d' hdetail hp =>
      rw [hl.detail] at hdetail
      cases hdetail
      rw [hd₂, Option.some.injEq, Prod.mk.injEq, Prod.mk.injEq] at hp
      obtain ⟨hphase, hcp, rfl⟩ := hp
      exact ⟨fun _ => ⟨rfl, rfl⟩, fun hne => absurd ⟨hphase.symm, hcp.symm⟩ hne⟩
    | conflict cp id stored hdetail hp hne x hid ho =>
      rw [hl.detail] at hdetail
      cases hdetail
      rw [hd₂] at hp
      cases hp
      refine ⟨fun hsame => absurd ?_ hne, fun _ => ⟨x, rfl, ho, rfl⟩⟩
      rw [hsame.1, hsame.2]
    | new cp id hdetail hp =>
      rw [hl.detail] at hdetail
      cases hdetail
      rw [hd₂] at hp
      cases hp
  numbered := by
    intro ks ds j hrun
    obtain ⟨os, hos⟩ := creates_of_run hrun
    exact ⟨os, hos, (numbered_run hos).1⟩

end VfsJudge

end DroneSim
