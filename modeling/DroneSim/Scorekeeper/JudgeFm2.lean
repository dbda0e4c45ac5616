/-
  File:      DroneSim/Scorekeeper/JudgeFm2.lean
  Subject:   The approval of FM2: what it needs and what it freezes.

  The judge guards its FM2 pause by status with the flag `fm2Airborne`; its approval of an FM2
  check has no such guard, and it may happen more than once.

  * `flightInv_run` -- under phase FM2 the flag is true only after an airborne truth of
    that phase, in every run;
  * `fm2NeedsFlight_of_flown` -- so the clock is stopped for FM2 after such a flight only, in
    every run whose FM2 approvals all find the flag set;
  * `frozenOnce_iff` -- all FM2 approvals of a run carry one set of payloads exactly when every
    repeated approval finds the set that is frozen already.
-/
import DroneSim.Scorekeeper.JudgeClock

namespace DroneSim

open Library

namespace VfsJudge

variable {c : JudgeSetup} {j j' : VfsJudge} {ks : List Call} {ds : List JudgeDecision}

/-! ## 1. The FM2 leg in the history of calls -/

/-- The call announces the start of a phase. -/
def starts : Call → Bool
  | .missionEvent event => event.startsPhase
  | _ => false

/-- The call delivers an airborne truth. -/
def airborne : Call → Bool
  | .groundTruth sample => !sample.inContact
  | _ => false

/-- The truth sample delivered last. -/
def lastTruth (ks : List Call) : Option GroundTruthSample :=
  (ks.filterMap fun k => match k with
    | .groundTruth sample => some sample
    | _ => none).getLast?

/-- The last phase started in `ks` is FM2: `before` came before its start, `after` since. -/
def Fm2Leg (ks before after : List Call) : Prop :=
  ∃ event, ks = before ++ Call.missionEvent event :: after ∧ event.startsPhase = true ∧
    event.phase = "FM2" ∧ ∀ k ∈ after, starts k = false

/-- **FM2 is the current phase and was flown**: a truth since its start, or the one current at its
    start, was airborne. -/
def Fm2Flight (ks : List Call) : Prop :=
  ∃ before after, Fm2Leg ks before after ∧
    ((∃ k ∈ after, airborne k = true) ∨ ∃ t, lastTruth before = some t ∧ t.inContact = false)

theorem lastTruth_groundTruth (ks : List Call) (sample : GroundTruthSample) :
    lastTruth (ks ++ [Call.groundTruth sample]) = some sample := by
  simp [lastTruth]

theorem lastTruth_other (ks : List Call) {k : Call} (hk : ∀ sample, k ≠ .groundTruth sample) :
    lastTruth (ks ++ [k]) = lastTruth ks := by
  cases k with
  | groundTruth sample => exact absurd rfl (hk sample)
  | _ => simp [lastTruth]

theorem Fm2Leg.snoc {before after : List Call} (h : Fm2Leg ks before after) {k : Call}
    (hk : starts k = false) : Fm2Leg (ks ++ [k]) before (after ++ [k]) := by
  obtain ⟨event, rfl, hs, hp, hafter⟩ := h
  refine ⟨event, by simp, hs, hp, fun l hl => ?_⟩
  rcases List.mem_append.mp hl with hl | hl
  · exact hafter l hl
  · rw [List.mem_singleton.mp hl]
    exact hk

theorem Fm2Flight.snoc (h : Fm2Flight ks) {k : Call} (hk : starts k = false) :
    Fm2Flight (ks ++ [k]) := by
  obtain ⟨before, after, hleg, hair⟩ := h
  refine ⟨before, after ++ [k], hleg.snoc hk, ?_⟩
  rcases hair with ⟨l, hl, hair⟩ | hair
  · exact Or.inl ⟨l, List.mem_append_left _ hl, hair⟩
  · exact Or.inr hair

/-- A phase that starts is a leg without calls so far. -/
theorem fm2Leg_start (ks : List Call) {event : MissionEventSample}
    (hs : event.startsPhase = true) (hp : event.phase = "FM2") :
    Fm2Leg (ks ++ [Call.missionEvent event]) ks [] :=
  ⟨event, rfl, hs, hp, fun _ h => absurd h List.not_mem_nil⟩

/-! ## 2. What a call does to the phase and its flag -/

/-- **Truth may set the flag by a takeoff under FM2, a started phase sets phase and flag, and no
    other call touches them.** -/
inductive PhaseSpec (c : JudgeSetup) (j : VfsJudge) (k : Call) (j' : VfsJudge) : Prop where
  | truth (sample : GroundTruthSample) (hk : k = .groundTruth sample)
      (ht : j'.truth = some sample) (hp : j'.phase = j.phase)
      (hf : j'.fm2Airborne = j.fm2Airborne ∨ sample.inContact = false ∧ j.phase = "FM2")
  | started (event : MissionEventSample) (hk : k = .missionEvent event)
      (hs : event.startsPhase = true) (e : j' = j.startPhase event.phase)
  | same (hk : starts k = false) (hn : ∀ sample, k ≠ .groundTruth sample)
      (ht : j'.truth = j.truth) (hp : j'.phase = j.phase) (hf : j'.fm2Airborne = j.fm2Airborne)

section Advance

variable (sample : GroundTruthSample)

theorem fm2Airborne_takeOff :
    (j.takeOff c sample).fm2Airborne = (j.fm2Airborne || j.phase == "FM2") := by
  dsimp only [takeOff]
  split
  · rfl
  · split <;> rfl

theorem fm2Airborne_touchDown : (j.touchDown c sample).fm2Airborne = j.fm2Airborne := by
  unfold touchDown
  split
  · rfl
  · split <;> rfl

/-- The change of contact sets the flag at a takeoff under FM2. -/
theorem fm2Airborne_changeContact (previous : Option GroundTruthSample) :
    (j.changeContact c previous sample).fm2Airborne = j.fm2Airborne ∨
      sample.inContact = false ∧ j.phase = "FM2" := by
  unfold changeContact
  split
  · exact Or.inl rfl
  · split
    · rename_i hoff
      rw [fm2Airborne_takeOff]
      cases hp : j.phase == "FM2" with
      | false => exact Or.inl (Bool.or_false _)
      | true =>
        simp only [Bool.and_eq_true, Bool.not_eq_true'] at hoff
        exact Or.inr ⟨hoff.2, by simpa using hp⟩
    · split
      · exact Or.inl (fm2Airborne_touchDown sample)
      · exact Or.inl rfl

theorem fm2Airborne_enforceDeadline : (j.enforceDeadline c sample).fm2Airborne = j.fm2Airborne := by
  unfold enforceDeadline
  split
  · cases j.activeSinceNs <;> rfl
  · rfl

theorem fm2Airborne_trackPeak : (j.trackPeak c sample).fm2Airborne = j.fm2Airborne := by
  unfold trackPeak
  split <;> rfl

theorem fm2Airborne_expireApproval :
    (j.expireApproval c sample).fm2Airborne = j.fm2Airborne := by
  unfold expireApproval
  split <;> rfl

theorem fm2Airborne_advance : (j.advance c sample).fm2Airborne = j.fm2Airborne ∨
    sample.inContact = false ∧ j.phase = "FM2" := by
  dsimp only [advance]
  rw [fm2Airborne_enforceDeadline]
  have hcontact := fm2Airborne_changeContact (c := c)
    (j := expireApproval c (trackPeak c { j with truth := some sample } sample) sample) sample
    j.truth
  rw [fm2Airborne_expireApproval, fm2Airborne_trackPeak, (sameRecord_expireApproval c _ sample).phase,
    (sameRecord_trackPeak c _ sample).phase] at hcontact
  exact hcontact

end Advance

theorem phase_spec {k : Call} (h : Accepts c j k ds j') : PhaseSpec c j k j' := by
  have hrequest : ∀ event, eventOf k = some event → event.state = "CHECK_REQUESTED" →
      PhaseSpec c j k j' := by
    intro event hk hs
    have e := sameEvidence_of_request h hk hs
    refine .same ?_ ?_ e.truth e.phase e.fm2Airborne
    · cases k with
      | missionEvent event' =>
        cases hk
        simp [starts, MissionEventSample.startsPhase, hs]
      | _ => rfl
    · intro sample hk'
      rw [hk'] at hk
      cases hk
  cases accepts_spec h with
  | groundTruth sample hrun hts =>
    exact .truth sample rfl (truth_advance sample) (sameRecord_advance c j sample).phase
      (fm2Airborne_advance sample)
  | vehicleStatus sample hrun hts =>
    refine .same rfl (fun _ => Call.noConfusion) ?_ ?_ ?_
    all_goals
      dsimp only [noteStatus]
      split
      · split <;> rfl
      · rfl
  | payloadState sample hrun hts => exact .same rfl (fun _ => Call.noConfusion) rfl rfl rfl
  | payloadEvent sample hrun => exact .same rfl (fun _ => Call.noConfusion) rfl rfl rfl
  | started event hrun hs => exact .started event rfl hs rfl
  | ignored _ event hk hrun hs hstart =>
    cases k with
    | missionEvent event' =>
      cases hk
      exact .same (hstart rfl) (fun _ => Call.noConfusion) rfl rfl rfl
    | missingEvidence event' => exact .same rfl (fun _ => Call.noConfusion) rfl rfl rfl
    | _ => cases hk
  | repeated _ event hk hrun hs => exact hrequest event hk hs
  | refused _ event hk hrun hs => exact hrequest event hk hs
  | approved event hrun hs => exact hrequest event rfl hs

/-! ## 3. FM2 needs an FM2 flight -/

/-- The invariant: the judge's truth is the last one delivered, its phase the last one started,
    and the flag stands for a flight of this phase. -/
structure FlightInv (ks : List Call) (j : VfsJudge) : Prop where
  truth : j.truth = lastTruth ks
  leg : j.phase = "FM2" → ∃ before after, Fm2Leg ks before after
  flight : j.phase = "FM2" → j.fm2Airborne = true → Fm2Flight ks

theorem flightInv_init : FlightInv [] init where
  truth := rfl
  leg h := absurd h (by decide)
  flight h := absurd h (by decide)

theorem FlightInv.snoc (h : FlightInv ks j) {k : Call} (hs : Accepts c j k ds j') :
    FlightInv (ks ++ [k]) j' := by
  cases phase_spec hs with
  | truth sample hk ht hp hf =>
    subst hk
    refine ⟨by rw [ht, lastTruth_groundTruth], fun hphase => ?_, fun hphase hair => ?_⟩
    · obtain ⟨before, after, hleg⟩ := h.leg (hp ▸ hphase)
      exact ⟨before, _, hleg.snoc rfl⟩
    · rcases hf with hf | ⟨hcontact, hphase'⟩
      · exact (h.flight (hp ▸ hphase) (hf ▸ hair)).snoc rfl
      · obtain ⟨before, after, hleg⟩ := h.leg hphase'
        have hair' : airborne (.groundTruth sample) = true := by simp [airborne, hcontact]
        exact ⟨before, _, hleg.snoc rfl,
          Or.inl ⟨_, List.mem_append_right _ (List.mem_singleton_self _), hair'⟩⟩
  | started event hk hstart e =>
    subst hk e
    have hleg (hphase : event.phase = "FM2") := fm2Leg_start ks hstart hphase
    refine ⟨?_, fun hphase => ⟨ks, [], hleg hphase⟩, fun hphase hair => ?_⟩
    · rw [lastTruth_other ks fun _ => Call.noConfusion]
      exact h.truth
    · have hphase : event.phase = "FM2" := hphase
      refine ⟨ks, [], hleg hphase, Or.inr ?_⟩
      rw [← h.truth]
      simp only [startPhase, hphase, beq_self_eq_true, if_true] at hair
      obtain ⟨t, ht, hcontact⟩ := (Option.any_eq_true _ _).mp hair
      exact ⟨t, ht, by simpa using hcontact⟩
  | same hk hn ht hp hf =>
    refine ⟨?_, fun hphase => ?_, fun hphase hair => ?_⟩
    · rw [ht, h.truth, lastTruth_other ks hn]
    · obtain ⟨before, after, hleg⟩ := h.leg (hp ▸ hphase)
      exact ⟨before, _, hleg.snoc hk⟩
    · exact (h.flight (hp ▸ hphase) (hf ▸ hair)).snoc hk

/-- **The invariant holds in every run.** -/
theorem flightInv_run (h : Run (Accepts c) init ks ds j) : FlightInv ks j := by
  induction h with
  | start => exact flightInv_init
  | step _ hs ih => exact ih.snoc hs

/-- The decision approves FM2. -/
def isFm2Approval (d : JudgeDecision) : Bool := d.phase == "FM2" && d.outcome == .approved

/-- The call stops the running clock by a status, or takes a new decision that approves FM2. -/
def StopsForFm2 (j : VfsJudge) (k : Call) (ds : List JudgeDecision) (j' : VfsJudge) : Prop :=
  (∃ sample, k = .vehicleStatus sample) ∧ j.activeSinceNs ≠ none ∧ j'.activeSinceNs = none ∨
    j'.decisionId ≠ j.decisionId ∧ ∃ d ∈ ds, isFm2Approval d = true

/-- **In every run of `R` the clock is stopped for FM2 only in phase FM2 and after a flight of
    this phase.** -/
def Fm2NeedsFlight (R : VfsJudge → Call → List JudgeDecision → VfsJudge → Prop) : Prop :=
  ∀ ks ds j k o j', Run R init ks ds j → R j k o j' → StopsForFm2 j k o j' →
    j.phase = "FM2" ∧ Fm2Flight ks

/-- The phase is FM2 and the flag of its flight is set. -/
def flownFm2 (j : VfsJudge) : Bool := j.phase == "FM2" && j.fm2Airborne

/-- **A call and FM2**: it approves a new request and freezes what is eligible, it repeats a
    stored decision and changes nothing, or it takes no FM2 approval and leaves the frozen set. -/
inductive Fm2Spec (c : JudgeSetup) (j : VfsJudge) (k : Call) (ds : List JudgeDecision)
    (j' : VfsJudge) : Prop where
  | freeze (event : MissionEventSample) (hk : k = .missionEvent event)
      (happ : j.approvesFm2 c k = true) (d : JudgeDecision) (hds : ds = [d])
      (hd : isFm2Approval d = true) (he : d.eligibleArucoIds = j.eligible c event.simTimestampNs)
      (ha : j'.fm2Approved = true) (hf : j'.fm2EligibleIds = j.eligible c event.simTimestampNs)
      (hst : ∀ x, Stored j' x → Stored j x ∨ x = d)
  | repeated (hno : j.approvesFm2 c k = false) (d : JudgeDecision) (hds : ds = [d])
      (hst : Stored j d) (e : j' = j)
  | other (hno : j.approvesFm2 c k = false) (hds : ∀ d ∈ ds, isFm2Approval d = false)
      (ha : j'.fm2Approved = j.fm2Approved) (hf : j'.fm2EligibleIds = j.fm2EligibleIds)
      (hst : ∀ x, Stored j' x → Stored j x ∨ isFm2Approval x = false)

theorem isFm2Approval_eq_false {d : JudgeDecision}
    (h : d.phase ≠ "FM2" ∨ d.outcome ≠ .approved) : isFm2Approval d = false := by
  rw [isFm2Approval, Bool.and_eq_false_iff, beq_eq_false_iff_ne, beq_eq_false_iff_ne]
  exact h

/-- A step that takes no decision. -/
theorem Fm2Spec.of_frame {k : Call} (hno : j.approvesFm2 c k = false)
    (ha : j'.fm2Approved = j.fm2Approved) (hf : j'.fm2EligibleIds = j.fm2EligibleIds)
    (hr : j'.requests = j.requests) : Fm2Spec c j k [] j' := by
  refine .other hno (fun _ h => absurd h List.not_mem_nil) ha hf fun x hx => Or.inl ?_
  obtain ⟨requestId, phase, checkpoint, hx⟩ := hx
  exact ⟨requestId, phase, checkpoint, hr ▸ hx⟩

theorem fm2_spec {k : Call} (h : Accepts c j k ds j') : Fm2Spec c j k ds j' := by
  cases accepts_spec h with
  | groundTruth sample =>
    have e := sameRecord_advance c j sample
    exact .of_frame rfl e.fm2Approved e.fm2EligibleIds e.requests
  | vehicleStatus sample =>
    have e := sameRecord_noteStatus c j sample
    exact .of_frame rfl e.fm2Approved e.fm2EligibleIds e.requests
  | payloadState => exact .of_frame rfl rfl rfl rfl
  | payloadEvent => exact .of_frame rfl rfl rfl rfl
  | started event hrun hs =>
    have hne : event.state ≠ "CHECK_REQUESTED" := by
      intro e
      simp [MissionEventSample.startsPhase, e] at hs
    exact .of_frame (by simp [approvesFm2, hne]) rfl rfl rfl
  | ignored _ event hk hrun hs =>
    refine .of_frame ?_ rfl rfl rfl
    cases k with
    | missionEvent event' =>
      cases hk
      simp [approvesFm2, hs]
    | _ => rfl
  | repeated _ event hk hrun hs checkpoint requestId d hdetail hp =>
    refine .repeated ?_ d rfl ⟨requestId, event.phase, checkpoint, hp⟩ rfl
    cases k with
    | missionEvent event' =>
      cases hk
      simp [approvesFm2, hdetail, hp]
    | _ => rfl
  | refused _ event hk hrun hs requests d hfm2 ho he ht hreq =>
    have hd : isFm2Approval d = false := isFm2Approval_eq_false (Or.inr ho)
    refine .other hfm2 (fun x hx => ?_) rfl rfl fun x hx => ?_
    · rw [List.mem_singleton.mp hx]
      exact hd
    · obtain ⟨requestId, phase, checkpoint, hx⟩ := hx
      rcases hreq _ _ hx with hold | hnew
      · exact Or.inl ⟨requestId, phase, checkpoint, hold⟩
      · rw [← hnew] at hd
        exact Or.inr hd
  | approved event hrun hs checkpoint requestId hdetail hp hev reason refs eligible i happ d hd =>
    have hst : i.requests = j.requests → ∀ x, Stored { i with
        decisionId := i.decisionId + 1
        requests := i.requests.set requestId (event.phase, checkpoint, d) } x →
        Stored j x ∨ x = d := by
      rintro hr x ⟨requestId', phase, cp, hx⟩
      rcases stored_set _ _ hx with hold | hnew
      · exact Or.inl ⟨requestId', phase, cp, hr ▸ hold⟩
      · exact Or.inr hnew
    have hother : event.phase ≠ "FM2" → i.fm2Approved = j.fm2Approved →
        i.fm2EligibleIds = j.fm2EligibleIds → i.requests = j.requests →
        Fm2Spec c j (.missionEvent event) [d] { i with
          decisionId := i.decisionId + 1
          requests := i.requests.set requestId (event.phase, checkpoint, d) } := by
      intro hne ha hf hr
      have hno : isFm2Approval d = false := isFm2Approval_eq_false (Or.inl (by rw [hd]; exact hne))
      refine .other (by simp [approvesFm2, hne]) (fun x hx => ?_) ha hf fun x hx => ?_
      · rw [List.mem_singleton.mp hx]
        exact hno
      · rcases hst hr x hx with hold | rfl
        · exact Or.inl hold
        · exact Or.inr hno
    cases happ with
    | fm1 hphase => exact hother (by rw [hphase]; decide) rfl rfl rfl
    | fm2 hphase hcp hmet =>
      refine .freeze event rfl ?_ d rfl ?_ (by rw [hd]) rfl rfl (hst rfl)
      · simp [approvesFm2, hs, hphase, hdetail, hcp, hp, hmet]
      · rw [hd]
        simp [isFm2Approval, hphase]
    | fm3 hphase => exact hother (by rw [hphase]; decide) rfl rfl rfl

/-- **Where every approval of FM2 finds the flag set under phase FM2, the clock is stopped for FM2
    only after a flight of this phase.** -/
theorem fm2NeedsFlight_of_flown (c : JudgeSetup) :
    Fm2NeedsFlight (Meeting (Accepts c) fun j k =>
      j.approvesFm2 c k = true → j.flownFm2 = true) := by
  intro ks ds j k o j' hrun hs hstop
  have hinv := flightInv_run hrun.of_meeting
  have hflown : j.phase = "FM2" ∧ j.fm2Airborne = true := by
    rcases hstop with ⟨⟨sample, hk⟩, hbefore, hafter⟩ | ⟨hnew, d, hd, happ⟩
    · -- a status stops the clock under the judge's own guard
      subst hk
      rw [accepts_vehicleStatus hs.1] at hafter
      rcases noteStatus_cases (c := c) (j := j) sample with e | ⟨since, truth, h1, h2, hp, e⟩
      · rw [e.since] at hafter
        exact absurd hafter hbefore
      · simp only [pausesFm2, Bool.and_eq_true, beq_iff_eq] at hp
        exact hp.1.1.1.1
    · cases fm2_spec hs.1 with
      | freeze event hk hmet => simpa [flownFm2] using hs.2 hmet
      | repeated hno d' hds hst e =>
        rw [e] at hnew
        exact absurd rfl hnew
      | other hno hds =>
        rw [hds d hd] at happ
        cases happ
  exact ⟨hflown.1, hinv.flight hflown.1 hflown.2⟩

section NoFlight

open Sample2027

/-- An FM1 flight that ends disarmed at home, and an FM2 check without any FM2 phase. -/
def fm1FlightCalls : List Call :=
  [Call.groundTruth (homeAt 0), .groundTruth (aloftAt (ms 1000)), .groundTruth (homeAt (ms 2000)),
    .payloadState (waitingAt (ms 2000) 2), .payloadState (waitingAt (ms 2000) 3),
    .payloadState (waitingAt (ms 2000) 4), .vehicleStatus (statusAt (ms 2000) 0 false)]

/-- No FM2 phase was started. -/
def noFm2Start (ks : List Call) : Bool :=
  ks.all fun k => match k with
    | .missionEvent event => !(event.startsPhase && event.phase == "FM2")
    | _ => true

theorem Fm2Flight.started (h : Fm2Flight ks) : noFm2Start ks = false := by
  obtain ⟨before, after, ⟨event, rfl, hs, hp, _⟩, _⟩ := h
  simp [noFm2Start, hs, hp]

theorem fm2NeedsFlight_fails_without_fm2_phase :
    ¬ Fm2NeedsFlight (Accepts (setup2027 [("", "a")])) := by
  intro hclaim
  have hrun : ∃ j ds o j', Run (Meeting (Accepts (setup2027 [("", "a")])) fun _ _ => true = true)
      init fm1FlightCalls ds j ∧
      Meeting (Accepts (setup2027 [("", "a")])) (fun _ _ => true = true) j
        (.missionEvent (checkAt (ms 2000) 0 "FM2" "" "a")) o j' ∧
      (j'.decisionId != j.decisionId && o.any isFm2Approval) = true :=
    exists_run_step (p := fun (j : VfsJudge) o j' =>
      j'.decisionId != j.decisionId && o.any isFm2Approval) (by decide +kernel)
  obtain ⟨j, ds, o, j', hrun, hstep, hp⟩ := hrun
  rw [Bool.and_eq_true, bne_iff_ne, List.any_eq_true] at hp
  have hflight := (hclaim _ ds j _ o j' hrun.of_meeting hstep.1 (Or.inr hp)).2
  exact absurd hflight.started (by decide)

end NoFlight

/-! ## 4. What FM2 freezes -/

/-- **One frozen set**: the FM2 approvals among `ds` carry the same payloads, and the set an FM3
    decision reads is that of the first one. -/
def FrozenOnce (ds : List JudgeDecision) (j : VfsJudge) : Prop :=
  (∀ d ∈ ds, ∀ e ∈ ds, isFm2Approval d = true → isFm2Approval e = true →
    d.eligibleArucoIds = e.eligibleArucoIds) ∧
  ∀ d, ds.find? isFm2Approval = some d → j.fm2EligibleIds = d.eligibleArucoIds

/-- Where FM2 was approved before, a new approval finds the payloads that are frozen already. -/
def refreezesSame (c : JudgeSetup) (j : VfsJudge) (k : Call) : Bool :=
  match k with
  | .missionEvent event =>
    !(j.approvesFm2 c k && j.fm2Approved) ||
      j.eligible c event.simTimestampNs == j.fm2EligibleIds
  | _ => true

theorem refreezesSame_of_not {k : Call} (h : j.approvesFm2 c k = false) :
    j.refreezesSame c k = true := by
  cases k with
  | missionEvent event => simp [refreezesSame, h]
  | _ => rfl

/-- The accepted calls that freeze no second set. -/
abbrev Refreezing (c : JudgeSetup) : VfsJudge → Call → List JudgeDecision → VfsJudge → Prop :=
  Meeting (Accepts c) fun j k => j.refreezesSame c k = true

/-- The invariant: every FM2 approval issued or in store carries the frozen set, and the flag of
    the approval stands for an issued one. -/
structure FrozenInv (ds : List JudgeDecision) (j : VfsJudge) : Prop where
  all : ∀ d, d ∈ ds ∨ Stored j d → isFm2Approval d = true →
    j.fm2Approved = true ∧ d.eligibleArucoIds = j.fm2EligibleIds
  issued : j.fm2Approved = true → ∃ d ∈ ds, isFm2Approval d = true

theorem frozenInv_init : FrozenInv [] init where
  all d h := by
    rcases h with h | ⟨_, _, _, h⟩
    · exact absurd h List.not_mem_nil
    · cases h
  issued h := by cases h

theorem FrozenInv.snoc (h : FrozenInv ds j) {k : Call} {o : List JudgeDecision}
    (hs : Refreezing c j k o j') : FrozenInv (ds ++ o) j' := by
  cases fm2_spec hs.1 with
  | freeze event hk happ d hds hd he ha hf hst =>
    subst hk hds
    -- what was frozen before is frozen again
    have hold : ∀ x, x ∈ ds ∨ Stored j x → isFm2Approval x = true →
        x.eligibleArucoIds = j.eligible c event.simTimestampNs := by
      intro x hx hx'
      obtain ⟨hfm2, hids⟩ := h.all x hx hx'
      have hsame := hs.2
      simp only [refreezesSame, happ, hfm2, Bool.and_self, Bool.not_true, Bool.false_or,
        beq_iff_eq] at hsame
      rw [hids, hsame]
    refine ⟨fun x hx hx' => ⟨ha, ?_⟩, fun _ => ⟨d, by simp, hd⟩⟩
    rw [hf]
    have hcases : x = d ∨ x ∈ ds ∨ Stored j x := by
      rcases hx with hx | hx
      · rcases List.mem_append.mp hx with hx | hx
        · exact Or.inr (Or.inl hx)
        · exact Or.inl (List.mem_singleton.mp hx)
      · exact (hst x hx).symm.imp id Or.inr
    rcases hcases with rfl | hx
    · exact he
    · exact hold x hx hx'
  | repeated hno d hds hst e =>
    subst hds e
    refine ⟨fun x hx hx' => h.all x ?_ hx', fun ha => ?_⟩
    · rcases hx with hx | hx
      · rcases List.mem_append.mp hx with hx | hx
        · exact Or.inl hx
        · rw [List.mem_singleton.mp hx]
          exact Or.inr hst
      · exact Or.inr hx
    · obtain ⟨x, hx, hx'⟩ := h.issued ha
      exact ⟨x, List.mem_append_left _ hx, hx'⟩
  | other hno hds ha hf hst =>
    refine ⟨fun x hx hx' => ?_, fun happ => ?_⟩
    · rw [ha, hf]
      refine h.all x ?_ hx'
      rcases hx with hx | hx
      · rcases List.mem_append.mp hx with hx | hx
        · exact Or.inl hx
        · rw [hds x hx] at hx'
          cases hx'
      · rcases hst x hx with hx | hx
        · exact Or.inr hx
        · rw [hx] at hx'
          cases hx'
    · obtain ⟨x, hx, hx'⟩ := h.issued (ha ▸ happ)
      exact ⟨x, List.mem_append_left _ hx, hx'⟩

theorem frozenInv_run (h : Run (Refreezing c) init ks ds j) : FrozenInv ds j := by
  induction h with
  | start => exact frozenInv_init
  | step _ hs ih => exact ih.snoc hs

theorem FrozenInv.frozenOnce (h : FrozenInv ds j) : FrozenOnce ds j := by
  refine ⟨fun d hd e he hd' he' => ?_, fun d hfind => ?_⟩
  · rw [(h.all d (Or.inl hd) hd').2, (h.all e (Or.inl he) he').2]
  · exact (h.all d (Or.inl (List.mem_of_find?_eq_some hfind)) (List.find?_some hfind)).2.symm

/-- A run whose approvals all carry one set froze no second one. -/
theorem refreezing_of_same (h : Run (Accepts c) init ks ds j)
    (hsame : ∀ d ∈ ds, ∀ e ∈ ds, isFm2Approval d = true → isFm2Approval e = true →
      d.eligibleArucoIds = e.eligibleArucoIds) : Run (Refreezing c) init ks ds j := by
  induction h with
  | start => exact .start
  | @step ks ds i k o i' _ hs ih =>
    have hrun := ih fun d hd e he => hsame d (List.mem_append_left _ hd) e (List.mem_append_left _ he)
    refine .step hrun ⟨hs, ?_⟩
    have hinv := frozenInv_run hrun
    cases fm2_spec hs with
    | freeze event hk happ d hds hd he ha hf hst =>
      subst hk
      simp only [refreezesSame, happ, Bool.true_and]
      cases hfm2 : i.fm2Approved with
      | false => rfl
      | true =>
        obtain ⟨e, he', hee⟩ := hinv.issued hfm2
        have heq := hsame d (List.mem_append_right _ (by simp [hds])) e
          (List.mem_append_left _ he') hd hee
        rw [he, (hinv.all e (Or.inl he') hee).2] at heq
        simp [heq]
    | repeated hno => exact refreezesSame_of_not hno
    | other hno => exact refreezesSame_of_not hno

/-- **The FM2 approvals of a run carry one frozen set exactly when no step of it approves FM2
    again with other payloads.** -/
theorem frozenOnce_iff (c : JudgeSetup) (ks : List Call) (ds : List JudgeDecision) (j : VfsJudge) :
    Run (Accepts c) init ks ds j ∧ FrozenOnce ds j ↔ Run (Refreezing c) init ks ds j := by
  constructor
  · intro ⟨hrun, hfrozen⟩
    exact refreezing_of_same hrun hfrozen.1
  · intro hrun
    exact ⟨hrun.of_meeting, (frozenInv_run hrun).frozenOnce⟩

section Refreeze

open Sample2027

/-- An FM2 check with payload 2 in its circle, and another one with payload 3 there as well. -/
def refreezeCalls : List Call :=
  [Call.groundTruth (homeAt 0), .payloadState (deliveredAt 0 2), .payloadState (waitingAt 0 3),
    .payloadState (waitingAt 0 4), .groundTruth (homeAt (ms 1000)),
    .payloadState (deliveredAt (ms 1000) 2), .payloadState (waitingAt (ms 1000) 3),
    .payloadState (waitingAt (ms 1000) 4), .vehicleStatus (statusAt (ms 1000) 0 false),
    .missionEvent (checkAt (ms 1000) 0 "FM2" "" "a"), .groundTruth (homeAt (ms 2000)),
    .payloadState (deliveredAt (ms 2000) 2), .payloadState (deliveredAt (ms 2000) 3),
    .payloadState (waitingAt (ms 2000) 4), .vehicleStatus (statusAt (ms 2000) 1 false),
    .missionEvent (checkAt (ms 2000) 1 "FM2" "" "b")]

theorem frozenOnce_fails_on_second_request :
    ¬ ∀ ks ds j, Run (Accepts (setup2027 [("", "a"), ("", "b")])) init ks ds j →
      FrozenOnce ds j := by
  intro hclaim
  have hrun : ∃ j ds, Run (Meeting (Accepts (setup2027 [("", "a"), ("", "b")]))
      fun _ _ => true = true) init refreezeCalls ds j ∧
      decide (∃ d ∈ ds, ∃ e ∈ ds, isFm2Approval d = true ∧ isFm2Approval e = true ∧
        d.eligibleArucoIds ≠ e.eligibleArucoIds) = true :=
    exists_run (p := fun (_ : VfsJudge) ds =>
      decide (∃ d ∈ ds, ∃ e ∈ ds, isFm2Approval d = true ∧ isFm2Approval e = true ∧
        d.eligibleArucoIds ≠ e.eligibleArucoIds)) (by decide +kernel)
  obtain ⟨j, ds, hrun, hp⟩ := hrun
  obtain ⟨d, hd, e, he, hd', he', hne⟩ := of_decide_eq_true hp
  exact hne ((hclaim _ ds j hrun.of_meeting).1 d hd e he hd' he')

end Refreeze

end VfsJudge

end DroneSim
