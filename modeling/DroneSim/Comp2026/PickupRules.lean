/-
  File:      DroneSim/Comp2026/PickupRules.lean
  Subject:   What a pickup may do.

  * `tells_land` -- a landing in the middle of a pickup;
  * `pickup_coherent` -- **every pickup keeps to the rule**, and its landings begin before its
    deadline where the clock is before it at their start;
  * `late_attempt` -- one where it is not.
-/
import DroneSim.Comp2026.PickupSearch

namespace DroneSim

open Library Library.Attempt Library.Acting PrecisionNote

/-! ## 1. A landing of a pickup -/

section Landing

open PrecisionWorld

variable {m : MathFunctions} {p : PrecisionPolicy} {w : PrecisionWorld} {c : LandCall}
  {A : List PrecisionNote → Prop} {log : List PrecisionNote} {deadline : ℚ}

/-- What no step of a landing takes back, the LAND commands included. -/
def Lasting (A : List PrecisionNote → Prop) : Prop :=
  ∀ log n, isStep n = true ∨ isLandCommand n = true → A log → A (log ++ [n])

theorem Lasting.timeless (hA : Lasting A) : Timeless A := fun log _ => hA log _ (Or.inl rfl)

theorem keeps_requireZero (hA : Lasting A) (operation : String) {sent : PrecisionCommand}
    (hsent : isStep (.command sent) = true ∨ isLandCommand (.command sent) = true)
    (hdone : isStep (.done sent) = true) :
    Keeps (fun r => A r.log) (w.requireZero operation sent) := by
  unfold requireZero PrecisionWorld.require
  refine .bind (fun r hr => hA r.log _ hsent hr) fun _ => .bind (keeps_ask _) fun _ => ?_
  exact .ite (fun r hr => hA r.log _ (Or.inl hdone) hr) (.throw _)

theorem keeps_nearGround (hA : Lasting A) (v : LandState) :
    Keeps (fun r => A r.log) (w.nearGround m p v) := by
  unfold PrecisionWorld.nearGround
  refine .ite (.pure _) (.bind (keeps_attemptClearance hA.timeless) fun clearance => ?_)
  cases clearance with
  | none => exact .pure _
  | some clearance =>
    exact .ite (.bind (keeps_now hA.timeless) fun t =>
      .bind (fun r hr => hA r.log _ (Or.inl rfl) hr) fun _ => .pure _) (.pure _)

theorem keeps_attemptEvidence (hA : Lasting A) (targetId : ℕ) (afterSequence : ℤ) (timeout : ℚ) :
    Keeps (fun r => A r.log) (w.attemptEvidence m p targetId afterSequence timeout) := by
  unfold attemptEvidence
  refine .tryCatch (.bind (keeps_readPrecisionEvidence hA.timeless _ _ _) fun e =>
    .bind (fun r hr => hA r.log _ (Or.inl rfl) hr) fun _ => .pure _) fun error => ?_
  split
  · exact .bind (fun r hr => hA r.log _ (Or.inl rfl) hr) fun _ => .pure _
  · exact .bind (fun r hr => hA r.log _ (Or.inl rfl) hr) fun _ => .pure _
  · exact .throw _

theorem keeps_observe (hA : Lasting A) (v : LandState) (timeout : ℚ) :
    Keeps (fun r => A r.log) (w.observe m p c deadline v timeout) := by
  have hjudged : ∀ reading, Keeps (fun r => A r.log) (do
      w.requireTime deadline
      let t ← w.now
      perform (.judged (PrecisionWorld.judge m p c v reading).2 t)
      return ({ v with lastSequence := (PrecisionWorld.judge m p c v reading).1 },
        (PrecisionWorld.judge m p c v reading).2, t) :
        PrecisionCall (LandState × Judgement × ℚ)) :=
    fun reading => .bind (keeps_requireTime hA.timeless) fun _ => .bind (keeps_now hA.timeless)
      fun t => .bind (fun r hr => hA r.log _ (Or.inl rfl) hr) fun _ => .pure _
  unfold PrecisionWorld.observe
  refine .bind (keeps_attemptEvidence hA _ _ _) fun reading => ?_
  cases reading with
  | error failed => exact .bind (keeps_requireTime hA.timeless) fun _ => hjudged _
  | ok e => exact hjudged _

theorem keeps_track (hA : Lasting A) (v : LandState) (j : Judgement) (t : ℚ) :
    Keeps (fun r => A r.log) (w.track v j t) := by
  unfold track
  split
  · exact .bind (keeps_ask _) fun _ =>
      .bind (keeps_requireZero hA _ (Or.inl rfl) rfl) fun _ => .pure _
  · refine .ite (.bind (keeps_ask _) fun _ =>
      .bind (keeps_requireZero hA _ (Or.inl rfl) rfl) fun _ => ?_) (.pure _)
    exact .bind (keeps_ask _) fun snapshot => .bind (keeps_location snapshot) fun place =>
      .bind (fun r hr => hA r.log _ (Or.inl rfl) hr) fun _ => .pure _

theorem keeps_countFrames (hA : Lasting A) (h : LandHold) (j : Judgement) (t : ℚ) :
    Keeps (fun r => A r.log) (w.countFrames h j t) := by
  unfold countFrames
  split
  · exact .ite (.bind (keeps_ask _) fun _ =>
      .bind (keeps_requireZero hA _ (Or.inr rfl) rfl) fun _ =>
        .bind (fun r hr => hA r.log _ (Or.inl rfl) hr) fun _ => .pure _) (.pure _)
  · exact .pure _

theorem keeps_sendHold (hA : Lasting A) (h : LandHold) (t : ℚ) :
    Keeps (fun r => A r.log) (w.sendHold h t) := by
  unfold sendHold
  exact .ite (.bind (keeps_ask _) fun _ =>
    .bind (keeps_requireZero hA _ (Or.inl rfl) rfl) fun _ => .pure _) (.pure _)

/-- A hold ends a call as a retry only. -/
theorem tells_reacquire (hA : Lasting A) (hlog : A log) (h : LandHold) (j : Judgement) (t : ℚ) :
    Tells (w.reacquire h j t)
      (fun out os => A os ∧ ∀ result, out = .error result → result = .retry) (fun _ => A) log := by
  unfold reacquire
  refine .bind ((Tells.keeps (keeps_sendHold hA h t) hlog).mono (fun sent os hos => ?_)
    fun _ _ hos => hos)
  refine .bind ((Tells.keeps (keeps_countFrames hA sent j t) hos).mono (fun counted os hos => ?_)
    fun _ _ hos => hos)
  cases counted with
  | none => exact .pure ⟨hos, fun _ he => by cases he⟩
  | some counted =>
    refine .ite (fun _ => .pure ⟨hos, fun _ he => ?_⟩) fun _ => .pure ⟨hos, fun _ he => by cases he⟩
    cases he
    rfl

/-- A touchdown is answered right after its confirmation. -/
def Confirmed (log : List PrecisionNote) (result : LandingResult) : Prop :=
  result = .touchdown → ∃ before timeout, log = before ++ [PrecisionNote.done (.confirmLanding timeout)]

/-- What a pass of a landing leaves. -/
def LandEnd (A : List PrecisionNote → Prop) (log : List PrecisionNote) :
    Except LandingResult LandState → Prop
  | .error result => A log ∧ Confirmed log result
  | .ok _ => A log

theorem tells_settle_lasting (hA : Lasting A) (hlog : A log) (v : LandState) (j : Judgement)
    (t : ℚ) : Tells (w.settle v j t) (fun out os => LandEnd A os out) (fun _ => A) log := by
  unfold settle
  split
  · exact .bind ((Tells.keeps (keeps_track hA v j t) hlog).mono (fun _ _ hos => .pure hos)
      fun _ _ hos => hos)
  · rename_i h hv
    refine .bind ((tells_reacquire hA hlog h j t).mono (fun out os hos => ?_) fun _ _ hos => hos)
    rcases out with result | _ | counted
    · refine .pure ⟨hos.1, fun he => ?_⟩
      rw [hos.2 result rfl] at he
      cases he
    · exact .pure hos.1
    · exact .pure hos.1

theorem tells_touchDown_lasting (hA : Lasting A) (hlog : A log) :
    Tells (w.touchDown deadline) (fun out os => LandEnd A os out) (fun _ => A) log := by
  unfold touchDown confirmCurrentLand
  refine .bind (.bind (tells_permission ?_ fun _ => hlog))
  refine .bind (tells_now (fun t => ?_) fun _ => hlog)
  have htime := hA.timeless log t hlog
  refine .ite (fun _ => .throw htime) fun _ => ?_
  have hsent := hA _ (.command (.confirmLanding (deadline - t))) (Or.inl rfl) htime
  exact tells_require (.pure ⟨hA _ _ (Or.inl rfl) hsent, fun _ => ⟨_, _, rfl⟩⟩) fun _ => hsent

theorem tells_landRound_lasting (hA : Lasting A) (hlog : A log) (v : LandState) :
    Tells (w.landRound m p c deadline v) (fun out os => LandEnd A os out) (fun _ => A) log := by
  unfold landRound
  refine .bind (tells_permission ?_ fun _ => hlog)
  refine .bind (tells_now (fun t => ?_) fun _ => hlog)
  have htime := hA.timeless log t hlog
  refine .ite (fun _ => .throw htime) fun _ => ?_
  refine .bind (.bind (.ask (fun _ => .pure ?_) fun _ => htime))
  refine .ite (fun _ => tells_touchDown_lasting hA htime) fun _ =>
    .ite (fun _ => tells_touchDown_lasting hA htime) fun _ => ?_
  refine .bind ((Tells.keeps (keeps_nearGround hA v) htime).mono (fun seen os hos => ?_)
    fun _ _ hos => hos)
  have hsleep : ∀ (v' : LandState) {os}, A os →
      Tells (w.sleepBounded p deadline >>= fun _ => pure (Except.ok v'))
        (fun out os => LandEnd A os out) (fun _ => A) os := fun v' os hos =>
    .bind ((Tells.keeps (keeps_sleepBounded hA.timeless deadline) hos).mono
      (fun _ _ hos => .pure hos) fun _ _ hos => hos)
  cases seen with
  | some healthyAt => exact hsleep _ hos
  | none =>
    refine .bind ((Tells.keeps (keeps_observe hA v _) hos).mono (fun seen os hos => ?_)
      fun _ _ hos => hos)
    refine .bind ((tells_settle_lasting hA hos _ _ _).mono (fun settled os hend => ?_)
      fun _ _ hos => hos)
    cases settled with
    | error result => exact .pure hend
    | ok v' => exact hsleep _ hend

theorem tells_landLoop_lasting (hA : Lasting A) (rounds : ℕ) : ∀ {v : LandState} {log}, A log →
    Tells (w.landLoop m p c deadline rounds v) (fun result os => A os ∧ Confirmed os result)
      (fun _ => A) log := by
  induction rounds with
  | zero => exact fun hlog => .throw hlog
  | succ rounds ih =>
    intro v log hlog
    unfold landLoop
    refine .bind ((tells_landRound_lasting hA hlog v).mono (fun out os hout => ?_)
      fun _ _ hos => hos)
    cases out with
    | error result => exact .pure hout
    | ok v' => exact ih hout

variable {startedAt : ℚ} {attempts : ℕ} {profiled : Bool} {landed : Option LandingResult}

/-- The landing under way has commanded LAND. -/
structure Opened (m : MathFunctions) (p : PrecisionPolicy) (startedAt : ℚ) (attempts : ℕ)
    (profiled : Bool) (landed : Option LandingResult) (log : List PrecisionNote) : Prop where
  stage : SearchStage m p startedAt attempts profiled landed log
  opened : ∃ n ∈ since isAttempt log, isLandCommand n = true

theorem Opened.lasting : Lasting (Opened m p startedAt attempts profiled landed) := by
  intro log n hn h
  have hattempt : isAttempt n = false := by
    rcases hn with hstep | hland
    · cases n with
      | attempted => cases hstep
      | _ => rfl
    · cases n with
      | attempted => cases hland
      | _ => rfl
  refine ⟨?_, ?_⟩
  · rcases hn with hstep | hland
    · exact h.stage.step hstep
    · cases n with
      | command c =>
        cases c with
        | setLandMode => exact h.stage.snoc (Or.inl h.opened) rfl
        | _ => cases hland
      | _ => cases hland
  · obtain ⟨l, hl, hland⟩ := h.opened
    refine ⟨l, ?_, hland⟩
    rw [since_snoc, hattempt, if_neg Bool.false_ne_true]
    exact List.mem_append_left _ hl

/-- The pickup has touched down, and nothing has been noted since. -/
def TouchedDown (log : List PrecisionNote) : Prop :=
  ∃ before, log = before ++ [PrecisionNote.landed .touchdown] ∧
    ∃ timeout, PrecisionNote.done (PrecisionCommand.confirmLanding timeout) ∈ since isAttempt before

/-- The pickup with one more landing attempted. -/
theorem SearchStage.attempted (h : SearchStage m p startedAt attempts profiled landed log)
    (hrule : AttemptRule p log) :
    SearchStage m p startedAt (attempts + 1) profiled landed (log ++ [PrecisionNote.attempted]) := by
  refine ⟨h.grounded.snoc hrule, ?_, ?_, ?_, ?_, ?_⟩
  · rw [latest_snoc]
    exact h.pickup
  · rw [List.countP_append, h.attempts]
    rfl
  · rw [List.countP_append, h.profiled]
    rfl
  · rw [latest_snoc]
    exact h.landed
  · rw [List.countP_append, h.unattached]
    rfl

/-- The pickup with the end of the landing. -/
theorem SearchStage.landedNow (h : SearchStage m p startedAt attempts profiled landed log)
    (result : LandingResult) :
    SearchStage m p startedAt attempts profiled (some result) (log ++ [PrecisionNote.landed result]) := by
  refine ⟨h.grounded.snoc trivial, ?_, ?_, ?_, ?_, ?_⟩
  · rw [latest_snoc]
    exact h.pickup
  · rw [List.countP_append, h.attempts]
    rfl
  · rw [List.countP_append, h.profiled]
    rfl
  · rw [latest_snoc]
    rfl
  · rw [List.countP_append, h.unattached]
    rfl

/-- The pickup with the profile confirmed. -/
theorem SearchStage.profiledNow (h : SearchStage m p startedAt attempts false landed log) :
    SearchStage m p startedAt attempts true landed (log ++ [PrecisionNote.done .requireLandingProfile]) := by
  refine ⟨h.grounded.snoc trivial, ?_, ?_, ?_, ?_, ?_⟩
  · rw [latest_snoc]
    exact h.pickup
  · rw [List.countP_append, h.attempts]
    rfl
  · rw [List.countP_append, h.profiled]
    rfl
  · rw [latest_snoc]
    exact h.landed
  · rw [List.countP_append, h.unattached]
    rfl

/-- **A landing** of a pickup: it is opened right after its start, and a touchdown that it answers
    was confirmed. -/
theorem tells_land (h : SearchStage m p startedAt attempts profiled landed log)
    (hrule : AttemptRule p log) (targetId rounds : ℕ) (anchor : GpsPoint) :
    Tells (w.land m p targetId rounds deadline anchor)
      (fun answer os => ∃ result, answer = .result result ∧
        SearchStage m p startedAt (attempts + 1) profiled (some result) os ∧
        (result = .touchdown → TouchedDown os))
      (fun _ os => Grounded (PickupRule m p) os) log := by
  have hattempted := h.attempted hrule
  have hready : Tells w.cameraReady
      (fun _ os => os = log ++ [PrecisionNote.attempted]) (fun _ os => os = log ++ [PrecisionNote.attempted])
      (log ++ [PrecisionNote.attempted]) :=
    Tells.keeps (A := fun os => os = log ++ [PrecisionNote.attempted])
      (keeps_cameraReady (A := fun os => os = log ++ [PrecisionNote.attempted])) rfl
  unfold land arucoLandPrecision
  refine .bind (.perform (.bind ?_))
  refine .bind (hready.mono (fun _ os hos => ?_) fun _ os hos => by rw [hos]; exact hattempted.grounded)
  rw [hos]
  refine .bind (tells_now (fun t => ?_) fun _ => hattempted.grounded)
  have hstarted : SearchStage m p startedAt (attempts + 1) profiled landed
      (log ++ [PrecisionNote.attempted] ++ [PrecisionNote.time t] ++ [PrecisionNote.started t]) := (hattempted.time t).step rfl
  have hopening : OpeningRule (log ++ [PrecisionNote.attempted] ++ [PrecisionNote.time t] ++ [PrecisionNote.started t]) :=
    Or.inr ⟨startedAt, t, hstarted.pickup, by rw [latest_snoc, latest_snoc]; rfl, by simp⟩
  have hcommand : Opened m p startedAt (attempts + 1) profiled landed
      (log ++ [PrecisionNote.attempted] ++ [PrecisionNote.time t] ++ [PrecisionNote.started t] ++ [PrecisionNote.command .setLandMode]) := by
    refine ⟨hstarted.snoc hopening rfl, .command .setLandMode, ?_, rfl⟩
    rw [since_snoc]
    exact List.mem_append_right _ (List.mem_singleton.mpr rfl)
  refine .bind (.perform (.bind (tells_permission ?_ fun _ => hstarted.grounded)))
  refine .bind (tells_require ?_ fun _ => hcommand.stage.grounded)
  refine .bind ((tells_landLoop_lasting Opened.lasting rounds
    (Opened.lasting _ _ (Or.inl rfl) hcommand)).mono (fun result os hos => ?_)
    fun _ _ hos => hos.stage.grounded)
  refine .pure (.bind (.perform (.pure ⟨result, rfl, hos.1.stage.landedNow result, fun he => ?_⟩)))
  rw [he]
  refine ⟨os, rfl, ?_⟩
  obtain ⟨before, timeout, hos'⟩ := hos.2 he
  refine ⟨timeout, ?_⟩
  rw [hos', since_snoc]
  exact List.mem_append_right _ (List.mem_singleton.mpr rfl)

end Landing

/-! ## 2. The pickup -/

section Sequence

open PrecisionWorld

variable {m : MathFunctions} {p : PrecisionPolicy} {w : PrecisionWorld} {startedAt : ℚ}
  {attempts : ℕ} {profiled : Bool} {landed : Option LandingResult} {log : List PrecisionNote}
  {deadline : ℚ}

/-- The profile is confirmed once; what the clock said stays the last reading. -/
theorem tells_checkProfile (h : SearchStage m p startedAt attempts profiled landed log) :
    Tells (w.checkProfile profiled)
      (fun passed os => latest timeOf os = latest timeOf log ∧
        (passed = true → SearchStage m p startedAt attempts true landed os) ∧
        Grounded (PickupRule m p) os)
      (fun _ os => Grounded (PickupRule m p) os) log := by
  unfold checkProfile
  cases profiled with
  | true => exact .pure ⟨rfl, fun _ => h, h.grounded⟩
  | false =>
    have hcommand : SearchStage m p startedAt attempts false landed
        (log ++ [PrecisionNote.command .requireLandingProfile]) := h.step rfl
    refine .bind (tells_permission ?_ fun _ => h.grounded)
    refine .bind (.perform (.bind (.ask (fun returned => ?_) fun _ => hcommand.grounded)))
    refine .ite (fun _ => .bind (.perform (.pure ⟨?_, fun _ => hcommand.profiledNow,
      hcommand.profiledNow.grounded⟩))) fun _ => .pure ⟨?_, (fun he => by cases he), hcommand.grounded⟩
    · rw [latest_snoc, latest_snoc]
      rfl
    · rw [latest_snoc]
      rfl

theorem tells_retryHover (h : SearchStage m p startedAt attempts profiled landed log)
    (anchor : GpsPoint) : Tells (w.retryHover p deadline anchor)
      (fun _ os => SearchStage m p startedAt attempts profiled landed os)
      (fun _ os => Grounded (PickupRule m p) os) log := by
  unfold retryHover
  have hguided : SearchStage m p startedAt attempts profiled landed
      (log ++ [PrecisionNote.command .setGuidedMode]) := h.step rfl
  have hdone : SearchStage m p startedAt attempts profiled landed
      (log ++ [PrecisionNote.command .setGuidedMode] ++ [PrecisionNote.done .setGuidedMode]) := hguided.step rfl
  refine .bind (tells_permission ?_ fun _ => h.grounded)
  refine .bind (tells_require ?_ fun _ => hguided.grounded)
  refine .bind (.ask (fun hover => ?_) fun _ => hdone.grounded)
  refine .bind (tells_now (fun t => ?_) fun _ => hdone.grounded)
  refine .ite (fun _ => .pure (hdone.time t)) fun _ => ?_
  have hgoto := (hdone.time t).step
    (n := .command (.gotoWaypoint { hover with alt := p.targetHoverHeight } (deadline - t))) rfl
  exact .bind (tells_require (.pure (hgoto.step rfl)) fun _ => hgoto.grounded)

/-- What a pickup is when its landings are over. -/
def LandingsEnd (m : MathFunctions) (p : PrecisionPolicy) (startedAt : ℚ) (down : Bool)
    (log : List PrecisionNote) : Prop :=
  Grounded (PickupRule m p) log ∧ (down = true → TouchedDown log ∧
    ∃ attempts profiled landed, SearchStage m p startedAt attempts profiled landed log)

theorem landingsEnd_false (h : Grounded (PickupRule m p) log) :
    LandingsEnd m p startedAt false log := ⟨h, fun he => by cases he⟩

/-- **The landings**, by induction on how many are left. -/
theorem tells_retryLoop (targetId rounds retries : ℕ) :
    ∀ {attempts profiled landed clearance log},
    SearchStage m p startedAt attempts profiled landed log → attempts + retries ≤ 2 →
    (attempts = 1 → landed = some .retry) →
    Tells (w.retryLoop m p targetId rounds (startedAt + p.acquisitionTimeout) retries profiled
        clearance)
      (LandingsEnd m p startedAt) (fun _ os => Grounded (PickupRule m p) os) log := by
  induction retries with
  | zero => exact fun h _ _ => .pure (landingsEnd_false h.grounded)
  | succ retries ih =>
    intro attempts profiled landed clearance log h hcount hretried
    unfold retryLoop
    refine .bind ((tells_acquireTargetAnchor h targetId clearance).mono (fun found os hos => ?_)
      fun _ _ hos => hos)
    obtain ⟨hstage, htimed⟩ := hos
    cases found with
    | none => exact .pure (landingsEnd_false hstage.grounded)
    | some anchor =>
      obtain ⟨t, ht, hlt⟩ := htimed rfl
      refine .bind ((tells_checkProfile hstage).mono (fun passed os hos => ?_) fun _ _ hos => hos)
      obtain ⟨htime, hpassed, hgrounded⟩ := hos
      cases passed with
      | false => exact .pure (landingsEnd_false hgrounded)
      | true =>
        have hready := hpassed rfl
        have hrule : AttemptRule p os := by
          refine ⟨?_, fun hone => ?_, hready.profiled, startedAt, t, hready.pickup, ?_, hlt⟩
          · rw [hready.attempts]
            omega
          · rw [hready.attempts] at hone
            rw [hready.landed, hretried hone]
          · rw [htime, ht]
        refine .bind ((tells_land hready hrule targetId rounds anchor).mono (fun answer os hos => ?_)
          fun _ _ hos => hos)
        obtain ⟨result, rfl, hlanded, hdown⟩ := hos
        refine .ite (fun htouch => ?_) fun _ => .ite (fun _ => ?_) fun hagain => ?_
        · have hresult : result = .touchdown := by
            rcases htouch with he | he
            · cases he
              rfl
            · cases he
          exact .pure ⟨hlanded.grounded, fun _ => ⟨hdown hresult, _, _, _, hlanded⟩⟩
        · exact .pure (landingsEnd_false hlanded.grounded)
        · rw [not_or, not_not] at hagain
          have hresult : result = .retry := by
            obtain ⟨he, -⟩ := hagain
            cases he
            rfl
          refine .bind ((tells_retryHover hlanded anchor).mono (fun hovering os hos => ?_)
            fun _ _ hos => hos)
          refine .ite (fun _ => ?_) fun _ => .pure (landingsEnd_false hos.grounded)
          exact ih hos (by omega) fun _ => by rw [hresult]

theorem tells_hoverLoop (rounds : ℕ) : ∀ {log},
    SearchStage m p startedAt attempts profiled landed log →
    Tells (w.hoverLoop m p deadline rounds)
      (fun _ os => SearchStage m p startedAt attempts profiled landed os)
      (fun _ os => Grounded (PickupRule m p) os) log := by
  have htimeless : Timeless (SearchStage m p startedAt attempts profiled landed) :=
    fun _ t hos => hos.time t
  induction rounds with
  | zero => exact fun h => .throw h.grounded
  | succ rounds ih =>
    intro log h
    have hagain : ∀ {os}, SearchStage m p startedAt attempts profiled landed os → Tells (do
        let slept ← w.sleepBounded p deadline
        if slept then w.hoverLoop m p deadline rounds else return none)
        (fun _ os => SearchStage m p startedAt attempts profiled landed os)
        (fun _ os => Grounded (PickupRule m p) os) os := by
      intro os hos
      refine .bind ((Tells.keeps (keeps_sleepBounded htimeless deadline) hos).mono
        (fun slept os hos => ?_) fun _ _ hos => hos.grounded)
      exact .ite (fun _ => ih hos) fun _ => .pure hos
    unfold hoverLoop
    refine .bind (tells_now (fun t => ?_) fun _ => h.grounded)
    refine .ite (fun _ => ?_) fun _ => .pure (h.time t)
    refine .bind ((Tells.keeps (keeps_attemptClearance htimeless) (h.time t)).mono
      (fun read os hos => ?_) fun _ _ hos => hos.grounded)
    cases read with
    | none => exact hagain hos
    | some clearance => exact .ite (fun _ => .pure hos) fun _ => hagain hos

/-- **The attachment** comes after the touchdown and a disarm. -/
theorem tells_attachPayload (h : SearchStage m p startedAt attempts profiled landed log)
    (hdown : TouchedDown log) (targetId : ℕ) :
    Tells (w.attachPayload targetId) (fun _ os => Grounded (PickupRule m p) os)
      (fun _ os => Grounded (PickupRule m p) os) log := by
  unfold attachPayload
  have hcommand : SearchStage m p startedAt attempts profiled landed (log ++ [PrecisionNote.command .disarm]) :=
    h.step rfl
  have hdone : SearchStage m p startedAt attempts profiled landed
      (log ++ [PrecisionNote.command .disarm] ++ [PrecisionNote.done .disarm]) := hcommand.step rfl
  obtain ⟨before, rfl, htouch⟩ := hdown
  have hrule : PickupRule m p (before ++ [PrecisionNote.landed .touchdown] ++ [PrecisionNote.command .disarm] ++
      [PrecisionNote.done .disarm]) (.command (.attach targetId)) :=
    ⟨hdone.unattached, before, [PrecisionNote.command .disarm, .done .disarm], by simp, htouch, by simp⟩
  have hattach := hdone.grounded.snoc hrule
  refine .bind (tells_permission ?_ fun _ => h.grounded)
  refine .bind (tells_require ?_ fun _ => hcommand.grounded)
  refine .bind (tells_permission ?_ fun _ => hdone.grounded)
  refine .bind (.perform (.bind (.ask (fun returned => ?_) fun _ => hattach)))
  exact .ite (fun _ => .perform (hattach.snoc trivial)) fun _ => .throw hattach

theorem tells_pickupSequence (targetId : ℕ) (supportsAttachment : Bool) (rounds : ℕ) :
    Tells (w.pickupSequence m p targetId supportsAttachment rounds)
      (fun _ os => Grounded (PickupRule m p) os) (fun _ os => Grounded (PickupRule m p) os) [] := by
  have hready : Tells w.cameraReady (fun _ os => os = []) (fun _ os => os = []) [] :=
    Tells.keeps (A := fun os => os = []) (keeps_cameraReady (A := fun os => os = [])) rfl
  unfold pickupSequence
  refine .ite (fun _ => .throw Grounded.nil) fun _ => ?_
  refine .bind (hready.mono (fun _ os hos => ?_) fun _ os hos => by rw [hos]; exact Grounded.nil)
  rw [hos]
  refine .bind (tells_now (fun startedAt => ?_) fun _ => Grounded.nil)
  have hstart : SearchStage m p startedAt 0 false none ([] ++ [PrecisionNote.time startedAt] ++ [PrecisionNote.pickup startedAt]) :=
    have htime : Grounded (PickupRule m p) ([] ++ [PrecisionNote.time startedAt]) := Grounded.nil.snoc trivial
    ⟨htime.snoc trivial, rfl, rfl, rfl, rfl, rfl⟩
  have hguided := hstart.step (n := .command .setGuidedMode) rfl
  have hdone := hguided.step (n := .done .setGuidedMode) rfl
  have htimeless : Timeless (SearchStage m p startedAt 0 false none) := fun _ t hos => hos.time t
  refine .bind (.perform (.bind (tells_permission ?_ fun _ => hstart.grounded)))
  refine .bind (tells_require ?_ fun _ => hguided.grounded)
  refine .bind ((Tells.keeps (keeps_readClearance htimeless) hdone).mono (fun clearance os hos => ?_)
    fun _ _ hos => hos.grounded)
  refine .bind (tells_permission ?_ fun _ => hos.grounded)
  refine .bind (tells_now (fun t => ?_) fun _ => hos.grounded)
  refine .ite (fun _ => .pure (hos.time t).grounded) fun _ => ?_
  have hmove := (hos.time t).step (n := .command (.moveRelative
    ⟨0, 0, clearance.projected - p.targetHoverHeight⟩
    (startedAt + p.acquisitionTimeout - t))) rfl
  have hmoved := hmove.step (n := .done (.moveRelative
    ⟨0, 0, clearance.projected - p.targetHoverHeight⟩
    (startedAt + p.acquisitionTimeout - t))) rfl
  refine .bind (tells_require ?_ fun _ => hmove.grounded)
  refine .bind (tells_now (fun t' => ?_) fun _ => hmoved.grounded)
  refine .ite (fun _ => .pure (hmoved.time t').grounded) fun _ => ?_
  refine .bind ((tells_hoverLoop rounds (hmoved.time t')).mono (fun found os hos => ?_)
    fun _ _ hos => hos)
  cases found with
  | none => exact .pure hos.grounded
  | some clearance =>
    refine .bind ((tells_retryLoop targetId rounds 2 hos (le_refl _) fun he => by cases he).mono
      (fun down os hos => ?_) fun _ _ hos => hos)
    obtain ⟨hgrounded, hdown⟩ := hos
    cases down with
    | false => exact .pure hgrounded
    | true =>
      obtain ⟨htouch, attempts, profiled, landed, hstage⟩ := hdown rfl
      exact .bind ((tells_attachPayload hstage htouch targetId).mono (fun _ _ hos => .pure hos)
        fun _ _ hos => hos)

end Sequence

/-! ## 3. The result -/

/-- The clock is before the deadline of the pickup when a landing starts. -/
def StartsInTime (p : PrecisionPolicy) (log : List PrecisionNote) : Prop :=
  ∀ startedAt t, PrecisionNote.pickup startedAt ∈ log → PrecisionNote.started t ∈ log → t < startedAt + p.acquisitionTimeout

/-- The LAND command that opens a landing is sent before the deadline of the pickup. -/
def LandsInTime (p : PrecisionPolicy) (log : List PrecisionNote) : Prop :=
  ∀ before after, log = before ++ PrecisionNote.command .setLandMode :: after →
    (∀ n ∈ since isAttempt before, isLandCommand n = false) →
    ∃ startedAt t, latest pickupOf before = some startedAt ∧ latest timeOf before = some t ∧
      t < startedAt + p.acquisitionTimeout

/-- **What a pickup does**, whatever it meets. -/
structure Coherent (m : MathFunctions) (p : PrecisionPolicy) (log : List PrecisionNote) :
    Prop where
  grounded : Grounded (PickupRule m p) log
  timely : StartsInTime p log → LandsInTime p log

theorem landsInTime {m : MathFunctions} {p : PrecisionPolicy} {log : List PrecisionNote}
    (h : Grounded (PickupRule m p) log) (hin : StartsInTime p log) : LandsInTime p log := by
  intro before after hlog hfirst
  have hbefore : ∀ n ∈ before, n ∈ log := fun n hn => by
    rw [hlog]
    exact List.mem_append_left _ hn
  rcases h before _ after hlog with ⟨n, hn, hland⟩ | ⟨startedAt, t, hpickup, ht, hstarted⟩
  · rw [hfirst n hn] at hland
    cases hland
  · obtain ⟨n, hn, hread⟩ := latest_mem hpickup
    have hbegan : PrecisionNote.pickup startedAt ∈ before := by
      cases n with
      | pickup => cases hread; exact hn
      | _ => cases hread
    exact ⟨startedAt, t, hpickup, ht, hin startedAt t (hbefore _ hbegan) (hbefore _ hstarted)⟩

/-- **Every pickup is coherent.** -/
theorem pickup_coherent (m : MathFunctions) (p : PrecisionPolicy) (w : PrecisionWorld)
    (targetId : ℕ) (supportsAttachment : Bool) (rounds asked : ℕ) :
    Coherent m p
      (Acting.call (w.pickupSequence m p targetId supportsAttachment rounds) asked).2.2 := by
  have hgrounded := Tells.call (P := fun _ os => Grounded (PickupRule m p) os)
    (@tells_pickupSequence m p w targetId supportsAttachment rounds) asked
  exact ⟨hgrounded, landsInTime hgrounded⟩

/-! ### A pickup in time, and one that is late -/

section Runs

/-- The vehicle hovers over the marker, and every command is confirmed. -/
def pickupWorld (clock : ℕ → ℚ) (landsAt : ℕ) : PrecisionWorld :=
  { hoverWorld clock landsAt with
    command := fun c _ => .ok (match c with
      | .requireLandingProfile => .bool true
      | .attach _ => .bool true
      | _ => .int 0) }

def hoverPickup (clock : ℕ → ℚ) : Except PrecisionError Bool × ℕ × List PrecisionNote :=
  Acting.call ((pickupWorld clock 98).pickupSequence levelMath everySecond 2 true 2) 0

/-- A pickup whose clock stands still attaches the payload, its landing opened in time. -/
theorem pickup_coherent_attached :
    (hoverPickup fun _ => 10).1 = .ok true ∧
    .attach 2 ∈ (hoverPickup fun _ => 10).2.2.filterMap commandOf ∧
    LandsInTime everySecond (hoverPickup fun _ => 10).2.2 := by
  refine ⟨by decide +kernel, by decide +kernel, ?_⟩
  refine (pickup_coherent levelMath everySecond (pickupWorld (fun _ => 10) 98) 2 true 2 0).timely ?_
  intro startedAt t hpickup hstarted
  have hbegan : ∀ u ∈ (hoverPickup fun _ => 10).2.2.filterMap pickupOf, u = 10 := by decide +kernel
  have hstart : ∀ u ∈ (hoverPickup fun _ => 10).2.2.filterMap startedOf, u = 10 := by
    decide +kernel
  rw [hbegan startedAt (List.mem_filterMap.mpr ⟨_, hpickup, rfl⟩),
    hstart t (List.mem_filterMap.mpr ⟨_, hstarted, rfl⟩)]
  decide +kernel

/-- **A landing opened too late**: the check of the profile takes until after the deadline of the
    pickup, and LAND is commanded. -/
theorem late_attempt :
    NonDecreasing (hoverPickup fun n => if n < 92 then 10 else 20).2.2 ∧
    .setLandMode ∈ (hoverPickup fun n => if n < 92 then 10 else 20).2.2.filterMap commandOf ∧
    ¬ LandsInTime everySecond (hoverPickup fun n => if n < 92 then 10 else 20).2.2 := by
  refine ⟨?_, by decide +kernel, fun hin => ?_⟩
  · show List.Pairwise _ _
    decide +kernel
  · generalize hlog : (hoverPickup fun n => if n < 92 then 10 else 20).2.2 = log at hin
    have hland : (log[55]?).bind commandOf = some .setLandMode := by
      rw [← hlog]
      decide +kernel
    have hfirst : (since isAttempt (log.take 55)).any isLandCommand = false := by
      rw [← hlog]
      decide +kernel
    have hpickup : latest pickupOf (log.take 55) = some 10 := by
      rw [← hlog]
      decide +kernel
    have htime : latest timeOf (log.take 55) = some 20 := by
      rw [← hlog]
      decide +kernel
    obtain ⟨n, hn, hcommand⟩ := Option.bind_eq_some_iff.mp hland
    have hnote : n = .command .setLandMode := by
      cases n with
      | command => cases hcommand; rfl
      | _ => cases hcommand
    have hsplit := split_at hn
    rw [hnote] at hsplit
    obtain ⟨startedAt, t, hp, ht, hlt⟩ := hin _ _ hsplit fun n hn => by
      simpa using List.any_eq_false.mp hfirst n hn
    rw [hpickup] at hp
    rw [htime] at ht
    cases hp
    cases ht
    exact absurd hlt (by decide +kernel)

end Runs

end DroneSim
