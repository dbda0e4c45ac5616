/-
  File:      DroneSim/Comp2026/PayloadRelease.lean
  Subject:   The guarded payload release (control/drone_control.py, release_payload_if_stable,
             _actuate_guarded).

  A hold that returns True leaves a confirmation; the next release takes it, and every release
  output passes a boundary where the confirmation's age and a new evidence are checked.

  * `hold_ends` -- what a hold leaves behind, `release_ends` -- what a release puts out;
  * `Confirmed` -- a confirmation is that of the last hold;
  * `release_warranted` -- **every release output has a current hold behind it that no release with
    a usable AGL has taken**;
  * `refused_release_takes_nothing` -- one whose AGL is refused leaves it for the next.
-/
import DroneSim.Comp2026.ReleaseHold

namespace DroneSim

open Library Library.Attempt Library.Acting

/-! ## 1. The call -/

/-- One `gated_output`: what its checks meet. -/
structure GatedOutput where
  /-- How `_require_vital_output_snapshot` ends. -/
  vital : Except ReleaseError Unit
  /-- How far the clock went on before the age of the confirmation is taken. -/
  aged : ℚ≥0
  /-- And before the evidence is read. -/
  elapsed : ℚ≥0
  reading : Sighting
  /-- `permission_is_current`, after the validation. -/
  permission : Bool

/-- One `_actuate_guarded`. -/
structure Actuation where
  /-- How what comes before the gate ends. -/
  entered : Except ReleaseError Unit
  gated : GatedOutput

/-- What a dropper does with one of the two actuators it is given. `output` is how the output ends
    where it runs, and `caught` whether the dropper goes on after an error. -/
structure DropperCall where
  /-- `release_actuate`; otherwise `continuation_actuate`. -/
  release : Bool
  actuation : Actuation
  output : Except ReleaseError Unit
  caught : Bool

/-- The dropper of a call. -/
inductive Dropper where
  /-- One without `drop_with_guard`: how `drop()` ends where it runs. -/
  | plain (actuation : Actuation) (drop : Except ReleaseError (Option Bool))
  /-- What `drop_with_guard` does, and how it ends. -/
  | guarded (calls : List DropperCall) (answer : Except ReleaseError Unit)

/-- What a release meets. -/
structure ReleaseScript where
  elapsed : ℚ≥0
  dropper : Dropper

namespace ReleaseControl

variable (d : ReleaseSetup) (c : ReleaseStabilityConfig) (k : ReleaseHoldConfirmation)

/-- `confirmation_age < 0 or confirmation_age > config.max_observation_gap_seconds`. -/
def isExpired (age : ℚ) : Bool :=
  decide (age < 0) || decide (c.maxObservationGap < age)

/-- The last check of `validate_boundary`. -/
def checkCurrent (e : ReleaseEvidence) : Releasing Unit := do
  let s ← current
  if e.generations ≠ k.evidence.generations ||
      e.sequences.anyBelow (s.lastBoundaryEvidence.getD k.evidence).sequences then
    throw (.flight "release confirmation is no longer current")
  else update fun s => { s with lastBoundaryEvidence := some e }

/-- `validate_boundary`: when it was passed, and on which evidence. -/
def validateBoundary (g : GatedOutput) : Releasing (ℚ × ReleaseEvidence) := do
  let time ← monotonic g.aged
  if isExpired c (time - k.evidence.observedAt) then
    throw (.flight "release confirmation expired")
  else
    let now ← monotonic g.elapsed
    let e ← readEvidence d k.waypoint k.requiredAgl g.reading now
    if !evidenceIsStable c k.requiredAgl e then
      throw (.flight "release observations are outside stability limits")
    else
      checkCurrent k e
      return (time, e)

/-- `_actuate_guarded(output, validate_snapshot=validate_boundary)`; the output runs inside the
    gate. -/
def actuateRelease (a : Actuation) (output : Releasing Unit) : Releasing Unit := do
  ofExcept a.entered
  ofExcept a.gated.vital
  let (time, e) ← validateBoundary d c k a.gated
  if a.gated.permission then
    perform (.released time e)
    output
  else throw (.raised "companion flight authority changed at final output boundary")

/-- `_actuate_guarded(output)`. -/
def actuateContinuation (a : Actuation) (output : Releasing Unit) : Releasing Unit := do
  ofExcept a.entered
  ofExcept a.gated.vital
  if a.gated.permission then
    perform .continued
    output
  else throw (.raised "companion flight authority changed at final output boundary")

/-- `release`, the output for a dropper without `drop_with_guard`. -/
def releaseOutput (drop : Except ReleaseError (Option Bool)) : Releasing Unit := do
  let result ← ofExcept drop
  match result with
  | none => return ()
  | some _ => throw (.raised "payload release command returned an invalid result")

/-- One call of an actuator. -/
def actuate (call : DropperCall) : Releasing Unit :=
  if call.release then actuateRelease d c k call.actuation (ofExcept call.output)
  else actuateContinuation call.actuation (ofExcept call.output)

/-- The calls of a `drop_with_guard`, one after another. -/
def dropWithGuard (d : ReleaseSetup) (c : ReleaseStabilityConfig) (k : ReleaseHoldConfirmation) :
    List DropperCall → Releasing Unit
  | [] => return ()
  | call :: calls => do
    tryCatch (actuate d c k call) fun error => if call.caught then return () else throw error
    dropWithGuard d c k calls

/-- The end of `release_payload_if_stable`. -/
def releaseBy : Dropper → Releasing Unit
  | .plain a drop => actuateRelease d c k a (releaseOutput drop)
  | .guarded calls answer => do
    dropWithGuard d c k calls
    ofExcept answer

/-- The release with the confirmation it took. -/
def releaseConfirmed (script : ReleaseScript) : Releasing Unit := do
  let c ← ofExcept (releaseConfiguration d)
  let now ← monotonic script.elapsed
  if isExpired c (now - k.evidence.observedAt) then
    throw (.flight "release confirmation expired")
  else
    update fun s => { s with lastBoundaryEvidence := some k.evidence }
    releaseBy d c k script.dropper

/-- `confirmation.waypoint != coord or ..`, of a confirmation there is. -/
def isMismatched (coord : GpsCoord) (lidar : ℕ) (agl : ℚ) : Bool :=
  decide (k.waypoint ≠ coord) || decide (k.lidarIdentity ≠ lidar) || decide (k.requiredAgl ≠ agl)

/-- **`release_payload_if_stable`.** -/
def releasePayloadIfStable (coord : GpsCoord) (lidar : ℕ) (required : FloatValue)
    (script : ReleaseScript) : Releasing Unit := do
  perform (.releaseBegan coord lidar required)
  let agl ← ofExcept (requirePositiveAgl required)
  let s ← current
  update fun s => { s with confirmation := none }
  match s.confirmation with
  | none => throw (.flight "release confirmation is missing or mismatched")
  | some k =>
    if isMismatched k coord lidar agl then
      throw (.flight "release confirmation is missing or mismatched")
    else releaseConfirmed d k script

end ReleaseControl

/-- A call of the controller. -/
inductive ReleaseCall where
  | hold (coord : GpsCoord) (lidar : ℕ) (required : FloatValue) (script : HoldScript)
  | release (coord : GpsCoord) (lidar : ℕ) (required : FloatValue) (script : ReleaseScript)

namespace ReleaseControl

/-- The controller, made at some time. -/
def created (clock : ℚ) : ReleaseControl := ⟨clock, none, .empty, 0, none⟩

/-- One call. -/
def serve (d : ReleaseSetup) : ReleaseCall → Releasing Unit
  | .hold coord lidar required script => do
    let _ ← holdWaypointUntilStable d coord lidar required script
    return ()
  | .release coord lidar required script => releasePayloadIfStable d coord lidar required script

/-! ## 2. What the results speak of -/

/-- No call begins or ends with the note. -/
def isReading : ReleaseNote → Bool
  | .evidence _ => true
  | .folded _ _ _ => true
  | _ => false

def isReleased : ReleaseNote → Bool
  | .released _ _ => true
  | _ => false

/-- A note of a release call after its beginning. -/
def isRelease : ReleaseNote → Bool
  | .evidence _ => true
  | .released _ _ => true
  | .continued => true
  | _ => false

/-- A release call whose AGL is refused. -/
def isRefusedRelease : ReleaseNote → Bool
  | .releaseBegan _ _ required => (requirePositiveAgl required).toOption.isNone
  | _ => false

/-- The boundary holds up the confirmation. -/
structure Current (c : ReleaseStabilityConfig) (k : ReleaseHoldConfirmation) (time : ℚ)
    (boundary : ReleaseEvidence) : Prop where
  notBefore : 0 ≤ time - k.evidence.observedAt
  notExpired : time - k.evidence.observedAt ≤ c.maxObservationGap
  stable : evidenceIsStable c k.requiredAgl boundary = true
  unrevoked : boundary.generations = k.evidence.generations
  notBelow : boundary.sequences.anyBelow k.evidence.sequences = false

/-- The log ends with a hold that left this confirmation, and what came `since`. -/
def EndsWithHold (k : ReleaseHoldConfirmation) (since log : List ReleaseNote) : Prop :=
  ∃ earlier reads, log = earlier ++
      .holdBegan k.waypoint k.lidarIdentity (some k.requiredAgl) :: reads ++
      .holdReturned true :: since ∧
    (∀ n ∈ reads, isReading n = true) ∧ (evidences reads).getLast? = some k.evidence

/-- **A release output after this log is warranted**: the last hold returned True, since then there
    were only calls of the kind `between`, and the call that puts the output out, for an equal
    waypoint, the same lidar and the same AGL, stands on a boundary that holds the hold up. -/
def Warranted (between : ReleaseNote → Bool) (d : ReleaseSetup) (before : List ReleaseNote)
    (time : ℚ) (boundary : ReleaseEvidence) : Prop :=
  ∃ c ∈ d.configuration, ∃ k since during log,
    before = log ++ ReleaseNote.releaseBegan k.waypoint k.lidarIdentity (some k.requiredAgl) :: during ∧
    EndsWithHold k since log ∧ (∀ n ∈ since, between n = true) ∧
    (∀ n ∈ during, isRelease n = true) ∧ Current c k time boundary

/-! ## 3. What a hold leaves -/

variable {log : List ReleaseNote} {s t : ReleaseControl} {r : Acting ReleaseControl ReleaseNote}

section Holds

variable {α : Type} {d : ReleaseSetup} {c : ReleaseStabilityConfig} {coord : GpsCoord} {lidar : ℕ}
  {agl : ℚ} {began : ReleaseNote}

/-- A hold on its way: no confirmation, and nothing but readings since it began. -/
structure Quiet (began : ReleaseNote) (r : Acting ReleaseControl ReleaseNote) : Prop where
  unconfirmed : r.state.confirmation = none
  readings : ∃ reads, r.log = began :: reads ∧ ∀ n ∈ reads, isReading n = true

theorem Quiet.note {n : ReleaseNote} (h : Quiet began ⟨s, log⟩)
    (ht : t.confirmation = s.confirmation) (hn : isReading n = true) :
    Quiet began ⟨t, log ++ [n]⟩ := by
  obtain ⟨hnone, reads, rfl, hreads⟩ := h
  refine ⟨ht.trans hnone, reads ++ [n], rfl, fun m hm => ?_⟩
  rcases List.mem_append.mp hm with hm | hm
  · exact hreads m hm
  · rw [List.mem_singleton.mp hm, hn]

theorem Quiet.state (h : Quiet began ⟨s, log⟩) (ht : t.confirmation = s.confirmation) :
    Quiet began ⟨t, log⟩ :=
  ⟨ht.trans h.unconfirmed, h.readings⟩

/-- No confirmation, and no release output so far. -/
structure Spent (r : Acting ReleaseControl ReleaseNote) : Prop where
  unconfirmed : r.state.confirmation = none
  unreleased : ∀ n ∈ r.log, isReleased n = false

theorem isReleased_reading {n : ReleaseNote} (h : isReading n = true) : isReleased n = false := by
  cases n with
  | released => cases h
  | _ => rfl

theorem Quiet.spent {required : FloatValue} (h : Quiet (.holdBegan coord lidar required) r) :
    Spent r := by
  obtain ⟨reads, hlog, hreads⟩ := h.readings
  refine ⟨h.unconfirmed, fun n hn => ?_⟩
  rw [hlog] at hn
  rcases List.mem_cons.mp hn with rfl | hn
  · rfl
  · exact isReleased_reading (hreads n hn)

theorem Spent.note {n : ReleaseNote} (h : Spent ⟨s, log⟩) (hn : isReleased n = false) :
    Spent ⟨s, log ++ [n]⟩ := by
  refine ⟨h.unconfirmed, fun m hm => ?_⟩
  rcases List.mem_append.mp hm with hm | hm
  · exact h.unreleased m hm
  · rw [List.mem_singleton.mp hm, hn]

theorem quiet_monotonic (elapsed : ℚ≥0) : Keeps (Quiet began) (monotonic elapsed) :=
  fun _ h => wp_monotonic elapsed |>.mpr (h.state rfl)

theorem quiet_readEvidence (reading : Sighting) (now : ℚ) :
    Keeps (Quiet began) (readEvidence d coord agl reading now) :=
  fun _ h => wp_readEvidence _ _ (fun _ => h.note rfl rfl) fun _ => h

theorem quiet_consume (e : ReleaseEvidence) (observedAt : ℚ) :
    Keeps (Quiet began) (consume c agl e observedAt) :=
  fun _ h => (wp_consume e observedAt).mpr (h.note rfl rfl)

theorem quiet_retrying {x : Releasing α} (caught : ReleaseError → Bool)
    (h : Keeps (Quiet began) x) : Keeps (Quiet began) (retrying caught x) :=
  fun _ hr => wp_retrying ((h _ hr).mono (fun _ _ ht => ht) fun _ _ ht => ⟨ht, ht.state rfl⟩)

theorem quiet_readBoundaries (boundaries : List (Boundary × ℚ≥0)) :
    Keeps (Quiet began) (readBoundaries d coord agl boundaries) := by
  induction boundaries with
  | nil => exact .pure _
  | cons b boundaries ih =>
    obtain ⟨b, wait⟩ := b
    unfold readBoundaries
    exact (quiet_monotonic _).bind fun _ => (quiet_readEvidence _ _).bind fun _ =>
      ih.bind fun _ => .pure _

theorem quiet_foldReissue (es : List (ReleaseEvidence × ℚ≥0)) (reset ready : Bool) :
    Keeps (Quiet began) (foldReissue c agl es reset ready) := by
  induction es generalizing reset ready with
  | nil => exact .pure _
  | cons e es ih =>
    obtain ⟨e, wait⟩ := e
    unfold foldReissue
    exact (quiet_monotonic _).bind fun _ => (quiet_consume _ _).bind fun _ => ih _ _

theorem quiet_reissueDue (reissue : Reissue) (now : ℚ) (ready : Bool) :
    Keeps (Quiet began) (reissueDue d c coord agl reissue now ready) := by
  have hsend : Keeps (Quiet began) (sendWaypoint d coord agl reissue) := by
    unfold sendWaypoint
    exact (quiet_readBoundaries _).bind fun _ => (Keeps.ofExcept _).bind fun _ => .pure _
  have hreissue : Keeps (Quiet began) (reissueWaypoint d c coord agl reissue now ready) := by
    unfold reissueWaypoint
    refine (quiet_retrying _ hsend).bind fun sent => ?_
    split
    · exact .pure _
    · exact .throw _
    · refine (quiet_foldReissue _ _ _).bind fun _ => Keeps.bind ?_ fun _ => .pure _
      exact fun _ h => h.state rfl
  intro r h
  unfold reissueDue
  rw [wp_bind, wp_current]
  split
  · exact hreissue r h
  · exact h

/-- The evidences a handover has read end with the one it will confirm. -/
theorem validateHandover_last (boundaries : List Boundary) {handover : Option ReleaseEvidence}
    {ready : Bool} (h : Quiet began r)
    (hlast : ∀ e, handover = some e → (evidences r.log).getLast? = some e) :
    wp (validateHandover d c coord agl boundaries handover ready)
      (fun result t => Quiet began t ∧ ∀ e, result.1 = some e →
        (evidences t.log).getLast? = some e) (fun _ => Quiet began) r := by
  induction boundaries generalizing handover ready r with
  | nil => exact ⟨h, hlast⟩
  | cons b boundaries ih =>
    unfold validateHandover
    rw [wp_bind, wp_monotonic, wp_bind]
    refine wp_readEvidence _ _ (fun e => ?_) fun _ => h.state rfl
    rw [wp_bind, wp_consume]
    refine ih ((h.note rfl rfl).note rfl rfl) fun e' he' => ?_
    cases he'
    simp [evidences]

/-- A hold that returned True: its log, and the confirmation it left. -/
def LeftBehind (coord : GpsCoord) (lidar : ℕ) (agl : ℚ)
    (r : Acting ReleaseControl ReleaseNote) : Prop :=
  ∃ e reads, r.state.confirmation = some ⟨coord, lidar, agl, e⟩ ∧
    r.log = .holdBegan coord lidar (some agl) :: reads ++ [ReleaseNote.holdReturned true] ∧
    (∀ n ∈ reads, isReading n = true) ∧ (evidences reads).getLast? = some e

/-- What the loop may do with its result. -/
def HoldConcluded (coord : GpsCoord) (lidar : ℕ) (agl : ℚ) (returned : Option Bool)
    (r : Acting ReleaseControl ReleaseNote) : Prop :=
  match returned with
  | none => Quiet (.holdBegan coord lidar (some agl)) r
  | some true => LeftBehind coord lidar agl r
  | some false => Spent r

theorem handOver_leaves (handover : Handover) :
    ∀ r, Quiet (.holdBegan coord lidar (some agl)) r →
      wp (handOver d c coord lidar agl handover) (HoldConcluded coord lidar agl)
        (fun _ => Spent) r := by
  intro r h
  unfold handOver
  rw [wp_bind]
  refine wp_retrying ?_
  unfold validateGuarded
  rw [wp_bind]
  refine (validateHandover_last handover.boundaries h fun _ he => by cases he).mono
    (fun result t ht => ?_) fun _ t ht => ⟨ht.spent, ht.state rfl⟩
  obtain ⟨hquiet, hlast⟩ := ht
  rw [wp_bind]
  refine (wp_ofExcept _).mpr ⟨fun _ _ => ?_, fun _ _ => ⟨hquiet.spent, hquiet.state rfl⟩⟩
  obtain ⟨_ | e, passed⟩ := result
  · exact hquiet.spent
  cases passed with
  | false => exact hquiet
  | true =>
    obtain ⟨reads, hlog, hreads⟩ := hquiet.readings
    have he := hlast e rfl
    rw [hlog] at he
    rw [wp_pure]
    dsimp only
    unfold confirmHold
    rw [if_pos rfl, wp_bind, wp_update, wp_bind, wp_perform]
    exact ⟨e, reads, rfl, congrArg (· ++ [ReleaseNote.holdReturned true]) hlog, hreads, he⟩

theorem holdPass_leaves (round : HoldRound) :
    ∀ r, Quiet (.holdBegan coord lidar (some agl)) r →
      wp (holdPass d c coord lidar agl round) (HoldConcluded coord lidar agl)
        (fun _ => Spent) r := by
  intro r h
  unfold holdPass
  rw [wp_bind]
  refine (wp_ofExcept _).mpr ⟨fun _ _ => ?_, fun _ _ => h.spent⟩
  rw [wp_bind]
  refine (quiet_monotonic _ r h).mono (fun now t ht => ?_) fun _ _ ht => ht.spent
  rw [wp_bind]
  refine (quiet_retrying _ (quiet_readEvidence _ _) t ht).mono (fun polled t ht => ?_)
    fun _ _ ht => ht.spent
  cases polled with
  | none => exact ht
  | some e =>
    show wp (consume c agl e now >>= _) _ _ t
    rw [wp_bind]
    refine (quiet_consume _ _ t ht).mono (fun folded t ht => ?_) fun _ _ ht => ht.spent
    rw [wp_bind]
    refine (quiet_reissueDue _ _ _ t ht).mono (fun ready t ht => ?_) fun _ _ ht => ht.spent
    rcases ready with _ | _ | _
    · exact ht
    · exact ht
    · exact handOver_leaves round.handover t ht

theorem holdLoop_leaves (rounds : List HoldRound) (startedAt : ℚ) :
    ∀ r, Quiet (.holdBegan coord lidar (some agl)) r →
      wp (holdLoop d c coord lidar agl startedAt rounds)
        (fun _ t => Spent t ∨ LeftBehind coord lidar agl t)
        (fun _ => Spent) r := by
  induction rounds with
  | nil => exact fun r h => .inl h.spent
  | cons round rounds ih =>
    intro r h
    unfold holdLoop
    rw [wp_bind]
    refine (quiet_monotonic _ r h).mono (fun time t ht => ?_) fun _ _ ht => ht.spent
    split
    · rw [wp_bind]
      refine (holdPass_leaves round t ht).mono (fun returned u hu => ?_) fun _ _ hu => hu
      rcases returned with _ | _ | _
      · exact ih u hu
      · exact .inl hu
      · exact .inr hu
    · rw [wp_bind, wp_perform]
      exact .inl (ht.spent.note rfl)

/-- **The ends of a hold.** -/
def HoldEnd (d : ReleaseSetup) (coord : GpsCoord) (lidar : ℕ) (required : FloatValue)
    (s : ReleaseControl) (r : Acting ReleaseControl ReleaseNote) : Prop :=
  Spent r ∨
    (∃ agl, d.configuration ≠ none ∧ required = some agl ∧ LeftBehind coord lidar agl r) ∨
    d.configuration = none ∧ r.state.confirmation = s.confirmation ∧
      ∀ n ∈ r.log, isReleased n = false

theorem hold_ends (d : ReleaseSetup) (coord : GpsCoord) (lidar : ℕ) (required : FloatValue)
    (script : HoldScript) (s : ReleaseControl) :
    wp (holdWaypointUntilStable d coord lidar required script)
      (fun _ => HoldEnd d coord lidar required s) (fun _ => HoldEnd d coord lidar required s)
      ⟨s, []⟩ := by
  unfold holdWaypointUntilStable
  rw [wp_bind, wp_perform, wp_bind]
  refine (wp_ofExcept _).mpr ⟨fun c hc => ?_, fun error herror => ?_⟩
  · rw [wp_bind, wp_update, wp_bind]
    have hquiet : ∀ t : ReleaseControl, t.confirmation = none →
        Quiet (.holdBegan coord lidar required) ⟨t, [.holdBegan coord lidar required]⟩ :=
      fun t ht => ⟨ht, [], rfl, fun _ hn => (List.not_mem_nil hn).elim⟩
    have hspent := (hquiet { s with confirmation := none } rfl).spent
    refine (wp_ofExcept _).mpr ⟨fun agl hagl => ?_, fun _ _ => .inl hspent⟩
    obtain rfl := requirePositiveAgl_ok hagl
    rw [wp_bind]
    refine (wp_ofExcept _).mpr ⟨fun _ _ => ?_, fun _ _ => .inl hspent⟩
    split
    · exact .inl hspent
    rw [wp_bind]
    refine (wp_ofExcept _).mpr ⟨fun _ _ => ?_, fun _ _ => .inl hspent⟩
    rw [wp_bind, wp_monotonic, wp_bind, wp_update]
    refine (holdLoop_leaves script.rounds _ _ (hquiet _ rfl)).mono (fun _ t ht => ?_)
      fun _ _ ht => .inl ht
    rcases ht with ht | ht
    · exact .inl ht
    · exact .inr (.inl ⟨agl, by simp [releaseConfiguration_ok hc], rfl, ht⟩)
  · refine .inr (.inr ⟨releaseConfiguration_error herror, rfl, fun n hn => ?_⟩)
    rw [List.mem_singleton.mp hn]
    rfl

end Holds

/-! ## 4. What a release puts out -/

section Releases

variable {d : ReleaseSetup} {c : ReleaseStabilityConfig} {k : ReleaseHoldConfirmation}
  {began : ReleaseNote}

theorem anyBelow_eq_false {a b : PerSource} : a.anyBelow b = false ↔ b.location ≤ a.location ∧
    b.velocity ≤ a.velocity ∧ b.attitude ≤ a.attitude ∧ b.range ≤ a.range := by
  simp [PerSource.anyBelow, and_assoc]

theorem anyBelow_trans {a b e : PerSource} (h : a.anyBelow b = false)
    (h' : b.anyBelow e = false) : a.anyBelow e = false := by
  rw [anyBelow_eq_false] at h h' ⊢
  omega

/-- What a release with this confirmation may note. -/
def Allowed (c : ReleaseStabilityConfig) (k : ReleaseHoldConfirmation) (n : ReleaseNote) : Prop :=
  isRelease n = true ∧ ∀ time boundary, n = .released time boundary → Current c k time boundary

/-- A release on its way: the confirmation is taken, and no boundary fell behind the handover. -/
structure Standing (c : ReleaseStabilityConfig) (k : ReleaseHoldConfirmation) (began : ReleaseNote)
    (r : Acting ReleaseControl ReleaseNote) : Prop where
  unconfirmed : r.state.confirmation = none
  last : ∃ e, r.state.lastBoundaryEvidence = some e ∧
    e.sequences.anyBelow k.evidence.sequences = false
  during : ∃ during, r.log = began :: during ∧ ∀ n ∈ during, Allowed c k n

theorem Standing.note {n : ReleaseNote} (h : Standing c k began ⟨s, log⟩) (hn : Allowed c k n) :
    Standing c k began ⟨s, log ++ [n]⟩ := by
  obtain ⟨hnone, hlast, during, rfl, hduring⟩ := h
  refine ⟨hnone, hlast, during ++ [n], rfl, fun m hm => ?_⟩
  rcases List.mem_append.mp hm with hm | hm
  · exact hduring m hm
  · rw [List.mem_singleton.mp hm]
    exact hn

theorem Standing.tick (h : Standing c k began ⟨s, log⟩) (elapsed : ℚ≥0) :
    Standing c k began ⟨{ s with clock := s.clock + elapsed }, log⟩ :=
  ⟨h.unconfirmed, h.last, h.during⟩

theorem isExpired_eq_false {age : ℚ} :
    isExpired c age = false ↔ 0 ≤ age ∧ age ≤ c.maxObservationGap := by
  simp [isExpired]

/-- **A boundary that is passed holds the confirmation up.** -/
theorem validateBoundary_current (g : GatedOutput) (h : Standing c k began r) :
    wp (validateBoundary d c k g)
      (fun passed t => Standing c k began t ∧ Current c k passed.1 passed.2)
      (fun _ => Standing c k began) r := by
  unfold validateBoundary
  rw [wp_bind, wp_monotonic]
  split
  · exact h.tick g.aged
  rename_i hage
  obtain ⟨hafter, hbefore⟩ := isExpired_eq_false.mp (Bool.eq_false_of_not_eq_true hage)
  rw [wp_bind, wp_monotonic, wp_bind]
  have hstanding := (h.tick g.aged).tick g.elapsed
  refine wp_readEvidence _ _ (fun e => ?_) fun _ => hstanding
  have hread := hstanding.note (n := .evidence e) ⟨rfl, fun _ _ he => by cases he⟩
  split
  · exact hread
  rename_i hstable
  rw [wp_bind]
  unfold checkCurrent
  rw [wp_bind, wp_current]
  obtain ⟨last, hlast, hnotBelow⟩ := hread.last
  rw [hlast]
  split
  · exact hread
  rename_i hcurrent
  simp only [Option.getD_some, Bool.or_eq_true, decide_eq_true_eq, ne_eq, not_or, not_not,
    Bool.not_eq_true] at hcurrent
  have hfresh := anyBelow_trans hcurrent.2 hnotBelow
  exact ⟨⟨hread.unconfirmed, ⟨e, rfl, hfresh⟩, hread.during⟩,
    ⟨hafter, hbefore, by simpa using hstable, hcurrent.1, hfresh⟩⟩

theorem actuateRelease_stands (a : Actuation) {output : Releasing Unit}
    (houtput : Keeps (Standing c k began) output) :
    Keeps (Standing c k began) (actuateRelease d c k a output) := by
  intro r h
  unfold actuateRelease
  rw [wp_bind]
  refine (wp_ofExcept _).mpr ⟨fun _ _ => ?_, fun _ _ => h⟩
  rw [wp_bind]
  refine (wp_ofExcept _).mpr ⟨fun _ _ => ?_, fun _ _ => h⟩
  rw [wp_bind]
  refine (validateBoundary_current a.gated h).mono (fun passed t ht => ?_) fun _ _ ht => ht
  obtain ⟨time, boundary⟩ := passed
  obtain ⟨hstanding, hcurrent⟩ := ht
  dsimp only
  split
  · rw [wp_bind, wp_perform]
    refine houtput _ (hstanding.note ⟨rfl, fun time boundary he => ?_⟩)
    cases he
    exact hcurrent
  · exact hstanding

theorem actuateContinuation_stands (a : Actuation) {output : Releasing Unit}
    (houtput : Keeps (Standing c k began) output) :
    Keeps (Standing c k began) (actuateContinuation a output) := by
  unfold actuateContinuation
  refine (Keeps.ofExcept _).bind fun _ => (Keeps.ofExcept _).bind fun _ => Keeps.ite ?_ (.throw _)
  exact Keeps.bind (fun _ h => h.note ⟨rfl, fun _ _ he => by cases he⟩) fun _ => houtput

theorem dropWithGuard_stands (calls : List DropperCall) :
    Keeps (Standing c k began) (dropWithGuard d c k calls) := by
  induction calls with
  | nil => exact .pure _
  | cons call calls ih =>
    unfold dropWithGuard
    refine Keeps.bind (Keeps.tryCatch ?_ fun _ => .ite (.pure _) (.throw _)) fun _ => ih
    unfold actuate
    exact Keeps.ite (actuateRelease_stands _ (.ofExcept _))
      (actuateContinuation_stands _ (.ofExcept _))

theorem releaseBy_stands (dropper : Dropper) :
    Keeps (Standing c k began) (releaseBy d c k dropper) := by
  cases dropper with
  | plain a drop =>
    refine actuateRelease_stands a ?_
    unfold releaseOutput
    refine (Keeps.ofExcept _).bind fun result => ?_
    cases result with
    | none => exact .pure _
    | some _ => exact .throw _
  | guarded calls answer => exact (dropWithGuard_stands calls).bind fun _ => .ofExcept _

/-- **The ends of a release**: it was refused and took nothing, or it left no confirmation and put
    its outputs out on the one it took. -/
def ReleaseEnd (d : ReleaseSetup) (coord : GpsCoord) (lidar : ℕ) (required : FloatValue)
    (s : ReleaseControl) (r : Acting ReleaseControl ReleaseNote) : Prop :=
  (isRefusedRelease (.releaseBegan coord lidar required) = true ∧
    r.state.confirmation = s.confirmation ∧ r.log = [ReleaseNote.releaseBegan coord lidar required]) ∨
  r.state.confirmation = none ∧ ∃ during, r.log = .releaseBegan coord lidar required :: during ∧
    ∀ n ∈ during, isRelease n = true ∧ ∀ time boundary, n = .released time boundary →
      ∃ c ∈ d.configuration, ∃ k, s.confirmation = some k ∧ k.waypoint = coord ∧
        k.lidarIdentity = lidar ∧ required = some k.requiredAgl ∧ Current c k time boundary

theorem release_ends (d : ReleaseSetup) (coord : GpsCoord) (lidar : ℕ) (required : FloatValue)
    (script : ReleaseScript) (s : ReleaseControl) :
    wp (releasePayloadIfStable d coord lidar required script)
      (fun _ => ReleaseEnd d coord lidar required s)
      (fun _ => ReleaseEnd d coord lidar required s) ⟨s, []⟩ := by
  have hempty : ∀ t : ReleaseControl, t.confirmation = none →
      ReleaseEnd d coord lidar required s ⟨t, [ReleaseNote.releaseBegan coord lidar required]⟩ :=
    fun t ht => .inr ⟨ht, [], rfl, fun _ hn => (List.not_mem_nil hn).elim⟩
  unfold releasePayloadIfStable
  rw [wp_bind, wp_perform, wp_bind]
  refine (wp_ofExcept _).mpr ⟨fun agl hagl => ?_, fun error herror => ?_⟩
  · obtain rfl := requirePositiveAgl_ok hagl
    rw [wp_bind, wp_current, wp_bind, wp_update]
    cases hk : s.confirmation with
    | none => exact hempty _ rfl
    | some k =>
      dsimp only
      split
      · exact hempty _ rfl
      rename_i hmatches
      have hmatches : (k.waypoint = coord ∧ k.lidarIdentity = lidar) ∧ k.requiredAgl = agl := by
        simpa [isMismatched] using hmatches
      obtain ⟨⟨rfl, rfl⟩, rfl⟩ := hmatches
      unfold releaseConfirmed
      rw [wp_bind]
      refine (wp_ofExcept _).mpr ⟨fun c hc => ?_, fun _ _ => hempty _ rfl⟩
      rw [wp_bind, wp_monotonic]
      split
      · exact hempty _ rfl
      rw [wp_bind, wp_update]
      have hstanding : ∀ t : ReleaseControl, t.confirmation = none →
          t.lastBoundaryEvidence = some k.evidence →
          Standing c k (.releaseBegan k.waypoint k.lidarIdentity (some k.requiredAgl))
            ⟨t, [ReleaseNote.releaseBegan k.waypoint k.lidarIdentity (some k.requiredAgl)]⟩ :=
        fun t hnone hlast => ⟨hnone, ⟨_, hlast, by simp [anyBelow_eq_false]⟩, [], rfl,
          fun _ hn => (List.not_mem_nil hn).elim⟩
      have hend : ∀ {t : Acting ReleaseControl ReleaseNote},
          Standing c k (.releaseBegan k.waypoint k.lidarIdentity (some k.requiredAgl)) t →
          ReleaseEnd d k.waypoint k.lidarIdentity (some k.requiredAgl) s t := by
        intro t ht
        obtain ⟨during, hlog, hduring⟩ := ht.during
        refine .inr ⟨ht.unconfirmed, during, hlog, fun n hn => ⟨(hduring n hn).1, ?_⟩⟩
        intro time boundary he
        exact ⟨c, releaseConfiguration_ok hc, k, hk, rfl, rfl, rfl, (hduring n hn).2 _ _ he⟩
      exact (releaseBy_stands script.dropper _ (hstanding _ rfl rfl)).mono (fun _ _ ht => hend ht)
        fun _ _ ht => hend ht
  · refine .inl ⟨?_, rfl, rfl⟩
    show (requirePositiveAgl required).toOption.isNone = true
    rw [herror]
    rfl

end Releases

/-! ## 5. Runs -/

section Runs

variable {d : ReleaseSetup}

/-- A confirmation there is is that of the last hold, and only refused releases came since. -/
def Confirmed (d : ReleaseSetup) (log : List ReleaseNote) (t : ReleaseControl) : Prop :=
  ∀ k, t.confirmation = some k → d.configuration ≠ none ∧
    ∃ since, EndsWithHold k since log ∧ ∀ n ∈ since, isRefusedRelease n = true

theorem EndsWithHold.refused {k : ReleaseHoldConfirmation} {since log : List ReleaseNote}
    (h : EndsWithHold k since log) (n : ReleaseNote) :
    EndsWithHold k (since ++ [n]) (log ++ [n]) := by
  obtain ⟨earlier, reads, rfl, hreads, hlast⟩ := h
  exact ⟨earlier, reads, by simp, hreads, hlast⟩

theorem confirmed_hold {coord : GpsCoord} {lidar : ℕ} {required : FloatValue}
    {os o : List ReleaseNote} (h : Confirmed d os s)
    (hend : HoldEnd d coord lidar required s ⟨t, o⟩) : Confirmed d (os ++ o) t := by
  intro k hk
  rcases hend with hspent | ⟨agl, hconfigured, -, e, reads, hleft, hlog, hreads, hlast⟩ |
    ⟨hnone, hkept, -⟩
  · rw [hspent.unconfirmed] at hk
    cases hk
  · rw [hleft] at hk
    cases hk
    refine ⟨hconfigured, [], ⟨os, reads, ?_, hreads, hlast⟩, fun _ hn => ?_⟩
    · show os ++ o = _
      rw [show o = _ from hlog]
      simp
    · exact (List.not_mem_nil hn).elim
  · exact absurd hnone (h k (hkept ▸ hk)).1

theorem confirmed_release {coord : GpsCoord} {lidar : ℕ} {required : FloatValue}
    {os o : List ReleaseNote} (h : Confirmed d os s)
    (hend : ReleaseEnd d coord lidar required s ⟨t, o⟩) : Confirmed d (os ++ o) t := by
  intro k hk
  rcases hend with ⟨hrefused, hkept, hlog⟩ | ⟨hnone, -⟩
  · obtain ⟨hconfigured, since, hends, hsince⟩ := h k (hkept ▸ hk)
    rw [show o = _ from hlog]
    refine ⟨hconfigured, _, hends.refused _, fun n hn => ?_⟩
    rcases List.mem_append.mp hn with hn | hn
    · exact hsince n hn
    · rw [List.mem_singleton.mp hn, hrefused]
  · rw [show t.confirmation = none from hnone] at hk
    cases hk

/-- What a call comes to. -/
def ServeEnd (d : ReleaseSetup) (s : ReleaseControl) : ReleaseCall →
    Acting ReleaseControl ReleaseNote → Prop
  | .hold coord lidar required _ => HoldEnd d coord lidar required s
  | .release coord lidar required _ => ReleaseEnd d coord lidar required s

theorem serve_ends {call : ReleaseCall} {o : List ReleaseNote} (h : Calling (serve d) s call o t) :
    ServeEnd d s call ⟨t, o⟩ := by
  have hspec : wp (serve d call) (fun _ => ServeEnd d s call) (fun _ => ServeEnd d s call)
      ⟨s, []⟩ := by
    cases call with
    | hold coord lidar required script =>
      unfold serve
      rw [wp_bind]
      exact hold_ends d coord lidar required script s
    | release coord lidar required script => exact release_ends d coord lidar required script s
  have hstate := call_state hspec
  unfold Calling at h
  rwa [h] at hstate

theorem confirmed_run {clock : ℚ} {calls : List ReleaseCall} {os : List ReleaseNote}
    (hrun : Run (Calling (serve d)) (created clock) calls os t) : Confirmed d os t := by
  induction hrun with
  | start => exact fun k hk => by cases hk
  | @step calls os s call o t _ hs ih =>
    have hend := serve_ends hs
    cases call with
    | hold => exact confirmed_hold ih hend
    | release => exact confirmed_release ih hend

/-- **Every release output has a current hold behind it**: in every run of holds and releases, the
    last hold before it returned True for an equal waypoint, the same lidar and the same AGL, no
    other release with a usable AGL has been made since, and the output stands on a stable boundary
    within the gap, of the same generations and with no sequence below the handover's. -/
theorem release_warranted {clock : ℚ} {calls : List ReleaseCall} {t : ReleaseControl}
    {before after : List ReleaseNote} {time : ℚ} {boundary : ReleaseEvidence}
    (hrun : Run (Calling (serve d)) (created clock) calls
      (before ++ ReleaseNote.released time boundary :: after) t) :
    Warranted isRefusedRelease d before time boundary := by
  obtain ⟨calls', -, os, s, call, o, rest, u, -, hbefore, hstep, rfl⟩ := hrun.emitted
  have hconfirmed := confirmed_run hbefore
  have hend := serve_ends hstep
  have hmem : ReleaseNote.released time boundary ∈ o ++ ReleaseNote.released time boundary :: rest :=
    List.mem_append_right _ List.mem_cons_self
  cases call with
  | hold coord lidar required script =>
    rcases hend with hspent | ⟨agl, -, -, e, reads, -, hlog, hreads, -⟩ | ⟨-, -, hunreleased⟩
    · exact absurd (hspent.unreleased _ hmem) (by simp [isReleased])
    · rw [show o ++ _ :: rest = _ from hlog] at hmem
      rcases List.mem_append.mp hmem with hmem | hmem
      · rcases List.mem_cons.mp hmem with he | hmem
        · cases he
        · cases hreads _ hmem
      · cases List.mem_singleton.mp hmem
    · exact absurd (hunreleased _ hmem) (by simp [isReleased])
  | release coord lidar required script =>
    rcases hend with ⟨-, -, hlog⟩ | ⟨-, during, hlog, hduring⟩
    · rw [show o ++ _ :: rest = _ from hlog] at hmem
      cases List.mem_singleton.mp hmem
    · have hlog : o ++ ReleaseNote.released time boundary :: rest =
          .releaseBegan coord lidar required :: during := hlog
      cases o with
      | nil => cases (List.cons.inj hlog).1
      | cons first o =>
        obtain ⟨rfl, rfl⟩ := List.cons.inj hlog
        obtain ⟨-, hreleased⟩ := hduring (.released time boundary)
          (List.mem_append_right _ List.mem_cons_self)
        obtain ⟨c, hc, k, hk, rfl, rfl, rfl, hcurrent⟩ := hreleased time boundary rfl
        obtain ⟨-, since, hends, hsince⟩ := hconfirmed k hk
        exact ⟨c, hc, k, since, o, os, rfl, hends, hsince,
          fun n hn => (hduring n (List.mem_append_left _ hn)).1, hcurrent⟩

/-! ### A refused release -/

def steadyHold : ReleaseCall :=
  .hold tenMetres 1 (some 10) ⟨.ok (), 0, [sendFirst 1, pollAfter 0 1 2, pollAfter 1 2 3]⟩

def releaseOf (required : FloatValue) : ReleaseCall :=
  .release tenMetres 1 required
    ⟨0, .plain ⟨.ok (), ⟨.ok (), 0, 0, hovering 2 3, true⟩⟩ (.ok none)⟩

/-- A hold, a release with an AGL of zero, and one with that of the hold. -/
def refusedBetween : List ReleaseCall := [steadyHold, releaseOf (some 0), releaseOf (some 10)]

def refusedLog : List ReleaseNote := (calls (serve above) (created 0) refusedBetween).2

/-- What the vehicle is seen to do at the last boundary. -/
def lastSeen : ReleaseEvidence := ⟨⟨3, 3, 3, 3⟩, ⟨0, 0, 0, 0⟩, 2, 0, 0, 10, 0, 0, 0, 0⟩

theorem refused_run : Run (Calling (serve above)) (created 0) refusedBetween
    (refusedLog.take 15 ++ ReleaseNote.released 2 lastSeen :: [])
    (calls (serve above) (created 0) refusedBetween).1 := by
  have hlog : refusedLog.take 15 ++ ReleaseNote.released 2 lastSeen :: [] = refusedLog := by decide +kernel
  rw [hlog]
  exact calls_run _ _ _

theorem release_warranted_steady :
    Warranted isRefusedRelease above (refusedLog.take 15) 2 lastSeen :=
  release_warranted refused_run

/-- **The refused release takes no confirmation**: the output follows a release that was made since
    the hold. -/
theorem refused_release_takes_nothing :
    (∃ t, Run (Calling (serve above)) (created 0) refusedBetween
      (refusedLog.take 15 ++ ReleaseNote.released 2 lastSeen :: []) t) ∧
    ¬ Warranted (fun _ => false) above (refusedLog.take 15) 2 lastSeen := by
  refine ⟨⟨_, refused_run⟩, ?_⟩
  rintro ⟨c, -, k, since, during, log, hbefore, ⟨earlier, reads, rfl, -, -⟩, hsince, hduring, -⟩
  have hnone : since = [] := by
    cases since with
    | nil => rfl
    | cons n since => cases hsince n List.mem_cons_self
  subst hnone
  -- There is one return of a hold, and what follows it is known.
  have hknown : refusedLog.take 15 = refusedLog.take 11 ++ ReleaseNote.holdReturned true ::
      [ReleaseNote.releaseBegan tenMetres 1 (some 0), .releaseBegan tenMetres 1 (some 10),
        .evidence lastSeen] := by decide +kernel
  have hsame : (earlier ++ ReleaseNote.holdBegan k.waypoint k.lidarIdentity (some k.requiredAgl) :: reads) ++
      .holdReturned true ::
        (.releaseBegan k.waypoint k.lidarIdentity (some k.requiredAgl) :: during) =
      refusedLog.take 11 ++ ReleaseNote.holdReturned true ::
        [ReleaseNote.releaseBegan tenMetres 1 (some 0), .releaseBegan tenMetres 1 (some 10),
          .evidence lastSeen] := by
    rw [← hknown, hbefore]
    simp
  have hsplit := split_unique (p := fun n => n matches .holdReturned _) hsame
    (by decide +kernel) (by decide +kernel) rfl
  rw [hsplit.1] at hsame
  obtain ⟨-, hrest⟩ := List.cons.inj (List.append_cancel_left hsame)
  obtain ⟨-, rfl⟩ := List.cons.inj hrest
  cases hduring _ List.mem_cons_self

end Runs

end ReleaseControl

end DroneSim
