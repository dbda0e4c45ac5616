/-
  File:      DroneSim/Comp2026/RecoverySound.lean
  Subject:   What a recovery may record and command, whatever the outside does.

  `Budget c g l` bounds the climbs, the returns and the landings that were commanded and says that no
  ARM was. A stage is `Quiet` if it commands none of them; each of the others has one specification by
  pre- and postconditions on the notes. `recover_meets` puts them together, and `recovery_sound` is
  the result over every call and every run.
-/
import DroneSim.Comp2026.MissionRecovery
import DroneSim.Library.Noting

namespace DroneSim

open Library Library.Attempt Library.Acting MachineFloat

namespace MissionRecovery

variable {R : Type} {os : List (RecoveryNote R)} {c g l : ℕ} {A : List (RecoveryNote R) → Prop}
  {outcome : RecoveryOutcome} {r : Acting (Option RecoveryOutcome) (RecoveryNote R)}
  {E : RecoveryError → List (RecoveryNote R) → Prop} {x : Except OutsideError OperationAnswer}
variable (w : RecoveryWorld R) (p : RecoveryPolicy R) (home : MissionHome R) (deadline : R)

/-! ## 1. What was noted -/

def isArm : RecoveryNote R → Bool
  | .commanded .arm _ => true
  | _ => false

def isClimb : RecoveryNote R → Bool
  | .commanded (.climb ..) _ => true
  | _ => false

def isReturn : RecoveryNote R → Bool
  | .commanded (.gotoRecoveryWaypoint ..) _ => true
  | _ => false

def isLand : RecoveryNote R → Bool
  | .commanded (.simpleLand ..) _ => true
  | _ => false

/-- At most so many climbs, returns and landings, and no ARM. -/
structure Budget (c g l : ℕ) (os : List (RecoveryNote R)) : Prop where
  climbs : os.countP isClimb ≤ c
  returns : os.countP isReturn ≤ g
  lands : os.countP isLand ≤ l
  arms : os.countP isArm = 0

/-- The note of a snapshot. -/
def readOf : RecoveryNote R → Option (Except OutsideError (RecoverySnapshot R))
  | .read snapshot => some snapshot
  | _ => none

/-- The last snapshot that was read. -/
def lastRead (os : List (RecoveryNote R)) : Option (Except OutsideError (RecoverySnapshot R)) :=
  (os.filterMap readOf).getLast?

/-- Companion authority, and fresh evidence of a disarmed vehicle on the ground. -/
structure OnGround (snapshot : RecoverySnapshot R) : Prop where
  authority : snapshot.authority = .ok "COMPANION"
  suspended : snapshot.suspended = .ok false
  landed : snapshot.landedState = .fresh (some 1)
  disarmed : snapshot.armed = .fresh (some false)

/-- **The last snapshot shows the vehicle down.** -/
def LastOnGround (os : List (RecoveryNote R)) : Prop :=
  ∃ snapshot, lastRead os = some (.ok snapshot) ∧ OnGround snapshot

/-- The controller has pinned this home. -/
def PinnedAs [MachineFloat R] (home : MissionHome R) (os : List (RecoveryNote R)) : Prop :=
  ∃ pinned, RecoveryNote.pinned (.ok (some pinned)) ∈ os ∧ sameHome pinned home = true

/-- The transit altitude comes from a snapshot. -/
def Transit [MachineFloat R] (home : MissionHome R) (cruiseM transitAmslM : R)
    (os : List (RecoveryNote R)) : Prop :=
  ∃ snapshot millimetres, RecoveryNote.read (.ok snapshot) ∈ os ∧
    snapshot.location = .fresh (some millimetres) ∧
    transitAmslM = larger (home.amslM + cruiseM) (millimetres / 1000.0)

/-- The policy has approved the return at the transit altitude. -/
def ReturnApproved [MachineFloat R] (home : MissionHome R) (cruiseM transitAmslM : R)
    (os : List (RecoveryNote R)) : Prop :=
  ∃ before after, os = before ++ RecoveryNote.checked "RETURN" home (some transitAmslM) (.ok true) :: after ∧
    PinnedAs home before ∧ Transit home cruiseM transitAmslM before

/-- **The vehicle has come home**, to the home that the controller has pinned and at the transit
    altitude that was approved before. -/
def ReturnedHome [MachineFloat R] (home : MissionHome R) (cruiseM : R)
    (os : List (RecoveryNote R)) : Prop :=
  ∃ transitAmslM timeout before after,
    os = before ++ RecoveryNote.commanded
      (.gotoRecoveryWaypoint home.lat home.lon (transitAmslM - home.amslM) timeout)
      (.ok .zero) :: after ∧
    ReturnApproved home cruiseM transitAmslM before

/-! ### Notes that stay -/

theorem returnApproved_append [MachineFloat R] {home : MissionHome R} {cruiseM transitAmslM : R}
    (os new : List (RecoveryNote R)) (h : ReturnApproved home cruiseM transitAmslM os) :
    ReturnApproved home cruiseM transitAmslM (os ++ new) := by
  obtain ⟨before, after, rfl, hrest⟩ := h
  exact ⟨before, after ++ new, by simp, hrest⟩

theorem returnedHome_append [MachineFloat R] {home : MissionHome R} {cruiseM : R}
    (os new : List (RecoveryNote R)) (h : ReturnedHome home cruiseM os) :
    ReturnedHome home cruiseM (os ++ new) := by
  obtain ⟨transitAmslM, timeout, before, after, rfl, hrest⟩ := h
  exact ⟨transitAmslM, timeout, before, after ++ new, by simp, hrest⟩

/-! ### One more note -/

theorem Budget.start : Budget 0 0 0 ([] : List (RecoveryNote R)) := ⟨le_rfl, le_rfl, le_rfl, rfl⟩

theorem Budget.mono {c g l c' g' l' : ℕ} (h : Budget c g l os) (hc : c ≤ c') (hg : g ≤ g')
    (hl : l ≤ l') : Budget c' g' l' os :=
  ⟨h.climbs.trans hc, h.returns.trans hg, h.lands.trans hl, h.arms⟩

/-- **One more note** costs what it is. -/
theorem Budget.noted (h : Budget c g l os) (n : RecoveryNote R) (harm : isArm n = false) :
    Budget (c + (isClimb n).toNat) (g + (isReturn n).toNat) (l + (isLand n).toNat) (os ++ [n]) := by
  obtain ⟨hclimbs, hreturns, hlands, harms⟩ := h
  have hone : ∀ p : RecoveryNote R → Bool, [n].countP p = (p n).toNat := by
    intro p
    rw [List.countP_singleton]
    cases p n with
    | false => rfl
    | true => rfl
  refine ⟨?_, ?_, ?_, ?_⟩
  · rw [List.countP_append, hone]
    omega
  · rw [List.countP_append, hone]
    omega
  · rw [List.countP_append, hone]
    omega
  · rw [List.countP_append, hone, harm, harms]
    rfl

theorem Budget.climb (h : Budget c g l os) {altitudeM timeout : R} :
    Budget (c + 1) g l (os ++ [RecoveryNote.commanded (.climb altitudeM timeout) x]) :=
  h.noted (.commanded (.climb altitudeM timeout) x) rfl

theorem Budget.goto (h : Budget c g l os) {lat lon altitudeM timeout : R} :
    Budget c (g + 1) l
      (os ++ [RecoveryNote.commanded (.gotoRecoveryWaypoint lat lon altitudeM timeout) x]) :=
  h.noted (.commanded (.gotoRecoveryWaypoint lat lon altitudeM timeout) x) rfl

theorem Budget.land (h : Budget c g l os) {timeout modeTimeout : R} :
    Budget c g (l + 1) (os ++ [RecoveryNote.commanded (.simpleLand timeout modeTimeout) x]) :=
  h.noted (.commanded (.simpleLand timeout modeTimeout) x) rfl

/-- A note that no budget counts. -/
structure Uncounted (n : RecoveryNote R) : Prop where
  climb : isClimb n = false
  goto : isReturn n = false
  land : isLand n = false
  arm : isArm n = false

theorem Budget.uncounted (h : Budget c g l os) {n : RecoveryNote R} (hn : Uncounted n) :
    Budget c g l (os ++ [n]) := by
  have hnoted := h.noted n hn.arm
  rwa [hn.climb, hn.goto, hn.land] at hnoted

@[simp] theorem lastRead_read (os : List (RecoveryNote R))
    (x : Except OutsideError (RecoverySnapshot R)) : lastRead (os ++ [RecoveryNote.read x]) = some x := by
  simp [lastRead, readOf]

theorem mem_of_lastRead {snapshot : RecoverySnapshot R} (h : lastRead os = some (.ok snapshot)) :
    RecoveryNote.read (.ok snapshot) ∈ os := by
  obtain ⟨n, hmem, hread⟩ := List.mem_filterMap.mp (List.mem_of_getLast? h)
  cases n with
  | read x =>
    have hx : x = .ok snapshot := Option.some.inj hread
    rwa [← hx]
  | permission => cases hread
  | clock => cases hread
  | pinned home => cases hread
  | checked operation home altitude answer => cases hread
  | commanded command answer => cases hread

/-! ## 2. Quiet stages -/

/-- A stop that is raised is no landing. -/
def Unlanded (error : RecoveryError) : Prop := ∀ outcome, error = .stop outcome → outcome.landed = false

theorem unlanded_raised (error : OutsideError) : Unlanded (.raised error) := fun _ h => by cases h

theorem unlanded_stop (h : outcome.landed = false) : Unlanded (.stop outcome) := by
  intro other hother
  cases hother
  exact h

theorem unlanded_outcomeOf (authority : String) : (outcomeOf authority).landed = false := by
  unfold outcomeOf
  split
  · rfl
  · split
    · rfl
    · rfl

/-- **A stage that commands no climb, no return and no landing**: `A` holds before, `Q` after. -/
def Quiet {α : Type} (A : List (RecoveryNote R) → Prop) (x : Recovering R α)
    (Q : α → List (RecoveryNote R) → Prop) : Prop :=
  ∀ c g l, Noting (fun os => A os ∧ Budget c g l os) x (fun a os => Q a os ∧ Budget c g l os)
    fun error os => Unlanded error ∧ Budget c g l os

section Rules

variable {α β : Type} {A B : List (RecoveryNote R) → Prop} {x y : Recovering R α}
  {Q Q' : α → List (RecoveryNote R) → Prop}

theorem Quiet.weaken (h : Quiet A x Q) (hA : ∀ os, B os → A os) (hQ : ∀ a os, Q a os → Q' a os) :
    Quiet B x Q' :=
  fun c g l => (h c g l).weaken (fun _ hos => ⟨hA _ hos.1, hos.2⟩)
    (fun _ _ hos => ⟨hQ _ _ hos.1, hos.2⟩) fun _ _ hos => hos

theorem Quiet.pure {a : α} (h : ∀ os, A os → Q a os) : Quiet A (pure a : Recovering R α) Q :=
  fun _ _ _ => .pure fun _ hos => ⟨h _ hos.1, hos.2⟩

theorem Quiet.throw {error : RecoveryError} (h : Unlanded error) :
    Quiet A (throw error : Recovering R α) Q :=
  fun _ _ _ => .throw fun _ hos => ⟨h, hos.2⟩

theorem Quiet.bind {f : α → Recovering R β} {P : β → List (RecoveryNote R) → Prop}
    (hx : Quiet A x Q) (hf : ∀ a, Quiet (Q a) (f a) P) : Quiet A (x >>= f) P :=
  fun c g l => (hx c g l).bind fun a => hf a c g l

theorem Quiet.ite {b : Prop} [Decidable b] (hx : b → Quiet A x Q) (hy : ¬ b → Quiet A y Q) :
    Quiet A (if b then x else y) Q :=
  fun c g l => .ite (fun h => hx h c g l) fun h => hy h c g l

theorem Quiet.look (z : Except OutsideError α) :
    Quiet A (look z : Recovering R α) fun a os => A os ∧ z = .ok a := by
  intro c g l
  cases z with
  | ok a => exact .pure fun _ hos => ⟨⟨hos.1, rfl⟩, hos.2⟩
  | error error => exact .throw fun _ hos => ⟨unlanded_raised error, hos.2⟩

theorem Quiet.freshValue (z : Evidence α) :
    Quiet A (freshValue z : Recovering R α) fun a os => A os ∧ z = .fresh a := by
  cases z with
  | stale => exact .throw (unlanded_raised _)
  | unreadable error => exact .throw (unlanded_raised error)
  | fresh value => exact .pure fun _ hos => ⟨hos, rfl⟩

/-- **A question.** -/
theorem ask_noting {answer : ℕ → Except OutsideError α}
    {note : Except OutsideError α → RecoveryNote R}
    (hok : ∀ a os, A os → Q a (os ++ [note (.ok a)]))
    (hraised : ∀ error os, A os → E (.raised error) (os ++ [note (.error error)])) :
    Noting A (ask answer note) Q E := by
  have hask : ∀ z : Except OutsideError α,
      Noting A (do
        perform (note z)
        MissionRecovery.look z) Q E := by
    intro z
    cases z with
    | ok a =>
      exact .bind (Q := fun _ os => Q a os) (.perform fun os hos => hok a os hos)
        fun _ => .pure fun _ hos => hos
    | error error =>
      exact .bind (Q := fun _ os => E (.raised error) os) (.perform fun os hos => hraised error os hos)
        fun _ => .throw fun _ hos => hos
  exact fun r hr => hask (answer r.log.length) r hr

/-- A question that no budget counts. -/
theorem Quiet.ask {answer : ℕ → Except OutsideError α} {note : Except OutsideError α → RecoveryNote R}
    (hnote : ∀ z, Uncounted (note z)) :
    Quiet A (ask answer note) fun a os => ∃ before, A before ∧ os = before ++ [note (.ok a)] :=
  fun _ _ _ => ask_noting (fun _ os hos => ⟨⟨os, hos.1, rfl⟩, hos.2.uncounted (hnote _)⟩)
    fun error _ hos => ⟨unlanded_raised error, hos.2.uncounted (hnote _)⟩

/-- **A handler of what a stage raises.** -/
theorem otherwise_noting {E E' : RecoveryError → List (RecoveryNote R) → Prop}
    (hx : Noting A x Q E) (hy : Noting (E (.raised .exception)) y Q E')
    (hE : ∀ error os, error ≠ .raised .exception → E error os → E' error os) :
    Noting A (otherwise x y) Q E' := by
  refine hx.tryCatch fun error => ?_
  rcases error with outcome | error
  · exact .throw fun _ hos => hE _ _ (by simp) hos
  · cases error with
    | exception => exact hy
    | authorityLost => exact .throw fun _ hos => hE _ _ (by simp) hos
    | clock => exact .throw fun _ hos => hE _ _ (by simp) hos
    | interrupt => exact .throw fun _ hos => hE _ _ (by simp) hos

theorem Quiet.otherwise (hx : Quiet A x Q) (hy : Quiet (fun _ => True) y Q) :
    Quiet A (otherwise x y) Q :=
  fun c g l => otherwise_noting (hx c g l)
    ((hy c g l).weaken (fun _ hos => ⟨trivial, hos.2⟩) (fun _ _ hos => hos) fun _ _ hos => hos)
    fun _ _ _ hos => hos

/-- What no further note takes back is carried along. -/
theorem Quiet.frame {S : List (RecoveryNote R) → Prop} (hS : ∀ os new, S os → S (os ++ new))
    (hx : Quiet (fun _ => True) x Q) : Quiet S x fun _ => S :=
  fun c g l => ((hx c g l).frame hS).weaken (fun _ hos => ⟨⟨trivial, hos.2⟩, hos.1⟩)
    (fun _ _ hos => ⟨hos.2, hos.1.2⟩) fun _ _ hos => hos

/-- A quiet stage, and what follows it. -/
theorem Quiet.before {f : α → Recovering R β} {P : β → List (RecoveryNote R) → Prop}
    (hx : Quiet A x Q) (hE : ∀ error os, Unlanded error → Budget c g l os → E error os)
    (hf : ∀ a, Noting (fun os => Q a os ∧ Budget c g l os) (f a) P E) :
    Noting (fun os => A os ∧ Budget c g l os) (x >>= f) P E :=
  ((hx c g l).weaken (fun _ hos => hos) (fun _ _ hos => hos)
    fun error os hos => hE error os hos.1 hos.2).bind hf

end Rules

/-! ### The questions -/

theorem checkAuthority_quiet : Quiet A (checkAuthority w) fun _ _ => True := by
  have hask : Quiet A (ask w.permission fun _ => .permission) fun _ _ => True :=
    (Quiet.ask fun _ => ⟨rfl, rfl, rfl, rfl⟩).weaken (fun _ h => h) fun _ _ _ => trivial
  exact hask.bind fun _ => .ite (fun _ => .pure fun _ h => h)
    fun _ => .throw (unlanded_raised _)

/-- The snapshot is the last that was read. -/
def Shows (snapshot : RecoverySnapshot R) (os : List (RecoveryNote R)) : Prop :=
  lastRead os = some (.ok snapshot)

theorem flightSnapshot_quiet : Quiet A (flightSnapshot w) Shows := by
  refine (Quiet.ask fun _ => ⟨rfl, rfl, rfl, rfl⟩).weaken (fun _ h => h) ?_
  rintro snapshot _ ⟨before, _, rfl⟩
  exact lastRead_read before _

/-- The last snapshot, under companion authority. -/
structure Companion (snapshot : RecoverySnapshot R) (os : List (RecoveryNote R)) : Prop where
  shows : Shows snapshot os
  authority : snapshot.authority = .ok "COMPANION"
  suspended : snapshot.suspended = .ok false

theorem recoverySnapshot_quiet : Quiet A (recoverySnapshot w) Companion := by
  refine (checkAuthority_quiet w).bind fun _ => (flightSnapshot_quiet w).bind fun snapshot =>
    (Quiet.look snapshot.authority).bind fun authority => ?_
  refine .ite (fun _ => .throw (unlanded_stop (unlanded_outcomeOf authority))) fun hcompanion => ?_
  refine (Quiet.look snapshot.suspended).bind fun suspended => ?_
  cases suspended with
  | true => exact .throw (unlanded_stop (unlanded_outcomeOf authority))
  | false =>
    refine .pure fun os hos => ?_
    obtain ⟨⟨hshows, hauthority⟩, hsuspended⟩ := hos
    rw [not_not.mp hcompanion] at hauthority
    exact ⟨hshows, hauthority, hsuspended⟩

theorem approve_quiet (operation : String) (home : MissionHome R) (altitude : Option R) :
    Quiet A (approve w operation home altitude) fun _ os =>
      ∃ before, A before ∧ os = before ++ [RecoveryNote.checked operation home altitude (.ok true)] := by
  refine (Quiet.ask fun _ => ⟨rfl, rfl, rfl, rfl⟩).bind fun nothing => ?_
  cases nothing with
  | true => exact .pure fun _ h => h
  | false => exact .throw (unlanded_raised _)

theorem requireZero_quiet {command : RecoveryCommand R}
    (h : ∀ x, Uncounted (.commanded command x)) :
    Quiet A (requireZero w command) fun _ _ => True := by
  refine (Quiet.ask h).bind fun answer => ?_
  exact .ite (fun _ => .pure fun _ _ => trivial) fun _ => .throw (unlanded_raised _)

theorem landingNow_quiet (landed : Option ℤ) (mode : Except OutsideError String) :
    Quiet A (landingNow landed mode) fun _ => A :=
  .ite (fun _ => .pure fun _ h => h) fun _ => (Quiet.look mode).bind fun _ => .pure fun _ h => h.1

variable [MachineFloat R] (w : RecoveryWorld R) (p : RecoveryPolicy R) (home : MissionHome R)
  (deadline : R)

theorem remaining_quiet (reserve : Option R) :
    Quiet A (remaining w deadline reserve) fun _ _ => True := by
  refine (Quiet.ask fun _ => ⟨rfl, rfl, rfl, rfl⟩).bind fun now => ?_
  cases now with
  | none => exact .throw (unlanded_raised _)
  | some now =>
    exact .ite (fun _ => .pure fun _ _ => trivial) fun _ => .throw (unlanded_raised _)

/-! ### On the ground -/

/-- What a ground outcome stands for. -/
structure Down (returnedHome : Bool) (outcome : RecoveryOutcome) (os : List (RecoveryNote R)) :
    Prop where
  ground : outcome.landed = true → LastOnGround os
  home : outcome = .homeLanded → returnedHome = true

omit [MachineFloat R] in
theorem down_unlanded {returnedHome : Bool} (h : outcome.landed = false) :
    Down returnedHome outcome os := by
  refine ⟨fun hlanded => ?_, fun hhome => ?_⟩
  · rw [h] at hlanded
    cases hlanded
  · rw [hhome] at h
    cases h

omit [MachineFloat R] in
theorem down_groundOutcome {returnedHome : Bool} {snapshot : RecoverySnapshot R}
    (h : Companion snapshot os) (hlanded : snapshot.landedState = .fresh (some 1))
    (harmed : snapshot.armed = .fresh (some false)) :
    Down returnedHome (groundOutcome returnedHome) os := by
  refine ⟨fun _ => ⟨snapshot, h.shows, h.authority, h.suspended, hlanded, harmed⟩, ?_⟩
  cases returnedHome with
  | true => exact fun _ => rfl
  | false => exact fun hhome => by cases hhome

theorem isGround_iff {value : Option ℤ} : isGround value = true ↔ value = some 1 := by
  simp [isGround]

theorem disarmOnGround_quiet (returnedHome : Bool) :
    Quiet A (disarmOnGround w deadline returnedHome) (Down returnedHome) := by
  refine (recoverySnapshot_quiet w).bind fun _ => (remaining_quiet w deadline none).bind fun timeout =>
    (requireZero_quiet w fun _ => ⟨rfl, rfl, rfl, rfl⟩).bind fun _ =>
    (recoverySnapshot_quiet w).bind fun snapshot =>
    (Quiet.freshValue snapshot.landedState).bind fun landed => ?_
  refine .ite (fun hground => ?_) fun _ => .pure fun _ _ => down_unlanded rfl
  refine (Quiet.freshValue snapshot.armed).bind fun armed => ?_
  refine .ite (fun hdisarmed => .pure fun os hos => ?_) fun _ => .pure fun _ _ => down_unlanded rfl
  obtain ⟨⟨hcompanion, hlanded⟩, harmed⟩ := hos
  rw [isGround_iff.mp hground] at hlanded
  rw [hdisarmed] at harmed
  exact down_groundOutcome hcompanion hlanded harmed

theorem confirmRecoveryGround_quiet (returnedHome : Bool) :
    Quiet A (confirmRecoveryGround w deadline returnedHome) (Down returnedHome) := by
  refine (recoverySnapshot_quiet w).bind fun snapshot =>
    (Quiet.freshValue snapshot.landedState).bind fun landed => ?_
  refine .ite (fun hground => ?_) fun _ => .pure fun _ _ => down_unlanded rfl
  refine (Quiet.freshValue snapshot.armed).bind fun armed => ?_
  rcases armed with _ | armed
  · exact .pure fun _ _ => down_unlanded rfl
  · cases armed with
    | true => exact disarmOnGround_quiet w deadline returnedHome
    | false =>
      refine .pure fun os hos => ?_
      obtain ⟨⟨hcompanion, hlanded⟩, harmed⟩ := hos
      rw [isGround_iff.mp hground] at hlanded
      exact down_groundOutcome hcompanion hlanded harmed

theorem preserveLanding_quiet (returnedHome : Bool) :
    Quiet A (preserveLanding w deadline returnedHome) (Down returnedHome) := by
  refine .otherwise ?_ (.pure fun _ _ => down_unlanded rfl)
  exact (recoverySnapshot_quiet w).bind fun _ => (remaining_quiet w deadline none).bind fun timeout =>
    (requireZero_quiet w fun _ => ⟨rfl, rfl, rfl, rfl⟩).bind fun _ =>
    confirmRecoveryGround_quiet w deadline returnedHome

/-! ## 3. The stages -/

/-- **The check before a stage** commands nothing that is counted, but what a vehicle that takes off
    comes to. -/
theorem stageInterruption_notes (returnedHome : Bool)
    {atTakeoff : Recovering R (Option RecoveryOutcome)}
    {Q : Option RecoveryOutcome → List (RecoveryNote R) → Prop}
    (hgo : ∀ os, Budget c g l os → Q none os)
    (hdown : ∀ outcome os, Down returnedHome outcome os → Budget c g l os → Q (some outcome) os)
    (hE : ∀ error os, Unlanded error → Budget c g l os → E error os)
    (htakeoff : Noting (Budget c g l) atTakeoff Q E) :
    Noting (Budget c g l) (stageInterruption w deadline returnedHome atTakeoff) Q E := by
  have hend : ∀ {stage : Recovering R RecoveryOutcome} {A : List (RecoveryNote R) → Prop},
      Quiet A stage (Down returnedHome) →
      Noting (fun os => A os ∧ Budget c g l os)
        (do
          let outcome ← stage
          return some outcome) Q E :=
    fun hstage => hstage.before hE fun outcome => .pure fun os hos => hdown outcome os hos.1 hos.2
  have hstart : Noting (fun os => True ∧ Budget c g l os)
      (stageInterruption w deadline returnedHome atTakeoff) Q E := by
    refine (recoverySnapshot_quiet w).before hE fun snapshot =>
      (Quiet.freshValue snapshot.armed).before hE fun armed =>
      (Quiet.freshValue snapshot.landedState).before hE fun landed =>
      (Quiet.freshValue snapshot.mode).before hE fun mode => ?_
    refine .ite (fun _ => hend (confirmRecoveryGround_quiet w deadline returnedHome)) fun _ => ?_
    refine (landingNow_quiet landed mode).before hE fun landing => ?_
    refine .ite (fun _ => hend (preserveLanding_quiet w deadline returnedHome)) fun _ => ?_
    refine .ite (fun _ => htakeoff.weaken (fun _ hos => hos.2) (fun _ _ hos => hos)
      fun _ _ hos => hos) fun _ => ?_
    refine .ite (fun _ => .pure fun os hos => hgo os hos.2) fun _ => ?_
    exact .throw fun os hos => hE _ _ (unlanded_stop rfl) hos.2
  exact hstart.weaken (fun _ hos => ⟨trivial, hos⟩) (fun _ _ hos => hos) fun _ _ hos => hos

/-- How a landing ends that does not return. -/
structure LandEnds (c g : ℕ) (error : RecoveryError) (os : List (RecoveryNote R)) : Prop where
  handled : error ≠ .raised .exception
  unlanded : Unlanded error
  budget : Budget c g 1 os

/-- **One landing.** -/
theorem commandLand_notes (returnedHome : Bool) (c g : ℕ) :
    Noting (fun os => True ∧ Budget c g 0 os) (commandLand w p deadline returnedHome)
      (fun outcome os => Down returnedHome outcome os ∧ Budget c g 1 os)
      fun error os => Unlanded error ∧ Budget c g 1 os := by
  refine (remaining_quiet w deadline none).before
    (fun _ _ herror hos => ⟨herror, hos.mono le_rfl le_rfl (Nat.zero_le 1)⟩) fun timeout => ?_
  have hland : Noting (fun os => True ∧ Budget c g 0 os)
      (requireZero w (.simpleLand timeout (smaller timeout p.localLandReserveS)))
      (fun _ os => True ∧ Budget c g 1 os) fun error os => Unlanded error ∧ Budget c g 1 os := by
    refine .bind (Q := fun _ os => Budget c g 1 os)
      (ask_noting (fun _ _ hos => hos.2.land) fun error _ hos => ⟨unlanded_raised error, hos.2.land⟩)
      fun answer => ?_
    exact .ite (fun _ => .pure fun _ hos => ⟨trivial, hos⟩)
      fun _ => .throw fun _ hos => ⟨unlanded_raised _, hos⟩
  exact hland.bind fun _ => confirmRecoveryGround_quiet w deadline returnedHome c g 1

/-- **At most one landing**, and no exception that a fallback would meet. -/
theorem land_notes (returnedHome : Bool) (c g : ℕ) :
    Noting (Budget c g 0) (land w p home deadline returnedHome)
      (fun outcome os => Down returnedHome outcome os ∧ Budget c g 1 os) (LandEnds c g) := by
  have hmore : ∀ {os : List (RecoveryNote R)}, Budget c g 0 os → Budget c g 1 os :=
    fun hos => hos.mono le_rfl le_rfl (Nat.zero_le 1)
  have hstage : Noting (Budget c g 0)
      (stageInterruption w deadline returnedHome (return none))
      (fun result os => (∀ outcome, result = some outcome → Down returnedHome outcome os) ∧
        Budget c g 0 os)
      fun error os => Unlanded error ∧ Budget c g 1 os := by
    refine stageInterruption_notes w deadline returnedHome (fun os hos => ⟨(fun _ h => by cases h), hos⟩)
      (fun outcome os hdown hos => ⟨fun other hother => ?_, hos⟩)
      (fun _ _ herror hos => ⟨herror, hmore hos⟩) (.pure fun _ hos => ⟨(fun _ h => by cases h), hos⟩)
    cases hother
    exact hdown
  refine otherwise_noting (E := fun error os => Unlanded error ∧ Budget c g 1 os) ?_
    (.pure fun _ hos => ⟨down_unlanded rfl, hos.2⟩) fun error os herror hos => ⟨herror, hos.1, hos.2⟩
  refine hstage.bind fun interrupted => ?_
  rcases interrupted with _ | outcome
  · refine ((approve_quiet w "LOCAL_LAND" home none).before
      (fun _ _ herror hos => ⟨herror, hmore hos⟩) fun _ => ?_)
    refine (hstage.weaken (fun _ hos => hos.2) (fun _ _ hos => hos) fun _ _ hos => hos).bind
      fun interrupted => ?_
    rcases interrupted with _ | outcome
    · exact (commandLand_notes w p deadline returnedHome c g).weaken (fun _ hos => ⟨trivial, hos.2⟩)
        (fun _ _ hos => hos) fun _ _ hos => hos
    · exact .pure fun os hos => ⟨hos.1 outcome rfl, hmore hos.2⟩
  · exact .pure fun os hos => ⟨hos.1 outcome rfl, hmore hos.2⟩

/-! ### The way home -/

/-- How a stage on the way home ends that does not return: no landing was commanded where the fallback
    goes on. -/
structure HomeEnds (c g : ℕ) (error : RecoveryError) (os : List (RecoveryNote R)) : Prop where
  unlanded : Unlanded error
  budget : Budget c g 1 os
  fallback : error = .raised .exception → Budget c g 0 os

omit [MachineFloat R] in
theorem HomeEnds.of_budget {c g c' g' : ℕ} {error : RecoveryError} (herror : Unlanded error)
    (h : Budget c g 0 os) (hc : c ≤ c') (hg : g ≤ g') : HomeEnds c' g' error os :=
  ⟨herror, h.mono hc hg (Nat.zero_le 1), fun _ => h.mono hc hg le_rfl⟩

/-- What a stage on the way home comes to: on with the way, or an outcome. -/
def StageEnds (c g : ℕ) : Option RecoveryOutcome → List (RecoveryNote R) → Prop
  | none, os => Budget c g 0 os
  | some outcome, os => Down false outcome os ∧ Budget c g 1 os

theorem localLand_notes (c g : ℕ) : Noting (Budget c g 0)
      (do
        let outcome ← localLand w p home deadline
        return some outcome)
      (StageEnds c g) (LandEnds c g) :=
  (land_notes w p home deadline false c g).bind fun _ => .pure fun _ hos => hos

theorem stageHome_notes {c g c' g' : ℕ} (hc : c ≤ c') (hg : g ≤ g') :
    Noting (Budget c g 0) (stageHome w p home deadline) (StageEnds c g) (HomeEnds c' g') := by
  refine stageInterruption_notes w deadline false (fun _ hos => hos)
    (fun _ _ hdown hos => ⟨hdown, hos.mono le_rfl le_rfl (Nat.zero_le 1)⟩)
    (fun _ _ herror hos => .of_budget herror hos hc hg) ?_
  refine (localLand_notes w p home deadline c g).weaken (fun _ hos => hos) (fun _ _ hos => hos) ?_
  intro error os hos
  exact ⟨hos.unlanded, hos.budget.mono hc hg le_rfl, fun hraised => absurd hraised hos.handled⟩

theorem climbTo_notes (deadline currentAmslM transitAmslM : R) :
    Noting (Budget 0 0 0) (climbTo w p home deadline currentAmslM transitAmslM)
      (fun _ => Budget 1 0 0) (HomeEnds 1 1) := by
  have hclimb : ∀ timeout : R, Noting (fun os => True ∧ Budget 0 0 0 os)
      (requireClimb w (.climb (transitAmslM - home.amslM) timeout)) (fun _ => Budget 1 0 0)
      (HomeEnds 1 1) := by
    intro timeout
    refine .bind (Q := fun _ os => Budget 1 0 0 os) (ask_noting (fun _ _ hos => hos.2.climb)
      fun error _ hos => .of_budget (unlanded_raised error) hos.2.climb le_rfl (Nat.zero_le 1))
      fun answer => ?_
    exact .ite (fun _ => .pure fun _ hos => hos)
      fun _ => .throw fun _ hos => .of_budget (unlanded_raised _) hos le_rfl (Nat.zero_le 1)
  refine .ite (fun _ => ?_) fun _ =>
    .pure fun _ hos => hos.mono (Nat.zero_le 1) le_rfl le_rfl
  have hcommanded := (remaining_quiet w deadline (some p.localLandReserveS)
    (A := fun _ => True)).before (fun _ _ herror hos =>
      HomeEnds.of_budget herror hos (Nat.zero_le 1) (Nat.zero_le 1)) hclimb
  exact hcommanded.weaken (fun _ hos => ⟨trivial, hos⟩) (fun _ _ hos => hos) fun _ _ hos => hos

theorem navigateHome_notes (cruiseM deadline transitAmslM : R) :
    Noting (fun os => Budget 1 0 0 os ∧ ReturnApproved home cruiseM transitAmslM os)
      (navigateHome w p home deadline transitAmslM)
      (fun _ os => Budget 1 1 0 os ∧ ReturnedHome home cruiseM os) (HomeEnds 1 1) := by
  have hgoto : ∀ timeout : R,
      Noting (fun os => ReturnApproved home cruiseM transitAmslM os ∧ Budget 1 0 0 os)
        (requireZero w
          (.gotoRecoveryWaypoint home.lat home.lon (transitAmslM - home.amslM) timeout))
        (fun _ os => Budget 1 1 0 os ∧ ReturnedHome home cruiseM os) (HomeEnds 1 1) := by
    intro timeout
    refine .bind
      (Q := fun answer os => Budget 1 1 0 os ∧ (answer = .zero → ReturnedHome home cruiseM os))
      (ask_noting (fun answer os hos => ⟨hos.2.goto, fun hzero => ?_⟩)
        fun error _ hos => .of_budget (unlanded_raised error) hos.2.goto le_rfl le_rfl)
      fun answer => ?_
    · rw [hzero]
      exact ⟨transitAmslM, timeout, os, [], rfl, hos.1⟩
    · exact .ite (fun hzero => .pure fun _ hos => ⟨hos.1, hos.2 hzero⟩)
        fun _ => .throw fun _ hos => .of_budget (unlanded_raised _) hos.1 le_rfl le_rfl
  have hcommanded := ((remaining_quiet w deadline (some p.localLandReserveS)).frame
    returnApproved_append).before (fun _ _ herror hos =>
      HomeEnds.of_budget herror hos le_rfl (Nat.zero_le 1)) hgoto
  exact hcommanded.weaken (fun _ hos => ⟨hos.2, hos.1⟩) (fun _ _ hos => hos) fun _ _ hos => hos

/-- What the way home comes to. -/
def WayEnds (cruiseM : R) : Option RecoveryOutcome → List (RecoveryNote R) → Prop
  | none, os => Budget 1 1 0 os ∧ ReturnedHome home cruiseM os
  | some outcome, os => Down false outcome os ∧ Budget 1 1 1 os

/-- **The way home from the altitude on**: at most one climb and one return, and one landing where it
    was cut short. -/
theorem returnAt_notes (cruiseM deadline currentAmslM transitAmslM : R) :
    Noting (fun os => (PinnedAs home os ∧ Transit home cruiseM transitAmslM os) ∧ Budget 0 0 0 os)
      (returnAt w p home deadline currentAmslM transitAmslM) (WayEnds home cruiseM)
      (HomeEnds 1 1) := by
  have hcut : ∀ {outcome : RecoveryOutcome} {c : ℕ} {A : List (RecoveryNote R) → Prop}, c ≤ 1 →
      Noting (fun os => StageEnds c 0 (some outcome) os ∧ A os)
        (return some outcome : Recovering R (Option RecoveryOutcome)) (WayEnds home cruiseM)
        (HomeEnds 1 1) :=
    fun hc => .pure fun _ hos => ⟨hos.1.1, hos.1.2.mono hc (Nat.zero_le 1) le_rfl⟩
  refine ((approve_quiet w "RETURN" home (some transitAmslM)).weaken (fun _ hos => hos) ?_).before
    (Q := fun _ => ReturnApproved home cruiseM transitAmslM)
    (fun _ _ herror hos => .of_budget herror hos (Nat.zero_le 1) (Nat.zero_le 1)) fun _ => ?_
  · rintro _ _ ⟨before, ⟨hpinned, htransit⟩, rfl⟩
    exact ⟨before, [], rfl, hpinned, htransit⟩
  refine ((stageHome_notes w p home deadline (Nat.zero_le 1) (Nat.zero_le 1)).frame
    returnApproved_append).weaken (fun _ hos => ⟨hos.2, hos.1⟩) (fun _ _ hos => hos)
    (fun _ _ hos => hos) |>.bind fun interrupted => ?_
  rcases interrupted with _ | outcome
  · refine ((climbTo_notes w p home deadline currentAmslM transitAmslM).frame
      returnApproved_append).bind fun _ => ?_
    refine ((stageHome_notes w p home deadline le_rfl (Nat.zero_le 1)).frame
      returnApproved_append).bind fun interrupted => ?_
    rcases interrupted with _ | outcome
    · exact (navigateHome_notes w p home cruiseM deadline transitAmslM).bind
        fun _ => .pure fun _ hos => hos
    · exact hcut le_rfl
  · exact hcut (Nat.zero_le 1)

theorem currentAmsl_quiet (snapshot : RecoverySnapshot R) :
    Quiet A (currentAmsl snapshot) fun amslM os => A os ∧
      ∃ millimetres, snapshot.location = .fresh (some millimetres) ∧
        amslM = millimetres / 1000.0 := by
  refine (Quiet.freshValue snapshot.location).bind fun location => ?_
  rcases location with _ | millimetres
  · exact .throw (unlanded_raised _)
  · exact .pure fun _ hos => ⟨hos.1, millimetres, hos.2, rfl⟩

theorem returnAltitudeAmsl_quiet (cruiseM currentAmslM : R) :
    Quiet A (returnAltitudeAmsl home cruiseM currentAmslM) fun amslM os => A os ∧
      amslM = larger (home.amslM + cruiseM) currentAmslM :=
  .ite (fun _ => .pure fun _ hos => ⟨hos, rfl⟩) fun _ => .throw (unlanded_raised _)

theorem returnHome_notes (cruiseM deadline : R) (snapshot : RecoverySnapshot R) :
    Noting (fun os => (PinnedAs home os ∧ RecoveryNote.read (.ok snapshot) ∈ os) ∧ Budget 0 0 0 os)
      (returnHome w p home cruiseM deadline snapshot) (WayEnds home cruiseM) (HomeEnds 1 1) := by
  have hE : ∀ error os, Unlanded error → Budget 0 0 0 os → HomeEnds (R := R) 1 1 error os :=
    fun _ _ herror hos => .of_budget herror hos (Nat.zero_le 1) (Nat.zero_le 1)
  refine (currentAmsl_quiet snapshot).before hE fun currentAmslM =>
    (returnAltitudeAmsl_quiet home cruiseM currentAmslM).before hE fun transitAmslM => ?_
  refine (returnAt_notes w p home cruiseM deadline currentAmslM transitAmslM).weaken ?_
    (fun _ _ hos => hos) fun _ _ hos => hos
  rintro os ⟨⟨⟨⟨hpinned, hread⟩, millimetres, hlocation, rfl⟩, rfl⟩, hbudget⟩
  exact ⟨⟨hpinned, snapshot, millimetres, hread, hlocation, rfl⟩, hbudget⟩

/-! ### The whole -/

/-- **A sound outcome.** -/
structure Sound (home : MissionHome R) (cruiseM : R) (outcome : RecoveryOutcome)
    (os : List (RecoveryNote R)) : Prop where
  ground : outcome.landed = true → LastOnGround os
  home : outcome = .homeLanded → ReturnedHome home cruiseM os

theorem Down.sound {home : MissionHome R} {cruiseM : R} (h : Down false outcome os) :
    Sound home cruiseM outcome os :=
  ⟨h.ground, fun hhome => absurd (h.home hhome) (by simp)⟩

/-- What the stages keep to, however they end. -/
abbrev Kept (error : RecoveryError) (os : List (RecoveryNote R)) : Prop :=
  Unlanded error ∧ Budget 1 1 1 os

omit [MachineFloat R] in
theorem LandEnds.kept {c g : ℕ} {error : RecoveryError} (h : LandEnds c g error os) (hc : c ≤ 1)
    (hg : g ≤ 1) : Kept error os :=
  ⟨h.unlanded, h.budget.mono hc hg le_rfl⟩

theorem landOnly_notes (home land : MissionHome R) (cruiseM deadline : R) :
    Noting (Budget 0 0 0) (localLand w p land deadline)
      (fun outcome os => Sound home cruiseM outcome os ∧ Budget 1 1 1 os) Kept :=
  (land_notes w p land deadline false 0 0).weaken (fun _ hos => hos)
    (fun _ _ hos => ⟨hos.1.sound, hos.2.mono (Nat.zero_le 1) (Nat.zero_le 1) le_rfl⟩)
    fun _ _ hos => hos.kept (Nat.zero_le 1) (Nat.zero_le 1)

/-- Landing at the home that was come back to. -/
theorem landHome_notes (cruiseM deadline : R) :
    Noting (fun os => Budget 1 1 0 os ∧ ReturnedHome home cruiseM os)
      (land w p home deadline true)
      (fun outcome os => Sound home cruiseM outcome os ∧ Budget 1 1 1 os) Kept :=
  ((land_notes w p home deadline true 1 1).frame returnedHome_append).weaken (fun _ hos => hos)
    (fun _ _ hos => ⟨⟨hos.1.1.ground, fun _ => hos.2⟩, hos.1.2⟩)
    fun _ _ hos => hos.kept le_rfl le_rfl

theorem recoverInAir_notes (cruiseM deadline : R) (snapshot : RecoverySnapshot R) :
    Noting (fun os => .read (.ok snapshot) ∈ os ∧ Budget 0 0 0 os)
      (recoverInAir w p home cruiseM deadline snapshot)
      (fun outcome os => Sound home cruiseM outcome os ∧ Budget 1 1 1 os) Kept := by
  have hzero : ∀ error os, Unlanded error → Budget 0 0 0 os → Kept (R := R) error os :=
    fun _ _ herror hos => ⟨herror, hos.mono (Nat.zero_le 1) (Nat.zero_le 1) (Nat.zero_le 1)⟩
  refine (Quiet.ask fun _ => ⟨rfl, rfl, rfl, rfl⟩).before hzero fun pinned => ?_
  rcases pinned with _ | pinned
  · exact (landOnly_notes w p home home cruiseM deadline).weaken (fun _ hos => hos.2)
      (fun _ _ hos => hos) fun _ _ hos => hos
  refine .ite (fun hsame => ?_) fun _ => (landOnly_notes w p home pinned cruiseM deadline).weaken
    (fun _ hos => hos.2) (fun _ _ hos => hos) fun _ _ hos => hos
  have hway : Noting
      (fun os => (∃ before, RecoveryNote.read (.ok snapshot) ∈ before ∧
        os = before ++ [RecoveryNote.pinned (.ok (some pinned))]) ∧ Budget 0 0 0 os)
      (otherwise (returnHome w p home cruiseM deadline snapshot) (do
        let outcome ← localLand w p home deadline
        return some outcome))
      (WayEnds home cruiseM) Kept := by
    refine otherwise_noting (E := HomeEnds 1 1) ?_ ?_ fun _ _ _ hos => ⟨hos.unlanded, hos.budget⟩
    · refine (returnHome_notes w p home cruiseM deadline snapshot).weaken ?_ (fun _ _ hos => hos)
        fun _ _ hos => hos
      rintro _ ⟨⟨before, hread, rfl⟩, hbudget⟩
      exact ⟨⟨⟨pinned, List.mem_append_right _ (List.mem_singleton_self _), hsame⟩,
        List.mem_append_left _ hread⟩, hbudget⟩
    · exact (land_notes w p home deadline false 1 1).weaken (fun _ hos => hos.fallback rfl)
        (fun _ _ hos => hos) (fun _ _ hos => hos.kept le_rfl le_rfl) |>.bind
        fun outcome => .pure fun _ hos => hos
  refine hway.bind fun result => ?_
  rcases result with _ | outcome
  · exact landHome_notes w p home cruiseM deadline
  · exact .pure fun _ hos => ⟨hos.1.sound, hos.2⟩

/-- **The stages** come to a sound outcome within the budget, whatever the outside does. -/
theorem recoverStages_notes (cruiseM deadline : R) :
    Noting (fun os => True ∧ Budget 0 0 0 os) (recoverStages w p home cruiseM deadline)
      (fun outcome os => Sound home cruiseM outcome os ∧ Budget 1 1 1 os) Kept := by
  have hmore : ∀ {os : List (RecoveryNote R)}, Budget 0 0 0 os → Budget 1 1 1 os :=
    fun hos => hos.mono (Nat.zero_le 1) (Nat.zero_le 1) (Nat.zero_le 1)
  have hzero : ∀ error os, Unlanded error → Budget 0 0 0 os → Kept (R := R) error os :=
    fun _ _ herror hos => ⟨herror, hmore hos⟩
  have hquiet : ∀ {stage : Recovering R RecoveryOutcome} {A : List (RecoveryNote R) → Prop},
      Quiet A stage (Down false) → Noting (fun os => A os ∧ Budget 0 0 0 os) stage
        (fun outcome os => Sound home cruiseM outcome os ∧ Budget 1 1 1 os) Kept :=
    fun hstage => (hstage 0 0 0).weaken (fun _ hos => hos) (fun _ _ hos => ⟨hos.1.sound, hmore hos.2⟩)
      fun error os hos => hzero error os hos.1 hos.2
  have hstop : ∀ {A : List (RecoveryNote R) → Prop}, Noting (fun os => A os ∧ Budget 0 0 0 os)
      (throw (.stop .unconfirmed) : Recovering R RecoveryOutcome)
      (fun outcome os => Sound home cruiseM outcome os ∧ Budget 1 1 1 os) Kept :=
    .throw fun os hos => hzero _ os (unlanded_stop rfl) hos.2
  refine (recoverySnapshot_quiet w).before hzero fun snapshot =>
    (Quiet.freshValue snapshot.armed).before hzero fun armed =>
    (Quiet.freshValue snapshot.landedState).before hzero fun landed =>
    (Quiet.freshValue snapshot.mode).before hzero fun mode => ?_
  refine .ite (fun _ => hquiet (confirmRecoveryGround_quiet w deadline false)) fun _ => ?_
  refine .ite (fun _ => ?_) fun _ => hstop
  refine (landingNow_quiet landed mode).before hzero fun landing => ?_
  refine .ite (fun _ => hquiet (preserveLanding_quiet w deadline false)) fun _ => ?_
  refine .ite (fun _ => (landOnly_notes w p home home cruiseM deadline).weaken
    (fun _ hos => hos.2) (fun _ _ hos => hos) fun _ _ hos => hos) fun _ => ?_
  refine .ite (fun _ => ?_) fun _ => hstop
  refine (recoverInAir_notes w p home cruiseM deadline snapshot).weaken (fun os hos => ?_)
    (fun _ _ hos => hos) fun _ _ hos => hos
  obtain ⟨⟨⟨⟨hcompanion, _⟩, _⟩, _⟩, hbudget⟩ := hos
  exact ⟨mem_of_lastRead hcompanion.shows, hbudget⟩

omit [MachineFloat R] in
theorem authorityOutcome_quiet :
    Quiet A (authorityOutcome w) fun outcome _ => outcome.landed = false := by
  intro c g l
  have hread : Quiet A (do
      let snapshot ← flightSnapshot w
      let authority ← look snapshot.authority
      return outcomeOf authority) fun outcome _ => outcome.landed = false :=
    (flightSnapshot_quiet w).bind fun snapshot => (Quiet.look snapshot.authority).bind
      fun authority => .pure fun _ _ => unlanded_outcomeOf authority
  refine (hread c g l).tryCatch fun error => ?_
  have hrethrow : Noting (fun os => Unlanded error ∧ Budget c g l os)
      (MonadExcept.throw error : Recovering R RecoveryOutcome)
      (fun outcome os => outcome.landed = false ∧ Budget c g l os)
      fun error os => Unlanded error ∧ Budget c g l os := .throw fun _ hos => hos
  have hunconfirmed : Noting (fun os => Unlanded error ∧ Budget c g l os)
      (pure .unconfirmed : Recovering R RecoveryOutcome)
      (fun outcome os => outcome.landed = false ∧ Budget c g l os)
      fun error os => Unlanded error ∧ Budget c g l os := .pure fun _ hos => ⟨rfl, hos.2⟩
  rcases error with outcome | error
  · exact hunconfirmed
  · cases error with
    | clock => exact hrethrow
    | interrupt => exact hrethrow
    | authorityLost => exact hunconfirmed
    | exception => exact hunconfirmed

/-! ## 4. The call -/

/-- A recovery under way: nothing is recorded, or that it failed. -/
def Open (r : Acting (Option RecoveryOutcome) (RecoveryNote R)) : Prop :=
  r.state = none ∨ r.state = some .unconfirmed

/-- **A recovery that ended**: its outcome is recorded, is sound, and was come to within the budget. -/
structure Settled (home : MissionHome R) (cruiseM : R) (outcome : RecoveryOutcome)
    (r : Acting (Option RecoveryOutcome) (RecoveryNote R)) : Prop where
  recorded : r.state = some outcome
  sound : Sound home cruiseM outcome r.log
  budget : Budget 1 1 1 r.log

/-- A recovery that failed, which is recorded. -/
def Failed (r : Acting (Option RecoveryOutcome) (RecoveryNote R)) : Prop :=
  r.state = some .unconfirmed ∧ Budget 1 1 1 r.log

theorem sound_unconfirmed (cruiseM : R) (os : List (RecoveryNote R)) :
    Sound home cruiseM .unconfirmed os :=
  ⟨(fun h => by cases h), fun h => by cases h⟩

omit [MachineFloat R] in
theorem completeRecovery_open
    {Q : RecoveryOutcome → Acting (Option RecoveryOutcome) (RecoveryNote R) → Prop}
    {E : RecoveryError → Acting (Option RecoveryOutcome) (RecoveryNote R) → Prop}
    (hr : r.state = none) :
    wp (completeRecovery outcome) Q E r ↔ Q outcome ⟨some outcome, r.log⟩ := by
  unfold completeRecovery
  rw [wp_bind, wp_current, hr]
  rfl

omit [MachineFloat R] in
theorem completeRecovery_recorded {outcome recorded : RecoveryOutcome}
    {Q : RecoveryOutcome → Acting (Option RecoveryOutcome) (RecoveryNote R) → Prop}
    {E : RecoveryError → Acting (Option RecoveryOutcome) (RecoveryNote R) → Prop}
    (hr : r.state = some recorded) : wp (completeRecovery outcome) Q E r ↔ Q recorded r := by
  unfold completeRecovery
  rw [wp_bind, wp_current, hr]
  rfl

omit [MachineFloat R] in
/-- A failure leaves that it failed. -/
theorem recordAndRaise_failed {α : Type} (error : RecoveryError)
    {Q : α → Acting (Option RecoveryOutcome) (RecoveryNote R) → Prop} (hr : Open r)
    (hbudget : Budget 1 1 1 r.log) : wp (recordAndRaise error) Q (fun _ => Failed) r := by
  unfold recordAndRaise
  rw [wp_bind]
  rcases hr with hr | hr
  · exact (completeRecovery_open hr).mpr ⟨rfl, hbudget⟩
  · exact (completeRecovery_recorded hr).mpr ⟨hr, hbudget⟩

/-- The stages leave the record alone. -/
theorem recoverStages_state (cruiseM deadline : R) (hr : r.state = none)
    (hbudget : Budget 0 0 0 r.log) : wp (recoverStages w p home cruiseM deadline)
      (fun outcome t => t.state = none ∧ Sound home cruiseM outcome t.log ∧ Budget 1 1 1 t.log)
      (fun error t => t.state = none ∧ Unlanded error ∧ Budget 1 1 1 t.log) r :=
  (recoverStages_notes w p home cruiseM deadline r ⟨trivial, hbudget⟩).mono
    (fun _ _ ht => ⟨ht.1.state.trans hr, ht.2⟩) fun _ _ ht => ⟨ht.1.state.trans hr, ht.2⟩

/-- **The handlers of the stages.** -/
theorem outcomeOfStages_spec (cruiseM deadline : R) (hr : r.state = none)
    (hbudget : Budget 0 0 0 r.log) :
    wp (outcomeOfStages w (recoverStages w p home cruiseM deadline))
      (fun outcome t => t.state = none ∧ Sound home cruiseM outcome t.log ∧ Budget 1 1 1 t.log)
      (fun _ t => Open t ∧ Budget 1 1 1 t.log) r := by
  unfold outcomeOfStages
  rw [wp_tryCatch]
  refine (recoverStages_state w p home cruiseM deadline hr hbudget).mono (fun _ _ ht => ht)
    fun error t ht => ?_
  obtain ⟨hstate, hunlanded, hspent⟩ := ht
  have hnot : ∀ {outcome : RecoveryOutcome} (os : List (RecoveryNote R)), outcome.landed = false →
      Sound home cruiseM outcome os := fun _ h => (down_unlanded h).sound
  rcases error with outcome | error
  · exact ⟨hstate, hnot _ (hunlanded outcome rfl), hspent⟩
  · cases error with
    | authorityLost =>
      have hquiet := authorityOutcome_quiet w (A := fun _ => True) 1 1 1
      refine (hquiet t ⟨trivial, hspent⟩).mono (fun outcome u hu => ?_) fun _ u hu => ?_
      · exact ⟨hu.1.state.trans hstate, hnot _ hu.2.1, hu.2.2⟩
      · exact ⟨.inl (hu.1.state.trans hstate), hu.2.2⟩
    | clock =>
      exact (recordAndRaise_failed _ (.inl hstate) hspent).mono (fun _ _ hu => hu)
        fun _ _ hu => ⟨.inr hu.1, hu.2⟩
    | exception => exact ⟨hstate, hnot _ rfl, hspent⟩
    | interrupt => exact ⟨.inl hstate, hspent⟩

theorem recoverBy_spec (cruiseM deadline : R) (hr : r.state = none) (hbudget : Budget 0 0 0 r.log) :
    wp (recoverBy w p home cruiseM deadline) (Settled home cruiseM) (fun _ => Failed) r := by
  unfold recoverBy
  rw [wp_tryCatch, wp_bind]
  refine (outcomeOfStages_spec w p home cruiseM deadline hr hbudget).mono (fun outcome t ht => ?_)
    fun error t ht => recordAndRaise_failed error ht.1 ht.2
  exact (completeRecovery_open ht.1).mpr ⟨rfl, ht.2.1, ht.2.2⟩

/-- **A recovery where nothing is recorded** records exactly what it returns, or that it failed. -/
theorem recover_meets (policy : Option (RecoveryPolicy R)) (home : MissionHome R) (cruiseM : R) :
    wp (recover w policy home cruiseM) (Settled home cruiseM) (fun _ => Failed) ⟨none, []⟩ := by
  have hunconfirmed : ∀ t : Acting (Option RecoveryOutcome) (RecoveryNote R), t.state = none →
      Budget 0 0 0 t.log →
      wp (completeRecovery .unconfirmed) (Settled home cruiseM) (fun _ => Failed) t := by
    intro t hstate hbudget
    exact (completeRecovery_open hstate).mpr ⟨rfl, sound_unconfirmed home cruiseM t.log,
      hbudget.mono (Nat.zero_le 1) (Nat.zero_le 1) (Nat.zero_le 1)⟩
  unfold recover
  rw [wp_bind, wp_current]
  cases policy with
  | none => exact hunconfirmed _ rfl .start
  | some p =>
    show wp (startedAt w >>= _) _ _ _
    rw [wp_bind]
    have hstarted : wp (startedAt w)
        (fun _ t => t.state = none ∧ Budget 0 0 0 t.log) (fun _ => Failed) ⟨none, []⟩ := by
      unfold startedAt
      rw [wp_tryCatch]
      have hask : Noting (Budget 0 0 0) (ask w.clock fun _ => .clock : Recovering R (Option R))
          (fun _ => Budget 0 0 0) fun _ => Budget 0 0 0 :=
        ask_noting (fun _ _ hos => hos.uncounted ⟨rfl, rfl, rfl, rfl⟩)
          fun _ _ hos => hos.uncounted ⟨rfl, rfl, rfl, rfl⟩
      refine (hask ⟨none, []⟩ .start).mono (fun _ t ht => ⟨ht.1.state, ht.2⟩) fun error t ht => ?_
      have hspent : Budget 1 1 1 t.log :=
        ht.2.mono (Nat.zero_le 1) (Nat.zero_le 1) (Nat.zero_le 1)
      have hopen : Open t := .inl ht.1.state
      rcases error with outcome | error
      · exact ⟨ht.1.state, ht.2⟩
      · cases error with
        | clock => exact recordAndRaise_failed _ hopen hspent
        | interrupt => exact recordAndRaise_failed _ hopen hspent
        | authorityLost => exact ⟨ht.1.state, ht.2⟩
        | exception => exact ⟨ht.1.state, ht.2⟩
    refine hstarted.mono (fun started t ht => ?_) fun _ _ ht => ht
    rcases started with _ | now
    · exact hunconfirmed t ht.1 ht.2
    · show wp (if _ then _ else _) _ _ _
      split
      · exact recoverBy_spec w p home cruiseM _ ht.1 ht.2
      · exact hunconfirmed t ht.1 ht.2

/-! ## 5. What was recorded stays -/

/-- **A recorded outcome is returned**, and nothing is asked or commanded. -/
theorem recover_recorded (policy : Option (RecoveryPolicy R)) (home : MissionHome R) (cruiseM : R)
    (outcome : RecoveryOutcome) :
    call (recover w policy home cruiseM) (some outcome) = (.ok outcome, some outcome, []) := rfl

theorem answer_recorded (policy : Option (RecoveryPolicy R)) (i : Input R)
    (outcome : RecoveryOutcome) : (call (answer policy i) (some outcome)).2 = (some outcome, []) := by
  cases i with
  | recover w home cruiseM => rfl
  | record other => rfl

/-- **Every run from a recorded outcome** keeps it and commands nothing. -/
theorem run_recorded {policy : Option (RecoveryPolicy R)} {is : List (Input R)}
    {t : Option RecoveryOutcome} (h : Run (Calling (answer policy)) (some outcome) is os t) :
    t = some outcome ∧ os = [] := by
  induction h with
  | start => exact ⟨rfl, rfl⟩
  | @step is os t i o u _ hs ih =>
    obtain ⟨rfl, rfl⟩ := ih
    have hcall := (answer_recorded policy i outcome).symm.trans hs
    cases hcall
    exact ⟨rfl, rfl⟩

/-- **A recovery is sound and bounded, and its outcome stays.** -/
theorem recovery_sound (policy : Option (RecoveryPolicy R)) (w : RecoveryWorld R)
    (home : MissionHome R) (cruiseM : R) :
    ∃ outcome, (call (recover w policy home cruiseM) none).2.1 = some outcome ∧
      (∀ other, (call (recover w policy home cruiseM) none).1 = .ok other → other = outcome) ∧
      Sound home cruiseM outcome (call (recover w policy home cruiseM) none).2.2 ∧
      Budget 1 1 1 (call (recover w policy home cruiseM) none).2.2 ∧
      ∀ is os t, Run (Calling (answer policy)) (some outcome) is os t →
        t = some outcome ∧ os = [] ∧ ∀ w home cruiseM,
          call (recover w policy home cruiseM) t = (.ok outcome, some outcome, []) := by
  have hlater : ∀ outcome is os t, Run (Calling (answer policy)) (some outcome) is os t →
      t = some outcome ∧ os = [] ∧ ∀ w home cruiseM,
        call (recover w policy home cruiseM) t = (.ok outcome, some outcome, []) := by
    intro outcome is os t hrun
    obtain ⟨rfl, rfl⟩ := run_recorded hrun
    exact ⟨rfl, rfl, fun w home cruiseM => recover_recorded w policy home cruiseM outcome⟩
  have hspec := call_spec (P := fun result r => ∃ outcome, r.state = some outcome ∧
    (∀ other, result = .ok other → other = outcome) ∧ Sound home cruiseM outcome r.log ∧
    Budget 1 1 1 r.log) ((recover_meets w policy home cruiseM).mono
      (fun outcome t ht => ⟨outcome, ht.recorded, fun _ h => (Except.ok.inj h).symm, ht.sound,
        ht.budget⟩)
      fun _ t ht => ⟨.unconfirmed, ht.1, (fun _ h => by cases h), sound_unconfirmed home cruiseM _,
        ht.2⟩)
  obtain ⟨outcome, hrecorded, hreturned, hsound, hbudget⟩ := hspec
  exact ⟨outcome, hrecorded, hreturned, hsound, hbudget, hlater outcome⟩

/-! ### A recovery that comes home -/

def calmHome : MissionHome ExactNumber := ⟨1.0, 2.0, 3.0⟩

def flying : RecoverySnapshot ExactNumber where
  authority := .ok "COMPANION"
  suspended := .ok false
  armed := .fresh (some true)
  landedState := .fresh (some 2)
  mode := .fresh (.ok "GUIDED")
  location := .fresh (some 5000.0)

def grounded : RecoverySnapshot ExactNumber :=
  { flying with armed := .fresh (some false), landedState := .fresh (some 1) }

/-- Everything answers, and the vehicle is down once LAND was commanded. -/
def calm : RecoveryWorld ExactNumber where
  permission := fun _ => .ok true
  clock := fun _ => .ok (some 0.0)
  missionHome := fun _ => .ok (some calmHome)
  snapshot := fun noted => .ok (if noted < 20 then flying else grounded)
  check := fun _ => .ok true
  operation := fun noted => .ok (if noted < 9 then .nothing else .zero)

theorem recovery_sound_calm :
    (call (recover calm (some ⟨60.0, 10.0⟩) calmHome 20.0) none).1.toOption = some .homeLanded ∧
      LastOnGround (call (recover calm (some ⟨60.0, 10.0⟩) calmHome 20.0) none).2.2 ∧
      ReturnedHome calmHome 20.0 (call (recover calm (some ⟨60.0, 10.0⟩) calmHome 20.0) none).2.2 ∧
      Budget 1 1 1 (call (recover calm (some ⟨60.0, 10.0⟩) calmHome 20.0) none).2.2 := by
  have hreturned : (call (recover calm (some ⟨60.0, 10.0⟩) calmHome 20.0) none).1.toOption =
      some .homeLanded := by decide +kernel
  have hrecorded : (call (recover calm (some ⟨60.0, 10.0⟩) calmHome 20.0) none).2.1 =
      some .homeLanded := by decide +kernel
  obtain ⟨outcome, hstate, _, hsound, hbudget, _⟩ :=
    recovery_sound (some ⟨60.0, 10.0⟩) calm calmHome 20.0
  have houtcome : outcome = .homeLanded := Option.some.inj (hstate.symm.trans hrecorded)
  subst houtcome
  exact ⟨hreturned, hsound.ground rfl, hsound.home rfl, hbudget⟩

end MissionRecovery

end DroneSim
