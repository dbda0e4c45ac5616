/-
  File:      DroneSim/Comp2026/ServoDropper.lean
  Subject:   The payload servos (servo.py, Dropper).

  A drop opens the servos one after another, holds them open while the permission is asked for anew
  before every slice of the hold, and brings each back to neutral whatever happened before. Every
  exception of the first part is kept for the end; in the second part only a lost authority stops
  the rest. The actuators, the permission and the sleeper are questions to the surroundings, with any
  answer to each (`DropWorld`), and the notes tell what was requested and what came back.

  * `Opened`, `Neutralized` -- what the two parts of a drop leave in the notes;
  * `drop_neutralizes` -- **every drop**, whatever fails.
-/
import DroneSim.Library.Asking
import DroneSim.Library.Emission
import Mathlib.Algebra.Order.Floor.Ring
import Mathlib.Data.Rat.Floor
import Mathlib.Tactic.Linarith

namespace DroneSim

open Library Library.Attempt Library.Acting

/-! ## 1. The dropper -/

/-- An exception that reaches the dropper. -/
inductive ServoError where
  /-- `PayloadPermissionError`. -/
  | permission (text : String)
  /-- The `PayloadPermissionError` that the permission check makes of another exception. -/
  | checkFailed (cause : ServoError)
  | authorityLost (reason : String)
  /-- Any other; `isException` is false of one that is a `BaseException` only. -/
  | other (isException : Bool) (text : String)
  deriving DecidableEq, Repr

namespace ServoError

/-- `isinstance(error, Exception)`. -/
def isException : ServoError → Bool
  | .other isException _ => isException
  | _ => true

/-- `isinstance(error, AuthorityLost)`. -/
def isAuthorityLost : ServoError → Bool
  | .authorityLost _ => true
  | _ => false

end ServoError

/-- `Dropper`: its servos by their pins, and what its constructor has checked. -/
structure ServoDropper where
  servos : List ℕ
  releaseHoldSeconds : ℚ
  permissionCheckIntervalSeconds : ℚ
  servos_ne : servos ≠ []
  servos_nodup : servos.Nodup
  hold_pos : 0 < releaseHoldSeconds
  interval_pos : 0 < permissionCheckIntervalSeconds
  interval_le : permissionCheckIntervalSeconds ≤ releaseHoldSeconds

/-- What a drop requests, and what comes back. -/
inductive DropNote where
  /-- `release_actuate(servo.max)`. -/
  | release (servo : ℕ) (answer : Except ServoError Unit)
  /-- `permission()`, and whether it is `True`. -/
  | permission (answer : Except ServoError Bool)
  | sleep (seconds : ℚ) (answer : Except ServoError Unit)
  /-- `continuation_actuate(servo.mid)`. -/
  | neutral (servo : ℕ) (answer : Except ServoError Unit)

/-- What a drop meets, by the number of the question. -/
structure DropWorld where
  releaseActuate : ℕ → ℕ → Except ServoError Unit
  continuationActuate : ℕ → ℕ → Except ServoError Unit
  permission : ℕ → Except ServoError Bool
  sleep : ℕ → ℚ → Except ServoError Unit

/-- A drop under way. -/
abbrev Dropping : Type → Type := Asking DropNote ServoError

namespace ServoDropper

variable (w : DropWorld)

/-- A request to the surroundings, noted with its answer. -/
def request (note : Except ServoError Unit → DropNote) (answer : ℕ → Except ServoError Unit) :
    Dropping Unit := do
  let answer ← ask fun n => .ok (answer n)
  perform (note answer)
  ofExcept answer

/-- `release_actuate(servo.max)`. -/
def releaseActuate (servo : ℕ) : Dropping Unit :=
  request (.release servo) fun n => w.releaseActuate n servo

/-- `continuation_actuate(servo.mid)`. -/
def continuationActuate (servo : ℕ) : Dropping Unit :=
  request (.neutral servo) fun n => w.continuationActuate n servo

/-- `self._sleep(duration)`. -/
def sleep (duration : ℚ) : Dropping Unit := request (.sleep duration) fun n => w.sleep n duration

/-- What a permission check raises for an answer. -/
def permissionFailure : Except ServoError Bool → Option ServoError
  | .error error => some (if error.isException then .checkFailed error else error)
  | .ok true => none
  | .ok false => some (.permission "payload actuation permission is not current")

/-- `_require_permission`. -/
def requirePermission : Dropping Unit := do
  let answer ← ask fun n => .ok (w.permission n)
  perform (.permission answer)
  match permissionFailure answer with
  | some error => throw error
  | none => return ()

/-- The loop over the servos that opens them. -/
def release : List ℕ → Dropping Unit
  | [] => return ()
  | servo :: servos => do
    releaseActuate w servo
    release servos

/-- A slice of the hold leaves fewer. -/
theorem slices_decrease (d : ServoDropper) {remaining : ℚ} (h : 0 < remaining) :
    ⌈(remaining - min d.permissionCheckIntervalSeconds remaining) /
        d.permissionCheckIntervalSeconds⌉.toNat <
      ⌈remaining / d.permissionCheckIntervalSeconds⌉.toNat := by
  have hpos := d.interval_pos
  have hceil : 0 < ⌈remaining / d.permissionCheckIntervalSeconds⌉ :=
    Int.ceil_pos.mpr (div_pos h hpos)
  rcases le_total d.permissionCheckIntervalSeconds remaining with hle | hle
  · rw [min_eq_left hle, sub_div, div_self hpos.ne', Int.ceil_sub_one]
    omega
  · rw [min_eq_right hle, sub_self, zero_div, Int.ceil_zero]
    omega

/-- The loop that holds the servos open. -/
def hold (d : ServoDropper) (remaining : ℚ) : Dropping Unit :=
  if _h : 0 < remaining then do
    requirePermission w
    sleep w (min d.permissionCheckIntervalSeconds remaining)
    hold d (remaining - min d.permissionCheckIntervalSeconds remaining)
  else return ()
termination_by ⌈remaining / d.permissionCheckIntervalSeconds⌉.toNat
decreasing_by exact d.slices_decrease _h

/-- The loop over the servos that brings them to neutral, with the first exception so far. -/
def neutralize : List ℕ → Option ServoError → Dropping (Option ServoError)
  | [], first => return first
  | servo :: servos, first => do
    let raised ← tryCatch (do continuationActuate w servo; return none) fun error => return some error
    match raised with
    | none => neutralize servos first
    | some error =>
      if error.isAuthorityLost then return first.or error else neutralize servos (first.or error)

/-- `drop_with_guard`. -/
def dropWithGuard (d : ServoDropper) : Dropping Unit := do
  let primaryError ← tryCatch (do
      release w d.servos
      hold w d d.releaseHoldSeconds
      return none)
    fun error => return some error
  let firstNeutralizationError ← neutralize w d.servos none
  match primaryError.or firstNeutralizationError with
  | some error => throw error
  | none => return ()

/-- `_actuate`, with the transaction of the permission where it has one. -/
def actuate (transaction : Option (ℕ → ℕ → Except ServoError Unit)) :
    ℕ → ℕ → Except ServoError Unit :=
  match transaction with
  | none => fun _ _ =>
    .error (.permission "payload atomic actuation transaction is not installed")
  | some transaction => transaction

/-- `drop`. -/
def drop (d : ServoDropper) (transaction : Option (ℕ → ℕ → Except ServoError Unit)) : Dropping Unit :=
  d.dropWithGuard { w with
    releaseActuate := actuate transaction
    continuationActuate := actuate transaction }

end ServoDropper

/-! ## 2. What a drop leaves -/

namespace DropNote

/-- The exception that a note is of, as the dropper raises it. -/
def failure : DropNote → Option ServoError
  | .release _ (.error error) => some error
  | .permission answer => ServoDropper.permissionFailure answer
  | .sleep _ (.error error) => some error
  | .neutral _ (.error error) => some error
  | _ => none

/-- The servo that a release output goes to. -/
def released : DropNote → Option ℕ
  | .release servo _ => some servo
  | _ => none

/-- The servo that the neutral output is requested for. -/
def neutralized : DropNote → Option ℕ
  | .neutral servo _ => some servo
  | _ => none

/-- The seconds slept. -/
def slept : DropNote → Option ℚ
  | .sleep seconds _ => some seconds
  | _ => none

/-- A neutralisation that lost its authority. -/
def lostAuthority : DropNote → Bool
  | .neutral _ (.error error) => error.isAuthorityLost
  | _ => false

end DropNote

namespace ServoDropper

/-- The first exception of some notes. -/
def firstFailure (notes : List DropNote) : Option ServoError := notes.findSome? DropNote.failure

theorem firstFailure_snoc (notes : List DropNote) (note : DropNote) :
    firstFailure (notes ++ [note]) = (firstFailure notes).or note.failure := by
  unfold firstFailure
  rw [List.findSome?_append]
  cases h : note.failure <;> simp [List.findSome?, h]

/-- Nothing follows a failure, and a sleep follows a permission check that passed. -/
def OpeningRule (before : List DropNote) (note : DropNote) : Prop :=
  firstFailure before = none ∧ note.neutralized = none ∧
    (note.slept.isSome = true → ∃ earlier, before = earlier ++ [.permission (.ok true)])

/-- **The first part of a drop**: the release outputs go to the servos in order, none follows a
    failure, and where nothing fails every servo is released and held as long as it should be. -/
structure Opened (d : ServoDropper) (notes : List DropNote) : Prop where
  grounded : Grounded OpeningRule notes
  inOrder : notes.filterMap DropNote.released <+: d.servos
  complete : firstFailure notes = none → notes.filterMap DropNote.released = d.servos ∧
    (notes.filterMap DropNote.slept).sum = d.releaseHoldSeconds

/-- Neutralisations only, and none after a lost authority. -/
def ClosingRule (before : List DropNote) (note : DropNote) : Prop :=
  note.neutralized.isSome = true ∧ before.any DropNote.lostAuthority = false

/-- **The second part of a drop**: the neutral output is requested for the servos in order, and for
    all of them unless a neutralisation lost its authority. -/
structure Neutralized (d : ServoDropper) (notes : List DropNote) : Prop where
  grounded : Grounded ClosingRule notes
  inOrder : notes.filterMap DropNote.neutralized <+: d.servos
  complete : notes.any DropNote.lostAuthority = false →
    notes.filterMap DropNote.neutralized = d.servos

/-! ## 3. The first part -/

variable {w : DropWorld} {d : ServoDropper} {os : List DropNote} {done servos : List ℕ} {total : ℚ}

/-- The first part so far: nothing has failed, the servos `done` are released. -/
structure Going (os : List DropNote) (done : List ℕ) (total : ℚ) : Prop where
  grounded : Grounded OpeningRule os
  calm : firstFailure os = none
  released : os.filterMap DropNote.released = done
  slept : (os.filterMap DropNote.slept).sum = total

/-- The first part has failed. -/
structure Broken (d : ServoDropper) (error : ServoError) (os : List DropNote) : Prop where
  grounded : Grounded OpeningRule os
  failed : firstFailure os = some error
  inOrder : os.filterMap DropNote.released <+: d.servos

/-- One more note of the first part, without a failure. -/
theorem Going.snoc (h : Going os done total) {n : DropNote} (hcalm : n.failure = none)
    (hrule : OpeningRule os n) :
    Going (os ++ [n]) (done ++ n.released.toList) (total + n.slept.toList.sum) := by
  refine ⟨h.grounded.snoc hrule, ?_, ?_, ?_⟩
  · rw [firstFailure_snoc, h.calm, hcalm]
    rfl
  · rw [List.filterMap_append, h.released]
    cases n <;> rfl
  · rw [List.filterMap_append, List.sum_append, h.slept]
    cases n <;> rfl

/-- One more note, and it failed. -/
theorem Going.broken (h : Going os done total) {n : DropNote} {error : ServoError}
    (hfailed : n.failure = some error) (hrule : OpeningRule os n)
    (hdone : done ++ n.released.toList <+: d.servos) : Broken d error (os ++ [n]) := by
  refine ⟨h.grounded.snoc hrule, ?_, ?_⟩
  · rw [firstFailure_snoc, h.calm, hfailed]
    rfl
  · have hreleased : (os ++ [n]).filterMap DropNote.released = done ++ n.released.toList := by
      rw [List.filterMap_append, h.released]
      cases n <;> rfl
    rw [hreleased]
    exact hdone

/-- A request of the first part. -/
theorem tells_request (h : Going os done total) {n : Except ServoError Unit → DropNote}
    {answer : ℕ → Except ServoError Unit} (hcalm : (n (.ok ())).failure = none)
    (hfails : ∀ error, (n (.error error)).failure = some error)
    (hrule : ∀ a, OpeningRule os (n a))
    (hdone : ∀ a, done ++ (n a).released.toList <+: d.servos) :
    Tells (request n answer)
      (fun _ os => Going os (done ++ (n (.ok ())).released.toList)
        (total + (n (.ok ())).slept.toList.sum))
      (fun error => Broken d error) os := by
  unfold request
  refine .bind (.asked fun a => .bind (.perform (.ofExcept (fun _ ha => ?_) fun error ha => ?_)))
  · subst ha
    exact h.snoc hcalm (hrule _)
  · subst ha
    exact h.broken (hfails error) (hrule _) (hdone _)

/-- The loop that opens the servos. -/
theorem tells_release (h : Going os done total) (hservos : done ++ servos = d.servos) :
    Tells (release w servos) (fun _ os => Going os d.servos total) (fun error => Broken d error)
      os := by
  induction servos generalizing done os with
  | nil =>
    rw [List.append_nil] at hservos
    subst hservos
    exact .pure h
  | cons servo servos ih =>
    have hdone : done ++ [servo] <+: d.servos := ⟨servos, by rw [← hservos]; simp⟩
    refine .bind ((tells_request (n := .release servo) h rfl (fun _ => rfl)
      (fun a => ⟨h.calm, rfl, fun hslept => by cases hslept⟩) fun _ => hdone).mono
        (fun _ os hos => ?_) fun _ _ hos => hos)
    simp only [DropNote.slept, Option.toList_none, List.sum_nil, add_zero] at hos
    exact ih hos (by rw [← hservos]; simp [DropNote.released])

/-- A permission check of the first part. -/
theorem tells_requirePermission (h : Going os d.servos total) :
    Tells (requirePermission w)
      (fun _ os => Going os d.servos total ∧ ∃ earlier, os = earlier ++ [.permission (.ok true)])
      (fun error => Broken d error) os := by
  unfold requirePermission
  refine .bind (.asked fun answer => .bind (.perform ?_))
  have hrule : OpeningRule os (.permission answer) := ⟨h.calm, rfl, fun hslept => by cases hslept⟩
  split
  · rename_i error hfailed
    exact .throw (h.broken hfailed hrule (by simp [DropNote.released]))
  · rename_i hpassed
    have hgoing := h.snoc (n := .permission answer) hpassed hrule
    simp only [DropNote.released, DropNote.slept, Option.toList_none, List.append_nil, List.sum_nil,
      add_zero] at hgoing
    refine .pure ⟨hgoing, os, ?_⟩
    rcases answer with error | _ | _
    · cases hpassed
    · cases hpassed
    · rfl

/-- The loop that holds the servos open. -/
theorem tells_hold (remaining : ℚ) (h : Going os d.servos total) (hremaining : 0 ≤ remaining)
    (htotal : total + remaining = d.releaseHoldSeconds) :
    Tells (hold w d remaining) (fun _ os => Going os d.servos d.releaseHoldSeconds)
      (fun error => Broken d error) os := by
  induction remaining using hold.induct (d := d) generalizing os total with
  | case1 remaining hpos ih =>
    rw [hold, dif_pos hpos]
    refine .bind ((tells_requirePermission h).mono (fun _ os hos => ?_) fun _ _ hos => hos)
    obtain ⟨hgoing, hchecked⟩ := hos
    refine .bind ((tells_request (n := .sleep _) hgoing rfl (fun _ => rfl)
      (fun a => ⟨hgoing.calm, rfl, fun _ => hchecked⟩) (fun _ => by simp [DropNote.released])).mono
        (fun _ os hos => ?_) fun _ _ hos => hos)
    simp only [DropNote.released, DropNote.slept, Option.toList_none, List.append_nil,
      Option.toList_some, List.sum_cons, List.sum_nil, add_zero] at hos
    refine ih hos ?_ (by linarith)
    have hle := min_le_right d.permissionCheckIntervalSeconds remaining
    linarith
  | case2 remaining hpos =>
    rw [hold, dif_neg hpos]
    have hzero : remaining = 0 := le_antisymm (not_lt.mp hpos) hremaining
    rw [hzero, add_zero] at htotal
    subst htotal
    exact .pure h

/-- **The first part**, and the exception that is kept of it. -/
theorem tells_opening : Tells (tryCatch (do
      release w d.servos
      hold w d d.releaseHoldSeconds
      return none)
    fun error => return some error)
    (fun primary os => Opened d os ∧ firstFailure os = primary) (fun _ _ => False) [] := by
  have hstart : Going [] [] 0 := ⟨.nil, rfl, rfl, rfl⟩
  refine .tryCatch (.bind ((tells_release hstart (List.nil_append _)).mono (fun _ os hos => ?_)
    fun error os hos => ?_))
  · refine .bind ((tells_hold _ hos d.hold_pos.le (zero_add _)).mono (fun _ os hos => ?_)
      fun error os hos => ?_)
    · exact .pure ⟨⟨hos.grounded, hos.released ▸ List.prefix_rfl, fun _ => ⟨hos.released, hos.slept⟩⟩, hos.calm⟩
    · exact .pure ⟨⟨hos.grounded, hos.inOrder, fun hcalm => by rw [hos.failed] at hcalm; cases hcalm⟩,
        hos.failed⟩
  · exact .pure ⟨⟨hos.grounded, hos.inOrder, fun hcalm => by rw [hos.failed] at hcalm; cases hcalm⟩,
      hos.failed⟩

/-! ## 4. The second part -/

section Closing

variable {opening closing : List DropNote} {first : Option ServoError}

/-- The second part so far: the servos `done` had their turn, and no authority was lost. -/
structure Closing (closing : List DropNote) (done : List ℕ) (first : Option ServoError) : Prop where
  grounded : Grounded ClosingRule closing
  kept : closing.any DropNote.lostAuthority = false
  neutralized : closing.filterMap DropNote.neutralized = done
  failed : firstFailure closing = first

/-- One more neutralisation. -/
theorem Closing.snoc (h : Closing closing done first) (servo : ℕ) (answer : Except ServoError Unit) :
    Grounded ClosingRule (closing ++ [.neutral servo answer]) ∧
      (closing ++ [DropNote.neutral servo answer]).filterMap DropNote.neutralized =
        done ++ [servo] ∧
      firstFailure (closing ++ [.neutral servo answer]) =
        first.or (DropNote.neutral servo answer).failure := by
  refine ⟨h.grounded.snoc ⟨rfl, h.kept⟩, ?_, ?_⟩
  · rw [List.filterMap_append, h.neutralized]
    rfl
  · rw [firstFailure_snoc, h.failed]

theorem any_snoc (closing : List DropNote) (n : DropNote) :
    (closing ++ [n]).any DropNote.lostAuthority =
      (closing.any DropNote.lostAuthority || n.lostAuthority) := by
  rw [List.any_append, List.any_cons, List.any_nil, Bool.or_false]

/-- **The second part**, and the exception that is kept of it. -/
theorem tells_neutralize (h : Closing closing done first) (hservos : done ++ servos = d.servos) :
    Tells (neutralize w servos first)
      (fun kept os => ∃ closing, os = opening ++ closing ∧ Neutralized d closing ∧
        firstFailure closing = kept) (fun _ _ => False) (opening ++ closing) := by
  induction servos generalizing done closing first with
  | nil =>
    rw [List.append_nil] at hservos
    subst hservos
    exact .pure ⟨closing, rfl, ⟨h.grounded, h.neutralized ▸ List.prefix_rfl, fun _ => h.neutralized⟩,
      h.failed⟩
  | cons servo servos ih =>
    have hnext : ∀ servo', done ++ [servo] ++ servos = d.servos ∧ servo' = servo →
        done ++ [servo'] <+: d.servos := by
      rintro _ ⟨hlist, rfl⟩
      exact ⟨servos, hlist⟩
    have hlist : done ++ [servo] ++ servos = d.servos := by rw [← hservos]; simp
    unfold neutralize
    refine .bind (.tryCatch (.bind ?_))
    refine .bind (.asked fun answer => .bind (.perform (.ofExcept (fun _ ha => ?_) fun error ha => ?_)))
    · subst ha
      obtain ⟨hgrounded, hneutral, hfailed⟩ := h.snoc servo (.ok ())
      have hgoing : Closing (closing ++ [.neutral servo (.ok ())]) (done ++ [servo]) first := by
        refine ⟨hgrounded, ?_, hneutral, ?_⟩
        · rw [any_snoc, h.kept]
          rfl
        · rw [hfailed]
          exact Option.or_none
      refine .pure ?_
      rw [List.append_assoc]
      exact ih hgoing hlist
    · subst ha
      obtain ⟨hgrounded, hneutral, hfailed⟩ := h.snoc servo (.error error)
      refine .pure ?_
      rw [List.append_assoc]
      refine .ite (fun hlost => .pure ⟨_, rfl, ⟨hgrounded, ?_, fun hkept => ?_⟩, hfailed⟩)
        fun hheld => ?_
      · rw [hneutral]
        exact ⟨servos, hlist⟩
      · rw [any_snoc] at hkept
        have hnot : error.isAuthorityLost = false := (Bool.or_eq_false_iff.mp hkept).2
        rw [hnot] at hlost
        cases hlost
      · refine ih ⟨hgrounded, ?_, hneutral, hfailed⟩ hlist
        rw [any_snoc, h.kept]
        exact Bool.not_eq_true _ ▸ hheld

end Closing

/-! ## 5. Every drop -/

/-- **Every drop**: whatever fails, the release outputs go to the servos in order until something
    fails, the hold is as long as it should be where nothing does, the neutral output is requested
    for the servos in order until an authority is lost, and the exception raised is the first of the
    first part or else the first of the second. -/
theorem drop_neutralizes (d : ServoDropper) (w : DropWorld) (asked : ℕ) :
    ∃ opening closing, (call (d.dropWithGuard w) asked).2.2 = opening ++ closing ∧
      Opened d opening ∧ Neutralized d closing ∧
      (call (d.dropWithGuard w) asked).1 =
        match (firstFailure opening).or (firstFailure closing) with
        | some error => .error error
        | none => .ok () := by
  have htold : Tells (d.dropWithGuard w)
      (fun _ os => ∃ opening closing, os = opening ++ closing ∧ Opened d opening ∧
        Neutralized d closing ∧ (firstFailure opening).or (firstFailure closing) = none)
      (fun error os => ∃ opening closing, os = opening ++ closing ∧ Opened d opening ∧
        Neutralized d closing ∧ (firstFailure opening).or (firstFailure closing) = some error)
      [] := by
    unfold dropWithGuard
    refine .bind (tells_opening.mono (fun primary opening hopened => ?_) fun _ _ hf => hf.elim)
    obtain ⟨hopened, hprimary⟩ := hopened
    have hstart : Closing [] [] none := ⟨.nil, rfl, rfl, rfl⟩
    have hlog : opening = opening ++ [] := (List.append_nil opening).symm
    rw [hlog]
    refine .bind ((tells_neutralize hstart (List.nil_append d.servos)).mono (fun kept os hclosed => ?_) fun _ _ hf => hf.elim)
    obtain ⟨closing, rfl, hneutralized, hkept⟩ := hclosed
    have hend : ∀ error, primary.or kept = error →
        ∃ o c, opening ++ closing = o ++ c ∧ Opened d o ∧ Neutralized d c ∧
          (firstFailure o).or (firstFailure c) = error := by
      rintro error rfl
      exact ⟨opening, closing, rfl, hopened, hneutralized, by rw [hprimary, hkept]⟩
    split
    · rename_i error herror
      exact .throw (hend _ herror)
    · rename_i hnone
      exact .pure (hend _ hnone)
  have hcall := Tells.call (P := fun outcome os => ∃ opening closing, os = opening ++ closing ∧
    Opened d opening ∧ Neutralized d closing ∧ outcome =
      match (firstFailure opening).or (firstFailure closing) with
      | some error => .error error
      | none => .ok ()) (htold.mono (fun _ os hos => ?_) fun error os hos => ?_) asked
  · obtain ⟨opening, closing, hlog, hopened, hneutralized, houtcome⟩ := hcall
    exact ⟨opening, closing, hlog, hopened, hneutralized, houtcome⟩
  · obtain ⟨opening, closing, hlog, hopened, hneutralized, hnone⟩ := hos
    exact ⟨opening, closing, hlog, hopened, hneutralized, by rw [hnone]⟩
  · obtain ⟨opening, closing, hlog, hopened, hneutralized, herror⟩ := hos
    exact ⟨opening, closing, hlog, hopened, hneutralized, by rw [herror]⟩

/-- Two servos that are held open for a tenth of a second, in two slices. -/
def twoServos : ServoDropper where
  servos := [17, 27]
  releaseHoldSeconds := 1 / 10
  permissionCheckIntervalSeconds := 1 / 20
  servos_ne := by decide
  servos_nodup := by decide
  hold_pos := by norm_num
  interval_pos := by norm_num
  interval_le := by norm_num

/-- A permission that is withdrawn before the second slice. -/
def withdrawn : DropWorld where
  releaseActuate := fun _ _ => .ok ()
  continuationActuate := fun _ _ => .ok ()
  permission := fun asked => .ok (decide (asked < 4))
  sleep := fun _ _ => .ok ()

example :
    let (outcome, _, notes) := call (twoServos.dropWithGuard withdrawn) 0
    (match outcome with
      | .ok _ => none
      | .error error => some error) =
        some (.permission "payload actuation permission is not current") ∧
      notes.filterMap DropNote.released = [17, 27] ∧ notes.filterMap DropNote.slept = [1 / 20] ∧
      notes.filterMap DropNote.neutralized = [17, 27] := by decide +kernel

end ServoDropper

end DroneSim
