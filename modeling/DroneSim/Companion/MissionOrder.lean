/-
  File:      DroneSim/Companion/MissionOrder.lean
  Subject:   The cursors follow the plan (companion/configured_mission.py).

  * `Flow`, `flowItem`, `flowItems` -- the meaning of a plan, by recursion: what is evaluated and
    started in order, a group entered where its condition held;
  * `flowStack` -- what a stack of cursors has still to do;
  * `nextStep_spec` -- a search does the first part of what is left, up to the next step;
  * `Following` -- the invariant: what was done and what is left make up the plan;
  * `mission_follows_plan` -- the mission refines the plan.
-/
import DroneSim.Companion.ConfiguredMission

namespace DroneSim

open Library Library.Attempt Library.Acting

namespace MissionNote

variable {Args : Type}

/-- A note that an operation, an evaluation or the mission did not succeed. -/
def isFailure : MissionNote Args → Bool
  | .started _ _ state => decide (state = .failed ∨ state = .cancelled)
  | .startRaised _ => true
  | .observed _ state => decide (state = .failed ∨ state = .cancelled)
  | .evaluationFailed _ => true
  | .aborted _ => true
  | .evaluated _ => false
  | .skipped _ _ _ => false

def isStart : MissionNote Args → Bool
  | .started _ _ _ => true
  | _ => false

end MissionNote

namespace ConfiguredMission

variable {Args : Type}

/-! ## 1. The meaning of a plan -/

/-- What a plan does: it evaluates a condition, or it starts a step. -/
inductive Visit (Args : Type) where
  | evaluated (condition : Condition)
  | started (step : MissionStep Args)

/-- What is done, and the number of visits after it; `none` where an evaluation failed. -/
structure Flow (Args : Type) where
  visits : List (Visit Args)
  rest : Option ℕ

/-- One thing done, before a flow. -/
def Flow.cons (visit : Visit Args) (f : Flow Args) : Flow Args := ⟨visit :: f.visits, f.rest⟩

/-- A flow, and then another. -/
def Flow.andThen (f : Flow Args) (g : ℕ → Flow Args) : Flow Args :=
  match f.rest with
  | some n => ⟨f.visits ++ (g n).visits, (g n).rest⟩
  | none => f

/-- The group is entered; a skipped group is reported first. -/
def enters (w : Eligibility) (visit : ℕ) (condition : Condition) : Except String Bool :=
  match w.evaluateCondition visit condition with
  | .error error => .error error
  | .ok result =>
    if result.matched then .ok true
    else
      match w.emit visit with
      | .error error => .error error
      | .ok () => .ok false

mutual

/-- An item after so many visits. -/
def flowItem (w : Eligibility) : PlanItem Args → ℕ → Flow Args
  | .step step, n => ⟨[Visit.started step], some (n + 1)⟩
  | .group condition steps, n =>
    match enters w (n + 1) condition with
    | .error _ => ⟨[.evaluated condition], none⟩
    | .ok true => .cons (.evaluated condition) (flowItems w steps (n + 1))
    | .ok false => ⟨[.evaluated condition], some (n + 1)⟩

/-- Items in order. -/
def flowItems (w : Eligibility) : List (PlanItem Args) → ℕ → Flow Args
  | [], n => ⟨[], some n⟩
  | item :: items, n => (flowItem w item n).andThen (flowItems w items)

end

/-- The steps of a flow. -/
def Flow.steps (f : Flow Args) : List (MissionStep Args) :=
  f.visits.filterMap fun visit =>
    match visit with
    | .started step => some step
    | .evaluated _ => none

theorem Flow.andThen_assoc (f : Flow Args) (g h : ℕ → Flow Args) :
    (f.andThen g).andThen h = f.andThen fun n => (g n).andThen h := by
  obtain ⟨visits, rest⟩ := f
  cases rest with
  | none => rfl
  | some n =>
    show Flow.andThen ⟨visits ++ (g n).visits, (g n).rest⟩ h =
      ⟨visits ++ ((g n).andThen h).visits, ((g n).andThen h).rest⟩
    obtain ⟨visits', rest'⟩ := g n
    cases rest' with
    | none => rfl
    | some m => simp [Flow.andThen]

theorem Flow.cons_andThen (visit : Visit Args) (f : Flow Args) (g : ℕ → Flow Args) :
    (Flow.cons visit f).andThen g = Flow.cons visit (f.andThen g) := by
  obtain ⟨visits, rest⟩ := f
  cases rest with
  | none => rfl
  | some n => rfl

theorem Flow.andThen_done (f : Flow Args) : (f.andThen fun n => ⟨[], some n⟩) = f := by
  obtain ⟨visits, rest⟩ := f
  cases rest with
  | none => rfl
  | some n => simp [Flow.andThen]

/-! ## 2. The cursors -/

/-- What a stack of cursors has still to do. -/
def flowStack (w : Eligibility) : List (Cursor Args) → ℕ → Flow Args
  | [], n => ⟨[], some n⟩
  | cursor :: rest, n =>
    (flowItems w (cursor.items.drop cursor.index) n).andThen (flowStack w rest)

/-- The visits among the notes. -/
def visits (notes : List (MissionNote Args)) : List (Visit Args) :=
  notes.filterMap fun note =>
    match note with
    | .evaluated condition => some (.evaluated condition)
    | .started step _ _ => some (.started step)
    | _ => none

@[simp] theorem visits_append (notes more : List (MissionNote Args)) :
    visits (notes ++ more) = visits notes ++ visits more := List.filterMap_append

/-- What the end of a search says of what was left before it. -/
def Search.Meets (w : Eligibility) (f : Flow Args) (search : Search Args) : Prop :=
  match search.outcome with
  | .error _ => f = ⟨visits search.notes, none⟩
  | .ok none => f = ⟨visits search.notes, some search.stepIndex⟩
  | .ok (some step) =>
    f = ⟨visits search.notes ++ Visit.started step :: (flowStack w search.cursors search.stepIndex).visits,
      (flowStack w search.cursors search.stepIndex).rest⟩

theorem Search.Meets.after {w : Eligibility} {f : Flow Args} {search : Search Args}
    (h : search.Meets w f) (notes : List (MissionNote Args)) :
    (search.after notes).Meets w ⟨visits notes ++ f.visits, f.rest⟩ := by
  obtain ⟨outcome, cursors, stepIndex, found⟩ := search
  unfold Search.Meets at h ⊢
  cases outcome with
  | error error =>
    cases h
    show _ = Flow.mk (visits (notes ++ found)) none
    rw [visits_append]
  | ok step =>
    cases step with
    | none =>
      cases h
      show _ = Flow.mk (visits (notes ++ found)) (some stepIndex)
      rw [visits_append]
    | some step =>
      cases h
      show _ = Flow.mk (visits (notes ++ found) ++ Visit.started step :: _) _
      rw [visits_append, List.append_assoc]
      rfl

/-- The items of a cursor from its index on. -/
theorem drop_index {cursor : Cursor Args} {item : PlanItem Args}
    (h : cursor.items[cursor.index]? = some item) :
    cursor.items.drop cursor.index = item :: cursor.next.items.drop cursor.next.index := by
  obtain ⟨hlt, hitem⟩ := List.getElem?_eq_some_iff.mp h
  rw [List.drop_eq_getElem_cons hlt, hitem]
  rfl

theorem turnsLeft_cons {cursor : Cursor Args} {rest : List (Cursor Args)} {item : PlanItem Args}
    (h : cursor.items[cursor.index]? = some item) :
    turnsLeft (cursor :: rest) = turns item + turnsLeft (cursor.next :: rest) := by
  unfold turnsLeft
  rw [drop_index h, turnsOf]
  omega

theorem flowStack_cons {w : Eligibility} {cursor : Cursor Args} {rest : List (Cursor Args)}
    {item : PlanItem Args} (h : cursor.items[cursor.index]? = some item) (n : ℕ) :
    flowStack w (cursor :: rest) n = (flowItem w item n).andThen (flowStack w (cursor.next :: rest)) := by
  show (flowItems w (cursor.items.drop cursor.index) n).andThen (flowStack w rest) = _
  rw [drop_index h, flowItems, Flow.andThen_assoc]
  rfl

/-- **A search** does what is left up to the next step, where it has turns enough. -/
theorem searchStep_spec (w : Eligibility) (turns : ℕ) (cursors : List (Cursor Args)) (n : ℕ)
    (h : turnsLeft cursors < turns) :
    (searchStep w turns cursors n).Meets w (flowStack w cursors n) := by
  induction turns generalizing cursors n with
  | zero => omega
  | succ turns ih =>
    cases cursors with
    | nil => exact rfl
    | cons cursor rest =>
      rw [searchStep]
      split
      · rename_i hnone
        have hdrop : cursor.items.drop cursor.index = [] :=
          List.drop_eq_nil_of_le (List.getElem?_eq_none_iff.mp hnone)
        have hflow : flowStack w (cursor :: rest) n = flowStack w rest n := by
          show (flowItems w (cursor.items.drop cursor.index) n).andThen (flowStack w rest) = _
          rw [hdrop, flowItems]
          rfl
        rw [hflow]
        refine ih rest n ?_
        unfold turnsLeft at h
        omega
      · rename_i step hstep
        rw [flowStack_cons hstep, flowItem]
        exact rfl
      · rename_i condition steps hgroup
        have hturns : turnsLeft (cursor :: rest) =
            2 + turnsOf steps + turnsLeft (cursor.next :: rest) := turnsLeft_cons hgroup
        rw [flowStack_cons hgroup, flowItem]
        unfold enters
        cases hresult : w.evaluateCondition (n + 1) condition with
        | error error => exact rfl
        | ok result =>
          cases hmatched : result.matched with
          | true =>
            -- the group is entered: its items come before what is left of the stack
            have hentered : turnsLeft
                (⟨steps, 0, cursor.itemPath ++ ".steps"⟩ :: cursor.next :: rest) < turns := by
              have hpushed : turnsLeft
                  (⟨steps, 0, cursor.itemPath ++ ".steps"⟩ :: cursor.next :: rest) =
                  1 + turnsOf steps + turnsLeft (cursor.next :: rest) := rfl
              omega
            simp only [hmatched, if_true]
            rw [Flow.cons_andThen]
            exact (ih _ (n + 1) hentered).after [.evaluated condition]
          | false =>
            simp only [hmatched, Bool.false_eq_true, if_false]
            cases hemit : w.emit (n + 1) with
            | error error => exact rfl
            | ok sent =>
              have hskipped : turnsLeft (cursor.next :: rest) < turns := by omega
              exact (ih _ (n + 1) hskipped).after
                [.evaluated condition, .skipped cursor.itemPath condition result.reason]

/-- **`nextStep`** has turns enough. -/
theorem nextStep_spec (w : Eligibility) (cursors : List (Cursor Args)) (n : ℕ) :
    (nextStep w cursors n).Meets w (flowStack w cursors n) :=
  searchStep_spec w _ cursors n (Nat.lt_succ_self _)

/-! ## 3. What a call does -/

/-- The ways to advance: the notes, the mission after it, and whether it raised. -/
inductive Advanced (w : Eligibility) (s : ConfiguredMission Args) :
    List (MissionNote Args) → ConfiguredMission Args → Bool → Prop where
  | started {t} {step : MissionStep Args} (h : (nextStep w s.cursors s.stepIndex).outcome = .ok (some step))
    {id : String} {state : MissionToolState} (hid : t.operationId = some id)
    (hleft : t.cursors = (nextStep w s.cursors s.stepIndex).cursors ∧
      t.stepIndex = (nextStep w s.cursors s.stepIndex).stepIndex)
    (hstate : if state = .failed ∨ state = .cancelled then t.state = state else t.state = s.state) :
    Advanced w s ((nextStep w s.cursors s.stepIndex).notes ++ [MissionNote.started step id state]) t false
  | startRaised {t} {step : MissionStep Args}
    (h : (nextStep w s.cursors s.stepIndex).outcome = .ok (some step)) (hstate : t.state = s.state) :
    Advanced w s ((nextStep w s.cursors s.stepIndex).notes ++ [MissionNote.startRaised step]) t true
  | failed {t} {error : String} (h : (nextStep w s.cursors s.stepIndex).outcome = .error error)
    (hstate : t.state = .failed) :
    Advanced w s ((nextStep w s.cursors s.stepIndex).notes ++ [MissionNote.evaluationFailed error]) t false
  | completed {t} (h : (nextStep w s.cursors s.stepIndex).outcome = .ok none)
    (hstate : t.state = .succeeded) :
    Advanced w s (nextStep w s.cursors s.stepIndex).notes t false

/-- The ways a call goes; those of a tick need that no call has raised. -/
inductive Stepped (w : Eligibility) (p : Hosted Args) :
    List (MissionNote Args) → ConfiguredMission Args → Bool → Prop where
  | idle (raised : Bool) : Stepped w p [] p.mission raised
  | aborted {t} (hrunning : p.mission.state = .running) (reason : String)
    (hstate : t.state = .cancelled) : Stepped w p [.aborted reason] t false
  | ended {t} (hfree : p.raised = false) (hrunning : p.mission.state = .running) {id : String}
    (hid : p.mission.operationId = some id) {state : MissionToolState}
    (hended : state = .failed ∨ state = .cancelled) (hstate : t.state = state) :
    Stepped w p [MissionNote.observed id state] t false
  | first {o t raised} (hfree : p.raised = false) (hrunning : p.mission.state = .running)
    (hid : p.mission.operationId = none) (h : Advanced w p.mission o t raised) :
    Stepped w p o t raised
  | next {o t raised} (hfree : p.raised = false) (hrunning : p.mission.state = .running) {id : String}
    (hid : p.mission.operationId = some id)
    (h : Advanced w { p.mission with operationId := none } o t raised) :
    Stepped w p (.observed id .succeeded :: o) t raised

variable {w : Eligibility} {s t : ConfiguredMission Args} {o : List (MissionNote Args)} {raised : Bool}
  {r : Acting (ConfiguredMission Args) (MissionNote Args)}

theorem wp_performAll {Q : Unit → Acting (ConfiguredMission Args) (MissionNote Args) → Prop}
    {E : String → Acting (ConfiguredMission Args) (MissionNote Args) → Prop}
    (notes : List (MissionNote Args)) :
    wp (performAll notes) Q E r ↔ Q () ⟨r.state, r.log ++ notes⟩ := by
  induction notes generalizing r with
  | nil =>
    rw [List.append_nil]
    exact Iff.rfl
  | cons note notes ih =>
    rw [performAll, wp_bind, wp_perform, ih, List.append_assoc]
    rfl

theorem advance_spec (site : TickSite Args) :
    wp (advance w site)
      (fun _ r' => ∃ o, r'.log = r.log ++ o ∧ Advanced w r.state o r'.state false)
      (fun _ r' => ∃ o, r'.log = r.log ++ o ∧ Advanced w r.state o r'.state true) r := by
  unfold advance
  rw [wp_bind, wp_current, wp_bind, wp_update, wp_bind, wp_performAll]
  split
  · rename_i error herror
    exact ⟨_, List.append_assoc _ _ _, .failed herror rfl⟩
  · rename_i hnone
    exact ⟨_, rfl, .completed hnone rfl⟩
  · rename_i step hstep
    unfold startStep
    split
    · exact ⟨_, List.append_assoc _ _ _, .startRaised hstep rfl⟩
    · rename_i id state error _
      rw [wp_bind, wp_update, wp_bind, wp_perform]
      split
      · rename_i hended
        exact ⟨_, List.append_assoc _ _ _, .started hstep rfl ⟨rfl, rfl⟩ (by rw [if_pos hended]; rfl)⟩
      · rename_i hrunning
        exact ⟨_, List.append_assoc _ _ _, .started hstep rfl ⟨rfl, rfl⟩ (by rw [if_neg hrunning]; rfl)⟩

theorem tick_spec (site : TickSite Args) {p : Hosted Args} (hfree : p.raised = false) :
    wp (tick w site) (fun _ r => Stepped w p r.log r.state false)
      (fun _ r => Stepped w p r.log r.state true) ⟨p.mission, []⟩ := by
  unfold tick
  rw [wp_bind, wp_ofExcept]
  refine ⟨fun _ _ => ?_, fun _ _ => .idle true⟩
  rw [wp_bind, wp_current]
  split
  · exact .idle false
  · rename_i hrunning
    have hrunning : p.mission.state = .running := not_not.mp hrunning
    split
    · rename_i hid
      refine (advance_spec site).mono (fun _ r hr => ?_) fun _ r hr => ?_
      · obtain ⟨o, hlog, hadvanced⟩ := hr
        rw [hlog]
        exact .first hfree hrunning hid hadvanced
      · obtain ⟨o, hlog, hadvanced⟩ := hr
        rw [hlog]
        exact .first hfree hrunning hid hadvanced
    · rename_i id hid
      split
      · exact .idle false
      · rw [wp_bind, wp_perform, wp_bind, wp_update]
        refine (advance_spec site).mono (fun _ r hr => ?_) fun _ r hr => ?_
        · obtain ⟨o, hlog, hadvanced⟩ := hr
          rw [hlog]
          exact .next hfree hrunning hid hadvanced
        · obtain ⟨o, hlog, hadvanced⟩ := hr
          rw [hlog]
          exact .next hfree hrunning hid hadvanced
      · rename_i state error hnotrunning hnotsucceeded _
        refine .ended hfree hrunning hid ?_ rfl
        cases state with
        | running => exact (hnotrunning rfl).elim
        | succeeded => exact (hnotsucceeded rfl).elim
        | failed => exact Or.inl rfl
        | cancelled => exact Or.inr rfl

theorem abort_spec (reason : String) (aborted : Except String Unit) (p : Hosted Args) :
    wp (abort reason aborted : Op Args Unit) (fun _ r => Stepped w p r.log r.state false)
      (fun _ r => Stepped w p r.log r.state true) ⟨p.mission, []⟩ := by
  unfold abort
  rw [wp_bind, wp_ofExcept]
  refine ⟨fun _ _ => ?_, fun _ _ => .idle true⟩
  rw [wp_bind, wp_current]
  split
  · rename_i hrunning
    exact .aborted hrunning reason rfl
  · exact .idle false

/-- **What a call does**: it goes one of the ways. -/
theorem stepped_of_driven {p q : Hosted Args} {i : MissionCall Args} (h : Driven w p i o q) :
    ∃ raised, Stepped w p o q.mission raised ∧ q.raised = (p.raised || raised) := by
  obtain ⟨hmay, hcall, hraised⟩ := h
  have hspec : wp (body w i) (fun _ r => Stepped w p r.log r.state false)
      (fun _ r => Stepped w p r.log r.state true) ⟨p.mission, []⟩ := by
    cases i with
    | tick site => exact tick_spec site hmay
    | abort reason aborted => exact abort_spec reason aborted p
  have hend := call_spec (P := fun x r => Stepped w p r.log r.state (!x.isOk)) hspec
  rw [hcall] at hend
  exact ⟨_, hend, hraised⟩

/-! ## 4. The log -/

/-- Every operation started is seen to succeed. -/
def Succeeded (os : List (MissionNote Args)) : Prop :=
  ∀ before step id state after, os = before ++ MissionNote.started step id state :: after →
    .observed id .succeeded ∈ after

/-- Every operation started before another is seen to succeed before it. -/
def InOrder (os : List (MissionNote Args)) : Prop :=
  ∀ before step id state after, os = before ++ MissionNote.started step id state :: after → Succeeded before

/-- Nothing is evaluated or started after a failure. -/
def FailsLast (os : List (MissionNote Args)) : Prop :=
  ∀ before note after, os = before ++ note :: after → note.isFailure = true → visits after = []

section Log

variable {os notes : List (MissionNote Args)} {note : MissionNote Args}

theorem Succeeded.nil : Succeeded ([] : List (MissionNote Args)) := by
  intro before step id state after h
  cases before with
  | nil => cases h
  | cons _ _ => cases h

theorem InOrder.nil : InOrder ([] : List (MissionNote Args)) := by
  intro before step id state after h
  cases before with
  | nil => cases h
  | cons _ _ => cases h

/-- Notes among which there is no start change nothing. -/
theorem Succeeded.append (h : Succeeded os) (hnotes : ∀ note ∈ notes, note.isStart = false) :
    Succeeded (os ++ notes) := by
  intro before step id state after heq
  rcases split_append heq with ⟨mid, hos, rfl⟩ | ⟨mid, -, hmid⟩
  · exact List.mem_append_left _ (h _ _ _ _ _ hos)
  · have hstart := hnotes (.started step id state) (by rw [hmid]; simp)
    cases hstart

theorem Succeeded.of_append (h : Succeeded (os ++ notes))
    (hnotes : ∀ id, MissionNote.observed id .succeeded ∉ notes) : Succeeded os := by
  intro before step id state after heq
  have hmem := h before step id state (after ++ notes) (by rw [heq]; simp)
  exact (List.mem_append.mp hmem).resolve_right (hnotes id)

theorem InOrder.append (h : InOrder os) (hnotes : ∀ note ∈ notes, note.isStart = false) :
    InOrder (os ++ notes) := by
  intro before step id state after heq
  rcases split_append heq with ⟨mid, hos, rfl⟩ | ⟨mid, -, hmid⟩
  · exact h _ _ _ _ _ hos
  · have hstart := hnotes (.started step id state) (by rw [hmid]; simp)
    cases hstart

/-- A start after operations that succeeded. -/
theorem InOrder.start (h : InOrder os) (hsucceeded : Succeeded os) (step : MissionStep Args)
    (id : String) (state : MissionToolState) : InOrder (os ++ [MissionNote.started step id state]) := by
  intro before step' id' state' after heq
  rcases split_append heq with ⟨mid, hos, -⟩ | ⟨mid, rfl, hmid⟩
  · exact h _ _ _ _ _ hos
  · cases mid with
    | nil => rwa [List.append_nil]
    | cons x mid =>
      have hlength := congrArg List.length hmid
      simp at hlength

/-- The operation started last is not yet seen to succeed. -/
theorem not_succeeded_start (step : MissionStep Args) (id : String) (state : MissionToolState)
    (hnotes : ∀ id, MissionNote.observed id .succeeded ∉ notes) :
    ¬ Succeeded (os ++ MissionNote.started step id state :: notes) :=
  fun h => hnotes id (h os step id state notes rfl)

/-- The operation started last is seen to succeed. -/
theorem Succeeded.observed (h : Succeeded os) (step : MissionStep Args) (id : String)
    (state : MissionToolState) :
    Succeeded (os ++ [MissionNote.started step id state] ++ [MissionNote.observed id .succeeded]) := by
  intro before step' id' state' after heq
  rw [List.append_assoc] at heq
  rcases split_append heq with ⟨mid, hos, rfl⟩ | ⟨mid, -, hmid⟩
  · exact List.mem_append_left _ (h _ _ _ _ _ hos)
  · cases mid with
    | nil =>
      cases hmid
      exact List.mem_cons_self
    | cons x mid =>
      cases mid with
      | nil => cases hmid
      | cons y mid =>
        have hlength := congrArg List.length hmid
        simp at hlength

theorem FailsLast.of_calm (h : ∀ note ∈ os, note.isFailure = false) : FailsLast os := by
  intro before note after heq hfailure
  have hcalm := h note (by rw [heq]; simp)
  rw [hcalm] at hfailure
  cases hfailure

/-- One more note after a log without a failure. -/
theorem FailsLast.snoc (h : ∀ note ∈ os, note.isFailure = false) : FailsLast (os ++ [note]) := by
  intro before note' after heq hfailure
  rcases split_append heq with ⟨mid, hos, -⟩ | ⟨mid, -, hmid⟩
  · have hcalm := h note' (by rw [hos]; simp)
    rw [hcalm] at hfailure
    cases hfailure
  · cases mid with
    | nil =>
      cases hmid
      rfl
    | cons x mid =>
      have hlength := congrArg List.length hmid
      simp at hlength

/-- Notes without a visit. -/
theorem FailsLast.append (h : FailsLast os) (hnotes : visits notes = []) :
    FailsLast (os ++ notes) := by
  intro before note after heq hfailure
  rcases split_append heq with ⟨mid, hos, rfl⟩ | ⟨mid, -, hmid⟩
  · rw [visits_append, h _ _ _ hos hfailure, hnotes]
    rfl
  · rw [hmid, visits_append, List.append_eq_nil_iff] at hnotes
    have hcons : visits ([note] ++ after) = [] := hnotes.2
    rw [visits_append, List.append_eq_nil_iff] at hcons
    exact hcons.2

end Log

/-! ## 5. The invariant -/

/-- The meaning of the whole plan. -/
def planFlow (w : Eligibility) (plan : MissionPlan Args) : Flow Args := flowItems w plan.steps 0

/-- **The plan is exhausted**: all of it was visited, no evaluation failed, and every operation
    started is seen to succeed. -/
structure Exhausted (w : Eligibility) (plan : MissionPlan Args) (os : List (MissionNote Args)) :
    Prop where
  visited : visits os = (planFlow w plan).visits
  unfailed : (planFlow w plan).rest ≠ none
  succeeded : Succeeded os

/-- A mission under way: what was visited and what is left make up the plan, and the operation under
    way is the last thing done. -/
structure Going (w : Eligibility) (plan : MissionPlan Args) (s : ConfiguredMission Args)
    (os : List (MissionNote Args)) : Prop where
  left : visits os ++ (flowStack w s.cursors s.stepIndex).visits = (planFlow w plan).visits
  rest : (flowStack w s.cursors s.stepIndex).rest = (planFlow w plan).rest
  unbegun : s.operationId = none → os = []
  busy : ∀ id, s.operationId = some id →
    ∃ before step state, os = before ++ [MissionNote.started step id state] ∧ Succeeded before
  calm : ∀ note ∈ os, note.isFailure = false

/-- **The invariant.** -/
structure Following (w : Eligibility) (plan : MissionPlan Args) (p : Hosted Args)
    (os : List (MissionNote Args)) : Prop where
  begun : visits os <+: (planFlow w plan).visits
  inOrder : InOrder os
  failsLast : FailsLast os
  going : p.mission.state = .running → p.raised = false → Going w plan p.mission os
  complete : p.mission.state = .succeeded → Exhausted w plan os
  incomplete : p.mission.state ≠ .succeeded → ¬ Exhausted w plan os

variable {plan : MissionPlan Args} {p q : Hosted Args} {os : List (MissionNote Args)}

/-- The plan has something to visit. -/
theorem planFlow_nonempty (w : Eligibility) (plan : MissionPlan Args) :
    (planFlow w plan).visits ≠ [] := by
  obtain ⟨steps, hne⟩ := plan
  show (flowItems w steps 0).visits ≠ []
  cases steps with
  | nil => exact absurd rfl hne
  | cons item items =>
    have hitem : (flowItem w item 0).visits ≠ [] := by
      cases item with
      | step step =>
        rw [flowItem]
        exact List.cons_ne_nil _ _
      | group condition steps =>
        rw [flowItem]
        split
        · exact List.cons_ne_nil _ _
        · exact List.cons_ne_nil _ _
        · exact List.cons_ne_nil _ _
    rw [flowItems]
    unfold Flow.andThen
    split
    · exact List.append_ne_nil_of_left_ne_nil hitem _
    · exact hitem

theorem following_created (w : Eligibility) (plan : MissionPlan Args) :
    Following w plan ⟨created plan, false⟩ [] where
  begun := List.nil_prefix
  inOrder := .nil
  failsLast := .of_calm fun note hnote => absurd hnote List.not_mem_nil
  going _ _ := by
    have hflow : flowStack w (created plan).cursors (created plan).stepIndex = planFlow w plan :=
      Flow.andThen_done _
    refine ⟨?_, by rw [hflow], fun _ => rfl, fun id hid => ?_, fun note hnote => ?_⟩
    · rw [hflow]
      rfl
    · cases hid
    · exact absurd hnote List.not_mem_nil
  complete h := by cases h
  incomplete _ h := planFlow_nonempty w plan h.visited.symm

/-- The notes of a search are evaluations and skipped groups. -/
theorem searchStep_quiet (w : Eligibility) (turns : ℕ) (cursors : List (Cursor Args)) (n : ℕ) :
    ∀ note ∈ (searchStep w turns cursors n).notes, note.isStart = false ∧ note.isFailure = false := by
  induction turns generalizing cursors n with
  | zero => exact fun note hnote => absurd hnote List.not_mem_nil
  | succ turns ih =>
    cases cursors with
    | nil => exact fun note hnote => absurd hnote List.not_mem_nil
    | cons cursor rest =>
      rw [searchStep]
      split
      · exact ih rest n
      · exact fun note hnote => absurd hnote List.not_mem_nil
      · rename_i condition steps _
        have hevaluated : ∀ note ∈ [(.evaluated condition : MissionNote Args)],
            note.isStart = false ∧ note.isFailure = false := by
          intro note hnote
          rw [List.mem_singleton.mp hnote]
          exact ⟨rfl, rfl⟩
        split
        · exact hevaluated
        · rename_i result _
          split
          · intro note hnote
            rcases List.mem_append.mp hnote with hnote | hnote
            · exact hevaluated note hnote
            · exact ih _ _ note hnote
          · split
            · exact hevaluated
            · intro note hnote
              rcases List.mem_append.mp hnote with hnote | hnote
              · rcases List.mem_cons.mp hnote with rfl | hnote
                · exact ⟨rfl, rfl⟩
                · rw [List.mem_singleton.mp hnote]
                  exact ⟨rfl, rfl⟩
              · exact ih _ _ note hnote

/-- A mission about to search: its operations succeeded, and what is left makes up the plan. -/
structure Searching (w : Eligibility) (plan : MissionPlan Args) (s : ConfiguredMission Args)
    (os : List (MissionNote Args)) : Prop where
  running : s.state = .running
  left : visits os ++ (flowStack w s.cursors s.stepIndex).visits = (planFlow w plan).visits
  rest : (flowStack w s.cursors s.stepIndex).rest = (planFlow w plan).rest
  inOrder : InOrder os
  succeeded : Succeeded os
  calm : ∀ note ∈ os, note.isFailure = false

/-- The log with the notes of the search. -/
abbrev sought (w : Eligibility) (s : ConfiguredMission Args) (os : List (MissionNote Args)) :
    List (MissionNote Args) := os ++ (nextStep w s.cursors s.stepIndex).notes

theorem Searching.quiet (h : Searching w plan s os) :
    InOrder (sought w s os) ∧ Succeeded (sought w s os) ∧
      ∀ note ∈ sought w s os, note.isFailure = false := by
  have hquiet : ∀ note ∈ (nextStep w s.cursors s.stepIndex).notes,
      note.isStart = false ∧ note.isFailure = false := searchStep_quiet w _ s.cursors s.stepIndex
  refine ⟨h.inOrder.append fun note hnote => (hquiet note hnote).1,
    h.succeeded.append fun note hnote => (hquiet note hnote).1, fun note hnote => ?_⟩
  rcases List.mem_append.mp hnote with hnote | hnote
  · exact h.calm note hnote
  · exact (hquiet note hnote).2

/-- The plan around the step that was found. -/
theorem Searching.found (h : Searching w plan s os) {step : MissionStep Args}
    (hsearch : (nextStep w s.cursors s.stepIndex).outcome = .ok (some step)) :
    (planFlow w plan).visits = visits (sought w s os) ++ Visit.started step ::
        (flowStack w (nextStep w s.cursors s.stepIndex).cursors
          (nextStep w s.cursors s.stepIndex).stepIndex).visits ∧
      (planFlow w plan).rest = (flowStack w (nextStep w s.cursors s.stepIndex).cursors
          (nextStep w s.cursors s.stepIndex).stepIndex).rest := by
  have hmeets := nextStep_spec w s.cursors s.stepIndex
  unfold Search.Meets at hmeets
  rw [hsearch] at hmeets
  simp only at hmeets
  rw [← h.left, ← h.rest, visits_append, hmeets, List.append_assoc]
  exact ⟨rfl, rfl⟩

theorem Searching.started (h : Searching w plan s os) {step : MissionStep Args}
    (hsearch : (nextStep w s.cursors s.stepIndex).outcome = .ok (some step)) {id : String}
    {state : MissionToolState} (hid : t.operationId = some id)
    (hcursors : t.cursors = (nextStep w s.cursors s.stepIndex).cursors ∧
      t.stepIndex = (nextStep w s.cursors s.stepIndex).stepIndex)
    (hstate : if state = .failed ∨ state = .cancelled then t.state = state else t.state = s.state) :
    Following w plan ⟨t, false⟩ (sought w s os ++ [MissionNote.started step id state]) := by
  obtain ⟨horder, hsucceeded, hcalm⟩ := h.quiet
  obtain ⟨hplan, hrest⟩ := h.found hsearch
  have hvisits : visits (sought w s os ++ [MissionNote.started step id state]) =
      visits (sought w s os) ++ [Visit.started step] := visits_append _ _
  have hrun : t.state ≠ .succeeded ∧
      (t.state = .running → ¬ (state = .failed ∨ state = .cancelled)) := by
    split at hstate
    · rename_i hended
      rw [hstate]
      rcases hended with rfl | rfl
      · exact ⟨by decide, fun h => by cases h⟩
      · exact ⟨by decide, fun h => by cases h⟩
    · rename_i hrunning
      rw [hstate, h.running]
      exact ⟨by decide, fun _ => hrunning⟩
  refine ⟨?_, horder.start hsucceeded _ _ _, .snoc hcalm, fun hgoing _ => ?_,
    fun hend => absurd hend hrun.1, fun _ hend => ?_⟩
  rotate_right
  · exact not_succeeded_start step id state (fun _ => List.not_mem_nil) hend.succeeded
  · rw [hvisits, hplan]
    exact ⟨_, List.append_assoc _ _ _⟩
  · refine ⟨?_, ?_, fun hnone => ?_, fun id' hid' => ?_, fun note hnote => ?_⟩
    · show visits _ ++ (flowStack w t.cursors t.stepIndex).visits = _
      rw [hvisits, hcursors.1, hcursors.2, hplan]
      exact List.append_assoc _ _ _
    · show (flowStack w t.cursors t.stepIndex).rest = _
      rw [hcursors.1, hcursors.2]
      exact hrest.symm
    · cases hid.symm.trans hnone
    · cases hid.symm.trans hid'
      exact ⟨_, step, state, rfl, hsucceeded⟩
    · rcases List.mem_append.mp hnote with hnote | hnote
      · exact hcalm note hnote
      · rw [List.mem_singleton.mp hnote]
        exact decide_eq_false (hrun.2 hgoing)

theorem Searching.startRaised (h : Searching w plan s os) {step : MissionStep Args}
    (hsearch : (nextStep w s.cursors s.stepIndex).outcome = .ok (some step))
    (hstate : t.state = s.state) :
    Following w plan ⟨t, true⟩ (sought w s os ++ [MissionNote.startRaised step]) := by
  obtain ⟨horder, hsucceeded, hcalm⟩ := h.quiet
  obtain ⟨hplan, -⟩ := h.found hsearch
  have hvisits : visits (sought w s os ++ [MissionNote.startRaised step]) =
      visits (sought w s os) := by
    rw [visits_append]
    exact List.append_nil _
  refine ⟨?_, horder.append ?_, .snoc hcalm, fun _ hfree => ?_, fun hend => ?_,
    fun _ hend => ?_⟩
  · rw [hvisits, hplan]
    exact List.prefix_append _ _
  · intro note hnote
    rw [List.mem_singleton.mp hnote]
    rfl
  · cases hfree
  · cases (hstate.trans h.running).symm.trans hend
  · -- the step that was not started is missing
    have hvisited := hend.visited
    rw [hvisits, hplan] at hvisited
    have hlength := congrArg List.length hvisited
    simp at hlength

theorem Searching.failed (h : Searching w plan s os) {error : String}
    (hsearch : (nextStep w s.cursors s.stepIndex).outcome = .error error)
    (hstate : t.state = .failed) :
    Following w plan ⟨t, false⟩ (sought w s os ++ [MissionNote.evaluationFailed error]) := by
  obtain ⟨horder, hsucceeded, hcalm⟩ := h.quiet
  have hmeets := nextStep_spec w s.cursors s.stepIndex
  unfold Search.Meets at hmeets
  rw [hsearch] at hmeets
  simp only at hmeets
  have hvisits : visits (sought w s os ++ [MissionNote.evaluationFailed error]) =
      (planFlow w plan).visits := by
    rw [← h.left, hmeets, visits_append, visits_append]
    exact List.append_nil _
  refine ⟨?_, horder.append ?_, .snoc hcalm, fun hend => ?_, fun hend => ?_, fun _ hend => ?_⟩
  · exact hvisits ▸ List.prefix_rfl
  · intro note hnote
    rw [List.mem_singleton.mp hnote]
    rfl
  · cases hstate.symm.trans hend
  · cases hstate.symm.trans hend
  · refine hend.unfailed ?_
    rw [← h.rest, hmeets]

theorem Searching.completed (h : Searching w plan s os)
    (hsearch : (nextStep w s.cursors s.stepIndex).outcome = .ok none) (hstate : t.state = .succeeded) :
    Following w plan ⟨t, false⟩ (sought w s os) := by
  obtain ⟨horder, hsucceeded, hcalm⟩ := h.quiet
  have hmeets := nextStep_spec w s.cursors s.stepIndex
  unfold Search.Meets at hmeets
  rw [hsearch] at hmeets
  simp only at hmeets
  have hvisits : visits (sought w s os) = (planFlow w plan).visits := by
    rw [← h.left, hmeets, visits_append]
  refine ⟨?_, horder, .of_calm hcalm, fun hend => ?_, fun _ => ⟨hvisits, ?_, hsucceeded⟩,
    fun hend => absurd hstate hend⟩
  · exact hvisits ▸ List.prefix_rfl
  · cases hstate.symm.trans hend
  · rw [← h.rest, hmeets]
    exact Option.some_ne_none _

/-- **Advancing** keeps to the plan. -/
theorem Searching.advanced (h : Searching w plan s os) (hadvanced : Advanced w s o t raised) :
    Following w plan ⟨t, raised⟩ (os ++ o) := by
  cases hadvanced with
  | started hsearch hid hcursors hstate =>
    rw [← List.append_assoc]
    exact h.started hsearch hid hcursors hstate
  | startRaised hsearch hstate =>
    rw [← List.append_assoc]
    exact h.startRaised hsearch hstate
  | failed hsearch hstate =>
    rw [← List.append_assoc]
    exact h.failed hsearch hstate
  | completed hsearch hstate => exact h.completed hsearch hstate

/-- Notes that show neither a visit nor a success do not exhaust the plan. -/
theorem not_exhausted_append {notes : List (MissionNote Args)} (h : ¬ Exhausted w plan os)
    (hvisits : visits notes = []) (hnotes : ∀ id, MissionNote.observed id .succeeded ∉ notes) :
    ¬ Exhausted w plan (os ++ notes) := by
  intro hend
  refine h ⟨?_, hend.unfailed, hend.succeeded.of_append hnotes⟩
  have hvisited := hend.visited
  rwa [visits_append, hvisits, List.append_nil] at hvisited

/-- The mission ends without success. -/
theorem Following.ended (h : Following w plan p os) (hrunning : p.mission.state = .running)
    {note : MissionNote Args} (hvisit : visits [note] = []) (hstart : note.isStart = false)
    (hnote : ∀ id, .observed id .succeeded ≠ note)
    (hstate : q.mission.state = .failed ∨ q.mission.state = .cancelled) :
    Following w plan q (os ++ [note]) := by
  refine ⟨?_, h.inOrder.append ?_, h.failsLast.append hvisit, fun hend => ?_, fun hend => ?_,
    fun _ => ?_⟩
  · rw [visits_append, hvisit, List.append_nil]
    exact h.begun
  · intro note' hmem
    rw [List.mem_singleton.mp hmem]
    exact hstart
  · rw [hend] at hstate
    rcases hstate with hstate | hstate
    · cases hstate
    · cases hstate
  · rw [hend] at hstate
    rcases hstate with hstate | hstate
    · cases hstate
    · cases hstate
  · refine not_exhausted_append (h.incomplete ?_) hvisit fun id hmem =>
      hnote id (List.mem_singleton.mp hmem)
    rw [hrunning]
    decide

/-- **A call** keeps to the plan. -/
theorem Following.step (h : Following w plan p os) {i : MissionCall Args} (hstep : Driven w p i o q) :
    Following w plan q (os ++ o) := by
  obtain ⟨raised, hstepped, hraised⟩ := stepped_of_driven hstep
  obtain ⟨mission, raised'⟩ := q
  change raised' = _ at hraised
  change Stepped w p o mission raised at hstepped
  cases hstepped with
  | idle =>
    rw [List.append_nil]
    refine ⟨h.begun, h.inOrder, h.failsLast, fun hrunning hfree => h.going hrunning ?_, h.complete,
      h.incomplete⟩
    change raised' = false at hfree
    rw [hfree] at hraised
    exact (Bool.or_eq_false_iff.mp hraised.symm).1
  | aborted hrunning reason hstate =>
    exact h.ended hrunning rfl rfl (fun _ heq => by cases heq) (Or.inr hstate)
  | ended hfree hrunning hid hended hstate =>
    refine h.ended hrunning rfl rfl (fun _ heq => ?_) ?_
    · cases heq
      rcases hended with h | h
      · cases h
      · cases h
    · rw [← hstate] at hended
      exact hended
  | first hfree hrunning hid hadvanced =>
    have hgoing := h.going hrunning hfree
    have hos := hgoing.unbegun hid
    subst hos
    rw [hfree, Bool.false_or] at hraised
    subst hraised
    have hsearching : Searching w plan p.mission [] :=
      ⟨hrunning, hgoing.left, hgoing.rest, .nil, .nil, hgoing.calm⟩
    exact hsearching.advanced hadvanced
  | @next o t raised hfree hrunning id hid hadvanced =>
    have hgoing := h.going hrunning hfree
    obtain ⟨before, step, state, rfl, hbefore⟩ := hgoing.busy id hid
    rw [hfree, Bool.false_or] at hraised
    subst hraised
    have hobserved : visits (before ++ [MissionNote.started step id state] ++ [MissionNote.observed id .succeeded]) =
        visits (before ++ [MissionNote.started step id state]) := by
      rw [visits_append]
      exact List.append_nil _
    have hsearching : Searching w plan { p.mission with operationId := none }
        (before ++ [MissionNote.started step id state] ++ [MissionNote.observed id .succeeded]) := by
      refine ⟨hrunning, ?_, hgoing.rest, h.inOrder.append ?_, hbefore.observed step id state, ?_⟩
      · rw [hobserved]
        exact hgoing.left
      · intro note hnote
        rw [List.mem_singleton.mp hnote]
        rfl
      · intro note hnote
        rcases List.mem_append.mp hnote with hnote | hnote
        · exact hgoing.calm note hnote
        · rw [List.mem_singleton.mp hnote]
          rfl
    rw [show (MissionNote.observed id .succeeded :: o : List (MissionNote Args)) =
      [MissionNote.observed id .succeeded] ++ o from rfl, ← List.append_assoc]
    exact hsearching.advanced hadvanced

/-! ## 6. Runs -/

variable {is : List (MissionCall Args)}

/-- **A run of calls** keeps to the plan. -/
theorem following_of_run (h : Run (Driven w) ⟨created plan, false⟩ is os p) :
    Following w plan p os := by
  induction h with
  | start => exact following_created w plan
  | step _ hs ih => exact ih.step hs

/-- The steps that a log shows started. -/
def startedSteps (os : List (MissionNote Args)) : List (MissionStep Args) :=
  os.filterMap fun note =>
    match note with
    | .started step _ _ => some step
    | _ => none

theorem startedSteps_visits (os : List (MissionNote Args)) :
    startedSteps os = (visits os).filterMap fun visit =>
      match visit with
      | .started step => some step
      | .evaluated _ => none := by
  unfold startedSteps visits
  rw [List.filterMap_filterMap]
  refine List.filterMap_congr fun note _ => ?_
  cases note <;> rfl

/-- **The cursors refine the plan.** In every run the conditions evaluated and the steps started are,
    in order, the first part of what the plan means; a step is started when all operations before
    it are seen to succeed; nothing is evaluated or started after a failure; and the mission is
    complete exactly when the plan is exhausted. -/
theorem mission_follows_plan (h : Run (Driven w) ⟨created plan, false⟩ is os p) :
    visits os <+: (planFlow w plan).visits ∧ startedSteps os <+: (planFlow w plan).steps ∧
    (∀ before step id state between step' id' state' after,
      os = before ++ MissionNote.started step id state :: between ++ MissionNote.started step' id' state' :: after →
      .observed id .succeeded ∈ between) ∧
    (∀ before note after, os = before ++ note :: after → note.isFailure = true →
      visits after = []) ∧
    (p.mission.state = .succeeded ↔ Exhausted w plan os) := by
  have hfollowing := following_of_run h
  refine ⟨hfollowing.begun, ?_, ?_, hfollowing.failsLast, hfollowing.complete, fun hend => ?_⟩
  · rw [startedSteps_visits]
    exact hfollowing.begun.filterMap _
  · intro before step id state between step' id' state' after heq
    exact hfollowing.inOrder _ _ _ _ _ heq before step id state between rfl
  · by_contra hnot
    exact hfollowing.incomplete hnot hend

/-- A call as a step. -/
theorem driven_call (w : Eligibility) (p : Hosted Args) (i : MissionCall Args) (h : MayCall p i) :
    Driven w p i (call (body w i) p.mission).2.2
      ⟨(call (body w i) p.mission).2.1, p.raised || !(call (body w i) p.mission).1.isOk⟩ :=
  ⟨h, rfl, rfl⟩

/-- A step without arguments. -/
def benchStep (tool : String) : MissionStep Unit := ⟨tool, (), 60⟩

/-- Two steps around a group, of which the first group of it is skipped. -/
def benchPlan : MissionPlan Unit where
  steps := [.step (benchStep "arm"),
    .group .anyPayloadEligible [.group (.payloadEligible 2) [.step (benchStep "hold")],
      .step (benchStep "takeoff")],
    .step (benchStep "land")]
  nonempty := List.cons_ne_nil _ _

/-- Some payload is eligible, but not the second. -/
def benchEligibility : Eligibility where
  conditions := some fun _ condition => .flag (decide (condition = .anyPayloadEligible))
  emit := fun _ => .ok ()

/-- A tick that finds the operation succeeded, and starts the next one. -/
def benchTick : MissionCall Unit :=
  .tick ⟨.ok (), fun _ => (.succeeded, ""), fun step => .ok (step.tool, .running, "")⟩

theorem mission_follows_plan_flown :
    ∃ os p, Run (Driven benchEligibility) ⟨created benchPlan, false⟩
        [benchTick, benchTick, benchTick, benchTick] os p ∧
      startedSteps os = [benchStep "arm", benchStep "takeoff", benchStep "land"] ∧
      Exhausted benchEligibility benchPlan os := by
  have hfirst := Run.step .start (driven_call benchEligibility ⟨created benchPlan, false⟩ benchTick rfl)
  have hsecond := hfirst.step (driven_call benchEligibility _ benchTick (by decide))
  have hthird := hsecond.step (driven_call benchEligibility _ benchTick (by decide))
  have hfourth := hthird.step (driven_call benchEligibility _ benchTick (by decide))
  exact ⟨_, _, hfourth, by decide, (mission_follows_plan hfourth).2.2.2.2.mp (by decide)⟩

end ConfiguredMission

end DroneSim
