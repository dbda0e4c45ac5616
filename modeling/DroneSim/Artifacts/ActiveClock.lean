/-
  File:      DroneSim/Artifacts/ActiveClock.lean
  Subject:   What the replayed clock depends on.

  The validator's clock is read at the truth replayed last. A started phase does not change what
  it shows, and neither does any row with the stamp of that truth: at one stamp no time passes
  (`shown_note`). So a replay cut at the stamp of a decision (`elapsed_cut`) shows what the clock
  showed once the truth of that stamp was there, whatever of that stamp came later.
-/
import DroneSim.Artifacts.VfsScoreValidation
import DroneSim.Library.StableSort

namespace DroneSim

open Library

namespace PhysicsEvent

def isPhase : PhysicsEvent → Bool
  | .phase _ => true
  | _ => false

/-- At one stamp and priority there is one kind of row. -/
theorem priority_of_le {a b : PhysicsEvent} (h : le a b) (h' : le b a) :
    a.priority = b.priority := by
  unfold le at h h'
  omega

theorem stamp_le {a b : PhysicsEvent} (h : le a b) : a.stamp ≤ b.stamp := by
  unfold le at h
  omega

end PhysicsEvent

namespace ActiveClock

variable {course : VfsCourse} {r : ActiveClock} {T : ℕ} {n : ℤ} {xs ys : List PhysicsEvent}

/-- The time the clock shows at `stamp`. -/
def shown (r : ActiveClock) (stamp : ℕ) : ℤ :=
  match r.activeSince with
  | none => r.accumulated
  | some since => r.accumulated + stamp - since

/-- **Between two rows** a running clock is not paused, and the two truths are one. -/
structure Settled (r : ActiveClock) : Prop where
  going : r.activeSince.isSome = true → r.paused = false
  previous : r.previousTruth = r.latestTruth

theorem Settled.note (h : Settled r) (x : PhysicsEvent) : Settled (r.note course x) := by
  obtain ⟨hgoing, hprevious⟩ := h
  cases x with
  | phase row => exact ⟨hgoing, hprevious⟩
  | truth row =>
    dsimp only [ActiveClock.note, noteTruth]
    cases hs : r.activeSince <;> split_ifs <;> constructor <;> simp_all
  | status row =>
    dsimp only [ActiveClock.note, noteStatus]
    cases hs : r.activeSince with
    | none => constructor <;> simp_all
    | some since => split_ifs <;> constructor <;> simp_all

theorem settled_foldl (course : VfsCourse) (xs : List PhysicsEvent) :
    Settled (xs.foldl (note course) .start) := by
  induction xs using List.reverseRecOn with
  | nil => exact ⟨fun h => (nomatch h), rfl⟩
  | append_singleton xs x ih =>
    rw [List.foldl_append]
    exact ih.note x

/-- A truth is the last one then, a status the last status. -/
theorem last_note (x : PhysicsEvent) :
    (r.note course x).latestTruth = (match x with
      | .truth row => some row
      | _ => r.latestTruth) ∧
    (r.note course x).status = match x with
      | .status row => some row
      | _ => r.status := by
  cases x with
  | phase row => exact ⟨rfl, rfl⟩
  | truth row =>
    dsimp only [ActiveClock.note, noteTruth]
    cases r.activeSince <;> split_ifs <;> exact ⟨rfl, rfl⟩
  | status row =>
    dsimp only [ActiveClock.note, noteStatus]
    cases r.activeSince with
    | none => exact ⟨rfl, rfl⟩
    | some since => split_ifs <;> exact ⟨rfl, rfl⟩

/-- **At one stamp no time passes**, and a started phase changes no time. -/
theorem shown_note {x : PhysicsEvent} (h : x.isPhase = true ∨ x.stamp = T) :
    (r.note course x).shown T = r.shown T := by
  cases x with
  | phase row => rfl
  | truth row =>
    obtain rfl : row.simTimestampNs = T := h.resolve_left Bool.noConfusion
    dsimp only [ActiveClock.note, noteTruth, shown]
    cases hs : r.activeSince <;> split_ifs <;> simp_all
  | status row =>
    obtain rfl : row.simTimestampNs = T := h.resolve_left Bool.noConfusion
    dsimp only [ActiveClock.note, noteStatus, shown]
    cases hs : r.activeSince with
    | none => simp_all
    | some since => split_ifs <;> simp_all

/-- The clock's last truth is stamped `T`, and the clock shows `n` there. -/
structure ShowsAt (r : ActiveClock) (T : ℕ) (n : ℤ) : Prop where
  truth : r.latestTruth.map GroundTruthSample.simTimestampNs = some T
  settled : Settled r
  shown : r.shown T = n

theorem ShowsAt.elapsed (h : ShowsAt r T n) : r.elapsed = .ok n := by
  obtain ⟨t, ht, rfl⟩ := Option.map_eq_some_iff.mp h.truth
  have hgoing := h.settled.going
  rw [← h.shown]
  unfold ActiveClock.elapsed ActiveClock.shown
  rw [ht]
  cases hs : r.activeSince with
  | none => rfl
  | some since => simp_all

theorem ShowsAt.steps (h : ShowsAt r T n) (hxs : ∀ x ∈ xs, x.isPhase = true ∨ x.stamp = T) :
    ShowsAt (xs.foldl (note course) r) T n := by
  induction xs generalizing r with
  | nil => exact h
  | cons x xs ih =>
    obtain ⟨hx, hxs⟩ := List.forall_mem_cons.mp hxs
    refine ih ⟨?_, h.settled.note x, (shown_note hx).trans h.shown⟩ hxs
    rw [(last_note x).1]
    cases x with
    | truth row => exact congrArg some (hx.resolve_left Bool.noConfusion)
    | _ => exact h.truth

/-- Started phases change no reading. -/
theorem elapsed_phases (h : ∀ x ∈ xs, x.isPhase = true) :
    (xs.foldl (note course) r).elapsed = r.elapsed := by
  induction xs generalizing r with
  | nil => rfl
  | cons x xs ih =>
    obtain ⟨hx, hxs⟩ := List.forall_mem_cons.mp h
    cases x with
    | phase row => exact ih hxs
    | truth row => cases hx
    | status row => cases hx

/-- **The replay cut at `T`**: where the rows replayed so far are those up to `T` besides phases,
    and the rows to come are not before `T`, a replay of all rows up to `T` shows what the clock
    shows now. -/
theorem elapsed_cut (hsort : (xs ++ ys).Pairwise PhysicsEvent.le)
    (hxs : ∀ x ∈ xs, x.isPhase = true ∨ x.stamp ≤ T) (hys : ∀ y ∈ ys, T ≤ y.stamp)
    (h : ShowsAt (xs.foldl (note course) r) T n) :
    (((xs ++ ys).takeWhile fun x => decide (x.stamp ≤ T)).foldl (note course) r).elapsed =
      .ok n := by
  rcases takeWhile_append_cases (fun x : PhysicsEvent => decide (x.stamp ≤ T)) xs ys with
    ⟨_, e⟩ | e
  · rw [e, List.foldl_append]
    refine (h.steps fun y hy => Or.inr ?_).elapsed
    have hT := List.mem_takeWhile_imp (p := fun x : PhysicsEvent => decide (x.stamp ≤ T)) hy
    exact le_antisymm (of_decide_eq_true hT) (hys y ((List.takeWhile_prefix _).subset hy))
  · -- what the cut leaves out of the rows replayed so far are phases
    have hdrop : ∀ x ∈ xs.dropWhile (fun x => decide (x.stamp ≤ T)), x.isPhase = true := by
      intro x hx
      have hlate := dropWhile_spec (p := fun x : PhysicsEvent => decide (x.stamp ≤ T))
        (fun a b hab hb => decide_eq_true ((PhysicsEvent.stamp_le hab).trans (of_decide_eq_true hb)))
        (List.pairwise_append.mp hsort).1 x hx
      exact (hxs x ((List.dropWhile_suffix _).subset hx)).resolve_right (of_decide_eq_false hlate)
    rw [e, ← elapsed_phases hdrop, ← List.foldl_append, List.takeWhile_append_dropWhile]
    exact h.elapsed

/-- **What rows in order leave**: the clock's truth is one of them, and a row that is no phase is
    no later than its truth or its status. -/
structure Seen (xs : List PhysicsEvent) (r : ActiveClock) : Prop where
  truth : ∀ t, r.latestTruth = some t → .truth t ∈ xs
  rows : ∀ x ∈ xs, x.isPhase = true ∨
    (∃ t, r.latestTruth = some t ∧ x.stamp ≤ t.simTimestampNs) ∨
    ∃ status, r.status = some status ∧ x.stamp ≤ status.simTimestampNs

theorem seen_foldl (course : VfsCourse) (h : xs.Pairwise PhysicsEvent.le) :
    Seen xs (xs.foldl (note course) .start) := by
  induction xs using List.reverseRecOn with
  | nil => exact ⟨fun t ht => (nomatch ht), fun x hx => absurd hx List.not_mem_nil⟩
  | append_singleton xs y ih =>
    obtain ⟨hxs, _, hlast⟩ := List.pairwise_append.mp h
    obtain ⟨htruth, hrows⟩ := ih hxs
    have hle : ∀ x ∈ xs ++ [y], x.stamp ≤ y.stamp := by
      intro x hx
      rcases List.mem_append.mp hx with hx | hx
      · exact PhysicsEvent.stamp_le (hlast x hx y (List.mem_singleton_self y))
      · rw [List.mem_singleton.mp hx]
    rw [List.foldl_append, List.foldl_cons, List.foldl_nil]
    constructor
    · intro t ht
      rw [(last_note y).1] at ht
      cases y with
      | truth row =>
        obtain rfl := Option.some.inj ht
        exact List.mem_append_right _ (List.mem_singleton_self _)
      | _ => exact List.mem_append_left _ (htruth t ht)
    · intro x hx
      rw [(last_note y).1, (last_note y).2]
      cases y with
      | truth row => exact Or.inr (Or.inl ⟨row, rfl, hle x hx⟩)
      | status row => exact Or.inr (Or.inr ⟨row, rfl, hle x hx⟩)
      | phase row =>
        rcases List.mem_append.mp hx with hx | hx
        · exact hrows x hx
        · rw [List.mem_singleton.mp hx]
          exact Or.inl rfl

end ActiveClock

end DroneSim
