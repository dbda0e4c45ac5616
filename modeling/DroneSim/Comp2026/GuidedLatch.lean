/-
  File:      DroneSim/Comp2026/GuidedLatch.lean
  Subject:   The latch of GUIDED mission items (control/drone_control.py).

  * `LatchedOut`, `AcknowledgedAlone` -- no packet after a failure, and no success but on an ACK
    after the packet with no other packet in doubt;
  * `Latching` -- the invariant of the steps of the transaction and of the ACKs;
  * `guided_items_latched` -- both properties, in runs in which `send_guided_waypoint` sends nothing;
  * `unguarded_item_after_latch` -- neither, where it does.
-/
import DroneSim.Comp2026.GuidedOutput

namespace DroneSim

open Library

namespace DroneOutput

open OutputNote (enqueued acknowledged)

/-! ## 1. The properties -/

/-- No packet is enqueued after a failure. -/
def LatchedOut (os : List OutputNote) : Prop :=
  ∀ before thread after, os = before ++ OutputNote.failed thread :: after → ∀ th, enqueued th ∉ after

/-- Every packet was accepted by an ACK after it. -/
def Cleared (os : List OutputNote) : Prop :=
  ∀ before thread after, os = before ++ enqueued thread :: after →
    .acknowledged missionAccepted ∈ after

/-- A packet of the thread is the last one, and every packet before it was accepted. -/
def LastPacket (thread : ℕ) (before after os : List OutputNote) : Prop :=
  os = before ++ enqueued thread :: after ∧ (∀ th, enqueued th ∉ after) ∧ Cleared before

/-- A success follows an accepting ACK after the thread's own packet, no other being in doubt. -/
def AcknowledgedAlone (os : List OutputNote) : Prop :=
  ∀ before thread after, os = before ++ OutputNote.succeeded thread :: after →
    ∃ first between, LastPacket thread first between before ∧
      .acknowledged missionAccepted ∈ between

section Log

variable {os : List OutputNote} {note : OutputNote}

theorem LatchedOut.snoc (h : LatchedOut os)
    (hnote : (∃ th, OutputNote.failed th ∈ os) → ∀ th, .enqueued th ≠ note) : LatchedOut (os ++ [note]) := by
  intro before thread after heq th hmem
  rcases split_append heq with ⟨mid, rfl, rfl⟩ | ⟨mid, -, hmid⟩
  · rcases List.mem_append.mp hmem with hmem | hmem
    · exact h _ _ _ rfl th hmem
    · exact hnote ⟨thread, by simp⟩ th (List.mem_singleton.mp hmem)
  · cases mid with
    | nil =>
      cases hmid
      exact List.not_mem_nil hmem
    | cons x mid =>
      have hlength := congrArg List.length hmid
      simp at hlength

theorem Cleared.nil : Cleared [] := by
  intro before thread after h
  have hlength := congrArg List.length h
  simp at hlength

theorem Cleared.snoc (h : Cleared os) (hnote : ∀ th, .enqueued th ≠ note) :
    Cleared (os ++ [note]) := by
  intro before thread after heq
  rcases split_append heq with ⟨mid, hos, rfl⟩ | ⟨mid, -, hmid⟩
  · exact List.mem_append_left _ (h _ _ _ hos)
  · cases mid with
    | nil =>
      cases hmid
      exact absurd rfl (hnote thread)
    | cons x mid =>
      have hlength := congrArg List.length hmid
      simp at hlength

/-- A last packet that was accepted. -/
theorem LastPacket.cleared {thread : ℕ} {before after : List OutputNote}
    (h : LastPacket thread before after os) (haccepted : acknowledged missionAccepted ∈ after) :
    Cleared os := by
  obtain ⟨rfl, hlast, hcleared⟩ := h
  intro before' thread' after' heq
  rcases split_append heq with ⟨mid, hos, rfl⟩ | ⟨mid, -, hmid⟩
  · exact List.mem_append_left _ (hcleared _ _ _ hos)
  · cases mid with
    | nil =>
      cases hmid
      exact haccepted
    | cons x mid =>
      obtain ⟨-, hafter⟩ := List.cons.inj hmid
      exact absurd (by rw [hafter]; simp) (hlast thread')

theorem LastPacket.snoc {thread : ℕ} {before after : List OutputNote}
    (h : LastPacket thread before after os) (hnote : ∀ th, .enqueued th ≠ note) :
    LastPacket thread before (after ++ [note]) (os ++ [note]) := by
  obtain ⟨rfl, hlast, hcleared⟩ := h
  refine ⟨by simp, fun th hmem => ?_, hcleared⟩
  rcases List.mem_append.mp hmem with hmem | hmem
  · exact hlast th hmem
  · exact hnote th (List.mem_singleton.mp hmem)

theorem AcknowledgedAlone.snoc (h : AcknowledgedAlone os)
    (hnote : ∀ thread, note = .succeeded thread → ∃ first between,
      LastPacket thread first between os ∧ acknowledged missionAccepted ∈ between) :
    AcknowledgedAlone (os ++ [note]) := by
  intro before thread after heq
  rcases split_append heq with ⟨mid, hos, -⟩ | ⟨mid, rfl, hmid⟩
  · exact h _ _ _ hos
  · cases mid with
    | nil =>
      cases hmid
      rw [List.append_nil]
      exact hnote thread rfl
    | cons x mid =>
      have hlength := congrArg List.length hmid
      simp at hlength

end Log

/-! ## 2. The tracker -/

/-- The results of the ACKs in the log. -/
def results (os : List OutputNote) : List ℤ :=
  os.filterMap fun note =>
    match note with
    | .acknowledged result => some result
    | _ => none

@[simp] theorem results_append (os more : List OutputNote) :
    results (os ++ more) = results os ++ results more := List.filterMap_append

theorem mem_results {os : List OutputNote} {result : ℤ} (h : result ∈ results os) :
    .acknowledged result ∈ os := by
  obtain ⟨note, hmem, hnote⟩ := List.mem_filterMap.mp h
  cases note with
  | acknowledged result' =>
    cases hnote
    exact hmem
  | enqueued _ => cases hnote
  | succeeded _ => cases hnote
  | failed _ => cases hnote

/-- The tracker numbers the ACKs of the log from one on. -/
structure Tracking (tracker : MissionAckTracker) (os : List OutputNote) : Prop where
  sequence : tracker.sequence = (results os).length
  acks : ∀ ack ∈ tracker.acks, ∃ i, ack.sequence = i + 1 ∧ (results os)[i]? = some ack.result

variable {tracker : MissionAckTracker}

theorem Tracking.quiet {os more : List OutputNote} (h : Tracking tracker os)
    (hmore : results more = []) : Tracking tracker (os ++ more) := by
  have hsame : results (os ++ more) = results os := by
    rw [results_append, hmore, List.append_nil]
  exact ⟨by rw [hsame]; exact h.sequence, by rw [hsame]; exact h.acks⟩

theorem trimmed_subset (acks : List MissionAck) : MissionAckTracker.trimmed acks ⊆ acks := by
  unfold MissionAckTracker.trimmed
  generalize acks.length - MissionAckTracker.maxAcks = n
  exact List.drop_subset n acks

theorem mem_observed {result : ℤ} {ack : MissionAck} (h : ack ∈ (tracker.observed result).acks) :
    ack ∈ tracker.acks ∨ ack = ⟨tracker.sequence + 1, result⟩ := by
  rcases List.mem_append.mp (trimmed_subset _ h) with hold | hnew
  · exact Or.inl hold
  · exact Or.inr (List.mem_singleton.mp hnew)

theorem Tracking.observed {os : List OutputNote} (h : Tracking tracker os) (result : ℤ) :
    Tracking (tracker.observed result) (os ++ [acknowledged result]) := by
  have hresults : results (os ++ [acknowledged result]) = results os ++ [result] :=
    results_append _ _
  refine ⟨?_, fun ack hack => ?_⟩
  · rw [hresults, List.length_append, List.length_singleton, ← h.sequence]
    rfl
  · rw [hresults]
    rcases mem_observed hack with hold | rfl
    · obtain ⟨i, hsequence, hi⟩ := h.acks ack hold
      refine ⟨i, hsequence, ?_⟩
      rw [List.getElem?_append_left (List.getElem?_eq_some_iff.mp hi).1]
      exact hi
    · refine ⟨tracker.sequence, rfl, ?_⟩
      rw [h.sequence, List.getElem?_append_right (Nat.le_refl _), Nat.sub_self]
      rfl

/-- **A result past a boundary** is that of an ACK after it. -/
theorem Tracking.after {before after : List OutputNote} {result : ℤ}
    (h : Tracking tracker (before ++ after))
    (hresult : tracker.resultAfter (results before).length = some result) :
    .acknowledged result ∈ after := by
  unfold MissionAckTracker.resultAfter at hresult
  obtain ⟨ack, hfind, rfl⟩ := Option.map_eq_some_iff.mp hresult
  have hpast : (results before).length < ack.sequence := by
    simpa using List.find?_some hfind
  obtain ⟨i, hsequence, hi⟩ := h.acks ack (List.mem_of_find?_eq_some hfind)
  rw [results_append, List.getElem?_append_right (by omega)] at hi
  exact mem_results (List.mem_of_getElem? hi)

/-! ## 3. The invariant -/

/-- The phases inside the transaction. -/
def inside : EmitterPhase → Bool
  | .sending _ => true
  | .awaiting _ _ => true
  | _ => false

/-- **The invariant** of runs in which `send_guided_waypoint` sends nothing. -/
structure Latching (s : DroneOutput) (os : List OutputNote) : Prop where
  exclusive : ∀ th, inside (s.phase th) = true → s.holder = some th
  guarded : ∀ th, s.phase th ≠ .unguarded
  latched : (∃ th, OutputNote.failed th ∈ os) → s.missionAckFailed = true
  shut : s.missionAckFailed = true → ∀ th, inside (s.phase th) = false
  tracking : Tracking s.tracker os
  cleared : s.missionAckFailed = false → (∀ th emitter boundary,
    s.phase th ≠ .awaiting emitter boundary) → Cleared os
  awaiting : ∀ th emitter boundary, s.phase th = .awaiting emitter boundary →
    ∃ before after, LastPacket th before after os ∧ boundary = (results before).length
  latchedOut : LatchedOut os
  acknowledgedAlone : AcknowledgedAlone os

variable {c : MissionAckIdentity} {s t : DroneOutput} {os o : List OutputNote} {i : OutputInput}

theorem latching_created : Latching created [] where
  exclusive _ h := by cases h
  guarded _ h := by cases h
  latched h := by
    obtain ⟨th, hth⟩ := h
    exact absurd hth List.not_mem_nil
  shut h := by cases h
  tracking := ⟨rfl, fun ack hack => absurd hack List.not_mem_nil⟩
  cleared _ _ := .nil
  awaiting _ _ _ h := by cases h
  latchedOut before thread after h := by
    have hlength := congrArg List.length h
    simp at hlength
  acknowledgedAlone before thread after h := by
    have hlength := congrArg List.length h
    simp at hlength

@[simp] theorem setPhase_self (th : ℕ) (phase : EmitterPhase) (s : DroneOutput) :
    (s.setPhase th phase).phase th = phase := Function.update_self _ _ _

theorem setPhase_of_ne {th other : ℕ} (h : other ≠ th) (phase : EmitterPhase) (s : DroneOutput) :
    (s.setPhase th phase).phase other = s.phase other := Function.update_of_ne h _ _

/-- Only one thread is inside the transaction. -/
theorem Latching.alone (h : Latching s os) {th other : ℕ} (hth : inside (s.phase th) = true)
    (hne : other ≠ th) : inside (s.phase other) = false := by
  refine eq_false_of_ne_true fun hother => hne ?_
  have hsame := (h.exclusive other hother).symm.trans (h.exclusive th hth)
  exact Option.some.inj hsame

/-! ## 4. Steps -/

section Thread

variable {th : ℕ} {phase : EmitterPhase}

/-- A thread inside finds the latch open. -/
theorem Latching.unlatched (h : Latching s os) (hin : inside (s.phase th) = true) :
    s.missionAckFailed = false := by
  refine eq_false_of_ne_true fun hfailed => ?_
  rw [h.shut hfailed th] at hin
  cases hin

/-- A thread moves outside of the transaction. -/
theorem Latching.outside (h : Latching s os) (hout : inside (s.phase th) = false)
    (hphase : inside phase = false) (hguarded : phase ≠ .unguarded) :
    Latching (s.setPhase th phase) os := by
  have hinside : ∀ other, inside ((s.setPhase th phase).phase other) = inside (s.phase other) := by
    intro other
    by_cases hsame : other = th
    · rw [hsame, setPhase_self, hphase, hout]
    · rw [setPhase_of_ne hsame]
  have hother : ∀ {other emitter boundary}, s.phase other = .awaiting emitter boundary →
      other ≠ th := by
    rintro other emitter boundary hawaiting rfl
    rw [hawaiting] at hout
    cases hout
  refine ⟨fun other hin => h.exclusive other (by rw [← hinside]; exact hin), fun other => ?_,
    h.latched, fun hfailed other => by rw [hinside]; exact h.shut hfailed other, h.tracking,
    fun hopen hnone => h.cleared hopen fun other emitter boundary hawaiting => ?_,
    fun other emitter boundary hawaiting => ?_, h.latchedOut, h.acknowledgedAlone⟩
  · by_cases hsame : other = th
    · rw [hsame, setPhase_self]
      exact hguarded
    · rw [setPhase_of_ne hsame]
      exact h.guarded other
  · refine hnone other emitter boundary ?_
    rw [setPhase_of_ne (hother hawaiting)]
    exact hawaiting
  · have hne : other ≠ th := by
      rintro rfl
      rw [setPhase_self] at hawaiting
      rw [hawaiting] at hphase
      cases hphase
    rw [setPhase_of_ne hne] at hawaiting
    exact h.awaiting other emitter boundary hawaiting

/-- A thread takes the free lock. -/
theorem Latching.entered (h : Latching s os) (hfree : s.holder = none)
    (hopen : s.missionAckFailed = false) (emitter : Emitter) :
    Latching { s.setPhase th (.sending emitter) with holder := some th } os := by
  have hout : ∀ other, inside (s.phase other) = false := by
    intro other
    refine eq_false_of_ne_true fun hin => ?_
    cases hfree.symm.trans (h.exclusive other hin)
  have hquiet : ∀ {t : DroneOutput} {other emitter' boundary},
      t.phase other = (s.setPhase th (.sending emitter)).phase other →
      t.phase other ≠ .awaiting emitter' boundary := by
    intro t other emitter' boundary ht hawaiting
    rw [ht] at hawaiting
    by_cases hsame : other = th
    · rw [hsame, setPhase_self] at hawaiting
      cases hawaiting
    · rw [setPhase_of_ne hsame] at hawaiting
      have hout' := hout other
      rw [hawaiting] at hout'
      cases hout'
  refine ⟨fun other hin => ?_, fun other hunguarded => ?_, h.latched, fun hfailed => ?_, h.tracking,
    fun _ _ => h.cleared hopen fun other emitter' boundary hawaiting => ?_,
    fun other emitter' boundary hawaiting => absurd hawaiting (hquiet rfl), h.latchedOut,
    h.acknowledgedAlone⟩
  · by_cases hsame : other = th
    · rw [hsame]
    · have hin' : inside ((s.setPhase th (.sending emitter)).phase other) = true := hin
      rw [setPhase_of_ne hsame, hout other] at hin'
      cases hin'
  · have hunguarded' : (s.setPhase th (.sending emitter)).phase other = .unguarded := hunguarded
    by_cases hsame : other = th
    · rw [hsame, setPhase_self] at hunguarded'
      cases hunguarded'
    · rw [setPhase_of_ne hsame] at hunguarded'
      exact h.guarded other hunguarded'
  · cases hopen.symm.trans hfailed
  · have hout' := hout other
    rw [hawaiting] at hout'
    cases hout'

/-- The thread inside leaves the transaction. -/
theorem Latching.gone (h : Latching s os) (hin : inside (s.phase th) = true)
    (hphase : inside phase = false) (hguarded : phase ≠ .unguarded) (failed : Bool)
    (hquiet : results o = []) (hout : LatchedOut (os ++ o)) (halone : AcknowledgedAlone (os ++ o))
    (hfailed : (∃ th, OutputNote.failed th ∈ os ++ o) → failed = true)
    (hcleared : failed = false → Cleared (os ++ o)) :
    Latching { s.released th phase with missionAckFailed := failed } (os ++ o) := by
  have hoff : ∀ other, inside ((s.setPhase th phase).phase other) = false := by
    intro other
    by_cases hsame : other = th
    · rw [hsame, setPhase_self, hphase]
    · rw [setPhase_of_ne hsame]
      exact h.alone hin hsame
  refine ⟨fun other hin' => ?_, fun other hunguarded => ?_, hfailed, fun _ => hoff,
    h.tracking.quiet hquiet, fun hopen _ => hcleared hopen,
    fun other emitter boundary hawaiting => ?_, hout, halone⟩
  · cases (hoff other).symm.trans hin'
  · have hunguarded' : (s.setPhase th phase).phase other = .unguarded := hunguarded
    by_cases hsame : other = th
    · rw [hsame, setPhase_self] at hunguarded'
      exact hguarded hunguarded'
    · rw [setPhase_of_ne hsame] at hunguarded'
      exact h.guarded other hunguarded'
  · have hawaiting' : (s.setPhase th phase).phase other = .awaiting emitter boundary := hawaiting
    have hoff' := hoff other
    rw [hawaiting'] at hoff'
    cases hoff'

/-- The thread inside fails past its boundary. -/
theorem Latching.fails (h : Latching s os) (hin : inside (s.phase th) = true)
    (hphase : inside phase = false) (hguarded : phase ≠ .unguarded) :
    Latching (s.latched th phase) (os ++ [OutputNote.failed th]) := by
  refine h.gone hin hphase hguarded true rfl (h.latchedOut.snoc fun _ _ hsame => ?_)
    (h.acknowledgedAlone.snoc fun _ hsame => ?_) (fun _ => rfl) fun hopen => ?_
  · cases hsame
  · cases hsame
  · cases hopen

/-- The thread inside leaves before its boundary. -/
theorem Latching.abandons {emitter : Emitter} (h : Latching s os)
    (hsending : s.phase th = .sending emitter) (hphase : inside phase = false)
    (hguarded : phase ≠ .unguarded) : Latching (s.released th phase) os := by
  have hin : inside (s.phase th) = true := by rw [hsending]; rfl
  have hlast := h.gone (o := []) hin hphase hguarded s.missionAckFailed rfl
    (by rw [List.append_nil]; exact h.latchedOut)
    (by rw [List.append_nil]; exact h.acknowledgedAlone)
    (by rw [List.append_nil]; exact h.latched)
    (by
      rw [List.append_nil]
      refine fun hopen => h.cleared hopen fun other emitter' boundary hawaiting => ?_
      by_cases hsame : other = th
      · rw [hsame, hsending] at hawaiting
        cases hawaiting
      · have hout := h.alone hin hsame
        rw [hawaiting] at hout
        cases hout)
  rw [List.append_nil] at hlast
  exact hlast

/-- **The thread inside enqueues its packet**: every packet before it was accepted. -/
theorem Latching.enqueues {emitter : Emitter} (h : Latching s os)
    (hsending : s.phase th = .sending emitter) :
    Latching (s.setPhase th (.awaiting emitter s.tracker.sequence)) (os ++ [enqueued th]) := by
  have hin : inside (s.phase th) = true := by rw [hsending]; rfl
  have hopen := h.unlatched hin
  have hnever : ¬ ∃ th, OutputNote.failed th ∈ os := by
    intro hfailed
    cases hopen.symm.trans (h.latched hfailed)
  have hcleared : Cleared os := by
    refine h.cleared hopen fun other emitter' boundary hawaiting => ?_
    by_cases hsame : other = th
    · rw [hsame, hsending] at hawaiting
      cases hawaiting
    · have hout := h.alone hin hsame
      rw [hawaiting] at hout
      cases hout
  have hphase : ∀ other, other ≠ th →
      inside ((s.setPhase th (.awaiting emitter s.tracker.sequence)).phase other) = false := by
    intro other hne
    rw [setPhase_of_ne hne]
    exact h.alone hin hne
  refine ⟨fun other hin' => ?_, fun other => ?_, fun hfailed => ?_, fun hfailed => ?_,
    h.tracking.quiet rfl, fun _ hnone => ?_, fun other emitter' boundary hawaiting => ?_,
    h.latchedOut.snoc fun hfailed => absurd hfailed hnever,
    h.acknowledgedAlone.snoc fun _ hsame => ?_⟩
  · by_cases hsame : other = th
    · rw [hsame]
      exact h.exclusive th hin
    · cases (hphase other hsame).symm.trans hin'
  · by_cases hsame : other = th
    · rw [hsame, setPhase_self]
      exact EmitterPhase.noConfusion
    · rw [setPhase_of_ne hsame]
      exact h.guarded other
  · obtain ⟨other, hmem⟩ := hfailed
    rcases List.mem_append.mp hmem with hmem | hmem
    · exact absurd ⟨other, hmem⟩ hnever
    · cases List.mem_singleton.mp hmem
  · cases hopen.symm.trans hfailed
  · exact absurd (setPhase_self th _ s) (hnone th _ _)
  · by_cases hsame : other = th
    · rw [hsame, setPhase_self] at hawaiting
      cases hawaiting
      rw [hsame]
      exact ⟨os, [], ⟨rfl, fun _ => List.not_mem_nil, hcleared⟩, h.tracking.sequence⟩
    · have hout := hphase other hsame
      rw [hawaiting] at hout
      cases hout
  · cases hsame

/-- **The thread inside succeeds**: its own packet was accepted, as were all before it. -/
theorem Latching.succeeds {emitter : Emitter} {boundary : ℕ} (h : Latching s os)
    (hawaiting : s.phase th = .awaiting emitter boundary)
    (hresult : s.tracker.resultAfter boundary = some missionAccepted) :
    Latching (s.released th (.running emitter true)) (os ++ [OutputNote.succeeded th]) := by
  have hin : inside (s.phase th) = true := by rw [hawaiting]; rfl
  obtain ⟨before, after, hlast, rfl⟩ := h.awaiting th emitter boundary hawaiting
  have hsplit : os = (before ++ [enqueued th]) ++ after := by rw [hlast.1]; simp
  have hquiet : results (before ++ [enqueued th]) = results before := by
    rw [results_append]
    exact List.append_nil _
  have haccepted : acknowledged missionAccepted ∈ after := by
    have htracking : Tracking s.tracker ((before ++ [enqueued th]) ++ after) := by
      rw [← hsplit]
      exact h.tracking
    refine htracking.after ?_
    rw [hquiet]
    exact hresult
  refine h.gone hin rfl EmitterPhase.noConfusion s.missionAckFailed rfl
    (h.latchedOut.snoc fun _ _ hsame => ?_) (h.acknowledgedAlone.snoc fun thread hsame => ?_)
    (fun hfailed => ?_) fun _ => (hlast.cleared haccepted).snoc fun _ hsame => ?_
  · cases hsame
  · cases hsame
    exact ⟨before, after, hlast, haccepted⟩
  · obtain ⟨other, hmem⟩ := hfailed
    rcases List.mem_append.mp hmem with hmem | hmem
    · exact h.latched ⟨other, hmem⟩
    · cases List.mem_singleton.mp hmem
  · cases hsame

end Thread

/-- An ACK arrives. -/
theorem Latching.arrives (h : Latching s os) (result : ℤ) :
    Latching { s with tracker := s.tracker.observed result } (os ++ [acknowledged result]) := by
  refine ⟨h.exclusive, h.guarded, fun hfailed => ?_, h.shut, h.tracking.observed result,
    fun hopen hnone => (h.cleared hopen hnone).snoc fun _ hsame => ?_,
    fun th emitter boundary hawaiting => ?_, h.latchedOut.snoc fun _ _ hsame => ?_,
    h.acknowledgedAlone.snoc fun _ hsame => ?_⟩
  · obtain ⟨th, hmem⟩ := hfailed
    rcases List.mem_append.mp hmem with hmem | hmem
    · exact h.latched ⟨th, hmem⟩
    · cases List.mem_singleton.mp hmem
  · cases hsame
  · obtain ⟨before, after, hlast, hboundary⟩ := h.awaiting th emitter boundary hawaiting
    refine ⟨before, after ++ [acknowledged result], hlast.snoc fun _ hsame => ?_, hboundary⟩
    cases hsame
  · cases hsame
  · cases hsame

theorem inside_afterError (emitter : Emitter) (error : OutputError) :
    inside (emitter.afterError error) = false := by
  cases emitter <;> cases error <;> rfl

theorem afterError_ne_unguarded (emitter : Emitter) (error : OutputError) :
    emitter.afterError error ≠ .unguarded := by
  cases emitter <;> cases error <;> exact EmitterPhase.noConfusion

/-- **Every step but a packet outside of the transaction keeps the invariant.** -/
theorem Latching.step (h : Latching s os) (hs : Step c s i o t)
    (hguarded : ∀ th, i ≠ .sendUnguarded th) : Latching t (os ++ o) := by
  have hout : ∀ {th phase}, s.phase th = phase → inside phase = false →
      inside (s.phase th) = false := fun hphase hinside => by rw [hphase]; exact hinside
  have hin : ∀ {th phase}, s.phase th = phase → inside phase = true →
      inside (s.phase th) = true := fun hphase hinside => by rw [hphase]; exact hinside
  cases hs with
  | call emitter hidle =>
    rw [List.append_nil]
    exact h.outside (hout hidle rfl) rfl EmitterPhase.noConfusion
  | leave hrunning =>
    rw [List.append_nil]
    exact h.outside (hout hrunning rfl) rfl EmitterPhase.noConfusion
  | refused hrunning _ _ _ =>
    rw [List.append_nil]
    exact h.outside (hout hrunning rfl) rfl EmitterPhase.noConfusion
  | acquired _ _ hfree hopen =>
    rw [List.append_nil]
    exact h.entered hfree hopen _
  | abandoned hsending error =>
    rw [List.append_nil]
    exact h.abandons hsending (inside_afterError _ error) (afterError_ne_unguarded _ error)
  | enqueued hsending => exact h.enqueues hsending
  | enqueueRaised hsending error =>
    exact h.fails (hin hsending rfl) (inside_afterError _ error) (afterError_ne_unguarded _ error)
  | pending _ _ =>
    rw [List.append_nil]
    exact h
  | succeeded hawaiting hresult => exact h.succeeds hawaiting hresult
  | rejected hawaiting _ _ =>
    exact h.fails (hin hawaiting rfl) (inside_afterError _ _) (afterError_ne_unguarded _ _)
  | failed hawaiting error =>
    exact h.fails (hin hawaiting rfl) (inside_afterError _ error) (afterError_ne_unguarded _ error)
  | sentUnguarded _ => exact absurd rfl (hguarded _)
  | returnedUnguarded hunguarded => exact absurd hunguarded (h.guarded _)
  | failedUnguarded hunguarded => exact absurd hunguarded (h.guarded _)
  | ignored _ =>
    rw [List.append_nil]
    exact h
  | acknowledged _ => exact h.arrives _

/-- `send_guided_waypoint` does not get as far as its packet. -/
def NothingUnguarded (_ : DroneOutput) (i : OutputInput) : Prop := ∀ th, i ≠ .sendUnguarded th

theorem latching_run {is : List OutputInput}
    (h : Run (Meeting (Step c) NothingUnguarded) created is os t) : Latching t os := by
  induction h with
  | start => exact latching_created
  | step _ hs ih => exact ih.step hs.1 hs.2

/-! ## 5. Runs -/

/-- **GUIDED items are latched**, in runs in which `send_guided_waypoint` sends nothing: no packet
    follows a failure, and a success follows the acceptance of the thread's own packet with no other
    packet in doubt. -/
theorem guided_items_latched (c : MissionAckIdentity) (is : List OutputInput)
    (os : List OutputNote) (t : DroneOutput)
    (h : Run (Meeting (Step c) NothingUnguarded) created is os t) :
    LatchedOut os ∧ AcknowledgedAlone os :=
  ⟨(latching_run h).latchedOut, (latching_run h).acknowledgedAlone⟩

/-- The flight controller and this ground station. -/
def pinned : MissionAckIdentity := ⟨1, 1, 255, 190, 0⟩

/-- The flight controller accepts an item. -/
def itemAccepted : MissionAckMessage := ⟨some 0, some (1, 1), some 255, some 190, 0⟩

/-- A climb is accepted; the next one times out. -/
theorem climbs_run : ∃ t, Run (Meeting (Step pinned) NothingUnguarded) created
    [.call 0 .climb, .acquire 0, .enqueue 0, .ack itemAccepted, .poll 0, .leave 0, .call 0 .climb,
      .acquire 0, .enqueue 0, .fail 0 .missionAck]
    [enqueued 0, .acknowledged 0, .succeeded 0, .enqueued 0, .failed 0] t := by
  have hcall := Run.single (R := Meeting (Step pinned) NothingUnguarded) (s := created)
    (i := .call 0 .climb) ⟨.call .climb rfl, fun _ => OutputInput.noConfusion⟩
  have hacquire := hcall.step (i := .acquire 0)
    ⟨.acquired rfl rfl rfl rfl, fun _ => OutputInput.noConfusion⟩
  have henqueue := hacquire.step (i := .enqueue 0)
    ⟨.enqueued rfl, fun _ => OutputInput.noConfusion⟩
  have hack := henqueue.step (i := .ack itemAccepted)
    ⟨.acknowledged (by rfl), fun _ => OutputInput.noConfusion⟩
  have hpoll := hack.step (i := .poll 0)
    ⟨.succeeded rfl (by decide +kernel), fun _ => OutputInput.noConfusion⟩
  have hleave := hpoll.step (i := .leave 0) ⟨.leave rfl, fun _ => OutputInput.noConfusion⟩
  have hagain := hleave.step (i := .call 0 .climb)
    ⟨.call .climb rfl, fun _ => OutputInput.noConfusion⟩
  have htake := hagain.step (i := .acquire 0)
    ⟨.acquired rfl rfl rfl rfl, fun _ => OutputInput.noConfusion⟩
  have hsend := htake.step (i := .enqueue 0) ⟨.enqueued rfl, fun _ => OutputInput.noConfusion⟩
  have hfail := hsend.step (i := .fail 0 .missionAck)
    ⟨.failed rfl .missionAck, fun _ => OutputInput.noConfusion⟩
  exact ⟨_, hfail⟩

theorem guided_items_latched_climbs :
    ∃ os : List OutputNote, OutputNote.failed 0 ∈ os ∧ LatchedOut os ∧ AcknowledgedAlone os := by
  obtain ⟨t, hrun⟩ := climbs_run
  exact ⟨_, by decide, guided_items_latched pinned _ _ t hrun⟩

/-! ## 6. Packets outside of the transaction -/

/-- A climb times out, and `send_guided_waypoint` sends after it. -/
theorem hold_after_failure_run : ∃ t, Run (Step pinned) created
    [.call 0 .climb, .acquire 0, .enqueue 0, .fail 0 .missionAck, .call 1 .sendGuidedWaypoint,
      .sendUnguarded 1]
    [enqueued 0, .failed 0, .enqueued 1] t := by
  have hcall := Run.single (R := Step pinned) (s := created) (i := .call 0 .climb)
    (.call .climb rfl)
  have hacquire := hcall.step (i := .acquire 0) (.acquired rfl rfl rfl rfl)
  have henqueue := hacquire.step (i := .enqueue 0) (.enqueued rfl)
  have hfail := henqueue.step (i := .fail 0 .missionAck) (.failed rfl .missionAck)
  have hhold := hfail.step (i := .call 1 .sendGuidedWaypoint) (.call .sendGuidedWaypoint rfl)
  have hsend := hhold.step (i := .sendUnguarded 1) (.sentUnguarded rfl)
  exact ⟨_, hsend⟩

/-- The ACK that a climb succeeds on arrives with the packet of `send_guided_waypoint` in doubt. -/
theorem hold_in_doubt_run : ∃ t, Run (Step pinned) created
    [.call 0 .climb, .acquire 0, .enqueue 0, .call 1 .sendGuidedWaypoint, .sendUnguarded 1,
      .ack itemAccepted, .poll 0]
    [enqueued 0, .enqueued 1, .acknowledged 0, .succeeded 0] t := by
  have hcall := Run.single (R := Step pinned) (s := created) (i := .call 0 .climb)
    (.call .climb rfl)
  have hacquire := hcall.step (i := .acquire 0) (.acquired rfl rfl rfl rfl)
  have henqueue := hacquire.step (i := .enqueue 0) (.enqueued rfl)
  have hhold := henqueue.step (i := .call 1 .sendGuidedWaypoint) (.call .sendGuidedWaypoint rfl)
  have hsend := hhold.step (i := .sendUnguarded 1) (.sentUnguarded rfl)
  have hack := hsend.step (i := .ack itemAccepted) (.acknowledged (by rfl))
  have hpoll := hack.step (i := .poll 0) (.succeeded rfl (by decide +kernel))
  exact ⟨_, hpoll⟩

/-- **`send_guided_waypoint` breaks both properties.** -/
theorem unguarded_item_after_latch :
    (∃ is os t, Run (Step pinned) created is os t ∧ ¬ LatchedOut os) ∧
      ∃ is os t, Run (Step pinned) created is os t ∧ ¬ AcknowledgedAlone os := by
  refine ⟨?_, ?_⟩
  · obtain ⟨t, hrun⟩ := hold_after_failure_run
    refine ⟨_, _, t, hrun, fun hlatched => ?_⟩
    exact hlatched [enqueued 0] 0 [enqueued 1] rfl 1 (by simp)
  · obtain ⟨t, hrun⟩ := hold_in_doubt_run
    refine ⟨_, _, t, hrun, fun halone => ?_⟩
    obtain ⟨first, between, ⟨hsplit, hlast, -⟩, -⟩ :=
      halone [enqueued 0, .enqueued 1, .acknowledged 0] 0 [] rfl
    cases first with
    | nil =>
      cases hsplit
      exact hlast 1 (by simp)
    | cons note first =>
      obtain ⟨-, hrest⟩ := List.cons.inj hsplit
      have hmem : enqueued 0 ∈ [enqueued 1, .acknowledged 0] := by
        rw [hrest]
        simp
      simp at hmem

end DroneOutput

end DroneSim
