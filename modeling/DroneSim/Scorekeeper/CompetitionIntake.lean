/-
  File:      DroneSim/Scorekeeper/CompetitionIntake.lean
  Subject:   What the competition scorer keeps, in terms of the streams it was fed.

  The events kept are a matter of their own stream (`sift`). Of the truths and of a marker's states
  those from the start of the mission on are kept, and of the older ones those that came before
  the start did (`KeptStream`). The gap of the newest sample, noted sample by sample, comes to the
  gap of the whole stream (`streamGaps_snoc`); so whether a fault is noted is a matter of the streams
  too (`Faultless`, `FaultOf`), with one exception: a state of an unknown marker that is older than
  the start is a fault before the start came and none after (`NoOldUnknown`). `Ran` has all of this
  after any list of samples (`ran_run`).
-/
import DroneSim.Scorekeeper.CompetitionScoring
import DroneSim.Library.Streams

namespace DroneSim

open Library

/-! ## 1. Streams -/

inductive CompetitionInput where
  | groundTruth (sample : MovingTruthSample)
  | payloadState (sample : PayloadStateSample)
  | payloadEvent (sample : CodedPayloadEvent)
  | missionEvent (sample : MissionEventSample)

/-- One sample of any topic. -/
def CompetitionScorer.accept (c : CompetitionScorer) : CompetitionInput → CompetitionScorer
  | .groundTruth sample => c.acceptGroundTruth sample
  | .payloadState sample => c.acceptPayloadState sample
  | .payloadEvent sample => c.acceptPayloadEvent sample
  | .missionEvent sample => c.acceptMissionEvent sample

/-- The samples of a run, one after another. -/
def CompetitionScorer.acceptAll (c : CompetitionScorer) (is : List CompetitionInput) :
    CompetitionScorer := is.foldl CompetitionScorer.accept c

/-- **The streams of a run**: truths, the states of each marker, and the events. -/
structure CompetitionStreams where
  truths : List MovingTruthSample
  states : ℕ → List PayloadStateSample
  payloadEvents : List CodedPayloadEvent
  missionEvents : List MissionEventSample

namespace CompetitionStreams

def empty : CompetitionStreams := ⟨[], fun _ => [], [], []⟩

/-- The streams with one more sample; samples of another run are none. -/
def add (runId : String) (f : CompetitionStreams) : CompetitionInput → CompetitionStreams
  | .groundTruth sample =>
    if sample.runId = runId then { f with truths := f.truths ++ [sample] } else f
  | .payloadState sample =>
    if sample.runId = runId then
      { f with
        states := fun m => if m = sample.arucoId then f.states m ++ [sample] else f.states m }
    else f
  | .payloadEvent sample =>
    if sample.runId = runId then { f with payloadEvents := f.payloadEvents ++ [sample] } else f
  | .missionEvent sample =>
    if sample.runId = runId then { f with missionEvents := f.missionEvents ++ [sample] } else f

end CompetitionStreams

/-- The streams of a list of samples. -/
def streamsOf (runId : String) (is : List CompetitionInput) : CompetitionStreams :=
  is.foldl (CompetitionStreams.add runId) .empty

/-! ## 2. Events -/

section Sift

variable {α : Type} {fits : Option α → α → Bool} {l m : List α} {a : α}

/-- Keeps what fits behind what was kept last; also whether everything did. -/
def sift (fits : Option α → α → Bool) (l : List α) : List α × Bool :=
  l.foldl (fun r a => if fits r.1.getLast? a then (r.1 ++ [a], r.2) else (r.1, false)) ([], true)

theorem sift_snoc (fits : Option α → α → Bool) (l : List α) (a : α) :
    sift fits (l ++ [a]) = if fits (sift fits l).1.getLast? a then
      ((sift fits l).1 ++ [a], (sift fits l).2) else ((sift fits l).1, false) := by
  rw [sift, List.foldl_append]
  rfl

/-- What was kept stays. -/
theorem sift_prefix (h : l <+: m) : (sift fits l).1 <+: (sift fits m).1 := by
  obtain ⟨k, rfl⟩ := h
  induction k using List.reverseRecOn with
  | nil => rw [List.append_nil]
  | append_singleton k a ih =>
    rw [← List.append_assoc, sift_snoc]
    split
    · exact ih.trans (List.prefix_append _ _)
    · exact ih

/-- What did not fit stays a misfit. -/
theorem sift_misfit (h : l <+: m) (hl : (sift fits l).2 = false) : (sift fits m).2 = false := by
  obtain ⟨k, rfl⟩ := h
  induction k using List.reverseRecOn with
  | nil => rwa [List.append_nil]
  | append_singleton k a ih =>
    rw [← List.append_assoc, sift_snoc]
    split
    · exact ih
    · rfl

end Sift

/-- What `accept_mission_event` demands of an event behind the last one kept. -/
def missionFits (previous : Option MissionEventSample) (e : MissionEventSample) : Bool :=
  match previous with
  | none => decide (e.eventId = 0)
  | some p => decide (e.eventId = p.eventId + 1) && decide (p.simTimestampNs ≤ e.simTimestampNs)

/-- What `accept_payload_event` demands of an event behind the last one kept. -/
def payloadFits (previous : Option CodedPayloadEvent) (e : CodedPayloadEvent) : Bool :=
  CompetitionScorer.markers.contains e.arucoId &&
    match previous with
    | none => decide (e.eventId = 0)
    | some p => decide (e.eventId = p.eventId + 1) && decide (p.simTimestampNs ≤ e.simTimestampNs)

/-- The start of the mission, by the mission events that are kept. -/
def startOf (f : CompetitionStreams) : Option ℕ :=
  ((sift missionFits f.missionEvents).1.find? fun e => e.place = ("FM1", "STARTED")).map
    fun e => e.simTimestampNs

/-! ## 3. Gaps -/

namespace CompetitionScorer

variable {i s t u : ℕ} {l : List ℕ}

theorem uneven_cons : uneven i (t :: u :: l) = (decide ((u : ℤ) - t ≠ i) || uneven i (u :: l)) :=
  rfl

theorem uneven_snoc : uneven i (l ++ [t] ++ [u]) =
    (uneven i (l ++ [t]) || decide ((u : ℤ) - t ≠ i)) := by
  induction l with
  | nil => simp [uneven]
  | cons v l ih =>
    cases l with
    | nil => simp [uneven]
    | cons w l =>
      simp only [List.cons_append] at ih ⊢
      rw [uneven_cons, uneven_cons, ih, Bool.or_assoc]

/-- **The gap of the newest sample is the one that it adds to the whole stream.** -/
theorem streamGaps_snoc (hst : s ≤ t) : streamGaps s i (l ++ [t]) =
    (streamGaps s i l || latestGaps s i (l.filter fun u => s ≤ u).getLast? t) := by
  unfold streamGaps
  rw [List.filter_append, List.filter_cons_of_pos (by simpa using hst), List.filter_nil]
  have hle : ∀ u ∈ l.filter fun u => s ≤ u, s ≤ u := fun u hu => by
    simpa using (List.mem_filter.mp hu).2
  generalize (l.filter fun u => s ≤ u) = k at hle ⊢
  induction k using List.reverseRecOn with
  | nil => simp [latestGaps, uneven]
  | append_singleton k u _ =>
    have hu : ¬ u < s := Nat.not_lt.mpr (hle u (by simp))
    rw [List.getLast?_concat]
    cases k with
    | nil =>
      simp only [List.nil_append, List.cons_append, latestGaps, if_neg hu, uneven, List.tail_cons,
        List.zip_cons_cons, List.zip_nil_right, List.any_cons, List.any_nil, Bool.or_false]
    | cons v k =>
      have hsnoc := uneven_snoc (i := i) (l := v :: k) (t := u) (u := t)
      simp only [List.cons_append] at hsnoc ⊢
      rw [hsnoc, latestGaps, if_neg hu, Bool.or_assoc]

/-- Only the samples from the start on make a gap. -/
theorem streamGaps_filter : streamGaps s i (l.filter fun u => s ≤ u) = streamGaps s i l := by
  rw [streamGaps, streamGaps, List.filter_filter]
  simp only [Bool.and_self]

/-- An older sample makes no gap. -/
theorem streamGaps_old (hts : t < s) : streamGaps s i (l ++ [t]) = streamGaps s i l := by
  rw [streamGaps, streamGaps, List.filter_append, List.filter_cons_of_neg (by simpa using hts),
    List.filter_nil, List.append_nil]

/-- A gap stays. -/
theorem streamGaps_prefix {m : List ℕ} (h : l <+: m) (hl : streamGaps s i l = true) :
    streamGaps s i m = true := by
  obtain ⟨k, rfl⟩ := h
  induction k using List.reverseRecOn with
  | nil => rwa [List.append_nil]
  | append_singleton k u ih =>
    rw [← List.append_assoc]
    rcases Nat.lt_or_ge u s with hu | hu
    · rwa [streamGaps_old hu]
    · rw [streamGaps_snoc hu, ih, Bool.true_or]

/-- The gap of the newest sample does not look behind the start. -/
theorem latestGaps_filter (hl : l.Pairwise (· < ·)) :
    latestGaps s i (l.filter fun u => s ≤ u).getLast? t = latestGaps s i l.getLast? t := by
  induction l using List.reverseRecOn with
  | nil => rfl
  | append_singleton l u _ =>
    rw [List.getLast?_concat, List.filter_append]
    by_cases hu : s ≤ u
    · rw [List.filter_cons_of_pos (by simpa using hu), List.filter_nil, List.getLast?_concat]
    · have hold : (l.filter fun u => s ≤ u) = [] := by
        refine List.filter_eq_nil_iff.mpr fun v hv => ?_
        have hlt := (List.pairwise_append.mp hl).2.2 v hv u (List.mem_singleton_self u)
        simpa using Nat.lt_of_lt_of_le hlt (Nat.le_of_lt (Nat.lt_of_not_le hu))
      rw [hold, List.filter_cons_of_neg (by simpa using hu), List.filter_nil]
      simp [latestGaps, Nat.lt_of_not_le hu]

end CompetitionScorer

open CompetitionScorer (latestGaps_filter markers streamGaps streamGaps_filter streamGaps_old
  streamGaps_prefix streamGaps_snoc)

/-! ## 4. Kept streams -/

section Kept

variable {α : Type} {f : α → ℕ} {start : Option ℕ} {l kept : List α} {a : α} {s : ℕ}

/-- **What is kept of a stream**: all of it from the start on, and all of it before the start has
    come. -/
structure KeptStream (f : α → ℕ) (start : Option ℕ) (l kept : List α) : Prop where
  sub : kept.Sublist l
  later : ∀ s, start = some s → kept.filter (fun a => s ≤ f a) = l.filter fun a => s ≤ f a
  all : start = none → kept = l

theorem KeptStream.nil : KeptStream f start [] [] := ⟨.slnil, fun _ _ => rfl, fun _ => rfl⟩

/-- A sample from before the start is left out. -/
theorem KeptStream.old (h : KeptStream f start l kept) (hs : start = some s) (ha : f a < s) :
    KeptStream f start (l ++ [a]) kept where
  sub := h.sub.trans (List.sublist_append_left _ _)
  later := by
    intro u hu
    obtain rfl := Option.some.inj (hs.symm.trans hu)
    rw [h.later _ hs, List.filter_append, List.filter_cons_of_neg (by simpa using ha),
      List.filter_nil, List.append_nil]
  all := fun hnone => absurd (hs.symm.trans hnone) nofun

theorem KeptStream.keep (h : KeptStream f start l kept) (a : α) :
    KeptStream f start (l ++ [a]) (kept ++ [a]) where
  sub := h.sub.append_right [a]
  later := by
    intro s hs
    rw [List.filter_append, h.later s hs, List.filter_append]
  all := fun hs => by rw [h.all hs]

/-- The start comes. -/
theorem KeptStream.begin (h : KeptStream f none l kept) (s : ℕ) :
    KeptStream f (some s) l kept := by
  obtain rfl := h.all rfl
  exact ⟨.refl _, fun _ _ => rfl, nofun⟩

/-- A sample behind the stream is behind what is kept of it. -/
theorem KeptStream.before (h : KeptStream f start l kept) (hl : Increasing f (l ++ [a])) :
    ((kept.getLast?.map f).any fun t => f a ≤ t) = false := by
  rw [Option.any_eq_false]
  intro t ht
  obtain ⟨b, hb, rfl⟩ := Option.map_eq_some_iff.mp ht
  have hlt := hl.across (h.sub.subset (List.mem_of_getLast? hb)) (List.mem_singleton_self a)
  simpa using hlt

/-- The gaps of what is kept are those of the stream. -/
theorem KeptStream.gaps (h : KeptStream f (some s) l kept) (i : ℕ) :
    streamGaps s i (kept.map f) = streamGaps s i (l.map f) := by
  have hmap : ∀ k : List α, (k.map f).filter (fun u => s ≤ u) =
      (k.filter fun a => s ≤ f a).map f := fun k => List.filter_map
  rw [← streamGaps_filter, ← streamGaps_filter (l := l.map f),
    hmap, hmap, h.later s rfl]

/-- **The gap that is noted for a kept sample is the one it adds to the stream.** -/
theorem KeptStream.latest (h : KeptStream f (some s) l kept) (hl : Increasing f (l ++ [a]))
    (ha : s ≤ f a) (i : ℕ) :
    streamGaps s i ((l ++ [a]).map f) =
      (streamGaps s i (l.map f) ||
        CompetitionScorer.latestGaps s i (kept.getLast?.map f) (f a)) := by
  have hpairwise : (kept.map f).Pairwise (· < ·) := by
    refine List.pairwise_map.mpr (List.Pairwise.sublist h.sub ?_)
    exact (List.pairwise_append.mp hl).1
  have hkept := (h.keep a).gaps i
  rw [← hkept, ← h.gaps i, List.map_append, List.map_singleton,
    streamGaps_snoc ha, latestGaps_filter hpairwise,
    List.getLast?_map]

/-- A stream has no gap from the start on. -/
def Gapless (start : Option ℕ) (i : ℕ) (timestamps : List ℕ) : Prop :=
  ∀ s, start = some s → streamGaps s i timestamps = false

theorem gapless_some {i : ℕ} {ts : List ℕ} :
    Gapless (some s) i ts ↔ streamGaps s i ts = false := by
  simp [Gapless]

/-- A sample from before the start changes nothing. -/
theorem gapless_old {i : ℕ} (hs : start = some s) (ha : f a < s) :
    Gapless start i ((l ++ [a]).map f) ↔ Gapless start i (l.map f) := by
  subst hs
  rw [gapless_some, gapless_some, List.map_append, List.map_singleton,
    streamGaps_old ha]

/-- A later sample leaves no gap if the stream had none and it is the next. -/
theorem KeptStream.gapless_keep (h : KeptStream f start l kept) (hl : Increasing f (l ++ [a]))
    (ha : ∀ s, start = some s → s ≤ f a) (i : ℕ) :
    Gapless start i ((l ++ [a]).map f) ↔ Gapless start i (l.map f) ∧ ∀ s, start = some s →
      CompetitionScorer.latestGaps s i (kept.getLast?.map f) (f a) = false := by
  cases start with
  | none => exact ⟨fun _ => ⟨nofun, nofun⟩, fun _ => nofun⟩
  | some s =>
    rw [gapless_some, gapless_some, h.latest hl (ha s rfl), Bool.or_eq_false_iff]
    simp

end Kept

/-! ## 5. Streams that grow -/

/-- The streams as they were before. -/
structure CompetitionStreams.Extends (f g : CompetitionStreams) : Prop where
  truths : f.truths <+: g.truths
  states : ∀ m, f.states m <+: g.states m
  payloadEvents : f.payloadEvents <+: g.payloadEvents
  missionEvents : f.missionEvents <+: g.missionEvents

theorem CompetitionStreams.add_extends (runId : String) (f : CompetitionStreams)
    (i : CompetitionInput) : f.Extends (f.add runId i) := by
  have hrefl : f.Extends f := ⟨List.prefix_rfl, fun _ => List.prefix_rfl, List.prefix_rfl, List.prefix_rfl⟩
  cases i with
  | groundTruth sample =>
    rw [add]
    split
    · exact ⟨List.prefix_append _ _, fun _ => List.prefix_rfl, List.prefix_rfl, List.prefix_rfl⟩
    · exact hrefl
  | payloadState sample =>
    rw [add]
    split
    · refine ⟨List.prefix_rfl, fun m => ?_, List.prefix_rfl, List.prefix_rfl⟩
      dsimp only
      split
      · exact List.prefix_append _ _
      · exact List.prefix_rfl
    · exact hrefl
  | payloadEvent sample =>
    rw [add]
    split
    · exact ⟨List.prefix_rfl, fun _ => List.prefix_rfl, List.prefix_append _ _, List.prefix_rfl⟩
    · exact hrefl
  | missionEvent sample =>
    rw [add]
    split
    · exact ⟨List.prefix_rfl, fun _ => List.prefix_rfl, List.prefix_rfl, List.prefix_append _ _⟩
    · exact hrefl

/-- The streams of truths and of each marker rise. -/
structure CompetitionStreams.InOrder (f : CompetitionStreams) : Prop where
  truths : Increasing (fun s : MovingTruthSample => s.simTimestampNs) f.truths
  states : ∀ m, Increasing PayloadStateSample.simTimestampNs (f.states m)

/-- The timestamps of the truths. -/
def CompetitionStreams.truthTimes (f : CompetitionStreams) : List ℕ :=
  f.truths.map fun s => s.simTimestampNs

/-- The timestamps of a marker's states. -/
def CompetitionStreams.stateTimes (f : CompetitionStreams) (m : ℕ) : List ℕ :=
  (f.states m).map PayloadStateSample.simTimestampNs

/-- A state of a marker that the scorer does not know is no older than the mission. -/
def NoOldUnknown (f : CompetitionStreams) : Prop :=
  ∀ s, startOf f = some s → ∀ m, m ∉ markers → ∀ x ∈ f.states m,
    s ≤ x.simTimestampNs

theorem CompetitionStreams.InOrder.before {f g : CompetitionStreams} (h : g.InOrder)
    (hfg : f.Extends g) : f.InOrder where
  truths := List.Pairwise.sublist hfg.truths.sublist h.truths
  states m := List.Pairwise.sublist (hfg.states m).sublist (h.states m)

/-- A start that has come stays. -/
theorem startOf_before {f g : CompetitionStreams} (hfg : f.Extends g) {s : ℕ}
    (hs : startOf f = some s) : startOf g = some s := by
  have hsift : (sift missionFits f.missionEvents).1 <+: (sift missionFits g.missionEvents).1 :=
    sift_prefix hfg.missionEvents
  obtain ⟨rest, hrest⟩ := hsift
  rw [startOf] at hs ⊢
  rw [← hrest, List.find?_append, Option.map_or, hs, Option.some_or]

theorem NoOldUnknown.before {f g : CompetitionStreams} (h : NoOldUnknown g) (hfg : f.Extends g) :
    NoOldUnknown f :=
  fun s hs m hm x hx => h s (startOf_before hfg hs) m hm x ((hfg.states m).subset hx)

/-! ## 6. Faults -/

/-- **The streams have no fault**: all events fit, no marker is unknown, and no stream has a gap. -/
structure Faultless (i : ℕ) (f : CompetitionStreams) : Prop where
  mission : (sift missionFits f.missionEvents).2 = true
  payload : (sift payloadFits f.payloadEvents).2 = true
  known : ∀ m, m ∉ markers → f.states m = []
  truths : Gapless (startOf f) i f.truthTimes
  states : ∀ m ∈ markers, Gapless (startOf f) i (f.stateTimes m)

/-- The diagnostics of a mission event that does not fit. -/
def missionReasons : List String :=
  ["mission_event_id_discontinuity", "mission_event_timestamp_regression"]

/-- The diagnostics of a payload event that does not fit. -/
def payloadReasons : List String :=
  ["unknown_payload_event", "payload_event_id_discontinuity", "payload_event_timestamp_regression"]

/-- **The fault of the streams that a diagnostic stands for.** -/
inductive FaultOf (i : ℕ) (f : CompetitionStreams) : String → Prop
  | truths {s : ℕ} (hs : startOf f = some s)
      (hgap : streamGaps s i f.truthTimes = true) :
      FaultOf i f "ground_truth_timestamp_gap"
  | states {s m : ℕ} (hm : m ∈ markers) (hs : startOf f = some s)
      (hgap : streamGaps s i (f.stateTimes m) = true) :
      FaultOf i f (CompetitionScorer.payloadGapName m)
  | unknown {m : ℕ} (hm : m ∉ markers) (hne : f.states m ≠ []) :
      FaultOf i f "unknown_payload_state"
  | mission {r : String} (hr : r ∈ missionReasons)
      (h : (sift missionFits f.missionEvents).2 = false) : FaultOf i f r
  | payload {r : String} (hr : r ∈ payloadReasons)
      (h : (sift payloadFits f.payloadEvents).2 = false) : FaultOf i f r

/-- A fault stays. -/
theorem FaultOf.grow {i : ℕ} {f g : CompetitionStreams} {r : String} (h : FaultOf i f r)
    (hfg : f.Extends g) : FaultOf i g r := by
  cases h with
  | truths hs hgap =>
    refine .truths (startOf_before hfg hs) ?_
    exact streamGaps_prefix (hfg.truths.map _) hgap
  | states hm hs hgap =>
    refine .states hm (startOf_before hfg hs) ?_
    exact streamGaps_prefix ((hfg.states _).map _) hgap
  | unknown hm hne =>
    refine .unknown hm fun hnil => hne ?_
    have hprefix := hfg.states
    exact List.prefix_nil.mp (hnil ▸ hprefix _)
  | mission hr h => exact .mission hr (sift_misfit hfg.missionEvents h)
  | payload hr h => exact .payload hr (sift_misfit hfg.payloadEvents h)

/-- What the truths have to do with it. -/
theorem faultless_truths {i : ℕ} {f : CompetitionStreams} (l : List MovingTruthSample) :
    Faultless i { f with truths := l } ↔ Faultless i { f with truths := [] } ∧
      Gapless (startOf f) i (l.map fun s => s.simTimestampNs) :=
  ⟨fun g => ⟨⟨g.mission, g.payload, g.known, fun _ _ => rfl, g.states⟩, g.truths⟩,
    fun g => ⟨g.1.mission, g.1.payload, g.1.known, g.2, g.1.states⟩⟩

/-- The streams with another stream of states for a marker. -/
def CompetitionStreams.setStates (f : CompetitionStreams) (m : ℕ) (l : List PayloadStateSample) :
    CompetitionStreams :=
  { f with states := fun n => if n = m then l else f.states n }

@[simp] theorem CompetitionStreams.setStates_self (f : CompetitionStreams) (m : ℕ) :
    f.setStates m (f.states m) = f := by
  have hstates : (fun n => if n = m then f.states m else f.states n) = f.states := by
    funext n
    split
    · rename_i hn
      rw [hn]
    · rfl
  rw [setStates, hstates]

theorem CompetitionStreams.setStates_other {f : CompetitionStreams} {m n : ℕ} (hn : n ≠ m)
    (l : List PayloadStateSample) : (f.setStates m l).states n = f.states n := if_neg hn

/-- What a marker's states have to do with it. -/
theorem faultless_states {i m : ℕ} {f : CompetitionStreams} (hm : m ∈ markers)
    (l : List PayloadStateSample) :
    Faultless i (f.setStates m l) ↔ Faultless i (f.setStates m []) ∧
      Gapless (startOf f) i (l.map PayloadStateSample.simTimestampNs) := by
  have hat : ∀ l n, n ≠ m → (f.setStates m l).states n = f.states n :=
    fun l _ hn => CompetitionStreams.setStates_other hn l
  have hself : ∀ l, (f.setStates m l).states m = l := fun _ => if_pos rfl
  have hother : ∀ n, n ∉ markers → n ≠ m := fun n hn h => hn (h ▸ hm)
  constructor
  · rintro ⟨h1, h2, h3, h4, h5⟩
    refine ⟨⟨h1, h2, fun n hn => ?_, h4, fun n hn => ?_⟩, ?_⟩
    · rw [hat _ n (hother n hn), ← hat l n (hother n hn)]
      exact h3 n hn
    · by_cases hnm : n = m
      · subst hnm
        rw [CompetitionStreams.stateTimes, hself]
        exact fun _ _ => rfl
      · rw [CompetitionStreams.stateTimes, hat _ n hnm, ← hat l n hnm]
        exact h5 n hn
    · have hgap := h5 m hm
      rwa [CompetitionStreams.stateTimes, hself] at hgap
  · rintro ⟨⟨h1, h2, h3, h4, h5⟩, hgap⟩
    refine ⟨h1, h2, fun n hn => ?_, h4, fun n hn => ?_⟩
    · rw [hat _ n (hother n hn), ← hat [] n (hother n hn)]
      exact h3 n hn
    · by_cases hnm : n = m
      · subst hnm
        rw [CompetitionStreams.stateTimes, hself]
        exact hgap
      · rw [CompetitionStreams.stateTimes, hat _ n hnm, ← hat [] n hnm]
        exact h5 n hn

namespace CompetitionScorer

variable {runId : String} {rules : CompetitionRules} {f : CompetitionStreams}
  {c : CompetitionScorer}

/-- **What the scorer holds of the streams.** -/
structure Ran (runId : String) (rules : CompetitionRules) (f : CompetitionStreams)
    (c : CompetitionScorer) : Prop where
  run : c.runId = runId
  policy : c.rules = rules
  mission : c.missionEvents = (sift missionFits f.missionEvents).1
  payload : c.payloadEvents = (sift payloadFits f.payloadEvents).1
  start : c.startSimTimeNs = startOf f
  truths : KeptStream (fun s : MovingTruthSample => s.simTimestampNs) (startOf f) f.truths
    c.groundTruth
  states : ∀ m ∈ markers, KeptStream PayloadStateSample.simTimestampNs (startOf f) (f.states m)
    (c.payloadStates m)
  unknown : ∀ m, m ∉ markers → c.payloadStates m = []
  diagnostic : c.diagnostic = none ↔ Faultless rules.sampleIntervalNs f
  named : ∀ r, c.diagnostic = some r → FaultOf rules.sampleIntervalNs f r

theorem Ran.initial (runId : String) (rules : CompetitionRules) :
    Ran runId rules .empty (initial runId rules) where
  run := rfl
  policy := rfl
  mission := rfl
  payload := rfl
  start := rfl
  truths := .nil
  states := fun _ _ => .nil
  unknown := fun _ _ => rfl
  named := nofun
  diagnostic := ⟨fun _ => ⟨rfl, rfl, fun _ _ => rfl, nofun, fun _ _ => nofun⟩, fun _ => rfl⟩

/-- Once a fault is noted, one stays noted. -/
theorem fail_diagnostic (c : CompetitionScorer) (reason : String) :
    (c.fail reason).diagnostic ≠ none := Option.some_ne_none _

/-- The fault that is noted is the old one or the new one. -/
theorem fail_named {r reason : String} (h : (c.fail reason).diagnostic = some r) :
    c.diagnostic = some r ∨ r = reason := by
  rw [fail] at h
  cases hd : c.diagnostic with
  | none =>
    rw [hd, Option.getD_none] at h
    exact .inr (Option.some.inj h).symm
  | some old =>
    rw [hd, Option.getD_some] at h
    exact .inl h

/-- A gap is noted once the start is known. -/
theorem gap_noted {c' : CompetitionScorer} (gaps : ℕ → Bool) (reason : String)
    (hnone : c.startSimTimeNs = none → c' = c)
    (hsome : ∀ s, c.startSimTimeNs = some s → c' = if gaps s then c.fail reason else c) :
    ∃ o, c' = { c with diagnostic := o } ∧
      (o = none ↔ c.diagnostic = none ∧ ∀ s, c.startSimTimeNs = some s → gaps s = false) ∧
      ∀ r, o = some r → c.diagnostic = some r ∨ r = reason ∧ ∃ s, c.startSimTimeNs = some s ∧
        gaps s = true := by
  rcases Option.eq_none_or_eq_some c.startSimTimeNs with hs | ⟨s, hs⟩
  · exact ⟨c.diagnostic, hnone hs, ⟨fun h => ⟨h, fun s hs' => absurd (hs.symm.trans hs') nofun⟩,
      And.left⟩, fun _ hr => .inl hr⟩
  · rw [hsome s hs]
    split
    · rename_i hgap
      refine ⟨some (c.diagnostic.getD reason), rfl, ⟨nofun, fun h => ?_⟩, fun r hr => ?_⟩
      · rw [h.2 s hs] at hgap
        cases hgap
      · exact (fail_named hr).imp_right fun heq => ⟨heq, s, hs, hgap⟩
    · rename_i hgap
      refine ⟨c.diagnostic, rfl, ⟨fun h => ⟨h, fun u hu => ?_⟩, And.left⟩, fun _ hr => .inl hr⟩
      obtain rfl := Option.some.inj (hs.symm.trans hu)
      exact Bool.not_eq_true _ ▸ hgap

/-- The gap of the newest sample is noted. -/
theorem latestTimestampGap_eq (c : CompetitionScorer) (previous : Option ℕ) (current : ℕ)
    (reason : String) :
    ∃ o, c.latestTimestampGap previous current reason = { c with diagnostic := o } ∧
      (o = none ↔ c.diagnostic = none ∧ ∀ s, c.startSimTimeNs = some s →
        latestGaps s c.rules.sampleIntervalNs previous current = false) ∧
      ∀ r, o = some r → c.diagnostic = some r ∨ r = reason ∧ ∃ s, c.startSimTimeNs = some s ∧
        latestGaps s c.rules.sampleIntervalNs previous current = true := by
  refine gap_noted (fun s => latestGaps s c.rules.sampleIntervalNs previous current) reason
    (fun hs => ?_) fun s hs => ?_
  all_goals rw [latestTimestampGap, hs]

/-- The gap of a whole stream is noted. -/
theorem streamGap_eq (c : CompetitionScorer) (timestamps : List ℕ) (reason : String) :
    ∃ o, c.streamGap timestamps reason = { c with diagnostic := o } ∧
      (o = none ↔ c.diagnostic = none ∧
        Gapless c.startSimTimeNs c.rules.sampleIntervalNs timestamps) ∧
      ∀ r, o = some r → c.diagnostic = some r ∨ r = reason ∧ ∃ s, c.startSimTimeNs = some s ∧
        streamGaps s c.rules.sampleIntervalNs timestamps = true := by
  refine gap_noted (fun s => streamGaps s c.rules.sampleIntervalNs timestamps) reason
    (fun hs => ?_) fun s hs => ?_
  all_goals rw [streamGap, hs]

/-- **The newest sample of a stream**: the gap that is noted is one of the whole stream. -/
theorem latestTimestampGap_stream {α : Type} {g : α → ℕ} {start : Option ℕ} {l kept : List α}
    {a : α} {rest : Prop} (h : KeptStream g start l kept) (hl : Increasing g (l ++ [a]))
    (hs : c.startSimTimeNs = start) (hr : c.rules = rules) (ha : ¬ c.beforeStart (g a) = true)
    (hc : c.diagnostic = none ↔ rest ∧ Gapless start rules.sampleIntervalNs (l.map g))
    (reason : String) :
    ∃ o, c.latestTimestampGap (kept.getLast?.map g) (g a) reason = { c with diagnostic := o } ∧
      (o = none ↔ rest ∧ Gapless start rules.sampleIntervalNs ((l ++ [a]).map g)) ∧
      ∀ r, o = some r → c.diagnostic = some r ∨ r = reason ∧ ∃ s, start = some s ∧
        streamGaps s rules.sampleIntervalNs ((l ++ [a]).map g) = true := by
  subst hs hr
  have hle : ∀ s, c.startSimTimeNs = some s → s ≤ g a := fun s hs => by
    rw [beforeStart, hs, Option.any_some, decide_eq_true_eq] at ha
    exact Nat.not_lt.mp ha
  obtain ⟨o, heq, ho, hnamed⟩ := latestTimestampGap_eq c (kept.getLast?.map g) (g a) reason
  refine ⟨o, heq, ?_, fun r hr => (hnamed r hr).imp_right ?_⟩
  · rw [ho, hc, h.gapless_keep hl hle, and_assoc]
  · rintro ⟨rfl, s, hs, hgap⟩
    rw [hs] at h
    exact ⟨rfl, s, hs, by rw [h.latest hl (hle s hs), hgap, Bool.or_true]⟩

/-- A sample from before the start. -/
theorem Ran.early (h : Ran runId rules f c) {t : ℕ} (ht : c.beforeStart t = true) :
    ∃ s, startOf f = some s ∧ t < s := by
  rw [beforeStart, h.start] at ht
  obtain ⟨s, hs, hlt⟩ := (Option.any_eq_true _ _).mp ht
  exact ⟨s, hs, of_decide_eq_true hlt⟩

/-! ## 7. Steps -/

/-- A truth. -/
theorem Ran.truth (h : Ran runId rules f c) (sample : MovingTruthSample)
    (hio : (f.add runId (.groundTruth sample)).InOrder) :
    Ran runId rules (f.add runId (.groundTruth sample)) (c.acceptGroundTruth sample) := by
  unfold acceptGroundTruth
  by_cases hrun : sample.runId = runId
  swap
  · rw [if_pos (by rw [h.run]; exact hrun), CompetitionStreams.add, if_neg hrun]
    exact h
  have hadd : f.add runId (.groundTruth sample) = { f with truths := f.truths ++ [sample] } :=
    if_pos hrun
  have hgrow := CompetitionStreams.add_extends runId f (.groundTruth sample)
  rw [hadd] at hio hgrow ⊢
  rw [if_neg (by rw [h.run]; exact not_not.mpr hrun)]
  have hstart : startOf { f with truths := f.truths ++ [sample] } = startOf f := rfl
  have hbefore := faultless_truths (f := f) (i := rules.sampleIntervalNs) f.truths
  have hafter := faultless_truths (f := f) (i := rules.sampleIntervalNs) (f.truths ++ [sample])
  split
  · -- older than the start: the stream alone grows
    rename_i hearly
    obtain ⟨s, hs, hlt⟩ := h.early hearly
    refine { h with
      truths := h.truths.old hs hlt
      diagnostic := h.diagnostic.trans ?_
      named := fun r hr => (h.named r hr).grow hgrow }
    rw [hbefore, hafter, gapless_old (f := fun s : MovingTruthSample => s.simTimestampNs) hs hlt]
  · rename_i hlate
    dsimp only
    -- the stream rises, so it cannot be a step back
    rw [h.truths.before hio.truths, if_neg Bool.false_ne_true]
    obtain ⟨o, heq, ho, hnamed⟩ := latestTimestampGap_stream
      (c := { c with groundTruth := c.groundTruth ++ [sample] }) h.truths hio.truths h.start
      h.policy hlate (h.diagnostic.trans hbefore) "ground_truth_timestamp_gap"
    rw [heq]
    refine { h with
      truths := h.truths.keep sample
      diagnostic := ho.trans hafter.symm
      named := fun r hr => ?_ }
    obtain hr | ⟨rfl, s, hs, hgap⟩ := hnamed r hr
    · exact (h.named r hr).grow hgrow
    · exact .truths (hstart.trans hs) hgap

/-- A state. -/
theorem Ran.payloadState (h : Ran runId rules f c) (sample : PayloadStateSample)
    (hio : (f.add runId (.payloadState sample)).InOrder)
    (hold : NoOldUnknown (f.add runId (.payloadState sample))) :
    Ran runId rules (f.add runId (.payloadState sample)) (c.acceptPayloadState sample) := by
  unfold acceptPayloadState
  by_cases hrun : sample.runId = runId
  swap
  · rw [if_pos (by rw [h.run]; exact hrun), CompetitionStreams.add, if_neg hrun]
    exact h
  have hadd : f.add runId (.payloadState sample) =
      f.setStates sample.arucoId (f.states sample.arucoId ++ [sample]) := by
    rw [CompetitionStreams.add, if_pos hrun, CompetitionStreams.setStates]
    congr 1
    funext n
    split
    · rename_i hn
      rw [hn]
    · rfl
  have hgrow := CompetitionStreams.add_extends runId f (.payloadState sample)
  rw [hadd] at hio hold hgrow ⊢
  rw [if_neg (by rw [h.run]; exact not_not.mpr hrun)]
  generalize hl : f.states sample.arucoId ++ [sample] = l at hio hold hgrow ⊢
  have hself : (f.setStates sample.arucoId l).states sample.arucoId = l := if_pos rfl
  have hmem : sample ∈ l := hl ▸ List.mem_append_right _ (List.mem_singleton_self _)
  have hrise : Increasing PayloadStateSample.simTimestampNs l := hself ▸ hio.states _
  by_cases hmarker : sample.arucoId ∈ markers
  swap
  · -- an unknown marker is a fault, as it is no older than the start
    have hnew : c.beforeStart sample.simTimestampNs = false := by
      rw [beforeStart, h.start]
      cases hs : startOf f with
      | none => rfl
      | some s =>
        have hle := hold s hs _ hmarker sample (by rw [hself]; exact hmem)
        exact decide_eq_false (Nat.not_lt.mpr hle)
    rw [hnew, if_neg Bool.false_ne_true, if_pos (by simpa using hmarker)]
    have hsome : (f.setStates sample.arucoId l).states sample.arucoId ≠ [] := fun hnil => by
      rw [← hself, hnil] at hmem
      cases hmem
    refine { h with states := fun m hm => ?_, diagnostic := ?_, named := fun r hr => ?_ }
    · have hne : m ≠ sample.arucoId := fun heq => hmarker (heq ▸ hm)
      have hkept := h.states m hm
      rwa [← CompetitionStreams.setStates_other hne l] at hkept
    · exact iff_of_false (fail_diagnostic _ _) fun g => hsome (g.known _ hmarker)
    · obtain hr | rfl := fail_named hr
      · exact (h.named r hr).grow hgrow
      · exact .unknown hmarker hsome
  have hfault := faultless_states (i := rules.sampleIntervalNs) (f := f) hmarker
    (f.states sample.arucoId)
  rw [CompetitionStreams.setStates_self] at hfault
  have hother : ∀ m ∈ markers, m ≠ sample.arucoId → KeptStream PayloadStateSample.simTimestampNs
      (startOf f) ((f.setStates sample.arucoId l).states m) (c.payloadStates m) := by
    intro m hm hne
    rw [CompetitionStreams.setStates_other hne]
    exact h.states m hm
  have hadded := faultless_states (i := rules.sampleIntervalNs) (f := f) hmarker l
  rw [← hl] at hadded
  split
  · -- older than the start: the stream alone grows
    rename_i hearly
    obtain ⟨s, hs, hlt⟩ := h.early hearly
    refine { h with
      states := fun m hm => ?_
      diagnostic := h.diagnostic.trans ?_
      named := fun r hr => (h.named r hr).grow hgrow }
    · by_cases hne : m = sample.arucoId
      · rw [hne, hself, ← hl]
        exact (h.states _ hmarker).old hs hlt
      · exact hother m hm hne
    · rw [hfault, ← hl, hadded, gapless_old hs hlt]
  · rename_i hlate
    rw [if_neg (by simpa using hmarker)]
    dsimp only
    have hkept := h.states _ hmarker
    rw [← hl] at hrise
    -- the stream rises, so it cannot be a step back
    rw [hkept.before hrise, if_neg Bool.false_ne_true]
    obtain ⟨o, heq, ho, hnamed⟩ := latestTimestampGap_stream
      (c := { c with payloadStates := fun m => if m = sample.arucoId then
        c.payloadStates sample.arucoId ++ [sample] else c.payloadStates m }) hkept hrise h.start
      h.policy hlate (h.diagnostic.trans hfault) (payloadGapName sample.arucoId)
    rw [heq]
    refine { h with
      states := fun m hm => ?_
      unknown := fun m hm => ?_
      diagnostic := hl ▸ ho.trans hadded.symm
      named := fun r hr => ?_ }
    · change KeptStream _ (startOf f) _ (if _ then _ else _)
      by_cases hne : m = sample.arucoId
      · rw [if_pos hne, hne, hself, ← hl]
        exact hkept.keep sample
      · rw [if_neg hne]
        exact hother m hm hne
    · have hne : m ≠ sample.arucoId := fun heq => hm (heq ▸ hmarker)
      dsimp only
      rw [if_neg hne]
      exact h.unknown m hm
    · obtain hr | ⟨rfl, s, hs, hgap⟩ := hnamed r hr
      · exact (h.named r hr).grow hgrow
      · rw [hl, ← hself] at hgap
        exact .states hmarker hs hgap

/-- What `accept_payload_event` does with an event of the run. -/
theorem acceptPayloadEvent_eq {sample : CodedPayloadEvent} (hrun : sample.runId = c.runId) :
    if payloadFits c.payloadEvents.getLast? sample then
      c.acceptPayloadEvent sample = { c with payloadEvents := c.payloadEvents ++ [sample] }
    else ∃ reason ∈ payloadReasons, c.acceptPayloadEvent sample = c.fail reason := by
  unfold acceptPayloadEvent payloadFits
  rw [if_neg (not_not.mpr hrun)]
  by_cases hm : markers.contains sample.arucoId
  swap
  · simp only [hm, Bool.not_false, if_true, Bool.false_and, Bool.false_eq_true, if_false]
    exact ⟨_, by decide, rfl⟩
  simp only [hm, Bool.not_true, Bool.false_eq_true, if_false, Bool.true_and]
  cases c.payloadEvents.getLast? with
  | none =>
    by_cases h0 : sample.eventId = 0
    · simp [h0]
    · simp only [ne_eq, h0, not_false_eq_true, if_true, decide_false, Bool.false_eq_true, if_false]
      exact ⟨_, by decide, rfl⟩
  | some p =>
    by_cases hid : sample.eventId = p.eventId + 1
    swap
    · simp only [ne_eq, hid, not_false_eq_true, if_true, decide_false, Bool.false_and,
        Bool.false_eq_true, if_false]
      exact ⟨_, by decide, rfl⟩
    by_cases ht : sample.simTimestampNs < p.simTimestampNs
    · simp only [ne_eq, hid, not_true_eq_false, if_false, ht, if_true, decide_true, Bool.true_and,
        decide_eq_true_eq, if_neg (Nat.not_le.mpr ht)]
      exact ⟨_, by decide, rfl⟩
    · simp [hid, ht, Nat.not_lt.mp ht]

/-- A payload event. -/
theorem Ran.payloadEvent (h : Ran runId rules f c) (sample : CodedPayloadEvent) :
    Ran runId rules (f.add runId (.payloadEvent sample)) (c.acceptPayloadEvent sample) := by
  by_cases hrun : sample.runId = runId
  swap
  · rw [acceptPayloadEvent, if_pos (by rw [h.run]; exact hrun), CompetitionStreams.add, if_neg hrun]
    exact h
  have hadd : f.add runId (.payloadEvent sample) =
      { f with payloadEvents := f.payloadEvents ++ [sample] } := if_pos hrun
  have hgrow := CompetitionStreams.add_extends runId f (.payloadEvent sample)
  rw [hadd] at hgrow ⊢
  have heq := acceptPayloadEvent_eq (hrun.trans h.run.symm)
  have hsnoc := sift_snoc payloadFits f.payloadEvents sample
  rw [h.payload] at heq
  split at heq
  · rename_i hfits
    rw [if_pos hfits] at hsnoc
    rw [heq]
    refine { h with
      payload := by rw [hsnoc]
      diagnostic := h.diagnostic.trans ?_
      named := fun r hr => (h.named r hr).grow hgrow }
    constructor
    · rintro ⟨h1, h2, h3, h4, h5⟩
      exact ⟨h1, by rw [hsnoc]; exact h2, h3, h4, h5⟩
    · rintro ⟨h1, h2, h3, h4, h5⟩
      rw [hsnoc] at h2
      exact ⟨h1, h2, h3, h4, h5⟩
  · rename_i hfits
    rw [if_neg hfits] at hsnoc
    obtain ⟨reason, hreason, heq⟩ := heq
    rw [heq]
    refine { h with
      payload := by rw [hsnoc]; exact h.payload
      diagnostic := ?_
      named := fun r hr => ?_ }
    · refine iff_of_false (fail_diagnostic _ _) fun g => ?_
      have hall := g.payload
      rw [hsnoc] at hall
      cases hall
    · obtain hr | rfl := fail_named hr
      · exact (h.named r hr).grow hgrow
      · exact .payload hreason (by rw [hsnoc])

/-- What `accept_mission_event` does with an event of the run. -/
theorem acceptMissionEvent_eq {sample : MissionEventSample} (hrun : sample.runId = c.runId) :
    if missionFits c.missionEvents.getLast? sample then
      c.acceptMissionEvent sample =
        { c with missionEvents := c.missionEvents ++ [sample] }.noteStart sample
    else ∃ reason ∈ missionReasons, c.acceptMissionEvent sample = c.fail reason := by
  unfold acceptMissionEvent missionFits
  rw [if_neg (not_not.mpr hrun)]
  cases c.missionEvents.getLast? with
  | none =>
    by_cases h0 : sample.eventId = 0
    · simp [h0]
    · simp only [ne_eq, h0, not_false_eq_true, if_true, decide_false, Bool.false_eq_true, if_false]
      exact ⟨_, by decide, rfl⟩
  | some p =>
    by_cases hid : sample.eventId = p.eventId + 1
    swap
    · simp only [ne_eq, hid, not_false_eq_true, if_true, decide_false, Bool.false_and,
        Bool.false_eq_true, if_false]
      exact ⟨_, by decide, rfl⟩
    by_cases ht : sample.simTimestampNs < p.simTimestampNs
    · simp only [ne_eq, hid, not_true_eq_false, if_false, ht, if_true, decide_true, Bool.true_and,
        decide_eq_true_eq, if_neg (Nat.not_le.mpr ht)]
      exact ⟨_, by decide, rfl⟩
    · simp [hid, ht, Nat.not_lt.mp ht]

/-- The gaps noted when the start comes are those of the streams so far. -/
theorem gaps_eq (c : CompetitionScorer) :
    ∃ o, markers.foldl payloadGap c.groundTruthGap = { c with diagnostic := o } ∧
      (o = none ↔ c.diagnostic = none ∧
        Gapless c.startSimTimeNs c.rules.sampleIntervalNs
          (c.groundTruth.map fun s => s.simTimestampNs) ∧
        ∀ m ∈ markers, Gapless c.startSimTimeNs c.rules.sampleIntervalNs
          ((c.payloadStates m).map fun s => s.simTimestampNs)) ∧
      ∀ r, o = some r → c.diagnostic = some r ∨
        (r = "ground_truth_timestamp_gap" ∧ ∃ s, c.startSimTimeNs = some s ∧
          streamGaps s c.rules.sampleIntervalNs
            (c.groundTruth.map fun s => s.simTimestampNs) = true) ∨
        ∃ m ∈ markers, r = payloadGapName m ∧ ∃ s, c.startSimTimeNs = some s ∧
          streamGaps s c.rules.sampleIntervalNs
            ((c.payloadStates m).map fun s => s.simTimestampNs) = true := by
  have hfold : ∀ (ms : List ℕ) (d : CompetitionScorer),
      ∃ o, ms.foldl payloadGap d = { d with diagnostic := o } ∧
        (o = none ↔ d.diagnostic = none ∧
          ∀ m ∈ ms, Gapless d.startSimTimeNs d.rules.sampleIntervalNs
            ((d.payloadStates m).map fun s => s.simTimestampNs)) ∧
        ∀ r, o = some r → d.diagnostic = some r ∨
          ∃ m ∈ ms, r = payloadGapName m ∧ ∃ s, d.startSimTimeNs = some s ∧
            streamGaps s d.rules.sampleIntervalNs
              ((d.payloadStates m).map fun s => s.simTimestampNs) = true := by
    intro ms
    induction ms with
    | nil => exact fun d => ⟨d.diagnostic, rfl, ⟨fun h => ⟨h, nofun⟩, And.left⟩, fun _ => .inl⟩
    | cons m ms ih =>
      intro d
      obtain ⟨o, heq, ho, hnamed⟩ := streamGap_eq d
        ((d.payloadStates m).map fun s => s.simTimestampNs) (payloadGapName m)
      obtain ⟨o', heq', ho', hnamed'⟩ := ih { d with diagnostic := o }
      refine ⟨o', ?_, ho'.trans ?_, fun r hr => ?_⟩
      · rw [List.foldl_cons, payloadGap, heq]
        exact heq'
      · rw [ho, List.forall_mem_cons, and_assoc]
      · obtain hr | ⟨m', hm', hr⟩ := hnamed' r hr
        · refine (hnamed r hr).imp_right fun hr => ⟨m, List.mem_cons_self, hr⟩
        · exact .inr ⟨m', List.mem_cons_of_mem _ hm', hr⟩
  obtain ⟨o, heq, ho, hnamed⟩ := streamGap_eq c (c.groundTruth.map fun s => s.simTimestampNs)
    "ground_truth_timestamp_gap"
  obtain ⟨o', heq', ho', hnamed'⟩ := hfold markers { c with diagnostic := o }
  refine ⟨o', ?_, ho'.trans ?_, fun r hr => ?_⟩
  · rw [groundTruthGap, heq]
    exact heq'
  · rw [ho, and_assoc]
  · obtain hr | hr := hnamed' r hr
    · exact (hnamed r hr).imp_right .inl
    · exact .inr (.inr hr)

/-- The start, once an event is kept. -/
theorem startOf_keep {e : MissionEventSample}
    (he : missionFits (sift missionFits f.missionEvents).1.getLast? e = true) :
    startOf { f with missionEvents := f.missionEvents ++ [e] } =
      (startOf f).or (if e.place = ("FM1", "STARTED") then some e.simTimestampNs else none) := by
  rw [startOf, startOf, sift_snoc, if_pos he, List.find?_append, Option.map_or]
  congr 1
  by_cases hplace : e.place = ("FM1", "STARTED")
  · rw [if_pos hplace, List.find?_cons_of_pos (by simpa using hplace)]
    rfl
  · rw [if_neg hplace, List.find?_cons_of_neg (by simpa using hplace)]
    rfl

/-- A mission event. -/
theorem Ran.missionEvent (h : Ran runId rules f c) (sample : MissionEventSample) :
    Ran runId rules (f.add runId (.missionEvent sample)) (c.acceptMissionEvent sample) := by
  by_cases hrun : sample.runId = runId
  swap
  · rw [acceptMissionEvent, if_pos (by rw [h.run]; exact hrun), CompetitionStreams.add, if_neg hrun]
    exact h
  have hadd : f.add runId (.missionEvent sample) =
      { f with missionEvents := f.missionEvents ++ [sample] } := if_pos hrun
  have hgrow := CompetitionStreams.add_extends runId f (.missionEvent sample)
  rw [hadd] at hgrow ⊢
  have heq := acceptMissionEvent_eq (hrun.trans h.run.symm)
  have hsnoc := sift_snoc missionFits f.missionEvents sample
  rw [h.mission] at heq
  split at heq
  swap
  · rename_i hfits
    rw [if_neg hfits] at hsnoc
    have hstart : startOf { f with missionEvents := f.missionEvents ++ [sample] } = startOf f := by
      rw [startOf, startOf, hsnoc]
    obtain ⟨reason, hreason, heq⟩ := heq
    rw [heq]
    refine ⟨h.run, h.policy, by rw [hsnoc]; exact h.mission, h.payload, by rw [hstart]; exact h.start,
      by rw [hstart]; exact h.truths, by rw [hstart]; exact h.states, h.unknown, ?_, fun r hr => ?_⟩
    · refine iff_of_false (fail_diagnostic _ _) fun g => ?_
      have hall := g.mission
      rw [hsnoc] at hall
      cases hall
    · obtain hr | rfl := fail_named hr
      · exact (h.named r hr).grow hgrow
      · exact .mission hreason (by rw [hsnoc])
  rename_i hfits
  have hstart := startOf_keep hfits
  rw [if_pos hfits] at hsnoc
  rw [heq, noteStart]
  by_cases hbegin : startOf f = none ∧ sample.place = ("FM1", "STARTED")
  · -- the start comes: until now everything was kept
    obtain ⟨hnone, hplace⟩ := hbegin
    rw [hnone, if_pos hplace, Option.none_or] at hstart
    rw [h.start, hnone, decide_eq_true hplace, Option.isNone_none, Bool.and_true, if_pos rfl]
    obtain ⟨o, hgaps, ho, hnamed⟩ := gaps_eq { c with
      missionEvents := (sift missionFits f.missionEvents).1 ++ [sample],
      startSimTimeNs := some sample.simTimestampNs }
    rw [hgaps]
    have htruths := h.truths
    have hstates := h.states
    rw [hnone] at htruths hstates
    have hkept : ∀ m ∈ markers, c.payloadStates m = f.states m :=
      fun m hm => (hstates m hm).all rfl
    refine ⟨h.run, h.policy, by rw [hsnoc], h.payload, by rw [hstart], ?_, fun m hm => ?_, h.unknown,
      ?_, fun r hr => ?_⟩
    · rw [hstart]
      exact htruths.begin _
    · rw [hstart]
      exact (hstates m hm).begin _
    · rw [ho, h.diagnostic, htruths.all rfl, h.policy, ← hstart]
      constructor
      · rintro ⟨⟨h1, h2, h3, h4, h5⟩, ht, hs⟩
        refine ⟨by rw [hsnoc]; exact h1, h2, h3, ht, fun m hm => ?_⟩
        have hgap := hs m hm
        rwa [hkept m hm] at hgap
      · rintro ⟨h1, h2, h3, h4, h5⟩
        rw [hsnoc] at h1
        refine ⟨⟨h1, h2, h3, by rw [hnone]; exact nofun, fun m hm => by rw [hnone]; exact nofun⟩,
          h4, fun m hm => ?_⟩
        rw [hkept m hm]
        exact h5 m hm
    · obtain hr | ⟨rfl, s, hs, hgap⟩ | ⟨m, hm, rfl, s, hs, hgap⟩ := hnamed r hr
      · exact (h.named r hr).grow hgrow
      · refine .truths (hstart.trans hs) ?_
        rwa [h.policy, htruths.all rfl] at hgap
      · refine .states hm (hstart.trans hs) ?_
        rwa [h.policy, hkept m hm] at hgap
  · -- the start is what it was
    have hsame : startOf { f with missionEvents := f.missionEvents ++ [sample] } = startOf f := by
      rw [hstart]
      by_cases hplace : sample.place = ("FM1", "STARTED")
      · obtain ⟨s, hs⟩ := Option.ne_none_iff_exists'.mp fun hnone => hbegin ⟨hnone, hplace⟩
        rw [hs, Option.some_or]
      · rw [if_neg hplace, Option.or_none]
    have hcond : ¬ ((c.startSimTimeNs.isNone && decide (sample.place = ("FM1", "STARTED"))) =
        true) := by
      rw [h.start, Bool.and_eq_true, Option.isNone_iff_eq_none, decide_eq_true_eq]
      exact hbegin
    rw [if_neg hcond]
    refine ⟨h.run, h.policy, by rw [hsnoc], h.payload, by rw [hsame]; exact h.start,
      by rw [hsame]; exact h.truths, by rw [hsame]; exact h.states, h.unknown,
      h.diagnostic.trans ?_, fun r hr => (h.named r hr).grow hgrow⟩
    constructor
    · rintro ⟨h1, h2, h3, h4, h5⟩
      exact ⟨by rw [hsnoc]; exact h1, h2, h3, by rw [hsame]; exact h4, by rw [hsame]; exact h5⟩
    · rintro ⟨h1, h2, h3, h4, h5⟩
      rw [hsnoc] at h1
      rw [hsame] at h4 h5
      exact ⟨h1, h2, h3, h4, h5⟩

/-- One sample. -/
theorem Ran.step (h : Ran runId rules f c) (i : CompetitionInput)
    (hio : (f.add runId i).InOrder) (hold : NoOldUnknown (f.add runId i)) :
    Ran runId rules (f.add runId i) (c.accept i) := by
  cases i with
  | groundTruth sample => exact h.truth sample hio
  | payloadState sample => exact h.payloadState sample hio hold
  | payloadEvent sample => exact h.payloadEvent sample
  | missionEvent sample => exact h.missionEvent sample

end CompetitionScorer

/-! ## 8. Runs -/

/-- **What the scorer holds after a run.** -/
theorem CompetitionScorer.ran_run (runId : String) (rules : CompetitionRules)
    (is : List CompetitionInput) (hio : (streamsOf runId is).InOrder)
    (hold : NoOldUnknown (streamsOf runId is)) :
    Ran runId rules (streamsOf runId is) ((initial runId rules).acceptAll is) := by
  induction is using List.reverseRecOn with
  | nil => exact .initial runId rules
  | append_singleton is i ih =>
    have hsnoc : streamsOf runId (is ++ [i]) = (streamsOf runId is).add runId i := by
      rw [streamsOf, streamsOf, List.foldl_append]
      rfl
    have hall : (initial runId rules).acceptAll (is ++ [i]) =
        ((initial runId rules).acceptAll is).accept i := by
      rw [acceptAll, acceptAll, List.foldl_append]
      rfl
    rw [hsnoc] at hio hold ⊢
    rw [hall]
    have hbefore := CompetitionStreams.add_extends runId (streamsOf runId is) i
    exact (ih (hio.before hbefore) (hold.before hbefore)).step i hio hold

end DroneSim
