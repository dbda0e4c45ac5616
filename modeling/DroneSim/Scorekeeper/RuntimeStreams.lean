/-
  File:      DroneSim/Scorekeeper/RuntimeStreams.lean
  Subject:   What the buffers of the runtime hold, read off the streams.

  The callbacks of a run carry five streams: truth, status, and one payload stream for each
  marker. At any point of a run the truth stream is split into the epochs joined so far and the
  rest; the buffers hold the rest of every stream and nothing of a joined epoch (`Buffered`).
  Hence an epoch is handed to the judge with exactly what the streams hold at its timestamp,
  whatever order the callbacks came in and whatever checks were pending.

  * `Buffered.receive` -- receiving keeps the buffers right;
  * `Buffered.next` -- the next epoch is that of the first truth that is left, and has arrived;
  * `Buffered.join` -- a joined epoch hands over what the streams hold at its stamp;
  * `Buffered.accept` -- a whole callback keeps the buffers right.
-/
import DroneSim.Scorekeeper.RuntimeChecks
import DroneSim.Library.Streams

namespace DroneSim

open Library
open VfsJudge (Call Accepts)

namespace VfsScorekeeperRuntime

variable {c : RuntimeSetup} {s s' : VfsScorekeeperRuntime} {is js : List Input}

/-! ## 1. The streams of a run -/

def truths (is : List Input) : List GroundTruthSample :=
  is.filterMap fun i => match i with
    | .groundTruth sample => some sample
    | _ => none

def statuses (is : List Input) : List VehicleStatusSample :=
  is.filterMap fun i => match i with
    | .vehicleStatus sample => some sample
    | _ => none

def payloadStates (marker : ℕ) (is : List Input) : List PayloadStateSample :=
  is.filterMap fun i => match i with
    | .payloadState sample => if sample.arucoId = marker then some sample else none
    | _ => none

/-- The grid that the first status fixes. -/
def gridOffset (is : List Input) : Option ℕ :=
  (statuses is).head?.map fun status => status.simTimestampNs % statusPeriodNs

/-- The status of stamp `t`. -/
def streamStatus (is : List Input) (t : ℕ) : Option VehicleStatusSample :=
  stamped VehicleStatusSample.simTimestampNs (statuses is) t

/-- The payload sample of a marker and stamp `t`. -/
def streamPayload (is : List Input) (marker t : ℕ) : Option PayloadStateSample :=
  stamped PayloadStateSample.simTimestampNs (payloadStates marker is) t

/-- The payload samples of stamp `t`, by marker. -/
def streamPayloads (is : List Input) (t : ℕ) : List PayloadStateSample :=
  payloadMarkers.filterMap fun marker => streamPayload is marker t

/-- Payloads and, where `t` lies on the status grid, status of stamp `t` have arrived. -/
def arrived (offset : ℕ) (is : List Input) (t : ℕ) : Bool :=
  (payloadMarkers.all fun marker => (streamPayload is marker t).isSome) &&
    (t % statusPeriodNs != offset || (streamStatus is t).isSome)

/-- The stamp of a sample. -/
def Input.stamp : Input → ℕ
  | .groundTruth sample => sample.simTimestampNs
  | .vehicleStatus sample => sample.simTimestampNs
  | .payloadState sample => sample.simTimestampNs
  | _ => 0

/-- The greatest stamp. -/
def observed (is : List Input) : ℕ := is.foldl (fun t i => max t i.stamp) 0

theorem observed_snoc (i : Input) : observed (is ++ [i]) = max (observed is) i.stamp :=
  List.foldl_concat ..

/-- **What the sources promise**: no payload but the three of the course, and every status on the
    grid of the first. -/
structure Streams (is : List Input) : Prop where
  markers : ∀ sample, Input.payloadState sample ∈ is → sample.arucoId ∈ payloadMarkers
  grid : ∀ offset, gridOffset is = some offset →
    ∀ status ∈ statuses is, status.simTimestampNs % statusPeriodNs = offset

@[simp] theorem truths_append : truths (is ++ js) = truths is ++ truths js :=
  List.filterMap_append

@[simp] theorem statuses_append : statuses (is ++ js) = statuses is ++ statuses js :=
  List.filterMap_append

@[simp] theorem payloadStates_append (marker : ℕ) :
    payloadStates marker (is ++ js) = payloadStates marker is ++ payloadStates marker js :=
  List.filterMap_append

theorem mem_payloadStates {marker : ℕ} {sample : PayloadStateSample} :
    sample ∈ payloadStates marker is ↔
      Input.payloadState sample ∈ is ∧ sample.arucoId = marker := by
  simp only [payloadStates, List.mem_filterMap]
  constructor
  · rintro ⟨i, hi, e⟩
    cases i with
    | payloadState x =>
      have e : (if x.arucoId = marker then some x else none) = some sample := e
      by_cases hx : x.arucoId = marker
      · rw [if_pos hx] at e
        cases e
        exact ⟨hi, hx⟩
      · rw [if_neg hx] at e
        cases e
    | _ => cases e
  · rintro ⟨hi, e⟩
    exact ⟨_, hi, if_pos e⟩

/-- The grid stays once it is fixed. -/
theorem gridOffset_append {offset : ℕ} (h : gridOffset is = some offset) :
    gridOffset (is ++ js) = some offset := by
  obtain ⟨status, hhead, e⟩ := Option.map_eq_some_iff.mp h
  unfold gridOffset
  rw [statuses_append, List.head?_append, hhead]
  exact congrArg some e

theorem Streams.prefix (h : Streams (is ++ js)) : Streams is where
  markers sample hs := h.markers sample (List.mem_append_left _ hs)
  grid offset ho status hs := by
    refine h.grid offset (gridOffset_append ho) status ?_
    rw [statuses_append]
    exact List.mem_append_left _ hs

theorem streamPayload_append {marker t : ℕ} {sample : PayloadStateSample}
    (h : streamPayload is marker t = some sample) : streamPayload (is ++ js) marker t = some sample := by
  unfold streamPayload
  rw [payloadStates_append]
  exact stamped_of_some h

theorem streamStatus_append {t : ℕ} {status : VehicleStatusSample} (h : streamStatus is t = some status) :
    streamStatus (is ++ js) t = some status := by
  unfold streamStatus
  rw [statuses_append]
  exact stamped_of_some h

/-- What has arrived stays. -/
theorem arrived_append {offset t : ℕ} (h : arrived offset is t = true) :
    arrived offset (is ++ js) t = true := by
  simp only [arrived, Bool.and_eq_true, List.all_eq_true, Bool.or_eq_true,
    Option.isSome_iff_exists] at h ⊢
  refine ⟨fun marker hm => ?_, h.2.imp id ?_⟩
  · obtain ⟨sample, hs⟩ := h.1 marker hm
    exact ⟨sample, streamPayload_append hs⟩
  · rintro ⟨status, hs⟩
    exact ⟨status, streamStatus_append hs⟩

theorem payload_of_arrived {offset t marker : ℕ} (h : arrived offset is t = true)
    (hm : marker ∈ payloadMarkers) : ∃ sample, streamPayload is marker t = some sample := by
  simp only [arrived, Bool.and_eq_true, List.all_eq_true, Option.isSome_iff_exists] at h
  exact h.1 marker hm

/-- A status at an arrived stamp of the grid has arrived. -/
theorem status_of_arrived {offset t : ℕ} (h : arrived offset is t = true)
    (ht : t % statusPeriodNs = offset) : ∃ status, streamStatus is t = some status := by
  simp only [arrived, Bool.and_eq_true, Bool.or_eq_true, bne_iff_ne, ne_eq,
    Option.isSome_iff_exists] at h
  exact h.2.resolve_left fun hne => hne ht

/-- The payload samples of an arrived stamp stay. -/
theorem streamPayloads_append {offset t : ℕ} (h : arrived offset is t = true) :
    streamPayloads (is ++ js) t = streamPayloads is t := by
  refine List.filterMap_congr fun marker hm => ?_
  obtain ⟨sample, hs⟩ := payload_of_arrived h hm
  rw [hs, streamPayload_append hs]

/-- The status of an arrived stamp stays, also its absence off the grid. -/
theorem streamStatus_of_arrived {offset t : ℕ} (hs : Streams (is ++ js))
    (hg : gridOffset is = some offset) (h : arrived offset is t = true) :
    streamStatus (is ++ js) t = streamStatus is t := by
  cases ha : streamStatus is t with
  | some status => exact streamStatus_append ha
  | none =>
    refine stamped_eq_none.mpr fun status hmem e => ?_
    have hgrid := hs.grid offset (gridOffset_append hg) status hmem
    rw [e] at hgrid
    obtain ⟨status', hsome⟩ := status_of_arrived h hgrid
    rw [ha] at hsome
    cases hsome

/-! ## 2. The buffers -/

/-- **What the runtime holds after the callbacks `is`**, with the epochs of the truths `joined`
    handed to the judge and those of the truths `rest` not. -/
structure Buffered (is : List Input) (joined rest : List GroundTruthSample)
    (s : VfsScorekeeperRuntime) : Prop where
  split : truths is = joined ++ rest
  truthRising : Increasing GroundTruthSample.simTimestampNs (truths is)
  statusRising : Increasing VehicleStatusSample.simTimestampNs (statuses is)
  payloadRising : ∀ marker, Increasing PayloadStateSample.simTimestampNs (payloadStates marker is)
  truthReceived : s.latestGroundTruthReceivedNs =
    received GroundTruthSample.simTimestampNs (truths is)
  statusReceived : s.latestVehicleStatusReceivedNs =
    received VehicleStatusSample.simTimestampNs (statuses is)
  payloadReceived : ∀ marker, s.latestPayloadReceivedNs.get marker =
    received PayloadStateSample.simTimestampNs (payloadStates marker is)
  truth : ∀ t, s.groundTruthBuffer.get t = stamped GroundTruthSample.simTimestampNs rest t
  status : ∀ t, s.vehicleStatusBuffer.get t =
    if t ∈ joined.map GroundTruthSample.simTimestampNs then none else streamStatus is t
  payload : ∀ t marker, (s.payloadBuffer.get t).bind (Dict.get · marker) =
    if t ∈ joined.map GroundTruthSample.simTimestampNs then none else streamPayload is marker t
  grid : s.statusGridOffsetNs = gridOffset is
  complete : ∀ x ∈ joined, ∃ offset, gridOffset is = some offset ∧
    arrived offset is x.simTimestampNs = true
  last : s.lastEpochTimestampNs = received GroundTruthSample.simTimestampNs joined
  observed : s.latestObservedTimestampNs = observed is

theorem buffered_init (scorer : Option VfsScorer) : Buffered [] [] [] (init scorer) where
  split := rfl
  truthRising := List.Pairwise.nil
  statusRising := List.Pairwise.nil
  payloadRising _ := List.Pairwise.nil
  truthReceived := rfl
  statusReceived := rfl
  payloadReceived _ := rfl
  truth _ := rfl
  status _ := rfl
  payload _ _ := rfl
  grid := rfl
  complete _ hx := absurd hx List.not_mem_nil
  last := rfl
  observed := rfl

section Receive

variable {joined rest : List GroundTruthSample}

theorem Buffered.complete_append (h : Buffered is joined rest s) (js : List Input) :
    ∀ x ∈ joined, ∃ offset, gridOffset (is ++ js) = some offset ∧
      arrived offset (is ++ js) x.simTimestampNs = true := by
  intro x hx
  obtain ⟨offset, ho, ha⟩ := h.complete x hx
  exact ⟨offset, gridOffset_append ho, arrived_append ha⟩

/-- What is not a stream or a buffer does not matter. -/
theorem Buffered.frame (h : Buffered is joined rest s) (judge : VfsJudge)
    (scorer : Option VfsScorer) (pendingChecks : List MissionEventSample) (log : List Effect) :
    Buffered is joined rest { s with
      judge := judge
      scorer := scorer
      pendingChecks := pendingChecks
      log := log } :=
  ⟨h.split, h.truthRising, h.statusRising, h.payloadRising, h.truthReceived, h.statusReceived,
    h.payloadReceived, h.truth, h.status, h.payload, h.grid, h.complete, h.last,
    h.observed⟩

/-- A callback without a sample extends no stream. -/
theorem Buffered.of_quiet (h : Buffered is joined rest s) {i : Input}
    (ht : truths [i] = []) (hst : statuses [i] = []) (hp : ∀ m, payloadStates m [i] = [])
    (hi : i.stamp = 0) : Buffered (is ++ [i]) joined rest s := by
  have ht : truths (is ++ [i]) = truths is := by simp [ht]
  have hst : statuses (is ++ [i]) = statuses is := by simp [hst]
  have hp : ∀ m, payloadStates m (is ++ [i]) = payloadStates m is := by simp [hp]
  exact { h with
    split := by rw [ht, h.split]
    truthRising := by rw [ht]; exact h.truthRising
    statusRising := by rw [hst]; exact h.statusRising
    payloadRising := fun m => by rw [hp]; exact h.payloadRising m
    truthReceived := by rw [ht]; exact h.truthReceived
    statusReceived := by rw [hst]; exact h.statusReceived
    payloadReceived := fun m => by rw [hp]; exact h.payloadReceived m
    status := fun t => by unfold streamStatus; rw [hst]; exact h.status t
    payload := fun t m => by unfold streamPayload; rw [hp]; exact h.payload t m
    grid := by unfold gridOffset; rw [hst]; exact h.grid
    complete := h.complete_append _
    observed := by rw [observed_snoc, hi, Nat.max_zero, h.observed] }

/-- A received truth goes to the rest. -/
theorem Buffered.groundTruth (h : Buffered is joined rest s) {sample : GroundTruthSample}
    (hi : s.Receivable (.groundTruth sample)) :
    Buffered (is ++ [Input.groundTruth sample]) joined (rest ++ [sample])
      (s.bufferGroundTruth sample) := by
  have hst : statuses (is ++ [Input.groundTruth sample]) = statuses is := by simp [statuses]
  have hp : ∀ m, payloadStates m (is ++ [Input.groundTruth sample]) = payloadStates m is := by
    simp [payloadStates]
  have ht : truths (is ++ [Input.groundTruth sample]) = truths is ++ [sample] := by
    simp [truths]
  have hlt : ∀ a ∈ truths is, a.simTimestampNs < sample.simTimestampNs := by
    refine h.truthRising.lt_of_received fun t hr => hi t ?_
    rw [h.truthReceived, hr]
  have hrest : ∀ a ∈ rest, a.simTimestampNs < sample.simTimestampNs := by
    intro a ha
    exact hlt a (by rw [h.split]; exact List.mem_append_right _ ha)
  refine { h with
    split := by rw [ht, h.split, List.append_assoc]
    truthRising := by rw [ht]; exact h.truthRising.snoc hlt
    statusRising := by rw [hst]; exact h.statusRising
    payloadRising := fun m => by rw [hp]; exact h.payloadRising m
    truthReceived := by rw [ht, received_snoc]; rfl
    statusReceived := by rw [hst]; exact h.statusReceived
    payloadReceived := fun m => by rw [hp]; exact h.payloadReceived m
    truth := fun t => ?_
    status := fun t => by unfold streamStatus; rw [hst]; exact h.status t
    payload := fun t m => by unfold streamPayload; rw [hp]; exact h.payload t m
    grid := by unfold gridOffset; rw [hst]; exact h.grid
    complete := h.complete_append _
    observed := by rw [observed_snoc, ← h.observed]; rfl }
  rw [stamped_snoc hrest, ← h.truth]
  exact Dict.get_set _ _ _ _

/-- A received status goes to its buffer: its epoch was not joined. -/
theorem Buffered.vehicleStatus (h : Buffered is joined rest s) {sample : VehicleStatusSample}
    (hs : Streams (is ++ [Input.vehicleStatus sample])) (hi : s.Receivable (.vehicleStatus sample)) :
    Buffered (is ++ [Input.vehicleStatus sample]) joined rest (s.bufferVehicleStatus sample) := by
  have ht : truths (is ++ [Input.vehicleStatus sample]) = truths is := by simp [truths]
  have hp : ∀ m, payloadStates m (is ++ [Input.vehicleStatus sample]) = payloadStates m is := by
    simp [payloadStates]
  have hst : statuses (is ++ [Input.vehicleStatus sample]) = statuses is ++ [sample] := by
    simp [statuses]
  have hlt : ∀ a ∈ statuses is, a.simTimestampNs < sample.simTimestampNs := by
    refine h.statusRising.lt_of_received fun t hr => hi t ?_
    rw [h.statusReceived, hr]
  have hnew : sample.simTimestampNs ∉ joined.map GroundTruthSample.simTimestampNs := by
    intro hmem
    obtain ⟨x, hx, e⟩ := List.mem_map.mp hmem
    obtain ⟨offset, ho, ha⟩ := h.complete x hx
    have hgrid := hs.grid offset (gridOffset_append ho) sample (by rw [hst]; simp)
    rw [e] at ha
    obtain ⟨status, hstatus⟩ := status_of_arrived ha hgrid
    have hsp := stamped_spec hstatus
    have := hlt status hsp.1
    omega
  refine { h with
    split := by rw [ht, h.split]
    truthRising := by rw [ht]; exact h.truthRising
    statusRising := by rw [hst]; exact h.statusRising.snoc hlt
    payloadRising := fun m => by rw [hp]; exact h.payloadRising m
    truthReceived := by rw [ht]; exact h.truthReceived
    statusReceived := by rw [hst, received_snoc]; rfl
    payloadReceived := fun m => by rw [hp]; exact h.payloadReceived m
    truth := h.truth
    status := fun t => ?_
    payload := fun t m => by unfold streamPayload; rw [hp]; exact h.payload t m
    grid := ?_
    complete := h.complete_append _
    observed := by rw [observed_snoc, ← h.observed]; rfl }
  · unfold streamStatus
    rw [hst, stamped_snoc hlt]
    refine (Dict.get_set _ _ _ _).trans ?_
    by_cases he : t = sample.simTimestampNs
    · rw [if_pos he, if_pos he, if_neg (by rw [he]; exact hnew)]
    · rw [if_neg he, if_neg he]
      exact h.status t
  · have hgrid := h.grid
    unfold gridOffset at hgrid ⊢
    rw [hst]
    simp only [bufferVehicleStatus, observeTimestamp, hgrid]
    cases statuses is with
    | nil => rfl
    | cons status rest => rfl

/-- A received payload sample goes to its buffer: its epoch was not joined. -/
theorem Buffered.payloadState (h : Buffered is joined rest s) {sample : PayloadStateSample}
    (hs : Streams (is ++ [Input.payloadState sample])) (hi : s.Receivable (.payloadState sample)) :
    Buffered (is ++ [Input.payloadState sample]) joined rest (s.bufferPayloadState sample) := by
  have ht : truths (is ++ [Input.payloadState sample]) = truths is := by simp [truths]
  have hst : statuses (is ++ [Input.payloadState sample]) = statuses is := by simp [statuses]
  have hp : ∀ m, payloadStates m (is ++ [Input.payloadState sample]) =
      if m = sample.arucoId then payloadStates m is ++ [sample] else payloadStates m is := by
    intro m
    by_cases hm : m = sample.arucoId
    · simp [payloadStates, hm]
    · have hm' : ¬ sample.arucoId = m := fun e => hm e.symm
      simp [payloadStates, hm, hm']
  have hlt : ∀ a ∈ payloadStates sample.arucoId is,
      a.simTimestampNs < sample.simTimestampNs := by
    refine (h.payloadRising _).lt_of_received fun t hr => hi t ?_
    rw [h.payloadReceived, hr]
  have hmarker : sample.arucoId ∈ payloadMarkers := hs.markers sample (by simp)
  have hnew : sample.simTimestampNs ∉ joined.map GroundTruthSample.simTimestampNs := by
    intro hmem
    obtain ⟨x, hx, e⟩ := List.mem_map.mp hmem
    obtain ⟨offset, _, ha⟩ := h.complete x hx
    obtain ⟨old, hold⟩ := payload_of_arrived ha hmarker
    have hsp := stamped_spec hold
    have := hlt old hsp.1
    omega
  refine { h with
    split := by rw [ht, h.split]
    truthRising := by rw [ht]; exact h.truthRising
    statusRising := by rw [hst]; exact h.statusRising
    payloadRising := fun m => ?_
    truthReceived := by rw [ht]; exact h.truthReceived
    statusReceived := by rw [hst]; exact h.statusReceived
    payloadReceived := fun m => ?_
    truth := h.truth
    status := fun t => by unfold streamStatus; rw [hst]; exact h.status t
    payload := fun t m => ?_
    grid := by unfold gridOffset; rw [hst]; exact h.grid
    complete := h.complete_append _
    observed := by rw [observed_snoc, ← h.observed]; rfl }
  · rw [hp]
    by_cases hm : m = sample.arucoId
    · rw [if_pos hm, hm]
      exact (h.payloadRising _).snoc hlt
    · rw [if_neg hm]
      exact h.payloadRising m
  · rw [hp]
    refine (Dict.get_set _ _ _ _).trans ?_
    by_cases hm : m = sample.arucoId
    · rw [if_pos hm, if_pos hm, received_snoc]
    · rw [if_neg hm, if_neg hm]
      exact h.payloadReceived m
  · have hold := h.payload t m
    unfold streamPayload at hold ⊢
    rw [hp]
    have hget : (s.bufferPayloadState sample).payloadBuffer.get t = _ := Dict.get_set _ _ _ _
    rw [hget]
    by_cases he : t = sample.simTimestampNs
    · have hopen : t ∉ joined.map GroundTruthSample.simTimestampNs := by
        rw [he]
        exact hnew
      rw [if_pos he, Option.bind_some, Dict.get_set, if_neg hopen]
      rw [if_neg hopen] at hold
      by_cases hm : m = sample.arucoId
      · rw [if_pos hm, if_pos hm, stamped_snoc (by rw [hm]; exact hlt), if_pos he]
      · rw [if_neg hm, if_neg hm, ← hold, ← he]
        cases s.payloadBuffer.get t <;> rfl
    · rw [if_neg he, hold]
      by_cases hm : m = sample.arucoId
      · rw [if_pos hm, stamped_snoc (by rw [hm]; exact hlt), if_neg he]
      · rw [if_neg hm]

/-- **Receiving keeps the buffers right.** -/
theorem Buffered.receive (h : Buffered is joined rest s) {i : Input} (hs : Streams (is ++ [i]))
    (hi : s.Receivable i) : ∃ rest', Buffered (is ++ [i]) joined rest' (s.receive i) := by
  cases i with
  | groundTruth sample => exact ⟨_, h.groundTruth hi⟩
  | vehicleStatus sample => exact ⟨_, h.vehicleStatus hs hi⟩
  | payloadState sample => exact ⟨_, h.payloadState hs hi⟩
  | payloadEvent sample => exact ⟨rest, h.of_quiet rfl rfl (fun _ => rfl) rfl⟩
  | missionEvent event => exact ⟨rest, h.of_quiet rfl rfl (fun _ => rfl) rfl⟩
  | sourceFinished => exact ⟨rest, h.of_quiet rfl rfl (fun _ => rfl) rfl⟩

end Receive

/-! ## 3. Epochs -/

section Epochs

variable {joined rest : List GroundTruthSample} {t : ℕ}

/-- The epoch of a truth of the rest was not joined. -/
theorem Buffered.open (h : Buffered is joined rest s) {x : GroundTruthSample} (hx : x ∈ rest) :
    x.simTimestampNs ∉ joined.map GroundTruthSample.simTimestampNs := by
  intro hmem
  obtain ⟨y, hy, e⟩ := List.mem_map.mp hmem
  have hrising := h.truthRising
  rw [h.split] at hrising
  have := hrising.across hy hx
  omega

theorem Buffered.restRising (h : Buffered is joined rest s) :
    Increasing GroundTruthSample.simTimestampNs rest := by
  have hrising := h.truthRising
  rw [h.split] at hrising
  exact hrising.right

/-- The payloads buffered for an open stamp are those of the streams. -/
theorem Buffered.payloads (h : Buffered is joined rest s)
    (ht : t ∉ joined.map GroundTruthSample.simTimestampNs) (marker : ℕ) :
    ((s.payloadBuffer.get t).getD Dict.empty).get marker = streamPayload is marker t := by
  have hp := h.payload t marker
  rw [if_neg ht] at hp
  rw [← hp]
  cases s.payloadBuffer.get t <;> rfl

/-- A buffered payload has a marker of the course. -/
theorem marker_of_streamPayload (hs : Streams is) {marker : ℕ} {sample : PayloadStateSample}
    (h : streamPayload is marker t = some sample) : marker ∈ payloadMarkers := by
  obtain ⟨hmem, e⟩ := mem_payloadStates.mp (stamped_spec h).1
  rw [← e]
  exact hs.markers sample hmem

/-- **An epoch is complete once its stamp has arrived on the grid that is known by then.** -/
theorem Buffered.epochComplete (h : Buffered is joined rest s) (hs : Streams is)
    (ht : t ∉ joined.map GroundTruthSample.simTimestampNs) :
    s.epochComplete t = (gridOffset is).any fun offset => arrived offset is t := by
  have hkeys : ∀ marker, ((s.payloadBuffer.get t).getD Dict.empty).keys.contains marker =
      (streamPayload is marker t).isSome := by
    intro marker
    rw [Bool.eq_iff_iff, List.contains_iff_mem, Dict.mem_keys, h.payloads ht]
  have hsub : (((s.payloadBuffer.get t).getD Dict.empty).keys.all fun marker =>
      payloadMarkers.contains marker) = true := by
    refine List.all_eq_true.mpr fun marker hm => ?_
    obtain ⟨sample, hsample⟩ := Option.isSome_iff_exists.mp (Dict.mem_keys.mp hm)
    rw [h.payloads ht] at hsample
    exact List.contains_iff_mem.mpr (marker_of_streamPayload hs hsample)
  have hstatus : s.vehicleStatusBuffer.get t = streamStatus is t := by
    rw [h.status, if_neg ht]
  unfold VfsScorekeeperRuntime.epochComplete
  simp only [hsub, hkeys, Bool.true_and, h.grid, hstatus]
  cases gridOffset is with
  | none => simp
  | some offset => rfl

/-- The keys of a dictionary with the markers of the course, sorted. -/
theorem sort_markers {α : Type} {d : Dict ℕ α}
    (h : ∀ marker, marker ∈ d.keys ↔ marker ∈ payloadMarkers) :
    d.keys.insertionSort (· ≤ ·) = payloadMarkers := by
  have hsorted : payloadMarkers.Pairwise (· ≤ ·) := by decide
  have hnodup : payloadMarkers.Nodup := by decide
  have hperm : d.keys.Perm payloadMarkers := (List.perm_ext_iff_of_nodup d.nodup hnodup).mpr h
  refine List.Perm.eq_of_pairwise (fun a b _ _ hab hba => Nat.le_antisymm hab hba)
    (List.pairwise_insertionSort (· ≤ ·) d.keys) hsorted ?_
  exact (List.perm_insertionSort (· ≤ ·) d.keys).trans hperm

/-- **The next epoch** is the one of the first truth of the rest, and has arrived. -/
theorem Buffered.next (h : Buffered is joined rest s) (hs : Streams is)
    (hn : s.nextEpoch = some t) : ∃ x rest' offset, rest = x :: rest' ∧ x.simTimestampNs = t ∧
      gridOffset is = some offset ∧ arrived offset is t = true := by
  unfold nextEpoch at hn
  rw [min_keys h.restRising h.truth] at hn
  cases hrest : rest with
  | nil =>
    rw [hrest] at hn
    cases hn
  | cons x rest' =>
    rw [hrest] at hn
    have hx : x ∈ rest := by rw [hrest]; exact List.mem_cons_self
    dsimp only [List.head?_cons, Option.map_some] at hn
    split at hn
    · cases hn
    · split at hn
      · rename_i hc
        rw [h.epochComplete hs (h.open hx)] at hc
        obtain ⟨offset, ho, ha⟩ := (Option.any_eq_true _ _).mp hc
        rw [← Option.some.inj hn]
        exact ⟨x, rest', offset, rfl, rfl, ho, ha⟩
      · cases hn

/-- **A joined epoch** hands over what the streams hold at its stamp, and leaves the buffers. -/
theorem Buffered.join (h : Buffered is joined rest s) (hs : Streams is)
    (hn : s.nextEpoch = some t) (hj : s.joinEpoch c t = .ok s') :
    ∃ x rest' u, rest = x :: rest' ∧ x.simTimestampNs = t ∧
      Handed c (s.withoutEpoch t) (epochCalls x (streamPayloads is t) (streamStatus is t)) u ∧
      s' = u.closeEpoch c t ∧ Buffered is (joined ++ [x]) rest' s' := by
  obtain ⟨x, rest', offset, hrest, hx, ho, ha⟩ := h.next hs hn
  have hopen : t ∉ joined.map GroundTruthSample.simTimestampNs := by
    rw [← hx]
    exact h.open (by rw [hrest]; exact List.mem_cons_self)
  obtain ⟨truth, payloads, u, htruth, hpayloads, hh, hs'⟩ := joinEpoch_spec hj
  have htruth' : truth = x := by
    rw [h.truth, hrest, stamped_cons, if_pos hx] at htruth
    exact (Option.some.inj htruth).symm
  have hget : ∀ marker, payloads.get marker = streamPayload is marker t := by
    intro marker
    rw [← h.payloads hopen, hpayloads]
    rfl
  have hsort : sortedSamples payloads = streamPayloads is t := by
    have hmarkers : ∀ marker, marker ∈ payloads.keys ↔ marker ∈ payloadMarkers := by
      intro marker
      rw [Dict.mem_keys, hget, Option.isSome_iff_exists]
      constructor
      · rintro ⟨sample, hsample⟩
        exact marker_of_streamPayload hs hsample
      · exact fun hm => payload_of_arrived ha hm
    unfold sortedSamples streamPayloads
    rw [sort_markers hmarkers]
    exact List.filterMap_congr fun marker _ => hget marker
  rw [htruth', hsort, h.status, if_neg hopen] at hh
  refine ⟨x, rest', u, hrest, hx, hh, hs', ?_⟩
  have hmem : ∀ t', t' ∈ (joined ++ [x]).map GroundTruthSample.simTimestampNs ↔
      t' = t ∨ t' ∈ joined.map GroundTruthSample.simTimestampNs := by
    intro t'
    rw [List.map_append, List.mem_append, List.map_singleton, List.mem_singleton, hx, or_comm]
  obtain ⟨j, g, v, p, _, rfl⟩ := hh
  subst hs'
  have hrising := h.restRising
  rw [hrest] at hrising
  exact { h with
    split := by rw [h.split, hrest, List.append_assoc]; rfl
    truth := fun t' => by
      have hhead := get_erase_head hrising (by rw [← hrest]; exact h.truth) t'
      rw [hx] at hhead
      exact hhead
    status := fun t' => by
      have he : (s.vehicleStatusBuffer.erase t).get t' = _ := Dict.get_erase _ _ _
      show (s.vehicleStatusBuffer.erase t).get t' = _
      rw [he]
      by_cases e : t' = t
      · rw [if_pos e, if_pos ((hmem t').mpr (Or.inl e))]
      · rw [if_neg e, h.status]
        simp only [hmem, e, false_or]
    payload := fun t' m => by
      have he : (s.payloadBuffer.erase t).get t' = _ := Dict.get_erase _ _ _
      show ((s.payloadBuffer.erase t).get t').bind (Dict.get · m) = _
      rw [he]
      by_cases e : t' = t
      · rw [if_pos e, if_pos ((hmem t').mpr (Or.inl e))]
        rfl
      · rw [if_neg e, h.payload]
        simp only [hmem, e, false_or]
    complete := fun y hy => by
      rcases List.mem_append.mp hy with hy | hy
      · exact h.complete y hy
      · rw [List.mem_singleton.mp hy, hx]
        exact ⟨offset, ho, ha⟩
    last := by
      rw [received_snoc, hx]
      rfl }

/-- **Every move inside a callback keeps the buffers right**; a join moves the first truth of the
    rest to the joined ones. -/
theorem Buffered.inner (h : Buffered is joined rest s) (hs : Streams is) (hm : Inner c s s') :
    Buffered is joined rest s' ∨
      ∃ x rest', rest = x :: rest' ∧ Buffered is (joined ++ [x]) rest' s' := by
  cases hm with
  | payloadEvent _ sample hp =>
    obtain ⟨j, ds, _, rfl⟩ := acceptPayloadEvent_spec hp
    exact Or.inl (h.frame _ _ _ _)
  | queue event => exact Or.inl (h.frame _ _ _ _)
  | answer _ event hwhy ha =>
    rw [answer_frame ha]
    exact Or.inl (h.frame _ _ _ _)
  | expire _ event hready ha =>
    rw [answer_frame ha]
    exact Or.inl (h.frame _ _ _ _)
  | resolved force => exact Or.inl (h.frame _ _ _ _)
  | join _ timestampNs hn hj =>
    obtain ⟨x, rest', u, hrest, _, _, _, hb⟩ := h.join hs hn hj
    exact Or.inr ⟨x, rest', hrest, hb⟩

end Epochs

/-- A callback keeps the buffers right. -/
theorem Buffered.accept {joined rest : List GroundTruthSample} (h : Buffered is joined rest s)
    {i : Input} (hs : Streams (is ++ [i])) (hi : s.accept c i = .ok s') :
    ∃ joined' rest', Buffered (is ++ [i]) joined' rest' s' := by
  obtain ⟨hrec, hinners⟩ := accept_stages hi
  obtain ⟨rest', hb'⟩ := h.receive hs hrec
  refine Inners.keeps (P := fun t => ∃ joined rest, Buffered (is ++ [i]) joined rest t) hinners
    ⟨joined, rest', hb'⟩ ?_
  rintro t t' ⟨joined, rest, ht⟩ hm
  rcases ht.inner hs hm with ht | ⟨x, rest', _, ht⟩
  · exact ⟨joined, rest, ht⟩
  · exact ⟨joined ++ [x], rest', ht⟩

end VfsScorekeeperRuntime

end DroneSim
