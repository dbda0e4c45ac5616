/-
  File:      DroneSim/Electromagnet/GatewayWarrant.lean
  Subject:   EVERY COMMAND TO A MAGNET IS WARRANTED BY FACTS OF ONE TIME.

  `Histories log g`: what the gateway holds of its samples, in terms of the log alone. The newest
  facts are the last ones in the log, and a fact in a history is the last one of its time and no
  more than the horizon older than any sample.

  A command that a run sends was decided on a snapshot of an earlier state (`DecidesAt`); the
  execution carries it to the publication, and only samples come in between (`Carried`).
  `command_warranted` says what is in the log at that decision: `WarrantedAt`.
-/
import DroneSim.Electromagnet.GatewaySteps
import DroneSim.Electromagnet.GatewaySnapshot

namespace DroneSim

open Library

/-! ## 1. The facts in the log -/

namespace GatewayEffect

def vehicleOf : GatewayEffect → Option VehicleFact
  | .vehicle fact => some fact
  | _ => none

/-- A payload's fact: a sample, or the flag that an accepted command wrote. -/
def payloadOf (marker : ℕ) : GatewayEffect → Option PayloadFact
  | .payload m fact | .flag m fact => if m = marker then some fact else none
  | _ => none

/-- The time of a sample. -/
def sampleTime : GatewayEffect → Option ℕ
  | .vehicle fact => some fact.timestampNs
  | .payload _ fact => some fact.timestampNs
  | _ => none

/-- A sample, and nothing an execution does. -/
inductive IsSample : GatewayEffect → Prop where
  | vehicle (fact : VehicleFact) : IsSample (.vehicle fact)
  | payload (marker : ℕ) (fact : PayloadFact) : IsSample (.payload marker fact)

end GatewayEffect

/-- The vehicle's samples. -/
def vehiclesOf (log : List GatewayEffect) : List VehicleFact := log.filterMap GatewayEffect.vehicleOf

/-- The samples and flags of one payload. -/
def payloadsOf (marker : ℕ) (log : List GatewayEffect) : List PayloadFact :=
  log.filterMap (GatewayEffect.payloadOf marker)

/-- The times of the samples that were accepted. -/
def sampleTimes (log : List GatewayEffect) : List ℕ := log.filterMap GatewayEffect.sampleTime

@[simp] theorem vehiclesOf_append (log effects : List GatewayEffect) :
    vehiclesOf (log ++ effects) = vehiclesOf log ++ vehiclesOf effects := List.filterMap_append

@[simp] theorem payloadsOf_append (marker : ℕ) (log effects : List GatewayEffect) :
    payloadsOf marker (log ++ effects) = payloadsOf marker log ++ payloadsOf marker effects :=
  List.filterMap_append

@[simp] theorem sampleTimes_append (log effects : List GatewayEffect) :
    sampleTimes (log ++ effects) = sampleTimes log ++ sampleTimes effects := List.filterMap_append

/-- The last fact of a time: a flag comes after the sample it stands in for. -/
def LastAt (facts : List PayloadFact) (t : ℕ) (fact : PayloadFact) : Prop :=
  (facts.filter fun f => f.timestampNs = t).getLast? = some fact

variable {fact : PayloadFact}

theorem lastAt_append {facts more : List PayloadFact} {t : ℕ} (h : LastAt facts t fact)
    (hmore : ∀ f ∈ more, f.timestampNs ≠ t) : LastAt (facts ++ more) t fact := by
  have hnone : (more.filter fun f => f.timestampNs = t) = [] :=
    List.filter_eq_nil_iff.mpr fun f hf => by simpa using hmore f hf
  rw [LastAt, List.filter_append, hnone, List.append_nil]
  exact h

theorem lastAt_snoc (facts : List PayloadFact) (fact : PayloadFact) :
    LastAt (facts ++ [fact]) fact.timestampNs fact := by
  rw [LastAt, List.filter_append]
  simp

namespace GatewaySystem

open PayloadGateway

/-! ## 2. Histories -/

/-- **What the gateway holds of its samples.** -/
structure Histories (log : List GatewayEffect) (g : PayloadGateway) : Prop where
  vehicle : g.vehicle = (vehiclesOf log).getLast?
  payload : ∀ m, g.payloads.get m = (payloadsOf m log).getLast?
  times : ∀ t ∈ sampleTimes log, ∃ latest ∈ g.latestTimestamps, t ≤ latest
  vehicleHistory : ∀ t fact, g.vehicleHistory.get t = some fact →
    fact ∈ vehiclesOf log ∧ fact.timestampNs = t ∧ g.current t = true
  payloadHistory : ∀ m t fact, (g.payloadHistories m).get t = some fact →
    LastAt (payloadsOf m log) t fact

variable {a : PayloadAuthority} {log effects : List GatewayEffect} {g g' : PayloadGateway}
  {e e' : Option Executing} {m : Move} {request : PayloadRequest}

/-- A history entry that the cutoff spares is not older than the horizon allows. -/
theorem Histories.recent (h : Histories log g) {t : ℕ} (hcurrent : g.current t = true) :
    ∀ u ∈ sampleTimes log, u ≤ t + physicalHistoryHorizonNs := by
  intro u hu
  obtain ⟨latest, hmem, hle⟩ := h.times u hu
  have hcut := List.all_eq_true.mp hcurrent latest hmem
  rw [decide_eq_true_eq] at hcut
  omega

theorem mem_latestTimestamps {g : PayloadGateway} {u : ℕ} : u ∈ g.latestTimestamps ↔
    (∃ m fact, g.payloads.get m = some fact ∧ fact.timestampNs = u) ∨
      ∃ fact, g.vehicle = some fact ∧ fact.timestampNs = u := by
  rw [latestTimestamps, List.mem_append, List.mem_map, Option.mem_toList, Option.map_eq_some_iff]
  refine or_congr ⟨?_, ?_⟩ Iff.rfl
  · rintro ⟨⟨m, fact⟩, hmem, rfl⟩
    exact ⟨m, fact, Dict.mem_items.mp hmem, rfl⟩
  · rintro ⟨m, fact, hget, rfl⟩
    exact ⟨(m, fact), Dict.mem_items.mpr hget, rfl⟩

theorem Histories.start : Histories [] .initial where
  vehicle := rfl
  payload := fun _ => rfl
  times := by nofun
  vehicleHistory := by nofun
  payloadHistory := by nofun

/-- The section touches no sample, and its effects are none. -/
theorem Histories.same (h : Histories log g) (hsame : SameWorld g g')
    (hvehicles : vehiclesOf effects = []) (hpayloads : ∀ m, payloadsOf m effects = [])
    (htimes : sampleTimes effects = []) : Histories (log ++ effects) g' := by
  have hlatest : g'.latestTimestamps = g.latestTimestamps := by
    rw [latestTimestamps, latestTimestamps, hsame.vehicle, hsame.payloads]
  refine ⟨?_, fun m => ?_, ?_, fun t fact hget => ?_, fun m t fact hget => ?_⟩
  · rw [vehiclesOf_append, hvehicles, List.append_nil, hsame.vehicle]
    exact h.vehicle
  · rw [payloadsOf_append, hpayloads, List.append_nil, hsame.payloads]
    exact h.payload m
  · rw [sampleTimes_append, htimes, List.append_nil, hlatest]
    exact h.times
  · rw [hsame.vehicleHistory] at hget
    rw [vehiclesOf_append, hvehicles, List.append_nil, current, hlatest]
    exact h.vehicleHistory t fact hget
  · rw [hsame.payloadHistories] at hget
    rw [payloadsOf_append, hpayloads, List.append_nil]
    exact h.payloadHistory m t fact hget

theorem payloadsOf_payload (m marker : ℕ) (fact : PayloadFact) :
    payloadsOf m [GatewayEffect.payload marker fact] = if m = marker then [fact] else [] := by
  by_cases h : m = marker
  · simp [payloadsOf, GatewayEffect.payloadOf, h]
  · simp [payloadsOf, GatewayEffect.payloadOf, h, Ne.symm h]

theorem payloadsOf_flag (m marker : ℕ) (fact : PayloadFact) :
    payloadsOf m [GatewayEffect.flag marker fact] = if m = marker then [fact] else [] :=
  payloadsOf_payload m marker fact

theorem Histories.sawVehicle (h : Histories log g) {fact : VehicleFact}
    (hnew : ∀ v, g.vehicle = some v → v.timestampNs < fact.timestampNs) :
    Histories (log ++ [GatewayEffect.vehicle fact]) (g.sawVehicle fact) := by
  have hnone : ∀ m, payloadsOf m [GatewayEffect.vehicle fact] = [] := fun _ => rfl
  refine ⟨?_, fun m => ?_, ?_, fun t f hget => ?_, fun m t f hget => ?_⟩
  · rw [vehiclesOf_append]
    exact List.getLast?_concat.symm
  · rw [payloadsOf_append, hnone, List.append_nil]
    exact h.payload m
  · intro t ht
    rw [sampleTimes_append, List.mem_append] at ht
    rcases ht with ht | ht
    · obtain ⟨latest, hmem, hle⟩ := h.times t ht
      rcases mem_latestTimestamps.mp hmem with ⟨m, f, hget, rfl⟩ | ⟨v, hv, rfl⟩
      · exact ⟨_, mem_latestTimestamps.mpr (Or.inl ⟨m, f, hget, rfl⟩), hle⟩
      · refine ⟨_, mem_latestTimestamps.mpr (Or.inr ⟨fact, rfl, rfl⟩), ?_⟩
        have hlt := hnew v hv
        omega
    · obtain rfl := List.mem_singleton.mp ht
      exact ⟨_, mem_latestTimestamps.mpr (Or.inr ⟨fact, rfl, rfl⟩), Nat.le_refl _⟩
  · obtain ⟨hcurrent, hget⟩ := Dict.get_filterKeys_some hget
    rw [Dict.get_set] at hget
    rw [vehiclesOf_append, List.mem_append]
    split at hget
    · rename_i ht
      obtain rfl := Option.some.inj hget
      exact ⟨Or.inr (List.mem_singleton_self _), ht.symm, hcurrent⟩
    · obtain ⟨hmem, ht, -⟩ := h.vehicleHistory t f hget
      exact ⟨Or.inl hmem, ht, hcurrent⟩
  · obtain ⟨-, hget⟩ := Dict.get_filterKeys_some hget
    rw [payloadsOf_append, hnone, List.append_nil]
    exact h.payloadHistory m t f hget

/-- A fact written for one marker: the newest fact of that marker, and the last one of its time. -/
theorem Histories.setPayload (h : Histories log g) {marker : ℕ} (effect : GatewayEffect)
    (heffect : ∀ m, payloadsOf m [effect] = if m = marker then [fact] else []) :
    (∀ m, (g.payloads.set marker fact).get m = (payloadsOf m (log ++ [effect])).getLast?) ∧
    ∀ m t f, (g.setHistory marker fact m).get t = some f →
      LastAt (payloadsOf m (log ++ [effect])) t f := by
  refine ⟨fun m => ?_, fun m t f hget => ?_⟩
  · rw [Dict.get_set, payloadsOf_append, heffect]
    split
    · exact List.getLast?_concat.symm
    · rw [List.append_nil]
      exact h.payload m
  · rw [payloadsOf_append, heffect]
    unfold setHistory at hget
    split
    · rename_i hm
      rw [if_pos hm, Dict.get_set] at hget
      split at hget
      · rename_i ht
        obtain rfl := Option.some.inj hget
        rw [ht]
        exact lastAt_snoc _ _
      · rename_i ht
        refine lastAt_append (h.payloadHistory m t f hget) fun f' hf' => ?_
        rw [List.mem_singleton.mp hf']
        exact Ne.symm ht
    · rename_i hm
      rw [if_neg hm] at hget
      rw [List.append_nil]
      exact h.payloadHistory m t f hget

/-- The newest times after a fact that is not older than the marker's newest one. -/
theorem Histories.times_set (h : Histories log g) {marker : ℕ} (g' : PayloadGateway)
    (hnew : ∀ f, g.payloads.get marker = some f → f.timestampNs ≤ fact.timestampNs)
    (hpayloads : g'.payloads = g.payloads.set marker fact) (hvehicle : g'.vehicle = g.vehicle) :
    ∀ t ∈ fact.timestampNs :: sampleTimes log, ∃ latest ∈ g'.latestTimestamps, t ≤ latest := by
  have hself : fact.timestampNs ∈ g'.latestTimestamps :=
    mem_latestTimestamps.mpr (Or.inl ⟨marker, fact, by rw [hpayloads, Dict.get_set_self], rfl⟩)
  intro t ht
  rcases List.mem_cons.mp ht with rfl | ht
  · exact ⟨_, hself, Nat.le_refl _⟩
  · obtain ⟨latest, hmem, hle⟩ := h.times t ht
    rcases mem_latestTimestamps.mp hmem with ⟨m, f, hget, rfl⟩ | ⟨v, hv, rfl⟩
    · by_cases hm : m = marker
      · subst hm
        exact ⟨_, hself, Nat.le_trans hle (hnew f hget)⟩
      · refine ⟨_, mem_latestTimestamps.mpr (Or.inl ⟨m, f, ?_, rfl⟩), hle⟩
        rw [hpayloads, Dict.get_set_of_ne _ _ hm, hget]
    · exact ⟨_, mem_latestTimestamps.mpr (Or.inr ⟨v, by rw [hvehicle, hv], rfl⟩), hle⟩

theorem Histories.sawPayload (h : Histories log g) {marker : ℕ}
    (hnew : ∀ f, g.payloads.get marker = some f → f.timestampNs < fact.timestampNs) :
    Histories (log ++ [GatewayEffect.payload marker fact]) (g.sawPayload marker fact) := by
  obtain ⟨hpayloads, hhistories⟩ :=
    h.setPayload (.payload marker fact) fun m => payloadsOf_payload m marker fact
  refine ⟨?_, hpayloads, ?_, fun t f hget => ?_, fun m t f hget => ?_⟩
  · rw [vehiclesOf_append]
    exact h.vehicle.trans (by rw [show vehiclesOf [GatewayEffect.payload marker fact] = [] from rfl,
      List.append_nil])
  · intro t ht
    refine h.times_set (g.sawPayload marker fact) (fun f hf => Nat.le_of_lt (hnew f hf)) rfl rfl t ?_
    rw [sampleTimes_append, List.mem_append] at ht
    exact List.mem_cons.mpr (ht.symm.imp List.mem_singleton.mp id)
  · obtain ⟨hcurrent, hget⟩ := Dict.get_filterKeys_some hget
    obtain ⟨hmem, ht, -⟩ := h.vehicleHistory t f hget
    rw [vehiclesOf_append]
    exact ⟨List.mem_append_left _ hmem, ht, hcurrent⟩
  · exact hhistories m t f (Dict.get_filterKeys_some hget).2

theorem Histories.written (h : Histories log g)
    (hget : g.payloads.get request.arucoId = some fact) :
    Histories (log ++ [GatewayEffect.flag request.arucoId (flagged fact request)])
      (g.written request fact) := by
  obtain ⟨hpayloads, hhistories⟩ :=
    h.setPayload (.flag request.arucoId (flagged fact request)) fun m =>
      payloadsOf_flag m request.arucoId (flagged fact request)
  have htimes : ∀ t ∈ (flagged fact request).timestampNs :: sampleTimes log,
      ∃ latest ∈ (g.written request fact).latestTimestamps, t ≤ latest :=
    h.times_set (g.written request fact) (fun f hf => by
      rw [hget] at hf
      rw [← Option.some.inj hf]
      exact Nat.le_refl _) rfl rfl
  refine ⟨?_, hpayloads, ?_, fun t f hf => ?_, hhistories⟩
  · rw [vehiclesOf_append]
    exact h.vehicle.trans (by rw [show vehiclesOf [GatewayEffect.flag _ _] = [] from rfl, List.append_nil])
  · intro t ht
    rw [sampleTimes_append, show sampleTimes [GatewayEffect.flag _ _] = [] from rfl, List.append_nil] at ht
    exact htimes t (List.mem_cons_of_mem _ ht)
  · obtain ⟨hmem, ht, hcurrent⟩ := h.vehicleHistory t f hf
    rw [vehiclesOf_append]
    refine ⟨List.mem_append_left _ hmem, ht, ?_⟩
    -- the flag has the time of the fact it stands in for
    refine List.all_eq_true.mpr fun latest hlatest => List.all_eq_true.mp hcurrent latest ?_
    rcases mem_latestTimestamps.mp hlatest with ⟨m, f', hf', rfl⟩ | hvehicle
    · refine mem_latestTimestamps.mpr (Or.inl ?_)
      have hf' : (g.payloads.set request.arucoId (flagged fact request)).get m = some f' := hf'
      rw [Dict.get_set] at hf'
      split at hf'
      · rw [← Option.some.inj hf']
        exact ⟨_, fact, hget, rfl⟩
      · exact ⟨m, f', hf', rfl⟩
    · exact mem_latestTimestamps.mpr (Or.inr hvehicle)

theorem Histories.went (h : Histories log g) (hw : Went a g e m g' e' effects) :
    Histories (log ++ effects) g' := by
  cases hw with
  | vehicle runId fact hnew => exact h.sawVehicle hnew
  | payload runId marker fact hmarker hnew => exact h.sawPayload hnew
  | recorded request physical fact hget => exact h.written hget
  | _ => exact h.same ⟨rfl, rfl, rfl, rfl⟩ rfl (fun _ => rfl) rfl

theorem histories_run {ms : List Move} {s : GatewaySystem}
    (h : Run (Steps (step a)) initial ms log s) : Histories log s.gateway := by
  induction h with
  | start => exact .start
  | step _ hs ih => exact ih.went (step_went hs)

/-! ## 3. Commands -/

/-- **The command is warranted by the log**: at one time `t` the vehicle and the three payloads have
    their facts, no sample is more than the horizon newer, the newest facts have the flags of
    those at `t`, and these facts meet the conditions of the command. -/
structure WarrantedAt (a : PayloadAuthority) (log : List GatewayEffect) (request : PayloadRequest)
    (wire : String) (t : ℕ) (vehicle : VehicleFact) (facts : ℕ → PayloadFact) : Prop where
  marker : request.arucoId ∈ markers
  vehicleFact : vehicle ∈ vehiclesOf log ∧ vehicle.timestampNs = t
  payloadFact : ∀ m ∈ markers, LastAt (payloadsOf m log) t (facts m)
  recent : ∀ u ∈ sampleTimes log, u ≤ t + physicalHistoryHorizonNs
  vehicleFlag : ∃ newest, (vehiclesOf log).getLast? = some newest ∧
    newest.grounded = vehicle.grounded
  payloadFlags : ∀ m ∈ markers, ∃ newest, (payloadsOf m log).getLast? = some newest ∧
    newest.grounded = (facts m).grounded ∧ newest.attached = (facts m).attached
  conditions : Warranted a request vehicle facts wire

/-- A command on a snapshot of a state whose histories are known. -/
theorem Histories.warranted (h : Histories log g) {world : PayloadWorld} {wire : String}
    (hworld : g.snapshot request = .ok world)
    (hcommand : (a.decide world request).wireCommand = some wire) :
    ∃ t vehicle facts, WarrantedAt a log request wire t vehicle facts := by
  obtain ⟨t, vehicle, facts, hs⟩ := snapshot_ok hworld
  obtain ⟨hmarker, hconditions⟩ := commanded_facts hs hcommand
  obtain ⟨hmem, ht, hcurrent⟩ := h.vehicleHistory t vehicle hs.vehicleFact
  refine ⟨t, vehicle, facts, hmarker, ⟨hmem, ht⟩,
    fun m hm => h.payloadHistory m t _ (hs.payloadFact m hm), h.recent hcurrent, ?_,
    fun m hm => ?_, hconditions⟩
  · rw [← h.vehicle]
    exact hs.vehicleFlag
  · rw [← h.payload m]
    exact hs.payloadFlags m hm

/-- **The decision**: the run over `ms` put out `log`, and its next section, which takes the
    snapshot, lets the execution of the request go on to the command; the log warrants that. -/
structure DecidesAt (a : PayloadAuthority) (ms : List Move) (log : List GatewayEffect)
    (request : PayloadRequest) (wire : String) : Prop where
  moment : ∃ s t, Run (Steps (step a)) initial ms log s ∧ s.executing = some (.missed request) ∧
    step a s .proceed = .ok (t, []) ∧ t.executing = some (.commanding request wire)
  warranted : ∃ t vehicle facts, WarrantedAt a log request wire t vehicle facts

/-- **The run up to its decision**, and nothing but samples since. -/
def Decided (a : PayloadAuthority) (ms : List Move) (log : List GatewayEffect)
    (request : PayloadRequest) (wire : String) : Prop :=
  ∃ earlier later before after, ms = earlier ++ Move.proceed :: later ∧ log = before ++ after ∧
    (∀ x ∈ after, GatewayEffect.IsSample x) ∧ DecidesAt a earlier before request wire

/-- An execution between its decision and its publication carries a warranted command. -/
def Carried (a : PayloadAuthority) (ms : List Move) (log : List GatewayEffect) :
    Option Executing → Prop
  | some (.commanding request wire) | some (.registered request wire) =>
      Decided a ms log request wire
  | _ => True

theorem Decided.sample {ms : List Move} {wire : String} (h : Decided a ms log request wire)
    (heffects : ∀ x ∈ effects, GatewayEffect.IsSample x) :
    Decided a (ms ++ [m]) (log ++ effects) request wire := by
  obtain ⟨earlier, later, before, after, rfl, rfl, hsamples, hdecides⟩ := h
  refine ⟨earlier, later ++ [m], before, after ++ effects, by simp, List.append_assoc _ _ _,
    fun x hx => ?_, hdecides⟩
  rcases List.mem_append.mp hx with hx | hx
  · exact hsamples x hx
  · exact heffects x hx

theorem Carried.sample {ms : List Move} (h : Carried a ms log e)
    (heffects : ∀ x ∈ effects, GatewayEffect.IsSample x) :
    Carried a (ms ++ [m]) (log ++ effects) e := by
  unfold Carried at h ⊢
  split at h
  · exact Decided.sample h heffects
  · exact Decided.sample h heffects
  · trivial

theorem Carried.step {ms : List Move} {s t : GatewaySystem} (h : Carried a ms log s.executing)
    (hrun : Run (Steps (step a)) initial ms log s) (hs : step a s m = .ok (t, effects)) :
    Carried a (ms ++ [m]) (log ++ effects) t.executing := by
  have hw := step_went hs
  obtain ⟨g, e⟩ := s
  obtain ⟨g', e'⟩ := t
  cases hw with
  | vehicleIgnored | payloadIgnored | resultIgnored | result => exact h.sample (by simp)
  | vehicle runId fact hnew =>
    exact h.sample fun x hx => List.mem_singleton.mp hx ▸ .vehicle fact
  | payload runId marker fact hmarker hnew =>
    exact h.sample fun x hx => List.mem_singleton.mp hx ▸ .payload marker fact
  | warranted request world wire hworld hcommand =>
    exact ⟨ms, [], log, [], rfl, rfl, by simp, ⟨_, _, hrun, rfl, hs, rfl⟩,
      (histories_run hrun).warranted hworld hcommand⟩
  | registered => exact Decided.sample h (by simp)
  | _ => trivial

theorem carried_run {ms : List Move} {s : GatewaySystem}
    (h : Run (Steps (step a)) initial ms log s) : Carried a ms log s.executing := by
  induction h with
  | start => trivial
  | step h hs ih => exact ih.step h hs

/-- A command is the only effect of its move, which publishes it. -/
theorem went_sent (hw : Went a g e m g' e' effects) {wire : String}
    (hmem : GatewayEffect.command request wire ∈ effects) : (∃ raised, m = .publish raised) ∧
    e = some (.registered request wire) ∧ effects = [GatewayEffect.command request wire] := by
  cases hw with
  | published q w =>
    obtain ⟨rfl, rfl⟩ := GatewayEffect.command.inj (List.mem_singleton.mp hmem)
    exact ⟨⟨_, rfl⟩, rfl, rfl⟩
  | publishRaised q w =>
    obtain ⟨rfl, rfl⟩ := GatewayEffect.command.inj (List.mem_singleton.mp hmem)
    exact ⟨⟨_, rfl⟩, rfl, rfl⟩
  | _ => simp at hmem

/-- **Every command a run sends was decided in it**, on a log that warrants it at the decision, and
    between the decision and the publication nothing but samples came in. -/
theorem command_warranted (a : PayloadAuthority) {ms : List Move} {before after : List GatewayEffect}
    {s : GatewaySystem} {request : PayloadRequest} {wire : String}
    (h : Run (Steps (step a)) initial ms (before ++ GatewayEffect.command request wire :: after) s) :
    ∃ js raised ks, ms = js ++ Move.publish raised :: ks ∧ Decided a js before request wire := by
  obtain ⟨js, ks, ps, t, i, p, q, v, hms, hrun, hs, rfl⟩ := h.emitted
  have hmem : GatewayEffect.command request wire ∈ p ++ GatewayEffect.command request wire :: q := by simp
  obtain ⟨⟨raised, rfl⟩, he, heffects⟩ := went_sent (step_went hs) hmem
  have hcarried := carried_run hrun
  rw [he] at hcarried
  have hp : p = [] := by
    cases p with
    | nil => rfl
    | cons x p => simp at heffects
  rw [hp, List.append_nil]
  exact ⟨js, raised, ks, hms, hcarried⟩

/-- The command of an attach request, with a vehicle sample that comes in after the decision. -/
theorem command_warranted_attach : ∃ js before,
    Decided padAuthority js before attachRequest "payload-command-v1|c1|attach" ∧
    sampleTimes before = [100, 100, 100, 100, 200] := by
  obtain ⟨s, log, hrun, hp⟩ := exists_run (f := step padAuthority)
    (C := fun _ _ => true) (s := initial)
    (l := standing 100 none ++ [GatewaySystem.Move.execute attachRequest, .proceed, .proceed,
      .vehicle "run" 200 (7, 0) false, .proceed, .publish false])
    (p := fun (_ : GatewaySystem) (log : List GatewayEffect) => decide (
      log = log.take 5 ++ GatewayEffect.command attachRequest "payload-command-v1|c1|attach" :: [] ∧
      sampleTimes (log.take 5) = [100, 100, 100, 100, 200])) (by decide +kernel)
  obtain ⟨hlog, htimes⟩ := of_decide_eq_true hp
  have hrun := hrun.of_meeting
  rw [hlog] at hrun
  obtain ⟨js, -, -, -, hdecided⟩ := command_warranted padAuthority hrun
  exact ⟨js, log.take 5, hdecided, htimes⟩

end GatewaySystem

end DroneSim
