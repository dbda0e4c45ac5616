/-
  File:      DroneSim/Artifacts/ProtocolAtomic.lean
  Subject:   Protocol files are published at once, and the first one wins.

  * `WriteStep.stage`, `WriteStep.read` -- one step under the lock: a temporary file grows into the
    encoded document, and the name changes in the one step that renames it;
  * `Sound` -- the invariant of the writers: one of them holds the lock, each is where its steps
    took it, and the name holds the bytes of one of their documents;
  * `protocolFile_atomic` -- what holds of any interleaving, with any failures.
-/
import DroneSim.Artifacts.ProtocolFiles
import DroneSim.Library.Fallible

namespace DroneSim

open Library

/-! ## 1. Under the lock -/

section

variable {Document : Type} {json : JsonLibrary Document} {name : String}
  {call : WriteCall Document} {d d' : Folder RegularFile} {phase phase' : WritePhase Document}

/-- The temporary file of the call holds these bytes. -/
structure Temporary (name : String) (call : WriteCall Document) (d : Folder RegularFile) (ino : ℕ)
    (bytes : List UInt8) : Prop where
  named : d.entries (temporaryName name call.hex) = some ino
  apart : d.entries name ≠ some ino
  holds : ∃ i, d.file ino = some i ∧ i.data.content = bytes
  free : call.policy ≠ .replace → d.entries name = none

/-- What holds of the folder while a call is under the lock. -/
def Stage (json : JsonLibrary Document) (name : String) (call : WriteCall Document)
    (d : Folder RegularFile) : WritePhase Document → Prop
  | .creating => call.policy ≠ .replace → d.entries name = none
  | .chmodding ino => Temporary name call d ino []
  | .writing ino written => ∀ payload, json.canonicalJson call.document = .ok payload →
    Temporary name call d ino (payload.take written)
  | .syncing ino => ∀ payload, json.canonicalJson call.document = .ok payload →
    Temporary name call d ino payload
  | .closing ino => ∀ payload, json.canonicalJson call.document = .ok payload →
    Temporary name call d ino payload
  | .replacing ino => ∀ payload, json.canonicalJson call.document = .ok payload →
    Temporary name call d ino payload
  | _ => True

theorem stage_idle (h : phase.holding = false) : Stage json name call d phase := by
  cases phase with
  | encoding => trivial
  | locking => trivial
  | finished => trivial
  | killed => trivial
  | _ => cases h

/-- The temporary file after its data changed. -/
theorem Temporary.rewrite {ino : ℕ} {bytes : List UInt8} (h : Temporary name call d ino bytes)
    (f : RegularFile → RegularFile) {after : List UInt8}
    (hf : ∀ file : RegularFile, file.content = bytes → (f file).content = after) :
    Temporary name call (d.rewrite ino f) ino after where
  named := h.named
  apart := h.apart
  holds := by
    obtain ⟨i, hi, hbytes⟩ := h.holds
    refine ⟨i.store f, ?_, hf i.data hbytes⟩
    rw [Folder.file_rewrite, if_pos rfl, hi]
    rfl
  free := h.free

/-- The file that was read whole is the one the name holds. -/
theorem ReadWhole.read {ino : ℕ} {chunks : List UInt8} {i : Inode RegularFile}
    (h : ReadWhole name d ino chunks i) : d.read name = some i.data := by
  rw [Folder.read_of_entries h.named, h.opened]
  rfl

/-- The steps are taken under the lock. -/
theorem WriteStep.holding (hstep : WriteStep json name call d phase d' phase') :
    phase.holding = true ∧ phase'.holding = true := by
  cases hstep with
  | raises hholding htemporary => exact ⟨hholding, rfl⟩
  | raisesOver htemporary =>
    refine ⟨?_, rfl⟩
    cases phase with
    | encoding => cases htemporary
    | locking => cases htemporary
    | finished => cases htemporary
    | killed => cases htemporary
    | _ => rfl
  | _ => exact ⟨rfl, rfl⟩

/-- **A step keeps the stage.** -/
theorem WriteStep.stage (hstep : WriteStep json name call d phase d' phase')
    (h : Stage json name call d phase) : Stage json name call d' phase' := by
  cases hstep with
  | absent hnone => exact fun _ => hnone
  | opened => trivial
  | chunk => trivial
  | kept => trivial
  | replaceable hwhole hdecoded hpolicy => exact fun hne => absurd hpolicy hne
  | created mode hfree =>
    have hother : ∀ other, other ≠ temporaryName name call.hex →
        (d.create (temporaryName name call.hex) ⟨[], mode⟩).entries other = d.entries other :=
      fun other hne => by rw [Folder.entries_create, if_neg hne]
    have hname := hother name (temporaryName_ne name call.hex).symm
    refine ⟨?_, ?_, ⟨_, Folder.file_create_new _ _, rfl⟩, fun hpolicy => hname.trans (h hpolicy)⟩
    · rw [Folder.entries_create, if_pos rfl]
    · intro hsame
      have hlt := d.bounded name d.files.length (hname.symm.trans hsame)
      omega
  | chmodded =>
    intro payload hpayload
    have htemporary : Temporary name call d _ [] := h
    exact htemporary.rewrite _ fun file hfile => by rw [List.take_zero, ← hfile]
  | @wrote ino written payload count hpayload hcount hleft =>
    intro p hp
    obtain rfl := Except.ok.inj (hpayload.symm.trans hp)
    refine (h payload hpayload).rewrite _ fun file hfile => ?_
    show file.content ++ (payload.drop written).take count = payload.take (written + count)
    rw [hfile, List.take_add]
  | @written ino payload hpayload =>
    intro p hp
    obtain rfl := Except.ok.inj (hpayload.symm.trans hp)
    have hwritten := h payload hpayload
    rwa [List.take_length] at hwritten
  | synced => exact h
  | closed => exact h
  | replaced => trivial
  | persisted => trivial
  | raises => trivial
  | raisesOver => trivial
  | unlinked => trivial

/-- The file named after a step: as it was, or in its place the document of the call. -/
theorem WriteStep.read (hstep : WriteStep json name call d phase d' phase')
    (hencoded : ∃ payload, json.canonicalJson call.document = .ok payload)
    (h : Stage json name call d phase) :
    d'.read name = d.read name ∨
      (∃ f, d'.read name = some f ∧ json.canonicalJson call.document = .ok f.content) ∧
        (call.policy ≠ .replace → d.read name = none) := by
  have hne := temporaryName_ne name call.hex
  cases hstep with
  | created mode hfree => exact Or.inl (Folder.read_create _ hne.symm)
  | chmodded =>
    have htemporary : Temporary name call d _ [] := h
    exact Or.inl (Folder.read_rewrite _ htemporary.apart)
  | wrote count hpayload hcount hleft =>
    exact Or.inl (Folder.read_rewrite _ (h _ hpayload).apart)
  | @replaced ino n hthere =>
    obtain ⟨payload, hpayload⟩ := hencoded
    have htemporary := h payload hpayload
    obtain rfl := Option.some.inj (hthere.symm.trans htemporary.named)
    obtain ⟨i, hi, hbytes⟩ := htemporary.holds
    refine Or.inr ⟨⟨i.data, ?_, by rw [hbytes, hpayload]⟩,
      fun hpolicy => Folder.read_none (htemporary.free hpolicy)⟩
    rw [Folder.read_rename hthere hne.symm, hi]
    rfl
  | unlinked hthere => exact Or.inl (Folder.read_unlink hne.symm)
  | _ => exact Or.inl rfl

end

/-! ## 2. The writers -/

namespace SharedFolder

variable {W Document : Type} {json : JsonLibrary Document} {name : String}
  {calls : W → WriteCall Document} {s t : SharedFolder W Document} {w : W}

/-- **The invariant of the writers.** -/
structure Sound (json : JsonLibrary Document) (name : String) (calls : W → WriteCall Document)
    (s : SharedFolder W Document) : Prop where
  exclusive : ∀ w, (s.phase w).holding = true → s.holder = some w
  encoded : ∀ w, (s.phase w).holding = true ∨ s.phase w = .locking →
    ∃ payload, json.canonicalJson (calls w).document = .ok payload
  stages : ∀ w, Stage json name (calls w) s.folder (s.phase w)
  published : ∀ f, s.folder.read name = some f →
    ∃ w, json.canonicalJson (calls w).document = .ok f.content

/-- Before any call, over a folder in which the name is free. -/
def initial (d : Folder RegularFile) : SharedFolder W Document := ⟨d, none, fun _ => .encoding⟩

theorem sound_initial {d : Folder RegularFile} (h : d.entries name = none) :
    Sound json name calls (initial d) where
  exclusive := by
    intro w hw
    cases hw
  encoded := by
    intro w hw
    rcases hw with hw | hw
    · cases hw
    · cases hw
  stages := fun w => stage_idle rfl
  published := by
    intro f hf
    rw [show (initial d : SharedFolder W Document).folder.read name = none from
      Folder.read_none h] at hf
    cases hf

/-- The writers other than the holder are not under the lock. -/
theorem Sound.others (h : Sound json name calls s) (hw : (s.phase w).holding = true) {v : W}
    (hne : v ≠ w) : (s.phase v).holding = false := by
  cases hv : (s.phase v).holding with
  | false => rfl
  | true =>
    have hboth := (h.exclusive v hv).symm.trans (h.exclusive w hw)
    exact absurd (Option.some.inj hboth) hne

variable [DecidableEq W] {out : List (W × WriteOutcome Document)}

@[simp] theorem phase_go (phase : WritePhase Document) (v : W) :
    (s.go w phase).phase v = if v = w then phase else s.phase v := rfl

/-- A writer goes to a phase without the lock, or keeps the lock it has. -/
theorem Sound.go (h : Sound json name calls s) {phase : WritePhase Document}
    (hholds : phase.holding = true → (s.phase w).holding = true)
    (hencoded : phase.holding = true ∨ phase = .locking →
      ∃ payload, json.canonicalJson (calls w).document = .ok payload)
    (hstage : Stage json name (calls w) s.folder phase) : Sound json name calls (s.go w phase) where
  exclusive := fun v hv => by
    rw [phase_go] at hv
    split at hv
    · rename_i heq
      subst heq
      exact h.exclusive v (hholds hv)
    · exact h.exclusive v hv
  encoded := fun v hv => by
    rw [phase_go] at hv
    split at hv
    · rename_i heq
      subst heq
      exact hencoded hv
    · exact h.encoded v hv
  stages := fun v => by
    rw [phase_go]
    split
    · rename_i heq
      subst heq
      exact hstage
    · exact h.stages v
  published := h.published

/-- A writer that is past the lock gives it back. -/
theorem Sound.release (h : Sound json name calls s) (hpast : (s.phase w).holding = false) :
    Sound json name calls (s.release w) where
  exclusive := fun v hv => by
    have hholder := h.exclusive v hv
    have hne : v ≠ w := by
      rintro rfl
      exact Bool.false_ne_true (hpast.symm.trans hv)
    show (if s.holder = some w then none else s.holder) = some v
    rw [hholder, if_neg fun heq => hne (Option.some.inj heq)]
  encoded := h.encoded
  stages := h.stages
  published := h.published

/-- **Every step keeps the writers sound.** -/
theorem Step.sound (hstep : Step json name calls s w out t) (h : Sound json name calls s) :
    Sound json name calls t := by
  cases hstep with
  | @encoded payload hphase hpayload =>
    exact h.go (fun hheld => by cases hheld) (fun _ => ⟨payload, hpayload⟩) trivial
  | refused hphase =>
    refine h.go (fun hheld => by cases hheld) (fun hnext => ?_) trivial
    rcases hnext with hheld | hlocking
    · cases hheld
    · cases hlocking
  | locked hphase hfree =>
    have hencoded := h.encoded w (Or.inr hphase)
    refine ⟨fun v hv => ?_, fun v hv => ?_, fun v => ?_, h.published⟩
    · rw [phase_go] at hv
      split at hv
      · rename_i heq
        rw [heq]
      · have hheld := h.exclusive v hv
        rw [hfree] at hheld
        cases hheld
    · rw [phase_go] at hv
      split at hv
      · rename_i heq
        rw [heq]
        exact hencoded
      · exact h.encoded v hv
    · rw [phase_go]
      split
      · trivial
      · exact h.stages v
  | @writes d phase hwrite =>
    obtain ⟨hheld, hheld'⟩ := hwrite.holding
    have hencoded := h.encoded w (Or.inl hheld)
    refine ⟨fun v hv => ?_, fun v hv => ?_, fun v => ?_, fun f hf => ?_⟩
    · rw [phase_go] at hv
      split at hv
      · rename_i heq
        rw [heq]
        exact h.exclusive w hheld
      · exact h.exclusive v hv
    · rw [phase_go] at hv
      split at hv
      · rename_i heq
        rw [heq]
        exact hencoded
      · exact h.encoded v hv
    · rw [phase_go]
      split
      · rename_i heq
        rw [heq]
        exact hwrite.stage (h.stages w)
      · rename_i hne
        exact stage_idle (h.others hheld hne)
    · rcases hwrite.read hencoded (h.stages w) with hsame | ⟨⟨g, hread, hbytes⟩, -⟩
      · exact h.published f (hsame.symm.trans hf)
      · obtain rfl := Option.some.inj (hread.symm.trans hf)
        exact ⟨w, hbytes⟩
  | @unlocked outcome hphase result hresult =>
    have hgone : Sound json name calls (s.go w (.finished result)) := by
      refine h.go (fun hheld => by cases hheld) (fun hnext => ?_) trivial
      rcases hnext with hheld | hlocking
      · cases hheld
      · cases hlocking
    exact hgone.release (by rw [phase_go, if_pos rfl]; rfl)
  | killed halive =>
    have hgone : Sound json name calls (s.go w .killed) := by
      refine h.go (fun hheld => by cases hheld) (fun hnext => ?_) trivial
      rcases hnext with hheld | hlocking
      · cases hheld
      · cases hlocking
    exact hgone.release (by rw [phase_go, if_pos rfl]; rfl)

/-- What one step does to the named file. -/
theorem Step.read (hstep : Step json name calls s w out t) (h : Sound json name calls s) :
    t.folder.read name = s.folder.read name ∨
      ((calls w).policy ≠ .replace → s.folder.read name = none) := by
  cases hstep with
  | @writes d phase hwrite =>
    obtain ⟨hheld, -⟩ := hwrite.holding
    rcases hwrite.read (h.encoded w (Or.inl hheld)) (h.stages w) with hsame | ⟨-, hfree⟩
    · exact Or.inl hsame
    · exact Or.inr hfree
  | _ => exact Or.inl rfl

/-! ## 3. Calls that find the file -/

/-- What a call that does not replace may end with when the name holds `f`. -/
def Answered (json : JsonLibrary Document) (call : WriteCall Document) (f : RegularFile)
    (outcome : WriteOutcome Document) : Prop :=
  outcome = .raised ∨ ∃ existing, outcome = .returned existing false ∧
    json.loads f.content = .ok existing ∧ f.mode = call.mode ∧
      (call.policy = .identical → ∃ payload, json.canonicalJson existing = .ok payload ∧
        json.canonicalJson call.document = .ok payload)

/-- How far a call can come that does not replace and begins when the name holds `f`. -/
def Finding (json : JsonLibrary Document) (call : WriteCall Document) (f : RegularFile) :
    WritePhase Document → Prop
  | .encoding => True
  | .locking => True
  | .inspecting => True
  | .reading _ _ => True
  | .unlocking outcome => Answered json call f outcome
  | .finished outcome => Answered json call f outcome
  | .killed => True
  | _ => False

theorem Finding.write {call : WriteCall Document} {f : RegularFile} {d d' : Folder RegularFile}
    {phase phase' : WritePhase Document} (hstep : WriteStep json name call d phase d' phase')
    (hpolicy : call.policy ≠ .replace) (hread : d.read name = some f)
    (h : Finding json call f phase) : Finding json call f phase' := by
  cases hstep with
  | absent hnone =>
    rw [Folder.read_none hnone] at hread
    cases hread
  | opened => trivial
  | chunk => trivial
  | kept hwhole hdecoded hne hmode hidentical =>
    obtain rfl := Option.some.inj (hwhole.read.symm.trans hread)
    refine Or.inr ⟨_, rfl, ?_, hmode, hidentical⟩
    rw [hwhole.whole]
    exact hdecoded
  | replaceable hwhole hdecoded hreplace => exact absurd hreplace hpolicy
  | raises => exact Or.inl rfl
  | raisesOver htemporary =>
    cases phase with
    | chmodding => cases h
    | writing => cases h
    | syncing => cases h
    | closing => cases h
    | replacing => cases h
    | syncingFolder => cases h
    | _ => cases htemporary
  | _ => cases h

/-- **A call that finds the file answers with it.** -/
theorem Step.finding (hstep : Step json name calls s w out t) {f : RegularFile} {v : W}
    (hpolicy : (calls v).policy ≠ .replace) (hread : s.folder.read name = some f)
    (h : Finding json (calls v) f (s.phase v)) :
    Finding json (calls v) f (t.phase v) ∧ ∀ o, (v, o) ∈ out → Answered json (calls v) f o := by
  -- what the writer `w` does is seen by `v` only where they are the same
  have hgo : ∀ {phase : WritePhase Document}, (v = w → Finding json (calls v) f phase) →
      Finding json (calls v) f (if v = w then phase else s.phase v) := by
    intro phase hphase
    split
    · rename_i heq
      exact hphase heq
    · exact h
  have hout : ∀ {outcome : WriteOutcome Document}, (v = w → Answered json (calls v) f outcome) →
      ∀ o, (v, o) ∈ [(w, outcome)] → Answered json (calls v) f o := by
    intro outcome houtcome o ho
    obtain ⟨rfl, rfl⟩ := Prod.mk.inj (List.mem_singleton.mp ho)
    exact houtcome rfl
  have hsilent : ∀ o, (v, o) ∈ ([] : List (W × WriteOutcome Document)) →
      Answered json (calls v) f o := fun o ho => absurd ho List.not_mem_nil
  cases hstep with
  | encoded => exact ⟨hgo fun _ => trivial, hsilent⟩
  | refused => exact ⟨hgo fun _ => Or.inl rfl, hout fun _ => Or.inl rfl⟩
  | locked => exact ⟨hgo fun _ => trivial, hsilent⟩
  | writes hwrite =>
    refine ⟨hgo fun heq => ?_, hsilent⟩
    subst heq
    exact Finding.write hwrite hpolicy hread h
  | @unlocked outcome hphase result hresult =>
    have hanswered : v = w → Answered json (calls v) f result := by
      intro heq
      subst heq
      rw [hphase] at h
      rcases hresult with rfl | rfl
      · exact h
      · exact Or.inl rfl
    exact ⟨hgo hanswered, hout hanswered⟩
  | killed => exact ⟨hgo fun _ => trivial, hsilent⟩

/-! ## 4. Any interleaving -/

theorem sound_run {ws : List W} {log : List (W × WriteOutcome Document)}
    (h : Run (Step json name calls) s ws log t) (hs : Sound json name calls s) :
    Sound json name calls t :=
  h.invariant hs fun _ _ _ _ hsound hstep => hstep.sound hsound

/-- Where no writer replaces, the file stays, and later calls answer with it. -/
theorem first_wins {ws : List W} {log : List (W × WriteOutcome Document)}
    (h : Run (Step json name calls) s ws log t) (hs : Sound json name calls s)
    (hpolicy : ∀ w, (calls w).policy ≠ .replace) {f : RegularFile}
    (hread : s.folder.read name = some f) :
    t.folder.read name = some f ∧ ∀ w, s.phase w = .encoding →
      Finding json (calls w) f (t.phase w) ∧ ∀ o, (w, o) ∈ log → Answered json (calls w) f o := by
  induction h with
  | start =>
    refine ⟨hread, fun w hw => ⟨?_, fun o ho => absurd ho List.not_mem_nil⟩⟩
    rw [hw]
    trivial
  | @step ws log t v out u hrun hstep ih =>
    obtain ⟨hkept, hcalls⟩ := ih
    refine ⟨?_, fun w hw => ?_⟩
    · rcases hstep.read (sound_run hrun hs) with hsame | hfree
      · exact hsame.trans hkept
      · rw [hfree (hpolicy v)] at hkept
        cases hkept
    · obtain ⟨hfinding, hanswered⟩ := hcalls w hw
      obtain ⟨hnext, hnew⟩ := hstep.finding (hpolicy w) hkept hfinding
      refine ⟨hnext, fun o ho => ?_⟩
      rcases List.mem_append.mp ho with hbefore | hnow
      · exact hanswered o hbefore
      · exact hnew o hnow

/-- What a call returns without writing is the file at that moment. -/
theorem Step.returned (hstep : Step json name calls s w out t) {existing : Document}
    (hphase : t.phase w = .unlocking (.returned existing false)) :
    s.phase w = t.phase w ∨ (calls w).policy ≠ .replace ∧ ∃ f, s.folder.read name = some f ∧
      Answered json (calls w) f (.returned existing false) := by
  have hself : ∀ phase : WritePhase Document, (if w = w then phase else s.phase w) = phase :=
    fun phase => if_pos rfl
  cases hstep with
  | @writes d phase hwrite =>
    have hnext : phase = .unlocking (.returned existing false) := (hself phase).symm.trans hphase
    subst hnext
    generalize hbefore : s.phase w = before at hwrite
    cases hwrite with
    | kept hwhole hdecoded hpolicy hmode hidentical =>
      refine Or.inr ⟨hpolicy, _, hwhole.read, Or.inr ⟨existing, rfl, ?_, hmode, hidentical⟩⟩
      rw [hwhole.whole]
      exact hdecoded
  | encoded => exact absurd ((hself _).symm.trans hphase) (by simp)
  | refused => exact absurd ((hself _).symm.trans hphase) (by simp)
  | locked => exact absurd ((hself _).symm.trans hphase) (by simp)
  | unlocked => exact absurd ((hself _).symm.trans hphase) (by simp)
  | killed => exact absurd ((hself _).symm.trans hphase) (by simp)

/-- **Publication is atomic and the first one wins.** In any interleaving of the writers, with any
    of them failing or killed at any step, the named file is absent or the encoded document of one
    of them; a step of a writer that does not replace leaves a file that is there; a call that
    returns without writing returns the file of that moment, as its policy says. Where no writer
    replaces, the file never changes and every call that begins later raises or returns it. -/
theorem protocolFile_atomic (json : JsonLibrary Document) (name : String)
    (calls : W → WriteCall Document) {d : Folder RegularFile} (hfree : d.entries name = none)
    {ws : List W} {log : List (W × WriteOutcome Document)}
    (h : Run (Step json name calls) (initial d) ws log s) :
    (s.folder.read name = none ∨ ∃ w f, s.folder.read name = some f ∧
      json.canonicalJson (calls w).document = .ok f.content) ∧
    (∀ w out t f, Step json name calls s w out t → (calls w).policy ≠ .replace →
      s.folder.read name = some f → t.folder.read name = some f) ∧
    (∀ w out t existing, Step json name calls s w out t →
      t.phase w = .unlocking (.returned existing false) → s.phase w = t.phase w ∨
        (calls w).policy ≠ .replace ∧ ∃ f, s.folder.read name = some f ∧
          Answered json (calls w) f (.returned existing false)) ∧
    ((∀ w, (calls w).policy ≠ .replace) → ∀ f, s.folder.read name = some f →
      ∀ later outcomes t, Run (Step json name calls) s later outcomes t →
        t.folder.read name = some f ∧ ∀ w, s.phase w = .encoding →
          ∀ o, (w, o) ∈ outcomes → Answered json (calls w) f o) := by
  have hsound := sound_run h (show Sound json name calls (initial _) from sound_initial hfree)
  refine ⟨?_, ?_, ?_, ?_⟩
  · cases hread : s.folder.read name with
    | none => exact Or.inl rfl
    | some f =>
      obtain ⟨w, hw⟩ := hsound.published f hread
      exact Or.inr ⟨w, f, rfl, hw⟩
  · intro w out t f hstep hpolicy hread
    rcases hstep.read hsound with hsame | hnone
    · exact hsame.trans hread
    · rw [hnone hpolicy] at hread
      cases hread
  · exact fun w out t existing hstep hphase => hstep.returned hphase
  · intro hpolicy f hread later outcomes t hrun
    obtain ⟨hkept, hcalls⟩ := first_wins hrun hsound hpolicy hread
    exact ⟨hkept, fun w hw => (hcalls w hw).2⟩

/-- A writer of `{}` and one of `[]`. -/
def plainCalls (w : Bool) : WriteCall (List UInt8) :=
  if w then ⟨[91, 93, 10], 0o644, .firstWins, "1"⟩ else ⟨[123, 125, 10], 0o644, .firstWins, "0"⟩

/-- Two writers wait for the lock: one publishes its document, the other returns it. -/
theorem protocolFile_published : ∃ ws log s,
    Run (Step plainJson "ready.json" plainCalls) (initial Folder.empty) ws log s ∧
      log = [(false, .returned [123, 125, 10] true), (true, .returned [123, 125, 10] false)] ∧
      ∃ f, s.folder.read "ready.json" = some f ∧ f.content = [123, 125, 10] ∧
        ∀ later outcomes t, Run (Step plainJson "ready.json" plainCalls) s later outcomes t →
          t.folder.read "ready.json" = some f := by
  have h0 := Run.single (R := Step plainJson "ready.json" plainCalls) (s := initial Folder.empty)
    (Step.encoded (w := true) rfl rfl)
  have h1 := h0.step (i := false) (.encoded rfl rfl)
  have h2 := h1.step (i := false) (.locked rfl rfl)
  have h3 := h2.step (i := false) (.writes (.absent rfl))
  have h4 := h3.step (i := false) (.writes (.created 0o600 rfl))
  have h5 := h4.step (i := false) (.writes .chmodded)
  have h6 := h5.step (i := false) (.writes (.wrote 3 rfl (by decide) (by decide)))
  have h7 := h6.step (i := false) (.writes (@WriteStep.written _ _ _ _ _ _ [123, 125, 10] rfl))
  have h8 := h7.step (i := false) (.writes .synced)
  have h9 := h8.step (i := false) (.writes .closed)
  have h10 := h9.step (i := false) (.writes (.replaced rfl))
  have h11 := h10.step (i := false) (.writes (.persisted rfl rfl))
  have h12 := h11.step (i := false) (.unlocked rfl _ (Or.inl rfl))
  -- the second writer gets the lock and finds the file
  have h13 := h12.step (i := true) (.locked rfl rfl)
  have h14 := h13.step (i := true) (.writes (.opened rfl rfl rfl))
  have h15 := h14.step (i := true)
    (.writes (@WriteStep.chunk _ _ _ _ _ _ [] _ [123, 125, 10] [] rfl rfl))
  have h16 := h15.step (i := true) (.writes (.kept ⟨rfl, rfl, rfl, rfl, by decide⟩ rfl
    (by decide) rfl nofun))
  have h17 := h16.step (i := true) (.unlocked rfl _ (Or.inl rfl))
  refine ⟨_, _, _, h17, rfl, _, rfl, rfl, fun later outcomes t hlater => ?_⟩
  have hkept := (protocolFile_atomic plainJson "ready.json" plainCalls rfl h17).2.2.2
  exact (hkept (fun w => by cases w <;> simp [plainCalls]) _ rfl later outcomes t hlater).1

end SharedFolder

end DroneSim
