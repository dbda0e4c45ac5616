/-
  File:      DroneSim/Artifacts/ManifestPublication.lean
  Subject:   When the publication of manifest.json survives crashes.

  Between the link and the removal of the temporary name the manifest has two names, and readers
  refuse it. A call that is killed there leaves both names, and no later call removes the old one
  (`crash_unreadable`). Where no call ends there and no reader begins there, the manifest is
  absent or the published one under one name, and no reader raises (`manifest_published`).
-/
import DroneSim.Artifacts.ManifestWriter

namespace DroneSim

open Library

/-! ## 1. What holds of one call -/

/-- The temporary file of a call that has not published: it has one name and is not the manifest. -/
structure Draft (d : Folder RegularFile) (temporary : String) (ino : ℕ) (bytes : List UInt8) :
    Prop where
  other : temporary ≠ manifestName
  named : d.entries temporary = some ino
  apart : d.entries manifestName ≠ some ino
  holds : ∃ i, d.file ino = some i ∧ i.data.content = bytes ∧ i.links = 1

/-- What holds of the directory while a call is under way. -/
def PublishStage (payload : List UInt8) (d : Folder RegularFile) : PublishPhase → Prop
  | .writing temporary ino written => Draft d temporary ino (payload.take written)
  | .syncing temporary => ∃ ino, Draft d temporary ino payload
  | .linking temporary => ∃ ino, Draft d temporary ino payload
  | .resolving temporary => temporary ≠ manifestName ∧ ∃ ino, d.entries temporary = some ino
  | .cleaning temporary _ => temporary ≠ manifestName ∧ ∃ ino, d.entries temporary = some ino
  | _ => True

variable {payload : List UInt8} {d d' : Folder RegularFile} {phase phase' : PublishPhase}
  {temporary : String} {ino : ℕ}

/-- A call with a temporary name has a file under it. -/
theorem PublishStage.named (h : PublishStage payload d phase)
    (htemporary : phase.temporary = some temporary) :
    temporary ≠ manifestName ∧ ∃ ino, d.entries temporary = some ino := by
  cases phase with
  | writing _ ino _ =>
    obtain rfl := Option.some.inj htemporary
    exact ⟨h.other, ino, h.named⟩
  | syncing =>
    obtain rfl := Option.some.inj htemporary
    obtain ⟨ino, hdraft⟩ := h
    exact ⟨hdraft.other, ino, hdraft.named⟩
  | linking =>
    obtain rfl := Option.some.inj htemporary
    obtain ⟨ino, hdraft⟩ := h
    exact ⟨hdraft.other, ino, hdraft.named⟩
  | resolving =>
    obtain rfl := Option.some.inj htemporary
    exact h
  | cleaning =>
    obtain rfl := Option.some.inj htemporary
    exact h
  | _ => cases htemporary

theorem publishStage_idle (h : phase.temporary = none) : PublishStage payload d phase := by
  cases phase with
  | encoding => trivial
  | naming => trivial
  | syncingFolder => trivial
  | finished => trivial
  | killed => trivial
  | _ => cases h

/-- A draft that the change of the directory does not touch. -/
theorem Draft.frame {bytes : List UInt8} (h : Draft d temporary ino bytes)
    (hnamed : d'.entries temporary = d.entries temporary) (hfile : d'.file ino = d.file ino)
    (hapart : d'.entries manifestName ≠ some ino) : Draft d' temporary ino bytes :=
  ⟨h.other, hnamed.trans h.named, hapart, by rw [hfile]; exact h.holds⟩

/-- The draft after its data changed. -/
theorem Draft.rewrite {bytes after : List UInt8} (h : Draft d temporary ino bytes)
    (f : RegularFile → RegularFile)
    (hf : ∀ file : RegularFile, file.content = bytes → (f file).content = after) :
    Draft (d.rewrite ino f) temporary ino after where
  other := h.other
  named := h.named
  apart := h.apart
  holds := by
    obtain ⟨i, hi, hbytes, hlinks⟩ := h.holds
    refine ⟨i.store f, ?_, hf i.data hbytes, hlinks⟩
    rw [Folder.file_rewrite, if_pos rfl, hi]
    rfl

/-- **What another call does to a directory**, a call whose file has another number. -/
theorem PublishStage.frame (h : PublishStage payload d phase)
    (hframe : ∀ temporary ino, phase.temporary = some temporary →
      d.entries temporary = some ino → d'.entries temporary = d.entries temporary ∧
        d'.file ino = d.file ino ∧
          (d.entries manifestName ≠ some ino → d'.entries manifestName ≠ some ino)) :
    PublishStage payload d' phase := by
  have hdraft : ∀ {temporary ino bytes}, phase.temporary = some temporary →
      Draft d temporary ino bytes → Draft d' temporary ino bytes := by
    intro temporary ino bytes htemporary hdraft
    obtain ⟨hnamed, hfile, hapart⟩ := hframe temporary ino htemporary hdraft.named
    exact hdraft.frame hnamed hfile (hapart hdraft.apart)
  have hname : ∀ {temporary}, phase.temporary = some temporary →
      (temporary ≠ manifestName ∧ ∃ ino, d.entries temporary = some ino) →
      temporary ≠ manifestName ∧ ∃ ino, d'.entries temporary = some ino := by
    intro temporary htemporary ⟨hne, ino, hino⟩
    exact ⟨hne, ino, (hframe temporary ino htemporary hino).1.trans hino⟩
  cases phase with
  | writing => exact hdraft rfl h
  | syncing =>
    obtain ⟨ino, hsynced⟩ := h
    exact ⟨ino, hdraft rfl hsynced⟩
  | linking =>
    obtain ⟨ino, hsynced⟩ := h
    exact ⟨ino, hdraft rfl hsynced⟩
  | resolving => exact hname rfl h
  | cleaning => exact hname rfl h
  | _ => trivial

/-! ## 2. The invariant -/

namespace Publishing

variable {W R Document : Type} {json : JsonLibrary Document} {s t : Publishing W R Document}

/-- The manifest under one name, or under two in the window of a call. -/
def Linked (payload : List UInt8) (s : Publishing W R Document) (ino : ℕ) : Prop :=
  ∃ i, s.folder.file ino = some i ∧ i.data.content = payload ∧
    (i.links = 1 ∧ (∀ w temporary, (s.writer w).temporary = some temporary →
      s.folder.entries temporary ≠ some ino) ∨
    i.links = 2 ∧ ∃ w temporary, (s.writer w).temporary = some temporary ∧
      s.folder.entries temporary = some ino)

/-- What a reader saw is still there. -/
def Looking (d : Folder RegularFile) (before : Snapshot) : Prop :=
  Unchanged d before ∧ before.links = 1

/-- What holds of a reader. -/
def ReadStage (json : JsonLibrary Document) (payload : List UInt8) (d : Folder RegularFile) :
    ReadPhase Document → Prop
  | .inspecting => True
  | .opening before => Looking d before
  | .reading before _ => Looking d before
  | .finished outcome => outcome = .ok none ∨
    ∃ document, json.loads payload = .ok document ∧ outcome = .ok (some document)

/-- **The invariant of the calls and the readers.** -/
structure Sound (json : JsonLibrary Document) (payload : List UInt8)
    (s : Publishing W R Document) : Prop where
  apart : ∀ v w old new ino, (s.writer v).temporary = some old →
    (s.writer w).temporary = some new → s.folder.entries old = some ino →
      s.folder.entries new = some ino → v = w
  stages : ∀ w, PublishStage payload s.folder (s.writer w)
  manifest : ∀ ino, s.folder.entries manifestName = some ino → Linked payload s ino
  readers : ∀ r, ReadStage json payload s.folder (s.reader r)

theorem sound_initial (h : d.entries manifestName = none) :
    Sound json payload (initial d : Publishing W R Document) where
  apart := by
    intro v w old new ino hold
    cases hold
  stages := fun w => trivial
  manifest := fun ino hino => by
    rw [show (initial d : Publishing W R Document).folder.entries manifestName = none from h]
      at hino
    cases hino
  readers := fun r => trivial

/-- No window is open when no call has a temporary name. -/
theorem not_window (h : ∀ w, (s.writer w).temporary = none) (w : W) :
    ¬ s.Window w := by
  rintro ⟨temporary, hw, -⟩
  rw [h w] at hw
  cases hw

/-- A reader is not disturbed by a change that leaves the manifest alone. -/
theorem ReadStage.frame {read : ReadPhase Document} (h : ReadStage json payload d read)
    (hframe : ∀ ino i, d.entries manifestName = some ino → d.file ino = some i → i.links = 1 →
      d'.entries manifestName = some ino ∧ d'.file ino = some i) :
    ReadStage json payload d' read := by
  have hlooking : ∀ {before}, Looking d before → Looking d' before := by
    intro before ⟨⟨i, hnamed, hfile, hsame⟩, hlinks⟩
    have hsingle : i.links = 1 := by
      rw [← hsame] at hlinks
      exact hlinks
    obtain ⟨hnamed', hfile'⟩ := hframe before.ino i hnamed hfile hsingle
    exact ⟨⟨i, hnamed', hfile', hsame⟩, hlinks⟩
  cases read with
  | inspecting => trivial
  | opening => exact hlooking h
  | reading => exact hlooking h
  | finished => exact h

/-- **A reader that began outside every window does not raise.** -/
theorem readStage_step {read read' : ReadPhase Document} (hstep : ReadStep json s.folder read read')
    (h : ReadStage json payload s.folder read)
    (hmanifest : ∀ ino, s.folder.entries manifestName = some ino → Linked payload s ino)
    (hwindow : read = .inspecting → ∀ w, ¬ s.Window w) (hsize : payload.length ≤ maxBytes)
    {document : Document} (hdecoded : json.loads payload = .ok document) :
    ReadStage json payload s.folder read' := by
  -- the file under the name holds the payload
  have hcontent : ∀ {before i}, Unchanged s.folder before → s.folder.file before.ino = some i →
      i.data.content = payload := by
    rintro before i ⟨j, hnamed, -, -⟩ hfile
    obtain ⟨k, hk, hpayload, -⟩ := hmanifest before.ino hnamed
    obtain rfl := Option.some.inj (hk.symm.trans hfile)
    exact hpayload
  cases hstep with
  | absent hnone => exact Or.inl rfl
  | inspected hnamed hfile hsingle => exact ⟨⟨_, hnamed, hfile, rfl⟩, hsingle⟩
  | @linked ino i hnamed hfile hlinks =>
    obtain ⟨j, hj, -, hone | ⟨-, w, temporary, htemporary, hsame⟩⟩ := hmanifest ino hnamed
    · obtain rfl := Option.some.inj (hj.symm.trans hfile)
      exact absurd hone.1 hlinks
    · refine absurd ⟨temporary, htemporary, ?_, ?_⟩ (hwindow rfl w)
      · rw [hnamed]
        exact Option.some_ne_none ino
      · rw [hnamed, hsame]
  | opened hsame hbounded => exact h
  | changedOpening hchanged => exact absurd h.1 hchanged
  | @tooLarge before hsame hlarge =>
    obtain ⟨i, hnamed, hfile, hequal⟩ := h.1
    have hlength : before.size = payload.length := by
      rw [← hcontent hsame hfile, ← hequal]
      rfl
    omega
  | chunk => exact h
  | @decoded before chunks i found hfile hwhole hsame hfound =>
    refine Or.inr ⟨found, ?_, rfl⟩
    rw [← hcontent hsame hfile, hwhole]
    exact hfound
  | changedReading hchanged => exact absurd h.1 hchanged
  | @undecodable before chunks i text hfile hwhole herror =>
    rw [← hwhole, hcontent h.1 hfile, hdecoded] at herror
    cases herror

/-! ## 3. What the steps of a call keep -/

variable {w : W}

/-- The temporary file of the call that goes on is not another call's. -/
theorem Sound.other (h : Sound json payload s) {v : W} (hne : v ≠ w) {old new : String}
    {ino n : ℕ} (hw : (s.writer w).temporary = some old) (hold : s.folder.entries old = some ino)
    (hv : (s.writer v).temporary = some new) (hnew : s.folder.entries new = some n) :
    new ≠ old ∧ n ≠ ino := by
  constructor
  · rintro rfl
    exact hne (h.apart v w new new ino hv hw hold hold)
  · rintro rfl
    exact hne (h.apart v w new old n hv hw hnew hold)

variable [DecidableEq W]

@[simp] theorem writer_go (d : Folder RegularFile) (phase : PublishPhase) (v : W) :
    (s.goWriter w d phase).writer v = if v = w then phase else s.writer v := rfl

@[simp] theorem folder_go (d : Folder RegularFile) (phase : PublishPhase) :
    (s.goWriter w d phase).folder = d := rfl

/-- Only the last step of a call counts. -/
theorem go_go (d d' : Folder RegularFile) (phase phase' : PublishPhase) :
    (s.goWriter w d phase).goWriter w d' phase' = s.goWriter w d' phase' := by
  unfold goWriter
  congr
  funext v
  by_cases hv : v = w
  · rw [if_pos hv, if_pos hv]
  · rw [if_neg hv, if_neg hv]
    exact if_neg hv

/-- The temporary name of a call after one of the calls went on. -/
theorem temporary_go {d : Folder RegularFile} {phase : PublishPhase} {v : W}
    (h : ((s.goWriter w d phase).writer v).temporary = some temporary) :
    v = w ∧ phase.temporary = some temporary ∨ v ≠ w ∧ (s.writer v).temporary = some temporary := by
  rw [writer_go] at h
  split at h
  · rename_i heq
    exact Or.inl ⟨heq, h⟩
  · rename_i hne
    exact Or.inr ⟨hne, h⟩

/-- **A call that keeps the directory**, takes no name and leaves the name that the manifest has. -/
theorem Sound.go (h : Sound json payload s)
    (hback : ∀ {v temporary}, ((s.goWriter w s.folder phase).writer v).temporary = some temporary →
      (s.writer v).temporary = some temporary)
    (hforth : ∀ {v temporary ino}, s.folder.entries manifestName = some ino →
      (s.writer v).temporary = some temporary → s.folder.entries temporary = some ino →
      ((s.goWriter w s.folder phase).writer v).temporary = some temporary)
    (hstage : PublishStage payload s.folder phase) :
    Sound json payload (s.goWriter w s.folder phase) := by
  refine ⟨fun u v old new ino hu hv => h.apart u v old new ino (hback hu) (hback hv), fun v => ?_,
    fun ino hino => ?_, h.readers⟩
  · rw [writer_go]
    split
    · exact hstage
    · exact h.stages v
  · obtain ⟨i, hfile, hpayload, hlinks⟩ := h.manifest ino hino
    refine ⟨i, hfile, hpayload, hlinks.imp ?_ ?_⟩
    · exact fun hone => ⟨hone.1, fun v temporary hv => hone.2 v temporary (hback hv)⟩
    · exact fun htwo => ⟨htwo.1, by
        obtain ⟨v, temporary, hv, hsame⟩ := htwo.2
        exact ⟨v, temporary, hforth hino hv hsame, hsame⟩⟩

/-- **A call that keeps its temporary name and the directory.** -/
theorem Sound.stay (h : Sound json payload s)
    (htemporary : phase.temporary = (s.writer w).temporary)
    (hstage : PublishStage payload s.folder phase) :
    Sound json payload (s.goWriter w s.folder phase) := by
  refine h.go (fun hv => ?_) (fun _ hv _ => ?_) hstage
  · rcases temporary_go hv with ⟨rfl, hphase⟩ | ⟨-, hv⟩
    · exact htemporary ▸ hphase
    · exact hv
  · rw [writer_go]
    split
    · rename_i heq
      subst heq
      exact htemporary.trans hv
    · exact hv

/-- **A call that gives up its temporary name**, outside its window. -/
theorem Sound.drop (h : Sound json payload s) (hnone : phase.temporary = none)
    (hwindow : ¬ s.Window w) : Sound json payload (s.goWriter w s.folder phase) := by
  refine h.go (fun hv => ?_) (fun {v temporary ino} hnamed hv hsame => ?_) (publishStage_idle hnone)
  · rcases temporary_go hv with ⟨-, hphase⟩ | ⟨-, hv⟩
    · rw [hnone] at hphase
      cases hphase
    · exact hv
  · have hne : v ≠ w := by
      rintro rfl
      refine hwindow ⟨temporary, hv, ?_, hsame.trans hnamed.symm⟩
      rw [hnamed]
      exact Option.some_ne_none ino
    rw [writer_go, if_neg hne]
    exact hv

/-- `mkstemp` under a free name. -/
theorem Sound.create (h : Sound json payload s) (hphase : s.writer w = .naming) {random : String}
    (hfree : s.folder.entries (manifestTemporary random) = none) :
    Sound json payload (s.goWriter w (s.folder.create (manifestTemporary random) ⟨[], 0o600⟩)
      (.writing (manifestTemporary random) s.folder.files.length 0)) := by
  have hkept : ∀ {name ino}, s.folder.entries name = some ino →
      (s.folder.create (manifestTemporary random) ⟨[], 0o600⟩).entries name = some ino ∧
        (s.folder.create (manifestTemporary random) ⟨[], 0o600⟩).file ino = s.folder.file ino := by
    intro name ino hname
    refine ⟨?_, Folder.file_create (s.folder.bounded name ino hname)⟩
    rw [Folder.entries_create, if_neg, hname]
    rintro rfl
    rw [hfree] at hname
    cases hname
  have hname : (s.folder.create (manifestTemporary random) ⟨[], 0o600⟩).entries manifestName =
      s.folder.entries manifestName := by
    rw [Folder.entries_create, if_neg (manifestTemporary_ne random).symm]
  have hnew : (s.folder.create (manifestTemporary random) ⟨[], 0o600⟩).entries
      (manifestTemporary random) = some s.folder.files.length := by
    rw [Folder.entries_create, if_pos rfl]
  -- a call that had a temporary name has it still, under an older number
  have hold : ∀ {v temporary ino}, v ≠ w → (s.writer v).temporary = some temporary →
      (s.folder.create (manifestTemporary random) ⟨[], 0o600⟩).entries temporary = some ino →
        s.folder.entries temporary = some ino ∧ ino < s.folder.files.length := by
    intro v temporary ino _ hv hino
    obtain ⟨-, n, hn⟩ := (h.stages v).named hv
    obtain rfl := Option.some.inj ((hkept hn).1.symm.trans hino)
    exact ⟨hn, s.folder.bounded temporary n hn⟩
  refine ⟨fun u v old new ino hu hv hino hino' => ?_, fun v => ?_, fun ino hino => ?_, fun r => ?_⟩
  · rcases temporary_go hu with ⟨hueq, humine⟩ | ⟨hune, huold⟩
    · rcases temporary_go hv with ⟨hveq, -⟩ | ⟨hvne, hvold⟩
      · exact hueq.trans hveq.symm
      · obtain rfl := Option.some.inj humine
        obtain rfl := Option.some.inj (hnew.symm.trans hino)
        have hlt := (hold hvne hvold hino').2
        omega
    · rcases temporary_go hv with ⟨hveq, hvmine⟩ | ⟨hvne, hvold⟩
      · obtain rfl := Option.some.inj hvmine
        obtain rfl := Option.some.inj (hnew.symm.trans hino')
        have hlt := (hold hune huold hino).2
        omega
      · exact h.apart u v old new ino huold hvold (hold hune huold hino).1
          (hold hvne hvold hino').1
  · rw [writer_go]
    split
    · refine ⟨manifestTemporary_ne random, hnew, fun hsame => ?_, _, Folder.file_create_new _ _,
        rfl, rfl⟩
      have hlt := s.folder.bounded manifestName _ (hname.symm.trans hsame)
      omega
    · refine (h.stages v).frame fun temporary ino hv hino => ?_
      obtain ⟨hentries, hfile⟩ := hkept hino
      exact ⟨hentries.trans hino.symm, hfile, fun hapart => by rw [folder_go, hname]; exact hapart⟩
  · have hbefore : s.folder.entries manifestName = some ino := hname.symm.trans hino
    obtain ⟨i, hfile, hpayload, hlinks⟩ := h.manifest ino hbefore
    refine ⟨i, (hkept hbefore).2.trans hfile, hpayload, hlinks.imp ?_ ?_⟩
    · refine fun hone => ⟨hone.1, fun v temporary hv hsame => ?_⟩
      rcases temporary_go hv with ⟨-, hmine⟩ | ⟨hvne, hvold⟩
      · obtain rfl := Option.some.inj hmine
        obtain rfl := Option.some.inj (hnew.symm.trans hsame)
        have hlt := s.folder.bounded manifestName _ hbefore
        omega
      · exact hone.2 v temporary hvold (hold hvne hvold hsame).1
    · refine fun htwo => ⟨htwo.1, ?_⟩
      obtain ⟨v, temporary, hv, hsame⟩ := htwo.2
      have hne : v ≠ w := by
        rintro rfl
        rw [hphase] at hv
        cases hv
      refine ⟨v, temporary, ?_, (hkept hsame).1⟩
      rw [writer_go, if_neg hne]
      exact hv
  · exact (h.readers r).frame fun ino i hino hi _ =>
      ⟨(hkept hino).1, (hkept hino).2.trans hi⟩

/-- A write to the temporary file. -/
theorem Sound.rewrite (h : Sound json payload s) {bytes : List UInt8}
    (hw : (s.writer w).temporary = some temporary) (hdraft : Draft s.folder temporary ino bytes)
    (f : RegularFile → RegularFile) (hsame : phase.temporary = some temporary)
    (hstage : PublishStage payload (s.folder.rewrite ino f) phase) :
    Sound json payload (s.goWriter w (s.folder.rewrite ino f) phase) := by
  have hfile : ∀ {n}, n ≠ ino → (s.folder.rewrite ino f).file n = s.folder.file n := by
    intro n hne
    rw [Folder.file_rewrite, if_neg hne.symm]
  have hback : ∀ {v old}, ((s.goWriter w (s.folder.rewrite ino f) phase).writer v).temporary =
      some old → (s.writer v).temporary = some old := by
    intro v old hv
    rcases temporary_go hv with ⟨rfl, hmine⟩ | ⟨-, hold⟩
    · exact hw.trans (hsame.symm.trans hmine)
    · exact hold
  have hforth : ∀ {v old}, (s.writer v).temporary = some old →
      ((s.goWriter w (s.folder.rewrite ino f) phase).writer v).temporary = some old := by
    intro v old hv
    rw [writer_go]
    split
    · rename_i heq
      subst heq
      exact hsame.trans (hw.symm.trans hv)
    · exact hv
  refine ⟨fun u v old new n hu hv => h.apart u v old new n (hback hu) (hback hv), fun v => ?_,
    fun n hn => ?_, fun r => ?_⟩
  · rw [writer_go]
    split
    · exact hstage
    · rename_i hne
      refine (h.stages v).frame fun new n hv hn => ⟨rfl, ?_, id⟩
      exact hfile (h.other hne hw hdraft.named hv hn).2
  · have hne : n ≠ ino := by
      rintro rfl
      exact hdraft.apart hn
    obtain ⟨i, hi, hpayload, hlinks⟩ := h.manifest n hn
    refine ⟨i, (hfile hne).trans hi, hpayload, hlinks.imp ?_ ?_⟩
    · exact fun hone => ⟨hone.1, fun v old hv => hone.2 v old (hback hv)⟩
    · refine fun htwo => ⟨htwo.1, ?_⟩
      obtain ⟨v, old, hv, hentries⟩ := htwo.2
      exact ⟨v, old, hforth hv, hentries⟩
  · refine (h.readers r).frame fun n i hn hi _ => ⟨hn, (hfile ?_).trans hi⟩
    rintro rfl
    exact hdraft.apart hn

/-- **The publication**: the link under the free name of the manifest. -/
theorem Sound.link (h : Sound json payload s) (hw : (s.writer w).temporary = some temporary)
    (hdraft : Draft s.folder temporary ino payload) (hfree : s.folder.entries manifestName = none)
    (hsame : phase.temporary = some temporary) (hstage : (temporary ≠ manifestName ∧
      ∃ ino, (s.folder.link temporary manifestName).entries temporary = some ino) →
        PublishStage payload (s.folder.link temporary manifestName) phase) :
    Sound json payload (s.goWriter w (s.folder.link temporary manifestName) phase) := by
  have hentries : ∀ {name}, name ≠ manifestName →
      (s.folder.link temporary manifestName).entries name = s.folder.entries name := by
    intro name hne
    rw [Folder.entries_link, if_neg hne]
  have hmanifest : (s.folder.link temporary manifestName).entries manifestName = some ino := by
    rw [Folder.entries_link, if_pos rfl]
    exact hdraft.named
  have hback : ∀ {v old}, ((s.goWriter w (s.folder.link temporary manifestName) phase).writer
      v).temporary = some old → (s.writer v).temporary = some old := by
    intro v old hv
    rcases temporary_go hv with ⟨rfl, hmine⟩ | ⟨-, hold⟩
    · exact hw.trans (hsame.symm.trans hmine)
    · exact hold
  have htemporary : ∀ {v old}, ((s.goWriter w (s.folder.link temporary manifestName) phase).writer
      v).temporary = some old →
        (s.folder.link temporary manifestName).entries old = s.folder.entries old :=
    fun {v old} hv => hentries ((h.stages v).named (hback hv)).1
  refine ⟨fun u v old new n hu hv hn hn' => ?_, fun v => ?_, fun n hn => ?_, fun r => ?_⟩
  · exact h.apart u v old new n (hback hu) (hback hv) ((htemporary hu).symm.trans hn)
      ((htemporary hv).symm.trans hn')
  · rw [writer_go]
    split
    · exact hstage ⟨hdraft.other, ino, (hentries hdraft.other).trans hdraft.named⟩
    · rename_i hne
      refine (h.stages v).frame fun new n hv hn => ?_
      have hother := (h.other hne hw hdraft.named hv hn).2
      refine ⟨hentries ((h.stages v).named hv).1, ?_, fun _ => ?_⟩
      · rw [folder_go, Folder.file_link hdraft.named, if_neg hother.symm]
      · rw [folder_go, hmanifest]
        exact fun heq => hother (Option.some.inj heq).symm
  · obtain rfl := Option.some.inj (hmanifest.symm.trans hn)
    obtain ⟨i, hi, hpayload, hlinks⟩ := hdraft.holds
    refine ⟨i.count (· + 1), ?_, hpayload, Or.inr ⟨?_, w, temporary, ?_, ?_⟩⟩
    · rw [folder_go, Folder.file_link hdraft.named, if_pos rfl, hi]
      rfl
    · show i.links + 1 = 2
      rw [hlinks]
    · rw [writer_go, if_pos rfl]
      exact hsame
    · exact (hentries hdraft.other).trans hdraft.named
  · refine (h.readers r).frame fun n i hn => ?_
    rw [hfree] at hn
    cases hn

/-- **The temporary name removed**: the manifest has one name from here on. -/
theorem Sound.unlink (h : Sound json payload s) (hw : (s.writer w).temporary = some temporary)
    (hnone : phase.temporary = none) :
    Sound json payload (s.goWriter w (s.folder.unlink temporary) phase) := by
  obtain ⟨hother, ino, hino⟩ := (h.stages w).named hw
  have hentries : ∀ {name}, name ≠ temporary →
      (s.folder.unlink temporary).entries name = s.folder.entries name := by
    intro name hne
    rw [Folder.entries_unlink, if_neg hne]
  have hfile : ∀ {n}, n ≠ ino → (s.folder.unlink temporary).file n = s.folder.file n := by
    intro n hne
    rw [Folder.file_unlink hino, if_neg hne.symm]
  have hmanifest := hentries hother.symm
  -- a call that still has a temporary name is another one
  have hback : ∀ {v old}, ((s.goWriter w (s.folder.unlink temporary) phase).writer v).temporary =
      some old → v ≠ w ∧ (s.writer v).temporary = some old ∧ old ≠ temporary := by
    intro v old hv
    rcases temporary_go hv with ⟨-, hmine⟩ | ⟨hne, hold⟩
    · rw [hnone] at hmine
      cases hmine
    · obtain ⟨-, n, hn⟩ := (h.stages v).named hold
      exact ⟨hne, hold, (h.other hne hw hino hold hn).1⟩
  refine ⟨fun u v old new n hu hv hn hn' => ?_, fun v => ?_, fun n hn => ?_, fun r => ?_⟩
  · obtain ⟨-, huold, hune⟩ := hback hu
    obtain ⟨-, hvold, hvne⟩ := hback hv
    exact h.apart u v old new n huold hvold ((hentries hune).symm.trans hn)
      ((hentries hvne).symm.trans hn')
  · rw [writer_go]
    split
    · exact publishStage_idle hnone
    · rename_i hne
      refine (h.stages v).frame fun new n hv hn => ?_
      obtain ⟨hname, hnumber⟩ := h.other hne hw hino hv hn
      refine ⟨hentries hname, hfile hnumber, fun hapart => ?_⟩
      rw [folder_go, hmanifest]
      exact hapart
  · have hbefore : s.folder.entries manifestName = some n := hmanifest.symm.trans hn
    obtain ⟨i, hi, hpayload, hlinks⟩ := h.manifest n hbefore
    by_cases heq : n = ino
    · subst heq
      rcases hlinks with ⟨-, hfree⟩ | ⟨htwo, -⟩
      · exact absurd hino (hfree w temporary hw)
      · refine ⟨i.count (· - 1), ?_, hpayload, Or.inl ⟨?_, fun v old hv hsame => ?_⟩⟩
        · rw [folder_go, Folder.file_unlink hino, if_pos rfl, hi]
          rfl
        · show i.links - 1 = 1
          rw [htwo]
        · obtain ⟨hne, hold, hname⟩ := hback hv
          exact (h.other hne hw hino hold ((hentries hname).symm.trans hsame)).2 rfl
    · refine ⟨i, (hfile heq).trans hi, hpayload, hlinks.imp ?_ ?_⟩
      · refine fun hone => ⟨hone.1, fun v old hv hsame => ?_⟩
        obtain ⟨-, hold, hname⟩ := hback hv
        exact hone.2 v old hold ((hentries hname).symm.trans hsame)
      · refine fun htwo => ⟨htwo.1, ?_⟩
        obtain ⟨v, old, hold, hsame⟩ := htwo.2
        have hne : v ≠ w := by
          rintro rfl
          obtain rfl := Option.some.inj (hold.symm.trans hw)
          exact heq (Option.some.inj (hsame.symm.trans hino))
        refine ⟨v, old, ?_, (hentries (h.other hne hw hino hold hsame).1).trans hsame⟩
        rw [writer_go, if_neg hne]
        exact hold
  · refine (h.readers r).frame fun n i hn hi hsingle => ⟨hmanifest.trans hn, (hfile ?_).trans hi⟩
    rintro rfl
    obtain ⟨j, hj, -, ⟨-, hfree⟩ | ⟨htwo, -⟩⟩ := h.manifest n hn
    · exact hfree w temporary hw hino
    · obtain rfl := Option.some.inj (hj.symm.trans hi)
      omega

/-- **A step of a call keeps the directory sound.** -/
theorem Sound.writes (h : Sound json payload s)
    (hstep : PublishStep payload s.folder (s.writer w) d phase) :
    Sound json payload (s.goWriter w d phase) := by
  have hstage := h.stages w
  generalize hphase : s.writer w = before at hstep hstage
  have htemporary : (s.writer w).temporary = before.temporary := congrArg _ hphase
  cases hstep with
  | encoded => exact h.stay htemporary.symm trivial
  | named random hfree => exact h.create hphase hfree
  | @wrote temporary ino written count hleft =>
    have hdraft : Draft s.folder temporary ino (payload.take written) := hstage
    refine h.rewrite htemporary hdraft _ rfl (hdraft.rewrite _ fun file hfile => ?_)
    show file.content ++ (payload.drop written).take count = payload.take (written + count)
    rw [hfile, List.take_add]
  | @flushed temporary ino =>
    have hdraft : Draft s.folder temporary ino (payload.take payload.length) := hstage
    rw [List.take_length] at hdraft
    exact h.stay htemporary.symm ⟨ino, hdraft⟩
  | synced => exact h.stay htemporary.symm hstage
  | linked hfree =>
    obtain ⟨ino, hdraft⟩ := hstage
    exact h.link htemporary hdraft hfree rfl id
  | linkedLate hfree =>
    obtain ⟨ino, hdraft⟩ := hstage
    exact h.link htemporary hdraft hfree rfl id
  | refused =>
    obtain ⟨ino, hdraft⟩ := hstage
    exact h.stay htemporary.symm ⟨hdraft.other, ino, hdraft.named⟩
  | identical => exact h.stay htemporary.symm hstage
  | raisesOver hsome => exact h.stay (hsome.symm.trans htemporary.symm) (hstage.named hsome)
  | cleaned => exact h.unlink htemporary rfl
  | persisted => exact h.stay htemporary.symm trivial
  | raises hnone halive => exact h.stay (hnone.symm.trans htemporary.symm) trivial

/-! ## 4. Runs -/

variable [DecidableEq R] {input : PublishInput W R}
  {out log : List (R × Except String (Option Document))} {inputs : List (PublishInput W R)}

/-- **A step outside the windows keeps the directory sound**, and a reader that ends does not
    raise. -/
theorem Step.sound (hstep : Step json payload s input out t) (h : Sound json payload s)
    (houtside : s.OutsideWindow input) (hsize : payload.length ≤ maxBytes) {document : Document}
    (hdecoded : json.loads payload = .ok document) :
    Sound json payload t ∧ ∀ r outcome, (r, outcome) ∈ out →
      outcome = .ok none ∨ outcome = .ok (some document) := by
  cases hstep with
  | writes hwrite => exact ⟨h.writes hwrite, fun r o ho => absurd ho List.not_mem_nil⟩
  | killed halive => exact ⟨h.drop rfl houtside, fun r o ho => absurd ho List.not_mem_nil⟩
  | unlinkFails hphase => exact ⟨h.drop rfl houtside, fun r o ho => absurd ho List.not_mem_nil⟩
  | @reads r phase hread =>
    have hstage := readStage_step hread (h.readers r) h.manifest houtside hsize hdecoded
    refine ⟨⟨h.apart, h.stages, h.manifest, fun q => ?_⟩, fun q outcome ho => ?_⟩
    · show ReadStage json payload s.folder (if q = r then phase else s.reader q)
      split
      · exact hstage
      · exact h.readers q
    · cases phase with
      | finished ended =>
        obtain ⟨-, rfl⟩ := Prod.mk.inj (List.mem_singleton.mp ho)
        rcases hstage with hnone | ⟨found, hfound, hsome⟩
        · exact Or.inl hnone
        · obtain rfl := Except.ok.inj (hdecoded.symm.trans hfound)
          exact Or.inr hsome
      | _ => exact absurd ho List.not_mem_nil

/-- The manifest is absent, or a file of one name that holds the payload. -/
def Readable (payload : List UInt8) (d : Folder RegularFile) : Prop :=
  d.entries manifestName = none ∨ ∃ ino i, d.entries manifestName = some ino ∧
    d.file ino = some i ∧ i.data.content = payload ∧ i.links = 1

/-- **Publication outside the windows.** In any run of calls with one manifest, crashes and readers
    in which no call ends between its link and the removal of its temporary name, and no reader
    begins there, the manifest is absent or can be read with the published content whenever no
    call is between the two, and no reader ends with an exception. -/
theorem manifest_published (json : JsonLibrary Document) (payload : List UInt8)
    (hsize : payload.length ≤ maxBytes) {document : Document}
    (hdecoded : json.loads payload = .ok document) {d : Folder RegularFile}
    (hfree : d.entries manifestName = none) {inputs : List (PublishInput W R)}
    {log : List (R × Except String (Option Document))}
    (h : Run (Meeting (Step json payload) OutsideWindow) (initial d) inputs log s) :
    ((∀ w, ¬ s.Window w) → Readable payload s.folder) ∧
      ∀ r outcome, (r, outcome) ∈ log → outcome = .ok none ∨ outcome = .ok (some document) := by
  have hkeeps : ∀ (u : Publishing W R Document) i o v, Sound json payload u →
      Meeting (Step json payload) OutsideWindow u i o v → Sound json payload v :=
    fun u i o v hu hstep => (hstep.1.sound hu hstep.2 hsize hdecoded).1
  have hinitial : Sound json payload (initial d : Publishing W R Document) := sound_initial hfree
  constructor
  · intro hwindow
    have hsound := h.invariant hinitial hkeeps
    cases hnamed : s.folder.entries manifestName with
    | none => exact Or.inl hnamed
    | some ino =>
      obtain ⟨i, hfile, hpayload, hlinks⟩ := hsound.manifest ino hnamed
      rcases hlinks with ⟨hone, -⟩ | ⟨-, w, temporary, hw, hsame⟩
      · exact Or.inr ⟨ino, i, hnamed, hfile, hpayload, hone⟩
      · refine absurd ⟨temporary, hw, ?_, hsame.trans hnamed.symm⟩ (hwindow w)
        rw [hnamed]
        exact Option.some_ne_none ino
  · intro r outcome hmem
    refine h.outputs (Q := fun x => x.2 = .ok none ∨ x.2 = .ok (some document)) hinitial hkeeps
      (fun u i o v hu hstep x hx => ?_) (r, outcome) hmem
    exact (hstep.1.sound hu hstep.2 hsize hdecoded).2 x.1 x.2 hx

/-! ## 5. Two runs -/

/-- The bytes of a manifest. -/
def plainPayload : List UInt8 := [123, 125]

/-- The directory with a draft that is written. -/
def drafted (d : Folder RegularFile) (payload : List UInt8) (random : String) :
    Folder RegularFile :=
  (d.create (manifestTemporary random) ⟨[], 0o600⟩).rewrite d.files.length fun f =>
    { f with content := f.content ++ (payload.drop 0).take payload.length }

/-- A run outside the windows goes on with a step of a call. -/
theorem writes_outside {u : Publishing W R Document}
    (h : Run (Meeting (Step json payload) OutsideWindow) s inputs log u) (w : W)
    {before : PublishPhase} (hphase : u.writer w = before)
    (hstep : PublishStep payload u.folder before d phase) :
    Run (Meeting (Step json payload) OutsideWindow) s (inputs ++ [PublishInput.writes w]) (log ++ [])
      (u.goWriter w d phase) := by
  subst hphase
  exact .step h ⟨.writes hstep, trivial⟩

/-- A run outside the windows goes on with a step of a reader. -/
theorem reads_outside {u : Publishing W R Document} {read : ReadPhase Document}
    (h : Run (Meeting (Step json payload) OutsideWindow) s inputs log u) (r : R)
    (hclosed : ∀ w, (u.writer w).temporary = none)
    (hstep : ReadStep json u.folder (u.reader r) read) :
    Run (Meeting (Step json payload) OutsideWindow) s (inputs ++ [PublishInput.reads r])
      (log ++ outcomeOf r read) (u.goReader r read) :=
  .step h ⟨.reads hstep, fun _ => not_window hclosed⟩

/-- A call that comes to its link: its draft is written and synced. -/
theorem writes_draft {u : Publishing W R Document}
    (h : Run (Meeting (Step json payload) OutsideWindow) s inputs log u) (w : W)
    (hphase : u.writer w = .encoding) (random : String)
    (hfree : u.folder.entries (manifestTemporary random) = none) :
    ∃ inputs log, Run (Meeting (Step json payload) OutsideWindow) s inputs log
      (u.goWriter w (drafted u.folder payload random) (.linking (manifestTemporary random))) := by
  have hself : ∀ {d phase}, (u.goWriter w d phase).writer w = phase := if_pos rfl
  have h1 := writes_outside h w hphase .encoded
  have h2 := writes_outside h1 w hself (.named random hfree)
  rw [go_go] at h2
  have h3 := writes_outside h2 w hself (.wrote payload.length (by omega))
  rw [go_go, Nat.zero_add] at h3
  have h4 := writes_outside h3 w hself .flushed
  rw [go_go] at h4
  have h5 := writes_outside h4 w hself .synced
  rw [go_go] at h5
  exact ⟨_, _, h5⟩

/-- A call killed at its link, the call after it, and a reader after that. -/
theorem manifest_published_read : ∃ inputs log s,
    Run (Meeting (Step plainJson plainPayload) OutsideWindow)
      (initial Folder.empty : Publishing Bool Unit (List UInt8)) inputs log s ∧
    s.writer false = .killed ∧ s.writer true = .finished true ∧
    Readable plainPayload s.folder ∧ ((), .ok (some plainPayload)) ∈ log := by
  have h0 : Run (Meeting (Step plainJson plainPayload) OutsideWindow)
      (initial Folder.empty : Publishing Bool Unit (List UInt8)) [] [] (initial Folder.empty) :=
    .start
  obtain ⟨_, _, h5⟩ := writes_draft h0 false rfl "a" rfl
  -- the link is still to come, so there is no manifest yet
  have h6 := h5.step (i := PublishInput.killed false)
    ⟨.killed rfl, fun ⟨_, _, hlinked, _⟩ => hlinked rfl⟩
  obtain ⟨_, _, h7⟩ := writes_draft h6 true rfl "b" rfl
  have h8 := writes_outside h7 true rfl (.linked rfl)
  have h9 := writes_outside h8 true rfl .cleaned
  have h10 := writes_outside h9 true rfl .persisted
  have h11 := reads_outside h10 () (by decide) (.inspected rfl rfl rfl)
  have h12 := reads_outside h11 () (by decide) (.opened ⟨_, rfl, rfl, rfl⟩ (by decide))
  have h13 := reads_outside h12 () (by decide)
    (@ReadStep.chunk _ _ _ _ _ _ plainPayload [] rfl rfl)
  have h14 := reads_outside h13 () (by decide) (.decoded rfl rfl ⟨_, rfl, rfl, rfl⟩ rfl)
  have hpublished := manifest_published plainJson plainPayload (by decide) rfl rfl h14
  exact ⟨_, _, _, h14, rfl, rfl, hpublished.1 (not_window (by decide)), by simp [outcomeOf, plainPayload]⟩

/-- **A call killed in its window leaves a manifest that no later call makes readable.** -/
theorem crash_unreadable : ∃ inputs log s,
    Run (Step plainJson plainPayload)
      (initial Folder.empty : Publishing Bool Unit (List UInt8)) inputs log s ∧
    s.writer false = .killed ∧ s.writer true = .finished true ∧
    ¬ Readable plainPayload s.folder ∧ ∃ text, ((), .error text) ∈ log := by
  have h0 : Run (Meeting (Step plainJson plainPayload) OutsideWindow)
      (initial Folder.empty : Publishing Bool Unit (List UInt8)) [] [] (initial Folder.empty) :=
    .start
  obtain ⟨_, _, h5⟩ := writes_draft h0 false rfl "a" rfl
  have h6 := (writes_outside h5 false rfl (.linked rfl)).of_meeting
  have h7 := h6.step (i := .killed false) (.killed rfl)
  -- the second call finds the manifest that the first one linked
  have h8 := h7.step (i := .writes true) (.writes .encoded)
  have h9 := h8.step (i := .writes true) (.writes (.named "b" rfl))
  have h10 := h9.step (i := .writes true) (.writes (.wrote 2 (by decide)))
  have h11 := h10.step (i := .writes true) (.writes .flushed)
  have h12 := h11.step (i := .writes true) (.writes .synced)
  have h13 := h12.step (i := .writes true) (.writes .refused)
  have h14 := h13.step (i := .writes true)
    (.writes (.identical (f := ⟨plainPayload, 0o600⟩) rfl rfl))
  have h15 := h14.step (i := .writes true) (.writes .cleaned)
  have h16 := h15.step (i := .writes true) (.writes .persisted)
  have h17 := h16.step (i := .reads ()) (.reads (.linked rfl rfl (by decide)))
  refine ⟨_, _, _, h17, rfl, rfl, ?_, _,
    List.mem_append_right _ (List.mem_singleton.mpr rfl)⟩
  rintro (hnone | ⟨ino, i, hnamed, hfile, -, hlinks⟩)
  · cases hnone
  · obtain rfl := Option.some.inj hnamed
    obtain rfl := Option.some.inj hfile
    cases hlinks

end Publishing

end DroneSim
