/-
  File:      DroneSim/Library/JsonQuotes.lean
  Subject:   The quotes in the text of a document.

  `scan` follows a text from quote to quote. What the parser reads ends outside a string, so no
  text that ends within one is read; and in the text of a document what is not ASCII stands within
  a string.

  * `parse_balanced` -- a text that is read ends outside a string;
  * `marked_plain` -- in the text of a document only strings hold what is not ASCII.
-/
import DroneSim.Library.JsonParse

namespace DroneSim.Library

variable {s t : PyText} {c : CodePoint}

/-! ## 1. Quotes -/

inductive QuoteState where
  | outside
  | inside
  | escaped
  deriving DecidableEq, Repr

def QuoteState.next : QuoteState → CodePoint → QuoteState
  | .outside, c => if c = quote then .inside else .outside
  | .inside, c => if c = quote then .outside else if c = backslash then .escaped else .inside
  | .escaped, _ => .inside

/-- The state behind a text. -/
def scan (q : QuoteState) (t : PyText) : QuoteState := t.foldl QuoteState.next q

@[simp] theorem scan_nil (q : QuoteState) : scan q [] = q := rfl

@[simp] theorem scan_cons (q : QuoteState) (c : CodePoint) (t : PyText) :
    scan q (c :: t) = scan (q.next c) t := rfl

@[simp] theorem scan_append (q : QuoteState) (t u : PyText) :
    scan q (t ++ u) = scan (scan q t) u := List.foldl_append

/-- A text without quotes stays outside. -/
theorem scan_outside (h : ∀ c ∈ t, c ≠ quote) : scan .outside t = .outside := by
  induction t with
  | nil => rfl
  | cons c t ih =>
    rw [List.forall_mem_cons] at h
    have hnext : QuoteState.next .outside c = .outside := if_neg h.1
    rw [scan_cons, hnext]
    exact ih h.2

/-- A text without quotes and escapes stays inside. -/
theorem scan_inside (h : ∀ c ∈ t, c ≠ quote ∧ c ≠ backslash) : scan .inside t = .inside := by
  induction t with
  | nil => rfl
  | cons c t ih =>
    rw [List.forall_mem_cons] at h
    have hnext : QuoteState.next .inside c = .inside := (if_neg h.1.1).trans (if_neg h.1.2)
    rw [scan_cons, hnext]
    exact ih h.2

/-- `r` is what is left of `s` behind a text that leads from `q` to `q'`. -/
def Leads (q : QuoteState) (s r : PyText) (q' : QuoteState) : Prop :=
  ∃ t, s = t ++ r ∧ scan q t = q'

theorem Leads.refl (q : QuoteState) (s : PyText) : Leads q s s q := ⟨[], rfl, rfl⟩

theorem Leads.trans {q q' q'' : QuoteState} {s r u : PyText} (h : Leads q s r q')
    (h' : Leads q' r u q'') : Leads q s u q'' := by
  obtain ⟨t, rfl, ht⟩ := h
  obtain ⟨t', rfl, ht'⟩ := h'
  refine ⟨t ++ t', (List.append_assoc _ _ _).symm, ?_⟩
  rw [scan_append, ht, ht']

theorem Leads.cons (q : QuoteState) (c : CodePoint) (s : PyText) :
    Leads q (c :: s) s (q.next c) := ⟨[c], rfl, rfl⟩

theorem leads_outside {s t r : PyText} (hs : s = t ++ r) (h : ∀ c ∈ t, c ≠ quote) :
    Leads .outside s r .outside := ⟨t, hs, scan_outside h⟩

/-- A code point that is no quote stays outside. -/
theorem Leads.other (hc : c ≠ quote) (s : PyText) : Leads .outside (c :: s) s .outside := by
  refine leads_outside (t := [c]) rfl fun d hd => ?_
  rw [List.mem_singleton.mp hd]
  exact hc

/-! ## 2. What is read ends outside -/

theorem leads_skip (s : PyText) : Leads .outside s (skip s) .outside := by
  refine leads_outside (List.takeWhile_append_dropWhile (p := isBlank)).symm fun c hc => ?_
  have hblank := List.mem_takeWhile_imp hc
  rintro rfl
  exact absurd hblank (by decide)

/-! ### Strings -/

theorem hexValue_some {v : ℕ} (h : hexValue c = some v) : c ≠ quote ∧ c ≠ backslash := by
  constructor
  · rintro rfl
    have hnone : hexValue quote = none := by decide
    rw [hnone] at h
    cases h
  · rintro rfl
    have hnone : hexValue backslash = none := by decide
    rw [hnone] at h
    cases h

theorem leads_hex4 {r : ℕ × PyText} (h : hex4 s = some r) : Leads .inside s r.2 .inside := by
  unfold hex4 at h
  split at h
  · rename_i a b c d rest
    split at h
    · rename_i ha hb hc hd
      obtain rfl := Option.some.inj h
      refine ⟨[a, b, c, d], rfl, scan_inside fun e he => ?_⟩
      simp only [List.mem_cons, List.not_mem_nil, or_false] at he
      rcases he with rfl | rfl | rfl | rfl
      · exact hexValue_some ha
      · exact hexValue_some hb
      · exact hexValue_some hc
      · exact hexValue_some hd
    · cases h
  · cases h

/-- Behind a backslash the next code point stays inside. -/
theorem leads_escape (e : CodePoint) (s : PyText) :
    Leads .inside (backslash :: e :: s) s .inside := ⟨[backslash, e], rfl, rfl⟩

theorem leads_lowHalf {r : ℕ × PyText} (h : lowHalf s = some r) : Leads .inside s r.2 .inside := by
  unfold lowHalf at h
  split at h
  · rename_i c u rest
    split at h
    · rename_i hcu
      obtain ⟨rfl, rfl⟩ := hcu
      exact (leads_escape _ rest).trans (leads_hex4 (Option.filter_eq_some_iff.mp h).1)
    · cases h
  · cases h

theorem leads_unicodeEscape {r : CodePoint × PyText} (h : unicodeEscape s = some r) :
    Leads .inside s r.2 .inside := by
  obtain ⟨high, hhigh, rfl⟩ := Option.map_eq_some_iff.mp h
  split
  · split
    · rename_i low hlow
      exact (leads_hex4 hhigh).trans (leads_lowHalf hlow)
    · exact leads_hex4 hhigh
  · exact leads_hex4 hhigh

theorem leads_scanChar {r : CodePoint × PyText} (hs : s.head? ≠ some quote)
    (h : scanChar s = some r) : Leads .inside s r.2 .inside := by
  unfold scanChar at h
  split at h
  · cases h
  · rename_i c rest
    split at h
    · rename_i hc
      obtain rfl := hc
      split at h
      · cases h
      · rename_i e rest
        split at h
        · exact (leads_escape e rest).trans (leads_unicodeEscape h)
        · obtain ⟨d, -, rfl⟩ := Option.map_eq_some_iff.mp h
          exact leads_escape e rest
    · rename_i hc
      split at h
      · cases h
      · obtain rfl := Option.some.inj h
        refine ⟨[c], rfl, scan_inside fun d hd => ?_⟩
        rw [List.mem_singleton.mp hd]
        exact ⟨fun hquote => hs (congrArg some hquote), hc⟩

theorem leads_stringBody {n : ℕ} {r : PyText × PyText} (h : stringBody n s = some r) :
    Leads .inside s r.2 .outside := by
  induction n generalizing s r with
  | zero => cases h
  | succ n ih =>
    unfold stringBody at h
    split at h
    · rename_i hs
      obtain ⟨rest, rfl⟩ := List.head?_eq_some_iff.mp hs
      obtain rfl := Option.some.inj h
      exact Leads.cons .inside quote rest
    · rename_i hs
      obtain ⟨c, hc, h⟩ := Option.bind_eq_some_iff.mp h
      obtain ⟨rest, hrest, rfl⟩ := Option.map_eq_some_iff.mp h
      have hread := ih hrest
      exact (leads_scanChar hs hc).trans hread

theorem leads_string {r : PyText × PyText} (h : string s = .ok r) :
    Leads .inside s r.2 .outside := by
  unfold string at h
  split at h
  · rename_i u hu
    obtain rfl := Except.ok.inj h
    exact leads_stringBody hu
  · cases h

/-! ### Numbers and names -/

theorem digitsOf_unquoted (s : PyText) : ∀ c ∈ (digitsOf s).1, c ≠ quote := by
  intro c hc
  have hdigit := List.mem_takeWhile_imp hc
  rintro rfl
  exact absurd hdigit (by decide)

theorem leads_digitsOf (s : PyText) : Leads .outside s (digitsOf s).2 .outside :=
  leads_outside (List.takeWhile_append_dropWhile (p := isDigit)).symm (digitsOf_unquoted s)

theorem leads_signOf (s : PyText) : Leads .outside s (signOf s).2 .outside := by
  unfold signOf
  split
  · exact Leads.refl _ _
  · split
    · rename_i hc
      rw [hc]
      exact Leads.other (by decide) _
    · exact Leads.refl _ _

theorem leads_wholeOf {r : PyText × PyText} (h : wholeOf s = some r) :
    Leads .outside s r.2 .outside := by
  unfold wholeOf at h
  split at h
  · cases h
  · split at h
    · rename_i hc
      obtain rfl := Option.some.inj h
      rw [hc]
      exact Leads.other (by decide) _
    · split at h
      · obtain rfl := Option.some.inj h
        exact leads_digitsOf _
      · cases h

theorem leads_fractionOf (s : PyText) : Leads .outside s (fractionOf s).2 .outside := by
  unfold fractionOf
  split
  · exact Leads.refl _ _
  · split
    · rename_i hc
      rw [hc.1]
      exact (Leads.other (by decide) _).trans (leads_digitsOf _)
    · exact Leads.refl _ _

theorem leads_exponentSign (s : PyText) : Leads .outside s (exponentSign s).2 .outside := by
  unfold exponentSign
  split
  · exact Leads.refl _ _
  · split
    · rename_i hc
      rcases hc with hc | hc
      · rw [hc]
        exact Leads.other (by decide) _
      · rw [hc]
        exact Leads.other (by decide) _
    · exact Leads.refl _ _

theorem leads_exponentOf (s : PyText) : Leads .outside s (exponentOf s).2 .outside := by
  unfold exponentOf
  split
  · exact Leads.refl _ _
  · rename_i c rest
    split
    · rename_i hc
      have hquote : c ≠ quote := by
        rcases hc.1 with rfl | rfl <;> decide
      exact (Leads.other hquote rest).trans ((leads_exponentSign rest).trans (leads_digitsOf _))
    · exact Leads.refl _ _

theorem leads_number {r : PyText × Bool × PyText} (h : number s = some r) :
    Leads .outside s r.2.2 .outside := by
  obtain ⟨whole, hwhole, rfl⟩ := Option.map_eq_some_iff.mp h
  exact (leads_signOf s).trans ((leads_wholeOf hwhole).trans
    ((leads_fractionOf _).trans (leads_exponentOf _)))

namespace Doc

variable {F : Type} [PyFloat F]

theorem names_unquoted : ∀ name ∈ names (F := F), ∀ c ∈ name.1, c ≠ quote := by
  have hquiet : ∀ t ∈ [ofString "null", ofString "true", ofString "false", ofString "NaN",
      ofString "Infinity", ofString "-Infinity"], quote ∉ t := by decide
  intro name hname c hc
  rintro rfl
  refine hquiet name.1 ?_ hc
  have hmem : name.1 ∈ (names (F := F)).map Prod.fst := List.mem_map_of_mem hname
  exact hmem

theorem leads_literal {r : Doc F × PyText} (h : literal s = some r) :
    Leads .outside s r.2 .outside := by
  obtain ⟨name, hname, rfl⟩ := Option.map_eq_some_iff.mp h
  have hprefix := List.find?_some hname
  obtain ⟨rest, hrest⟩ := List.isPrefixOf_iff_prefix.mp hprefix
  refine leads_outside (t := name.1) ?_ (names_unquoted name (List.mem_of_find?_eq_some hname))
  rw [← hrest, List.drop_left]

theorem leads_numeral {r : Doc F × PyText} (h : numeral s = .ok r) :
    Leads .outside s r.2 .outside := by
  unfold numeral at h
  split at h
  · cases h
  · rename_i u hu
    split at h
    · obtain rfl := Except.ok.inj h
      exact leads_number hu
    · obtain ⟨n, -, rfl⟩ := map_ok h
      exact leads_number hu

/-! ### Values -/

/-- What `n` steps read ends outside. -/
structure ReadsOutside (F : Type) [PyFloat F] (n : ℕ) : Prop where
  value : ∀ (s : PyText) (r : Doc F × PyText), Doc.value n s = .ok r → Leads .outside s r.2 .outside
  items : ∀ (s : PyText) (r : List (Doc F) × PyText), Doc.items n s = .ok r →
    Leads .outside s r.2 .outside
  fields : ∀ (s : PyText) (r : List (PyText × Doc F) × PyText), Doc.fields n s = .ok r →
    Leads .outside s r.2 .outside

theorem ReadsOutside.value_succ {n : ℕ} (h : ReadsOutside F n) (s : PyText) (r : Doc F × PyText)
    (hr : Doc.value (n + 1) s = .ok r) : Leads .outside s r.2 .outside := by
  cases s with
  | nil => cases hr
  | cons c rest =>
    rw [value_cons] at hr
    split at hr
    · rename_i hc
      obtain ⟨u, hu, rfl⟩ := map_ok hr
      rw [hc]
      exact (Leads.cons .outside quote rest).trans (leads_string hu)
    · rename_i hquote
      have hstart := (Leads.other hquote rest).trans (leads_skip rest)
      split at hr
      · split at hr
        · rename_i hclose
          obtain ⟨tail, htail⟩ := List.head?_eq_some_iff.mp hclose
          obtain rfl := Except.ok.inj hr
          rw [htail] at hstart ⊢
          exact hstart.trans (Leads.other (by decide) tail)
        · obtain ⟨u, hu, rfl⟩ := map_ok hr
          exact hstart.trans (h.fields _ _ hu)
      · split at hr
        · split at hr
          · rename_i hclose
            obtain ⟨tail, htail⟩ := List.head?_eq_some_iff.mp hclose
            obtain rfl := Except.ok.inj hr
            rw [htail] at hstart ⊢
            exact hstart.trans (Leads.other (by decide) tail)
          · obtain ⟨u, hu, rfl⟩ := map_ok hr
            exact hstart.trans (h.items _ _ hu)
        · split at hr
          · rename_i u hu
            obtain rfl := Except.ok.inj hr
            exact leads_literal hu
          · exact leads_numeral hr

theorem ReadsOutside.items_succ {n : ℕ} (h : ReadsOutside F n) (s : PyText)
    (r : List (Doc F) × PyText) (hr : Doc.items (n + 1) s = .ok r) :
    Leads .outside s r.2 .outside := by
  unfold Doc.items at hr
  obtain ⟨item, hitem, hr⟩ := bind_ok hr
  have hstart := (h.value s item hitem).trans (leads_skip item.2)
  split at hr
  · cases hr
  · rename_i c rest hrest
    rw [hrest] at hstart
    split at hr
    · rename_i hc
      obtain rfl := Except.ok.inj hr
      exact hstart.trans (Leads.other (by rw [hc]; decide) rest)
    · split at hr
      · rename_i hc
        obtain ⟨u, hu, rfl⟩ := map_ok hr
        have hread := h.items _ u hu
        exact (hstart.trans (Leads.other (by rw [hc]; decide) rest)).trans
          ((leads_skip rest).trans hread)
      · cases hr

theorem ReadsOutside.fields_succ {n : ℕ} (h : ReadsOutside F n) (s : PyText)
    (r : List (PyText × Doc F) × PyText) (hr : Doc.fields (n + 1) s = .ok r) :
    Leads .outside s r.2 .outside := by
  cases s with
  | nil => cases hr
  | cons q s =>
    unfold Doc.fields at hr
    split at hr
    · rename_i hq
      obtain ⟨key, hkey, hr⟩ := bind_ok hr
      rw [hq]
      have hstart := (Leads.cons .outside quote s).trans
        ((leads_string hkey).trans (leads_skip key.2))
      split at hr
      · cases hr
      · rename_i c rest hrest
        rw [hrest] at hstart
        split at hr
        · rename_i hc
          obtain ⟨item, hitem, hr⟩ := bind_ok hr
          have hvalue := (hstart.trans (Leads.other (by rw [hc]; decide) rest)).trans
            ((leads_skip rest).trans ((h.value _ item hitem).trans (leads_skip item.2)))
          split at hr
          · cases hr
          · rename_i d rest' hrest'
            rw [hrest'] at hvalue
            split at hr
            · rename_i hd
              obtain rfl := Except.ok.inj hr
              exact hvalue.trans (Leads.other (by rw [hd]; decide) rest')
            · split at hr
              · rename_i hd
                obtain ⟨u, hu, rfl⟩ := map_ok hr
                have hread := h.fields _ u hu
                exact (hvalue.trans (Leads.other (by rw [hd]; decide) rest')).trans
                  ((leads_skip rest').trans hread)
              · cases hr
        · cases hr
    · cases hr

theorem readsOutside (n : ℕ) : ReadsOutside F n := by
  induction n with
  | zero =>
    exact ⟨fun _ _ h => (by cases h), fun _ _ h => (by cases h), fun _ _ h => (by cases h)⟩
  | succ n ih => exact ⟨ih.value_succ, ih.items_succ, ih.fields_succ⟩

/-- **A text that is read ends outside a string.** -/
theorem parse_balanced {d : Doc F} (h : parse s = .ok d) : scan .outside s = .outside := by
  obtain ⟨r, hr, h⟩ := bind_ok h
  split at h
  · rename_i hnil
    have hwhole := (leads_skip s).trans (((readsOutside _).value _ r hr).trans (leads_skip r.2))
    obtain ⟨t, ht, hscan⟩ := hwhole
    rw [hnil, List.append_nil] at ht
    rw [ht]
    exact hscan
  · cases h

end Doc

/-! ## 3. What is not ASCII stands within a string -/

def isAscii (c : CodePoint) : Bool := decide (c.val < 128)

/-- ASCII that is no control character. -/
def isVisible (c : CodePoint) : Bool := decide (32 ≤ c.val) && isAscii c

theorem isAscii_of_isVisible (h : isVisible c = true) : isAscii c = true :=
  (Bool.and_eq_true_iff.mp h).2

/-- A text that begins and ends outside, with what is not ASCII within strings. -/
structure Marked (t : PyText) : Prop where
  ends : scan .outside t = .outside
  within : ∀ p c r, t = p ++ c :: r → isAscii c = false → scan .outside p ≠ .outside

/-- A part of a string: it begins and ends inside, and no quote closes the string in it. -/
structure Within (t : PyText) : Prop where
  ends : scan .inside t = .inside
  never : ∀ p r, t = p ++ r → scan .inside p ≠ .outside

theorem Marked.append {t u : PyText} (ht : Marked t) (hu : Marked u) : Marked (t ++ u) where
  ends := by
    rw [scan_append, ht.ends, hu.ends]
  within := by
    intro p c r h hc
    rcases List.append_eq_append_iff.mp h with ⟨v, rfl, hv⟩ | ⟨v, rfl, hv⟩
    · rw [scan_append, ht.ends]
      exact hu.within v c r hv hc
    · cases v with
      | nil =>
        rw [List.nil_append] at hv
        have hhead := hu.within [] c r hv.symm hc
        exact absurd rfl hhead
      | cons d v =>
        obtain ⟨rfl, -⟩ := List.cons.inj hv
        exact ht.within p c v rfl hc

theorem Within.append {t u : PyText} (ht : Within t) (hu : Within u) : Within (t ++ u) where
  ends := by
    rw [scan_append, ht.ends, hu.ends]
  never := by
    intro p r h
    rcases List.append_eq_append_iff.mp h with ⟨v, rfl, hv⟩ | ⟨v, rfl, -⟩
    · rw [scan_append, ht.ends]
      exact hu.never v r hv
    · exact ht.never p v rfl

/-- Visible ASCII without quotes. -/
def Unquoted (t : PyText) : Prop := ∀ c ∈ t, c ≠ quote ∧ isVisible c = true

theorem Unquoted.append {t u : PyText} (ht : Unquoted t) (hu : Unquoted u) : Unquoted (t ++ u) :=
  fun c hc => (List.mem_append.mp hc).elim (ht c) (hu c)

theorem Unquoted.marked (h : Unquoted t) : Marked t where
  ends := scan_outside fun c hc => (h c hc).1
  within := by
    rintro p c r rfl hc
    have hvisible := (h c (List.mem_append_right p List.mem_cons_self)).2
    rw [isAscii_of_isVisible hvisible] at hc
    cases hc

theorem within_nil : Within [] := by
  refine ⟨rfl, fun p r h => ?_⟩
  obtain ⟨rfl, -⟩ := List.append_eq_nil_iff.mp h.symm
  decide

/-- A code point as it is. -/
theorem within_plain (hc : c ≠ quote ∧ c ≠ backslash) : Within [c] := by
  have hnext : QuoteState.next .inside c = .inside := (if_neg hc.1).trans (if_neg hc.2)
  refine ⟨hnext, fun p r h => ?_⟩
  cases p with
  | nil => decide
  | cons d p =>
    obtain ⟨rfl, hp⟩ := List.cons.inj h
    obtain ⟨rfl, -⟩ := List.append_eq_nil_iff.mp hp.symm
    rw [scan_cons, hnext]
    decide

/-- A code point behind a backslash. -/
theorem within_escape (e : CodePoint) : Within [backslash, e] := by
  refine ⟨rfl, fun p r h => ?_⟩
  rcases p with _ | ⟨a, _ | ⟨b, _ | ⟨d, p⟩⟩⟩
  · decide
  · obtain ⟨rfl, -⟩ := List.cons.inj h
    decide
  · obtain ⟨rfl, -⟩ := List.cons.inj h
    rw [scan_cons, scan_cons, scan_nil]
    exact fun hout => (by cases hout)
  · exact absurd (congrArg List.length h) (by simp)

theorem plain_digitChar {n : ℕ} (h : n < 16) :
    codePoint (Nat.digitChar n) ≠ quote ∧ codePoint (Nat.digitChar n) ≠ backslash :=
  hexValue_some (hexValue_digitChar h)

theorem within_hexEscape (hc : c.val < 32) : Within (hexEscape c) := by
  have hshape : hexEscape c = [backslash, codePoint 'u'] ++ ([codePoint '0'] ++ ([codePoint '0'] ++
      ([codePoint (Nat.digitChar (c.val / 16))] ++ [codePoint (Nat.digitChar (c.val % 16))]))) :=
    rfl
  rw [hshape]
  refine (within_escape _).append ((within_plain (by decide)).append
    ((within_plain (by decide)).append (Within.append (within_plain ?_) (within_plain ?_))))
  · exact plain_digitChar (by omega)
  · exact plain_digitChar (by omega)

theorem within_escapeText (c : CodePoint) : Within (escape c) := by
  unfold escape
  split
  · exact within_escape quote
  · rename_i hquote
    split
    · exact within_escape backslash
    · rename_i hbackslash
      split
      · exact within_escape (codePoint 'n')
      · split
        · exact within_escape (codePoint 'r')
        · split
          · exact within_escape (codePoint 't')
          · split
            · exact within_escape (codePoint 'f')
            · split
              · exact within_escape (codePoint 'b')
              · split
                · rename_i hc
                  exact within_hexEscape hc
                · exact within_plain ⟨hquote, hbackslash⟩

theorem within_escapes (s : PyText) : Within (s.flatMap escape) := by
  induction s with
  | nil => exact within_nil
  | cons c s ih =>
    rw [List.flatMap_cons]
    exact (within_escapeText c).append ih

/-- **A string between its quotes.** -/
theorem marked_quoted (s : PyText) : Marked (quoted s) := by
  have hbody := within_escapes s
  have hshape : quoted s = quote :: (s.flatMap escape ++ [quote]) := rfl
  have hopen : QuoteState.next .outside quote = .inside := rfl
  rw [hshape]
  constructor
  · rw [scan_cons, hopen, scan_append, hbody.ends]
    rfl
  · intro p c r h hc
    cases p with
    | nil =>
      obtain ⟨rfl, -⟩ := List.cons.inj h
      exact absurd hc (by decide)
    | cons d p =>
      obtain ⟨rfl, hp⟩ := List.cons.inj h
      rw [scan_cons, hopen]
      rcases List.append_eq_append_iff.mp hp with ⟨v, rfl, hv⟩ | ⟨v, hv, -⟩
      · cases v with
        | nil =>
          rw [List.append_nil]
          exact hbody.never _ [] (List.append_nil _).symm
        | cons e v =>
          have hlength := congrArg List.length hv
          rw [List.length_singleton, List.length_append, List.length_cons,
            List.length_cons] at hlength
          omega
      · exact hbody.never p v hv

/-! ### Numbers -/

theorem isVisible_of_isDigit (h : isDigit c = true) : c ≠ quote ∧ isVisible c = true := by
  unfold isDigit at h
  rw [Bool.and_eq_true, decide_eq_true_eq, decide_eq_true_eq] at h
  refine ⟨?_, Bool.and_eq_true_iff.mpr ⟨decide_eq_true (by omega), decide_eq_true (by omega)⟩⟩
  rintro rfl
  exact absurd h.1 (by decide)

theorem unquoted_nil : Unquoted [] := fun _ h => absurd h List.not_mem_nil

theorem unquoted_single (hc : c ≠ quote ∧ isVisible c = true) : Unquoted [c] := by
  intro d hd
  rw [List.mem_singleton.mp hd]
  exact hc

theorem unquoted_minus : Unquoted [codePoint '-'] := unquoted_single (by decide)

theorem unquoted_plus : Unquoted [codePoint '+'] := unquoted_single (by decide)

theorem IsDigits.unquoted (h : IsDigits t) : Unquoted t :=
  fun c hc => isVisible_of_isDigit (h.2 c hc)

theorem IsSign.unquoted (h : IsSign t) : Unquoted t := by
  rcases h with rfl | rfl
  · exact unquoted_nil
  · exact unquoted_minus

theorem IsWhole.unquoted (h : IsWhole t) : Unquoted t := by
  rcases h with rfl | ⟨h, -⟩
  · exact unquoted_single (by decide)
  · exact h.unquoted

theorem IsFraction.unquoted (h : IsFraction t) : Unquoted t := by
  rcases h with rfl | ⟨digits, hdigits, rfl⟩
  · exact unquoted_nil
  · exact Unquoted.append (unquoted_single (c := codePoint '.') (by decide)) hdigits.unquoted

theorem IsExponent.unquoted (h : IsExponent t) : Unquoted t := by
  rcases h with rfl | ⟨e, sign, digits, he, hsign, hdigits, rfl⟩
  · exact unquoted_nil
  · have hmark : Unquoted [e] := by
      rcases he with rfl | rfl
      · exact unquoted_single (by decide)
      · exact unquoted_single (by decide)
    have hsigned : Unquoted sign := by
      rcases hsign with rfl | rfl | rfl
      · exact unquoted_nil
      · exact unquoted_plus
      · exact unquoted_minus
    exact hmark.append (hsigned.append hdigits.unquoted)

theorem unquoted_intText (n : ℤ) : Unquoted (intText n) := by
  obtain ⟨sign, hsign, htext, -⟩ := intText_parts n
  rw [htext]
  exact hsign.unquoted.append (isWhole_natText n.natAbs).unquoted

theorem IsFloatText.unquoted (h : IsFloatText t) : Unquoted t := by
  obtain ⟨sign, whole, fraction, exponent, hsign, hwhole, hfraction, hexponent, -, rfl⟩ := h
  exact ((hsign.unquoted.append hwhole.unquoted).append hfraction.unquoted).append
    hexponent.unquoted

namespace Doc

theorem unquoted_word {s : String} (h : (s.toList.all fun c => decide (codePoint c ≠ quote) &&
    isVisible (codePoint c)) = true) : Unquoted (ofString s) := by
  intro c hc
  obtain ⟨d, hd, rfl⟩ := List.mem_map.mp hc
  have hboth := List.all_eq_true.mp h d hd
  rw [Bool.and_eq_true, decide_eq_true_eq] at hboth
  exact hboth

variable {F : Type} [PyFloat F]

/-! ### Which strings a text comes from -/

mutual

/-- Some string of a document, a key or a value, holds a code point of a kind. -/
def anyChar (p : CodePoint → Bool) : Doc F → Bool
  | .null => false
  | .bool _ => false
  | .int _ => false
  | .float _ => false
  | .str s => s.any p
  | .arr items => anyItem p items
  | .obj fields => anyField p fields

def anyItem (p : CodePoint → Bool) : List (Doc F) → Bool
  | [] => false
  | item :: rest => anyChar p item || anyItem p rest

def anyField (p : CodePoint → Bool) : List (PyText × Doc F) → Bool
  | [] => false
  | (key, value) :: rest => key.any p || anyChar p value || anyField p rest

end

end Doc

section AnyChar

/-- The code points of a kind that are not ASCII. -/
def beyond (p : CodePoint → Bool) (c : CodePoint) : Bool := p c && !isAscii c

variable {p : CodePoint → Bool} (hp : ∀ c, p c = true → isVisible c = false)

include hp in
theorem any_visible (hc : isVisible c = true) : p c = false := by
  rw [Bool.eq_false_iff]
  intro hpc
  rw [hp c hpc] at hc
  cases hc

include hp in
theorem any_single (hc : isVisible c = true) : [c].any p = false := by
  rw [List.any_cons, List.any_nil, any_visible hp hc]
  rfl

include hp in
theorem Unquoted.any (h : Unquoted t) : t.any p = false := by
  rw [List.any_eq_false]
  intro c hc
  rw [any_visible hp (h c hc).2]
  exact Bool.false_ne_true

theorem beyond_ascii (hc : isAscii c = true) : beyond p c = false := by
  unfold beyond
  rw [hc, Bool.not_true, Bool.and_false]

include hp in
/-- An escape is visible ASCII, and what is not ASCII needs none. -/
theorem any_escape (c : CodePoint) : (escape c).any p = beyond p c := by
  have hpair : ∀ {e}, isVisible e = true → isAscii c = true →
      [backslash, e].any p = beyond p c := by
    intro e he hc
    rw [List.any_cons, List.any_cons, List.any_nil, any_visible hp he,
      any_visible hp (c := backslash) (by decide), beyond_ascii hc]
    rfl
  unfold escape
  split
  · rename_i h
    exact hpair (e := quote) (by decide) (by rw [h]; decide)
  · split
    · rename_i h
      exact hpair (e := backslash) (by decide) (by rw [h]; decide)
    · split
      · rename_i h
        exact hpair (e := codePoint 'n') (by decide) (by rw [h]; decide)
      · split
        · rename_i h
          exact hpair (e := codePoint 'r') (by decide) (by rw [h]; decide)
        · split
          · rename_i h
            exact hpair (e := codePoint 't') (by decide) (by rw [h]; decide)
          · split
            · exact hpair (e := codePoint 'f') (by decide) (decide_eq_true (by omega))
            · split
              · exact hpair (e := codePoint 'b') (by decide) (decide_eq_true (by omega))
              · split
                · rename_i h
                  have hhex : ∀ {n}, n < 16 → p (codePoint (Nat.digitChar n)) = false := by
                    intro n hn
                    refine any_visible hp ?_
                    interval_cases n <;> decide
                  show [backslash, codePoint 'u', codePoint '0', codePoint '0',
                    codePoint (Nat.digitChar (c.val / 16)),
                    codePoint (Nat.digitChar (c.val % 16))].any p = beyond p c
                  simp only [List.any_cons, List.any_nil, hhex (by omega : c.val / 16 < 16),
                    hhex (by omega : c.val % 16 < 16),
                    any_visible hp (c := backslash) (by decide),
                    any_visible hp (c := codePoint 'u') (by decide),
                    any_visible hp (c := codePoint '0') (by decide), Bool.or_self]
                  exact (beyond_ascii (decide_eq_true (by omega))).symm
                · rename_i h
                  rw [List.any_cons, List.any_nil, Bool.or_false]
                  unfold beyond
                  cases hc : isAscii c with
                  | false => rw [Bool.not_false, Bool.and_true]
                  | true =>
                    rw [Bool.not_true, Bool.and_false]
                    exact any_visible hp
                      (Bool.and_eq_true_iff.mpr ⟨decide_eq_true (by omega), hc⟩)

include hp in
theorem any_quoted (s : PyText) : (quoted s).any p = s.any (beyond p) := by
  have hquote : [quote].any p = false := any_single hp (by decide)
  have hbody : (s.flatMap escape).any p = s.any (beyond p) := by
    induction s with
    | nil => rfl
    | cons c s ih => rw [List.flatMap_cons, List.any_append, List.any_cons, any_escape hp, ih]
  unfold quoted
  rw [List.any_append, List.any_append, hquote, hbody, Bool.false_or, Bool.or_false]

/-- A text put together of visible ASCII and quoted strings, and whether a string of it holds a code
    point of a kind. -/
inductive Pieced (q : CodePoint → Bool) : PyText → Bool → Prop where
  | unquoted {t : PyText} (h : Unquoted t) : Pieced q t false
  | quoted (s : PyText) : Pieced q (quoted s) (s.any q)
  | append {t u : PyText} {a b : Bool} (ht : Pieced q t a) (hu : Pieced q u b) :
    Pieced q (t ++ u) (a || b)

namespace Pieced

variable {q : CodePoint → Bool} {t u : PyText} {a b : Bool}

theorem nil : Pieced q [] false := .unquoted unquoted_nil

theorem cons (hc : c ≠ quote ∧ isVisible c = true) (h : Pieced q t a) : Pieced q (c :: t) a :=
  append (.unquoted (unquoted_single hc)) h

/-- A key, its value and what follows. -/
theorem field (key : PyText) (ht : Pieced q t a) (hu : Pieced q u b) :
    Pieced q (Library.quoted key ++ Doc.colon :: (t ++ u)) (key.any q || a || b) := by
  rw [Bool.or_assoc]
  exact append (.quoted key) (cons (c := Doc.colon) (by decide) (ht.append hu))

theorem marked (h : Pieced q t a) : Marked t := by
  induction h with
  | unquoted h => exact h.marked
  | quoted s => exact marked_quoted s
  | append _ _ iht ihu => exact iht.append ihu

include hp in
theorem any (h : Pieced (beyond p) t a) : t.any p = a := by
  induction h with
  | unquoted h => exact h.any hp
  | quoted s => exact any_quoted hp s
  | append _ _ iht ihu => rw [List.any_append, iht, ihu]

end Pieced

end AnyChar

namespace Doc

variable {F : Type} [PyFloat F]

mutual

theorem pieced_plain [LawfulPyFloat F] (p : CodePoint → Bool) : ∀ {d : Doc F} {t : PyText},
    plain d = .ok t → Pieced p t (anyChar p d)
  | .null, _, h => by
    obtain rfl := Except.ok.inj h
    exact .unquoted (unquoted_word (by decide))
  | .bool b, _, h => by
    obtain rfl := Except.ok.inj h
    cases b with
    | true => exact .unquoted (unquoted_word (by decide))
    | false => exact .unquoted (unquoted_word (by decide))
  | .int n, _, h => by
    unfold plain at h
    split at h
    · obtain rfl := Except.ok.inj h
      exact .unquoted (unquoted_intText n)
    · cases h
  | .float x, _, h => by
    unfold plain at h
    split at h
    · rename_i hx
      obtain rfl := Except.ok.inj h
      exact .unquoted (LawfulPyFloat.text x hx).unquoted
    · cases h
  | .str s, _, h => by
    obtain rfl := Except.ok.inj h
    exact .quoted s
  | .arr [], _, h => by
    obtain rfl := Except.ok.inj h
    exact .cons (c := openBracket) (by decide) (.cons (c := closeBracket) (by decide) .nil)
  | .arr (item :: rest), _, h => by
    unfold plain at h
    obtain ⟨t, ht, h⟩ := bind_ok h
    obtain ⟨ts, hts, h⟩ := bind_ok h
    obtain rfl := Except.ok.inj h
    exact .cons (c := openBracket) (by decide)
      ((pieced_plain p ht).append (pieced_plainItems p hts))
  | .obj [], _, h => by
    obtain rfl := Except.ok.inj h
    exact .cons (c := openBrace) (by decide) (.cons (c := closeBrace) (by decide) .nil)
  | .obj ((key, value) :: rest), _, h => by
    unfold plain at h
    obtain ⟨t, ht, h⟩ := bind_ok h
    obtain ⟨ts, hts, h⟩ := bind_ok h
    obtain rfl := Except.ok.inj h
    exact .cons (c := openBrace) (by decide)
      (.field key (pieced_plain p ht) (pieced_plainFields p hts))

theorem pieced_plainItems [LawfulPyFloat F] (p : CodePoint → Bool) :
    ∀ {items : List (Doc F)} {t : PyText}, plainItems items = .ok t → Pieced p t (anyItem p items)
  | [], _, h => by
    obtain rfl := Except.ok.inj h
    exact .cons (c := closeBracket) (by decide) .nil
  | item :: rest, _, h => by
    unfold plainItems at h
    obtain ⟨t, ht, h⟩ := bind_ok h
    obtain ⟨ts, hts, h⟩ := bind_ok h
    obtain rfl := Except.ok.inj h
    exact .cons (c := Json.comma) (by decide) ((pieced_plain p ht).append (pieced_plainItems p hts))

theorem pieced_plainFields [LawfulPyFloat F] (p : CodePoint → Bool) :
    ∀ {fields : List (PyText × Doc F)} {t : PyText}, plainFields fields = .ok t →
      Pieced p t (anyField p fields)
  | [], _, h => by
    obtain rfl := Except.ok.inj h
    exact .cons (c := closeBrace) (by decide) .nil
  | (key, value) :: rest, _, h => by
    unfold plainFields at h
    obtain ⟨t, ht, h⟩ := bind_ok h
    obtain ⟨ts, hts, h⟩ := bind_ok h
    obtain rfl := Except.ok.inj h
    exact .cons (c := Json.comma) (by decide)
      (.field key (pieced_plain p ht) (pieced_plainFields p hts))

end

/-- **In the text of a document only strings hold what is not ASCII.** -/
theorem marked_plain [LawfulPyFloat F] {d : Doc F} (h : plain d = .ok t) : Marked t :=
  (pieced_plain (fun _ => false) h).marked

/-- **What is not ASCII in a text comes from a string of the document.** -/
theorem any_plain [LawfulPyFloat F] {p : CodePoint → Bool}
    (hp : ∀ c, p c = true → isVisible c = false) {d : Doc F} (h : plain d = .ok t) :
    t.any p = anyChar (beyond p) d :=
  (pieced_plain (beyond p) h).any hp

/-! ### The order of the keys does not matter -/

section Order

variable {G : Type}

theorem anyField_eq (p : CodePoint → Bool) (fields : List (PyText × Doc G)) :
    anyField p fields = fields.any fun f => f.1.any p || anyChar p f.2 := by
  induction fields with
  | nil => rfl
  | cons f rest ih =>
    show (f.1.any p || anyChar p f.2 || anyField p rest) = _
    rw [ih, List.any_cons]

mutual

theorem anyChar_sorted (p : CodePoint → Bool) : ∀ d : Doc G, anyChar p d.sorted = anyChar p d
  | .null => rfl
  | .bool _ => rfl
  | .int _ => rfl
  | .float _ => rfl
  | .str _ => rfl
  | .arr items => anyItem_sorted p items
  | .obj fields => by
    have hfields := anyField_sorted p fields
    show anyField p (byKey (sortedFields fields)) = anyField p fields
    rw [anyField_eq, (perm_byKey _).any_eq, ← anyField_eq, hfields]

theorem anyItem_sorted (p : CodePoint → Bool) : ∀ items : List (Doc G),
    anyItem p (sortedItems items) = anyItem p items
  | [] => rfl
  | item :: rest => by
    show (anyChar p item.sorted || anyItem p (sortedItems rest)) = _
    rw [anyChar_sorted p item, anyItem_sorted p rest]
    rfl

theorem anyField_sorted (p : CodePoint → Bool) : ∀ fields : List (PyText × Doc G),
    anyField p (sortedFields fields) = anyField p fields
  | [] => rfl
  | (key, value) :: rest => by
    show (key.any p || anyChar p value.sorted || anyField p (sortedFields rest)) = _
    rw [anyChar_sorted p value, anyField_sorted p rest]
    rfl

end

mutual

theorem anyChar_never {p : CodePoint → Bool} (hp : ∀ c, p c = false) : ∀ d : Doc G,
    anyChar p d = false
  | .null => rfl
  | .bool _ => rfl
  | .int _ => rfl
  | .float _ => rfl
  | .str _ => List.any_eq_false.mpr fun c _ => Bool.eq_false_iff.mp (hp c)
  | .arr items => anyItem_never hp items
  | .obj fields => anyField_never hp fields

theorem anyItem_never {p : CodePoint → Bool} (hp : ∀ c, p c = false) : ∀ items : List (Doc G),
    anyItem p items = false
  | [] => rfl
  | item :: rest => by
    show (anyChar p item || anyItem p rest) = false
    rw [anyChar_never hp item, anyItem_never hp rest, Bool.or_self]

theorem anyField_never {p : CodePoint → Bool} (hp : ∀ c, p c = false) :
    ∀ fields : List (PyText × Doc G), anyField p fields = false
  | [] => rfl
  | (key, value) :: rest => by
    have hkey : key.any p = false :=
      List.any_eq_false.mpr fun c _ => Bool.eq_false_iff.mp (hp c)
    show (key.any p || anyChar p value || anyField p rest) = false
    rw [hkey, anyChar_never hp value, anyField_never hp rest, Bool.or_self, Bool.or_self]

end

end Order

/-- **The text of a document is one line.** -/
theorem newline_notMem_plain [LawfulPyFloat F] {d : Doc F} (h : plain d = .ok t) :
    codePoint '\n' ∉ t := by
  have hvisible : ∀ c, decide (c = codePoint '\n') = true → isVisible c = false := by
    intro c hc
    rw [of_decide_eq_true hc]
    decide
  have hnever : ∀ c, beyond (fun c => decide (c = codePoint '\n')) c = false := by
    intro c
    unfold beyond
    by_cases hc : c = codePoint '\n'
    · rw [hc]
      decide
    · dsimp only
      rw [decide_eq_false hc, Bool.false_and]
  have hany := any_plain hvisible h
  rw [anyChar_never hnever, List.any_eq_false] at hany
  exact fun hmem => hany _ hmem (decide_eq_true rfl)

/-- **What is cut off within a string of a document is not read.** -/
theorem parse_cut [LawfulPyFloat F] {d : Doc F} {t p r : PyText} (h : plain d = .ok t)
    (ht : t = p ++ c :: r) (hc : isAscii c = false) (e : Doc F) : parse p ≠ .ok e :=
  fun hparse => (marked_plain h).within p c r ht hc (parse_balanced hparse)

end Doc

end DroneSim.Library
