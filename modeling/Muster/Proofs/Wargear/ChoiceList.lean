/-
  Lists of choices in their written forms.

  1. **Program.**  `readChoices` takes the marked-up entries of a list, or else the run of its
     numbered entries, or else what stands between commas or semicolons.

  2. **Specification.**  An entry is a numeral and a plain name.  However a list of entries is
     written, marked up, as a run, or with commas, and with or without a full stop behind it, it is
     read as one choice an entry, in order.

  3. **The crux.**  The form with commas is read as a run, too: a comma is no digit, so the lazy
     group of a name takes it along, and cleaning takes it off again.  Both forms are PIECES joined
     by spaces, a piece being an entry with its stops.  Within a piece neither a numeral nor the end
     of the text is ahead, since its name holds no digit and its last character is not blank
     (`run_entryEnd_eq_none`); so the group stops at the next numeral and nowhere before.

  4. **Where it ends.**  A numeral of more digits than are read makes the whole list an error, the
     same in every form.
-/
import Mathlib
import Muster.Proofs.Wargear.Item

namespace Muster.Wargear

open Text Pattern

/-! ## Entries -/

/-- A choice of so many of what a name names. -/
def choiceOf (n : PlainName) (count : Int) : Choice := ⟨[itemOf n count], false⟩

/-- An entry of a list: a numeral and a name, no word of which is "and" in any case. -/
structure Entry where
  count : Numeral
  name : PlainName
  no_and : ∀ w ∈ name.words, w.map Char.toLower ≠ "and".toList

/-- Stops behind an entry. -/
structure Marks where
  chars : List Char
  stops : ∀ c ∈ chars, isStop c = true

namespace Marks

/-- No stop. -/
def none : Marks := ⟨[], fun _ hc => absurd hc List.not_mem_nil⟩

/-- A full stop. -/
def fullStop : Marks := ⟨['.'], fun _ hc => List.mem_singleton.mp hc ▸ rfl⟩

/-- A comma. -/
def comma : Marks := ⟨[','], fun _ hc => List.mem_singleton.mp hc ▸ rfl⟩

theorem not_blank (m : Marks) : ∀ c ∈ m.chars, isBlank c = false :=
  fun c hc => of_isStop (isBlank · = false) (m.stops c hc) rfl rfl

end Marks

namespace Entry

variable (e : Entry)

/-- The entry as text. -/
def chars : List Char := e.count.digits ++ ' ' :: e.name.text

/-- What the entry offers, unless its numeral is too long to be read. -/
def read : Except UnreadCount Choice :=
  if e.count.digits.length ≤ mostDigits then .ok (choiceOf e.name e.count.value)
  else .error (.longNumeral ⟨e.count.digits.length⟩)

theorem isTidy : IsTidy e.chars := e.count.isWord.isTidy.join e.name.isTidy

theorem mem_chars {c : Char} (h : c ∈ e.chars) :
    c = ' ' ∨ isAsciiDigit c = true ∨ c.isAlpha = true := by
  rcases List.mem_append.mp h with h | h
  · exact Or.inr (Or.inl (e.count.ascii c h))
  · rcases List.mem_cons.mp h with h | h
    · exact Or.inl h
    · exact (PlainName.mem_text h).imp_right Or.inr

theorem ascii {c : Char} (h : c ∈ e.chars) : c.toNat < 0x80 ∧ c ≠ '<' := by
  rcases e.mem_chars h with rfl | h | h
  · decide
  · refine ⟨toNat_lt_of_isAsciiDigit h, ?_⟩
    rintro rfl
    cases h
  · exact ⟨toNat_lt_of_isAlpha h, ne_of_isAlpha h (by decide)⟩

/-- No word of the name joins names, so the entry is no package. -/
theorem not_package (m : Marks) :
    ¬ occurs " and ".toList (lower (e.name.text ++ m.chars)) = true := by
  have hascii : ∀ c ∈ e.name.text ++ m.chars, c.toNat < 0x80 := by
    simp only [List.forall_mem_append]
    exact ⟨e.name.ascii,
      fun c hc => of_isStop (·.toNat < 0x80) (m.stops c hc) (by decide) (by decide)⟩
  have hspace : ' ' ∉ folded m.chars := fun h => by
    have hblank := m.not_blank ' ' (mem_of_mem_folded (by decide) h)
    cases hblank
  have hlower : lower (e.name.text ++ m.chars)
      = spaced (e.name.words.map folded) ++ folded m.chars := by
    rw [lower_of_ascii hascii, List.map_append, ← folded_spaced]
    rfl
  rw [occurs_eq_true_iff, hlower]
  refine not_infix_of_not_mem (w := "and".toList) (fun v hv hmem => ?_) hspace (by decide) ?_
  · obtain ⟨w, hw, rfl⟩ := List.mem_map.mp hv
    exact (e.name.isWord hw).space_not_mem (mem_of_mem_folded (by decide) hmem)
  · intro hmem
    obtain ⟨w, hw, heq⟩ := List.mem_map.mp hmem
    exact e.no_and w hw (folded_word hw ▸ heq)

/-- A numeral and a name with stops behind it are read as the entry. -/
theorem readChoice_name (m : Marks) : (do
    let n ← readCount e.count.digits
    readChoice n (trim (e.name.text ++ m.chars))) = e.read.map some := by
  have htrim : trim (e.name.text ++ m.chars) = e.name.text ++ m.chars :=
    (e.name.isTrimmed.append_marks m.not_blank).trim_eq
  have hchoice : ∀ n : Nat, readChoice n (e.name.text ++ m.chars)
      = .ok (some (choiceOf e.name n)) := by
    intro n
    rw [readChoice, if_neg (e.not_package m), cleanName_text e.name m.stops]
    dsimp only
    rw [if_neg (by simpa using e.name.isTrimmed.ne_nil)]
    rfl
  rw [readCount_digits, htrim, read]
  split_ifs
  · exact hchoice e.count.value
  · rfl

end Entry

/-! ## Pieces -/

/-- An entry with the stops behind it. -/
structure Piece where
  entry : Entry
  marks : Marks

namespace Piece

variable (p : Piece)

/-- The name of the entry with the stops behind it. -/
def name : List Char := p.entry.name.text ++ p.marks.chars

/-- The piece as text. -/
def chars : List Char := p.entry.count.digits ++ ' ' :: p.name

theorem chars_eq : p.chars = p.entry.chars ++ p.marks.chars := by
  rw [chars, name, Entry.chars, List.append_assoc, List.cons_append]

theorem isTidy : IsTidy p.chars := p.chars_eq ▸ p.entry.isTidy.append_marks p.marks.not_blank

theorem ascii {c : Char} (h : c ∈ p.chars) : c.toNat < 0x80 ∧ c ≠ '<' := by
  rw [chars_eq] at h
  rcases List.mem_append.mp h with h | h
  · exact p.entry.ascii h
  · exact of_isStop (fun d => d.toNat < 0x80 ∧ d ≠ '<') (p.marks.stops c h) (by decide) (by decide)

theorem isDecimal_of_mem_name {c : Char} (h : c ∈ p.name) : isDecimal c = false := by
  rcases List.mem_append.mp h with h | h
  · exact isDecimal_of_mem_text h
  · exact of_isStop (isDecimal · = false) (p.marks.stops c h) rfl rfl

theorem isTrimmed_name : IsTrimmed p.name := p.entry.name.isTrimmed.append_marks p.marks.not_blank

end Piece

/-- Pieces with one space between them. -/
def pieced (ps : List Piece) : List Char := spaced (ps.map Piece.chars)

theorem pieced_cons (p : Piece) {ps : List Piece} (hps : ps ≠ []) :
    pieced (p :: ps) = p.chars ++ ' ' :: pieced ps := by
  rw [pieced, List.map_cons, spaced_cons (by simpa using hps)]
  rfl

theorem isTrimmed_pieced {ps : List Piece} (hps : ps ≠ []) : IsTrimmed (pieced ps) := by
  refine (isTidy_spaced (by simpa using hps) fun w hw => ?_).trimmed
  obtain ⟨p, _, rfl⟩ := List.mem_map.mp hw
  exact p.isTidy

theorem ascii_of_mem_pieced {ps : List Piece} {c : Char} (h : c ∈ pieced ps) :
    c.toNat < 0x80 ∧ c ≠ '<' := by
  rcases mem_spaced h with rfl | ⟨w, hw, h⟩
  · decide
  · obtain ⟨p, _, rfl⟩ := List.mem_map.mp hw
    exact p.ascii h

/-! ## The run of numbered entries -/

/-- What ends an entry: the next numeral, or the end of the text. -/
abbrev entryEnd : Pattern := (gap ++ longest isDecimal ++ gap) <|> (blanks ++ textEnd)

/-- **Within a piece nothing ends an entry**: what is left of it holds no digit, and not only
    blanks. -/
theorem run_entryEnd_eq_none {α : Type} {s : Place} {c : Char} {y r : List Char}
    (hs : s.rest = y ++ r) (hdecimal : ∀ d ∈ y, isDecimal d = false) (hc : c ∈ y)
    (hblank : isBlank c = false) (k : Place → Option α) : (ahead entryEnd).run s k = none := by
  have hblanks : ∀ u : List Char, (∀ d ∈ u, isBlank d = true) → c ∉ u := by
    intro u hu hmem
    rw [hu c hmem] at hblank
    cases hblank
  have hnumeral : (gap ++ longest isDecimal ++ gap).run s (fun _ => some ()) = none := by
    refine run_eq_none (fun u t hsplit hreads => ?_) _
    obtain ⟨_, z, rfl, ⟨g, _, rfl, ⟨_, b, rfl, ⟨a, ha, rfl⟩, hb⟩, _, ds, rfl, ⟨d, hd, rfl⟩, _⟩, _⟩ :=
      hreads
    have hgap : ∀ d ∈ [a] ++ b, isBlank d = true := by
      simpa using ⟨ha, hb⟩
    have hcut : y ++ r = ([a] ++ b) ++ d :: (ds ++ z ++ t) := by
      rw [← hs, hsplit]
      simp
    rcases List.append_eq_append_iff.mp hcut with ⟨v, hv, _⟩ | ⟨v, hv, hrest⟩
    · exact hblanks _ hgap (hv ▸ List.mem_append_left v hc)
    · cases v with
      | nil =>
        rw [List.append_nil] at hv
        exact hblanks _ hgap (hv ▸ hc)
      | cons x v =>
        obtain ⟨rfl, _⟩ := List.cons.inj hrest
        have hno := hdecimal d (by simp [hv])
        rw [hd] at hno
        cases hno
  have hend : (blanks ++ textEnd).run s (fun _ => some ()) = none := by
    cases hrun : (blanks ++ textEnd).run s (fun _ => some ()) with
    | none => rfl
    | some a =>
      obtain ⟨t, ht, hstop⟩ := exists_of_run blanks hrun
      obtain ⟨u, hu, hgap⟩ := ht.reads
      have hmem : c ∈ u ++ t.rest := by
        rw [← hu, hs]
        exact List.mem_append_left r hc
      rcases List.mem_append.mp hmem with hmem | hmem
      · exact absurd hmem (hblanks u hgap)
      · refine absurd hmem (hblanks t.rest ?_)
        rcases rest_of_run_textEnd hstop with hnil | hbreak
        · simp [hnil]
        · simp [hbreak]
          rfl
  have halt : entryEnd.run s (fun _ => some ()) = none := by
    show (alt _ _).run s _ = none
    rw [run, hnumeral]
    exact hend
  rw [run, halt]

/-- What stands behind a piece: nothing, or a space and another piece. -/
inductive Follows : List Char → Prop
  | nil : Follows []
  | piece (p : Piece) (t : List Char) : Follows (' ' :: (p.chars ++ t))

theorem follows_pieced {ps : List Piece} (hps : ps ≠ []) : Follows (' ' :: pieced ps) := by
  obtain ⟨p, ps, rfl⟩ := List.exists_cons_of_ne_nil hps
  by_cases hnil : ps = []
  · subst hnil
    have h := Follows.piece p []
    rwa [List.append_nil, ← spaced_singleton p.chars] at h
  · rw [pieced_cons p hnil]
    exact .piece p _

/-- Behind a piece the entry ends. -/
theorem Follows.run_entryEnd {α : Type} {r : List Char} (hr : Follows r) {b : Option Char}
    {gs : List (Nat × List Char × List Char)} (k : Place → Option α) :
    (ahead entryEnd).run ⟨b, r, gs⟩ k = k ⟨b, r, gs⟩ := by
  have halt : entryEnd.run ⟨b, r, gs⟩ (fun _ => some ()) = some () := by
    cases hr with
    | nil => rfl
    | piece p t =>
      have hdigits : ∀ c ∈ p.entry.count.digits, isDecimal c = true := fun c hc =>
        isDecimal_of_isAsciiDigit (p.entry.count.ascii c hc)
      refine run_alt_left ?_ _
      rw [run_append, run_append, Piece.chars, List.append_assoc]
      refine run_gap (p.entry.count.isWord.isTrimmed.head_not_blank _) (fun b => ?_) b
      refine run_longest p.entry.count.digits_ne_nil hdigits (of_mem_head rfl _) (fun b => ?_) b
      exact run_gap (p.isTrimmed_name.head_not_blank t) (fun _ => rfl) b
  rw [run, halt]

/-- **A piece is one numbered entry**, whatever piece follows. -/
theorem exists_numberedEntry (p : Piece) {r : List Char} (hr : Follows r) (b : Option Char) :
    ∃ m, numberedEntry.matchAt b (p.chars ++ r) = some m ∧ m.start = p.chars ++ r ∧ m.stop = r
      ∧ m.group 1 = p.entry.count.digits ∧ m.group 2 = p.name := by
  have hsplit : p.chars ++ r = p.entry.count.digits ++ ' ' :: (p.name ++ r) := by
    rw [Piece.chars, List.append_assoc, List.cons_append]
  refine ⟨⟨p.chars ++ r, r, [(2, p.name ++ r, r), (1, p.chars ++ r, ' ' :: (p.name ++ r))]⟩,
    ?_, rfl, rfl, Match.group_eq (r := ' ' :: (p.name ++ r)) (by rw [← hsplit]; rfl),
    Match.group_eq rfl⟩
  have hdigits : ∀ c ∈ p.entry.count.digits, isDecimal c = true := fun c hc =>
    isDecimal_of_isAsciiDigit (p.entry.count.ascii c hc)
  have hspace : ∀ c ∈ (' ' :: (p.name ++ r)).head?, isDecimal c = false := of_mem_head rfl _
  have hname : ∀ c ∈ p.name, (!isAsciiDigit c) = true := by
    intro c hc
    have hno := p.isDecimal_of_mem_name hc
    cases hdigit : isAsciiDigit c with
    | false => rfl
    | true =>
      rw [isDecimal_of_isAsciiDigit hdigit] at hno
      cases hno
  rw [hsplit, matchAt, numberedEntry, run_append, run_append, run_append, run_group]
  refine run_longest p.entry.count.digits_ne_nil hdigits hspace (fun b => ?_) b
  refine run_gap (p.isTrimmed_name.head_not_blank r) (fun b => ?_) b
  rw [run_group]
  refine run_shortest p.isTrimmed_name.ne_nil hname (fun x y hxy _ hy b => ?_) (fun b => ?_) b
  · obtain ⟨t, c, hlast, hblank⟩ := p.isTrimmed_name.2
    have hsuffix : y <:+ p.name := hxy ▸ List.suffix_append x y
    have hc : c ∈ y := by
      obtain ⟨z, rfl, _⟩ := (List.suffix_concat_iff.mp (hlast ▸ hsuffix)).resolve_left hy
      simp
    exact run_entryEnd_eq_none rfl (fun d hd => p.isDecimal_of_mem_name (hsuffix.subset hd)) hc
      hblank _
  · exact hr.run_entryEnd _

/-- **The pieces of a text are its numbered entries, in order.** -/
theorem findAllFrom_pieced : ∀ (ps : List Piece) (b : Option Char),
    List.Forall₂ (fun m p => m.group 1 = p.entry.count.digits ∧ m.group 2 = p.name)
      (numberedEntry.findAllFrom 0 b (pieced ps)) ps
  | [], _ => .nil
  | p :: ps, b => by
    have hne : p.chars ≠ [] := p.isTidy.trimmed.ne_nil
    by_cases hps : ps = []
    · subst hps
      obtain ⟨m, hm, hstart, hstop, hcount, hname⟩ := exists_numberedEntry p .nil b
      obtain ⟨b', hall⟩ := findAllFrom_match hne hm hstart hstop
      have hlast : pieced [p] = p.chars ++ [] := by
        rw [List.append_nil]
        exact spaced_singleton p.chars
      rw [hlast, hall]
      exact .cons ⟨hcount, hname⟩ .nil
    · obtain ⟨m, hm, hstart, hstop, hcount, hname⟩ :=
        exists_numberedEntry p (follows_pieced hps) b
      obtain ⟨b', hall⟩ := findAllFrom_match hne hm hstart hstop
      -- no entry begins at the space between two pieces
      have hspace : numberedEntry.findAllFrom 0 b' (' ' :: pieced ps)
          = numberedEntry.findAllFrom 0 (some ' ') (pieced ps) := rfl
      rw [pieced_cons p hps, hall, hspace]
      exact .cons ⟨hcount, hname⟩ (findAllFrom_pieced ps (some ' '))

theorem readNumberedEntries_pieced (ps : List Piece) :
    readNumberedEntries (pieced ps) = ps.mapM (·.entry.read) := by
  refine mapM_filterMap_of_forall₂ ((findAllFrom_pieced ps none).imp ?_)
  rintro m p ⟨hcount, hname⟩
  rw [hcount, hname]
  exact p.entry.readChoice_name p.marks

/-- **Pieces are read as their entries.** -/
theorem readChoices_pieced {ps : List Piece} (hps : ps ≠ []) :
    readChoices (pieced ps) = ps.mapM (·.entry.read) := by
  have hmarkup : ¬ occurs "<li>".toList (lower (pieced ps)) = true := by
    rw [occurs_eq_true_iff, lower_of_ascii fun c hc => (ascii_of_mem_pieced hc).1]
    intro h
    have hmem := mem_of_mem_folded (d := '<') (by decide) (h.subset (by decide))
    exact (ascii_of_mem_pieced hmem).2 rfl
  rw [readChoices, (isTrimmed_pieced hps).trim_eq]
  show (if (pieced ps).isEmpty then _ else if _ then _ else _) = _
  rw [if_neg (by simpa using (isTrimmed_pieced hps).ne_nil), if_neg hmarkup, readPlainChoices,
    readNumberedEntries_pieced]
  exact mapM_bind_ite_isEmpty hps _

/-! ## Marked-up entries -/

namespace Entry

/-- The entry with its markup. -/
def item (e : Entry) : List Char := "<li>".toList ++ e.chars ++ "</li>".toList

/-- A numeral and what it counts. -/
theorem exists_countedText (e : Entry) : ∃ m, countedText.matchStart e.chars = some m
    ∧ m.group 1 = e.count.digits ∧ m.group 2 = e.name.text := by
  refine ⟨⟨e.chars, [], [(2, e.name.text, []), (1, e.chars, ' ' :: e.name.text)]⟩, ?_,
    Match.group_eq rfl, Match.group_eq (by rw [List.append_nil]; rfl)⟩
  have hspace : ∀ c ∈ (' ' :: e.name.text).head?, isDecimal c = false := of_mem_head rfl _
  have hname : ∀ c ∈ e.name.text.head?, isBlank c = false := by
    simpa using e.name.head_not_blank []
  rw [matchStart, matchAt, countedText, run_append, run_append, run_append, chars]
  refine run_countAs e.count hspace (fun b => run_gap hname (fun b => ?_) b) none
  exact run_longest_textEnd e.name.isTrimmed.ne_nil (fun _ => rfl) b

/-- Markup of an entry is one list entry, whatever follows. -/
theorem exists_listEntry (e : Entry) (r : List Char) (b : Option Char) :
    ∃ m, listEntry.matchAt b (e.item ++ r) = some m ∧ m.start = e.item ++ r ∧ m.stop = r
      ∧ m.group 1 = e.chars := by
  have hsplit : e.item ++ r = "<li>".toList ++ (e.chars ++ ("</li>".toList ++ r)) := by
    simp only [item, List.append_assoc]
  have htext : ∀ c ∈ e.chars, (c != '<') = true := fun c hc => by simpa using (e.ascii hc).2
  have htag : ∀ c ∈ ("</li>".toList ++ r).head?, (c != '<') = false :=
    of_mem_head (d := '<') (by decide) ("/li>".toList ++ r)
  refine ⟨⟨e.item ++ r, r, [(1, e.chars ++ ("</li>".toList ++ r), "</li>".toList ++ r)]⟩, ?_, rfl,
    rfl, Match.group_eq rfl⟩
  rw [hsplit, matchAt, listEntry, run_append, run_append]
  refine run_text rfl (fun b => ?_) b
  rw [run_group]
  exact run_longest e.isTidy.trimmed.ne_nil htext htag (fun b => run_text rfl (fun _ => rfl) b) b

end Entry

/-- **Marked-up entries are the list entries, in order**, if none is behind them. -/
theorem findAllFrom_items {t : List Char} (ht : ∀ b, listEntry.findAllFrom 0 b t = []) :
    ∀ (es : List Entry) (b : Option Char), List.Forall₂ (fun m e => m.group 1 = e.chars)
      (listEntry.findAllFrom 0 b (es.flatMap Entry.item ++ t)) es
  | [], b => by
    rw [List.flatMap_nil, List.nil_append, ht]
    exact .nil
  | e :: es, b => by
    obtain ⟨m, hm, hstart, hstop, htext⟩ := e.exists_listEntry (es.flatMap Entry.item ++ t) b
    have hne : e.item ≠ [] := List.append_ne_nil_of_right_ne_nil _ (by decide)
    obtain ⟨b', hall⟩ := findAllFrom_match hne hm hstart hstop
    rw [List.flatMap_cons, List.append_assoc, hall]
    exact .cons htext (findAllFrom_items ht es b')

/-! ## Written forms -/

/-- The written forms of a list of choices. -/
inductive ListForm where
  | markup
  | run
  | commas

/-- A list of entries in a written form. -/
def ListForm.write : ListForm → List Entry → List Char
  | markup, es => "<ul>".toList ++ es.flatMap Entry.item ++ "</ul>".toList
  | run, es => " ".toList.intercalate (es.map Entry.chars)
  | commas, es => ", ".toList.intercalate (es.map Entry.chars)

theorem readListEntries_markup (es : List Entry) {t : List Char}
    (ht : ∀ b, listEntry.findAllFrom 0 b ("</ul>".toList ++ t) = []) :
    readListEntries (ListForm.markup.write es ++ t) = es.mapM Entry.read := by
  have hopen : listEntry.findAll (ListForm.markup.write es ++ t)
      = listEntry.findAllFrom 0 (some '>') (es.flatMap Entry.item ++ ("</ul>".toList ++ t)) := by
    rw [ListForm.write, List.append_assoc, List.append_assoc]
    rfl
  rw [readListEntries, hopen]
  refine mapM_filterMap_of_forall₂ ((findAllFrom_items ht es (some '>')).imp ?_)
  intro m e htext
  obtain ⟨c, hc, hcount, hname⟩ := e.exists_countedText
  have hread := e.readChoice_name .none
  rw [Marks.none, List.append_nil] at hread
  rw [htext, e.isTidy.trimmed.trim_eq, hc]
  dsimp only
  rw [hcount, hname]
  exact hread

/-- The pieces of a list: `sep` stands behind every entry but the last, `ending` behind that. -/
def pieces (sep ending : Marks) : List Entry → List Piece
  | [] => []
  | [e] => [⟨e, ending⟩]
  | e :: f :: es => ⟨e, sep⟩ :: pieces sep ending (f :: es)

theorem pieces_ne_nil {sep ending : Marks} : ∀ {es : List Entry}, es ≠ [] →
    pieces sep ending es ≠ []
  | [], h => absurd rfl h
  | [_], _ => List.cons_ne_nil _ _
  | _ :: _ :: _, _ => List.cons_ne_nil _ _

theorem mapM_pieces {sep ending : Marks} : ∀ es : List Entry,
    (pieces sep ending es).mapM (·.entry.read) = es.mapM Entry.read
  | [] => rfl
  | [_] => rfl
  | e :: f :: es => by
    rw [pieces, List.mapM_cons, mapM_pieces (f :: es), List.mapM_cons (a := e)]

/-- Entries with a separator between them are pieces. -/
theorem pieced_pieces (sep ending : Marks) : ∀ {es : List Entry}, es ≠ [] →
    pieced (pieces sep ending es)
      = (sep.chars ++ [' ']).intercalate (es.map Entry.chars) ++ ending.chars
  | [], h => absurd rfl h
  | [e], _ => by
    rw [pieces, pieced, List.map_singleton, spaced_singleton, Piece.chars_eq, List.map_singleton,
      List.intercalate_singleton]
  | e :: f :: es, _ => by
    have hes : f :: es ≠ [] := List.cons_ne_nil f es
    rw [pieces, pieced_cons _ (pieces_ne_nil hes), pieced_pieces sep ending hes, Piece.chars_eq,
      List.map_cons (l := f :: es), List.intercalate_cons_of_ne_nil (by simp)]
    simp only [List.append_assoc, List.cons_append, List.nil_append]

theorem readChoices_separated (sep ending : Marks) {es : List Entry} (hes : es ≠ []) :
    readChoices ((sep.chars ++ [' ']).intercalate (es.map Entry.chars) ++ ending.chars)
      = es.mapM Entry.read := by
  rw [← pieced_pieces sep ending hes, readChoices_pieced (pieces_ne_nil hes), mapM_pieces]

theorem ascii_of_mem_markup (es : List Entry) : ∀ c ∈ ListForm.markup.write es, c.toNat < 0x80 := by
  have htag : ∀ w ∈ ["<ul>", "</ul>", "<li>", "</li>"], ∀ c ∈ w.toList, c.toNat < 0x80 := by
    simp
  simp only [List.forall_mem_cons] at htag
  obtain ⟨hul, hulEnd, hli, hliEnd, _⟩ := htag
  have hitem : ∀ e : Entry, ∀ c ∈ e.item, c.toNat < 0x80 := by
    intro e
    simp only [Entry.item, List.forall_mem_append]
    exact ⟨⟨hli, fun c hc => (e.ascii hc).1⟩, hliEnd⟩
  have hitems : ∀ c ∈ es.flatMap Entry.item, c.toNat < 0x80 := by
    intro c hc
    obtain ⟨e, _, hc⟩ := List.mem_flatMap.mp hc
    exact hitem e c hc
  simp only [ListForm.write, List.forall_mem_append]
  exact ⟨⟨hul, hitems⟩, hulEnd⟩

theorem occurs_markup (ending : Marks) {es : List Entry} (hes : es ≠ []) :
    occurs "<li>".toList (lower (ListForm.markup.write es ++ ending.chars)) = true := by
  have hascii : ∀ c ∈ ListForm.markup.write es ++ ending.chars, c.toNat < 0x80 := by
    simp only [List.forall_mem_append]
    exact ⟨ascii_of_mem_markup es,
      fun c hc => of_isStop (·.toNat < 0x80) (ending.stops c hc) (by decide) (by decide)⟩
  obtain ⟨e, es, rfl⟩ := List.exists_cons_of_ne_nil hes
  have hpiece : "<li>".toList <:+: ListForm.markup.write (e :: es) ++ ending.chars :=
    ⟨"<ul>".toList, e.chars ++ "</li>".toList ++ es.flatMap Entry.item ++ "</ul>".toList
      ++ ending.chars, by simp only [ListForm.write, Entry.item, List.flatMap_cons,
        List.append_assoc]⟩
  rw [occurs_eq_true_iff, lower_of_ascii hascii]
  exact hpiece.map foldChar

/-- Entries in markup are read as they are. -/
theorem readChoices_markup (ending : Marks)
    (hending : ∀ b, listEntry.findAllFrom 0 b ("</ul>".toList ++ ending.chars) = [])
    {es : List Entry} (hes : es ≠ []) :
    readChoices (ListForm.markup.write es ++ ending.chars) = es.mapM Entry.read := by
  have htrimmed : IsTrimmed (ListForm.markup.write es ++ ending.chars) := by
    refine IsTrimmed.append_marks ⟨⟨'<', _, rfl, rfl⟩, ?_⟩ ending.not_blank
    exact ⟨"<ul>".toList ++ es.flatMap Entry.item ++ "</ul".toList, '>',
      by rw [ListForm.write, List.append_assoc _ "</ul".toList]; rfl, rfl⟩
  rw [readChoices, htrimmed.trim_eq]
  show (if (ListForm.markup.write es ++ ending.chars).isEmpty then _ else if _ then _ else _) = _
  rw [if_neg (by simpa using htrimmed.ne_nil), if_pos (occurs_markup ending hes),
    readListEntries_markup es hending]
  exact mapM_bind_ite_isEmpty hes _

/-! ## The forms agree -/

/-- **In every written form a list is read as its entries.** -/
theorem readChoices_write (form : ListForm) {es : List Entry} (hes : es ≠ []) {stop : String}
    (hstop : stop ∈ ["", "."]) :
    readChoices (form.write es ++ stop.toList) = es.mapM Entry.read := by
  have hforms : ∀ ending : Marks,
      (∀ b, listEntry.findAllFrom 0 b ("</ul>".toList ++ ending.chars) = []) →
      readChoices (form.write es ++ ending.chars) = es.mapM Entry.read := by
    intro ending hending
    cases form with
    | markup => exact readChoices_markup ending hending hes
    | run => exact readChoices_separated .none ending hes
    | commas => exact readChoices_separated .comma ending hes
  rcases List.mem_pair.mp hstop with rfl | rfl
  · exact hforms .none fun _ => rfl
  · exact hforms .fullStop fun _ => rfl

/-- A list is read up to the first numeral that is too long. -/
theorem mapM_read (es : List Entry) : es.mapM Entry.read
    = match es.find? fun e => mostDigits < e.count.digits.length with
      | none => .ok (es.map fun e => choiceOf e.name e.count.value)
      | some e => .error (.longNumeral ⟨e.count.digits.length⟩) := by
  induction es with
  | nil => rfl
  | cons e es ih =>
    rw [List.mapM_cons, ih, Entry.read]
    by_cases hlong : mostDigits < e.count.digits.length
    · rw [if_neg (by omega), List.find?_cons_of_pos (by simpa using hlong)]
      rfl
    · rw [if_pos (by omega), List.find?_cons_of_neg (by simpa using hlong)]
      cases es.find? fun e => mostDigits < e.count.digits.length <;> rfl

/-- An entry with a full stop is a list by itself. -/
theorem Entry.readChoices_alone (e : Entry) : readChoices (e.chars ++ ['.'])
    = if e.count.digits.length ≤ mostDigits then .ok [choiceOf e.name e.count.value]
      else .error (.longNumeral ⟨e.count.digits.length⟩) := by
  have hread := readChoices_write .run (List.cons_ne_nil e []) (by decide : "." ∈ ["", "."])
  have halone : ListForm.run.write [e] ++ ".".toList = e.chars ++ ['.'] := by
    rw [ListForm.write, List.map_singleton, List.intercalate_singleton]
    rfl
  rw [← halone, hread, List.mapM_cons, Entry.read]
  split_ifs <;> rfl

/-- **The written forms of a list agree**: each is read as one choice an entry, in order, which
    holds the name so many times as the numeral says.  If there are numerals too long to be read, the
    list is an error that tells the first of them. -/
theorem readChoices_written (es : List Entry) (hes : es ≠ []) (form : ListForm) (stop : String)
    (hstop : stop ∈ ["", "."]) :
    readChoices (form.write es ++ stop.toList)
      = match es.find? fun e => mostDigits < e.count.digits.length with
        | none => .ok (es.map fun e => ⟨[⟨String.ofList e.name.text, e.count.value⟩], false⟩)
        | some e => .error (.longNumeral ⟨e.count.digits.length⟩) := by
  rw [readChoices_write form hes hstop]
  exact mapM_read es

/-- So many swords. -/
def swords (count : Numeral) : Entry := ⟨count, oneWord "sword" (by decide), by decide⟩

/-- Two swords, or a claw. -/
def swordsOrClaw : List Entry := [swords two, ⟨one, oneWord "claw" (by decide), by decide⟩]

theorem readChoices_swords_or_claw :
    readChoices "<ul><li>2 sword</li><li>1 claw</li></ul>".toList
      = .ok [⟨[⟨"sword", 2⟩], false⟩, ⟨[⟨"claw", 1⟩], false⟩] ∧
    readChoices "2 sword 1 claw.".toList = .ok [⟨[⟨"sword", 2⟩], false⟩, ⟨[⟨"claw", 1⟩], false⟩] ∧
    readChoices "2 sword, 1 claw.".toList = .ok [⟨[⟨"sword", 2⟩], false⟩, ⟨[⟨"claw", 1⟩], false⟩] := by
  have hes : swordsOrClaw ≠ [] := List.cons_ne_nil _ _
  have hmarkup := readChoices_written swordsOrClaw hes .markup "" (by decide)
  have hrun := readChoices_written swordsOrClaw hes .run "." (by decide)
  have hcommas := readChoices_written swordsOrClaw hes .commas "." (by decide)
  exact ⟨hmarkup, hrun, hcommas⟩

theorem not_readChoices_padded : readChoices ((swords paddedOne).chars ++ ['.'])
    = .error (.longNumeral ⟨4301⟩) := by
  have hlong : (swords paddedOne).count.digits.length = 4301 := length_paddedOne
  rw [Entry.readChoices_alone, hlong]
  rfl

end Muster.Wargear
