/-
  What is read from plain names and numerals.

  1. **Program.**  Names are cleaned of notes, punctuation and numerals; possessives are taken off;
     items are cut at the word "and" (`Wargear/Item.lean`).

  2. **Specification.**  A plain name is read as itself.  Several names joined by "and" are read as
     those names, in order, with or without the possessive of this model before them.

  3. **The crux** is what does NOT match: a plain name holds no mark, no digit and no apostrophe, so
     none of the patterns that would take something off it finds anything; and the separator between
     two names is met nowhere within a name (`run_eq_none_of_not_mem`).
-/
import Mathlib
import Muster.Wargear.Item
import Muster.Proofs.Except
import Muster.Proofs.Text.Pattern

namespace Muster.Wargear

open Text Pattern

/-! ## Numerals -/

/-- A numeral of ASCII digits. -/
structure Numeral where
  digits : List Char
  digits_ne_nil : digits ≠ []
  ascii : ∀ c ∈ digits, isAsciiDigit c = true

/-- The number that a numeral writes. -/
def Numeral.value (k : Numeral) : Nat := Nat.ofDigitChars 10 k.digits 0

theorem toNat_lt_of_isAsciiDigit {c : Char} (h : isAsciiDigit c = true) : c.toNat < 0x80 := by
  rw [isAsciiDigit_iff] at h
  omega

theorem isBlank_of_isAsciiDigit {c : Char} (h : isAsciiDigit c = true) : isBlank c = false := by
  rw [← Bool.not_eq_true, isBlank_iff_of_ascii (toNat_lt_of_isAsciiDigit h)]
  rw [isAsciiDigit_iff] at h
  omega

theorem isDecimal_of_isAsciiDigit {c : Char} (h : isAsciiDigit c = true) : isDecimal c = true :=
  (isDecimal_iff_of_ascii (toNat_lt_of_isAsciiDigit h)).mpr h

theorem foldChar_of_isAsciiDigit {c : Char} (h : isAsciiDigit c = true) : foldChar c = c := by
  have hc := (isAsciiDigit_iff c).mp h
  have hupper : ¬ ('A' ≤ c && c ≤ 'Z') = true := by
    simp only [Bool.and_eq_true, decide_eq_true_eq, not_and]
    intro hle
    have : 65 ≤ c.toNat := hle
    omega
  rw [foldChar, if_neg hupper, if_pos (toNat_lt_of_isAsciiDigit h)]

namespace Numeral

variable (k : Numeral)

theorem isWord : IsWord k.digits :=
  ⟨k.digits_ne_nil, fun c hc => isBlank_of_isAsciiDigit (k.ascii c hc)⟩

theorem folded_digits : folded k.digits = k.digits := by
  rw [folded, List.map_congr_left fun c hc => foldChar_of_isAsciiDigit (k.ascii c hc), List.map_id']

theorem lower_digits : lower k.digits = k.digits := by
  rw [lower_of_ascii fun c hc => toNat_lt_of_isAsciiDigit (k.ascii c hc)]
  exact k.folded_digits

theorem trim_digits : trim k.digits = k.digits := by
  have hone : ∀ w ∈ [k.digits], IsWord w := fun w hw => List.mem_singleton.mp hw ▸ k.isWord
  simpa using trim_spaced hone

theorem decimalValue_digits : decimalValue k.digits = k.value := by
  have hdigit : ∀ (n : Nat), ∀ c ∈ k.digits,
      10 * n + (digitValue? c).getD 0 = 10 * n + (c.toNat - '0'.toNat) := by
    intro n c hc
    have hrange : ('0' ≤ c && c ≤ '9') = true := k.ascii c hc
    rw [digitValue?, if_pos (toNat_lt_of_isAsciiDigit (k.ascii c hc)), if_pos hrange]
    rfl
  exact List.foldl_ext _ _ 0 hdigit

end Numeral

/-- One. -/
def one : Numeral := ⟨['1'], List.cons_ne_nil _ _, fun _ hc => List.mem_singleton.mp hc ▸ rfl⟩

/-- Two. -/
def two : Numeral := ⟨['2'], List.cons_ne_nil _ _, fun _ hc => List.mem_singleton.mp hc ▸ rfl⟩

/-- One, with so many zeros before it that it is too long to be read. -/
def paddedOne : Numeral where
  digits := List.replicate mostDigits '0' ++ ['1']
  digits_ne_nil := by simp
  ascii := by
    intro c hc
    rcases List.mem_append.mp hc with hc | hc
    · rw [(List.mem_replicate.mp hc).2]
      rfl
    · rw [List.mem_singleton.mp hc]
      rfl

theorem length_paddedOne : paddedOne.digits.length = 4301 := by
  show (List.replicate mostDigits '0' ++ ['1']).length = 4301
  rw [List.length_append, List.length_replicate]
  rfl

/-- Count words are made of small letters. -/
theorem letters_of_mem_countWords {w : List Char} (h : w ∈ countWords) :
    w ≠ [] ∧ folded w = w ∧ ∀ c ∈ w, c.isAlpha = true := by
  have hall : countWords.all (fun w => !w.isEmpty && w.all fun c => foldChar c == c && c.isAlpha)
      = true := by decide
  have hw := List.all_eq_true.mp hall w h
  rw [Bool.and_eq_true, List.all_eq_true] at hw
  obtain ⟨hne, hletters⟩ := hw
  have hboth : ∀ c ∈ w, foldChar c = c ∧ c.isAlpha = true := fun c hc => by
    simpa using hletters c hc
  refine ⟨by simpa using hne, ?_, fun c hc => (hboth c hc).2⟩
  rw [folded, List.map_congr_left fun c hc => (hboth c hc).1, List.map_id']

/-- **A numeral is read as the number that it writes**, unless it is too long to be read. -/
theorem readCount_digits (k : Numeral) : readCount k.digits
    = if k.digits.length ≤ mostDigits then .ok k.value
      else .error (.longNumeral ⟨k.digits.length⟩) := by
  have hword : countWord? k.digits = none := by
    rw [countWord?, List.findIdx?_eq_none_iff.mpr]
    · rfl
    · intro w hw
      rw [beq_eq_false_iff_ne]
      rintro rfl
      obtain ⟨hne, _, halpha⟩ := letters_of_mem_countWords hw
      obtain ⟨c, hc⟩ := List.exists_mem_of_ne_nil _ hne
      have hdigit := k.ascii c hc
      rw [isAsciiDigit_of_isAlpha (halpha c hc)] at hdigit
      cases hdigit
  have hread : (!k.digits.isEmpty && k.digits.all isAsciiDigit) = true := by
    simpa [k.digits_ne_nil] using k.ascii
  rw [readCount, k.trim_digits, k.lower_digits, hword]
  dsimp only
  rw [if_pos hread, readNumeral, k.decimalValue_digits]
  by_cases hlong : k.digits.length ≤ mostDigits
  · rw [if_pos hlong, if_neg (by omega)]
    rfl
  · rw [if_neg hlong, if_pos (by omega)]
    rfl

/-- A count is a run of digits or a count word. -/
theorem reads_countAs {n : Nat} {u : List Char} (h : (countAs n).Reads u) :
    (u ≠ [] ∧ ∀ c ∈ u, isDecimal c = true) ∨ folded u ∈ countWords := by
  have hfirst : ∀ ps : List Pattern, (Pattern.firstOf ps).Reads u →
      ps = [] ∨ ∃ p ∈ ps, p.Reads u := by
    intro ps hps
    induction ps with
    | nil => exact Or.inl rfl
    | cons p ps ih =>
      cases ps with
      | nil => exact Or.inr ⟨p, List.mem_cons_self, hps⟩
      | cons q ps =>
        rcases hps with hp | hps
        · exact Or.inr ⟨p, List.mem_cons_self, hp⟩
        · obtain ⟨p', hp', hreads⟩ := (ih hps).resolve_left (List.cons_ne_nil q ps)
          exact Or.inr ⟨p', List.mem_cons_of_mem p hp', hreads⟩
  obtain ⟨p, hp, hreads⟩ := (hfirst _ h).resolve_left (List.cons_ne_nil _ _)
  rcases List.mem_cons.mp hp with rfl | hp
  · obtain ⟨_, x, rfl, ⟨c, hc, rfl⟩, hx⟩ := hreads
    refine Or.inl ⟨List.cons_ne_nil c x, fun d hd => ?_⟩
    rcases List.mem_cons.mp hd with rfl | hd
    · exact hc
    · exact hx d hd
  · obtain ⟨w, hw, rfl⟩ := List.mem_map.mp hp
    obtain ⟨_, hfold, _⟩ := letters_of_mem_countWords hw
    refine Or.inr ?_
    rw [reads_textOf.mp hreads, hfold]
    exact hw

/-- A count takes a numeral. -/
theorem run_countAs {α : Type} {k : Place → Option α} {a : α} (ds : Numeral) {n : Nat}
    {gs : List (Nat × List Char × List Char)} {r : List Char}
    (hr : ∀ c ∈ r.head?, isDecimal c = false)
    (hk : ∀ b, k ⟨b, r, (n, ds.digits ++ r, r) :: gs⟩ = some a) (b : Option Char) :
    (countAs n).run ⟨b, ds.digits ++ r, gs⟩ k = some a := by
  have hfirst : firstOf (longest isDecimal :: countWords.map textOf)
      = alt (longest isDecimal) (firstOf (countWords.map textOf)) := rfl
  rw [countAs, run_group, hfirst]
  refine run_alt_left (run_longest ds.digits_ne_nil
    (fun c hc => isDecimal_of_isAsciiDigit (ds.ascii c hc)) hr (fun b => ?_) b) _
  exact hk b

/-- Count words are no beginnings of each other. -/
theorem countWords_apart {v w : List Char} (hv : v ∈ countWords) (hw : w ∈ countWords) :
    v = w ∨ v.isPrefixOf w = false ∧ w.isPrefixOf v = false := by
  have hall : countWords.all (fun v => countWords.all fun w =>
      v == w || (!v.isPrefixOf w && !w.isPrefixOf v)) = true := by decide
  have hpair := List.all_eq_true.mp (List.all_eq_true.mp hall v hv) w hw
  simpa using hpair

/-- A count takes a count word, in any case. -/
theorem run_countAs_word {α : Type} {k : Place → Option α} {a : α} {u : List Char} {n : Nat}
    (hletters : ∀ c ∈ u, c.isAlpha = true) (hu : folded u ∈ countWords)
    {gs : List (Nat × List Char × List Char)} {r : List Char}
    (hk : ∀ b, k ⟨b, r, (n, u ++ r, r) :: gs⟩ = some a) (b : Option Char) :
    (countAs n).run ⟨b, u ++ r, gs⟩ k = some a := by
  have hfolded : ∀ w ∈ countWords, folded w = w := fun w hw => (letters_of_mem_countWords hw).2.1
  have hwords : (firstOf (countWords.map textOf)).Takes u r := by
    refine takes_firstOf ⟨folded u, hu, hfolded _ hu⟩ fun w hw => ?_
    rw [hfolded w hw]
    exact countWords_apart hw hu
  have hdigits : ∀ v t, u ++ r = v ++ t → ¬ (longest isDecimal).Reads v := by
    rintro _ t hsplit ⟨_, y, rfl, ⟨c, hc, rfl⟩, _⟩
    obtain ⟨d, u, rfl⟩ := List.exists_cons_of_ne_nil (l := u) <| by
      rintro rfl
      exact (letters_of_mem_countWords hu).1 rfl
    obtain rfl : d = c := (List.cons.inj hsplit).1
    rw [isDecimal_of_isAlpha (hletters d List.mem_cons_self)] at hc
    cases hc
  have hcount : (firstOf (longest isDecimal :: countWords.map textOf)).Takes u r :=
    hwords.alt_right hdigits
  rw [countAs, run_group]
  refine hcount.run (fun b => ?_) b
  exact hk b

/-- Count words are read. -/
theorem exists_readCount_word {u : List Char} (hletters : ∀ c ∈ u, c.isAlpha = true)
    (hu : folded u ∈ countWords) : ∃ k, readCount u = .ok k := by
  have hword : IsWord u := by
    refine isWord_of_letters ?_ hletters
    rintro rfl
    exact (letters_of_mem_countWords hu).1 rfl
  have hlower : lower (trim u) = folded u := by
    rw [hword.isTrimmed.trim_eq]
    exact lower_of_ascii fun c hc => toNat_lt_of_isAlpha (hletters c hc)
  have hknown : (countWord? (folded u)).isSome = true := by
    rw [countWord?, Option.isSome_map, List.findIdx?_isSome, List.any_eq_true]
    exact ⟨folded u, hu, beq_self_eq_true _⟩
  obtain ⟨k, hk⟩ := Option.isSome_iff_exists.mp hknown
  exact ⟨k, by rw [readCount, hlower, hk]⟩

/-! ## Cleaning a name -/

/-- A mark that ends a sentence or an entry of a list. -/
def isStop (c : Char) : Bool := c == '.' || c == ','

/-- What holds of the full stop and of the comma holds of every stop. -/
theorem of_isStop (P : Char → Prop) {c : Char} (h : isStop c = true) (hstop : P '.')
    (hcomma : P ',') : P c := by
  rw [isStop, Bool.or_eq_true, beq_iff_eq, beq_iff_eq] at h
  rcases h with rfl | rfl
  · exact hstop
  · exact hcomma

variable {n : PlainName} {s tail : List Char}

theorem singleSpaced_append (n : PlainName) (htail : ∀ c ∈ tail, isStop c = true) :
    SingleSpaced (n.text ++ tail) :=
  singleSpaced_spaced (fun _ hw => n.isWord hw) fun c hc =>
    of_isStop (isBlank · = false) (htail c hc) rfl rfl

/-- A mark that neither spells a name nor is a stop is not met. -/
theorem not_infix_mark {c : Char} (hspace : c ≠ ' ') (hstop : isStop c = false)
    (hc : c.isAlpha = false) (htail : ∀ d ∈ tail, isStop d = true) :
    ¬ [c] <:+: folded (n.text ++ tail) := by
  intro h
  have hmem : c ∈ n.text ++ tail := mem_of_mem_folded hc (h.subset (by simp))
  rcases List.mem_append.mp hmem with hmem | hmem
  · exact PlainName.not_mem_text hspace hc hmem
  · exact Bool.false_ne_true (hstop.symm.trans (htail c hmem))

theorem contains_note : note.Contains ['('] :=
  ((((spells_textOf ['(']).contains.right _).left _).left _).left _

theorem exists_decimal_of_reads_leadingNumeral {u : List Char} (h : leadingNumeral.Reads u) :
    ∃ c ∈ u, isDecimal c = true := by
  obtain ⟨_, _, rfl, ⟨x, _, rfl, _, _, y, rfl, ⟨c, hc, rfl⟩, _⟩, _⟩ := h
  exact ⟨c, by simp, hc⟩

/-- A plain name has no note. -/
theorem replaceAll_note_text (n : PlainName) (htail : ∀ c ∈ tail, isStop c = true) :
    note.replaceAll [' '] (n.text ++ tail) = n.text ++ tail := by
  rw [replaceAll, split_eq_singleton fun x y hxy _ b => ?_]
  · exact List.intercalate_singleton
  · have hy : y <:+: n.text ++ tail := hxy ▸ (List.suffix_append x y).isInfix
    refine matchAt_eq_none_of_contains contains_note ((singleSpaced_append n htail).piece hy)
      (fun h => ?_) b
    exact not_infix_mark (by decide) (by decide) (by decide) htail (h.trans (hy.map foldChar))

theorem endsName_of_isAlpha {c : Char} (hc : c.isAlpha = true) : endsName c = false := by
  have hmarks : ".,;:*".toList.all (fun d => !d.isAlpha) = true := by decide
  rw [endsName, isBlank_of_isAlpha hc, Bool.or_false, ← Bool.not_eq_true, List.contains_iff_mem]
  intro hmem
  have hmark := List.all_eq_true.mp hmarks c hmem
  rw [hc] at hmark
  cases hmark

/-- A stop is taken off, and no letter with it. -/
theorem dropEndWhile_text (n : PlainName) (htail : ∀ c ∈ tail, isStop c = true) :
    dropEndWhile endsName (n.text ++ tail) = n.text := by
  obtain ⟨t, c, hlast, hc⟩ := n.exists_last
  have hstop : ∀ d ∈ tail.reverse, endsName d = true := fun d hd =>
    of_isStop (endsName · = true) (htail d (List.mem_reverse.mp hd)) rfl rfl
  rw [dropEndWhile, List.reverse_append, List.dropWhile_append_of_pos hstop, hlast,
    List.reverse_append, List.reverse_singleton, List.singleton_append, List.dropWhile_cons,
    endsName_of_isAlpha hc, if_neg Bool.false_ne_true, List.reverse_cons, List.reverse_reverse]

theorem isDecimal_of_mem_text {n : PlainName} {c : Char} (hc : c ∈ n.text) :
    isDecimal c = false := by
  rcases PlainName.mem_text hc with rfl | halpha
  · rfl
  · exact isDecimal_of_isAlpha halpha

/-- No numeral stands before a plain name. -/
theorem dropStart_text (n : PlainName) : leadingNumeral.dropStart n.text = n.text := by
  refine dropStart_eq_self (matchAt_eq_none (fun u r hsplit hreads => ?_) none)
  obtain ⟨c, hc, hdecimal⟩ := exists_decimal_of_reads_leadingNumeral hreads
  have hmem : c ∈ n.text := hsplit ▸ List.mem_append_left r hc
  rw [isDecimal_of_mem_text hmem] at hdecimal
  cases hdecimal

/-- **A plain name is clean**, and a stop behind it is taken off. -/
theorem cleanName_text (n : PlainName) (htail : ∀ c ∈ tail, isStop c = true) :
    cleanName (n.text ++ tail) = n.text := by
  rw [cleanName, replaceAll_note_text n htail, dropEndWhile_text n htail, dropStart_text,
    PlainName.text, squeeze_spaced fun w hw => n.isWord hw]

/-! ## Taking possessives off -/

/-- A possessive has an apostrophe. -/
theorem contains_of_mem_possessives : ∀ p ∈ possessives, p.Contains ['\''] := by
  have howner : possessor.Contains ['\''] :=
    (((spells_text "'s").contains.mono ⟨[], ['s'], rfl⟩).right _).left _
  simp only [possessives, List.forall_mem_cons, List.not_mem_nil, false_implies, implies_true,
    and_true]
  exact ⟨howner.right _,
    ((spells_text "this model's").contains.mono ⟨"this model".toList, ['s'], rfl⟩).left _,
    howner.right _, howner.right _, howner.right _⟩

theorem foldl_dropStart_eq_self {ps : List Pattern} (hps : ∀ p ∈ ps, p.Contains ['\''])
    (hsingle : SingleSpaced s) (hs : '\'' ∉ s) : ps.foldl (fun t p => p.dropStart t) s = s := by
  induction ps with
  | nil => rfl
  | cons p ps ih =>
    have hnone : p.matchStart s = none :=
      matchAt_eq_none_of_contains (hps p List.mem_cons_self) hsingle
        (fun h => hs (mem_of_mem_folded (by decide) (h.subset (by simp)))) none
    rw [List.foldl_cons, dropStart_eq_self hnone]
    exact ih fun q hq => hps q (List.mem_cons_of_mem p hq)

/-- From a text without an apostrophe no possessive is taken off. -/
theorem dropPossessives_eq_self (hsingle : SingleSpaced s) (hs : '\'' ∉ s) :
    dropPossessives s = s :=
  foldl_dropStart_eq_self contains_of_mem_possessives hsingle hs

/-- The possessive of this model is taken off. -/
theorem dropPossessives_this (hsingle : SingleSpaced ("This model's".toList ++ ' ' :: s))
    (hhead : ∀ c ∈ s.head?, isBlank c = false) (hs : '\'' ∉ s) :
    dropPossessives ("This model's".toList ++ ' ' :: s) = s := by
  have hevery : ∀ p : Pattern, p.BeginsWith (folded "for every ".toList) →
      p.matchStart ("This model's".toList ++ ' ' :: s) = none := by
    intro p hp
    refine run_eq_none_of_beginsWith hp hsingle ?_ none [] _
    rw [folded_append]
    exact not_prefix_append rfl rfl _
  have hthis : (Pattern.text "this model's" ++ gap).matchStart ("This model's".toList ++ ' ' :: s)
      = some ⟨"This model's".toList ++ ' ' :: s, s, []⟩ := by
    rw [matchStart, matchAt, run_append]
    exact run_text (by decide) (run_gap hhead fun _ => rfl) none
  have hpiece : SingleSpaced s :=
    hsingle.piece (List.suffix_append_of_suffix (List.suffix_cons _ s)).isInfix
  rw [dropPossessives, possessives, List.foldl_cons, List.foldl_cons, dropStart_eq_self (hevery _ ?_),
    dropStart, hthis]
  · refine foldl_dropStart_eq_self (fun p hp => ?_) hpiece hs
    exact contains_of_mem_possessives p (List.mem_cons_of_mem _ (List.mem_cons_of_mem _ hp))
  · repeat first
      | exact (spells_text "for every ").beginsWith
      | refine BeginsWith.seq ?_ _

/-! ## Reading an item -/

/-- A name of one word. -/
def oneWord (w : String) (h : (!w.toList.isEmpty && w.toList.all Char.isAlpha) = true) :
    PlainName where
  words := [w.toList]
  words_ne_nil := List.cons_ne_nil _ _
  word_ne_nil := by simpa using (Bool.and_eq_true_iff.mp h).1
  letters := by
    have hall := List.all_eq_true.mp (Bool.and_eq_true_iff.mp h).2
    simpa using hall

/-- So many of what a name names. -/
def itemOf (n : PlainName) (count : Int) : Item := ⟨String.ofList n.text, count⟩

/-- A name that can be read among others: no word of it joins names, and it does not begin like a
    counted item. -/
structure IsItemName (n : PlainName) : Prop where
  no_and : ∀ w ∈ n.words, folded w ≠ "and".toList
  no_count : ∀ w ∈ n.words.head?, folded w ∉ countWords

/-- A count and a gap are read from the start of no such name. -/
theorem not_reads_count (hn : ∀ w ∈ n.words.head?, folded w ∉ countWords) {u r : List Char}
    (hsplit : n.text = u ++ r) : ¬ (countAs 1 ++ gap).Reads u := by
  rintro ⟨v, x, rfl, hcount, _, y, rfl, ⟨c, hc, rfl⟩, _⟩
  have hblank : c = ' ' := n.singleSpaced.spaces c (by simp [hsplit]) hc
  subst hblank
  rcases reads_countAs hcount with ⟨hne, hdigits⟩ | hword
  · obtain ⟨d, hd⟩ := List.exists_mem_of_ne_nil v hne
    have hdecimal := hdigits d hd
    rcases PlainName.mem_text (n := n) (c := d) (by simp [hsplit, hd]) with rfl | halpha
    · cases hdecimal
    · rw [isDecimal_of_isAlpha halpha] at hdecimal
      cases hdecimal
  · have hspace : ' ' ∉ v := fun hmem => by
      have hletter := (letters_of_mem_countWords hword).2.2 ' '
        (List.mem_map.mpr ⟨' ', hmem, rfl⟩)
      cases hletter
    have hbegins : v ++ ' ' :: (y ++ r) <+: spaced n.words ++ [] := by
      rw [List.append_nil]
      exact ⟨[], by simpa [PlainName.text] using hsplit.symm⟩
    obtain ⟨us, _, hwords, _⟩ := prefix_cut (fun w hw => (n.isWord hw).space_not_mem)
      List.not_mem_nil hspace hbegins
    exact hn v (by simp [hwords]) hword

/-- **A plain name is read as one such item.** -/
theorem readItem_text (hn : ∀ w ∈ n.words.head?, folded w ∉ countWords) :
    readItem n.text = .ok (some (itemOf n 1)) := by
  obtain ⟨c, t, hhead, _⟩ := n.exists_head
  have hne : n.text ≠ [] := by simp [hhead]
  have hmatch : perhapsCounted.matchStart n.text = some ⟨n.text, [], [(2, n.text, [])]⟩ := by
    rw [matchStart, matchAt, perhapsCounted, run_append, run_append]
    refine run_alt_right (run_eq_none (fun u r hsplit => not_reads_count hn hsplit) _) ?_
    exact run_longest_textEnd hne (fun _ => rfl) none
  have hname : (Match.mk n.text [] [(2, n.text, [])]).group 2 = n.text :=
    Match.group_eq (r := []) (by rw [List.append_nil]; rfl)
  have hclean : cleanName n.text = n.text := by
    have h := cleanName_text n fun c (hc : c ∈ []) => absurd hc List.not_mem_nil
    rwa [List.append_nil] at h
  rw [readItem, hmatch]
  dsimp only
  rw [hname, hclean, if_neg (by simp [hne])]
  rfl

/-! ## Several names -/

/-- The words of several names with "and" between them. -/
def enumerated (ns : List PlainName) : List (List Char) :=
  ["and".toList].intercalate (ns.map PlainName.words)

@[simp] theorem enumerated_singleton (n : PlainName) : enumerated [n] = n.words := by
  simp [enumerated]

theorem enumerated_cons {ns : List PlainName} (hns : ns ≠ []) (n : PlainName) :
    enumerated (n :: ns) = n.words ++ "and".toList :: enumerated ns := by
  rw [enumerated, List.map_cons, List.intercalate_cons_of_ne_nil (by simpa using hns)]
  simp [enumerated]

theorem enumerated_ne_nil {ns : List PlainName} (hns : ns ≠ []) : enumerated ns ≠ [] := by
  obtain ⟨n, ns, rfl⟩ := List.exists_cons_of_ne_nil hns
  by_cases hnil : ns = []
  · subst hnil
    rw [enumerated_singleton]
    exact n.words_ne_nil
  · rw [enumerated_cons hnil]
    exact List.append_ne_nil_of_left_ne_nil n.words_ne_nil _

theorem mem_enumerated {ns : List PlainName} {w : List Char} (h : w ∈ enumerated ns) :
    w = "and".toList ∨ ∃ n ∈ ns, w ∈ n.words := by
  induction ns with
  | nil => exact absurd h List.not_mem_nil
  | cons n ns ih =>
    by_cases hnil : ns = []
    · subst hnil
      rw [enumerated_singleton] at h
      exact Or.inr ⟨n, List.mem_cons_self, h⟩
    · rw [enumerated_cons hnil] at h
      rcases List.mem_append.mp h with h | h
      · exact Or.inr ⟨n, List.mem_cons_self, h⟩
      · rcases List.mem_cons.mp h with h | h
        · exact Or.inl h
        · rcases ih h with h | ⟨m, hm, h⟩
          · exact Or.inl h
          · exact Or.inr ⟨m, List.mem_cons_of_mem n hm, h⟩

/-- Joined names are joined words. -/
theorem intercalate_text (ns : List PlainName) :
    " and ".toList.intercalate (ns.map PlainName.text) = spaced (enumerated ns) := by
  induction ns with
  | nil => rfl
  | cons n ns ih =>
    by_cases hnil : ns = []
    · subst hnil
      simp [PlainName.text]
    · have hmap : ns.map PlainName.text ≠ [] := by simpa using hnil
      rw [List.map_cons, List.intercalate_cons_of_ne_nil hmap, ih, enumerated_cons hnil,
        spaced_append n.words_ne_nil (List.cons_ne_nil _ _), spaced_cons (enumerated_ne_nil hnil),
        List.append_assoc]
      rfl

theorem letters_of_mem_enumerated {ns : List PlainName} {w : List Char} (h : w ∈ enumerated ns) :
    ∀ c ∈ w, c.isAlpha = true := by
  have hand : "and".toList.all Char.isAlpha = true := by decide
  rcases mem_enumerated h with rfl | ⟨n, _, h⟩
  · exact List.all_eq_true.mp hand
  · exact n.letters w h

theorem isWord_of_mem_enumerated {ns : List PlainName} {w : List Char} (h : w ∈ enumerated ns) :
    IsWord w := by
  refine isWord_of_letters ?_ (letters_of_mem_enumerated h)
  rcases mem_enumerated h with rfl | ⟨n, _, h⟩
  · exact List.cons_ne_nil _ _
  · exact n.word_ne_nil w h

theorem apostrophe_not_mem_enumerated (ns : List PlainName) : '\'' ∉ spaced (enumerated ns) := by
  intro h
  rcases mem_spaced h with h | ⟨w, hw, h⟩
  · exact absurd h (by decide)
  · exact absurd (letters_of_mem_enumerated hw _ h) (by decide)

theorem singleSpaced_enumerated (ns : List PlainName) : SingleSpaced (spaced (enumerated ns)) := by
  have h := singleSpaced_spaced (fun w (hw : w ∈ enumerated ns) => isWord_of_mem_enumerated hw)
    fun c (hc : c ∈ []) =>
    absurd hc List.not_mem_nil
  rwa [List.append_nil] at h

theorem enumerated_head_not_blank {ns : List PlainName} (hns : ns ≠ []) :
    ∀ c ∈ (spaced (enumerated ns)).head?, isBlank c = false := by
  have h := spaced_head_not_blank (enumerated_ne_nil hns)
    (fun w (hw : w ∈ enumerated ns) => isWord_of_mem_enumerated hw) []
  rwa [List.append_nil] at h

/-- The word that joins, between two spaces, is what the separator reads. -/
theorem spells_conjunction : conjunction.Spells (' ' :: ("and".toList ++ [' '])) :=
  (spells_gap.append (spells_text "and")).append spells_gap

theorem run_conjunction {α : Type} {r : List Char} {gs : List (Nat × List Char × List Char)}
    {k : Place → Option α} {a : α} (hr : ∀ c ∈ r.head?, isBlank c = false)
    (hk : ∀ b, k ⟨b, r, gs⟩ = some a) (b : Option Char) :
    conjunction.run ⟨b, ' ' :: ("and".toList ++ ' ' :: r), gs⟩ k = some a := by
  rw [conjunction, run_append]
  exact run_gap_text (c := 'a') rfl rfl (run_gap hr hk) b

theorem matchAt_conjunction {r : List Char} (hr : ∀ c ∈ r.head?, isBlank c = false)
    (b : Option Char) : conjunction.matchAt b (" and ".toList ++ r)
      = some ⟨" and ".toList ++ r, r, []⟩ := run_conjunction hr (fun _ => rfl) b

/-- **A text of joined names is cut into the names.** -/
theorem splitFrom_conjunction : ∀ {ns : List PlainName}, ns ≠ [] →
    (∀ n ∈ ns, ∀ w ∈ n.words, folded w ≠ "and".toList) → ∀ b : Option Char,
      conjunction.splitFrom 0 [] b (spaced (enumerated ns)) = ns.map PlainName.text
  | [], hns, _, _ => absurd rfl hns
  | [n], _, hand, b => by
    -- within the last name the separator does not match
    have hnone : ∀ x y, n.text = x ++ y → y ≠ [] → ∀ b, conjunction.matchAt b (y ++ []) = none := by
      intro x y hxy hy b
      rw [List.append_nil]
      refine run_eq_none_of_not_mem (t := []) spells_conjunction.beginsWith (by decide)
        (fun w hw => (n.isWord hw).space_not_mem) (hand n List.mem_cons_self) hxy hy
        (List.prefix_append y _) (n.singleSpaced.piece ?_) b [] _
      exact hxy ▸ (List.suffix_append x y).isInfix
    obtain ⟨b', hsplit⟩ := splitFrom_append hnone [] b
    rw [List.append_nil, List.append_nil] at hsplit
    rw [enumerated_singleton]
    exact hsplit.trans (by rw [splitFrom, List.reverse_reverse]; rfl)
  | n :: m :: ns, _, hand, b => by
    have hns : m :: ns ≠ [] := List.cons_ne_nil m ns
    -- the separator matches behind the first name and not before
    have htext : spaced (enumerated (n :: m :: ns))
        = n.text ++ (" and ".toList ++ spaced (enumerated (m :: ns))) := by
      rw [← intercalate_text, ← intercalate_text, List.map_cons,
        List.intercalate_cons_of_ne_nil (by simp), List.append_assoc]
    have hnone : ∀ x y, n.text = x ++ y → y ≠ [] → ∀ b,
        conjunction.matchAt b (y ++ (" and ".toList ++ spaced (enumerated (m :: ns)))) = none := by
      intro x y hxy hy b
      refine run_eq_none_of_not_mem spells_conjunction.beginsWith (by decide)
        (fun w hw => (n.isWord hw).space_not_mem) (hand n List.mem_cons_self) hxy hy
        (List.prefix_refl _) ((singleSpaced_enumerated (n :: m :: ns)).piece ?_) b [] _
      rw [htext, hxy, List.append_assoc]
      exact (List.suffix_append x _).isInfix
    have hhead : ∀ c ∈ (spaced (enumerated (m :: ns))).head?, isBlank c = false :=
      enumerated_head_not_blank hns
    obtain ⟨b', hsplit⟩ := splitFrom_append hnone [] b
    have hsep : " and ".toList ≠ [] := by decide
    obtain ⟨b'', hmatch⟩ := splitFrom_match hsep (matchAt_conjunction hhead b') rfl
      rfl (n.text.reverse ++ [])
    rw [htext, hsplit, hmatch, splitFrom_conjunction hns
      (fun n' hn' => hand n' (List.mem_cons_of_mem n hn')) b'', List.append_nil,
      List.reverse_reverse, ← List.map_cons]

/-- The items that are read once the possessives are off. -/
theorem readItems_of_drop {ns : List PlainName} {s : List Char} (hns : ns ≠ [])
    (hitems : ∀ n ∈ ns, IsItemName n) (hs : dropPossessives (trim s) = spaced (enumerated ns)) :
    readItems s = .ok (ns.map (itemOf · 1)) := by
  have hparts : conjunction.split (spaced (enumerated ns)) = ns.map PlainName.text :=
    splitFrom_conjunction hns (fun n hn => (hitems n hn).no_and) none
  have hpart : ∀ n ∈ ns, readItem (dropPossessives (trim n.text)) = .ok (some (itemOf n 1)) := by
    intro n hn
    have htrim : trim n.text = n.text := trim_spaced fun w hw => n.isWord hw
    have hdrop : dropPossessives n.text = n.text :=
      dropPossessives_eq_self n.singleSpaced (PlainName.not_mem_text (by decide) (by decide))
    rw [htrim, hdrop]
    exact readItem_text (hitems n hn).no_count
  have hfound : (ns.map PlainName.text).mapM (fun part => readItem (dropPossessives (trim part)))
      = .ok (ns.map fun n => some (itemOf n 1)) := by
    rw [mapM_eq_ok, List.forall₂_map_left_iff, List.forall₂_map_right_iff, List.forall₂_same]
    exact hpart
  rw [readItems, hs, hparts, hfound]
  show Except.ok ((ns.map fun n => some (itemOf n 1)).filterMap id) = _
  rw [List.filterMap_map]
  exact congrArg Except.ok (congrFun List.filterMap_eq_map ns)

/-- **Joined names are read as those items, one of each, in order.** -/
theorem readItems_enumerated {ns : List PlainName} (hns : ns ≠ []) (hitems : ∀ n ∈ ns, IsItemName n) :
    readItems (spaced (enumerated ns)) = .ok (ns.map (itemOf · 1)) := by
  refine readItems_of_drop hns hitems ?_
  rw [trim_spaced fun w hw => isWord_of_mem_enumerated hw]
  exact dropPossessives_eq_self (singleSpaced_enumerated ns) (apostrophe_not_mem_enumerated ns)

/-- The words of several names of items that this model has. -/
def possessed (ns : List PlainName) : List (List Char) :=
  "This".toList :: "model's".toList :: enumerated ns

theorem spaced_possessed {ns : List PlainName} (hns : ns ≠ []) :
    spaced (possessed ns) = "This model's".toList ++ ' ' :: spaced (enumerated ns) := by
  have hwords : enumerated ns ≠ [] := enumerated_ne_nil hns
  unfold possessed
  rewrite [spaced_cons (List.cons_ne_nil _ _), spaced_cons hwords]
  simp

theorem isWord_of_mem_possessed {ns : List PlainName} : ∀ w ∈ possessed ns, IsWord w := by
  simp only [possessed, List.forall_mem_cons]
  exact ⟨by decide, by decide, fun w hw => isWord_of_mem_enumerated hw⟩

/-- The possessive of this model before joined names is no part of the first. -/
theorem readItems_possessed {ns : List PlainName} (hns : ns ≠ []) (hitems : ∀ n ∈ ns, IsItemName n) :
    readItems (spaced (possessed ns)) = .ok (ns.map (itemOf · 1)) := by
  have hsingle : SingleSpaced (spaced (possessed ns)) := by
    have h := singleSpaced_spaced
      (fun w (hw : w ∈ possessed ns) => isWord_of_mem_possessed w hw) fun c (hc : c ∈ []) =>
      absurd hc List.not_mem_nil
    rwa [List.append_nil] at h
  refine readItems_of_drop hns hitems ?_
  rewrite [spaced_possessed hns] at hsingle
  rewrite [trim_spaced isWord_of_mem_possessed, spaced_possessed hns]
  exact dropPossessives_this hsingle (enumerated_head_not_blank hns)
    (apostrophe_not_mem_enumerated ns)

end Muster.Wargear
