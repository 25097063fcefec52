/-
  The three classes of option lines, and which lines a generation reports.

  1. **Program.**  `parse` marks a line as read if both of its axes are known, or if its sentence
     says "None" or is a footnote; a generation reports the numbers of the lines that are not.

  2. **Specification.**  `IsSilent text`: without the blanks around it, the text as it stands is
     "none" in any case, perhaps with a full stop, or begins with an asterisk.

  3. **The classes** (`class_of_parse`).  A line that is parsed can change a loadout, or is silent,
     or is neither; never two of these, since a silent sentence has no targeting, whatever follows
     its asterisk.  The report of a generation is the third class in line order.

  4. **The exception** (`lines_classified`).  A line has no class, and its unit no generation, only
     if it has more digits in a row than are read.
-/
import Mathlib
import Muster.Proofs.Wargear.Footnote
import Muster.Proofs.Wargear.LineOrder
import Muster.Proofs.Wargear.LongNumeral
import Muster.Wargear.Generation

namespace Muster.Wargear

open Text Pattern

/-! ## Silent texts -/

/-- A text is "none" in any case, perhaps with a full stop, or it begins with an asterisk. -/
def IsSilent (text : String) : Prop :=
  lower (trim text.toList) = "none".toList ∨ lower (trim text.toList) = "none.".toList ∨
    ['*'] <+: trim text.toList

section Quotes

variable {s : List Char} {c : Char}

/-- A quote is put for a quote, and for nothing else. -/
theorem plainQuote_cases (c : Char) : plainQuote c = c ∨
    (plainQuote c = '\'' ∨ plainQuote c = '"') ∧ 0x2018 ≤ c.toNat ∧ c.toNat ≤ 0x201D := by
  rw [plainQuote]
  split_ifs with hsingle hdouble
  · rw [Bool.or_eq_true, beq_iff_eq, beq_iff_eq] at hsingle
    exact Or.inr ⟨Or.inl rfl, by omega, by omega⟩
  · rw [Bool.or_eq_true, beq_iff_eq, beq_iff_eq] at hdouble
    exact Or.inr ⟨Or.inr rfl, by omega, by omega⟩
  · exact Or.inl rfl

theorem isBlank_plainQuote (c : Char) : isBlank (plainQuote c) = isBlank c := by
  rcases plainQuote_cases c with h | ⟨h, hlow, hhigh⟩
  · rw [h]
  · have hblank : isBlank c = false := by
      rw [isBlank, if_neg (by omega), inIntervals]
      simp only [blankIntervals, List.any_cons, List.any_nil, Bool.or_false, Bool.or_eq_false_iff,
        Bool.and_eq_false_iff, decide_eq_false_iff_not]
      omega
    rcases h with h | h <;> rw [h, hblank] <;> rfl

/-- It is all the same whether blanks or typographic quotes go first. -/
theorem trim_plainQuotes (s : List Char) : trim (plainQuotes s) = plainQuotes (trim s) := by
  have hstart : ∀ t : List Char, trimStart (t.map plainQuote) = (trimStart t).map plainQuote :=
    fun t => by
      rw [trimStart, List.dropWhile_map, trimStart]
      exact congrArg (fun p => (t.dropWhile p).map plainQuote) (funext isBlank_plainQuote)
  have hend (t : List Char) : trimEnd (t.map plainQuote) = (trimEnd t).map plainQuote := calc
    trimEnd (t.map plainQuote) = (trimStart (t.map plainQuote).reverse).reverse := rfl
    _ = ((trimStart t.reverse).map plainQuote).reverse := by rw [← List.map_reverse, hstart]
    _ = (trimStart t.reverse).reverse.map plainQuote := List.map_reverse.symm
  rw [trim, plainQuotes, hstart, hend]
  rfl

/-- A text that has no quotes in the end had none. -/
theorem plainQuotes_eq_self (h : ∀ c ∈ plainQuotes s, c ≠ '\'' ∧ c ≠ '"') : plainQuotes s = s := by
  refine (List.map_congr_left fun c hc => ?_).trans (List.map_id s)
  obtain ⟨hsingle, hdouble⟩ := h _ (List.mem_map_of_mem hc)
  rcases plainQuote_cases c with h | ⟨h | h, -⟩
  · exact h
  · exact absurd h hsingle
  · exact absurd h hdouble

/-- Words without `i` and `k` are told through case and quotes. -/
theorem lower_plainQuotes_eq_iff {w : List Char}
    (hw : (w.all fun d => d.toNat < 0x80 && d != 'i' && d != 'k') = true)
    (hsingle : '\'' ∉ w) (hdouble : '"' ∉ w) : lower (plainQuotes s) = w ↔ lower s = w := by
  constructor
  · intro h
    have hfolded := folded_of_lower_eq h hw
    have hquotes : plainQuotes s = s := plainQuotes_eq_self fun c hc => by
      have hmem : foldChar c ∈ w := hfolded ▸ List.mem_map_of_mem hc
      exact ⟨fun h => hsingle (by rwa [h] at hmem), fun h => hdouble (by rwa [h] at hmem)⟩
    rwa [hquotes] at h
  · intro h
    rwa [plainQuotes_of_ascii (ascii_of_lower_eq h hw)]

theorem asterisk_prefix_plainQuotes : ['*'] <+: plainQuotes s ↔ ['*'] <+: s := by
  cases s with
  | nil => rfl
  | cons c s =>
    have hfirst : plainQuote c = '*' ↔ c = '*' := by
      constructor
      · intro h
        rcases plainQuote_cases c with hsame | ⟨hquote | hquote, -⟩
        · rwa [hsame] at h
        · rw [hquote] at h; cases h
        · rw [hquote] at h; cases h
      · rintro rfl
        rfl
    rw [plainQuotes, List.map_cons, List.cons_prefix_cons, List.cons_prefix_cons, eq_comm, hfirst,
      eq_comm]
    exact and_congr_right fun _ => iff_of_true List.nil_prefix List.nil_prefix

end Quotes

/-- **A sentence is silent exactly if its text is.** -/
theorem silent_sentence_iff (text : String) :
    (saysNone (sentence text.toList) = true ∨ isFootnote (sentence text.toList) = true)
      ↔ IsSilent text := by
  rw [saysNone, isFootnote, trim_sentence, sentence, trim_plainQuotes, Bool.or_eq_true, beq_iff_eq,
    beq_iff_eq, begins_eq_true_iff, asterisk_prefix_plainQuotes,
    lower_plainQuotes_eq_iff (by decide) (by decide) (by decide),
    lower_plainQuotes_eq_iff (by decide) (by decide) (by decide), or_assoc, IsSilent]

/-! ## Lines -/

/-- What a line that is parsed says of itself. -/
theorem parse_eq_ok {text : String} {line : Int} {o : ParsedOption}
    (h : parse text line = .ok o) : o.line = line ∧
      (o.wargearParsed = true ↔ o.isActionable = true ∨ IsSilent text) ∧
      (IsSilent text → o.isActionable = false) := by
  rw [parse] at h
  obtain ⟨t, ht, h⟩ := bind_eq_ok.mp h
  obtain ⟨a, -, h⟩ := bind_eq_ok.mp h
  obtain ⟨c, -, h⟩ := bind_eq_ok.mp h
  obtain rfl := Except.ok.inj h
  refine ⟨rfl, ?_, fun hsilent => ?_⟩
  · rw [← silent_sentence_iff, ParsedOption.isActionable]
    dsimp only
    rw [Bool.or_eq_true, Bool.or_eq_true, or_assoc]
  · have hunknown := classify_targeting_of_silent (trim_sentence text.toList)
      ((silent_sentence_iff text).mpr hsilent)
    obtain rfl : t = .unknown := Except.ok.inj (ht.symm.trans hunknown)
    rfl

/-- **A line that is parsed has one class**: it can change a loadout, or is silent, or is neither
    and does not count as read. -/
theorem class_of_parse {text : String} {line : Int} {o : ParsedOption}
    (h : parse text line = .ok o) :
    (o.isActionable = true ∧ ¬ IsSilent text ∧ o.wargearParsed = true) ∨
    (o.isActionable = false ∧ IsSilent text ∧ o.wargearParsed = true) ∨
    (o.isActionable = false ∧ ¬ IsSilent text ∧ o.wargearParsed = false) := by
  obtain ⟨-, hread, hidle⟩ := parse_eq_ok h
  by_cases hsilent : IsSilent text
  · exact Or.inr (Or.inl ⟨hidle hsilent, hsilent, hread.mpr (Or.inr hsilent)⟩)
  · cases hactionable : o.isActionable with
    | true => exact Or.inl ⟨rfl, hsilent, hread.mpr (Or.inl hactionable)⟩
    | false =>
      refine Or.inr (Or.inr ⟨rfl, hsilent, ?_⟩)
      rw [← Bool.not_eq_true, hread, hactionable]
      simpa using hsilent

/-- An option line of the third class. -/
def OptionLine.IsUnread (l : OptionLine) : Prop :=
  ∃ o, parse l.description l.line = .ok o ∧ o.isActionable = false ∧ ¬ IsSilent l.description

/-- What is not marked as read is of the third class. -/
theorem wargearParsed_eq_false_iff {l : OptionLine} {o : ParsedOption}
    (h : parse l.description l.line = .ok o) : o.wargearParsed = false ↔ l.IsUnread := by
  constructor
  · intro hunread
    rcases class_of_parse h with ⟨-, -, hread⟩ | ⟨-, -, hread⟩ | ⟨hidle, hsilent, -⟩
    · rw [hunread] at hread; cases hread
    · rw [hunread] at hread; cases hread
    · exact ⟨o, h, hidle, hsilent⟩
  · rintro ⟨o', ho', hidle, hsilent⟩
    obtain rfl : o = o' := Except.ok.inj (h.symm.trans ho')
    rw [← Bool.not_eq_true, (parse_eq_ok h).2.1, hidle]
    simpa using hsilent

/-! ## Reports -/

open Classical in
/-- What is not marked as read, in the order of the lines, are the lines of the third class. -/
theorem unread_lines : ∀ {ls : List OptionLine} {os : List ParsedOption},
    List.Forall₂ (fun l o => parse l.description l.line = .ok o) ls os →
      (os.filter (!·.wargearParsed)).map ParsedOption.line
        = (ls.filter (·.IsUnread)).map OptionLine.line
  | _, _, .nil => rfl
  | l :: ls, o :: os, .cons h hrest => by
    have ih := unread_lines hrest
    have hline := (parse_eq_ok h).1
    have hclass := wargearParsed_eq_false_iff h
    cases hread : o.wargearParsed with
    | true =>
      have hnot : ¬ l.IsUnread := fun hunread => by
        rw [← hclass, hread] at hunread
        cases hunread
      rw [List.filter_cons_of_neg (by simp [hread]), List.filter_cons_of_neg (by simpa using hnot),
        ih]
    | false =>
      rw [List.filter_cons_of_pos (by simp [hread]),
        List.filter_cons_of_pos (by simpa using hclass.mp hread), List.map_cons, List.map_cons,
        hline, ih]

theorem unparsedLines_generateFrom (d : Datasheet) (os : List ParsedOption) (s : Settings) :
    (generateFrom d os s).report.unparsedLines
      = (os.filter (!·.wargearParsed)).map ParsedOption.line := by
  rw [generateFrom]
  dsimp only
  split_ifs <;> rfl

open Classical in
/-- **A generation reports the lines of the third class, in line order.** -/
theorem unparsedLines_of_generate {d : Datasheet} {s : Settings} {g : Generation}
    (h : generate d s = .ok g) : g.report.unparsedLines.Pairwise (· ≤ ·) ∧
      g.report.unparsedLines.Perm ((d.options.filter (·.IsUnread)).map OptionLine.line) := by
  obtain ⟨os, hos, h⟩ := bind_eq_ok.mp h
  obtain rfl := Except.ok.inj h
  rw [unparsedLines_generateFrom, unread_lines (mapM_eq_ok.mp hos)]
  constructor
  · exact List.pairwise_map.mpr ((pairwise_inLineOrder d.options).filter _)
  · exact ((inLineOrder_perm d.options).filter _).map _

/-- A generation fails with the error of one of its lines. -/
theorem exists_holdsLong_of_generate {d : Datasheet} {s : Settings} {e : LongNumeral}
    (h : generate d s = .error e) : ∃ l ∈ d.options, HoldsLong l.description.toList e := by
  rcases bind_eq_error.mp h with h | ⟨os, -, h⟩
  · obtain ⟨l, hl, hfail⟩ := mapM_eq_error h
    exact ⟨l, mem_inLineOrder.mp hl, failsOnly_parse _ _ e hfail⟩
  · cases h

open Classical in
/-- **Which lines generate nothing.**  A text is parsed, unless it has more digits in a row than
    are read.  What is parsed can change a loadout, or is silent, or is neither, and counts as read
    in the first two cases only.  So the report of a unit lists the lines of the third class in line
    order, or one of its lines has too many digits. -/
theorem lines_classified (text : String) (line : Int) (d : Datasheet) (s : Settings) :
    ((∃ o, parse text line = .ok o ∧
        ((o.isActionable = true ∧ ¬ IsSilent text ∧ o.wargearParsed = true) ∨
        (o.isActionable = false ∧ IsSilent text ∧ o.wargearParsed = true) ∨
        (o.isActionable = false ∧ ¬ IsSilent text ∧ o.wargearParsed = false))) ∨
      ∃ e, parse text line = .error e ∧ HoldsLong text.toList e) ∧
    ((∃ g, generate d s = .ok g ∧ g.report.unparsedLines.Pairwise (· ≤ ·) ∧
        g.report.unparsedLines.Perm ((d.options.filter (·.IsUnread)).map OptionLine.line)) ∨
      ∃ e, generate d s = .error e ∧ ∃ l ∈ d.options, HoldsLong l.description.toList e) := by
  constructor
  · cases h : parse text line with
    | ok o => exact Or.inl ⟨o, rfl, class_of_parse h⟩
    | error e => exact Or.inr ⟨e, rfl, failsOnly_parse text line e h⟩
  · cases h : generate d s with
    | ok g => exact Or.inl ⟨g, rfl, unparsedLines_of_generate h⟩
    | error e => exact Or.inr ⟨e, rfl, exists_holdsLong_of_generate h⟩

/-- A text that limits how many models an option is for. -/
def limitText (k : Numeral) : List Char := "Up to ".toList ++ (k.digits ++ " weapons".toList)

/-- A limit of more digits than are read has no targeting. -/
theorem classify_limitText (k : Numeral) (hlong : mostDigits < k.digits.length) :
    classify .unknown (limitText k) targetingRules = .error ⟨k.digits.length⟩ := by
  have hfolded : folded (limitText k) = "up to ".toList ++ folded (k.digits ++ " weapons".toList) :=
    folded_append _ _
  have hcount : readCount k.digits = .error (.longNumeral ⟨k.digits.length⟩) := by
    rw [readCount_digits, if_neg (Nat.not_le.mpr hlong)]
  obtain ⟨m, hfind, hm⟩ : ∃ m,
      (textStart ++ Pattern.text "up to " ++ countAs 1).find (limitText k) = some m
        ∧ m.group 1 = k.digits := by
    refine ⟨⟨limitText k, " weapons".toList,
      [(1, k.digits ++ " weapons".toList, " weapons".toList)]⟩, find_of_matchStart ?_,
      Match.group_eq rfl⟩
    rw [matchStart, matchAt, run_append, run_append, run_textStart, limitText]
    refine run_text (u := "Up to ".toList) rfl (fun b => ?_) none
    exact run_countAs k (Text.of_mem_head (by decide) _) (fun _ => rfl) b
  have hgroup : groupCount m 1 = .error (.longNumeral ⟨k.digits.length⟩) := by
    rw [groupCount, hm, hcount]
    rfl
  rw [classify_targetingRules_drop (n := 12) (by decide) hfolded (by decide)]
  refine classify_of_long rfl hfind ?_
  simp only [targeting, hgroup]
  rfl

theorem sentence_limitText (k : Numeral) :
    sentence (String.ofList (limitText k)).toList = limitText k := by
  have hascii : ∀ c ∈ limitText k, c.toNat < 0x80 := by
    rw [limitText, List.forall_mem_append, List.forall_mem_append]
    exact ⟨by simp, fun c hc => toNat_lt_of_isAsciiDigit (k.ascii c hc), by simp⟩
  rw [sentence, String.toList_ofList, plainQuotes_of_ascii hascii]
  exact trim_eq_self (c := 'U') (d := 's') rfl rfl rfl
    (u := "Up to ".toList ++ (k.digits ++ " weapon".toList)) (by simp [limitText])

/-- A limit of one with too many zeros before it has no class. -/
theorem not_parse_padded_limit :
    parse (String.ofList (limitText paddedOne)) 0 = .error ⟨4301⟩ := by
  have hlong : mostDigits < paddedOne.digits.length := by
    rw [length_paddedOne]
    decide
  rw [parse, sentence_limitText, classify_limitText paddedOne hlong, length_paddedOne]
  rfl

end Muster.Wargear
