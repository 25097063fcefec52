/-
  Texts made of words with one space between them.

  1. **Program.**  Rule text is cut at blanks, trimmed, lowered and searched, character by character.

  2. **Specification.**  Names are words: `spaced` joins them, and a `PlainName` holds at least one
     word, each made of ASCII letters.

  3. **The crux (`spaced_eq_cut`)**: since words hold no space, each space of a joined text stands
     between two of its words.  So what occurs in the text with a space in it spells words: the part
     before the space ends a word, and the part after it begins the words that follow.
-/
import Mathlib
import Muster.Text.Cut
import Muster.Text.LetterCase
import Muster.Text.Pattern

namespace Muster.Text

/-! ## ASCII -/

theorem isAlpha_iff (c : Char) :
    c.isAlpha = true ↔ (65 ≤ c.toNat ∧ c.toNat ≤ 90) ∨ (97 ≤ c.toNat ∧ c.toNat ≤ 122) := by
  simp only [Char.isAlpha, Char.isUpper, Char.isLower, Bool.or_eq_true, Bool.and_eq_true,
    decide_eq_true_eq]
  exact Iff.rfl

theorem isAsciiDigit_iff (c : Char) :
    isAsciiDigit c = true ↔ 48 ≤ c.toNat ∧ c.toNat ≤ 57 := by
  simp only [isAsciiDigit, Bool.and_eq_true, decide_eq_true_eq]
  exact Iff.rfl

theorem foldChar_of_ascii {c : Char} (h : c.toNat < 0x80) : foldChar c = c.toLower := by
  rw [foldChar, Char.toLower]
  by_cases hc : 'A' ≤ c ∧ c ≤ 'Z'
  · have hupper : c.val ≥ 'A'.val ∧ c.val ≤ 'Z'.val := hc
    have hle : c.toNat ≤ 90 := hc.2
    rw [dif_pos hupper, if_pos (by simpa using hc)]
    apply Char.toNat_inj.mp
    rw [Char.toNat_ofNat, if_pos (Or.inl (by omega))]
    have h32 : ('a'.val - 'A'.val).toNat = 32 := rfl
    show _ = (c.val + _).toNat
    rw [UInt32.toNat_add, h32]
    have hval : c.toNat = c.val.toNat := rfl
    omega
  · have hupper : ¬ (c.val ≥ 'A'.val ∧ c.val ≤ 'Z'.val) := hc
    rw [dif_neg hupper, if_neg (by simpa using hc), if_pos h]

theorem lowerChar_of_ascii {c : Char} (h : c.toNat < 0x80) : lowerChar c = [foldChar c] := by
  rw [lowerChar, foldChar, if_pos h]
  split <;> rfl

/-- In ASCII, lowering a text is ignoring its case. -/
theorem lower_of_ascii {s : List Char} (h : ∀ c ∈ s, c.toNat < 0x80) : lower s = s.map foldChar := by
  have hafter : ∀ (t before : List Char), (∀ c ∈ t, c.toNat < 0x80) →
      lowerAfter before t = t.map foldChar := by
    intro t
    induction t with
    | nil => exact fun _ _ => rfl
    | cons c t ih =>
      intro before ht
      have hc : c.toNat < 0x80 := ht c List.mem_cons_self
      have hsigma : (c.toNat == 0x3A3) = false := beq_eq_false_iff_ne.mpr (by omega)
      rw [lowerAfter, hsigma, if_neg Bool.false_ne_true, lowerChar_of_ascii hc,
        ih (c :: before) fun d hd => ht d (List.mem_cons_of_mem c hd)]
      rfl
  exact hafter s [] h

theorem isBlank_iff_of_ascii {c : Char} (h : c.toNat < 0x80) : isBlank c = true ↔
    c.toNat = 32 ∨ (9 ≤ c.toNat ∧ c.toNat ≤ 13) ∨ (28 ≤ c.toNat ∧ c.toNat ≤ 31) := by
  rw [isBlank, if_pos h]
  simp only [Bool.or_eq_true, Bool.and_eq_true, beq_iff_eq, decide_eq_true_eq]
  omega

theorem isDecimal_iff_of_ascii {c : Char} (h : c.toNat < 0x80) :
    isDecimal c = true ↔ isAsciiDigit c = true := by
  rw [isDecimal, digitValue?, if_pos h, isAsciiDigit]
  by_cases hdigit : ('0' ≤ c && c ≤ '9') = true
  · rw [if_pos hdigit]
    exact ⟨fun _ => hdigit, fun _ => rfl⟩
  · rw [if_neg hdigit]
    exact ⟨nofun, fun h => absurd h hdigit⟩

theorem toNat_lt_of_isAlpha {c : Char} (h : c.isAlpha = true) : c.toNat < 0x80 := by
  rw [isAlpha_iff] at h
  omega

theorem isAlpha_of_toLower {c : Char} (h : c.toLower.isAlpha = true) : c.isAlpha = true := by
  rw [Char.toLower] at h
  split at h
  · rename_i hupper
    have hrange : 65 ≤ c.toNat ∧ c.toNat ≤ 90 := hupper
    exact (isAlpha_iff c).mpr (Or.inl hrange)
  · exact h

theorem isBlank_of_isAlpha {c : Char} (h : c.isAlpha = true) : isBlank c = false := by
  rw [← Bool.not_eq_true, isBlank_iff_of_ascii (toNat_lt_of_isAlpha h)]
  rw [isAlpha_iff] at h
  omega

theorem isAsciiDigit_of_isAlpha {c : Char} (h : c.isAlpha = true) : isAsciiDigit c = false := by
  rw [← Bool.not_eq_true, isAsciiDigit_iff]
  rw [isAlpha_iff] at h
  omega

theorem isDecimal_of_isAlpha {c : Char} (h : c.isAlpha = true) : isDecimal c = false := by
  rw [← Bool.not_eq_true, isDecimal_iff_of_ascii (toNat_lt_of_isAlpha h), Bool.not_eq_true]
  exact isAsciiDigit_of_isAlpha h

theorem isWordChar_of_isAlpha {c : Char} (h : c.isAlpha = true) : isWordChar c = true := by
  have hrange := (isAlpha_iff c).mp h
  have hletter : ('a' ≤ c ∧ c ≤ 'z') ∨ ('A' ≤ c ∧ c ≤ 'Z') := hrange.symm
  rw [isWordChar, isAlphanumeric, if_pos (toNat_lt_of_isAlpha h)]
  simp [hletter]

theorem ne_of_isAlpha {c d : Char} (hc : c.isAlpha = true) (hd : d.isAlpha = false) : c ≠ d := by
  rintro rfl
  rw [hc] at hd
  cases hd

/-! ## Joining words -/

/-- Words with one space between them. -/
def spaced (ws : List (List Char)) : List Char := [' '].intercalate ws

@[simp] theorem spaced_nil : spaced [] = [] := rfl

@[simp] theorem spaced_singleton (w : List Char) : spaced [w] = w := by simp [spaced]

theorem spaced_cons {ws : List (List Char)} (hws : ws ≠ []) (w : List Char) :
    spaced (w :: ws) = w ++ ' ' :: spaced ws := by
  rw [spaced, List.intercalate_cons_of_ne_nil hws, List.append_assoc]
  rfl

/-- A joined text begins with its first word. -/
theorem prefix_spaced_cons (w : List Char) (ws : List (List Char)) : w <+: spaced (w :: ws) := by
  by_cases hnil : ws = []
  · subst hnil
    rw [spaced_singleton]
  · rw [spaced_cons hnil]
    exact List.prefix_append w _

theorem spaced_append {vs ws : List (List Char)} (hvs : vs ≠ []) (hws : ws ≠ []) :
    spaced (vs ++ ws) = spaced vs ++ ' ' :: spaced ws := by
  induction vs with
  | nil => exact absurd rfl hvs
  | cons v vs ih =>
    by_cases hnil : vs = []
    · subst hnil
      rw [List.cons_append, List.nil_append, spaced_cons hws, spaced_singleton]
    · rw [List.cons_append, spaced_cons (List.append_ne_nil_of_left_ne_nil hnil ws), ih hnil,
        spaced_cons hnil, List.append_assoc, List.cons_append]

theorem map_spaced {f : Char → Char} (hf : f ' ' = ' ') (ws : List (List Char)) :
    (spaced ws).map f = spaced (ws.map (List.map f)) := by
  induction ws with
  | nil => rfl
  | cons w ws ih =>
    by_cases hnil : ws = []
    · subst hnil
      rw [List.map_cons, List.map_nil, spaced_singleton, spaced_singleton]
    · rw [List.map_cons, spaced_cons hnil, spaced_cons (by simpa using hnil), List.map_append,
        List.map_cons, hf, ih]

theorem mem_spaced {ws : List (List Char)} {c : Char} (h : c ∈ spaced ws) :
    c = ' ' ∨ ∃ w ∈ ws, c ∈ w := by
  induction ws with
  | nil => exact absurd h List.not_mem_nil
  | cons w ws ih =>
    by_cases hnil : ws = []
    · subst hnil
      rw [spaced_singleton] at h
      exact Or.inr ⟨w, List.mem_cons_self, h⟩
    · rw [spaced_cons hnil] at h
      rcases List.mem_append.mp h with h | h
      · exact Or.inr ⟨w, List.mem_cons_self, h⟩
      · rcases List.mem_cons.mp h with h | h
        · exact Or.inl h
        · rcases ih h with h | ⟨v, hv, h⟩
          · exact Or.inl h
          · exact Or.inr ⟨v, List.mem_cons_of_mem w hv, h⟩

/-- A word: some characters, none of them blank. -/
def IsWord (w : List Char) : Prop := w ≠ [] ∧ ∀ c ∈ w, isBlank c = false

instance (w : List Char) : Decidable (IsWord w) :=
  decidable_of_iff ((!w.isEmpty && w.all fun c => !isBlank c) = true) (by simp [IsWord])

theorem IsWord.space_not_mem {w : List Char} (h : IsWord w) : ' ' ∉ w := by
  intro hmem
  have hblank : isBlank ' ' = true := by decide
  rw [h.2 ' ' hmem] at hblank
  exact Bool.false_ne_true hblank

theorem isWord_of_letters {w : List Char} (hne : w ≠ []) (h : ∀ c ∈ w, c.isAlpha = true) :
    IsWord w :=
  ⟨hne, fun c hc => isBlank_of_isAlpha (h c hc)⟩

theorem exists_head_spaced {ws : List (List Char)} (hne : ws ≠ []) (hws : ∀ w ∈ ws, w ≠ []) :
    ∃ w ∈ ws, ∃ c r, w = c :: r ∧ ∃ t, spaced ws = c :: t := by
  obtain ⟨w, ws, rfl⟩ := List.exists_cons_of_ne_nil hne
  obtain ⟨c, r, rfl⟩ := List.exists_cons_of_ne_nil (hws w List.mem_cons_self)
  refine ⟨c :: r, List.mem_cons_self, c, r, rfl, ?_⟩
  by_cases hnil : ws = []
  · subst hnil
    exact ⟨r, spaced_singleton _⟩
  · exact ⟨_, spaced_cons hnil _⟩

theorem exists_last_spaced {ws : List (List Char)} (hne : ws ≠ []) (hws : ∀ w ∈ ws, w ≠ []) :
    ∃ w ∈ ws, ∃ r c, w = r ++ [c] ∧ ∃ t, spaced ws = t ++ [c] := by
  obtain ⟨vs, w, rfl⟩ := (List.eq_nil_or_concat' ws).resolve_left hne
  obtain ⟨r, c, rfl⟩ := (List.eq_nil_or_concat' w).resolve_left (hws w (by simp))
  refine ⟨r ++ [c], by simp, r, c, rfl, ?_⟩
  by_cases hnil : vs = []
  · subst hnil
    exact ⟨r, by rw [List.nil_append, spaced_singleton]⟩
  · refine ⟨spaced vs ++ ' ' :: r, ?_⟩
    rw [spaced_append hnil (List.cons_ne_nil _ _), spaced_singleton, List.append_assoc,
      List.cons_append]

/-- The head of a text is in the class of the character that the text begins with. -/
theorem of_mem_head {p : Char → Bool} {d : Char} {b : Bool} (h : p d = b) (t : List Char) :
    ∀ c ∈ (d :: t).head?, p c = b := by
  intro c hc
  rwa [← Option.mem_some.mp hc]

/-- What comes before the first character outside a class. -/
theorem takeWhile_of_head {p : Char → Bool} {u v : List Char} (hu : ∀ c ∈ u, p c = true)
    (hv : ∀ c ∈ v.head?, p c = false) : (u ++ v).takeWhile p = u := by
  rw [List.takeWhile_append_of_pos hu]
  cases v with
  | nil => rw [List.takeWhile_nil, List.append_nil]
  | cons c v => rw [List.takeWhile_cons, hv c rfl, if_neg Bool.false_ne_true, List.append_nil]

theorem spaced_head_not_blank {ws : List (List Char)} (hne : ws ≠ []) (hws : ∀ w ∈ ws, IsWord w)
    (t : List Char) : ∀ c ∈ (spaced ws ++ t).head?, isBlank c = false := by
  obtain ⟨w, hw, c, r, rfl, u, hu⟩ := exists_head_spaced hne fun w hw => (hws w hw).1
  rw [hu]
  exact of_mem_head ((hws _ hw).2 c List.mem_cons_self) _

/-! ## Trimming and squeezing -/

theorem isBlank_of_mem_space : ∀ c ∈ [' '], isBlank c = true := by
  intro c hc
  rw [List.mem_singleton.mp hc]
  rfl

theorem trimStart_cons {c : Char} (h : isBlank c = false) (s : List Char) :
    trimStart (c :: s) = c :: s := by
  rw [trimStart, List.dropWhile_cons, h, if_neg Bool.false_ne_true]

/-- Nothing is trimmed at the end before the last character that is not blank. -/
theorem trimEnd_append_cons {c : Char} (h : isBlank c = false) (s t : List Char) :
    trimEnd (s ++ c :: t) = s ++ c :: trimEnd t := by
  rw [trimEnd, trimEnd, List.reverse_append, List.reverse_cons, List.append_assoc,
    List.dropWhile_append]
  cases hdrop : t.reverse.dropWhile isBlank with
  | nil =>
    rw [List.isEmpty_nil, if_pos rfl, List.singleton_append, List.dropWhile_cons, h,
      if_neg Bool.false_ne_true, List.reverse_cons, List.reverse_reverse]
    rfl
  | cons d r =>
    rw [List.isEmpty_cons, if_neg Bool.false_ne_true]
    simp

theorem trimEnd_append {c : Char} (h : isBlank c = false) (s : List Char) :
    trimEnd (s ++ [c]) = s ++ [c] := trimEnd_append_cons h s []

/-- A text that neither begins nor ends with a blank is its own trimmed form. -/
theorem trim_eq_self {s t u : List Char} {c d : Char} (hc : isBlank c = false)
    (hd : isBlank d = false) (hstart : s = c :: t) (hend : s = u ++ [d]) : trim s = s := by
  have hs : trimStart s = s := by
    rw [hstart]
    exact trimStart_cons hc t
  rw [trim, hs, hend]
  exact trimEnd_append hd u

theorem trimEnd_isPrefix (s : List Char) : trimEnd s <+: s := by
  rw [trimEnd, ← List.reverse_suffix, List.reverse_reverse]
  exact List.dropWhile_suffix _

theorem trim_isInfix (s : List Char) : trim s <:+: s :=
  (trimEnd_isPrefix (trimStart s)).isInfix.trans (List.dropWhile_suffix _).isInfix

/-- What is trimmed at its end begins as it did. -/
theorem trimStart_trimEnd {s : List Char} (hs : trimStart s = s) :
    trimStart (trimEnd s) = trimEnd s := by
  have hprefix := trimEnd_isPrefix s
  cases hend : trimEnd s with
  | nil => rfl
  | cons c r =>
    rw [hend] at hprefix
    obtain ⟨t, rfl⟩ := hprefix
    cases hc : isBlank c with
    | false => exact trimStart_cons hc r
    | true =>
      -- a blank at the start would have gone
      have hlength := congrArg List.length hs
      rw [trimStart, List.cons_append, List.dropWhile_cons, if_pos hc] at hlength
      have hshorter := List.IsSuffix.length_le (List.dropWhile_suffix (l := r ++ t) isBlank)
      rw [hlength, List.length_cons] at hshorter
      omega

/-- A trimmed text is its own trimmed form. -/
theorem trim_trim (s : List Char) : trim (trim s) = trim s := by
  have hstart : trimStart (trimStart s) = trimStart s := List.dropWhile_idempotent isBlank s
  have hends : ∀ t, trimEnd (trimEnd t) = trimEnd t := by
    intro t
    rw [trimEnd, trimEnd, List.reverse_reverse, List.dropWhile_idempotent]
  rw [trim, trim, trimStart_trimEnd hstart, hends]

/-- A text whose ends are not blank. -/
def IsTrimmed (s : List Char) : Prop :=
  (∃ c t, s = c :: t ∧ isBlank c = false) ∧ ∃ t c, s = t ++ [c] ∧ isBlank c = false

theorem IsTrimmed.trim_eq {s : List Char} (h : IsTrimmed s) : trim s = s := by
  obtain ⟨⟨c, t, hstart, hc⟩, u, d, hend, hd⟩ := h
  exact trim_eq_self hc hd hstart hend

theorem IsTrimmed.ne_nil {s : List Char} (h : IsTrimmed s) : s ≠ [] := by
  obtain ⟨⟨c, t, rfl, _⟩, _⟩ := h
  exact List.cons_ne_nil c t

theorem IsTrimmed.head_not_blank {s : List Char} (h : IsTrimmed s) (t : List Char) :
    ∀ c ∈ (s ++ t).head?, isBlank c = false := by
  obtain ⟨⟨c, r, rfl, hc⟩, _⟩ := h
  exact of_mem_head hc _

theorem IsTrimmed.append {s t : List Char} (hs : IsTrimmed s) (ht : IsTrimmed t) (u : List Char) :
    IsTrimmed (s ++ u ++ t) := by
  obtain ⟨⟨c, r, rfl, hc⟩, _⟩ := hs
  obtain ⟨_, v, d, rfl, hd⟩ := ht
  exact ⟨⟨c, r ++ u ++ (v ++ [d]), rfl, hc⟩, c :: r ++ u ++ v, d, by simp, hd⟩

theorem IsWord.isTrimmed {w : List Char} (h : IsWord w) : IsTrimmed w := by
  obtain ⟨c, t, rfl⟩ := List.exists_cons_of_ne_nil h.1
  obtain ⟨u, d, hend⟩ := (List.eq_nil_or_concat' (c :: t)).resolve_left h.1
  exact ⟨⟨c, t, rfl, h.2 c List.mem_cons_self⟩, u, d, hend, h.2 d (by simp [hend])⟩

/-- Marks behind a trimmed text leave it trimmed. -/
theorem IsTrimmed.append_marks {s t : List Char} (hs : IsTrimmed s)
    (ht : ∀ c ∈ t, isBlank c = false) : IsTrimmed (s ++ t) := by
  by_cases hne : t = []
  · rwa [hne, List.append_nil]
  · have hmarks : IsWord t := ⟨hne, ht⟩
    simpa using hs.append hmarks.isTrimmed []

/-- Blanks before a text go when it is trimmed. -/
theorem trim_append_of_blank {u : List Char} (hu : ∀ c ∈ u, isBlank c = true) (s : List Char) :
    trim (u ++ s) = trim s := by
  rw [trim, trim, trimStart, List.dropWhile_append_of_pos hu]
  rfl

theorem trim_append_blanks {u : List Char} (hu : ∀ c ∈ u, isBlank c = true) (s : List Char) :
    trim (s ++ u) = trim s := by
  have hend : ∀ t : List Char, trimEnd (t ++ u) = trimEnd t := fun t => by
    rw [trimEnd, trimEnd, List.reverse_append,
      List.dropWhile_append_of_pos fun c hc => hu c (List.mem_reverse.mp hc)]
  rw [trim, trim, trimStart, trimStart, List.dropWhile_append]
  split
  · rename_i hblank
    rw [List.isEmpty_iff.mp hblank, List.dropWhile_eq_nil_iff.mpr hu]
  · exact hend _

theorem wordsFrom_append {w : List Char} (hw : ∀ c ∈ w, isBlank c = false) (acc s : List Char) :
    wordsFrom acc (w ++ s) = wordsFrom (w.reverse ++ acc) s := by
  induction w generalizing acc with
  | nil => rfl
  | cons c w ih =>
    rw [List.cons_append, wordsFrom, hw c List.mem_cons_self, if_neg Bool.false_ne_true,
      ih (fun d hd => hw d (List.mem_cons_of_mem c hd)), List.reverse_cons, List.append_assoc,
      List.singleton_append]

/-- The words of a joined text are those that were joined. -/
theorem words_spaced {ws : List (List Char)} (hws : ∀ w ∈ ws, IsWord w) :
    words (spaced ws) = ws := by
  induction ws with
  | nil => rfl
  | cons w ws ih =>
    have hw : IsWord w := hws w List.mem_cons_self
    have hacc : w.reverse ++ [] ≠ [] := by simpa using hw.1
    by_cases hnil : ws = []
    · subst hnil
      have hword : wordsFrom [] w = wordsFrom (w.reverse ++ []) [] := by
        simpa using wordsFrom_append hw.2 [] []
      rw [spaced_singleton, words, hword, wordsFrom]
      · simp
      · exact hacc
    · have hspace : isBlank ' ' = true := by decide
      have hsome : (w.reverse ++ []).isEmpty = false := by simpa using hw.1
      have ih := ih fun v hv => hws v (List.mem_cons_of_mem w hv)
      rw [words] at ih ⊢
      rw [spaced_cons hnil, wordsFrom_append hw.2, wordsFrom, hspace, if_pos rfl, hsome,
        if_neg Bool.false_ne_true, ih]
      simp

theorem squeeze_spaced {ws : List (List Char)} (hws : ∀ w ∈ ws, IsWord w) :
    squeeze (spaced ws) = spaced ws := by
  rw [squeeze, words_spaced hws]
  rfl

/-! ## Pieces and markup -/

/-- Cutting at single characters is what the library calls splitting. -/
theorem splitWhere_eq_splitOnP (ok : Char → Bool) : ∀ s : List Char, splitWhere ok s = s.splitOnP ok
  | [] => rfl
  | c :: s => by
    rw [splitWhere, splitWhere_eq_splitOnP ok s, List.splitOnP_cons_eq_if_modifyHead]
    cases hpieces : s.splitOnP ok with
    | nil => exact absurd hpieces (List.splitOnP_ne_nil _ _)
    | cons p ps => rfl

/-- The first piece begins the text, and all pieces lie within it. -/
theorem exists_splitWhere (ok : Char → Bool) : ∀ s : List Char,
    ∃ p ps, splitWhere ok s = p :: ps ∧ p <+: s ∧ ∀ q ∈ ps, q <:+: s
  | [] => ⟨[], [], rfl, List.prefix_refl _, fun _ hq => absurd hq List.not_mem_nil⟩
  | c :: r => by
    obtain ⟨p, ps, hsplit, hp, hps⟩ := exists_splitWhere ok r
    have hrest : ∀ q ∈ ps, q <:+: c :: r := fun q hq =>
      (hps q hq).trans (List.suffix_cons c r).isInfix
    rw [splitWhere, hsplit]
    dsimp only
    split
    · refine ⟨[], p :: ps, rfl, List.nil_prefix, List.forall_mem_cons.mpr ⟨?_, hrest⟩⟩
      exact hp.isInfix.trans (List.suffix_cons c r).isInfix
    · exact ⟨c :: p, ps, rfl, List.cons_prefix_cons.mpr ⟨rfl, hp⟩, hrest⟩

theorem infix_of_mem_splitWhere {ok : Char → Bool} {s q : List Char} (h : q ∈ splitWhere ok s) :
    q <:+: s := by
  obtain ⟨p, ps, hsplit, hp, hps⟩ := exists_splitWhere ok s
  rw [hsplit] at h
  rcases List.mem_cons.mp h with rfl | h
  · exact hp.isInfix
  · exact hps q h

/-- What stands before the first `<` is kept, whatever follows. -/
theorem replaceTags_append (image : List Char) {s : List Char} (hs : '<' ∉ s) (t : List Char) :
    replaceTags image (s ++ t) = s ++ replaceTags image t := by
  rw [replaceTags]
  induction s with
  | nil => rfl
  | cons c s ih =>
    have hc : (c == '<') = false := beq_eq_false_iff_ne.mpr fun h => hs (h ▸ List.mem_cons_self)
    rw [List.cons_append, replaceTagsFrom, hc, Bool.false_and, if_neg Bool.false_ne_true,
      ih fun h => hs (List.mem_cons_of_mem c h), List.cons_append]

/-- Without `<` there is no tag. -/
theorem replaceTags_eq_self (image : List Char) {s : List Char} (hs : '<' ∉ s) :
    replaceTags image s = s := by
  have hnil : replaceTags image [] = [] := rfl
  have hall := replaceTags_append image hs []
  rwa [hnil, List.append_nil] at hall

/-! ## Cutting at a space -/

/-- **Each space of a joined text stands between two of its words.** -/
theorem spaced_eq_cut {ws : List (List Char)} {tail x z : List Char} (hws : ∀ w ∈ ws, ' ' ∉ w)
    (htail : ' ' ∉ tail) (h : spaced ws ++ tail = x ++ ' ' :: z) :
    ∃ vs us, vs ≠ [] ∧ us ≠ [] ∧ ws = vs ++ us ∧ x = spaced vs ∧ z = spaced us ++ tail := by
  induction ws generalizing x with
  | nil =>
    have hmem : ' ' ∈ tail := by
      rw [spaced_nil, List.nil_append] at h
      rw [h]
      simp
    exact absurd hmem htail
  | cons w ws ih =>
    by_cases hnil : ws = []
    · subst hnil
      have hmem : ' ' ∈ w ++ tail := by
        rw [spaced_singleton] at h
        rw [h]
        simp
      rcases List.mem_append.mp hmem with hw | ht
      · exact absurd hw (hws w List.mem_cons_self)
      · exact absurd ht htail
    · rw [spaced_cons hnil, List.append_assoc, List.cons_append, List.append_eq_append_iff] at h
      -- the space stands behind the first word, or within it, which cannot be
      rcases h with ⟨as, hx, hrest⟩ | ⟨bs, hw, hrest⟩
      · cases as with
        | nil =>
          have hz : spaced ws ++ tail = z := (List.cons.inj hrest).2
          refine ⟨[w], ws, List.cons_ne_nil w [], hnil, rfl, ?_, hz.symm⟩
          rw [hx, List.append_nil, spaced_singleton]
        | cons c as =>
          rw [List.cons_append] at hrest
          obtain ⟨hc, hafter⟩ := List.cons.inj hrest
          subst hc
          obtain ⟨vs, us, hvs, hus, hsplit, has, hz⟩ :=
            ih (fun v hv => hws v (List.mem_cons_of_mem w hv)) hafter
          refine ⟨w :: vs, us, List.cons_ne_nil w vs, hus, by rw [hsplit, List.cons_append], ?_, hz⟩
          rw [hx, has, spaced_cons hvs]
      · cases bs with
        | nil =>
          have hz : z = spaced ws ++ tail := (List.cons.inj hrest).2
          refine ⟨[w], ws, List.cons_ne_nil w [], hnil, rfl, ?_, hz⟩
          rw [hw, List.append_nil, spaced_singleton]
        | cons c bs =>
          have hmem : ' ' ∈ w := by
            rw [hw, ← (List.cons.inj hrest).1]
            simp
          exact absurd hmem (hws w List.mem_cons_self)

/-- A joined text without a space is a single word. -/
theorem eq_singleton_of_space_not_mem {ws : List (List Char)} (hne : ws ≠ [])
    (h : ' ' ∉ spaced ws) : ws = [spaced ws] := by
  obtain ⟨w, ws, rfl⟩ := List.exists_cons_of_ne_nil hne
  by_cases hnil : ws = []
  · subst hnil
    rw [spaced_singleton]
  · rw [spaced_cons hnil] at h
    simp at h

/-- A text cut in two ways at a mark, neither part before it holding the mark of the other, is cut in
    one way. -/
theorem first_eq_of_cut {m m' : Char} {a b x y : List Char} (ha : m' ∉ a) (hb : m ∉ b)
    (h : a ++ m :: x = b ++ m' :: y) : a = b := by
  rcases List.append_eq_append_iff.mp h with ⟨c, rfl, hc⟩ | ⟨c, rfl, hc⟩
  all_goals cases c with
    | nil => rw [List.append_nil]
    | cons d c => simp_all

/-- What a joined text begins with, up to a space, is its first word. -/
theorem prefix_cut {ws : List (List Char)} {tail a b : List Char} (hws : ∀ w ∈ ws, ' ' ∉ w)
    (htail : ' ' ∉ tail) (ha : ' ' ∉ a) (h : a ++ ' ' :: b <+: spaced ws ++ tail) :
    ∃ us, us ≠ [] ∧ ws = a :: us ∧ b <+: spaced us ++ tail := by
  obtain ⟨z, hz⟩ := h
  rw [List.append_assoc, List.cons_append] at hz
  obtain ⟨vs, us, hvs, hus, hsplit, hx, hb⟩ := spaced_eq_cut hws htail hz.symm
  have hone : vs = [a] := by
    rw [hx] at ha ⊢
    exact eq_singleton_of_space_not_mem hvs ha
  refine ⟨us, hus, by rw [hsplit, hone, List.singleton_append], ?_⟩
  exact ⟨z, hb⟩

/-- A piece without a space does not reach over one. -/
theorem suffix_of_space_not_mem {a x w : List Char} (ha : ' ' ∉ a) (h : a <:+ x ++ ' ' :: w) :
    a <:+ w := by
  rcases List.suffix_or_suffix_of_suffix h (List.suffix_append x (' ' :: w)) with h | h
  · rcases List.suffix_cons_iff.mp h with rfl | h
    · exact absurd List.mem_cons_self ha
    · exact h
  · exact absurd (h.subset List.mem_cons_self) ha

/-- What occurs in a joined text, up to a space, ends a word. -/
theorem infix_cut {ws : List (List Char)} {tail a b : List Char} (hws : ∀ w ∈ ws, ' ' ∉ w)
    (htail : ' ' ∉ tail) (ha : ' ' ∉ a) (h : a ++ ' ' :: b <:+: spaced ws ++ tail) :
    ∃ vs w us, us ≠ [] ∧ ws = vs ++ w :: us ∧ a <:+ w ∧ b <+: spaced us ++ tail := by
  obtain ⟨x, z, hz⟩ := h
  rw [List.append_assoc, List.append_assoc, List.cons_append, ← List.append_assoc x] at hz
  obtain ⟨vs, us, hvs, hus, hsplit, hx, hb⟩ := spaced_eq_cut hws htail hz.symm
  obtain ⟨vs, w, rfl⟩ := (List.eq_nil_or_concat' vs).resolve_left hvs
  refine ⟨vs, w, us, hus, by rw [hsplit, List.append_assoc, List.singleton_append], ?_, z, hb⟩
  by_cases hnil : vs = []
  · subst hnil
    rw [List.nil_append, spaced_singleton] at hx
    exact ⟨x, hx⟩
  · rw [spaced_append hnil (List.cons_ne_nil w []), spaced_singleton] at hx
    exact suffix_of_space_not_mem ha ⟨x, hx⟩

/-- A word that is not among the words of a text is not found between two spaces that begin within
    the text. -/
theorem not_prefix_of_not_mem {ws : List (List Char)} {w x y : List Char} (hws : ∀ v ∈ ws, ' ' ∉ v)
    (hspace : ' ' ∉ w) (hw : w ∉ ws) (hxy : spaced ws = x ++ y) (hy : y ≠ []) (t : List Char) :
    ¬ ' ' :: (w ++ [' ']) <+: y ++ ' ' :: t := by
  obtain ⟨c, y, rfl⟩ := List.exists_cons_of_ne_nil hy
  rintro ⟨z, hz⟩
  rw [List.cons_append, List.cons_append] at hz
  obtain ⟨rfl, hafter⟩ := List.cons.inj hz
  have hcut : spaced ws ++ [] = x ++ ' ' :: y := by rw [List.append_nil, hxy]
  obtain ⟨vs, us, _, hus, rfl, _, hyus⟩ := spaced_eq_cut hws List.not_mem_nil hcut
  rw [List.append_nil] at hyus
  obtain ⟨u, us, rfl⟩ := List.exists_cons_of_ne_nil hus
  -- the first word behind the cut ends at a space, as `w` does
  have hfirst : ∃ r, y ++ ' ' :: t = u ++ ' ' :: r := by
    by_cases hnil : us = []
    · subst hnil
      exact ⟨t, by rw [hyus, spaced_singleton]⟩
    · exact ⟨spaced us ++ ' ' :: t, by
        rw [hyus, spaced_cons hnil, List.append_assoc, List.cons_append]⟩
  obtain ⟨r, hr⟩ := hfirst
  rw [hr, List.append_assoc, List.singleton_append] at hafter
  have hu : ' ' ∉ u := hws u (by simp)
  exact hw (by simp [first_eq_of_cut hspace hu hafter])

/-- A word that is not among the words of a text does not stand between two of its spaces. -/
theorem not_infix_of_not_mem {ws : List (List Char)} {w tail : List Char} (hws : ∀ v ∈ ws, ' ' ∉ v)
    (htail : ' ' ∉ tail) (hspace : ' ' ∉ w) (hw : w ∉ ws) :
    ¬ ' ' :: (w ++ [' ']) <:+: spaced ws ++ tail := by
  intro h
  obtain ⟨vs, v, us, _, hsplit, _, hnext⟩ := infix_cut (a := []) hws htail List.not_mem_nil h
  have hus : ∀ u ∈ us, ' ' ∉ u := fun u hu => hws u (by simp [hsplit, hu])
  obtain ⟨_, _, rfl, _⟩ := prefix_cut hus htail hspace hnext
  exact hw (by simp [hsplit])

/-! ## Occurrences -/

/-- Of two texts that part ways, neither begins what begins like the other. -/
theorem not_prefix_append {p w : List Char} (hw : w.isPrefixOf p = false)
    (hp : p.isPrefixOf w = false) (t : List Char) : ¬ w <+: p ++ t := by
  intro h
  rcases List.prefix_or_prefix_of_prefix h (List.prefix_append p t) with h | h
  · rw [List.isPrefixOf_iff_prefix.mpr h] at hw
    cases hw
  · rw [List.isPrefixOf_iff_prefix.mpr h] at hp
    cases hp

theorem begins_eq_true_iff {p s : List Char} : begins p s = true ↔ p <+: s := by
  induction p generalizing s with
  | nil => exact ⟨fun _ => List.nil_prefix, fun _ => by cases s <;> rfl⟩
  | cons c p ih =>
    cases s with
    | nil => simp [begins]
    | cons d s => rw [begins, Bool.and_eq_true, beq_iff_eq, ih, List.cons_prefix_cons]

theorem occurs_eq_true_iff {p s : List Char} : occurs p s = true ↔ p <:+: s := by
  induction s with
  | nil => simp [occurs]
  | cons c s ih =>
    rw [occurs, Bool.or_eq_true, begins_eq_true_iff, ih, List.infix_cons_iff]

/-! ## Single spaces -/

/-- A text whose blanks are single spaces. -/
structure SingleSpaced (s : List Char) : Prop where
  spaces : ∀ c ∈ s, isBlank c = true → c = ' '
  apart : ¬ [' ', ' '] <:+: s

theorem SingleSpaced.piece {s t : List Char} (h : SingleSpaced s) (ht : t <:+: s) :
    SingleSpaced t :=
  ⟨fun c hc => h.spaces c (ht.subset hc), fun hpair => h.apart (hpair.trans ht)⟩

theorem singleSpaced_of_not_blank {s : List Char} (h : ∀ c ∈ s, isBlank c = false) :
    SingleSpaced s := by
  have hspace : isBlank ' ' = true := by decide
  refine ⟨fun c hc hblank => ?_, fun hpair => ?_⟩
  · rw [h c hc] at hblank
    cases hblank
  · rw [h ' ' (hpair.subset List.mem_cons_self)] at hspace
    cases hspace

/-- Two texts of which one has no space where they meet. -/
theorem SingleSpaced.append {s t : List Char} (hs : SingleSpaced s) (ht : SingleSpaced t)
    (hmeet : ¬ (∃ x, s = x ++ [' ']) ∨ ¬ ∃ y, t = ' ' :: y) : SingleSpaced (s ++ t) := by
  refine ⟨fun c hc => (List.mem_append.mp hc).elim (hs.spaces c) (ht.spaces c), ?_⟩
  rintro ⟨x, z, hxz⟩
  rw [List.append_assoc] at hxz
  rcases List.append_eq_append_iff.mp hxz with ⟨a, hleft, hright⟩ | ⟨a, _, hright⟩
  · -- the two spaces lie in the second text, on both sides, or in the first text
    rcases a with _ | ⟨c, _ | ⟨d, a⟩⟩
    · exact ht.apart ⟨[], z, hright⟩
    · obtain ⟨hc, ht'⟩ := List.cons.inj hright
      exact hmeet.elim (· ⟨x, by rw [hleft, ← hc]⟩) (· ⟨z, ht'.symm⟩)
    · obtain ⟨hc, hnext⟩ := List.cons.inj hright
      obtain ⟨hd, _⟩ := List.cons.inj hnext
      exact hs.apart ⟨x, a, by rw [hleft, ← hc, ← hd, List.append_assoc]; rfl⟩
  · exact ht.apart ⟨a, z, by rw [hright, List.append_assoc]⟩

/-- A text with single spaces within and none at its ends. -/
structure IsTidy (s : List Char) : Prop where
  singleSpaced : SingleSpaced s
  trimmed : IsTrimmed s

theorem IsWord.isTidy {w : List Char} (h : IsWord w) : IsTidy w :=
  ⟨singleSpaced_of_not_blank h.2, h.isTrimmed⟩

theorem IsTidy.append_marks {s t : List Char} (hs : IsTidy s) (ht : ∀ c ∈ t, isBlank c = false) :
    IsTidy (s ++ t) := by
  refine ⟨hs.singleSpaced.append (singleSpaced_of_not_blank ht) (Or.inr ?_),
    hs.trimmed.append_marks ht⟩
  rintro ⟨y, rfl⟩
  exact absurd (ht ' ' List.mem_cons_self) (by decide)

theorem IsTidy.join {s t : List Char} (hs : IsTidy s) (ht : IsTidy t) : IsTidy (s ++ ' ' :: t) := by
  have hspace : SingleSpaced [' '] := ⟨fun c hc _ => List.mem_singleton.mp hc, by decide⟩
  have hbefore : SingleSpaced (s ++ [' ']) := by
    refine hs.singleSpaced.append hspace (Or.inl ?_)
    rintro ⟨x, hx⟩
    obtain ⟨u, d, hend, hd⟩ := hs.trimmed.2
    obtain rfl : ' ' = d := by simpa using (List.append_inj' (hx.symm.trans hend) rfl).2
    cases hd
  have hall : SingleSpaced ((s ++ [' ']) ++ t) := by
    refine hbefore.append ht.singleSpaced (Or.inr ?_)
    rintro ⟨y, hy⟩
    obtain ⟨c, u, hstart, hc⟩ := ht.trimmed.1
    obtain rfl : ' ' = c := (List.cons.inj (hy.symm.trans hstart)).1
    cases hc
  have hends := hs.trimmed.append ht.trimmed [' ']
  rw [List.append_assoc, List.singleton_append] at hall hends
  exact ⟨hall, hends⟩

/-- Tidy texts with one space between them make a tidy text. -/
theorem isTidy_spaced {ws : List (List Char)} (hne : ws ≠ []) (hws : ∀ w ∈ ws, IsTidy w) :
    IsTidy (spaced ws) := by
  induction ws with
  | nil => exact absurd rfl hne
  | cons w ws ih =>
    by_cases hnil : ws = []
    · subst hnil
      rw [spaced_singleton]
      exact hws w List.mem_cons_self
    · rw [spaced_cons hnil]
      exact (hws w List.mem_cons_self).join
        (ih hnil fun v hv => hws v (List.mem_cons_of_mem w hv))

theorem trim_spaced {ws : List (List Char)} (hws : ∀ w ∈ ws, IsWord w) :
    trim (spaced ws) = spaced ws := by
  by_cases hne : ws = []
  · subst hne
    rfl
  · exact (isTidy_spaced hne fun w hw => (hws w hw).isTidy).trimmed.trim_eq

theorem singleSpaced_spaced {ws : List (List Char)} {tail : List Char} (hws : ∀ w ∈ ws, IsWord w)
    (htail : ∀ c ∈ tail, isBlank c = false) : SingleSpaced (spaced ws ++ tail) := by
  by_cases hne : ws = []
  · subst hne
    exact singleSpaced_of_not_blank htail
  · exact ((isTidy_spaced hne fun w hw => (hws w hw).isTidy).append_marks htail).singleSpaced

/-! ## Plain names -/

/-- A name of ASCII letters: words with one space between them. -/
structure PlainName where
  words : List (List Char)
  words_ne_nil : words ≠ []
  word_ne_nil : ∀ w ∈ words, w ≠ []
  letters : ∀ w ∈ words, ∀ c ∈ w, c.isAlpha = true

namespace PlainName

variable {n : PlainName}

/-- The name as text. -/
def text (n : PlainName) : List Char := spaced n.words

theorem isWord {w : List Char} (h : w ∈ n.words) : IsWord w :=
  isWord_of_letters (n.word_ne_nil w h) (n.letters w h)

theorem mem_text {c : Char} (h : c ∈ n.text) : c = ' ' ∨ c.isAlpha = true := by
  rcases mem_spaced h with h | ⟨w, hw, h⟩
  · exact Or.inl h
  · exact Or.inr (n.letters w hw c h)

theorem not_mem_text {c : Char} (hspace : c ≠ ' ') (hc : c.isAlpha = false) : c ∉ n.text := by
  intro h
  rcases mem_text h with h | h
  · exact hspace h
  · exact ne_of_isAlpha h hc rfl

theorem ascii (n : PlainName) : ∀ c ∈ n.text, c.toNat < 0x80 := by
  intro c hc
  rcases mem_text hc with rfl | h
  · decide
  · exact toNat_lt_of_isAlpha h

theorem inName_of_mem_text {c : Char} (h : c ∈ n.text) : Pattern.inName c = true := by
  rw [Pattern.inName, Bool.or_eq_true]
  rcases mem_text h with rfl | h
  · exact Or.inr rfl
  · exact Or.inl (isWordChar_of_isAlpha h)

theorem isTidy (n : PlainName) : IsTidy n.text :=
  isTidy_spaced n.words_ne_nil fun _ hw => (n.isWord hw).isTidy

theorem singleSpaced (n : PlainName) : SingleSpaced n.text := n.isTidy.singleSpaced

theorem isTrimmed (n : PlainName) : IsTrimmed n.text := n.isTidy.trimmed

theorem exists_head (n : PlainName) : ∃ c t, n.text = c :: t ∧ c.isAlpha = true := by
  obtain ⟨w, hw, c, r, rfl, t, ht⟩ := exists_head_spaced n.words_ne_nil n.word_ne_nil
  exact ⟨c, t, ht, n.letters _ hw c List.mem_cons_self⟩

theorem exists_last (n : PlainName) : ∃ t c, n.text = t ++ [c] ∧ c.isAlpha = true := by
  obtain ⟨w, hw, r, c, rfl, t, ht⟩ := exists_last_spaced n.words_ne_nil n.word_ne_nil
  exact ⟨t, c, ht, n.letters _ hw c (by simp)⟩

theorem head_not_blank (n : PlainName) (t : List Char) :
    ∀ c ∈ (n.text ++ t).head?, isBlank c = false :=
  spaced_head_not_blank n.words_ne_nil (fun _ hw => n.isWord hw) t

end PlainName

end Muster.Text
