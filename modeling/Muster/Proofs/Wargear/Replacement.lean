/-
  Sentences that let items give way to a new one.

  1. **Program.**  `parse` brings a sentence through two ordered tables of rules, the openings that
     tell whom it speaks of and the verb phrases that tell what it lets them do; the first rule that
     matches classifies it.

  2. **Specification.**  "This model's A and B and C can be replaced with 2 D." speaks of this model,
     removes one A, one B and one C, in this order, and adds one choice, two D.

  3. **The crux.**  "can" ends no word of a name, so it stands in the sentence once (`cut_at_can`): a
     rule that needs another verb phrase does not match, and the lazy run before the verb takes all
     of the names.  In the same way the first lazy run of the rule for several items stops at the
     first "and".

  4. **Where it ends.**  A numeral of more digits than are read is an error of the whole sentence,
     also in the option line of a datasheet.
-/
import Mathlib
import Muster.Wargear.Option
import Muster.Proofs.Wargear.ChoiceList
import Muster.Proofs.Wargear.LongNumeral
import Muster.Proofs.Wargear.Opening

namespace Muster.Wargear

open Text Pattern

/-! ## The sentence -/

/-- What the sentence speaks of: the items that give way, the new one and its count.  No word of a
    name is "and" or ends in "can", in any case, and no item begins like a counted one. -/
structure Replacement where
  items : List PlainName
  count : Numeral
  new : PlainName
  items_ne_nil : items ≠ []
  no_and : ∀ n ∈ new :: items, ∀ w ∈ n.words, w.map Char.toLower ≠ "and".toList
  no_can : ∀ n ∈ new :: items, ∀ w ∈ n.words, ¬ "can".toList <:+ w.map Char.toLower
  uncounted : ∀ n ∈ items, ∀ w ∈ n.words.head?, w.map Char.toLower ∉ countWords

namespace Replacement

variable (r : Replacement)

/-- The characters of the sentence. -/
def chars : List Char :=
  "This model's ".toList ++ " and ".toList.intercalate (r.items.map PlainName.text)
    ++ " can be replaced with ".toList ++ r.count.digits ++ ' ' :: r.new.text ++ ['.']

/-- The sentence. -/
def text : String := String.ofList r.chars

/-- What stands before the verb. -/
def subject : List Char := spaced (possessed r.items)

/-- What stands behind the verb. -/
def object : List Char := r.count.digits ++ ' ' :: (r.new.text ++ ['.'])

/-- The new item as an entry of a list. -/
def offered : Entry := ⟨r.count, r.new, r.no_and r.new List.mem_cons_self⟩

theorem object_eq : r.object = r.offered.chars ++ ['.'] := by
  rw [object, Entry.chars, List.append_assoc]
  rfl

theorem chars_eq :
    r.chars = r.subject ++ ' ' :: ("can be replaced with".toList ++ ' ' :: r.object) := by
  unfold chars subject object
  rewrite [spaced_possessed r.items_ne_nil, intercalate_text]
  simp

/-- The words behind "can". -/
def objectWords : List (List Char) :=
  "be".toList :: "replaced".toList :: "with".toList :: r.count.digits :: r.new.words

theorem spaced_objectWords :
    spaced r.objectWords ++ ['.'] = "be replaced with".toList ++ ' ' :: r.object := by
  unfold objectWords object PlainName.text
  rewrite [spaced_cons (List.cons_ne_nil _ _), spaced_cons (List.cons_ne_nil _ _),
    spaced_cons (List.cons_ne_nil _ _), spaced_cons r.new.words_ne_nil]
  simp

/-- The sentence is its words and a full stop. -/
theorem chars_eq_spaced :
    r.chars = spaced (possessed r.items ++ "can".toList :: r.objectWords) ++ ['.'] := by
  have hsubject : possessed r.items ≠ [] := List.cons_ne_nil _ _
  have hobject : r.objectWords ≠ [] := List.cons_ne_nil _ _
  rewrite [chars_eq, subject, spaced_append hsubject (List.cons_ne_nil _ _), spaced_cons hobject,
    List.append_assoc, List.cons_append, List.append_assoc, List.cons_append, spaced_objectWords]
  simp

theorem isItemName {n : PlainName} (hn : n ∈ r.items) : IsItemName n where
  no_and w hw := by
    rw [folded_word hw]
    exact r.no_and n (List.mem_cons_of_mem _ hn) w hw
  no_count w hw := by
    rw [folded_word (List.mem_of_mem_head? hw)]
    exact r.uncounted n hn w hw

theorem new_no_and {w : List Char} (hw : w ∈ r.new.words) : folded w ≠ "and".toList := by
  rw [folded_word hw]
  exact r.no_and r.new List.mem_cons_self w hw

theorem isWord : ∀ w ∈ possessed r.items ++ "can".toList :: r.objectWords, IsWord w := by
  simp only [possessed, objectWords, List.forall_mem_append, List.forall_mem_cons]
  refine ⟨⟨by decide, by decide, fun w hw => isWord_of_mem_enumerated hw⟩, by decide, by decide,
    by decide, by decide, r.count.isWord, fun w hw => r.new.isWord hw⟩

theorem singleSpaced : SingleSpaced r.chars := by
  rw [chars_eq_spaced]
  exact singleSpaced_spaced r.isWord fun c hc => List.mem_singleton.mp hc ▸ rfl

theorem folded_chars : folded r.chars
    = spaced ((possessed r.items).map folded ++ "can".toList :: r.objectWords.map folded) ++ ['.'] := by
  rw [chars_eq_spaced, folded_append, folded_spaced, List.map_append, List.map_cons]
  rfl

theorem space_not_mem_folded :
    ∀ w ∈ (possessed r.items).map folded ++ "can".toList :: r.objectWords.map folded,
    ' ' ∉ w := by
  have hmap : (possessed r.items).map folded ++ "can".toList :: r.objectWords.map folded
      = (possessed r.items ++ "can".toList :: r.objectWords).map folded := by
    rw [List.map_append, List.map_cons]
    rfl
  rw [hmap]
  intro _ hv hmem
  obtain ⟨w, hw, rfl⟩ := List.mem_map.mp hv
  exact (r.isWord w hw).space_not_mem (mem_of_mem_folded (by decide) hmem)

/-! ## Where the verb stands -/

/-- No other word of the sentence ends in "can". -/
theorem no_other_can : ∀ w ∈ possessed r.items ++ r.objectWords, ¬ "can".toList <:+ folded w := by
  have hname : ∀ n ∈ r.new :: r.items, ∀ w ∈ n.words, ¬ "can".toList <:+ folded w := by
    intro n hn w hw
    rw [folded_word hw]
    exact r.no_can n hn w hw
  have hcount : ¬ "can".toList <:+ folded r.count.digits := by
    intro h
    rw [r.count.folded_digits] at h
    exact absurd (r.count.ascii 'c' (h.subset (by decide))) (by decide)
  have hjoined : ∀ w ∈ enumerated r.items, ¬ "can".toList <:+ folded w := by
    intro w hw
    rcases mem_enumerated hw with rfl | ⟨n, hn, hw⟩
    · decide
    · exact hname n (List.mem_cons_of_mem _ hn) w hw
  simp only [possessed, objectWords, List.forall_mem_append, List.forall_mem_cons]
  exact ⟨⟨by decide, by decide, hjoined⟩, by decide, by decide, by decide, hcount,
    hname r.new List.mem_cons_self⟩

/-- **Where "can" ends a word before a space, the verb follows.** -/
theorem cut_at_can {b : List Char} (h : "can".toList ++ ' ' :: b <:+: folded r.chars) :
    b <+: "be replaced with".toList ++ ' ' :: folded r.object := by
  rw [folded_chars] at h
  obtain ⟨vs, w, us, _, hsplit, hcan, hb⟩ :=
    infix_cut r.space_not_mem_folded (by decide) (by decide) h
  have hno : ∀ v ∈ (possessed r.items).map folded ++ r.objectWords.map folded,
      ¬ "can".toList <:+ v := by
    rw [← List.map_append]
    intro v hv
    obtain ⟨u, hu, rfl⟩ := List.mem_map.mp hv
    exact r.no_other_can u hu
  have hus : us = r.objectWords.map folded := by
    rcases List.append_eq_append_iff.mp hsplit with ⟨as, hvs, hrest⟩ | ⟨as, hvs, hrest⟩
    · cases as with
      | nil => exact (List.cons.inj hrest).2.symm
      | cons a as =>
        have hw : w ∈ r.objectWords.map folded := by simp [(List.cons.inj hrest).2]
        exact absurd hcan (hno w (List.mem_append_right _ hw))
    · cases as with
      | nil => exact (List.cons.inj hrest).2
      | cons a as =>
        have hw : w ∈ (possessed r.items).map folded := by simp [hvs, (List.cons.inj hrest).1]
        exact absurd hcan (hno w (List.mem_append_left _ hw))
  rw [hus] at hb
  have hobject : spaced (r.objectWords.map folded) ++ ['.']
      = "be replaced with".toList ++ ' ' :: folded r.object := by
    have hverb : folded "be replaced with".toList = "be replaced with".toList := by decide
    have h := congrArg folded r.spaced_objectWords
    rewrite [folded_append, folded_spaced, folded_append, hverb] at h
    exact h
  rwa [hobject] at hb

/-! ## Phrases that do and do not occur -/

/-- The characters of the words are those of one line of ASCII. -/
theorem ascii_of_mem_words : ∀ w ∈ possessed r.items ++ "can".toList :: r.objectWords, ∀ c ∈ w,
    c.toNat < 0x80 ∧ c ≠ '\n' := by
  have hfixed : ∀ w : List Char, (w.all fun c => c.toNat < 0x80 && c != '\n') = true → ∀ c ∈ w,
      c.toNat < 0x80 ∧ c ≠ '\n' := by
    intro w hw c hc
    simpa using List.all_eq_true.mp hw c hc
  have hletters : ∀ w : List Char, (∀ c ∈ w, c.isAlpha = true) →
      ∀ c ∈ w, c.toNat < 0x80 ∧ c ≠ '\n' :=
    fun w hw c hc => ⟨toNat_lt_of_isAlpha (hw c hc), ne_of_isAlpha (hw c hc) (by decide)⟩
  have hdigits : ∀ c ∈ r.count.digits, c.toNat < 0x80 ∧ c ≠ '\n' := fun c hc => by
    refine ⟨toNat_lt_of_isAsciiDigit (r.count.ascii c hc), ?_⟩
    rintro rfl
    exact absurd (r.count.ascii _ hc) (by decide)
  simp only [possessed, objectWords, List.forall_mem_append, List.forall_mem_cons]
  exact ⟨⟨hfixed _ (by decide), hfixed _ (by decide),
      fun w hw => hletters w (letters_of_mem_enumerated hw)⟩,
    hfixed _ (by decide), hfixed _ (by decide), hfixed _ (by decide), hfixed _ (by decide), hdigits,
    fun w hw => hletters w (r.new.letters w hw)⟩

theorem ascii : ∀ c ∈ r.chars, c.toNat < 0x80 ∧ c ≠ '\n' := by
  rw [chars_eq_spaced]
  intro c hc
  rcases List.mem_append.mp hc with hc | hc
  · rcases mem_spaced hc with rfl | ⟨w, hw, hc⟩
    · decide
    · exact r.ascii_of_mem_words w hw c hc
  · rw [List.mem_singleton.mp hc]
    decide

theorem lower_chars : lower r.chars = folded r.chars := lower_of_ascii fun c hc => (r.ascii c hc).1

theorem occurs_verb : occurs "can be replaced with".toList (lower r.chars) = true := by
  have hverb : folded "can be replaced with".toList = "can be replaced with".toList := by decide
  have hoccurs : "can be replaced with".toList <:+: r.chars := by
    rewrite [chars_eq]
    exact ⟨r.subject ++ [' '], ' ' :: r.object,
      by simp only [List.append_assoc, List.cons_append, List.nil_append]⟩
  have hfolded : folded "can be replaced with".toList <:+: folded r.chars := hoccurs.map foldChar
  rewrite [hverb] at hfolded
  rw [lower_chars, occurs_eq_true_iff]
  exact hfolded

theorem not_equipped : ¬ "can be equipped with".toList <:+: folded r.chars := by
  have hphrase : "can be equipped with".toList = "can".toList ++ ' ' :: "be equipped with".toList := by
    decide
  intro h
  rewrite [hphrase] at h
  exact not_prefix_append (by decide) (by decide) _ (r.cut_at_can h)

theorem not_one_of_following : ¬ folded "can be replaced with ".toList
    ++ folded "one of the following".toList <:+: folded r.chars := by
  have hphrase : folded "can be replaced with ".toList ++ folded "one of the following".toList
      = "can".toList ++ ' ' :: ("be replaced with".toList ++ ' ' :: "one of the following".toList) := by
    decide
  intro h
  rewrite [hphrase] at h
  have hobject := (List.prefix_append_right_inj _).mp (r.cut_at_can h)
  obtain ⟨d, ds, hd⟩ := List.exists_cons_of_ne_nil r.count.digits_ne_nil
  have hdigit : isAsciiDigit d = true := r.count.ascii d (by simp [hd])
  have hhead : folded r.object = d :: folded (ds ++ ' ' :: (r.new.text ++ ['.'])) := by
    unfold object
    rw [hd, List.cons_append, folded, List.map_cons, foldChar_of_isAsciiDigit hdigit]
  rewrite [List.cons_prefix_cons, hhead] at hobject
  obtain ⟨rfl, _⟩ := List.cons_prefix_cons.mp hobject.2
  exact absurd hdigit (by decide)

theorem not_and {n : PlainName} (h : r.items = [n]) : ¬ " and ".toList <:+: folded r.chars := by
  have hphrase : " and ".toList = ' ' :: ("and".toList ++ [' ']) := by decide
  have hcount : folded r.count.digits ≠ "and".toList := by
    rw [r.count.folded_digits]
    intro hand
    exact absurd (r.count.ascii 'a' (by rw [hand]; decide)) (by decide)
  have hwords : ∀ w ∈ possessed r.items ++ r.objectWords, folded w ≠ "and".toList := by
    have hitem : IsItemName n := r.isItemName (by simp [h])
    simp only [possessed, objectWords, h, enumerated_singleton, List.forall_mem_append,
      List.forall_mem_cons]
    exact ⟨⟨by decide, by decide, hitem.no_and⟩, by decide, by decide, by decide, hcount,
      fun w hw => r.new_no_and hw⟩
  rewrite [hphrase, folded_chars]
  refine not_infix_of_not_mem r.space_not_mem_folded (by decide) (by decide) ?_
  simp only [List.mem_append, List.mem_cons, List.mem_map, not_or]
  refine ⟨?_, by decide, ?_⟩
  · rintro ⟨w, hw, heq⟩
    exact hwords w (List.mem_append_left _ hw) heq
  · rintro ⟨w, hw, heq⟩
    exact hwords w (List.mem_append_right _ hw) heq

/-! ## Whom it speaks of -/

end Replacement

theorem folded_this (t : List Char) :
    folded ("This model".toList ++ t) = "this model".toList ++ folded t := by
  have hthis : folded "This model".toList = "this model".toList := by decide
  rewrite [folded_append, hthis]
  rfl

section ThisModel

variable {s t : List Char} (hs : s = "This model".toList ++ t)
include hs

/-- No count opens such a sentence. -/
theorem find_count_eq_none (p q : Pattern) (n : Nat) :
    (textStart ++ countAs n ++ gap ++ p ++ q).find s = none := by
  have hanchored : (textStart ++ countAs n ++ gap ++ p ++ q).Anchored :=
    .seq _ (.seq _ (.seq _ (.seq _ .start)))
  have hother : countWords.all (fun w => !w.isPrefixOf "this model".toList
      && !"this model".toList.isPrefixOf w) = true := by decide
  rw [hanchored.find_eq]
  refine matchAt_eq_none (fun u rest hsplit hreads => ?_) none
  obtain ⟨_, _, rfl, ⟨_, _, rfl, ⟨_, _, rfl, ⟨v, x, rfl, hv, hx⟩, _⟩, _⟩, _⟩ := hreads
  obtain rfl : v = [] := hv
  have hbegins : x <+: "This model".toList ++ t := by
    rewrite [← hs, hsplit]
    simp only [List.nil_append, List.append_assoc]
    exact List.prefix_append _ _
  rcases reads_countAs hx with ⟨hne, hdigits⟩ | hword
  · obtain ⟨c, x, rfl⟩ := List.exists_cons_of_ne_nil hne
    obtain ⟨rfl, _⟩ := List.cons_prefix_cons.mp (show c :: x <+: 'T' :: _ from hbegins)
    exact absurd (hdigits 'T' List.mem_cons_self) (by decide)
  · have hpart := List.all_eq_true.mp hother _ hword
    rw [Bool.and_eq_true, Bool.not_eq_true', Bool.not_eq_true'] at hpart
    have hfolded : folded x <+: folded ("This model".toList ++ t) := hbegins.map foldChar
    rewrite [folded_this] at hfolded
    exact not_prefix_append hpart.1 hpart.2 _ hfolded

end ThisModel

namespace Replacement

variable (r : Replacement)

theorem exists_chars : ∃ t, r.chars = "This model".toList ++ ("'s".toList ++ t) := by
  rewrite [chars_eq]
  unfold subject
  rewrite [spaced_possessed r.items_ne_nil]
  exact ⟨_, by simp; rfl⟩

/-- **The sentence speaks of this model.** -/
theorem classify_targeting :
    classify .unknown r.chars targetingRules = .ok (.plain "this-model" "this-model") := by
  obtain ⟨t, ht⟩ := r.exists_chars
  have hfind : (textStart ++ Pattern.text "this model"
      ++ .opt (Pattern.text "'s" <|> gap ++ Pattern.text "can")).find r.chars
      = some ⟨r.chars, t, []⟩ := by
    refine find_of_matchStart ?_
    rw [matchStart, matchAt, run_append, run_append, run_textStart, ht]
    refine run_text (by decide) (fun b => ?_) none
    exact run_alt_left (run_alt_left (run_text rfl (fun _ => rfl) b) _) _
  have hopening : folded r.chars = "this model".toList ++ folded ("'s".toList ++ t) := by
    rw [ht, folded_this]
  rw [classify_targetingRules_drop (n := 16) le_rfl hopening (by decide)]
  refine (classify_of_find_eq_none (find_count_eq_none ht _ _ _)).trans ?_
  exact classify_of_read rfl hfind rfl

/-! ## What it lets them do -/

theorem contains_equipped {w : String}
    (h : "can be equipped with".toList.isPrefixOf (folded w.toList) = true) :
    (Pattern.text w).Contains "can be equipped with".toList :=
  (spells_text w).contains.mono (List.isPrefixOf_iff_prefix.mp h).isInfix

theorem contains_and (p : Pattern) :
    (p ++ gap ++ Pattern.text "and" ++ gap).Contains " and ".toList :=
  (((spells_gap.endsWith.seq p).append (spells_text "and")).contains spells_gap.beginsWith).mono
    ⟨[], [], by decide⟩

/-- The verb is none of those before "can be replaced with" and no list follows it. -/
theorem classify_action_drop :
    classify .unknown r.chars actionRules = classify .unknown r.chars (actionRules.drop 4) := by
  have hfollowing : (textStart ++ passage 1 ++ gap ++ Pattern.text "can be replaced with "
      ++ oneOfFollowing 2).Contains _ :=
    ((spells_text "can be replaced with ").endsWith.seq _).contains
      ((((spells_text "one of the following").beginsWith.seq _).seq _).seq _)
  have hequipped : ∀ {p : Pattern}, p.Contains "can be equipped with".toList →
      p.find r.chars = none :=
    fun hp => find_eq_none_of_contains hp r.singleSpaced r.not_equipped
  have hnone : ∀ q ∈ actionRules.take 4, q.pattern.find r.chars = none := by
    simp only [actionRules, List.take, List.forall_mem_cons, List.not_mem_nil, false_implies,
      implies_true, and_true]
    refine ⟨find_eq_none_of_contains hfollowing r.singleSpaced r.not_one_of_following,
      hequipped ?_, hequipped ?_, hequipped ?_⟩
    · exact (contains_equipped (by decide)).left _
    · exact (((((contains_equipped (by decide)).left _).left _).left _).left _).left _
    · exact ((contains_equipped (by decide)).left _).left _
  conv_lhs => rw [← List.take_append_drop 4 actionRules]
  exact classify_append_of_find_eq_none hnone _

/-- What begins with the verb after a gap. -/
theorem beginsWith_verb : (gap ++ Pattern.text "can be replaced with").BeginsWith
    (' ' :: ("can".toList ++ [' '])) := by
  intro u hu hreads
  rw [(spells_gap.append (spells_text "can be replaced with")) u hu hreads]
  exact ⟨"be replaced with".toList, by decide⟩

/-- Characters of one line that the sentence holds. -/
theorem inLine_of_mem {c : Char} (h : c ∈ r.chars) : inLine c = true :=
  bne_iff_ne.mpr (r.ascii c h).2

/-- A stop is not read within a name. -/
theorem run_lineStop_eq_none {n : PlainName} {c : Char} {s : List Char} (hc : c ∈ n.text)
    (b : Option Char) (gs : List (Nat × List Char × List Char)) (k : Place → Option α) :
    lineStop.run ⟨b, c :: s, gs⟩ k = none := by
  have hne : ∀ d, d ≠ ' ' → d.isAlpha = false → c ≠ d := by
    rintro d hspace hd rfl
    exact PlainName.not_mem_text hspace hd hc
  have hstop : (char '.').run ⟨b, c :: s, gs⟩ k = none := by
    refine run_eq_none (fun u t hsplit hreads => ?_) k
    obtain ⟨d, hd, rfl⟩ := hreads
    obtain rfl : c = d := (List.cons.inj hsplit).1
    have hfold : foldChar c = '.' := beq_iff_eq.mp hd
    exact hne '.' (by decide) (by decide) (foldChar_eq_of_not_alpha (by decide) hfold)
  show (alt (char '.') lineEnd).run _ _ = none
  rw [run, hstop]
  dsimp only
  rw [run, if_neg]
  simpa using hne '\n' (by decide) (by decide)

theorem object_head : ∀ c ∈ r.object.head?, isAsciiDigit c = true := by
  obtain ⟨d, ds, hd⟩ := List.exists_cons_of_ne_nil r.count.digits_ne_nil
  unfold object
  rw [hd]
  exact of_mem_head (r.count.ascii d (by simp [hd])) _

theorem object_lead : ∀ c ∈ r.object.head?, (c == ':' || isBlank c) = false := by
  intro c hc
  have hdigit := r.object_head c hc
  have hcolon : c ≠ ':' := by
    rintro rfl
    exact absurd hdigit (by decide)
  rw [isBlank_of_isAsciiDigit hdigit, Bool.or_false]
  exact beq_eq_false_iff_ne.mpr hcolon

theorem object_ne_nil : r.object ≠ [] := by
  unfold object
  simp

/-- The rule for one item reads the subject, the count and the new name. -/
theorem exists_single : ∃ m, (lineStart ++ phrase 1 ++ gap ++ Pattern.text "can be replaced with"
      ++ gap ++ countAs 2 ++ gap ++ phrase 3 ++ lineStop).find r.chars = some m
    ∧ m.group 1 = r.subject ∧ m.group 2 = r.count.digits ∧ m.group 3 = r.new.text := by
  refine ⟨⟨r.chars, [], [(3, r.new.text ++ ['.'], ['.']), (2, r.object, ' ' :: (r.new.text ++ ['.'])),
      (1, r.chars, ' ' :: ("can be replaced with".toList ++ ' ' :: r.object))]⟩,
    find_of_matchStart ?_,
    Match.group_eq (r := ' ' :: ("can be replaced with".toList ++ ' ' :: r.object)) ?_,
    Match.group_eq (r := ' ' :: (r.new.text ++ ['.'])) rfl, Match.group_eq (r := ['.']) rfl⟩
  have hwords : ∀ w ∈ possessed r.items, IsWord w := fun w hw => r.isWord w (List.mem_append_left _ hw)
  have hline : ∀ c ∈ spaced (possessed r.items), inLine c = true := fun c hc =>
    r.inLine_of_mem (by rw [chars_eq, subject]; exact List.mem_append_left _ hc)
  have hno : ∀ w ∈ possessed r.items, folded w ≠ "can".toList := fun w hw heq =>
    r.no_other_can w (List.mem_append_left _ hw) (heq ▸ List.suffix_refl _)
  have hsingle := r.singleSpaced
  rewrite [chars_eq, subject] at hsingle
  have hnew : r.new.text ≠ [] := by
    obtain ⟨c, t, hhead, _⟩ := r.new.exists_head
    simp [hhead]
  have hnewLine : ∀ c ∈ r.new.text, inLine c = true := fun c hc =>
    r.inLine_of_mem (by rw [chars_eq]; unfold object; simp [hc])
  · rewrite [matchStart, matchAt, chars_eq, subject]
    simp only [run_append, run_lineStart]
    refine run_shortest_words (p := gap ++ Pattern.text "can be replaced with")
      (List.cons_ne_nil _ _) hwords hline beginsWith_verb (by decide) hno hsingle (fun b => ?_) none
    refine run_gap_text (c := 'c') rfl rfl (fun b => ?_) b
    -- behind the verb: the count, and the name up to the stop
    refine run_gap (fun c hc => isBlank_of_isAsciiDigit (r.object_head c hc)) (fun b => ?_) b
    refine run_countAs r.count (of_mem_head rfl _) (fun b => ?_) b
    refine run_gap (r.new.head_not_blank _) (fun b => ?_) b
    rw [phrase, run_group]
    refine run_shortest hnew hnewLine (fun x y hxy _ hy b => ?_) (fun b => ?_) b
    · obtain ⟨c, y, rfl⟩ := List.exists_cons_of_ne_nil hy
      exact run_lineStop_eq_none (n := r.new) (by simp [hxy]) b _ _
    · exact run_alt_left (run_char rfl (fun _ => rfl) b) _
  · rw [← chars_eq]
    rfl

/-- The sentence on several items, cut behind the first. -/
theorem chars_eq_cons {n : PlainName} {ns : List PlainName} (h : r.items = n :: ns) (hns : ns ≠ []) :
    r.chars = spaced (possessed [n]) ++ ' ' :: ("and".toList ++ ' ' :: (spaced (enumerated ns)
      ++ ' ' :: ("can be replaced with".toList ++ ' ' :: r.object))) := by
  have hsubject : spaced (possessed (n :: ns)) = spaced (possessed [n]) ++ ' ' ::
      ("and".toList ++ ' ' :: spaced (enumerated ns)) := by
    have hwords : possessed (n :: ns) = possessed [n] ++ "and".toList :: enumerated ns := by
      unfold possessed
      rewrite [enumerated_cons hns, enumerated_singleton]
      simp only [List.cons_append]
    have hpossessed : possessed [n] ≠ [] := List.cons_ne_nil _ _
    rewrite [hwords, spaced_append hpossessed (List.cons_ne_nil _ _),
      spaced_cons (enumerated_ne_nil hns)]
    rfl
  rewrite [chars_eq, subject, h, hsubject]
  simp only [List.append_assoc, List.cons_append]

/-- The rule for several items reads the first, the others and the choice. -/
theorem exists_several {n : PlainName} {ns : List PlainName} (h : r.items = n :: ns) (hns : ns ≠ []) :
    ∃ m, (textStart ++ passage 1 ++ gap ++ Pattern.text "and" ++ gap ++ passage 2 ++ gap
        ++ Pattern.text "can be replaced with" ++ listLead ++ .group 3 (longest anyChar)
        ++ textEnd).find r.chars = some m
      ∧ m.group 1 = spaced (possessed [n]) ∧ m.group 2 = spaced (enumerated ns)
      ∧ m.group 3 = r.object := by
  have hitem : IsItemName n := r.isItemName (by simp [h])
  have hand : ∀ w ∈ possessed [n], folded w ≠ "and".toList := by
    simp only [possessed, enumerated_singleton, List.forall_mem_cons]
    exact ⟨by decide, by decide, hitem.no_and⟩
  have hcan : ∀ w ∈ enumerated ns, folded w ≠ "can".toList := by
    intro w hw heq
    have hmem : w ∈ possessed r.items := by
      rw [possessed, h, enumerated_cons hns]
      simp [hw]
    exact r.no_other_can w (List.mem_append_left _ hmem) (heq ▸ List.suffix_refl _)
  have hsingle := r.singleSpaced
  rewrite [r.chars_eq_cons h hns] at hsingle
  have hrest : SingleSpaced (spaced (enumerated ns)
      ++ ' ' :: ("can be replaced with".toList ++ ' ' :: r.object)) := by
    refine hsingle.piece ⟨spaced (possessed [n]) ++ ' ' :: ("and".toList ++ [' ']), [], ?_⟩
    simp only [List.append_assoc, List.cons_append, List.nil_append, List.append_nil]
  have hhead : ∀ c ∈ (spaced (enumerated ns)
      ++ ' ' :: ("can be replaced with".toList ++ ' ' :: r.object)).head?, isBlank c = false :=
    spaced_head_not_blank (enumerated_ne_nil hns) (fun _ hw => isWord_of_mem_enumerated hw) _
  refine ⟨⟨r.chars, [], [(3, r.object, []),
      (2, spaced (enumerated ns) ++ ' ' :: ("can be replaced with".toList ++ ' ' :: r.object),
        ' ' :: ("can be replaced with".toList ++ ' ' :: r.object)),
      (1, r.chars, ' ' :: ("and".toList ++ ' ' :: (spaced (enumerated ns)
        ++ ' ' :: ("can be replaced with".toList ++ ' ' :: r.object))))]⟩,
    find_of_matchStart ?_,
    Match.group_eq (r := ' ' :: ("and".toList ++ ' ' :: (spaced (enumerated ns)
        ++ ' ' :: ("can be replaced with".toList ++ ' ' :: r.object)))) ?_,
    Match.group_eq (r := ' ' :: ("can be replaced with".toList ++ ' ' :: r.object)) rfl,
    Match.group_eq (r := []) ?_⟩
  · rewrite [matchStart, matchAt, r.chars_eq_cons h hns]
    simp only [run_append, run_textStart]
    -- the first lazy run stops at the first "and", the second at the verb
    refine run_shortest_words (p := conjunction) (List.cons_ne_nil _ _) isWord_of_mem_possessed
      (fun _ _ => rfl) spells_conjunction.beginsWith (by decide) hand hsingle (fun b => ?_) none
    refine run_conjunction hhead (fun b => ?_) b
    refine run_shortest_words (p := gap ++ Pattern.text "can be replaced with")
      (enumerated_ne_nil hns) (fun w hw => isWord_of_mem_enumerated hw)
      (fun _ _ => rfl) beginsWith_verb (by decide) hcan hrest (fun b => ?_) b
    refine run_gap_text (c := 'c') rfl rfl (fun b => ?_) b
    -- what is left is the choice
    refine run_many_eager (u := [' ']) (r := r.object) (fun c hc => ?_) r.object_lead
      (fun b => ?_) b
    · rw [List.mem_singleton.mp hc]
      rfl
    · exact run_longest_textEnd r.object_ne_nil (fun _ => rfl) b
  · rw [← r.chars_eq_cons h hns]
    rfl
  · rw [List.append_nil]
    rfl

/-- What the sentence lets its models do. -/
def action : Action where
  kind := if r.items.length = 1 then "replace-with-single" else "replace-multiple-with"
  type := .replace
  removes := r.items.map (itemOf · 1)
  adds := [choiceOf r.new r.count.value]
  isChoiceList := false
  maxSelections := none

theorem cleanName_new : cleanName r.new.text = r.new.text := by
  have h := cleanName_text r.new fun c (hc : c ∈ []) => absurd hc List.not_mem_nil
  rwa [List.append_nil] at h

theorem read_single {m : Pattern.Match} {n : PlainName} (hitems : r.items = [n])
    (hsubject : m.group 1 = r.subject) (hcount : m.group 2 = r.count.digits)
    (hnew : m.group 3 = r.new.text) :
    replaceWithSingle "replace-with-single" m r.chars
      = if r.count.digits.length ≤ mostDigits then .ok r.action
        else .error (.longNumeral ⟨r.count.digits.length⟩) := by
  have hremoves : readItems r.subject = .ok (r.items.map (itemOf · 1)) :=
    readItems_possessed r.items_ne_nil fun _ hn => r.isItemName hn
  have hkind : r.items.length = 1 := by
    rw [hitems]
    rfl
  rw [replaceWithSingle, singleChoice, hsubject, hcount, hnew, r.cleanName_new, hremoves,
    readCount_digits, action, if_pos hkind]
  split_ifs <;> rfl

theorem readChoices_object : readChoices r.object
    = if r.count.digits.length ≤ mostDigits then .ok [choiceOf r.new r.count.value]
      else .error (.longNumeral ⟨r.count.digits.length⟩) := by
  rw [object_eq]
  exact r.offered.readChoices_alone

theorem read_several {m : Pattern.Match} {n : PlainName} {ns : List PlainName}
    (hitems : r.items = n :: ns) (hns : ns ≠ []) (hfirst : m.group 1 = spaced (possessed [n]))
    (hothers : m.group 2 = spaced (enumerated ns)) (hchoice : m.group 3 = r.object) :
    replaceSeveral "replace-multiple-with" m r.chars
      = if r.count.digits.length ≤ mostDigits then .ok r.action
        else .error (.longNumeral ⟨r.count.digits.length⟩) := by
  have hitem : ∀ m ∈ n :: ns, IsItemName m := fun m hm => r.isItemName (hitems ▸ hm)
  have hremoves : readItems (spaced (possessed [n])) = .ok [itemOf n 1] :=
    readItems_possessed (List.cons_ne_nil n []) fun m hm =>
      hitem m (List.mem_singleton.mp hm ▸ List.mem_cons_self)
  have hothersRemoved : readItems (spaced (enumerated ns)) = .ok (ns.map (itemOf · 1)) :=
    readItems_enumerated hns fun m hm => hitem m (List.mem_cons_of_mem n hm)
  have hadds := r.readChoices_object
  have hkind : r.items.length ≠ 1 := by
    have hpos := List.length_pos_of_ne_nil hns
    rw [hitems, List.length_cons]
    omega
  rw [replaceSeveral, hfirst, hothers, hchoice, hadds, hremoves, hothersRemoved, action,
    if_neg hkind, hitems]
  split_ifs <;> rfl

/-- **The sentence removes the items, one of each, and adds the counted one**; a count too long to be
    read is an error. -/
theorem classify_action : classify .unknown r.chars actionRules
    = if r.count.digits.length ≤ mostDigits then .ok r.action
      else .error ⟨r.count.digits.length⟩ := by
  rw [classify_action_drop]
  obtain ⟨n, ns, hitems⟩ := List.exists_cons_of_ne_nil r.items_ne_nil
  by_cases hns : ns = []
  · subst hns
    -- the two rules before the one for a single item need the word "and"
    have hand : ∀ {p : Pattern}, p.Contains " and ".toList → p.find r.chars = none :=
      fun hp => find_eq_none_of_contains hp r.singleSpaced (r.not_and hitems)
    refine (classify_of_find_eq_none (hand ?_)).trans ?_
    · exact ((((((contains_and _).left _).left _).left _).left _).left _).left _
    refine (classify_of_find_eq_none (hand ?_)).trans ?_
    · exact ((((contains_and _).left _).left _).left _).left _
    obtain ⟨m, hfind, hsubject, hcount, hnew⟩ := r.exists_single
    have hread := r.read_single hitems hsubject hcount hnew
    split_ifs at hread ⊢ with hlong
    · exact classify_of_read r.occurs_verb hfind hread
    · exact classify_of_long r.occurs_verb hfind hread
  · obtain ⟨m, hfind, hfirst, hothers, hchoice⟩ := r.exists_several hitems hns
    have hread := r.read_several hitems hns hfirst hothers hchoice
    split_ifs at hread ⊢ with hlong
    · exact classify_of_read r.occurs_verb hfind hread
    · exact classify_of_long r.occurs_verb hfind hread

end Replacement

/-! ## Restrictions of a sentence -/

/-- In a text of few digits the restrictions can be read. -/
theorem exists_readConstraints {s : List Char} (hdigits : s.countP isAsciiDigit ≤ mostDigits) :
    ∃ c, readConstraints s = .ok c := by
  cases h : readConstraints s with
  | ok c => exact ⟨c, rfl⟩
  | error e =>
    obtain ⟨hlong, ds, hlength, hds, hinfix⟩ := failsOnly_readConstraints s e h
    have hcount := hinfix.sublist.countP_le (p := isAsciiDigit)
    rw [List.countP_eq_length.mpr hds] at hcount
    omega

namespace Replacement

variable (r : Replacement)

/-- The digits of the sentence are those of its count. -/
theorem countP_chars : r.chars.countP isAsciiDigit = r.count.digits.length := by
  have hletters : ∀ w : List Char, (∀ c ∈ w, c.isAlpha = true) → ∀ c ∈ w, ¬ isAsciiDigit c = true :=
    fun w hw c hc => by simp [isAsciiDigit_of_isAlpha (hw c hc)]
  have hpossessed : ∀ w ∈ possessed r.items, ∀ c ∈ w, ¬ isAsciiDigit c = true := by
    have hfixed : ∀ w : List Char, w.all (fun c => !isAsciiDigit c) = true →
        ∀ c ∈ w, ¬ isAsciiDigit c = true := fun w hw => by simpa using hw
    simp only [possessed, List.forall_mem_cons]
    exact ⟨hfixed _ (by decide), hfixed _ (by decide),
      fun w hw => hletters w (letters_of_mem_enumerated hw)⟩
  have hspaced : ∀ ws : List (List Char), (∀ w ∈ ws, ∀ c ∈ w, ¬ isAsciiDigit c = true) →
      (spaced ws).countP isAsciiDigit = 0 := by
    intro ws hws
    rw [List.countP_eq_zero]
    intro c hc
    rcases mem_spaced hc with rfl | ⟨w, hw, hc⟩
    · decide
    · exact hws w hw c hc
  have hsubject : r.subject.countP isAsciiDigit = 0 := hspaced _ hpossessed
  have hnew : r.new.text.countP isAsciiDigit = 0 :=
    hspaced _ fun w hw => hletters w (r.new.letters w hw)
  have hcount : r.count.digits.countP isAsciiDigit = r.count.digits.length :=
    List.countP_eq_length.mpr r.count.ascii
  have hverb : "can be replaced with".toList.countP isAsciiDigit = 0 := by decide
  have hspace : isAsciiDigit ' ' = false := by decide
  have hstop : isAsciiDigit '.' = false := by decide
  rewrite [chars_eq]
  unfold object
  simp only [List.countP_append, List.countP_cons, List.countP_nil, hsubject, hnew, hcount, hverb,
    hspace, hstop]
  simp

theorem sentence_text : sentence r.text.toList = r.chars := by
  have hquotes : plainQuotes r.chars = r.chars :=
    plainQuotes_of_ascii fun c hc => (r.ascii c hc).1
  obtain ⟨t, ht⟩ := r.exists_chars
  have hend : r.chars = spaced (possessed r.items ++ "can".toList :: r.objectWords) ++ ['.'] :=
    r.chars_eq_spaced
  rw [sentence, text, String.toList_ofList, hquotes]
  exact trim_eq_self (c := 'T') (d := '.') rfl rfl ht hend

/-! ## The option that is read -/

theorem parse_text_of_short (h : r.count.digits.length ≤ mostDigits) (line : Int) :
    ∃ c, parse r.text line = .ok {
      line := line
      rawText := r.text
      wargearParsed := true
      targeting := .plain "this-model" "this-model"
      action := r.action
      constraints := c } := by
  obtain ⟨c, hc⟩ := exists_readConstraints (r.countP_chars.trans_le h)
  refine ⟨c, ?_⟩
  rw [parse, r.sentence_text, r.classify_targeting, r.classify_action, if_pos h, hc]
  rfl

theorem parse_text_of_long (h : mostDigits < r.count.digits.length) (line : Int) :
    parse r.text line = .error ⟨r.count.digits.length⟩ := by
  rw [parse, r.sentence_text, r.classify_targeting, r.classify_action, if_neg (by omega)]
  rfl

end Replacement

/-- **A replacement sentence is read as what it says**, if its count can be read at all: it speaks of
    this model, takes the items away, one of each and in order, and offers the new one, so many of
    it, as the only choice.  A count of more digits than are read makes the sentence an error. -/
theorem parse_replacement (r : Replacement) (line : Int) :
    if r.count.digits.length ≤ mostDigits then
      ∃ o, parse r.text line = .ok o
        ∧ o.targeting.kind = "this-model" ∧ o.targeting.type = "this-model"
        ∧ o.action.type = .replace
        ∧ o.action.kind
          = (if r.items.length = 1 then "replace-with-single" else "replace-multiple-with")
        ∧ o.action.removes = r.items.map (fun n => ⟨String.ofList n.text, 1⟩)
        ∧ o.action.adds = [⟨[⟨String.ofList r.new.text, r.count.value⟩], false⟩]
        ∧ o.wargearParsed = true ∧ o.isActionable = true
    else parse r.text line = .error ⟨r.count.digits.length⟩ := by
  by_cases h : r.count.digits.length ≤ mostDigits
  · rw [if_pos h]
    obtain ⟨c, hparse⟩ := r.parse_text_of_short h line
    exact ⟨_, hparse, rfl, rfl, rfl, rfl, rfl, rfl, rfl, rfl⟩
  · rw [if_neg h]
    exact r.parse_text_of_long (Nat.lt_of_not_le h) line

/-- A bolter gives way to axes. -/
def boltForAxes (count : Numeral) : Replacement where
  items := [oneWord "bolter" (by decide)]
  count := count
  new := oneWord "axe" (by decide)
  items_ne_nil := List.cons_ne_nil _ _
  no_and := by
    simp only [List.forall_mem_cons, oneWord]
    decide
  no_can := by
    simp only [List.forall_mem_cons, oneWord]
    decide
  uncounted := by
    simp only [List.forall_mem_cons, oneWord]
    decide

theorem parse_bolter_for_axes :
    ∃ o, parse "This model's bolter can be replaced with 2 axe." 1 = .ok o
      ∧ o.action.removes = [⟨"bolter", 1⟩] ∧ o.action.adds = [⟨[⟨"axe", 2⟩], false⟩]
      ∧ o.isActionable = true := by
  have hchars : (boltForAxes two).chars
      = "This model's bolter can be replaced with 2 axe.".toList := by decide
  have htext : (boltForAxes two).text = "This model's bolter can be replaced with 2 axe." := by
    rw [Replacement.text, hchars, String.ofList_toList]
  have hread := parse_replacement (boltForAxes two) 1
  rw [if_pos (by decide), htext] at hread
  obtain ⟨o, hparse, _, _, _, _, hremoves, hadds, _, hactionable⟩ := hread
  exact ⟨o, hparse, hremoves, hadds, hactionable⟩

theorem not_parse_padded : parse (boltForAxes paddedOne).text 1 = .error ⟨4301⟩ := by
  have hlong : mostDigits < (boltForAxes paddedOne).count.digits.length := by
    rw [boltForAxes, length_paddedOne]
    decide
  rw [Replacement.parse_text_of_long _ hlong, boltForAxes, length_paddedOne]

end Muster.Wargear
