/-
  Numerals too long to be read: the only reason why an option line is refused.

  1. **Program.**  Counts are read in many places of a line, and a numeral of more digits than are
     read is the one error that `parse` does not recover from.

  2. **Specification.**  `HoldsLong s e`: the text `s` has more digits in a row than are read, and
     the error tells how many.

  3. **The crux (`DigitsWithin`)**: on its way to a count a text is trimmed, cut into pieces and
     freed from markup, but no step brings digits together that were apart.  "Every run of digits of
     the one text stands in the other" is a preorder, so each step is one lemma, and each reader one
     more: it fails with nothing but a numeral of the text in which its own text lies.
-/
import Mathlib
import Muster.Proofs.Except
import Muster.Proofs.Text.LetterCase
import Muster.Proofs.Text.Pattern
import Muster.Proofs.Wargear.Item
import Muster.Wargear.Option

namespace Muster.Wargear

open Text Pattern

/-! ## Digits of a text -/

/-- Every run of digits of one text stands in another. -/
def DigitsWithin (t s : List Char) : Prop :=
  ∀ ds : List Char, ds ≠ [] → (∀ c ∈ ds, isAsciiDigit c = true) → ds <:+: t → ds <:+: s

/-- A text has more digits in a row than are read, as many as an error tells. -/
def HoldsLong (s : List Char) (e : LongNumeral) : Prop :=
  mostDigits < e.digits ∧
    ∃ ds, ds.length = e.digits ∧ (∀ c ∈ ds, isAsciiDigit c = true) ∧ ds <:+: s

theorem digitsWithin_refl (s : List Char) : DigitsWithin s s := fun _ _ _ h => h

/-- The errors of a count that a text accounts for: all, but a long numeral must be its own. -/
def Accounts (s : List Char) : UnreadCount → Prop
  | .noCount _ => True
  | .longNumeral e => HoldsLong s e

section Digits

variable {s t u : List Char}

theorem digitsWithin_of_piece (h : t <:+: s) : DigitsWithin t s := fun _ _ _ ht => ht.trans h

theorem DigitsWithin.trans (hu : DigitsWithin u t) (ht : DigitsWithin t s) : DigitsWithin u s :=
  fun ds hne hds h => ht ds hne hds (hu ds hne hds h)

theorem DigitsWithin.piece (ht : DigitsWithin t s) (hu : u <:+: t) : DigitsWithin u s :=
  (digitsWithin_of_piece hu).trans ht

theorem DigitsWithin.trim (ht : DigitsWithin t s) : DigitsWithin (trim t) s :=
  ht.piece (trim_isInfix t)

theorem DigitsWithin.holdsLong (ht : DigitsWithin t s) {e : LongNumeral} (h : HoldsLong t e) :
    HoldsLong s e := by
  obtain ⟨hlong, ds, hlength, hds, hinfix⟩ := h
  refine ⟨hlong, ds, hlength, hds, ht ds ?_ hds hinfix⟩
  rintro rfl
  rw [← hlength] at hlong
  exact Nat.not_lt_zero _ hlong

/-- Other quotes bring no digits. -/
theorem digitsWithin_plainQuotes (s : List Char) : DigitsWithin (plainQuotes s) s := by
  rintro ds - hds ⟨a, b, hsplit⟩
  obtain ⟨x, y, rfl, hx, -⟩ := List.map_eq_append_iff.mp hsplit.symm
  obtain ⟨a', d, rfl, -, hd⟩ := List.map_eq_append_iff.mp hx
  have hsame : d.map plainQuote = d := by
    refine (List.map_congr_left fun c hc => ?_).trans (List.map_id d)
    have hdigit := hds _ (hd ▸ List.mem_map_of_mem hc)
    rw [plainQuote] at hdigit ⊢
    split_ifs at hdigit ⊢
    · cases hdigit
    · cases hdigit
    · rfl
  rw [← hd, hsame]
  exact ⟨a', y, rfl⟩

/-- Where a tag stood there is a space, so no digits are joined. -/
theorem prefix_replaceTagsFrom : ∀ {ds s : List Char}, (∀ c ∈ ds, isAsciiDigit c = true) →
    ds <+: replaceTagsFrom [' '] false s → ds <+: s
  | [], _, _, _ => List.nil_prefix
  | d :: ds, [], _, h => absurd (List.prefix_nil.mp h) (List.cons_ne_nil d ds)
  | d :: ds, c :: s, hds, h => by
    rw [List.forall_mem_cons] at hds
    rw [replaceTagsFrom] at h
    split_ifs at h
    · obtain ⟨rfl, -⟩ := List.cons_prefix_cons.mp h
      cases hds.1
    · obtain ⟨rfl, hrest⟩ := List.cons_prefix_cons.mp h
      exact List.cons_prefix_cons.mpr ⟨rfl, prefix_replaceTagsFrom hds.2 hrest⟩

theorem digitsWithin_replaceTagsFrom : ∀ (inTag : Bool) (s : List Char),
    DigitsWithin (replaceTagsFrom [' '] inTag s) s
  | true, [] => digitsWithin_refl []
  | false, [] => digitsWithin_refl []
  | true, c :: s => by
    rw [replaceTagsFrom]
    exact (digitsWithin_replaceTagsFrom _ s).trans
      (digitsWithin_of_piece (List.suffix_cons c s).isInfix)
  | false, c :: s => by
    intro ds hne hds h
    have hstart : ds <+: replaceTagsFrom [' '] false (c :: s) → ds <:+: c :: s := fun h =>
      (prefix_replaceTagsFrom hds h).isInfix
    have hlater : ∀ inTag, ds <:+: replaceTagsFrom [' '] inTag s → ds <:+: c :: s := fun inTag h =>
      (digitsWithin_replaceTagsFrom inTag s ds hne hds h).trans (List.suffix_cons c s).isInfix
    rw [replaceTagsFrom] at h hstart
    split_ifs at h hstart
    · exact (List.infix_cons_iff.mp h).elim hstart (hlater true)
    · exact (List.infix_cons_iff.mp h).elim hstart (hlater false)

theorem digitsWithin_replaceTags (s : List Char) : DigitsWithin (replaceTags [' '] s) s :=
  digitsWithin_replaceTagsFrom false s

theorem DigitsWithin.dropPossessives (h : DigitsWithin t s) :
    DigitsWithin (dropPossessives t) s := by
  have hdrop : ∀ (ps : List Pattern) (u : List Char),
      ps.foldl (fun t p => p.dropStart t) u <:+ u := by
    intro ps
    induction ps with
    | nil => exact fun u => List.suffix_refl u
    | cons p ps ih => exact fun u => (ih _).trans (dropStart_suffix p u)
  exact h.piece (hdrop possessives t).isInfix

end Digits

/-! ## Groups of a match -/

/-- Every run of digits in a group of a match stands in a text. -/
def GroupsWithin (m : Match) (s : List Char) : Prop := ∀ n, DigitsWithin (m.group n) s

theorem groupsWithin_of_found {p : Pattern} {t s : List Char} {m : Match} (h : p.Found t m)
    (ht : DigitsWithin t s) : GroupsWithin m s := fun n => ht.piece (h.group_piece n)

/-! ## Counts -/

theorem lower_eq_self_of_digits {t : List Char} (h : ∀ c ∈ lower t, isAsciiDigit c = true) :
    lower t = t := by
  have hascii : ∀ c ∈ t, c.toNat < 0x80 := ascii_of_lowerAfter [] fun d hd => by
    have hdigit := h d hd
    refine ⟨toNat_lt_of_isAsciiDigit hdigit, ?_, ?_⟩
    all_goals
      rintro rfl
      cases hdigit
  have hlower := lower_of_ascii hascii
  rw [hlower] at h ⊢
  refine (List.map_congr_left fun c hc => ?_).trans (List.map_id t)
  have hdigit : isAsciiDigit (foldChar c) = true := h _ (List.mem_map_of_mem hc)
  refine (foldChar_eq_of_not_alpha (d := foldChar c) ?_ rfl).symm
  cases halpha : (foldChar c).isAlpha with
  | false => rfl
  | true => rw [isAsciiDigit_of_isAlpha halpha] at hdigit; cases hdigit

section Readers

variable {s t : List Char} {m : Match}

/-- **A count fails with no numeral but its own.** -/
theorem failsOnly_readCount (ht : DigitsWithin t s) : FailsOnly (Accounts s) (readCount t) := by
  intro e h
  rw [readCount] at h
  split at h
  · cases h
  · split_ifs at h with hdigits
    · rw [readNumeral] at h
      split_ifs at h with hlong
      · cases h
        rw [Bool.and_eq_true, List.all_eq_true] at hdigits
        refine ht.trim.holdsLong ⟨hlong, lower (trim t), rfl, hdigits.2, ?_⟩
        rw [lower_eq_self_of_digits hdigits.2]
      · cases h
    · cases h
      trivial

theorem failsOnly_readCount? (ht : DigitsWithin t s) : FailsOnly (HoldsLong s) (readCount? t) := by
  intro e h
  rw [readCount?] at h
  cases hread : readCount t with
  | ok n => rw [hread] at h; cases h
  | error d =>
    have haccounts := failsOnly_readCount ht d hread
    rw [hread] at h
    cases d with
    | noCount token => cases h
    | longNumeral d => cases h; exact haccounts

/-! ## Items and choices -/

theorem failsOnly_readItem (ht : DigitsWithin t s) : FailsOnly (Accounts s) (readItem t) := by
  rw [readItem]
  cases hm : perhapsCounted.matchStart t with
  | none => exact failsOnly_ok none
  | some m =>
    have hgroups := groupsWithin_of_found (found_of_matchAt hm) ht
    dsimp only
    split_ifs
    · exact failsOnly_ok none
    · split
      · exact failsOnly_ok _
      · exact (failsOnly_readCount (hgroups 1)).bind fun _ => failsOnly_ok _

theorem failsOnly_readItems (ht : DigitsWithin t s) : FailsOnly (Accounts s) (readItems t) := by
  rw [readItems]
  refine (failsOnly_mapM fun part hpart => ?_).bind fun _ => failsOnly_ok _
  have hwithin : DigitsWithin part s := ht.trim.dropPossessives.piece (infix_of_mem_split hpart)
  exact failsOnly_readItem hwithin.trim.dropPossessives

theorem failsOnly_packageItem (count : Int) (index : Nat) (ht : DigitsWithin t s) :
    FailsOnly (Accounts s) (packageItem count index t) := by
  rw [packageItem]
  cases hm : countedText.matchStart t with
  | none =>
    dsimp only
    split_ifs <;> exact failsOnly_ok _
  | some m =>
    have hgroups := groupsWithin_of_found (found_of_matchAt hm) ht
    exact (failsOnly_readCount (hgroups 1)).bind fun _ => failsOnly_ok _

theorem failsOnly_readChoice (count : Int) (ht : DigitsWithin t s) :
    FailsOnly (Accounts s) (readChoice count t) := by
  rw [readChoice]
  split_ifs
  · refine (failsOnly_mapM fun p hp => ?_).bind fun _ => failsOnly_ok _
    have hpart : p.1 ∈ conjunction.split t := (List.mem_zipIdx' hp).2 ▸ List.getElem_mem _
    exact failsOnly_packageItem count p.2 (ht.piece (infix_of_mem_split hpart)).trim
  · exact failsOnly_ok _

theorem failsOnly_readListEntries (ht : DigitsWithin t s) :
    FailsOnly (Accounts s) (readListEntries t) := by
  rw [readListEntries]
  refine (failsOnly_mapM fun entry hentry => ?_).bind fun _ => failsOnly_ok _
  have htext := (groupsWithin_of_found (found_of_mem_findAll hentry) ht 1).trim
  cases hm : countedText.matchStart (trim (entry.group 1)) with
  | none => exact failsOnly_ok none
  | some m =>
    have hgroups := groupsWithin_of_found (found_of_matchAt hm) htext
    exact (failsOnly_readCount (hgroups 1)).bind fun n => failsOnly_readChoice n (hgroups 2).trim

theorem failsOnly_readNumberedEntries (ht : DigitsWithin t s) :
    FailsOnly (Accounts s) (readNumberedEntries t) := by
  rw [readNumberedEntries]
  refine (failsOnly_mapM fun entry hentry => ?_).bind fun _ => failsOnly_ok _
  have hgroups := groupsWithin_of_found (found_of_mem_findAll hentry) ht
  exact (failsOnly_readCount (hgroups 1)).bind fun n => failsOnly_readChoice n (hgroups 2).trim

theorem failsOnly_readSeparatedEntries (ht : DigitsWithin t s) :
    FailsOnly (Accounts s) (readSeparatedEntries t) := by
  rw [readSeparatedEntries]
  refine (failsOnly_mapM fun part hpart => ?_).bind fun _ => failsOnly_ok _
  exact failsOnly_readItem (ht.piece (infix_of_mem_splitWhere hpart)).trim

theorem failsOnly_readPlainChoices (ht : DigitsWithin t s) :
    FailsOnly (Accounts s) (readPlainChoices t) := by
  rw [readPlainChoices]
  refine (failsOnly_readNumberedEntries ht).bind fun numbered => ?_
  split_ifs
  · exact failsOnly_readSeparatedEntries ht
  · exact failsOnly_ok numbered

/-- **A list of choices fails with no numeral but one of its own.** -/
theorem failsOnly_readChoices (ht : DigitsWithin t s) :
    FailsOnly (Accounts s) (readChoices t) := by
  rw [readChoices]
  split_ifs
  · exact failsOnly_ok []
  · refine (failsOnly_readListEntries ht.trim).bind fun listed => ?_
    split_ifs
    · have hplain := (digitsWithin_replaceTags (Text.trim t)).trans ht.trim
      exact failsOnly_readPlainChoices hplain.trim
    · exact failsOnly_ok listed
  · exact failsOnly_readPlainChoices ht.trim

theorem digitsWithin_listText (s : List Char) : DigitsWithin (listText s) s := by
  rw [listText]
  split_ifs
  · have hrest : (s.dropWhile (· != ':')).drop 1 <:+: s :=
      ((List.drop_suffix 1 _).trans (List.dropWhile_suffix _)).isInfix
    exact (digitsWithin_of_piece hrest).trim
  · cases hm : followingText.find s with
    | none => exact digitsWithin_of_piece List.nil_infix
    | some m => exact digitsWithin_of_piece ((found_of_find hm).group_piece 1)

/-! ## Actions -/

theorem digitsWithin_listedIn (hm : GroupsWithin m s) (n : Nat) :
    DigitsWithin (listedIn m n s) s := by
  rw [listedIn]
  split_ifs
  · exact digitsWithin_listText s
  · exact hm n

theorem failsOnly_singleChoice (hm : GroupsWithin m s) (count name : Nat) :
    FailsOnly (Accounts s) (singleChoice m count name) :=
  (failsOnly_readCount (hm count)).bind fun _ => failsOnly_ok _

variable (kind : String)

theorem failsOnly_replaceWithChoice (hm : GroupsWithin m s) :
    FailsOnly (Accounts s) (replaceWithChoice kind m s) :=
  (failsOnly_readItems (hm 1)).bind fun _ =>
    (failsOnly_readChoices (digitsWithin_listedIn hm 2)).bind fun _ => failsOnly_ok _

theorem failsOnly_replaceSeveral (hm : GroupsWithin m s) :
    FailsOnly (Accounts s) (replaceSeveral kind m s) :=
  (failsOnly_readChoices (hm 3)).bind fun _ => (failsOnly_readItems (hm 1)).bind fun _ =>
    (failsOnly_readItems (hm 2)).bind fun _ => failsOnly_ok _

theorem failsOnly_replaceWithPackage (hm : GroupsWithin m s) :
    FailsOnly (Accounts s) (replaceWithPackage kind m s) :=
  (failsOnly_readCount (hm 2)).bind fun _ => (failsOnly_readCount (hm 4)).bind fun _ =>
    (failsOnly_readItems (hm 1)).bind fun _ => failsOnly_ok _

theorem failsOnly_replaceWithSingle (hm : GroupsWithin m s) :
    FailsOnly (Accounts s) (replaceWithSingle kind m s) :=
  (failsOnly_readItems (hm 1)).bind fun _ =>
    (failsOnly_singleChoice hm 2 3).bind fun _ => failsOnly_ok _

theorem failsOnly_addSingle (hm : GroupsWithin m s) :
    FailsOnly (Accounts s) (addSingle kind m s) :=
  (failsOnly_singleChoice hm 1 2).bind fun _ => failsOnly_ok _

theorem failsOnly_addChoice (hm : GroupsWithin m s) :
    FailsOnly (Accounts s) (addChoice kind m s) :=
  (failsOnly_readChoices (digitsWithin_listedIn hm 1)).bind fun _ => failsOnly_ok _

theorem failsOnly_addUpTo (hm : GroupsWithin m s) : FailsOnly (Accounts s) (addUpTo kind m s) :=
  (failsOnly_readChoices (digitsWithin_listedIn hm 2)).bind fun _ =>
    (failsOnly_readCount (hm 1)).bind fun _ => failsOnly_ok _

theorem failsOnly_addListed (m : Match) (s : List Char) :
    FailsOnly (Accounts s) (addListed kind m s) :=
  (failsOnly_readChoices (digitsWithin_listText s)).bind fun _ => failsOnly_ok _

theorem failsOnly_haveReplaced (hm : GroupsWithin m s) :
    FailsOnly (Accounts s) (haveReplaced kind m s) := by
  refine (failsOnly_readItems (hm 1)).bind fun _ => ?_
  split_ifs
  · exact (failsOnly_readChoices (digitsWithin_listText s)).bind fun _ => failsOnly_ok _
  · exact (failsOnly_readChoices (hm 2)).bind fun _ => failsOnly_ok _

/-- Every rule for actions fails with no numeral but one of its sentence. -/
theorem failsOnly_actionRules (hm : GroupsWithin m s) :
    ∀ r ∈ actionRules, FailsOnly (Accounts s) (r.read m s) := by
  simp only [actionRules, List.forall_mem_cons, List.not_mem_nil, false_implies, implies_true,
    and_true]
  exact ⟨failsOnly_replaceWithChoice _ hm, failsOnly_addChoice _ hm, failsOnly_addUpTo _ hm,
    failsOnly_addListed _ m s, failsOnly_replaceSeveral _ hm, failsOnly_replaceWithPackage _ hm,
    failsOnly_replaceWithSingle _ hm, failsOnly_addSingle _ hm, failsOnly_addSingle _ hm,
    failsOnly_haveReplaced _ hm, failsOnly_addSingle _ hm, failsOnly_replaceWithChoice _ hm,
    failsOnly_replaceWithSingle _ hm, failsOnly_replaceWithChoice _ hm,
    failsOnly_replaceWithSingle _ hm⟩

/-! ## Targetings -/

theorem failsOnly_groupCount (hm : GroupsWithin m s) (n : Nat) :
    FailsOnly (Accounts s) (groupCount m n) := (failsOnly_readCount (hm n)).map _

/-- So does every rule for targetings. -/
theorem failsOnly_targetingRules (hm : GroupsWithin m s) :
    ∀ r ∈ targetingRules, FailsOnly (Accounts s) (r.read m s) := by
  simp only [targetingRules, List.forall_mem_cons, List.not_mem_nil, false_implies, implies_true,
    and_true]
  repeat' apply And.intro
  -- the counts of a targeting are read from groups, one after the other
  all_goals repeat first
    | exact failsOnly_ok _
    | refine (failsOnly_groupCount hm _).bind fun _ => ?_

/-! ## Lines -/

/-- A classification fails with no numeral but one of its sentence, if its rules do. -/
theorem failsOnly_classify {α : Type} {fallback : α} : ∀ {rs : List (Rule α)},
    (∀ m, GroupsWithin m s → ∀ r ∈ rs, FailsOnly (Accounts s) (r.read m s)) →
    FailsOnly (HoldsLong s) (classify fallback s rs)
  | [], _ => failsOnly_ok fallback
  | r :: rs, h => by
    have hrest : FailsOnly (HoldsLong s) (classify fallback s rs) :=
      failsOnly_classify fun m hm q hq => h m hm q (List.mem_cons_of_mem r hq)
    have hrule : FailsOnly (Accounts s) (r.apply s) := by
      rw [Rule.apply]
      split_ifs
      · cases hm : r.pattern.find s with
        | none => exact failsOnly_ok none
        | some m =>
          have hgroups := groupsWithin_of_found (found_of_find hm) (digitsWithin_refl s)
          exact (h m hgroups r List.mem_cons_self).map some
      · exact failsOnly_ok none
    rw [classify]
    cases happly : r.apply s with
    | ok found =>
      cases found with
      | none => exact hrest
      | some a => exact failsOnly_ok a
    | error d =>
      cases d with
      | noCount token => exact failsOnly_ok fallback
      | longNumeral e =>
        intro e' he
        cases he
        exact hrule _ happly

theorem failsOnly_readConstraints (s : List Char) :
    FailsOnly (HoldsLong s) (readConstraints s) := by
  have hlimits : FailsOnly (HoldsLong s) (readLimits s) := by
    refine (failsOnly_mapM fun m hm => ?_).bind fun _ => failsOnly_ok _
    have hgroups := groupsWithin_of_found (found_of_mem_findAll hm) (digitsWithin_refl s)
    exact (failsOnly_readCount? (hgroups 1)).bind fun _ => failsOnly_ok _
  have hmost : FailsOnly (HoldsLong s) (readListLimit s) := by
    rw [readListLimit]
    cases hm : listLimit.find s with
    | none => exact failsOnly_ok none
    | some m =>
      have hgroups := groupsWithin_of_found (found_of_find hm) (digitsWithin_refl s)
      exact (failsOnly_readCount? (hgroups 1)).bind fun _ => failsOnly_ok _
  exact hlimits.bind fun _ => hmost.bind fun _ => failsOnly_ok _

/-- **A line is refused for nothing but a numeral of its own that is too long to be read.** -/
theorem failsOnly_parse (text : String) (line : Int) :
    FailsOnly (HoldsLong text.toList) (parse text line) := by
  have hwithin : DigitsWithin (sentence text.toList) text.toList :=
    (digitsWithin_plainQuotes text.toList).trim
  have hsentence : FailsOnly (HoldsLong (sentence text.toList)) (parse text line) :=
    (failsOnly_classify fun _ => failsOnly_targetingRules).bind fun _ =>
      (failsOnly_classify fun _ => failsOnly_actionRules).bind fun _ =>
        (failsOnly_readConstraints _).bind fun _ => failsOnly_ok _
  exact hsentence.mono fun _ => hwithin.holdsLong

end Readers

end Muster.Wargear
