/-
  Letter case: a text in lower case stays as it is, and so do blanks in upper case.

  Names are put in lower case more than once on their way to a comparison, and by parts that do not
  know of each other.  A row of the table may send a letter anywhere, so that a second pass changes
  nothing is a fact about the rows: no row covers what another one yields (`rows_apart`), and none
  yields a capital sigma, the one letter whose image hangs on its neighbours.

  The rows are compared as ranges, once for each pair of rows; what follows is for all characters.

  Upper case may make several letters of one, so it is taken piece by piece (`upper_append`).  The
  blanks are few enough to be looked at one by one: none of them has a case, and none is a digit.
-/
import Mathlib
import Muster.Text.Blank
import Muster.Text.Digit
import Muster.Text.LetterCase

namespace Muster.Text

/-! ## Rows -/

/-- Whether a row covers none of the images of another: the ranges are disjoint, or a row of every
    other character passes them by. -/
def RowApart (r q : Nat × Nat × Nat × Nat) : Prop :=
  r.2.2.2 + (r.2.1 - r.1) < q.1 ∨ q.2.1 < r.2.2.2 ∨
    ((r.2.2.1 = 2 ∨ r.1 = r.2.1) ∧ q.2.2.1 = 2 ∧ (r.2.2.2 + q.1) % 2 = 1)

instance (r q : Nat × Nat × Nat × Nat) : Decidable (RowApart r q) :=
  inferInstanceAs (Decidable (_ ∨ _ ∨ _ ∧ _ ∧ _))

theorem rows_apart : ∀ r ∈ lowerRows, ∀ q ∈ lowerRows, RowApart r q := by
  have hall : (lowerRows.all fun r => lowerRows.all fun q => decide (RowApart r q)) = true := by
    decide +kernel
  intro r hr q hq
  exact of_decide_eq_true (List.all_eq_true.mp (List.all_eq_true.mp hall r hr) q hq)

/-- The images of a row are characters, none of them one that the table leaves to a rule; and one
    row alone, that of the Kelvin sign, has its image in ASCII. -/
theorem rows_regular : ∀ r ∈ lowerRows,
    (r.2.2.2 + (r.2.1 - r.1) < 0xD800 ∨
      0xDFFF < r.2.2.2 ∧ r.2.2.2 + (r.2.1 - r.1) < 0x110000) ∧
    RowApart r (0x130, 0x130, 1, 0) ∧ RowApart r (0x3A3, 0x3A3, 1, 0) ∧
    (0x80 ≤ r.2.2.2 ∨ r = (0x212A, 0x212A, 1, 0x6B)) := by
  decide +kernel

/-- A row that covers a character sends it as far into its images as it stands in the row. -/
structure Covers (r : Nat × Nat × Nat × Nat) (n : Nat) : Prop where
  first : r.1 ≤ n
  last : n ≤ r.2.1
  step : (n - r.1) % r.2.2.1 = 0

theorem covers_iff {r : Nat × Nat × Nat × Nat} {n : Nat} :
    (r.1 ≤ n && n ≤ r.2.1 && (n - r.1) % r.2.2.1 == 0) = true ↔ Covers r n := by
  simp only [Bool.and_eq_true, decide_eq_true_eq, beq_iff_eq]
  exact ⟨fun h => ⟨h.1.1, h.1.2, h.2⟩, fun h => ⟨⟨h.first, h.last⟩, h.step⟩⟩

/-- What one row yields, a row apart from it does not cover. -/
theorem RowApart.not_covers {r q : Nat × Nat × Nat × Nat} (h : RowApart r q) {n : Nat}
    (hr : Covers r n) : ¬ Covers q (r.2.2.2 + (n - r.1)) := by
  obtain ⟨hfirst, hlast, hstep⟩ := hr
  rintro ⟨hqfirst, hqlast, hqstep⟩
  rcases h with h | h | ⟨hrow, hq, hodd⟩
  · omega
  · omega
  · rw [hq] at hqstep
    rcases hrow with hrow | hrow
    · rw [hrow] at hstep
      omega
    · omega

/-- A table sends a character to an image of a row that covers it, or no row covers it. -/
theorem imageIn_cases (rows : List (Nat × Nat × Nat × Nat)) (c : Char) :
    (imageIn rows c = c ∧ ∀ r ∈ rows, ¬ Covers r c.toNat) ∨
      ∃ r ∈ rows, Covers r c.toNat ∧ imageIn rows c = Char.ofNat (r.2.2.2 + (c.toNat - r.1)) := by
  rw [imageIn]
  split
  · rename_i r hr
    have hcovers := List.find?_some hr
    exact Or.inr ⟨r, List.mem_of_find?_eq_some hr, covers_iff.mp hcovers, rfl⟩
  · rename_i hnone
    refine Or.inl ⟨rfl, fun r hr hcovers => ?_⟩
    exact List.find?_eq_none.mp hnone r hr (covers_iff.mpr hcovers)

theorem toNat_image {r : Nat × Nat × Nat × Nat} (hr : r ∈ lowerRows) {n : Nat}
    (hcovers : Covers r n) :
    (Char.ofNat (r.2.2.2 + (n - r.1))).toNat = r.2.2.2 + (n - r.1) := by
  have hlast := hcovers.last
  have hvalid : (r.2.2.2 + (n - r.1)).isValidChar := by
    rcases (rows_regular r hr).1 with h | ⟨hlow, hhigh⟩
    · exact Or.inl (by omega)
    · exact Or.inr ⟨by omega, by omega⟩
  rw [Char.toNat_ofNat, if_pos hvalid]

/-! ## Characters that are in lower case -/

/-- Lower case leaves the character as it is, whatever stands beside it. -/
def IsLower (c : Char) : Prop := c.toNat ≠ 0x3A3 ∧ lowerChar c = [c]

instance (c : Char) : Decidable (IsLower c) := inferInstanceAs (Decidable (_ ∧ _))

/-- Beyond ASCII and apart from the dotted capital i, lower case is the table. -/
theorem lowerChar_of_not_ascii {c : Char} (hascii : ¬ c.toNat < 0x80) (hdotted : c.toNat ≠ 0x130) :
    lowerChar c = [imageIn lowerRows c] := by
  rw [lowerChar, if_neg hascii, if_neg (by rwa [beq_iff_eq])]

theorem lowerChar_dotted {c : Char} (hdotted : c.toNat = 0x130) :
    lowerChar c = ['i', Char.ofNat 0x307] := by
  rw [lowerChar, if_neg (by omega), if_pos (by rwa [beq_iff_eq])]

theorem lowerChar_ne_nil (c : Char) : lowerChar c ≠ [] := by
  rw [lowerChar]
  split_ifs <;> exact List.cons_ne_nil _ _

/-- A character beyond ASCII that no row covers and no rule names. -/
theorem isLower_of_not_covers {c : Char} (hascii : ¬ c.toNat < 0x80) (hdotted : c.toNat ≠ 0x130)
    (hsigma : c.toNat ≠ 0x3A3) (h : ∀ r ∈ lowerRows, ¬ Covers r c.toNat) : IsLower c := by
  refine ⟨hsigma, ?_⟩
  rw [lowerChar_of_not_ascii hascii hdotted]
  rcases imageIn_cases lowerRows c with ⟨hself, _⟩ | ⟨r, hr, hcovers, _⟩
  · rw [hself]
  · exact absurd hcovers (h r hr)

theorem isLower_ascii {c d : Char} (hc : c.toNat < 0x80) (hd : d ∈ lowerChar c) : IsLower d := by
  have hall : ((List.range 0x80).all fun n =>
      (lowerChar (Char.ofNat n)).all fun d => decide (IsLower d)) = true := by
    decide +kernel
  have hn := List.all_eq_true.mp hall c.toNat (List.mem_range.mpr hc)
  rw [Char.ofNat_toNat] at hn
  exact of_decide_eq_true (List.all_eq_true.mp hn d hd)

/-- The image of a row is in lower case. -/
theorem isLower_image {r : Nat × Nat × Nat × Nat} (hr : r ∈ lowerRows) {n : Nat}
    (hcovers : Covers r n) : IsLower (Char.ofNat (r.2.2.2 + (n - r.1))) := by
  obtain ⟨_, hdotted, hsigma, hkelvin⟩ := rows_regular r hr
  rcases hkelvin with hascii | rfl
  · have hnat := toNat_image hr hcovers
    have hself : ∀ m, Covers (m, m, 1, 0) m := fun m => ⟨le_refl m, le_refl m, Nat.mod_one _⟩
    refine isLower_of_not_covers (by omega) ?_ ?_ fun q hq => ?_
    · intro h
      exact hdotted.not_covers hcovers ((hnat.symm.trans h) ▸ hself 0x130)
    · intro h
      exact hsigma.not_covers hcovers ((hnat.symm.trans h) ▸ hself 0x3A3)
    · rw [hnat]
      exact (rows_apart r hr q hq).not_covers hcovers
  · have hn : n = 0x212A := le_antisymm hcovers.last hcovers.first
    subst hn
    decide +kernel

/-- Lower case of a character is in lower case. -/
theorem isLower_of_mem_lowerChar {c d : Char} (hsigma : c.toNat ≠ 0x3A3) (hd : d ∈ lowerChar c) :
    IsLower d := by
  by_cases hascii : c.toNat < 0x80
  · exact isLower_ascii hascii hd
  by_cases hdotted : c.toNat = 0x130
  · rw [lowerChar_dotted hdotted] at hd
    rcases List.mem_pair.mp hd with rfl | rfl
    · decide +kernel
    · decide +kernel
  · rw [lowerChar_of_not_ascii hascii hdotted, List.mem_singleton] at hd
    subst hd
    rcases imageIn_cases lowerRows c with ⟨hself, hnone⟩ | ⟨r, hr, hcovers, himage⟩
    · rw [hself]
      exact isLower_of_not_covers hascii hdotted hsigma hnone
    · rw [himage]
      exact isLower_image hr hcovers

/-- A character that lower case sends into ASCII was there before, if it is no `i` and no `k`. -/
theorem ascii_of_mem_lowerChar {c d : Char} (hd : d ∈ lowerChar c) (hascii : d.toNat < 0x80)
    (hi : d ≠ 'i') (hk : d ≠ 'k') : c.toNat < 0x80 := by
  by_contra hc
  by_cases hdotted : c.toNat = 0x130
  · rw [lowerChar_dotted hdotted] at hd
    rcases List.mem_pair.mp hd with rfl | rfl
    · exact hi rfl
    · exact absurd hascii (by decide)
  · rw [lowerChar_of_not_ascii hc hdotted, List.mem_singleton] at hd
    subst hd
    rcases imageIn_cases lowerRows c with ⟨hself, _⟩ | ⟨r, hr, hcovers, himage⟩
    · rw [hself] at hascii
      exact hc hascii
    · rcases (rows_regular r hr).2.2.2 with hbeyond | rfl
      · rw [himage, toNat_image hr hcovers] at hascii
        omega
      · have hn : c.toNat = 0x212A := le_antisymm hcovers.last hcovers.first
        rw [hn] at himage
        exact hk himage

/-! ## Texts in lower case -/

theorem isLower_of_mem_lowerAfter {d : Char} : ∀ (before s : List Char),
    d ∈ lowerAfter before s → IsLower d
  | _, [], h => absurd h List.not_mem_nil
  | before, c :: rest, h => by
    rw [lowerAfter] at h
    split at h
    · rcases List.mem_cons.mp h with rfl | h
      · split <;> decide +kernel
      · exact isLower_of_mem_lowerAfter (c :: before) rest h
    · rename_i hsigma
      rw [beq_iff_eq] at hsigma
      rcases List.mem_append.mp h with h | h
      · exact isLower_of_mem_lowerChar hsigma h
      · exact isLower_of_mem_lowerAfter (c :: before) rest h

theorem isLower_of_mem_lower {d : Char} {s : List Char} (h : d ∈ lower s) : IsLower d :=
  isLower_of_mem_lowerAfter [] s h

/-- A text that lower case brings into ASCII was in ASCII, if it gets no `i` and no `k`. -/
theorem ascii_of_lowerAfter : ∀ (before : List Char) {s : List Char},
    (∀ d ∈ lowerAfter before s, d.toNat < 0x80 ∧ d ≠ 'i' ∧ d ≠ 'k') → ∀ c ∈ s, c.toNat < 0x80
  | _, [], _ => fun _ h => absurd h List.not_mem_nil
  | before, c :: rest, h => by
    rw [lowerAfter] at h
    split at h
    · have hsigma := (h _ List.mem_cons_self).1
      split at hsigma <;> exact absurd hsigma (by decide)
    · rw [List.forall_mem_append] at h
      refine List.forall_mem_cons.mpr ⟨?_, ascii_of_lowerAfter (c :: before) h.2⟩
      obtain ⟨d, hd⟩ := List.exists_mem_of_ne_nil _ (lowerChar_ne_nil c)
      obtain ⟨hascii, hi, hk⟩ := h.1 d hd
      exact ascii_of_mem_lowerChar hd hascii hi hk

theorem lowerAfter_eq_self : ∀ (before : List Char) {s : List Char}, (∀ c ∈ s, IsLower c) →
    lowerAfter before s = s
  | _, [], _ => rfl
  | before, c :: rest, h => by
    obtain ⟨hsigma, hc⟩ := h c List.mem_cons_self
    rw [lowerAfter, if_neg (by rwa [beq_iff_eq]), hc,
      lowerAfter_eq_self (c :: before) fun d hd => h d (List.mem_cons_of_mem c hd)]
    rfl

/-- **Lower case once is lower case for good.** -/
theorem lower_lower (s : List Char) : lower (lower s) = lower s :=
  lowerAfter_eq_self [] fun _ => isLower_of_mem_lower

/-! ## Upper case -/

theorem upper_append (s t : List Char) : upper (s ++ t) = upper s ++ upper t :=
  List.flatMap_append

theorem upper_eq_self {s : List Char} (h : ∀ c ∈ s, upperChar c = [c]) : upper s = s := by
  rw [upper, List.flatMap_congr h, List.flatMap_singleton']

/-- All blanks, as closed intervals. -/
def blankRanges : List (Nat × Nat) := (0x09, 0x0D) :: (0x1C, 0x20) :: blankIntervals

/-- The blanks, by their numbers. -/
def blankCodes : List Nat := blankRanges.flatMap fun r => List.range' r.1 (r.2 + 1 - r.1)

theorem mem_blankCodes {c : Char} (h : isBlank c = true) : c.toNat ∈ blankCodes := by
  have hrange : ∃ r ∈ blankRanges, r.1 ≤ c.toNat ∧ c.toNat ≤ r.2 := by
    rw [isBlank] at h
    split at h
    · have hascii : 9 ≤ c.toNat ∧ c.toNat ≤ 13 ∨ 28 ≤ c.toNat ∧ c.toNat ≤ 32 := by
        simp only [Bool.or_eq_true, Bool.and_eq_true, beq_iff_eq, decide_eq_true_eq] at h
        omega
      rcases hascii with hlow | hhigh
      · exact ⟨_, List.mem_cons_self, hlow⟩
      · exact ⟨_, List.mem_cons_of_mem _ List.mem_cons_self, hhigh⟩
    · obtain ⟨r, hr, hc⟩ := List.any_eq_true.mp h
      exact ⟨r, List.mem_cons_of_mem _ (List.mem_cons_of_mem _ hr), by simpa using hc⟩
  obtain ⟨r, hr, hfirst, hlast⟩ := hrange
  exact List.mem_flatMap.mpr ⟨r, hr, List.mem_range'_1.mpr ⟨hfirst, by omega⟩⟩

theorem blankCodes_caseless : ∀ n ∈ blankCodes,
    upperChar (Char.ofNat n) = [Char.ofNat n] ∧ isDecimal (Char.ofNat n) = false := by
  decide +kernel

theorem upperChar_of_isBlank {c : Char} (h : isBlank c = true) : upperChar c = [c] := by
  simpa using (blankCodes_caseless _ (mem_blankCodes h)).1

theorem isDecimal_of_isBlank {c : Char} (h : isBlank c = true) : isDecimal c = false := by
  simpa using (blankCodes_caseless _ (mem_blankCodes h)).2

end Muster.Text
