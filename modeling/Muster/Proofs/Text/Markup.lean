/-
  Markup: a text is freed from its tags, and from nothing else.

  1. **Program.**  `dropMarkup` scans a text once.  A `<` with a `>` somewhere behind it opens a
     tag, and the next `>` closes it, whatever stands between.  What is left is trimmed.

  2. **Specification.**  A `Marked` text is written as stretches free of `<`, each with a tag behind
     it whose inside is free of `>`, and a rest in which no `>` follows a `<`.  Segments and tags
     without any bracket of their own are the plain case; in general a stretch may hold `>`, a tag
     may hold `<`, and brackets need not balance.

  3. **The crux (`exists_marked`)**: EVERY text is marked up in this way, since a stretch ends at
     the first `<` and its tag at the first `>` behind that.  Put together, the stretches hold no
     `<` at all, so each `<` that is left stands in the rest, where no `>` follows: what stood
     around a tag cannot form a new one.
-/
import Mathlib
import Muster.Proofs.Text.Words

namespace Muster.Text

/-! ## Texts without a tag -/

/-- No `>` follows a `<`, at any distance. -/
def Untagged (s : List Char) : Prop := ∀ x y, s = x ++ '<' :: y → '>' ∉ y

variable {s t : List Char}

/-- A text has no tag exactly if it can be cut so that no `<` stands before the cut and no `>`
    behind it. -/
theorem untagged_iff : Untagged s ↔ ∃ x y, s = x ++ y ∧ '<' ∉ x ∧ '>' ∉ y := by
  constructor
  · intro h
    by_cases hopen : '<' ∈ s
    · obtain ⟨x, y, rfl, hx⟩ := List.eq_append_cons_of_mem hopen
      exact ⟨x, '<' :: y, rfl, hx, by simpa using h x y rfl⟩
    · exact ⟨s, [], (List.append_nil s).symm, hopen, List.not_mem_nil⟩
  · rintro ⟨x, y, rfl, hx, hy⟩ a b hcut
    -- no `<` stands before the cut, so this one stands behind it, or right at it
    rcases List.append_eq_append_iff.mp hcut with ⟨c, -, rfl⟩ | ⟨c, rfl, hc⟩
    · exact fun hb => hy (by simp [hb])
    · cases c with
      | nil =>
        rw [List.nil_append] at hc
        exact fun hb => hy (hc ▸ List.mem_cons_of_mem '<' hb)
      | cons d c =>
        obtain ⟨rfl, -⟩ := List.cons.inj hc
        exact absurd (by simp) hx

theorem untagged_append (hs : '<' ∉ s) (ht : Untagged t) : Untagged (s ++ t) := by
  obtain ⟨x, y, rfl, hx, hy⟩ := untagged_iff.mp ht
  exact untagged_iff.mpr ⟨s ++ x, y, (List.append_assoc s x y).symm, by simp [hs, hx], hy⟩

theorem Untagged.piece (hs : Untagged s) (ht : t <:+: s) : Untagged t := by
  obtain ⟨a, b, rfl⟩ := ht
  rintro x y rfl hclose
  exact hs (a ++ x) (y ++ b) (by simp) (List.mem_append_left b hclose)

/-- Without `>` no tag is ever closed. -/
theorem replaceTags_of_not_closed (image : List Char) (hs : '>' ∉ s) :
    replaceTags image s = s := by
  rw [replaceTags]
  induction s with
  | nil => rfl
  | cons c s ih =>
    have hrest : '>' ∉ s := fun h => hs (List.mem_cons_of_mem c h)
    have hclosed : s.contains '>' = false := by simpa using hrest
    rw [replaceTagsFrom, hclosed, Bool.and_false, if_neg Bool.false_ne_true, ih hrest]

/-- Where there is no tag, none is replaced. -/
theorem Untagged.replaceTags_eq (h : Untagged s) (image : List Char) : replaceTags image s = s := by
  obtain ⟨x, y, rfl, hx, hy⟩ := untagged_iff.mp h
  rw [replaceTags_append image hx, replaceTags_of_not_closed image hy]

theorem Untagged.dropMarkup_eq (h : Untagged s) : dropMarkup s = trim s := by
  rw [dropMarkup, h.replaceTags_eq]

/-! ## Tags -/

/-- A stretch of text with a tag behind it. -/
structure Tagged where
  before : List Char
  /-- What stands between the `<` and the `>` of the tag. -/
  inside : List Char
  before_free : '<' ∉ before
  inside_free : '>' ∉ inside

/-- The stretch and its tag as text. -/
def Tagged.chars (t : Tagged) : List Char := t.before ++ '<' :: (t.inside ++ ['>'])

/-- A tag that is open ends at the first `>`. -/
theorem replaceTagsFrom_open (image : List Char) (hs : '>' ∉ s) (t : List Char) :
    replaceTagsFrom image true (s ++ '>' :: t) = replaceTags image t := by
  induction s with
  | nil => rfl
  | cons c s ih =>
    have hc : (c != '>') = true := bne_iff_ne.mpr fun h => hs (h ▸ List.mem_cons_self)
    rw [List.cons_append, replaceTagsFrom, hc, ih fun h => hs (List.mem_cons_of_mem c h)]

/-- **One tag.**  Its stretch is kept, its image is put, and the scan goes on behind it. -/
theorem Tagged.replaceTags_chars (t : Tagged) (image r : List Char) :
    replaceTags image (t.chars ++ r) = t.before ++ (image ++ replaceTags image r) := by
  have htag : replaceTags image ('<' :: (t.inside ++ '>' :: r)) = image ++ replaceTags image r := by
    rw [replaceTags, replaceTagsFrom, if_pos (by simp), replaceTagsFrom_open image t.inside_free]
  have hchars : t.chars ++ r = t.before ++ '<' :: (t.inside ++ '>' :: r) := by simp [Tagged.chars]
  rw [hchars, replaceTags_append image t.before_free, htag]

/-- **All tags**, by induction over the stretches, whatever follows the last of them. -/
theorem replaceTags_tagged (image : List Char) (ts : List Tagged) (r : List Char) :
    replaceTags image (ts.flatMap Tagged.chars ++ r)
      = (ts.flatMap fun t => t.before ++ image) ++ replaceTags image r := by
  induction ts with
  | nil => rfl
  | cons t ts ih =>
    rw [List.flatMap_cons, List.append_assoc, t.replaceTags_chars, ih, List.flatMap_cons]
    simp only [List.append_assoc]

/-! ## Marked texts -/

/-- A text with its tags: the stretches that end with one, and the rest, which has none. -/
structure Marked where
  tagged : List Tagged
  rest : List Char
  rest_untagged : Untagged rest

namespace Marked

variable (m : Marked)

/-- The text as it is written. -/
def chars : List Char := m.tagged.flatMap Tagged.chars ++ m.rest

/-- The text without its tags. -/
def plain : List Char := m.tagged.flatMap Tagged.before ++ m.rest

theorem dropMarkup_chars : dropMarkup m.chars = trim m.plain := by
  rw [dropMarkup, chars, replaceTags_tagged, m.rest_untagged.replaceTags_eq, plain]
  simp only [List.append_nil]

/-- What stood around the tags forms no new one. -/
theorem untagged_plain : Untagged m.plain := by
  refine untagged_append ?_ m.rest_untagged
  intro hopen
  obtain ⟨t, -, ht⟩ := List.mem_flatMap.mp hopen
  exact t.before_free ht

end Marked

/-- **Every text is marked up**, balanced or not: up to the first `<`, on to the first `>` behind
    it, and again from there, until no `<` is left or no `>` follows it. -/
theorem exists_marked (s : List Char) : ∃ m : Marked, m.chars = s := by
  by_cases hopen : '<' ∈ s
  · obtain ⟨before, r, hs, hbefore⟩ := List.eq_append_cons_of_mem hopen
    by_cases hclose : '>' ∈ r
    · obtain ⟨inside, u, hr, hinside⟩ := List.eq_append_cons_of_mem hclose
      have hshorter : u.length < s.length := by
        simp only [hs, hr, List.length_append, List.length_cons]
        omega
      obtain ⟨m, hm⟩ := exists_marked u
      refine ⟨⟨⟨before, inside, hbefore, hinside⟩ :: m.tagged, m.rest, m.rest_untagged⟩, ?_⟩
      simp [hs, hr, ← hm, Marked.chars, Tagged.chars]
    · have hrest : Untagged s :=
        untagged_iff.mpr ⟨before, '<' :: r, hs, hbefore, by simpa using hclose⟩
      exact ⟨⟨[], s, hrest⟩, rfl⟩
  · have hrest : Untagged s :=
      untagged_iff.mpr ⟨s, [], (List.append_nil s).symm, hopen, List.not_mem_nil⟩
    exact ⟨⟨[], s, hrest⟩, rfl⟩
termination_by s.length

/-! ## Texts freed from markup -/

theorem untagged_dropMarkup (s : List Char) : Untagged (dropMarkup s) := by
  obtain ⟨m, rfl⟩ := exists_marked s
  rw [m.dropMarkup_chars]
  exact m.untagged_plain.piece (trim_isInfix m.plain)

theorem dropMarkup_dropMarkup (s : List Char) : dropMarkup (dropMarkup s) = dropMarkup s := by
  rw [(untagged_dropMarkup s).dropMarkup_eq, dropMarkup, trim_trim]

/-- A tag that is taken out beforehand leaves the other tags as they are. -/
theorem dropMarkup_without_tag (ts : List Tagged) (t : Tagged) (r : List Char) :
    dropMarkup (ts.flatMap Tagged.chars ++ (t.before ++ r))
      = dropMarkup (ts.flatMap Tagged.chars ++ (t.chars ++ r)) := by
  rw [dropMarkup, dropMarkup, replaceTags_tagged, replaceTags_tagged,
    replaceTags_append [] t.before_free, t.replaceTags_chars, List.nil_append]

/-- **A text is freed from all its tags, and from nothing else but the blanks around what is left.**
    No tag is left, so that doing it again changes nothing.  Every text is marked up, and what
    stands outside its tags is kept, in order.  No new tag arises where one stood: not when all are
    taken out, and not when one of them, whatever follows it, is taken out beforehand. -/
theorem markup_removed_exactly :
    (∀ s, Untagged (dropMarkup s) ∧ dropMarkup (dropMarkup s) = dropMarkup s) ∧
      (∀ s, ∃ m : Marked, m.chars = s) ∧
      (∀ m : Marked, dropMarkup m.chars = trim m.plain ∧ Untagged m.plain) ∧
      ∀ (ts : List Tagged) (t : Tagged) (r : List Char),
        dropMarkup (ts.flatMap Tagged.chars ++ (t.before ++ r))
          = dropMarkup (ts.flatMap Tagged.chars ++ (t.chars ++ r)) :=
  ⟨fun s => ⟨untagged_dropMarkup s, dropMarkup_dropMarkup s⟩, exists_marked,
    fun m => ⟨m.dropMarkup_chars, m.untagged_plain⟩, dropMarkup_without_tag⟩

/-- Brackets that do not balance: the tags are `<<b>` and `</b>`. -/
example : dropMarkup " <<b>i> 2</b> > 1 <br".toList = "i> 2 > 1 <br".toList := by decide

end Muster.Text
