/-
  Models in the possessive: which name a sentence speaks of.

  1. **Program.**  "The Sergeant's ...", "Each Sergeant's ..." and "2 Sergeant's ..." are read with
     a lazy group for the name, which ends at the possessive, or behind a space at "can", after a
     count also at "equipped".  No boundary is asked for behind these words.

  2. **Specification.**  A name of plain words is read up to the first word, apart from the first of
     all, that BEGINS with one of the words that may end it (`nameUpTo`).  So it is read whole exactly
     if no such word begins so (`nameUpTo_eq_text_iff`), and a Sister Canoness is read as a Sister.
     Only the rule for two items that give way has no end but the possessive: it reads every name
     whole.

  3. **The crux** is where the group ends.  `EndsName` says of the pattern behind the group what is
     needed: it takes the possessive, it takes a word that begins like an end, and it reads nothing
     else.  What is left of a name begins with a letter, or with a space and one of its words
     (`EndsName.not_reads`); so the group is not left any sooner (`EndsName.exists_run`).

  4. **Counts** are words or digits; with more digits than are read there is no targeting at all
     (`CountToken.readCount_text`).
-/
import Mathlib
import Muster.Proofs.Wargear.Opening

namespace Muster.Wargear

open Text Pattern

/-! ## Names up to a word -/

/-- Whether a word begins, in any case, with one of some others. -/
def beginsLike (stops : List String) (w : List Char) : Bool :=
  stops.any fun s => s.toList.isPrefixOf (w.map Char.toLower)

theorem beginsLike_iff {stops : List String} {w : List Char} :
    beginsLike stops w = true ↔ ∃ s ∈ stops, s.toList <+: w.map Char.toLower := by
  simp only [beginsLike, List.any_eq_true, List.isPrefixOf_iff_prefix]

/-- The words of a name up to the first, apart from the first of all, that begins with one of some
    others. -/
def wordsUpTo (stops : List String) (n : PlainName) : List (List Char) :=
  n.words.take 1 ++ (n.words.drop 1).takeWhile fun w => !beginsLike stops w

/-- A name up to a word that begins with one of some others. -/
def nameUpTo (stops : List String) (n : PlainName) : List Char := spaced (wordsUpTo stops n)

section UpTo

variable {stops : List String} {n : PlainName}

theorem wordsUpTo_eq (stops : List String) (n : PlainName) : ∃ w ws, n.words = w :: ws ∧
    wordsUpTo stops n = w :: ws.takeWhile fun v => !beginsLike stops v := by
  obtain ⟨w, ws, hwords⟩ := List.exists_cons_of_ne_nil n.words_ne_nil
  exact ⟨w, ws, hwords, by rw [wordsUpTo, hwords]; rfl⟩

theorem wordsUpTo_ne_nil : wordsUpTo stops n ≠ [] := by
  obtain ⟨w, ws, _, hread⟩ := wordsUpTo_eq stops n
  rw [hread]
  exact List.cons_ne_nil _ _

theorem wordsUpTo_subset : wordsUpTo stops n ⊆ n.words := by
  obtain ⟨w, ws, hwords, hread⟩ := wordsUpTo_eq stops n
  rw [hwords, hread]
  exact List.cons_subset_cons w (List.takeWhile_subset _)

theorem isWord_of_mem_wordsUpTo {w : List Char} (h : w ∈ wordsUpTo stops n) : IsWord w :=
  n.isWord (wordsUpTo_subset h)

/-- The words that are read, but the first, do not begin like an end. -/
theorem not_beginsLike {vs us : List (List Char)} (h : wordsUpTo stops n = vs ++ us) (hvs : vs ≠ [])
    {v : List Char} (hv : v ∈ us) : beginsLike stops v = false := by
  obtain ⟨w, ws, _, hread⟩ := wordsUpTo_eq stops n
  obtain ⟨u, vs, rfl⟩ := List.exists_cons_of_ne_nil hvs
  rw [hread, List.cons_append] at h
  have hmem : v ∈ ws.takeWhile fun v => !beginsLike stops v := by
    rw [(List.cons.inj h).2]
    exact List.mem_append_right vs hv
  simpa using List.mem_takeWhile_imp hmem

/-- A name is what is read of it, or behind that comes a word that begins like an end. -/
theorem text_cases (stops : List String) (n : PlainName) : n.text = nameUpTo stops n ∨
    ∃ v ∈ n.words, ∃ z, beginsLike stops v = true ∧
      n.text = nameUpTo stops n ++ ' ' :: (v ++ z) := by
  obtain ⟨w, ws, hwords, hread⟩ := wordsUpTo_eq stops n
  have hsplit := List.takeWhile_append_dropWhile (p := fun v => !beginsLike stops v) (l := ws)
  cases hrest : ws.dropWhile fun v => !beginsLike stops v with
  | nil =>
    rw [hrest, List.append_nil] at hsplit
    left
    rw [PlainName.text, nameUpTo, hread, hwords, hsplit]
  | cons v us =>
    have hv : beginsLike stops v = true := by
      have hhead := List.head?_dropWhile_not (fun v => !beginsLike stops v) ws
      rw [hrest] at hhead
      simpa using hhead
    right
    have hall : n.words = wordsUpTo stops n ++ v :: us := by
      rw [hwords, hread, List.cons_append, ← hrest, hsplit]
    obtain ⟨z, hz⟩ := prefix_spaced_cons v us
    refine ⟨v, by simp [hall], z, hv, ?_⟩
    rw [PlainName.text, hall, spaced_append wordsUpTo_ne_nil (List.cons_ne_nil v us), hz, nameUpTo]

theorem nameUpTo_subset : nameUpTo stops n ⊆ n.text := by
  rcases text_cases stops n with h | ⟨v, _, z, _, h⟩
  · rw [← h]
    exact List.Subset.refl _
  · rw [h]
    exact List.subset_append_left _ _

theorem isTidy_nameUpTo : IsTidy (nameUpTo stops n) :=
  isTidy_spaced wordsUpTo_ne_nil fun _ hw => (isWord_of_mem_wordsUpTo hw).isTidy

/-- **A name is read whole exactly if none of its words but the first begins like an end.** -/
theorem nameUpTo_eq_text_iff : nameUpTo stops n = n.text ↔
    ∀ w ∈ n.words.tail, ∀ s ∈ stops, ¬ s.toList <+: w.map Char.toLower := by
  have hwords : nameUpTo stops n = n.text ↔ wordsUpTo stops n = n.words := by
    constructor
    · intro h
      have hsame := congrArg words h
      rwa [nameUpTo, PlainName.text, words_spaced fun w hw => isWord_of_mem_wordsUpTo hw,
        words_spaced fun w hw => n.isWord hw] at hsame
    · intro h
      rw [nameUpTo, h, PlainName.text]
  obtain ⟨w, ws, hn, hread⟩ := wordsUpTo_eq stops n
  rw [hwords, hread, hn, List.cons_inj_right, List.takeWhile_eq_self_iff, List.tail_cons]
  refine forall₂_congr fun v _ => ?_
  rw [Bool.not_eq_true', ← Bool.not_eq_true, beginsLike_iff]
  simp only [not_exists, not_and]

end UpTo

/-! ## Where a name ends -/

/-- What ends a model name: the possessive, or behind a space a word that begins like one of some
    others, and no other word.  The words "model" and "already" are left aside. -/
structure EndsName (p : Pattern) (stops : List String) : Prop where
  takes_possessive : ∀ t, p.Takes "'s".toList t
  takes_word : ∀ {v : List Char}, (∀ c ∈ v, c.isAlpha = true) → beginsLike stops v = true →
    ∀ z, ∃ u r, ' ' :: (v ++ z) = u ++ r ∧ p.Takes u r
  head : ∀ {u : List Char}, p.Reads u → ∃ c t, u = c :: t ∧ (c = '\'' ∨ isBlank c = true)
  not_reads_word : ∀ {v z u r : List Char} {d : Char}, v ≠ [] → (∀ c ∈ v, c.isAlpha = true) →
    beginsLike stops v = false → v.map Char.toLower ∉ ["model".toList, "already".toList] →
    (d = ' ' ∨ d = '\'') → ' ' :: (v ++ d :: z) = u ++ r → ¬ p.Reads u

/-- What of a joined text stands before a mark begins with a word and a space or that mark. -/
theorem exists_cut_first {us : List (List Char)} (hus : us ≠ []) (e : Char) (t : List Char) :
    ∃ v ∈ us, ∃ d z, spaced us ++ e :: t = v ++ d :: z ∧ (d = ' ' ∨ d = e) := by
  obtain ⟨v, us, rfl⟩ := List.exists_cons_of_ne_nil hus
  refine ⟨v, List.mem_cons_self, ?_⟩
  by_cases hnil : us = []
  · subst hnil
    exact ⟨e, t, by rw [spaced_singleton], Or.inr rfl⟩
  · exact ⟨' ', spaced us ++ e :: t, by
      rw [spaced_cons hnil, List.append_assoc, List.cons_append], Or.inl rfl⟩

section Ends

variable {p : Pattern} {stops : List String} {n : PlainName}

/-- **Within a name that is read nothing ends it**: what is left begins with a letter, or with a
    space and a word that does not begin like an end. -/
theorem EndsName.not_reads (hp : EndsName p stops)
    (hn : ∀ w ∈ n.words, w.map Char.toLower ∉ ["model".toList, "already".toList])
    {x y t u r : List Char} {e : Char} (hxy : nameUpTo stops n = x ++ y) (hy : y ≠ [])
    (he : e = ' ' ∨ e = '\'') (hsplit : y ++ e :: t = u ++ r) : ¬ p.Reads u := by
  intro hreads
  obtain ⟨c, y, rfl⟩ := List.exists_cons_of_ne_nil hy
  obtain ⟨d, u', hu, hd⟩ := hp.head hreads
  obtain rfl : c = d := by
    rw [hu] at hsplit
    exact (List.cons.inj hsplit).1
  have hmem : c ∈ spaced (wordsUpTo stops n) := by
    rw [← nameUpTo, hxy]
    simp
  rcases mem_spaced hmem with rfl | ⟨w, hw, hc⟩
  · -- the space stands between two of the words that are read
    have hcut : spaced (wordsUpTo stops n) ++ [] = x ++ ' ' :: y := by
      rw [List.append_nil]
      exact hxy
    obtain ⟨vs, us, hvs, hus, hwords, _, hyus⟩ :=
      spaced_eq_cut (fun w hw => (isWord_of_mem_wordsUpTo hw).space_not_mem) List.not_mem_nil hcut
    rw [List.append_nil] at hyus
    obtain ⟨v, hv, d, z, hz, hd'⟩ := exists_cut_first hus e t
    have hread : v ∈ wordsUpTo stops n := hwords ▸ List.mem_append_right vs hv
    have hword : v ∈ n.words := wordsUpTo_subset hread
    have hmark : d = ' ' ∨ d = '\'' := hd'.elim Or.inl fun h => h ▸ he
    have hnext : ' ' :: (v ++ d :: z) = u ++ r := by
      rw [← hz, ← hyus, ← hsplit, List.cons_append]
    exact hp.not_reads_word (n.word_ne_nil v hword) (n.letters v hword)
      (not_beginsLike hwords hvs hv) (hn v hword) hmark hnext hreads
  · have hletter := n.letters w (wordsUpTo_subset hw) c hc
    rcases hd with rfl | hblank
    · cases hletter
    · rw [isBlank_of_isAlpha hletter] at hblank
      cases hblank

/-- **A lazy group takes a name up to where it ends.** -/
theorem EndsName.exists_run (hp : EndsName p stops)
    (hn : ∀ w ∈ n.words, w.map Char.toLower ∉ ["model".toList, "already".toList])
    (t : List Char) (i : Nat) : ∃ y z, n.text ++ ("'s".toList ++ t) = nameUpTo stops n ++ y ∧
      ∀ {α : Type} {k : Place → Option α} {a : α} {gs : List (Nat × List Char × List Char)},
        (∀ b, k ⟨b, z, (i, nameUpTo stops n ++ y, y) :: gs⟩ = some a) →
        ∀ b, (name i ++ p).run ⟨b, nameUpTo stops n ++ y, gs⟩ k = some a := by
  obtain ⟨e, y, u, z, hsplit, he, hy, htakes⟩ : ∃ e y u z,
      n.text ++ ("'s".toList ++ t) = nameUpTo stops n ++ e :: y ∧ (e = ' ' ∨ e = '\'') ∧
      e :: y = u ++ z ∧ p.Takes u z := by
    rcases text_cases stops n with htext | ⟨v, hv, z, hlike, htext⟩
    · exact ⟨'\'', 's' :: t, "'s".toList, t, by rw [htext]; rfl, Or.inr rfl, rfl,
        hp.takes_possessive t⟩
    · obtain ⟨u, r, hur, htakes⟩ := hp.takes_word (n.letters v hv) hlike (z ++ ("'s".toList ++ t))
      exact ⟨' ', v ++ (z ++ ("'s".toList ++ t)), u, r, by rw [htext]; simp, Or.inl rfl, hur, htakes⟩
  refine ⟨e :: y, z, hsplit, fun {α k a gs} hk b => ?_⟩
  have hname : ∀ c ∈ nameUpTo stops n, inName c = true := fun c hc =>
    PlainName.inName_of_mem_text (nameUpTo_subset hc)
  rw [run_append, name, run_group]
  refine run_shortest isTidy_nameUpTo.trimmed.ne_nil hname (fun x y' hxy _ hy' b => ?_)
    (fun b => ?_) b
  · exact run_eq_none (fun v r hvr => hp.not_reads hn hxy hy' he hvr) _
  · rw [hy] at hk ⊢
    exact htakes.run hk b

end Ends

/-! ## The two ends -/

/-- The end of a name: the possessive, or "can". -/
abbrev canEnd : Pattern := Pattern.text "'s" <|> gap ++ Pattern.text "can"

/-- "equipped" behind a gap, with "model" and "already" before it or not. -/
abbrev holdingEnd : Pattern :=
  gap ++ .opt (Pattern.text "model" ++ gap) ++ .opt (Pattern.text "already" ++ gap)
    ++ Pattern.text "equipped"

/-- The end of a counted name: the possessive, "can", or "equipped". -/
abbrev equippedEnd : Pattern :=
  Pattern.text "'s" <|> gap ++ Pattern.text "can" <|> holdingEnd

section Words

variable {v s u r z : List Char} {d : Char} {w : String} {q : Pattern}

/-- Behind a gap before a word, the word comes next. -/
theorem exists_of_reads_gap (hv : v ≠ []) (hletters : ∀ c ∈ v, c.isAlpha = true)
    (hsplit : ' ' :: (v ++ s) = u ++ r) (h : (gap ++ q).Reads u) :
    ∃ x, v ++ s = x ++ r ∧ q.Reads x := by
  obtain ⟨_, x, rfl, ⟨_, g, rfl, ⟨c, _, rfl⟩, hg⟩, hx⟩ := h
  refine ⟨x, ?_, hx⟩
  have hrest : v ++ s = g ++ (x ++ r) := by simpa using (List.cons.inj hsplit).2
  cases g with
  | nil => exact hrest
  | cons b g =>
    obtain ⟨a, v, rfl⟩ := List.exists_cons_of_ne_nil hv
    obtain rfl : a = b := (List.cons.inj hrest).1
    have hblank := hg a List.mem_cons_self
    rw [isBlank_of_isAlpha (hletters a List.mem_cons_self)] at hblank
    cases hblank

/-- A word holds neither a space nor an apostrophe, and nothing that is read as the word does. -/
theorem mark_not_mem_of_reads (hd : d = ' ' ∨ d = '\'')
    (hw : ' ' ∉ folded w.toList ∧ '\'' ∉ folded w.toList) (h : (Pattern.text w).Reads u) :
    d ∉ u := by
  intro hmem
  have hfolded : foldChar d ∈ folded w.toList := by
    rw [← reads_textOf.mp h]
    exact List.mem_map_of_mem hmem
  rcases hd with rfl | rfl
  · exact hw.1 hfolded
  · exact hw.2 hfolded

/-- A word that is read before a space or an apostrophe begins the word there. -/
theorem prefix_of_reads_text (hd : d = ' ' ∨ d = '\'')
    (hw : ' ' ∉ folded w.toList ∧ '\'' ∉ folded w.toList) (hsplit : v ++ d :: z = u ++ r)
    (h : (Pattern.text w).Reads u) : folded w.toList <+: folded v := by
  have hmark := mark_not_mem_of_reads hd hw h
  rw [← reads_textOf.mp h]
  refine List.IsPrefix.map foldChar ?_
  rcases List.append_eq_append_iff.mp hsplit with ⟨a, rfl, ha⟩ | ⟨a, rfl, _⟩
  · cases a with
    | nil => simp
    | cons b a =>
      obtain rfl : d = b := (List.cons.inj ha).1
      exact absurd (by simp) hmark
  · exact List.prefix_append u a

/-- A word that is read with a gap behind it is the word there. -/
theorem eq_of_reads_text_gap (hletters : ∀ c ∈ v, c.isAlpha = true) (hd : d = ' ' ∨ d = '\'')
    (hw : ' ' ∉ folded w.toList ∧ '\'' ∉ folded w.toList) (hsplit : v ++ d :: z = u ++ r)
    (h : (Pattern.text w ++ gap).Reads u) : folded v = folded w.toList := by
  obtain ⟨m, _, rfl, hm, _, g, rfl, ⟨c, hc, rfl⟩, _⟩ := h
  have hmark := mark_not_mem_of_reads hd hw hm
  have hgap : c ∉ v := fun hmem => by
    rw [isBlank_of_isAlpha (hletters c hmem)] at hc
    cases hc
  have hsame : v = m := first_eq_of_cut (x := z) (y := g ++ r) hgap hmark (by simpa using hsplit)
  rw [hsame]
  exact reads_textOf.mp hm

end Words

theorem reads_head_text {w : String} {c : Char} {t u : List Char} (hw : folded w.toList = c :: t)
    (hc : c.isAlpha = false) (h : (Pattern.text w).Reads u) : ∃ t, u = c :: t := by
  have hu := (reads_textOf.mp h).trans hw
  cases u with
  | nil => cases hu
  | cons d u =>
    obtain ⟨hd, _⟩ := List.cons.inj hu
    exact ⟨u, by rw [foldChar_eq_of_not_alpha hc hd]⟩

theorem reads_head_gap {q : Pattern} {u : List Char} (h : (gap ++ q).Reads u) :
    ∃ c t, u = c :: t ∧ isBlank c = true := by
  obtain ⟨_, x, rfl, ⟨_, g, rfl, ⟨c, hc, rfl⟩, _⟩, _⟩ := h
  exact ⟨c, g ++ x, by simp, hc⟩

/-- The possessive is not read at a space. -/
theorem not_reads_possessive {s u r : List Char} (hsplit : ' ' :: s = u ++ r) :
    ¬ (Pattern.text "'s").Reads u := by
  intro h
  obtain ⟨t, rfl⟩ := reads_head_text (c := '\'') rfl rfl h
  cases (List.cons.inj hsplit).1

/-- A gap and a word are taken where the word begins like it. -/
theorem takes_gap_text {w : String} {v : List Char} (hletters : ∀ c ∈ v, c.isAlpha = true)
    (hw : folded w.toList <+: folded v) (hne : folded w.toList ≠ []) (z : List Char) :
    ∃ x y, v = x ++ y ∧ folded x = folded w.toList ∧
      (∀ c ∈ (x ++ (y ++ z)).head?, isBlank c = false) ∧
      (gap ++ Pattern.text w).Takes (' ' :: x) (y ++ z) := by
  obtain ⟨x, y, rfl, hx⟩ := exists_of_prefix_folded hw
  have hhead : ∀ c ∈ (x ++ (y ++ z)).head?, isBlank c = false := by
    have hfull : x ≠ [] := by
      rintro rfl
      exact hne hx.symm
    obtain ⟨c, x, rfl⟩ := List.exists_cons_of_ne_nil hfull
    exact of_mem_head (isBlank_of_isAlpha (hletters c (by simp))) _
  exact ⟨x, y, rfl, hx, hhead, Takes.seq (u := [' ']) (takes_gap hhead) (takes_text hx _)⟩

theorem endsName_canEnd : EndsName canEnd ["can"] where
  takes_possessive t := (takes_text rfl t).alt_left _
  takes_word {v} hletters hlike z := by
    obtain ⟨s, hs, hcan⟩ := beginsLike_iff.mp hlike
    obtain rfl : s = "can" := List.mem_singleton.mp hs
    rw [← folded_of_letters hletters] at hcan
    obtain ⟨x, y, rfl, _, _, htakes⟩ :=
      takes_gap_text (w := "can") hletters hcan (by decide) z
    exact ⟨' ' :: x, y ++ z, by simp, Takes.alt_right (fun _ _ h => not_reads_possessive h) htakes⟩
  head {u} h := by
    rcases h with h | h
    · obtain ⟨t, rfl⟩ := reads_head_text (c := '\'') rfl rfl h
      exact ⟨'\'', t, rfl, Or.inl rfl⟩
    · obtain ⟨c, t, rfl, hc⟩ := reads_head_gap h
      exact ⟨c, t, rfl, Or.inr hc⟩
  not_reads_word {v z u r d} hv hletters hlike _ hd hsplit h := by
    rcases h with h | h
    · exact not_reads_possessive hsplit h
    · obtain ⟨x, hx, hcan⟩ := exists_of_reads_gap hv hletters hsplit h
      have hprefix := prefix_of_reads_text hd (by decide) hx hcan
      rw [folded_of_letters hletters] at hprefix
      rw [← Bool.not_eq_true, beginsLike_iff] at hlike
      exact hlike ⟨"can", List.mem_singleton_self _, hprefix⟩

/-- At a word that begins with "equipped" no word is read that begins otherwise. -/
theorem not_reads_at_equipped {w : String} {x y v t : List Char}
    (hx : folded x = "equipped".toList)
    (hleft : (folded w.toList).isPrefixOf "equipped".toList = false)
    (hright : "equipped".toList.isPrefixOf (folded w.toList) = false) (hsplit : x ++ y = v ++ t) :
    ¬ (Pattern.text w).Reads v :=
  not_reads_textOf (by rw [folded_append, hx]) hleft hright hsplit

/-- Where neither "model" nor "already" stands, "equipped" is taken behind a gap. -/
theorem takes_holdingEnd {x y : List Char} (hx : folded x = "equipped".toList)
    (hhead : ∀ c ∈ (x ++ y).head?, isBlank c = false) : holdingEnd.Takes (' ' :: x) y := by
  have hopt : ∀ {w : String}, (folded w.toList).isPrefixOf "equipped".toList = false →
      "equipped".toList.isPrefixOf (folded w.toList) = false →
      (opt (Pattern.text w ++ gap)).Takes [] (x ++ y) := by
    intro w hleft hright
    refine takes_opt_nil fun v t hsplit hreads => ?_
    obtain ⟨m, g, rfl, hm, _⟩ := hreads
    rw [List.append_assoc] at hsplit
    exact not_reads_at_equipped hx hleft hright hsplit hm
  have hmodel := hopt (w := "model") (by decide) (by decide)
  have halready := hopt (w := "already") (by decide) (by decide)
  have hequipped : (Pattern.text "equipped").Takes x y := takes_text hx y
  have hall := (takes_gap hhead).seq (hmodel.seq (halready.seq hequipped))
  exact hall.assoc.assoc

theorem endsName_equippedEnd : EndsName equippedEnd ["can", "equipped"] where
  takes_possessive t := (takes_text rfl t).alt_left _
  takes_word {v} hletters hlike z := by
    obtain ⟨s, hs, hstop⟩ := beginsLike_iff.mp hlike
    rw [← folded_of_letters hletters] at hstop
    rcases List.mem_pair.mp hs with rfl | rfl
    · obtain ⟨x, y, rfl, _, _, htakes⟩ :=
        takes_gap_text (w := "can") hletters hstop (by decide) z
      exact ⟨' ' :: x, y ++ z, by simp, Takes.alt_right (fun _ _ h => not_reads_possessive h)
        (htakes.alt_left _)⟩
    · obtain ⟨x, y, rfl, hx, hhead, _⟩ :=
        takes_gap_text (w := "equipped") hletters hstop (by decide) z
      refine ⟨' ' :: x, y ++ z, by simp, Takes.alt_right (fun _ _ h => not_reads_possessive h)
        (Takes.alt_right (fun u t hsplit hcan => ?_) (takes_holdingEnd hx hhead))⟩
      have hne : x ++ y ≠ [] := by
        rintro hnil
        rw [(List.append_eq_nil_iff.mp hnil).1] at hx
        cases hx
      rw [List.cons_append, ← List.append_assoc] at hsplit
      obtain ⟨v, hv, hcan⟩ := exists_of_reads_gap hne hletters hsplit hcan
      rw [List.append_assoc] at hv
      exact not_reads_at_equipped hx (by decide) (by decide) hv hcan
  head {u} h := by
    rcases h with h | h | h
    · obtain ⟨t, rfl⟩ := reads_head_text (c := '\'') rfl rfl h
      exact ⟨'\'', t, rfl, Or.inl rfl⟩
    · obtain ⟨c, t, rfl, hc⟩ := reads_head_gap h
      exact ⟨c, t, rfl, Or.inr hc⟩
    · obtain ⟨c, t, rfl, hc⟩ := reads_head_gap (reads_assoc.mp (reads_assoc.mp h))
      exact ⟨c, t, rfl, Or.inr hc⟩
  not_reads_word {v z u r d} hv hletters hlike hother hd hsplit h := by
    have hfolded := folded_of_letters hletters
    rw [← Bool.not_eq_true, beginsLike_iff] at hlike
    rw [← hfolded, List.mem_pair, not_or] at hother
    have hstop : ∀ {w : String} {x t : List Char}, w ∈ ["can", "equipped"] →
        v ++ d :: z = x ++ t → (Pattern.text w).Reads x → False := by
      intro w x t hw hx hreads
      have hmarks : (' ' ∉ folded w.toList ∧ '\'' ∉ folded w.toList)
          ∧ folded w.toList = w.toList := by
        rcases List.mem_pair.mp hw with rfl | rfl <;> decide
      have hprefix := prefix_of_reads_text hd hmarks.1 hx hreads
      rw [hfolded, hmarks.2] at hprefix
      exact hlike ⟨w, hw, hprefix⟩
    rcases h with h | h | h
    · exact not_reads_possessive hsplit h
    · obtain ⟨x, hx, hcan⟩ := exists_of_reads_gap hv hletters hsplit h
      exact hstop (by decide) hx hcan
    · -- neither of the words that may stand before "equipped" is there
      obtain ⟨_, hx, m, _, rfl, hm, a, e, rfl, ha, he⟩ :=
        exists_of_reads_gap hv hletters hsplit (reads_assoc.mp (reads_assoc.mp h))
      rcases hm with hm | hm
      · have hmodel := eq_of_reads_text_gap hletters hd (by decide) (by simpa using hx) hm
        exact hother.1 hmodel
      · obtain rfl : m = [] := hm
        rcases ha with ha | ha
        · have halready := eq_of_reads_text_gap hletters hd (by decide) (by simpa using hx) ha
          exact hother.2 halready
        · obtain rfl : a = [] := ha
          exact hstop (by decide) hx he

/-! ## Counts -/

/-- How a sentence tells a number: in digits, or by a count word in any case. -/
inductive CountToken where
  | digits (k : Numeral)
  | word (w : List Char) (h : w.map Char.toLower ∈ countWords)

namespace CountToken

/-- The token as text. -/
def text : CountToken → List Char
  | digits k => k.digits
  | word w _ => w

theorem letters_of_word {w : List Char} (h : w.map Char.toLower ∈ countWords) :
    ∀ c ∈ w, c.isAlpha = true := fun _ hc =>
  isAlpha_of_toLower ((letters_of_mem_countWords h).2.2 _ (List.mem_map_of_mem hc))

theorem folded_word {w : List Char} (h : w.map Char.toLower ∈ countWords) :
    folded w ∈ countWords := by
  rwa [folded_of_letters (letters_of_word h)]

theorem isWord (k : CountToken) : IsWord k.text := by
  cases k with
  | digits k => exact k.isWord
  | word w h =>
    refine isWord_of_letters ?_ (letters_of_word h)
    rintro rfl
    exact (letters_of_mem_countWords h).1 rfl

theorem ascii (k : CountToken) : ∀ c ∈ k.text, c.toNat < 0x80 := by
  intro c hc
  cases k with
  | digits k => exact toNat_lt_of_isAsciiDigit (k.ascii c hc)
  | word w h => exact toNat_lt_of_isAlpha (letters_of_word h c hc)

/-- No opening of the table begins like a count. -/
theorem exists_opening (k : CountToken) : ∃ v t, folded k.text = v ++ t ∧
    ∀ w ∈ openings,
      (folded w.toList).isPrefixOf v = false ∧ v.isPrefixOf (folded w.toList) = false := by
  cases k with
  | digits k =>
    obtain ⟨d, ds, hds⟩ := List.exists_cons_of_ne_nil k.digits_ne_nil
    have hd : isAsciiDigit d = true := k.ascii d (by simp [hds])
    refine ⟨[d], ds, ?_, fun w hw => ?_⟩
    · rw [text, k.folded_digits, hds]
      rfl
    · have hall : openings.all (fun w => (folded w.toList).head?.any fun c => !isAsciiDigit c)
          = true := by decide
      have hhead := List.all_eq_true.mp hall w hw
      cases hs : folded w.toList with
      | nil =>
        rw [hs] at hhead
        cases hhead
      | cons c s =>
        have hne : c ≠ d := by
          rintro rfl
          rw [hs, List.head?_cons, Option.any_some, hd] at hhead
          cases hhead
        simp [List.isPrefixOf, hne, hne.symm]
  | word w h =>
    refine ⟨folded w, [], by rw [text, List.append_nil], fun v hv => ?_⟩
    have hall : countWords.all (fun w => openings.all fun v =>
        !(folded v.toList).isPrefixOf w && !w.isPrefixOf (folded v.toList)) = true := by decide
    have hpair := List.all_eq_true.mp (List.all_eq_true.mp hall _ (folded_word h)) v hv
    simpa using hpair

theorem run_countAs (k : CountToken) {α : Type} {f : Place → Option α} {a : α} {n : Nat}
    {gs : List (Nat × List Char × List Char)} {r : List Char}
    (hf : ∀ b, f ⟨b, ' ' :: r, (n, k.text ++ ' ' :: r, ' ' :: r) :: gs⟩ = some a)
    (b : Option Char) : (countAs n).run ⟨b, k.text ++ ' ' :: r, gs⟩ f = some a := by
  cases k with
  | digits k =>
    exact Wargear.run_countAs k (of_mem_head rfl _) hf b
  | word w h => exact run_countAs_word (letters_of_word h) (folded_word h) hf b

/-- **A count is read**, unless it has more digits than are read. -/
theorem readCount_text (k : CountToken) : if k.text.length ≤ mostDigits then
    ∃ n, readCount k.text = .ok n else readCount k.text = .error (.longNumeral ⟨k.text.length⟩) := by
  cases k with
  | digits k =>
    have hread := readCount_digits k
    by_cases hlen : k.digits.length ≤ mostDigits
    · rw [if_pos hlen] at hread
      rw [text, if_pos hlen]
      exact ⟨_, hread⟩
    · rw [if_neg hlen] at hread
      rwa [text, if_neg hlen]
  | word w h =>
    have hall : countWords.all (fun w => w.length ≤ mostDigits) = true := by decide
    have hshort := List.all_eq_true.mp hall _ h
    rw [List.length_map, decide_eq_true_eq] at hshort
    rw [text, if_pos hshort]
    exact exists_readCount_word (letters_of_word h) (folded_word h)

end CountToken

/-! ## Sentences in the possessive -/

/-- How a sentence opens that names a model and two items that give way. -/
abbrev dualOpening : Pattern :=
  textStart ++ Pattern.text "the " ++ .name 1 ++ Pattern.text "'s" ++ gap ++ .phrase 2 ++ gap
    ++ Pattern.text "and" ++ gap ++ .phrase 3 ++ gap ++ Pattern.text "can be replaced"

section Sentences

variable {n : PlainName} {t : List Char}

theorem groupName_nameUpTo {m : Match} {stops : List String} {i : Nat}
    (h : m.group i = nameUpTo stops n) : groupName m i = String.ofList (nameUpTo stops n) := by
  rw [groupName, h, isTidy_nameUpTo.trimmed.trim_eq]

/-- **A name before the possessive is read whole** where nothing else may end it. -/
theorem group_eq_of_run {p q : Pattern} {lead start : List Char} {m : Match}
    (hp : ∀ u, p.Reads u → u.length = lead.length) (hq : 1 ∉ q.closes)
    (h : p.run ⟨none, lead ++ (n.text ++ '\'' :: t), []⟩ (fun s => (name 1).run s fun s =>
      (Pattern.text "'s").run s fun s => q.run s fun s => some ⟨start, s.rest, s.groups⟩) = some m) :
    m.group 1 = n.text := by
  obtain ⟨a, ha, h⟩ := exists_of_run p h
  rw [name, run_group] at h
  obtain ⟨b, hb, h⟩ := exists_of_run _ h
  obtain ⟨c, hc, h⟩ := exists_of_run _ h
  obtain ⟨d, hd, h⟩ := exists_of_run q h
  cases h
  obtain ⟨u, hu, hreads⟩ := ha.reads
  obtain ⟨-, hrest⟩ := List.append_inj hu (hp u hreads).symm
  obtain ⟨v, hv, x, y, rfl, ⟨e, he, rfl⟩, hy⟩ := hb.reads
  obtain ⟨w, hw, hposs⟩ := hc.reads
  obtain ⟨w, rfl⟩ := reads_head_text (c := '\'') rfl rfl hposs
  -- both the name and the group end at the first apostrophe
  have hname : ∀ f ∈ [e] ++ y, inName f = true := by
    simpa using ⟨he, hy⟩
  have happ : '\'' ∉ [e] ++ y := fun hmem => by cases hname '\'' hmem
  have hsame : n.text = [e] ++ y := by
    refine first_eq_of_cut (x := t) (y := w ++ c.rest)
      (PlainName.not_mem_text (c := '\'') (by decide) (by decide)) happ ?_
    rw [hrest, hv, hw]
    rfl
  have hlookup : d.groups.lookup 1 = some (a.rest, b.rest) := by
    rw [hd.kept 1 hq, hc.kept 1 (by decide)]
    rfl
  refine Match.group_eq (r := b.rest) ?_
  rw [hsame, ← hv]
  exact hlookup

variable (hn : ∀ w ∈ n.words, w.map Char.toLower ∉ ["model".toList, "already".toList])
include hn

/-- An opening, a name in the possessive, and what its end is. -/
theorem exists_find {p : Pattern} {stops : List String} (hp : EndsName p stops) {w : String}
    {u : List Char} (hu : folded u = folded w.toList) (t : List Char) :
    ∃ m, (textStart ++ Pattern.text w ++ .name 1 ++ p).find (u ++ (n.text ++ ("'s".toList ++ t)))
      = some m ∧ m.group 1 = nameUpTo stops n := by
  obtain ⟨y, z, hsplit, hrun⟩ := hp.exists_run hn t 1
  have hname : ∀ b, (name 1 ++ p).run ⟨b, nameUpTo stops n ++ y, []⟩
      (fun s => some (Match.mk (u ++ (nameUpTo stops n ++ y)) s.rest s.groups))
        = some ⟨u ++ (nameUpTo stops n ++ y), z, [(1, nameUpTo stops n ++ y, y)]⟩ :=
    hrun fun _ => rfl
  refine ⟨⟨u ++ (nameUpTo stops n ++ y), z, [(1, nameUpTo stops n ++ y, y)]⟩,
    find_of_matchStart ?_, Match.group_eq rfl⟩
  rw [hsplit, matchStart, matchAt, run_append, run_append, run_append, run_textStart]
  exact run_text hu hname none

/-- "Each" and a name in the possessive. -/
theorem classify_each (t : List Char) : ∃ T,
    classify .unknown ("Each ".toList ++ (n.text ++ ("'s".toList ++ t))) targetingRules = .ok T ∧
      T.modelType = some (String.ofList (nameUpTo ["can"] n)) := by
  obtain ⟨m, hfind, hname⟩ := exists_find hn endsName_canEnd (w := "each ") (u := "Each ".toList)
    (by decide) t
  rw [classify_targetingRules_drop (n := 13) (by decide) (folded_append _ _) (by decide)]
  exact ⟨_, classify_of_read rfl hfind rfl, congrArg some (groupName_nameUpTo hname)⟩

omit hn in
/-- In the rule for two items that give way only the possessive ends the name. -/
theorem group_eq_of_find_dual {m : Match}
    (h : dualOpening.find ("The ".toList ++ (n.text ++ ("'s".toList ++ t))) = some m) :
    m.group 1 = n.text := by
  have hanchored : dualOpening.Anchored := by
    repeat first
      | exact .start
      | refine .seq _ ?_
  have hlead : ∀ v, (textStart ++ Pattern.text "the ").Reads v →
      v.length = "The ".toList.length := by
    rintro _ ⟨x, y, rfl, hx, hy⟩
    obtain rfl : x = [] := hx
    simpa using congrArg List.length (reads_textOf.mp hy)
  have hclosed : 1 ∉ (gap ++ (.phrase 2 ++ (gap ++ (Pattern.text "and" ++ (gap ++ (.phrase 3 ++ (gap
      ++ Pattern.text "can be replaced"))))))).closes := by decide
  rw [hanchored.find_eq] at h
  exact group_eq_of_run hlead hclosed h

/-- "The" and a name in the possessive, whether two items give way or not. -/
theorem classify_the (t : List Char) : ∃ T,
    classify .unknown ("The ".toList ++ (n.text ++ ("'s".toList ++ t))) targetingRules = .ok T ∧
      T.modelType = some (String.ofList
        (if T.kind = "specific-model-dual" then n.text else nameUpTo ["can"] n)) := by
  obtain ⟨m, hfind, hname⟩ := exists_find hn endsName_canEnd (w := "the ") (u := "The ".toList)
    (by decide) t
  obtain ⟨s, hs⟩ : ∃ s, s = "The ".toList ++ (n.text ++ ("'s".toList ++ t)) := ⟨_, rfl⟩
  rw [classify_targetingRules_drop (n := 14) (by decide) (folded_append _ _) (by decide), ← hs]
  rw [← hs] at hfind
  -- the rule for two items comes first
  obtain ⟨dual, hdual⟩ : ∃ dual, dual = targetingRules[14] := ⟨_, rfl⟩
  have hdrop : targetingRules.drop 14 = dual :: targetingRules.drop 15 := hdual ▸ rfl
  have hpattern : dual.pattern = dualOpening := hdual ▸ rfl
  have hspecific : ∃ T, classify .unknown s (targetingRules.drop 15) = .ok T ∧
      T.modelType = some (String.ofList
        (if T.kind = "specific-model-dual" then n.text else nameUpTo ["can"] n)) := by
    refine ⟨_, classify_of_read rfl hfind rfl, ?_⟩
    exact congrArg some (groupName_nameUpTo hname)
  rw [hdrop]
  cases hadmits : dual.admits s with
  | false =>
    rw [classify_of_not_admits hadmits]
    exact hspecific
  | true =>
    cases hfound : dual.pattern.find s with
    | none =>
      rw [classify_of_find_eq_none hfound]
      exact hspecific
    | some m' =>
      have hwhole : m'.group 1 = n.text := by
        rw [hpattern, hs] at hfound
        exact group_eq_of_find_dual hfound
      have hname : groupName m' 1 = String.ofList n.text := by
        rw [groupName, hwhole, n.isTrimmed.trim_eq]
      have hread : dual.read m' s = .ok { Targeting.plain "specific-model-dual" "specific-model" with
          modelType := some (groupName m' 1) } := by rw [hdual]; rfl
      exact ⟨_, classify_of_read hadmits hfound hread, congrArg some hname⟩

/-- A count and a name in the possessive. -/
theorem exists_find_count (k : CountToken) (t : List Char) :
    ∃ m, (textStart ++ countAs 1 ++ gap ++ .name 2 ++ equippedEnd).find
        (k.text ++ ' ' :: (n.text ++ ("'s".toList ++ t))) = some m ∧
      m.group 1 = k.text ∧ m.group 2 = nameUpTo ["can", "equipped"] n := by
  obtain ⟨y, z, hsplit, hrun⟩ := endsName_equippedEnd.exists_run hn t 2
  obtain ⟨x, hx⟩ : ∃ x, x = nameUpTo ["can", "equipped"] n := ⟨_, rfl⟩
  rw [← hx] at hsplit hrun ⊢
  have hhead : ∀ c ∈ (x ++ y).head?, isBlank c = false := hsplit ▸ n.head_not_blank _
  have hname : ∀ b, (name 2 ++ equippedEnd).run
      ⟨b, x ++ y, [(1, k.text ++ ' ' :: (x ++ y), ' ' :: (x ++ y))]⟩
      (fun s => some (Match.mk (k.text ++ ' ' :: (x ++ y)) s.rest s.groups))
        = some ⟨k.text ++ ' ' :: (x ++ y), z,
          [(2, x ++ y, y), (1, k.text ++ ' ' :: (x ++ y), ' ' :: (x ++ y))]⟩ := hrun fun _ => rfl
  refine ⟨⟨k.text ++ ' ' :: (x ++ y), z,
    [(2, x ++ y, y), (1, k.text ++ ' ' :: (x ++ y), ' ' :: (x ++ y))]⟩,
    find_of_matchStart ?_, Match.group_eq rfl, Match.group_eq rfl⟩
  rw [hsplit, matchStart, matchAt, run_append, run_append, run_append, run_append, run_textStart]
  refine k.run_countAs (fun b => ?_) none
  exact run_gap hhead hname b

/-- A counted name in the possessive is read as far as the end goes, if the count can be read. -/
theorem classify_count (k : CountToken) (t : List Char) : if k.text.length ≤ mostDigits then
    ∃ T, classify .unknown (k.text ++ ' ' :: (n.text ++ ("'s".toList ++ t))) targetingRules = .ok T ∧
      T.modelType = some (String.ofList (nameUpTo ["can", "equipped"] n))
    else classify .unknown (k.text ++ ' ' :: (n.text ++ ("'s".toList ++ t))) targetingRules
      = .error ⟨k.text.length⟩ := by
  obtain ⟨m, hfind, hcount, hname⟩ := exists_find_count hn k t
  obtain ⟨v, z, hopening, hother⟩ := k.exists_opening
  obtain ⟨s, hs⟩ : ∃ s, s = k.text ++ ' ' :: (n.text ++ ("'s".toList ++ t)) := ⟨_, rfl⟩
  have hfolded : folded s = v ++ (z ++ folded (' ' :: (n.text ++ ("'s".toList ++ t)))) := by
    rw [hs, folded_append, hopening, List.append_assoc]
  have hread := k.readCount_text
  rw [← hs] at hfind ⊢
  rw [classify_targetingRules_drop (n := 16) le_rfl hfolded hother]
  rw [← hcount] at hread ⊢
  split_ifs at hread ⊢
  · obtain ⟨c, hc⟩ := hread
    have hgroup : groupCount m 1 = .ok (Int.ofNat c) := congrArg (Except.map Int.ofNat) hc
    refine ⟨{ Targeting.plain "n-model-specific" "n-model-specific" with
      count := some (Int.ofNat c), modelType := some (groupName m 2) },
      classify_of_read rfl hfind ?_, congrArg some (groupName_nameUpTo hname)⟩
    simp only [targeting, hgroup]
    rfl
  · have hgroup : groupCount m 1 = .error (.longNumeral ⟨(m.group 1).length⟩) :=
      congrArg (Except.map Int.ofNat) hread
    refine classify_of_long rfl hfind ?_
    simp only [targeting, hgroup]
    rfl

omit hn in
/-- A sentence in the possessive keeps how it opens. -/
theorem exists_sentence_possessive (lead : List Char) (hascii : ∀ c ∈ lead, c.toNat < 0x80)
    (hlead : ∃ c r, lead = c :: r ∧ isBlank c = false) (n : PlainName) (t : List Char) :
    ∃ t', sentence (lead ++ n.text ++ "'s ".toList ++ t)
      = lead ++ (n.text ++ ("'s".toList ++ t')) := by
  obtain ⟨c, r, hc, hblank⟩ := hlead
  have hall : ∀ d ∈ lead ++ n.text ++ "'s".toList, d.toNat < 0x80 := by
    simp only [List.forall_mem_append]
    exact ⟨⟨hascii, n.ascii⟩, by simp⟩
  have htrimmed : IsTrimmed (lead ++ n.text ++ "'s".toList) :=
    ⟨⟨c, r ++ n.text ++ "'s".toList, by rw [hc]; rfl, hblank⟩,
      lead ++ n.text ++ ['\''], 's', by simp, rfl⟩
  obtain ⟨t', ht'⟩ := exists_sentence_append hall htrimmed (' ' :: t)
  have hsame : lead ++ n.text ++ "'s ".toList ++ t = lead ++ n.text ++ "'s".toList ++ ' ' :: t := by
    simp
  refine ⟨t', ?_⟩
  rw [hsame, ht']
  simp only [List.append_assoc]

end Sentences

/-- **Possessive names.**  Let no word of a name be "model" or "already".  Then "The N's ..." and
    "Each N's ..." speak of the name up to the first later word that begins with "can", and with a
    count before it also up to one that begins with "equipped"; only the rule for two items that give
    way reads the name whole at once.  A count of too many digits fails.  A name is read whole
    exactly if none of its words but the first begins so. -/
theorem modelType_possessive (n : PlainName)
    (hn : ∀ w ∈ n.words, w.map Char.toLower ∉ ["model".toList, "already".toList]) (t : List Char) :
    (∃ T, classifyTargeting ("The ".toList ++ n.text ++ "'s ".toList ++ t) = .ok T ∧
      T.modelType = some (String.ofList
        (if T.kind = "specific-model-dual" then n.text else nameUpTo ["can"] n))) ∧
    (∃ T, classifyTargeting ("Each ".toList ++ n.text ++ "'s ".toList ++ t) = .ok T ∧
      T.modelType = some (String.ofList (nameUpTo ["can"] n))) ∧
    (∀ k : CountToken, if k.text.length ≤ mostDigits then
      ∃ T, classifyTargeting (k.text ++ [' '] ++ n.text ++ "'s ".toList ++ t) = .ok T ∧
        T.modelType = some (String.ofList (nameUpTo ["can", "equipped"] n))
      else classifyTargeting (k.text ++ [' '] ++ n.text ++ "'s ".toList ++ t)
        = .error ⟨k.text.length⟩) ∧
    (∀ stops, nameUpTo stops n = n.text ↔
      ∀ w ∈ n.words.tail, ∀ s ∈ stops, ¬ s.toList <+: w.map Char.toLower) := by
  refine ⟨?_, ?_, fun k => ?_, fun stops => nameUpTo_eq_text_iff⟩
  · obtain ⟨t', ht'⟩ := exists_sentence_possessive "The ".toList (by simp)
      ⟨'T', "he ".toList, rfl, rfl⟩ n t
    rw [classifyTargeting, ht']
    exact classify_the hn t'
  · obtain ⟨t', ht'⟩ := exists_sentence_possessive "Each ".toList (by simp)
      ⟨'E', "ach ".toList, rfl, rfl⟩ n t
    rw [classifyTargeting, ht']
    exact classify_each hn t'
  · obtain ⟨⟨c, r, hc, hblank⟩, _⟩ := k.isWord.isTidy.trimmed
    have hascii : ∀ c ∈ k.text ++ [' '], c.toNat < 0x80 := by
      simp only [List.forall_mem_append]
      exact ⟨k.ascii, by simp⟩
    obtain ⟨t', ht'⟩ := exists_sentence_possessive _ hascii
      ⟨c, r ++ [' '], by rw [hc]; rfl, hblank⟩ n t
    rw [classifyTargeting, ht', List.append_assoc, List.singleton_append]
    exact classify_count hn k t'

/-- The name made of given words. -/
def namedBy (ws : List String)
    (h : (!ws.isEmpty && ws.all fun w => !w.toList.isEmpty && w.toList.all Char.isAlpha) = true) :
    PlainName where
  words := ws.map String.toList
  words_ne_nil := by simpa using (Bool.and_eq_true_iff.mp h).1
  word_ne_nil := by
    have hall := (Bool.and_eq_true_iff.mp h).2
    simp only [List.all_eq_true, Bool.and_eq_true] at hall
    simpa using fun w hw => (hall w hw).1
  letters := by
    have hall := (Bool.and_eq_true_iff.mp h).2
    simp only [List.all_eq_true, Bool.and_eq_true] at hall
    simpa using fun w hw => (hall w hw).2

def terminatorSergeant : PlainName := namedBy ["Terminator", "Sergeant"] (by decide)

theorem modelType_terminator_sergeant :
    (∀ w ∈ terminatorSergeant.words,
      w.map Char.toLower ∉ ["model".toList, "already".toList]) ∧
    ∃ T, classifyTargeting "Each Terminator Sergeant's bolter can be replaced with 1 axe.".toList
      = .ok T ∧ T.modelType = some "Terminator Sergeant" := by
  have hn : ∀ w ∈ terminatorSergeant.words,
      w.map Char.toLower ∉ ["model".toList, "already".toList] := by decide
  obtain ⟨-, ⟨T, hT, hname⟩, -, hwhole⟩ := modelType_possessive terminatorSergeant hn
    "bolter can be replaced with 1 axe.".toList
  have hsergeant : nameUpTo ["can"] terminatorSergeant = terminatorSergeant.text :=
    (hwhole ["can"]).mpr (by decide)
  rw [hsergeant] at hname
  exact ⟨hn, T, hT, hname⟩

/-- A name whose last word begins with "can". -/
def sisterCanoness : PlainName := namedBy ["Sister", "Canoness"] (by decide)

/-- No word of the name is a word that may end it, and yet it is cut. -/
theorem not_modelType_sister_canoness :
    (∀ w ∈ sisterCanoness.words, w.map Char.toLower ∉
      ["can".toList, "model".toList, "already".toList, "equipped".toList]) ∧
    ∃ T, classifyTargeting ("The ".toList ++ sisterCanoness.text ++ "'s ".toList
        ++ "bolter can be replaced with 1 axe.".toList) = .ok T ∧
      T.modelType = some "Sister" ∧ T.modelType ≠ some (String.ofList sisterCanoness.text) := by
  refine ⟨by decide, { Targeting.plain "specific-model" "specific-model" with
    modelType := some "Sister" }, ?_, rfl, by decide⟩
  decide +kernel

end Muster.Wargear
