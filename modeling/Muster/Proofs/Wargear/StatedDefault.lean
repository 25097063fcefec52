/-
  Stated defaults: the sentences that tell what a model starts with, read back.

  1. **Program.**  `parseDefaultLoadout` looks again and again for "is equipped with:", with "The" or
     "Every" and a name before it, and a list behind it that runs up to a full stop.

  2. **Specification.**  A statement is a name with its items.  A text of statements is read as those
     statements, in order, each with its items in order, whatever the roster is.

  3. **The crux** is the colon.  A sentence has one, so what the pattern reads from a place within
     the name up to the first colon is all that stands there (`not_reads_verb`): the rest of the
     name, and the verb.  The rest is empty, or it is the word "model", which the pattern lets pass
     and which therefore ends no name.
-/
import Mathlib
import Muster.Wargear.Roster
import Muster.Proofs.Wargear.Item

namespace Muster.Wargear

open Text Pattern

/-! ## Statements -/

/-- What a model starts with: its name, and its items, each but the first with whether a semicolon
    or a comma stands before it.  Of the name, the last word is not "model" in any case. -/
structure Statement where
  /-- Whether "Every" opens the sentence. -/
  every : Bool
  name : PlainName
  first : PlainName
  others : List (Bool × PlainName)
  two_le : 2 ≤ name.text.length
  no_model : ∀ w ∈ name.words.getLast?, w.map Char.toLower ≠ "model".toList

/-- Names with semicolons or commas between them. -/
def listing : PlainName → List (Bool × PlainName) → List Char
  | n, [] => n.text
  | n, (semicolon, m) :: ns => n.text ++ [if semicolon then ';' else ','] ++ ' ' :: listing m ns

namespace Statement

variable (s : Statement)

/-- How the sentence opens. -/
def opening : List Char := if s.every then "Every".toList else "The".toList

/-- What stands behind the name, up to the colon. -/
def verb : List Char :=
  if s.every then "model is equipped with".toList else "is equipped with".toList

/-- The items as text. -/
def list : List Char := listing s.first s.others

/-- The sentence without its full stop. -/
def body : List Char :=
  s.opening ++ ' ' :: (s.name.text ++ ' ' :: (s.verb ++ [':'] ++ ' ' :: s.list))

/-- The sentence. -/
def chars : List Char := s.body ++ ['.']

/-- The items. -/
def items : List PlainName := s.first :: s.others.map Prod.snd

/-- What the sentence says. -/
def loadout : DefaultLoadout :=
  ⟨String.ofList s.name.text, s.items.map fun n => String.ofList n.text⟩

end Statement

/-! ## Lists of items -/

theorem mem_listing {c : Char} : ∀ {ns : List (Bool × PlainName)} {n : PlainName},
    c ∈ listing n ns → c = ' ' ∨ c = ';' ∨ c = ',' ∨ c.isAlpha = true
  | [], n, h => (PlainName.mem_text h).imp_right fun h => Or.inr (Or.inr h)
  | (semicolon, m) :: ns, n, h => by
    rw [listing, List.append_assoc] at h
    rcases List.mem_append.mp h with h | h
    · exact (PlainName.mem_text h).imp_right fun h => Or.inr (Or.inr h)
    · rcases List.mem_cons.mp h with rfl | h
      · cases semicolon with
        | false => exact Or.inr (Or.inr (Or.inl rfl))
        | true => exact Or.inr (Or.inl rfl)
      · rcases List.mem_cons.mp h with rfl | h
        · exact Or.inl rfl
        · exact mem_listing h

theorem isTidy_listing : ∀ (n : PlainName) (ns : List (Bool × PlainName)), IsTidy (listing n ns)
  | n, [] => n.isTidy
  | n, (semicolon, m) :: ns => by
    refine (n.isTidy.append_marks fun c hc => ?_).join (isTidy_listing m ns)
    rw [List.mem_singleton.mp hc]
    cases semicolon <;> rfl

/-- A separator of items. -/
abbrev separates (c : Char) : Bool := c == ';' || c == ','

/-- Blanks and a name hold no separator. -/
theorem separates_eq_false {u : List Char} (hu : ∀ c ∈ u, isBlank c = true) (n : PlainName) :
    ∀ c ∈ u ++ n.text, separates c = false := by
  have hother : ∀ c : Char, isBlank c = true ∨ c.isAlpha = true → separates c = false := by
    intro c h
    rw [← Bool.not_eq_true, Bool.or_eq_true, beq_iff_eq, beq_iff_eq]
    rintro (rfl | rfl)
    all_goals rcases h with h | h <;> cases h
  intro c hc
  rcases List.mem_append.mp hc with hc | hc
  · exact hother c (Or.inl (hu c hc))
  · exact hother c ((PlainName.mem_text hc).imp_left (by rintro rfl; rfl))

/-- **A list is cut into its names**, also with blanks before it. -/
theorem map_trim_splitWhere_listing : ∀ (ns : List (Bool × PlainName)) (n : PlainName)
    {u : List Char}, (∀ c ∈ u, isBlank c = true) →
      (splitWhere separates (u ++ listing n ns)).map trim
        = (n :: ns.map Prod.snd).map PlainName.text
  | [], n, u, hu => by
    rw [listing, splitWhere_eq_splitOnP, List.splitOnP_eq_singleton (separates_eq_false hu n),
      List.map_singleton, trim_append_of_blank hu, n.isTrimmed.trim_eq]
    rfl
  | (semicolon, m) :: ns, n, u, hu => by
    have hsplit : u ++ listing n ((semicolon, m) :: ns)
        = (u ++ n.text) ++ (if semicolon then ';' else ',') :: ([' '] ++ listing m ns) := by
      rw [listing]
      simp only [List.append_assoc, List.singleton_append]
    have hsep : separates (if semicolon then ';' else ',') = true := by cases semicolon <;> rfl
    rw [hsplit, splitWhere_eq_splitOnP,
      List.splitOnP_append_cons_of_forall_mem (separates_eq_false hu n) _ hsep,
      ← splitWhere_eq_splitOnP, List.map_cons,
      map_trim_splitWhere_listing ns m isBlank_of_mem_space, trim_append_of_blank hu,
      n.isTrimmed.trim_eq]
    rfl

/-- **The items of a list are its names.** -/
theorem listedItems_listing (n : PlainName) (ns : List (Bool × PlainName)) :
    listedItems (listing n ns) = (n :: ns.map Prod.snd).map PlainName.text := by
  have hnames := map_trim_splitWhere_listing ns n (u := []) fun c hc => absurd hc List.not_mem_nil
  have hcount : ∀ m : PlainName, itemCount.dropStart m.text = m.text := by
    intro m
    refine dropStart_eq_self (matchAt_eq_none (fun u r hsplit hreads => ?_) none)
    obtain ⟨_, _, rfl, ⟨_, x, rfl, ⟨c, hc, rfl⟩, _⟩, _⟩ := hreads
    have hmem : c ∈ m.text := by simp [hsplit]
    rw [isDecimal_of_mem_text hmem] at hc
    cases hc
  have hdrop : (splitWhere separates (listing n ns)).map (fun p => itemCount.dropStart (trim p))
      = (n :: ns.map Prod.snd).map PlainName.text := by
    have hmap := congrArg (List.map itemCount.dropStart) hnames
    rw [List.map_map, List.map_map, List.nil_append] at hmap
    exact hmap.trans (List.map_congr_left fun m _ => hcount m)
  rw [listedItems, hdrop, List.filter_eq_self]
  intro w hw
  obtain ⟨m, _, rfl⟩ := List.mem_map.mp hw
  simpa using m.isTrimmed.ne_nil

/-! ## The pattern -/

/-- What follows the name: the verb, with "model" before it or not, and the list. -/
abbrev verbAndList : Pattern :=
  gap ++ (.opt (Pattern.text "model" ++ gap) ++ (Pattern.text "is equipped with:" ++ (blanks
    ++ .group 2 (.longest (· != '.')))))

theorem run_modelDefault {α : Type} (t : Place) (k : Place → Option α) : modelDefault.run t k
    = (opt (Pattern.text "the" ++ gap <|> Pattern.text "every" ++ gap)).run t fun t =>
        (group 1 (.one isWordChar ++ .shortest inName) ++ verbAndList).run t k := rfl

/-- The verb begins in one of two ways, each up to the colon. -/
theorem reads_verbAndList {u : List Char} (hu : SingleSpaced u) (h : verbAndList.Reads u) :
    ∃ p ∈ [" is equipped with", " model is equipped with"], p.toList ++ [':'] <+: folded u := by
  have hverb : (gap ++ Pattern.text "is equipped with:").Spells
      (" is equipped with".toList ++ [':']) := spells_gap.append (spells_text "is equipped with:")
  have hmodel : ((gap ++ Pattern.text "model") ++ (gap ++ Pattern.text "is equipped with:")).Spells
      (" model is equipped with".toList ++ [':']) :=
    (spells_gap.append (spells_text "model")).append hverb
  obtain ⟨x, _, rfl, hx, o, z, rfl, ho, y, w, rfl, hy, hw⟩ := h
  rcases ho with ⟨m, g, rfl, hm, hg⟩ | ho
  · have hread := (hmodel.beginsWith.seq _) (((x ++ m) ++ (g ++ y)) ++ w) (by simpa using hu)
      ⟨_, _, rfl, ⟨_, _, rfl, ⟨_, _, rfl, hx, hm⟩, _, _, rfl, hg, hy⟩, hw⟩
    exact ⟨" model is equipped with", by decide, by simpa only [List.append_assoc] using hread⟩
  · obtain rfl : o = [] := ho
    have hread := (hverb.beginsWith.seq _) ((x ++ y) ++ w) (by simpa using hu)
      ⟨_, _, rfl, ⟨_, _, rfl, hx, hy⟩, hw⟩
    exact ⟨" is equipped with", by decide,
      by simpa only [List.append_assoc, List.nil_append] using hread⟩

namespace Statement

variable (s : Statement)

/-- Behind no space of the name does the word "model" end it. -/
theorem not_model {x m : List Char} (hxm : s.name.text = x ++ ' ' :: m) :
    folded m ≠ "model".toList := by
  intro hmodel
  have hspace : ' ' ∉ m := fun h => by
    have hmem : foldChar ' ' ∈ folded m := List.mem_map_of_mem h
    rw [hmodel] at hmem
    revert hmem
    decide
  have hcut : spaced s.name.words ++ [] = x ++ ' ' :: m := by
    rw [List.append_nil]
    exact hxm
  obtain ⟨vs, us, _, hus, hwords, _, hm⟩ :=
    spaced_eq_cut (fun w hw => (s.name.isWord hw).space_not_mem) List.not_mem_nil hcut
  rw [List.append_nil] at hm
  subst hm
  rw [eq_singleton_of_space_not_mem hus hspace] at hwords
  have hlast : spaced us ∈ s.name.words.getLast? := by
    rw [hwords]
    simp
  have hword : spaced us ∈ s.name.words := by
    rw [hwords]
    simp
  exact s.no_model _ hlast (folded_word hword ▸ hmodel)

theorem folded_verb : folded (' ' :: s.verb) = ' ' :: s.verb := by
  unfold verb
  cases s.every <;> decide

theorem colon_not_mem_verb : ':' ∉ s.verb := by
  unfold verb
  cases s.every <;> decide

/-- A verb that is read from within the name goes up to the colon of the sentence. -/
theorem exists_verb_of_reads {x y t : List Char} (hxy : s.name.text = x ++ y)
    (hsingle : SingleSpaced (y ++ ' ' :: (s.verb ++ ':' :: t))) {u r : List Char}
    (hsplit : y ++ ' ' :: (s.verb ++ ':' :: t) = u ++ r) (hreads : verbAndList.Reads u) :
    ∃ p ∈ [" is equipped with", " model is equipped with"],
      folded y ++ ' ' :: s.verb = p.toList := by
  have hu : u <+: y ++ ' ' :: (s.verb ++ ':' :: t) := ⟨r, hsplit.symm⟩
  obtain ⟨p, hp, hpu⟩ := reads_verbAndList (hsingle.piece hu.isInfix) hreads
  obtain ⟨z, hz⟩ := hpu.trans (hu.map foldChar)
  have hcolon : ':' ∉ p.toList := by
    rcases List.mem_pair.mp hp with rfl | rfl <;> decide
  have hname : ':' ∉ folded (y ++ ' ' :: s.verb) := by
    intro h
    rcases List.mem_append.mp (mem_of_mem_folded (by decide) h) with h | h
    · exact PlainName.not_mem_text (n := s.name) (c := ':') (by decide) (by decide)
        (hxy ▸ List.mem_append_right x h)
    · exact s.colon_not_mem_verb ((List.mem_cons.mp h).resolve_left (by decide))
  have hfold : foldChar ':' = ':' := by decide
  have hcut : folded (y ++ ' ' :: s.verb) = p.toList := by
    refine first_eq_of_cut (x := folded t) (y := z) hname hcolon ?_
    simpa [hfold] using hz.symm
  rw [folded_append, folded_verb] at hcut
  exact ⟨p, hp, hcut⟩

/-- **Within the name the verb does not begin**: with the verb of the sentence, the rest of the name
    is too long, or else it is the word "model". -/
theorem not_reads_verb {x y t : List Char} (hxy : s.name.text = x ++ y) (hy : y ≠ [])
    (hsingle : SingleSpaced (y ++ ' ' :: (s.verb ++ ':' :: t))) {u r : List Char}
    (hsplit : y ++ ' ' :: (s.verb ++ ':' :: t) = u ++ r) : ¬ verbAndList.Reads u := by
  intro hreads
  obtain ⟨p, hp, hcut⟩ := s.exists_verb_of_reads hxy hsingle hsplit hreads
  have hlength := congrArg List.length hcut
  have hpos := List.length_pos_of_ne_nil hy
  rw [List.length_append, folded, List.length_map] at hlength
  cases hevery : s.every with
  | true =>
    have hverb : s.verb = "model is equipped with".toList := by rw [verb, hevery, if_pos rfl]
    rw [hverb] at hlength
    rcases List.mem_pair.mp hp with rfl | rfl
    · exact absurd hlength (by simp)
    · exact absurd hlength (by simp; omega)
  | false =>
    have hverb : s.verb = "is equipped with".toList := by
      rw [verb, hevery, if_neg Bool.false_ne_true]
    rw [hverb] at hlength hcut
    rcases List.mem_pair.mp hp with rfl | rfl
    · exact absurd hlength (by simp; omega)
    · have hends : folded y ++ ' ' :: "is equipped with".toList
          = (' ' :: "model".toList) ++ ' ' :: "is equipped with".toList := hcut
      have hmodel := List.append_cancel_right hends
      obtain ⟨c, m, rfl⟩ := List.exists_cons_of_ne_nil hy
      obtain ⟨hc, hm⟩ := List.cons.inj hmodel
      obtain rfl : c = ' ' := foldChar_eq_of_not_alpha (by decide) hc
      exact s.not_model hxy hm

/-- What stands behind the verb, up to the full stop, is the list. -/
theorem run_list {α : Type} {r : List Char} {gs : List (Nat × List Char × List Char)}
    {k : Place → Option α} {a : α}
    (hk : ∀ b, k ⟨b, '.' :: r, (2, s.list ++ '.' :: r, '.' :: r) :: gs⟩ = some a)
    (b : Option Char) : (blanks ++ group 2 (.longest (· != '.'))).run
      ⟨b, ' ' :: (s.list ++ '.' :: r), gs⟩ k = some a := by
  have htidy : IsTidy s.list := isTidy_listing s.first s.others
  have hlist : ∀ c ∈ s.list, (c != '.') = true := by
    intro c hc
    rcases mem_listing hc with rfl | rfl | rfl | hc
    · rfl
    · rfl
    · rfl
    · exact bne_iff_ne.mpr (ne_of_isAlpha hc (by decide))
  have hstop : ∀ c ∈ ('.' :: r).head?, (c != '.') = false := of_mem_head rfl r
  rw [run_append]
  refine run_many_eager (u := [' ']) isBlank_of_mem_space (htidy.trimmed.head_not_blank _)
    (fun b => ?_) b
  rw [run_group]
  refine run_longest htidy.trimmed.ne_nil hlist hstop (fun b => ?_) b
  exact hk b

/-- The verb and the list are read where they stand. -/
theorem run_verb {α : Type} {r : List Char} {gs : List (Nat × List Char × List Char)}
    {k : Place → Option α} {a : α}
    (hk : ∀ b, k ⟨b, '.' :: r, (2, s.list ++ '.' :: r, '.' :: r) :: gs⟩ = some a)
    (b : Option Char) : verbAndList.run
      ⟨b, ' ' :: (s.verb ++ ':' :: ' ' :: (s.list ++ '.' :: r)), gs⟩ k = some a := by
  have hequipped : ∀ b, (Pattern.text "is equipped with:" ++ (blanks
      ++ group 2 (.longest (· != '.')))).run
        ⟨b, "is equipped with:".toList ++ ' ' :: (s.list ++ '.' :: r), gs⟩ k = some a := fun b => by
    rw [run_append]
    exact run_text rfl (fun b => s.run_list hk b) b
  rw [run_append]
  cases hevery : s.every with
  | true =>
    have hverb : s.verb ++ ':' :: ' ' :: (s.list ++ '.' :: r)
        = "model".toList ++ ' ' :: ("is equipped with:".toList ++ ' ' :: (s.list ++ '.' :: r)) := by
      rw [verb, hevery, if_pos rfl]
      rfl
    rw [hverb]
    refine run_gap (of_mem_head (d := 'm') rfl _) (fun b => ?_) b
    rw [run_append]
    refine run_alt_left ?_ _
    rw [run_append]
    exact run_text rfl (run_gap (of_mem_head (d := 'i') rfl _) hequipped) b
  | false =>
    have hverb : s.verb ++ ':' :: ' ' :: (s.list ++ '.' :: r)
        = "is equipped with:".toList ++ ' ' :: (s.list ++ '.' :: r) := by
      rw [verb, hevery, if_neg Bool.false_ne_true]
      rfl
    rw [hverb]
    refine run_gap (of_mem_head (d := 'i') rfl _) (fun b => ?_) b
    rw [run_append]
    exact run_alt_right rfl (hequipped b)

/-- **The name is read up to the verb.** -/
theorem run_name {α : Type} {r : List Char} {gs : List (Nat × List Char × List Char)}
    {k : Place → Option α} {a : α} {t : List Char}
    (ht : t = s.verb ++ ':' :: ' ' :: (s.list ++ '.' :: r))
    (hsingle : SingleSpaced (s.name.text ++ ' ' :: t))
    (hk : ∀ b, k ⟨b, '.' :: r, (2, s.list ++ '.' :: r, '.' :: r)
      :: (1, s.name.text ++ ' ' :: t, ' ' :: t) :: gs⟩ = some a)
    (b : Option Char) : (group 1 (.one isWordChar ++ .shortest inName) ++ verbAndList).run
      ⟨b, s.name.text ++ ' ' :: t, gs⟩ k = some a := by
  obtain ⟨c, u, hcu, hc⟩ := s.name.exists_head
  have hu : u ≠ [] := by
    rintro rfl
    have hlong := s.two_le
    rw [hcu, List.length_singleton] at hlong
    exact absurd hlong (by decide)
  have hname : ∀ d ∈ u, inName d = true := fun d hd =>
    PlainName.inName_of_mem_text (hcu ▸ List.mem_cons_of_mem c hd)
  subst ht
  rw [run_append, run_group, run_append, hcu]
  refine run_one (isWordChar_of_isAlpha hc) (fun b => ?_) b
  refine run_shortest hu hname (fun x y hxy _ hy b => ?_) (fun b => ?_) b
  · refine run_eq_none (fun v w hsplit => ?_) _
    have hxy' : s.name.text = (c :: x) ++ y := by rw [hcu, hxy, List.cons_append]
    refine s.not_reads_verb hxy' hy (hsingle.piece ?_) hsplit
    rw [hxy', List.append_assoc]
    exact (List.suffix_append _ _).isInfix
  · rw [hcu] at hk
    exact s.run_verb hk b

/-- **A sentence is read as what it says**, whatever stands behind it. -/
theorem exists_modelDefault {r : List Char} (hsingle : SingleSpaced (s.body ++ '.' :: r))
    (b : Option Char) : ∃ m, modelDefault.matchAt b (s.body ++ '.' :: r) = some m
      ∧ m.start = s.body ++ '.' :: r ∧ m.stop = '.' :: r
      ∧ m.group 1 = s.name.text ∧ m.group 2 = s.list := by
  obtain ⟨t, ht⟩ : ∃ t, t = s.verb ++ ':' :: ' ' :: (s.list ++ '.' :: r) := ⟨_, rfl⟩
  have hsplit : s.body ++ '.' :: r = s.opening ++ ' ' :: (s.name.text ++ ' ' :: t) := by
    rw [ht, body]
    simp
  refine ⟨⟨s.body ++ '.' :: r, '.' :: r,
    [(2, s.list ++ '.' :: r, '.' :: r), (1, s.name.text ++ ' ' :: t, ' ' :: t)]⟩, ?_, rfl, rfl,
    Match.group_eq rfl, Match.group_eq rfl⟩
  rw [hsplit] at hsingle ⊢
  have hname : ∀ b, (group 1 (.one isWordChar ++ .shortest inName) ++ verbAndList).run
      ⟨b, s.name.text ++ ' ' :: t, []⟩ (fun u => some ⟨s.opening ++ ' ' :: (s.name.text ++ ' ' :: t),
        u.rest, u.groups⟩) = some (Match.mk _ _ _) :=
    s.run_name ht (hsingle.piece (List.suffix_append_of_suffix (List.suffix_cons _ _)).isInfix)
      fun _ => rfl
  have hhead : ∀ c ∈ (s.name.text ++ ' ' :: t).head?, isBlank c = false := s.name.head_not_blank _
  rw [matchAt, run_modelDefault]
  cases hevery : s.every with
  | true =>
    have hopening : s.opening = "Every".toList := by rw [opening, hevery, if_pos rfl]
    rw [hopening] at hname ⊢
    refine run_alt_left (run_alt_right rfl ?_) _
    rw [run_append]
    refine run_text (u := "Every".toList) (by decide) (fun b => ?_) b
    exact run_gap hhead hname b
  | false =>
    have hopening : s.opening = "The".toList := by
      rw [opening, hevery, if_neg Bool.false_ne_true]
    rw [hopening] at hname ⊢
    refine run_alt_left (run_alt_left ?_ _) _
    rw [run_append]
    refine run_text (u := "The".toList) (by decide) (fun b => ?_) b
    exact run_gap hhead hname b

theorem isTidy_chars : IsTidy s.chars := by
  have hopening : IsTidy s.opening := by
    refine IsWord.isTidy ?_
    rw [opening]
    cases s.every <;> decide
  have hverb : IsTidy (s.verb ++ [':']) := by
    have hwords : ∀ ws : List String, ws ≠ [] → (∀ w ∈ ws, IsWord w.toList) →
        IsTidy (spaced (ws.map String.toList) ++ [':']) := by
      intro ws hne hws
      refine (isTidy_spaced (by simpa using hne) fun w hw => ?_).append_marks
        fun c hc => List.mem_singleton.mp hc ▸ rfl
      obtain ⟨v, hv, rfl⟩ := List.mem_map.mp hw
      exact (hws v hv).isTidy
    rw [verb]
    cases s.every with
    | true => exact hwords ["model", "is", "equipped", "with"] (by decide) (by decide)
    | false => exact hwords ["is", "equipped", "with"] (by decide) (by decide)
  have hlist : IsTidy (s.list ++ ['.']) :=
    (isTidy_listing s.first s.others).append_marks fun c hc => List.mem_singleton.mp hc ▸ rfl
  have hall := hopening.join (s.name.isTidy.join (hverb.join hlist))
  rw [chars, body]
  simpa using hall

theorem angle_not_mem_chars : '<' ∉ s.chars := by
  have hopening : '<' ∉ s.opening := by
    rw [opening]
    cases s.every <;> decide
  have hverb : '<' ∉ s.verb := by
    rw [verb]
    cases s.every <;> decide
  have hlist : '<' ∉ s.list := fun h => by
    rcases mem_listing h with h | h | h | h
    all_goals cases h
  have hname : '<' ∉ s.name.text := PlainName.not_mem_text (by decide) (by decide)
  simp [chars, body, hopening, hverb, hlist, hname]

/-- The items and the name make the default that the sentence states. -/
theorem statedDefault_list : statedDefault (trim s.name.text) s.list = some s.loadout := by
  have hitems : listedItems s.list = s.items.map PlainName.text :=
    listedItems_listing s.first s.others
  rw [statedDefault, hitems, s.name.isTrimmed.trim_eq,
    if_neg (by simp [items]), List.map_map]
  rfl

end Statement

/-! ## Texts of statements -/

/-- Statements with one space between them. -/
def stated (ss : List Statement) : List Char := spaced (ss.map Statement.chars)

theorem stated_cons (s : Statement) {ss : List Statement} (hss : ss ≠ []) :
    stated (s :: ss) = s.chars ++ ' ' :: stated ss := by
  rw [stated, List.map_cons, spaced_cons (by simpa using hss)]
  rfl

theorem isTidy_stated {ss : List Statement} (hss : ss ≠ []) : IsTidy (stated ss) := by
  refine isTidy_spaced (by simpa using hss) fun w hw => ?_
  obtain ⟨s, _, rfl⟩ := List.mem_map.mp hw
  exact s.isTidy_chars

/-- **The sentences of a text are found in order.** -/
theorem findAllFrom_stated : ∀ (ss : List Statement) (b : Option Char),
    List.Forall₂ (fun m s => m.group 1 = s.name.text ∧ m.group 2 = s.list)
      (modelDefault.findAllFrom 0 b (stated ss)) ss
  | [], _ => .nil
  | s :: ss, b => by
    have hne : s.body ≠ [] := List.append_ne_nil_of_right_ne_nil _ (List.cons_ne_nil _ _)
    obtain ⟨r, hr, hafter⟩ : ∃ r, stated (s :: ss) = s.body ++ '.' :: r
        ∧ ∀ b, List.Forall₂ (fun m s => m.group 1 = s.name.text ∧ m.group 2 = s.list)
          (modelDefault.findAllFrom 0 b r) ss := by
      by_cases hss : ss = []
      · subst hss
        refine ⟨[], by rw [stated, List.map_singleton, spaced_singleton, Statement.chars],
          fun _ => .nil⟩
      · refine ⟨' ' :: stated ss, ?_, fun _ => findAllFrom_stated ss (some ' ')⟩
        rw [stated_cons s hss, Statement.chars, List.append_assoc, List.singleton_append]
    have hsingle : SingleSpaced (s.body ++ '.' :: r) :=
      hr ▸ (isTidy_stated (List.cons_ne_nil s ss)).singleSpaced
    obtain ⟨m, hm, hstart, hstop, hname, hlist⟩ := s.exists_modelDefault hsingle b
    obtain ⟨b', hall⟩ := findAllFrom_match hne hm hstart hstop
    -- no sentence begins at a full stop
    have hdot : modelDefault.findAllFrom 0 b' ('.' :: r) = modelDefault.findAllFrom 0 (some '.') r :=
      rfl
    rw [hr, hall, hdot]
    exact .cons ⟨hname, hlist⟩ (hafter (some '.'))

theorem filterMap_found {ms : List Match} {ss : List Statement}
    (h : List.Forall₂ (fun m s => m.group 1 = s.name.text ∧ m.group 2 = s.list) ms ss) :
    (ms.filterMap fun m => statedDefault (trim (m.group 1)) (m.group 2))
      = ss.map Statement.loadout := by
  induction h with
  | nil => rfl
  | @cons m s ms ss hm _ ih =>
    obtain ⟨hname, hlist⟩ := hm
    rw [List.filterMap_cons, hname, hlist, s.statedDefault_list, ih, List.map_cons]

/-- **A text of statements is read as what they say**, in order, whatever the roster is. -/
theorem parseDefaultLoadout_stated (ss : List Statement) (roster : List RosterEntry) :
    parseDefaultLoadout (String.ofList (stated ss)) roster = ss.map Statement.loadout := by
  by_cases hss : ss = []
  · subst hss
    rfl
  · have hangle : '<' ∉ stated ss := by
      intro h
      rcases mem_spaced h with h | ⟨w, hw, h⟩
      · cases h
      · obtain ⟨s, _, rfl⟩ := List.mem_map.mp hw
        exact s.angle_not_mem_chars h
    have hplain : dropMarkup (stated ss) = stated ss := by
      rw [dropMarkup, replaceTags_eq_self [] hangle, (isTidy_stated hss).trimmed.trim_eq]
    have hnamed := filterMap_found (findAllFrom_stated ss none)
    rw [parseDefaultLoadout, String.toList_ofList, hplain, findAll, hnamed,
      if_pos (by simpa using hss)]

/-- What a sergeant starts with. -/
def sergeantStatement : Statement where
  every := false
  name := oneWord "Sergeant" (by decide)
  first := oneWord "pistol" (by decide)
  others := [(true, oneWord "shield" (by decide))]
  two_le := by decide
  no_model := by decide

/-- What the others start with. -/
def marineStatement : Statement where
  every := true
  name := oneWord "Marine" (by decide)
  first := oneWord "rifle" (by decide)
  others := []
  two_le := by decide
  no_model := by decide

theorem parseDefaultLoadout_sergeant_marine : parseDefaultLoadout
    "The Sergeant is equipped with: pistol; shield. Every Marine model is equipped with: rifle." []
      = [⟨"Sergeant", ["pistol", "shield"]⟩, ⟨"Marine", ["rifle"]⟩] :=
  parseDefaultLoadout_stated [sergeantStatement, marineStatement] []

end Muster.Wargear
