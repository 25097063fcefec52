/-
  Rule phrases: what a rule turns away for want of its phrase, its pattern does not match either.

  1. **Program.**  A rule may name a phrase.  A sentence that does not hold the phrase in lower case
     is turned away before the pattern is tried, and passes on to the next rule.

  2. **Specification.**  `Rule.bare` is the rule without its phrase.  A table classifies as if all
     its rules were bare.

  3. **The crux** (`Requires.infix_folded`) is about patterns.  Where one of the pieces in a row is a
     literal, whatever the row reads holds the literal with case ignored.  It does not matter what
     the other pieces are, whether they are eager or lazy, or which way of matching is found.

  4. **Why ASCII.**  A pattern ignores case, a phrase is looked for in lower case.  In ASCII these
     are the same.  Beyond it a dotless `ı` stands for an `i` in a pattern and stays what it is in
     lower case, so that a sentence with it can be turned away wrongly.
-/
import Mathlib
import Muster.Proofs.Wargear.Opening
import Muster.Wargear.Action

namespace Muster.Text.Pattern

/-! ## Literals that a pattern must read -/

/-- A pattern is a row of pieces, one of which is a literal that holds a phrase. -/
inductive Requires : Pattern → List Char → Prop
  | literal {w v : List Char} (h : w <:+: v) : Requires (textOf v) w
  | left {p : Pattern} {w : List Char} (q : Pattern) : Requires p w → Requires (p ++ q) w
  | right {q : Pattern} {w : List Char} (p : Pattern) : Requires q w → Requires (p ++ q) w

/-- **Whatever such a pattern reads holds the phrase**, case ignored. -/
theorem Requires.infix_folded {p : Pattern} {w : List Char} (h : p.Requires w) {u : List Char}
    (hu : p.Reads u) : folded w <:+: folded u := by
  induction h generalizing u with
  | literal hw =>
    rw [reads_textOf.mp hu]
    exact hw.map foldChar
  | left q _ ih =>
    obtain ⟨x, y, rfl, hx, _⟩ := hu
    rw [folded_append]
    exact (ih hx).trans (List.prefix_append _ _).isInfix
  | right p _ ih =>
    obtain ⟨x, y, rfl, _, hy⟩ := hu
    rw [folded_append]
    exact (ih hy).trans (List.suffix_append _ _).isInfix

/-- So does a text in which it is found. -/
theorem Requires.infix_folded_of_find {p : Pattern} {w s : List Char} (h : p.Requires w)
    {m : Match} (hfind : p.find s = some m) : folded w <:+: folded s := by
  obtain ⟨x, u, hsplit, _, hreads⟩ := (found_of_find hfind).within
  have hpiece : u <:+: s := ⟨x, m.stop, hsplit.symm⟩
  exact (h.infix_folded hreads).trans (hpiece.map foldChar)

end Muster.Text.Pattern

namespace Muster.Wargear

open Text Pattern

/-! ## Rules -/

section Rule

variable {α : Type} {r : Rule α} {s : List Char}

/-- The rule that turns no sentence away. -/
def Rule.bare (r : Rule α) : Rule α := { r with phrase := none }

/-- If the rule names a phrase, it is in lower case, and the pattern must read it. -/
def Rule.PhraseRequired (r : Rule α) : Prop :=
  ∀ w, r.phrase = some w → folded w.toList = w.toList ∧ r.pattern.Requires w.toList

theorem Rule.PhraseRequired.infix_lower (h : r.PhraseRequired) (hascii : ∀ c ∈ s, c.toNat < 0x80)
    {m : Pattern.Match} (hfind : r.pattern.find s = some m) {w : String}
    (hw : r.phrase = some w) : w.toList <:+: lower s := by
  obtain ⟨hlower, hrequires⟩ := h w hw
  rw [lower_of_ascii hascii, ← hlower]
  exact hrequires.infix_folded_of_find hfind

/-- A sentence in which the pattern is found is not turned away. -/
theorem Rule.PhraseRequired.admits (h : r.PhraseRequired) (hascii : ∀ c ∈ s, c.toNat < 0x80)
    {m : Pattern.Match} (hfind : r.pattern.find s = some m) : r.admits s = true := by
  unfold Rule.admits
  split
  · rfl
  · rename_i w hw
    exact occurs_eq_true_iff.mpr (h.infix_lower hascii hfind hw)

theorem Rule.PhraseRequired.apply_bare (h : r.PhraseRequired) (hascii : ∀ c ∈ s, c.toNat < 0x80) :
    r.bare.apply s = r.apply s := by
  have hbare : r.bare.admits s = true := rfl
  unfold Rule.apply
  rw [if_pos hbare]
  have hfrom : r.bare.pattern.find s = r.pattern.find s := rfl
  rw [hfrom]
  cases hfind : r.pattern.find s with
  | none => split_ifs <;> rfl
  | some m =>
    rw [if_pos (h.admits hascii hfind)]
    rfl

/-- **A table classifies as if its rules named no phrases**, rule by rule. -/
theorem classify_map_bare (fallback : α) (hascii : ∀ c ∈ s, c.toNat < 0x80) :
    ∀ rs : List (Rule α), (∀ r ∈ rs, r.PhraseRequired) →
      classify fallback s (rs.map Rule.bare) = classify fallback s rs
  | [], _ => rfl
  | r :: rs, h => by
    have hrest := classify_map_bare fallback hascii rs fun q hq => h q (List.mem_cons_of_mem r hq)
    rw [List.map_cons, classify, classify, (h r List.mem_cons_self).apply_bare hascii, hrest]

end Rule

/-! ## The tables -/

/-- Only the rules that name a phrase have anything to show. -/
theorem phraseRequired_of_filter {α : Type} {rs named : List (Rule α)}
    (h : ∀ r ∈ named, r.PhraseRequired) (hnamed : rs.filter (·.phrase.isSome) = named) :
    ∀ r ∈ rs, r.PhraseRequired := by
  intro r hr w hw
  have hmem : r ∈ named := by
    rw [← hnamed]
    exact List.mem_filter.mpr ⟨hr, by rw [hw]; rfl⟩
  exact h r hmem w hw

theorem phraseRequired_targetingRules : ∀ r ∈ targetingRules, r.PhraseRequired := by
  have hdual : ∀ r ∈ [targetingRules[14]], r.PhraseRequired := by
    rw [List.forall_mem_singleton]
    rintro _ ⟨⟩
    exact ⟨rfl, .right _ (.literal List.infix_rfl)⟩
  exact phraseRequired_of_filter hdual rfl

theorem phraseRequired_actionRules : ∀ r ∈ actionRules, r.PhraseRequired := by
  have hreplaced : ∀ r ∈ [actionRules[0], actionRules[4], actionRules[5], actionRules[6]],
      r.PhraseRequired := by
    simp only [List.forall_mem_cons]
    refine ⟨?_, ?_, ?_, ?_, fun _ h => absurd h List.not_mem_nil⟩
    -- pieces are dropped from the end of the row until its last piece is the literal
    all_goals
      rintro _ ⟨⟩
      refine ⟨rfl, ?_⟩
      repeat first
        | exact .right _ (.literal (by decide))
        | refine .left _ ?_
  exact phraseRequired_of_filter hreplaced rfl

theorem ascii_of_mem_sentence {s : List Char} (hascii : ∀ c ∈ s, c.toNat < 0x80) :
    ∀ c ∈ sentence s, c.toNat < 0x80 := by
  intro c hc
  unfold sentence at hc
  rw [plainQuotes_of_ascii hascii] at hc
  exact hascii c ((trim_isInfix s).subset hc)

/-- **Phrases turn away nothing that a rule would read.**  In an ASCII text in which the pattern of
    a rule is found, the phrase of the rule occurs in lower case.  So both tables classify every
    such text as if no rule named a phrase. -/
theorem phrases_turn_nothing_away {s : List Char} (hascii : ∀ c ∈ s, c.toNat < 0x80) :
    (∀ r ∈ targetingRules, ∀ w, r.phrase = some w → r.pattern.occursIn s = true →
      w.toList <:+: lower s) ∧
    (∀ r ∈ actionRules, ∀ w, r.phrase = some w → r.pattern.occursIn s = true →
      w.toList <:+: lower s) ∧
    classifyTargeting s = classify .unknown (sentence s) (targetingRules.map Rule.bare) ∧
    classifyAction s = classify .unknown (sentence s) (actionRules.map Rule.bare) := by
  have hsentence := ascii_of_mem_sentence hascii
  refine ⟨?_, ?_, (classify_map_bare _ hsentence _ phraseRequired_targetingRules).symm,
    (classify_map_bare _ hsentence _ phraseRequired_actionRules).symm⟩
  · intro r hr w hw hoccurs
    obtain ⟨m, hfind⟩ := Option.isSome_iff_exists.mp hoccurs
    exact (phraseRequired_targetingRules r hr).infix_lower hascii hfind hw
  · intro r hr w hw hoccurs
    obtain ⟨m, hfind⟩ := Option.isSome_iff_exists.mp hoccurs
    exact (phraseRequired_actionRules r hr).infix_lower hascii hfind hw

/-- The option "This model's PISTOL and axe can be replaced with 1 bolter." -/
def pistolAndAxe : List Char :=
  "This model's PISTOL and axe can be replaced with 1 bolter.".toList

/-- Two items are replaced at once: the rule for this names a phrase and reads the option. -/
theorem phrases_turn_nothing_away_pistol_and_axe :
    (∀ c ∈ pistolAndAxe, c.toNat < 0x80) ∧
    (∃ r ∈ actionRules, r.phrase = some "can be replaced with" ∧
      r.pattern.occursIn pistolAndAxe = true) ∧
    "can be replaced with".toList <:+: lower pistolAndAxe ∧
    classifyAction pistolAndAxe
      = classify .unknown (sentence pistolAndAxe) (actionRules.map Rule.bare) := by
  have hall : pistolAndAxe.all (·.toNat < 0x80) = true := by decide +kernel
  have hascii : ∀ c ∈ pistolAndAxe, c.toNat < 0x80 := fun c hc =>
    of_decide_eq_true (List.all_eq_true.mp hall c hc)
  have hmem : actionRules[4] ∈ actionRules := List.getElem_mem _
  have hoccurs : actionRules[4].pattern.occursIn pistolAndAxe = true := by decide +kernel
  obtain ⟨_, hphrase, _, hclass⟩ := phrases_turn_nothing_away hascii
  exact ⟨hascii, ⟨_, hmem, rfl, hoccurs⟩, hphrase _ hmem _ rfl hoccurs, hclass⟩

/-- In "wıth" the pattern reads the dotless letter as an `i`, the phrase is not there. -/
example :
    actionRules[4].pattern.occursIn "A and b can be replaced wıth 1 c.".toList = true ∧
      actionRules[4].admits "A and b can be replaced wıth 1 c.".toList = false := by
  decide +kernel

end Muster.Wargear
