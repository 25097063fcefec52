/-
  "None" and footnotes: the lines that count as read and say nothing.

  1. **Program.**  A line counts as read when both of its axes are known, and also when it says
     "None" or begins with an asterisk.  The first two rules of the table of openings stand for these
     two, but they look for other things than the test does: the rule for footnotes wants a blank
     behind the asterisk, and the rule for "None" ignores case in its own way.

  2. **The two agree.**  Only ASCII letters become those of "none" in lower case, so the rule matches
     what the test finds (`classify_none`).  No opening begins with an asterisk, so with or without a
     blank behind it no other rule matches (`classify_footnote`).

  3. **What follows.**  A line that cannot change a loadout and counts as read has no targeting at
     all (`targeting_eq_unknown`).
-/
import Mathlib
import Muster.Proofs.Except
import Muster.Proofs.Text.LetterCase
import Muster.Wargear.Option
import Muster.Proofs.Wargear.Opening

namespace Muster.Wargear

open Text Pattern

/-! ## Footnotes -/

/-- Rules that do not match a sentence, or read nothing but the fallback, leave it unclassified. -/
theorem classify_eq_fallback {α : Type} {f : α} {s : List Char} : ∀ {rs : List (Rule α)},
    (∀ r ∈ rs, r.pattern.find s = none ∨ ∀ m, r.read m s = .ok f) → classify f s rs = .ok f
  | [], _ => rfl
  | r :: rs, h => by
    have hrest : classify f s rs = .ok f :=
      classify_eq_fallback fun q hq => h q (List.mem_cons_of_mem r hq)
    rcases h r List.mem_cons_self with hnone | hread
    · rw [classify_of_find_eq_none hnone, hrest]
    · rw [classify, Rule.apply]
      cases hfind : r.pattern.find s with
      | none =>
        split_ifs <;> exact hrest
      | some m =>
        dsimp only
        rw [hread m]
        split_ifs
        · rfl
        · exact hrest

/-- Every opening is looked for at the start of a sentence. -/
theorem anchored_targetingRules : ∀ r ∈ targetingRules, r.pattern.Anchored := by
  simp only [targetingRules, List.forall_mem_cons, List.not_mem_nil, false_implies, implies_true,
    and_true]
  repeat' apply And.intro
  all_goals repeat first
    | exact .start
    | refine .seq _ ?_

/-- No opening but that of a footnote begins with an asterisk, and that one says nothing. -/
theorem matchStart_asterisk (t : List Char) : ∀ r ∈ targetingRules,
    r.pattern.matchStart ('*' :: t) = none ∨ ∀ m, r.read m ('*' :: t) = .ok .unknown := by
  simp only [targetingRules, List.forall_mem_cons, List.not_mem_nil, false_implies, implies_true,
    and_true]
  repeat' apply And.intro
  -- what a pattern makes of one known character is computed
  all_goals first
    | exact Or.inl rfl
    | exact Or.inr trivial

/-- **A footnote has no targeting**, whatever follows the asterisk. -/
theorem classify_footnote (t : List Char) :
    classify .unknown ('*' :: t) targetingRules = .ok .unknown := by
  refine classify_eq_fallback fun r hr => ?_
  rw [(anchored_targetingRules r hr).find_eq]
  exact matchStart_asterisk t r hr

/-! ## None -/

/-- What lower case brings to ASCII without an `i` or a `k` was in ASCII. -/
theorem ascii_of_lower_eq {s w : List Char} (h : lower s = w)
    (hw : (w.all fun d => d.toNat < 0x80 && d != 'i' && d != 'k') = true) :
    ∀ c ∈ s, c.toNat < 0x80 := by
  refine ascii_of_lowerAfter [] fun d hd => ?_
  have hd' := List.all_eq_true.mp hw d (h ▸ hd)
  simpa [and_assoc] using hd'

/-- It is the same up to case. -/
theorem folded_of_lower_eq {s w : List Char} (h : lower s = w)
    (hw : (w.all fun d => d.toNat < 0x80 && d != 'i' && d != 'k') = true) : folded s = w :=
  (lower_of_ascii (ascii_of_lower_eq h hw)).symm.trans h

/-- **"None" has no targeting**, in any case and with or without a full stop. -/
theorem classify_none {s : List Char} (h : folded s = "none".toList ∨ folded s = "none.".toList) :
    classify .unknown s targetingRules = .ok .unknown := by
  have hmatch : ∃ m, (textStart ++ Pattern.text "none" ++ .opt (.char '.') ++ textEnd).matchStart s
      = some m := by
    rcases h with h | h
    · refine ⟨⟨s, [], []⟩, ?_⟩
      rw [matchStart, matchAt, run_append, run_append, run_append, run_textStart,
        ← List.append_nil s]
      exact run_text h (fun b => run_alt_right rfl rfl) none
    · obtain ⟨u, v, rfl, hu, hv⟩ := List.map_eq_append_iff.mp
        (h.trans (show "none.".toList = "none".toList ++ ['.'] from rfl))
      obtain ⟨c, rfl, hc⟩ := List.map_eq_singleton_iff.mp hv
      refine ⟨⟨u ++ [c], [], []⟩, ?_⟩
      rw [matchStart, matchAt, run_append, run_append, run_append, run_textStart]
      exact run_text hu (fun b => run_alt_left (run_char hc (fun _ => rfl) b) _) none
  obtain ⟨m, hm⟩ := hmatch
  exact classify_of_read rfl (find_of_matchStart hm) rfl

/-! ## Lines that count as read -/

/-- The sentence of a line is trimmed. -/
theorem trim_sentence (s : List Char) : trim (sentence s) = sentence s := trim_trim _

/-- A sentence that says "None" or is a footnote has no targeting. -/
theorem classify_targeting_of_silent {s : List Char} (hs : trim s = s)
    (h : saysNone s = true ∨ isFootnote s = true) :
    classify .unknown s targetingRules = .ok .unknown := by
  rw [saysNone, isFootnote, hs] at h
  rcases h with h | h
  · rw [Bool.or_eq_true, beq_iff_eq, beq_iff_eq] at h
    refine classify_none ?_
    rcases h with h | h
    · exact Or.inl (folded_of_lower_eq h (by decide))
    · exact Or.inr (folded_of_lower_eq h (by decide))
  · obtain ⟨t, rfl⟩ := begins_eq_true_iff.mp h
    exact classify_footnote t

/-- **A line that counts as read and cannot change a loadout has no targeting.** -/
theorem targeting_eq_unknown {text : String} {line : Int} {o : ParsedOption}
    (hparse : parse text line = .ok o) (hread : o.wargearParsed = true)
    (hidle : o.isActionable = false) : o.targeting = .unknown := by
  rw [parse] at hparse
  obtain ⟨t, ht, hparse⟩ := bind_eq_ok.mp hparse
  obtain ⟨a, _, hparse⟩ := bind_eq_ok.mp hparse
  obtain ⟨c, _, hparse⟩ := bind_eq_ok.mp hparse
  obtain rfl := Except.ok.inj hparse
  rw [ParsedOption.isActionable] at hidle
  dsimp only at hread hidle ⊢
  rw [hidle, Bool.false_or, Bool.or_eq_true] at hread
  have hunknown := classify_targeting_of_silent (trim_sentence text.toList) hread
  exact Except.ok.inj (ht.symm.trans hunknown)

end Muster.Wargear
