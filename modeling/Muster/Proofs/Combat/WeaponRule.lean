/-
  Weapon rules: what a text comes to, and when it is refused.

  1. **Program.**  `WeaponRules.ofTexts` takes the texts behind a weapon one after the other.  Each
     is spelled in upper case and told by its name: a plain one, one with a number behind it, or an
     anti rule (`WeaponRule.ofSpelling?`).

  2. **Specification.**  `Spells s rule` says the same of the text `s` as a whole.  The number of a
     rule is that of the first run of digits behind its name (`FirstNumber`), and an anti rule is
     `ANTI-`, a keyword, blanks, a digit and a plus (`SpellsAnti`).

  3. **The crux (`anti?_of_spells`)**: the ways to read an anti rule differ only in how many blanks
     go to the keyword, which is trimmed.  So all of them tell the same rule, and it is enough that
     matching finds one.

  4. **Outcome** (`ofTexts_outcome`).  A text comes to a mechanic that its own reader accepts, or to
     an effect alone, or to nothing.  There are two exceptions, and each refuses the whole weapon: a
     number of too many digits, and an anti rule whose digit is no threshold.
-/
import Mathlib
import Muster.Combat.WeaponRule
import Muster.Proofs.Combat.RoundTrip
import Muster.Proofs.Combat.Template

namespace Muster.Combat

open Text Text.Pattern Document

/-! ## The first number of a text -/

/-- The first run of digits in a text, as long as it can be. -/
structure FirstRun (t ds : List Char) : Prop where
  ne_nil : ds ≠ []
  digits : ∀ c ∈ ds, isDecimal c = true
  cut : ∃ u v, t = u ++ ds ++ v ∧ (∀ c ∈ u, isDecimal c = false) ∧
    ∀ c ∈ v.head?, isDecimal c = false

/-- The number of a text: that of its first run of digits, if they are few enough to be read, or one
    if there is none. -/
inductive FirstNumber (t : List Char) : Nat → Prop
  | run {ds : List Char} : FirstRun t ds → ds.length ≤ mostDigits → FirstNumber t (decimalValue ds)
  | none : (∀ c ∈ t, isDecimal c = false) → FirstNumber t 1

/-- The first number of a text has more digits than are read. -/
def LongFirstNumber (t : List Char) (e : LongNumeral) : Prop :=
  ∃ ds, FirstRun t ds ∧ mostDigits < ds.length ∧ e = ⟨ds.length⟩

section Number

variable {t ds : List Char}

theorem FirstRun.read (h : FirstRun t ds) :
    (t.dropWhile (!isDecimal ·)).takeWhile isDecimal = ds := by
  obtain ⟨u, v, rfl, hu, hv⟩ := h.cut
  obtain ⟨c, r, rfl⟩ := List.exists_cons_of_ne_nil h.ne_nil
  have hskip : (u ++ ((c :: r) ++ v)).dropWhile (!isDecimal ·) = (c :: r) ++ v := by
    rw [List.dropWhile_append_of_pos fun d hd => by simp [hu d hd], List.cons_append,
      List.dropWhile_cons_of_neg (by simp [h.digits c List.mem_cons_self])]
  rw [List.append_assoc, hskip]
  exact takeWhile_of_head h.digits hv

theorem exists_firstRun (h : ∃ c ∈ t, isDecimal c = true) : ∃ ds, FirstRun t ds := by
  have hfirst : t.dropWhile (!isDecimal ·) ≠ [] := by
    obtain ⟨c, hc, hdigit⟩ := h
    intro hnil
    have hall := List.dropWhile_eq_nil_iff.mp hnil c hc
    rw [hdigit] at hall
    cases hall
  obtain ⟨c, r, hrest⟩ := List.exists_cons_of_ne_nil hfirst
  have hc : isDecimal c = true := by
    have hhead := List.head?_dropWhile_not (!isDecimal ·) t
    rw [hrest] at hhead
    simpa using hhead
  refine ⟨(c :: r).takeWhile isDecimal, ?_, fun d hd => List.mem_takeWhile_imp hd,
    t.takeWhile (!isDecimal ·), (c :: r).dropWhile isDecimal, ?_, fun d hd => ?_, fun d hd => ?_⟩
  · rw [List.takeWhile_cons, if_pos hc]
    exact List.cons_ne_nil _ _
  · rw [List.append_assoc, List.takeWhile_append_dropWhile, ← hrest,
      List.takeWhile_append_dropWhile]
  · simpa using List.mem_takeWhile_imp hd
  · have hhead := List.head?_dropWhile_not isDecimal (c :: r)
    rw [Option.mem_def.mp hd] at hhead
    simpa using hhead

theorem FirstRun.firstNumber_eq (h : FirstRun t ds) :
    WeaponRule.firstNumber t = readNumeral ds := by
  rw [WeaponRule.firstNumber, h.read]
  obtain ⟨c, r, rfl⟩ := List.exists_cons_of_ne_nil h.ne_nil
  rfl

theorem firstNumber_of_not_decimal (h : ∀ c ∈ t, isDecimal c = false) :
    WeaponRule.firstNumber t = .ok 1 := by
  have hnil : t.dropWhile (!isDecimal ·) = [] :=
    List.dropWhile_eq_nil_iff.mpr fun c hc => by simp [h c hc]
  rw [WeaponRule.firstNumber, hnil]
  rfl

/-- Either no digit stands in a text, or its first run of digits is short, or it is long. -/
theorem firstNumber_or_long (t : List Char) :
    (∃ n, FirstNumber t n) ∨ ∃ e, LongFirstNumber t e := by
  by_cases h : ∃ c ∈ t, isDecimal c = true
  · obtain ⟨ds, hds⟩ := exists_firstRun h
    rcases Nat.lt_or_ge mostDigits ds.length with hlong | hshort
    · exact Or.inr ⟨_, ds, hds, hlong, rfl⟩
    · exact Or.inl ⟨_, .run hds hshort⟩
  · refine Or.inl ⟨1, .none fun c hc => ?_⟩
    rw [← Bool.not_eq_true]
    exact fun hdigit => h ⟨c, hc, hdigit⟩

theorem FirstNumber.firstNumber_eq {n : Nat} (h : FirstNumber t n) :
    WeaponRule.firstNumber t = .ok n := by
  cases h with
  | run hrun hshort => rw [hrun.firstNumber_eq, readNumeral, if_neg (Nat.not_lt.mpr hshort)]
  | none hnone => exact firstNumber_of_not_decimal hnone

theorem LongFirstNumber.firstNumber_eq {e : LongNumeral} (h : LongFirstNumber t e) :
    WeaponRule.firstNumber t = .error e := by
  obtain ⟨ds, hrun, hlong, rfl⟩ := h
  rw [hrun.firstNumber_eq, readNumeral, if_pos hlong]

end Number

namespace WeaponRule

/-! ## Spellings -/

/-- A text is an anti rule: its name, a keyword within one line, blanks, a digit and a plus. -/
def SpellsAnti (s keyword : List Char) (n : Nat) : Prop :=
  ∃ k gap d, s = antiName ++ (k ++ gap ++ [d, '+']) ∧ k ≠ [] ∧ '\n' ∉ k ∧ gap ≠ [] ∧
    (∀ c ∈ gap, isBlank c = true) ∧ digitValue? d = some n ∧ trim k = keyword

/-- A text spells a rule. -/
inductive Spells (s : List Char) : WeaponRule → Prop
  | plain {name : String} {rule : WeaponRule} :
    (name, rule) ∈ plainRules → s = name.toList → Spells s rule
  | numbered {name : String} {make : Nat → WeaponRule} {t : List Char} {n : Nat} :
    (name, make) ∈ numberedRules → s = name.toList ++ t → FirstNumber t n → Spells s (make n)
  | anti {keyword : List Char} {n : Nat} : SpellsAnti s keyword n → Spells s (anti keyword n)

/-- A text is a rule with a number of more digits than are read. -/
def SpellsLong (s : List Char) (e : LongNumeral) : Prop :=
  ∃ name make t, (name, make) ∈ numberedRules ∧ s = name.toList ++ t ∧ LongFirstNumber t e

variable {s : List Char}

/-- What `antiRest` reads before the end of a text. -/
def antiBody : Pattern := .phrase 1 ++ (.gap ++ (.group 2 (.one isDecimal) ++ .char '+'))

theorem reads_antiBody {k gap : List Char} {d : Char} (hk : k ≠ []) (hline : '\n' ∉ k)
    (hgap : gap ≠ []) (hblank : ∀ c ∈ gap, isBlank c = true) (hd : isDecimal d = true) :
    antiBody.Reads (k ++ gap ++ [d, '+']) := by
  refine ⟨k, gap ++ [d, '+'], List.append_assoc _ _ _,
    reads_oneOrMore.mpr ⟨hk, fun c hc => ?_⟩, gap, [d, '+'], rfl,
    reads_oneOrMore.mpr ⟨hgap, hblank⟩, [d], ['+'], rfl, ⟨d, hd, rfl⟩, reads_char.mpr rfl⟩
  exact bne_iff_ne.mpr fun h => hline (h ▸ hc)

theorem isSome_matchStart_antiRest {k gap : List Char} {d : Char} (hk : k ≠ []) (hline : '\n' ∉ k)
    (hgap : gap ≠ []) (hblank : ∀ c ∈ gap, isBlank c = true) (hd : isDecimal d = true) :
    (antiRest.matchStart (k ++ gap ++ [d, '+'])).isSome = true := by
  have hfree : antiBody.ContextFree := ⟨⟨trivial, trivial⟩, ⟨trivial, trivial⟩, trivial, trivial⟩
  have hrun := isSome_run (r := []) hfree (reads_antiBody hk hline hgap hblank hd)
    (k := fun t => Pattern.textEnd.run t fun t =>
      some (Match.mk (k ++ gap ++ [d, '+']) t.rest t.groups)) (fun b gs => rfl) none []
  rwa [List.append_nil] at hrun

/-- What matches as the rest of an anti rule, if no blank ends it. -/
theorem exists_of_matchStart_antiRest {t r : List Char} {m : Match}
    (h : antiRest.matchStart r = some m) (htrim : trim t = antiName ++ r) :
    ∃ k gap d, r = k ++ gap ++ [d, '+'] ∧ k ≠ [] ∧ '\n' ∉ k ∧ gap ≠ [] ∧
      (∀ c ∈ gap, isBlank c = true) ∧ isDecimal d = true ∧ m.group 1 = k ∧ m.group 2 = [d] := by
  have hrun : (Pattern.shortest inLine).run ⟨none, r, []⟩ (fun t =>
      Pattern.gap.run ⟨t.before, t.rest, (1, r, t.rest) :: t.groups⟩ fun t =>
        (Pattern.one isDecimal).run t fun t' =>
          (Pattern.char '+').run ⟨t'.before, t'.rest, (2, t.rest, t'.rest) :: t'.groups⟩ fun t =>
            Pattern.textEnd.run t fun t => some ⟨r, t.rest, t.groups⟩) = some m := h
  obtain ⟨t₁, hkey, hrun⟩ := exists_of_run _ hrun
  obtain ⟨t₂, hgap, hrun⟩ := exists_of_run _ hrun
  obtain ⟨t₃, hdigit, hrun⟩ := exists_of_run _ hrun
  obtain ⟨t₄, hplus, hrun⟩ := exists_of_run _ hrun
  obtain ⟨t₅, hend, hm⟩ := exists_of_run _ hrun
  cases hm
  obtain ⟨k, hcut₁, hk⟩ := hkey.reads
  obtain ⟨g, hcut₂, hg⟩ := hgap.reads
  obtain ⟨_, hcut₃, d, hd, rfl⟩ := hdigit.reads
  obtain ⟨_, hcut₄, e, he, rfl⟩ := hplus.reads
  obtain ⟨hkey_ne, hline⟩ := reads_oneOrMore.mp hk
  obtain ⟨hgap_ne, hblank⟩ := reads_oneOrMore.mp hg
  obtain rfl : e = '+' := foldChar_eq_of_not_alpha (by decide) (beq_iff_eq.mp he)
  dsimp only at hcut₁ hcut₂ hcut₃ hcut₄
  have hrest : r = k ++ g ++ [d, '+'] ++ t₄.rest := by
    rw [hcut₁, hcut₂, hcut₃, hcut₄]
    simp
  -- a line break at the end would have been trimmed
  have hnil : t₄.rest = [] := (rest_of_run_textEnd hrun).resolve_right fun hbreak => by
    rw [hrest, hbreak, ← List.append_assoc] at htrim
    exact absurd (not_isBlank_of_trim_eq htrim) (by decide)
  have hone : t₅.groups.lookup 1 = some (r, t₁.rest) := calc
    t₅.groups.lookup 1 = t₄.groups.lookup 1 := hend.kept 1 (by decide)
    _ = t₃.groups.lookup 1 := hplus.kept 1 (by decide)
    _ = t₂.groups.lookup 1 := hdigit.kept 1 (by decide)
    _ = some (r, t₁.rest) := hgap.kept 1 (by decide)
  have htwo : t₅.groups.lookup 2 = some (t₂.rest, t₃.rest) := calc
    t₅.groups.lookup 2 = t₄.groups.lookup 2 := hend.kept 2 (by decide)
    _ = some (t₂.rest, t₃.rest) := hplus.kept 2 (by decide)
  refine ⟨k, g, d, by rw [hrest, hnil, List.append_nil], hkey_ne,
    fun hbreak => absurd (hline _ hbreak) (by decide), hgap_ne, hblank, hd,
    Match.group_eq (r := t₁.rest) ?_, Match.group_eq (r := t₃.rest) ?_⟩
  · rw [hone, ← hcut₁]
  · rw [htwo, ← hcut₃]

/-- **An anti rule is told by its keyword and its digit**, whatever blanks are between them. -/
theorem anti?_of_spells {keyword : List Char} {n : Nat} (htrim : trim s = s)
    (h : SpellsAnti s keyword n) : anti? s = some (.anti keyword n) := by
  obtain ⟨k, gap, d, hs, hk, hline, hgap, hblank, hd, rfl⟩ := h
  have hdecimal : isDecimal d = true := by rw [isDecimal, hd]; rfl
  obtain ⟨m, hm⟩ := Option.isSome_iff_exists.mp
    (isSome_matchStart_antiRest hk hline hgap hblank hdecimal)
  obtain ⟨k', gap', d', hsame, -, -, -, hblank', -, hone, htwo⟩ :=
    exists_of_matchStart_antiRest hm (htrim.trans hs)
  obtain ⟨hbody, hend⟩ := List.append_inj' hsame rfl
  obtain rfl : d = d' := (List.cons.inj hend).1
  have hbegins : begins antiName s = true := begins_eq_true_iff.mpr ⟨_, hs.symm⟩
  have hkeyword : trim k' = trim k := by
    rw [← trim_append_blanks hblank', ← hbody, trim_append_blanks hblank]
  rw [anti?, if_pos hbegins, hs, List.drop_left, hm, Option.map_some, hone, htwo, hkeyword]
  simp [decimalValue, hd]

theorem exists_of_anti? {rule : WeaponRule} (htrim : trim s = s) (h : anti? s = some rule) :
    ∃ keyword n, SpellsAnti s keyword n ∧ rule = .anti keyword n := by
  rw [anti?] at h
  split at h
  · rename_i hbegins
    obtain ⟨r, rfl⟩ := begins_eq_true_iff.mp hbegins
    obtain ⟨m, hm, rfl⟩ := Option.map_eq_some_iff.mp h
    rw [List.drop_left] at hm
    obtain ⟨k, gap, d, rfl, hk, hline, hgap, hblank, hd, hone, htwo⟩ :=
      exists_of_matchStart_antiRest hm htrim
    obtain ⟨n, hn⟩ := Option.isSome_iff_exists.mp hd
    refine ⟨trim k, n, ⟨k, gap, d, rfl, hk, hline, hgap, hblank, hn, rfl⟩, ?_⟩
    rw [hone, htwo]
    simp [decimalValue, hn]
  · cases h

/-! ## Telling a rule by its spelling -/

/-- A plain rule is told by its name. -/
theorem lookup_plainRules : ∀ r ∈ plainRules,
    plainRules.lookup (String.ofList r.1.toList) = some r.2 := by
  decide

/-- No plain name begins like a name that takes a number, or like an anti rule. -/
theorem plainRules_apart : ∀ r ∈ plainRules, begins antiName r.1.toList = false ∧
    ∀ q ∈ numberedRules, begins q.1.toList r.1.toList = false := by
  decide

/-- Of two names that take a number, neither begins the other. -/
theorem numberedRules_apart : numberedRules.Pairwise fun r q =>
    r.1.toList.isPrefixOf q.1.toList = false ∧ q.1.toList.isPrefixOf r.1.toList = false := by
  decide

/-- Neither do such a name and the name of an anti rule. -/
theorem numberedRules_antiName : ∀ r ∈ numberedRules,
    r.1.toList.isPrefixOf antiName = false ∧ antiName.isPrefixOf r.1.toList = false := by
  decide

theorem lookup_eq_none_of_begins {w : List Char}
    (hw : w = antiName ∨ ∃ q ∈ numberedRules, w = q.1.toList) (t : List Char) :
    plainRules.lookup (String.ofList (w ++ t)) = none := by
  cases hlookup : plainRules.lookup (String.ofList (w ++ t)) with
  | none => rfl
  | some rule =>
    obtain ⟨front, back, hsplit, -⟩ := List.lookup_eq_some_iff.mp hlookup
    have hmem : (String.ofList (w ++ t), rule) ∈ plainRules := by
      rw [hsplit]
      simp
    obtain ⟨hanti, hnumbered⟩ := plainRules_apart _ hmem
    have hbegins : begins w (w ++ t) = true := begins_eq_true_iff.mpr (List.prefix_append w t)
    rcases hw with rfl | ⟨q, hq, rfl⟩
    · rw [String.toList_ofList, hbegins] at hanti
      cases hanti
    · have hapart := hnumbered q hq
      rw [String.toList_ofList, hbegins] at hapart
      cases hapart

/-- A rule that takes a number is told by its name, whatever follows. -/
theorem numbered?_append {name : String} {make : Nat → WeaponRule}
    (h : (name, make) ∈ numberedRules) (t : List Char) :
    numbered? (name.toList ++ t) = (do
      let n ← firstNumber t
      return some (make n)) := by
  have hfind : numberedRules.find? (fun r => begins r.1.toList (name.toList ++ t))
      = some (name, make) := by
    obtain ⟨front, back, hsplit⟩ := List.append_of_mem h
    have hapart := numberedRules_apart
    rw [hsplit, List.pairwise_append] at hapart
    rw [List.find?_eq_some_iff_append]
    refine ⟨begins_eq_true_iff.mpr (List.prefix_append _ _), front, back, hsplit, fun q hq => ?_⟩
    obtain ⟨hleft, hright⟩ := hapart.2.2 q hq _ List.mem_cons_self
    have hnot : begins q.1.toList (name.toList ++ t) ≠ true := fun hbegins =>
      not_prefix_append hleft hright t (begins_eq_true_iff.mp hbegins)
    simpa using hnot
  rw [numbered?, hfind]
  dsimp only
  rw [List.drop_left]

theorem numbered?_eq_none (h : ∀ r ∈ numberedRules, ¬ r.1.toList <+: s) :
    numbered? s = .ok none := by
  have hfind : numberedRules.find? (fun r => begins r.1.toList s) = none :=
    List.find?_eq_none.mpr fun r hr hbegins => h r hr (begins_eq_true_iff.mp hbegins)
  rw [numbered?, hfind]

/-- **A spelling tells its rule.** -/
theorem ofSpelling?_of_spells {rule : WeaponRule} (htrim : trim s = s) (h : Spells s rule) :
    ofSpelling? s = .ok (some rule) := by
  cases h with
  | plain hmem hs => rw [ofSpelling?, hs, lookup_plainRules _ hmem]
  | numbered hmem hs hn =>
    rw [ofSpelling?, hs, lookup_eq_none_of_begins (Or.inr ⟨_, hmem, rfl⟩), numbered?_append hmem,
      hn.firstNumber_eq]
    rfl
  | anti hanti =>
    have htold := anti?_of_spells htrim hanti
    obtain ⟨k, gap, d, hs, -⟩ := hanti
    have hnone : numbered? s = .ok none := numbered?_eq_none fun r hr hprefix => by
      obtain ⟨hleft, hright⟩ := numberedRules_antiName r hr
      rw [hs] at hprefix
      exact not_prefix_append hleft hright _ hprefix
    have hlookup : plainRules.lookup (String.ofList s) = none := by
      rw [hs]
      exact lookup_eq_none_of_begins (Or.inl rfl) _
    rw [ofSpelling?, hlookup, hnone, htold]
    rfl

theorem ofSpelling?_of_spellsLong {e : LongNumeral} (h : SpellsLong s e) :
    ofSpelling? s = .error e := by
  obtain ⟨name, make, t, hmem, rfl, hlong⟩ := h
  rw [ofSpelling?, lookup_eq_none_of_begins (Or.inr ⟨_, hmem, rfl⟩), numbered?_append hmem,
    hlong.firstNumber_eq]
  rfl

/-- A text that spells nothing tells no rule. -/
theorem ofSpelling?_eq_none (htrim : trim s = s) (hrule : ∀ rule, ¬ Spells s rule)
    (hlong : ∀ e, ¬ SpellsLong s e) : ofSpelling? s = .ok none := by
  have hlookup : plainRules.lookup (String.ofList s) = none := by
    cases hlookup : plainRules.lookup (String.ofList s) with
    | none => rfl
    | some rule =>
      obtain ⟨front, back, hsplit, -⟩ := List.lookup_eq_some_iff.mp hlookup
      have hmem : (String.ofList s, rule) ∈ plainRules := by
        rw [hsplit]
        simp
      exact absurd (.plain hmem (String.toList_ofList).symm) (hrule rule)
  have hnumbered : numbered? s = .ok none := by
    refine numbered?_eq_none fun r hr hprefix => ?_
    obtain ⟨t, rfl⟩ := hprefix
    rcases firstNumber_or_long t with ⟨n, hn⟩ | ⟨e, he⟩
    · exact hrule _ (.numbered hr rfl hn)
    · exact hlong e ⟨_, _, t, hr, rfl, he⟩
  have hanti : anti? s = none := by
    cases hanti : anti? s with
    | none => rfl
    | some rule =>
      obtain ⟨keyword, n, hspells, rfl⟩ := exists_of_anti? htrim hanti
      exact absurd (.anti hspells) (hrule _)
  rw [ofSpelling?, hlookup, hnumbered, hanti]
  rfl

/-- An anti rule is spelled in no other way. -/
theorem Spells.spellsAnti {rule : WeaponRule} (h : Spells s rule) {keyword : List Char} {n : Nat}
    (hrule : rule = .anti keyword n) : SpellsAnti s keyword n := by
  cases h with
  | plain hmem _ =>
    subst hrule
    simp [plainRules] at hmem
  | numbered hmem _ _ =>
    simp only [numberedRules, List.mem_cons, Prod.mk.injEq, List.not_mem_nil, or_false] at hmem
    rcases hmem with ⟨-, rfl⟩ | ⟨-, rfl⟩ | ⟨-, rfl⟩ <;> cases hrule
  | anti hanti =>
    cases hrule
    exact hanti

/-! ## Mechanics -/

/-- What an anti rule comes to depends on its digit. -/
theorem mechanic?_anti (source : Source) (keyword : List Char) (n : Nat) :
    (∃ m, (anti keyword n).mechanic? source = .ok (some m)) ∧ 2 ≤ n ∧ n ≤ 6 ∨
    (anti keyword n).mechanic? source = .bad [⟨["value"], .greaterThanEqual⟩] ∧ n < 2 ∨
    (anti keyword n).mechanic? source = .bad [⟨["value"], .lessThanEqual⟩] ∧ 6 < n := by
  rw [mechanic?, Threshold.check]
  by_cases hlow : (2 : Int) ≤ n
  · by_cases hhigh : (n : Int) ≤ 6
    · rw [dif_pos hlow, dif_pos hhigh]
      exact Or.inl ⟨⟨_, rfl⟩, by omega, by omega⟩
    · rw [dif_pos hlow, dif_neg hhigh]
      exact Or.inr (Or.inr ⟨rfl, by omega⟩)
  · rw [dif_neg hlow]
    exact Or.inr (Or.inl ⟨rfl, by omega⟩)

/-- Every other rule has a mechanic or is only shown. -/
theorem mechanic?_cases (source : Source) (rule : WeaponRule) :
    (∃ m, rule.mechanic? source = .ok (some m)) ∨ (∃ name, rule = shown name) ∨
      ∃ keyword n, rule = anti keyword n := by
  cases rule with
  | anti keyword n => exact Or.inr (Or.inr ⟨keyword, n, rfl⟩)
  | shown name => exact Or.inr (Or.inl ⟨name, rfl⟩)
  | _ => exact Or.inl ⟨_, rfl⟩

end WeaponRule

/-! ## Texts -/

namespace WeaponRules

open WeaponRule

/-- The source of what a text behind a weapon comes to. -/
def sourceOf (weapon text : String) : Source :=
  ⟨.weapon, weapon, none, some (String.ofList (spelling text))⟩

/-- How a rule is shown. -/
def effectOf (source : Source) (rule : WeaponRule) : RuleEffect :=
  ⟨rule.label.1, rule.label.2, source⟩

/-- A text is refused: its number is too long to be read, or it is an anti rule whose digit is no
    threshold. -/
inductive Refused (text : String) : RuleError → Prop
  | long {e : LongNumeral} : SpellsLong (spelling text) e → Refused text (.longNumeral e)
  | low {keyword : List Char} {n : Nat} : SpellsAnti (spelling text) keyword n → n < 2 →
    Refused text (.invalid [⟨["value"], .greaterThanEqual⟩])
  | high {keyword : List Char} {n : Nat} : SpellsAnti (spelling text) keyword n → 6 < n →
    Refused text (.invalid [⟨["value"], .lessThanEqual⟩])

/-- What a text comes to: a mechanic that its own reader accepts and how it is shown, or only how it
    is shown, or nothing. -/
inductive Outcome (weapon text : String) : WeaponRules → Prop
  | mechanic {rule : WeaponRule} {m : Mechanic} : Spells (spelling text) rule →
    rule.mechanic? (sourceOf weapon text) = .ok (some m) → Mechanic.read m.toValue = .ok m →
    Outcome weapon text ⟨[m], [effectOf (sourceOf weapon text) rule]⟩
  | shown {name : String} : Spells (spelling text) (.shown name) →
    Outcome weapon text ⟨[], [effectOf (sourceOf weapon text) (.shown name)]⟩
  | ignored : (∀ rule, ¬ Spells (spelling text) rule) → (∀ e, ¬ SpellsLong (spelling text) e) →
    Outcome weapon text ⟨[], []⟩

theorem trim_spelling (text : String) : trim (spelling text) = spelling text :=
  trim_trim _

theorem ofText_of_spells {text : String} {rule : WeaponRule} (weapon : String)
    (h : Spells (spelling text) rule) : ofText weapon text = (do
      let m ← (rule.mechanic? (sourceOf weapon text)).toExcept.mapError .invalid
      return ⟨m.toList, [effectOf (sourceOf weapon text) rule]⟩) := by
  rw [ofText, ofSpelling?_of_spells (trim_spelling text) h]
  rfl

theorem ofText_of_outcome {weapon text : String} {rules : WeaponRules}
    (h : Outcome weapon text rules) : ofText weapon text = .ok rules := by
  cases h with
  | mechanic hrule hm _ => rw [ofText_of_spells weapon hrule, hm]; rfl
  | shown hrule => rw [ofText_of_spells weapon hrule]; rfl
  | ignored hrule hlong =>
    rw [ofText, ofSpelling?_eq_none (trim_spelling text) hrule hlong]
    rfl

theorem ofText_of_refused (weapon : String) {text : String} {e : RuleError} (h : Refused text e) :
    ofText weapon text = .error e := by
  cases h with
  | long hlong => rw [ofText, ofSpelling?_of_spellsLong hlong]; rfl
  | @low keyword n hanti hlow =>
    rw [ofText_of_spells weapon (.anti hanti)]
    rcases mechanic?_anti (sourceOf weapon text) keyword n with ⟨_, hn⟩ | ⟨hm, _⟩ | ⟨_, hn⟩
    · omega
    · rw [hm]; rfl
    · omega
  | @high keyword n hanti hhigh =>
    rw [ofText_of_spells weapon (.anti hanti)]
    rcases mechanic?_anti (sourceOf weapon text) keyword n with ⟨_, hn⟩ | ⟨_, hn⟩ | ⟨hm, _⟩
    · omega
    · omega
    · rw [hm]; rfl

/-- A text is refused or comes to something. -/
theorem refused_or_outcome (weapon text : String) :
    (∃ e, Refused text e) ∨ ∃ rules, Outcome weapon text rules := by
  by_cases hrule : ∃ rule, Spells (spelling text) rule
  · obtain ⟨rule, hrule⟩ := hrule
    rcases mechanic?_cases (sourceOf weapon text) rule with
      ⟨m, hm⟩ | ⟨name, rfl⟩ | ⟨keyword, n, rfl⟩
    · exact Or.inr ⟨_, .mechanic hrule hm (read_toValue m)⟩
    · exact Or.inr ⟨_, .shown hrule⟩
    · have hanti : SpellsAnti (spelling text) keyword n := hrule.spellsAnti rfl
      rcases mechanic?_anti (sourceOf weapon text) keyword n with ⟨⟨m, hm⟩, _⟩ | ⟨_, hn⟩ | ⟨_, hn⟩
      · exact Or.inr ⟨_, .mechanic hrule hm (read_toValue m)⟩
      · exact Or.inl ⟨_, .low hanti hn⟩
      · exact Or.inl ⟨_, .high hanti hn⟩
  · by_cases hlong : ∃ e, SpellsLong (spelling text) e
    · obtain ⟨e, hlong⟩ := hlong
      exact Or.inl ⟨_, .long hlong⟩
    · exact Or.inr ⟨_, .ignored (not_exists.mp hrule) (not_exists.mp hlong)⟩

theorem ofText_eq_error_iff {weapon text : String} {e : RuleError} :
    ofText weapon text = .error e ↔ Refused text e := by
  refine ⟨fun h => ?_, ofText_of_refused weapon⟩
  rcases refused_or_outcome weapon text with ⟨e', he⟩ | ⟨rules, hrules⟩
  · rw [ofText_of_refused weapon he] at h
    cases h
    exact he
  · rw [ofText_of_outcome hrules] at h
    cases h

theorem ofText_eq_ok_iff {weapon text : String} {rules : WeaponRules} :
    ofText weapon text = .ok rules ↔ Outcome weapon text rules := by
  refine ⟨fun h => ?_, ofText_of_outcome⟩
  rcases refused_or_outcome weapon text with ⟨e, he⟩ | ⟨rules', hrules⟩
  · rw [ofText_of_refused weapon he] at h
    cases h
  · rw [ofText_of_outcome hrules] at h
    cases h
    exact hrules

/-! ## All texts of a weapon -/

theorem ofTexts_cons (weapon s : String) (ss : List String) :
    ofTexts weapon (s :: ss) = (do
      let a ← ofText weapon s
      let b ← ofTexts weapon ss
      return ⟨a.mechanics ++ b.mechanics, a.effects ++ b.effects⟩) := rfl

/-- **The first text that is refused** refuses all. -/
theorem ofTexts_eq_error_iff {weapon : String} {e : RuleError} : ∀ {texts : List String},
    ofTexts weapon texts = .error e ↔ ∃ front text back, texts = front ++ text :: back ∧
      (∀ s ∈ front, ∀ e, ¬ Refused s e) ∧ Refused text e
  | [] => by
    constructor
    · intro h
      cases h
    · rintro ⟨front, text, back, hsplit, -⟩
      cases front <;> cases hsplit
  | s :: ss => by
    rw [ofTexts_cons, bind_eq_error]
    constructor
    · rintro (h | ⟨a, ha, h⟩)
      · exact ⟨[], s, ss, rfl, fun _ hs => absurd hs List.not_mem_nil, ofText_eq_error_iff.mp h⟩
      · rcases bind_eq_error.mp h with h | ⟨b, hb, h⟩
        · obtain ⟨front, text, back, rfl, hfront, hrefused⟩ := ofTexts_eq_error_iff.mp h
          refine ⟨s :: front, text, back, rfl, fun t ht e he => ?_, hrefused⟩
          rcases List.mem_cons.mp ht with rfl | ht
          · rw [ofText_of_refused weapon he] at ha
            cases ha
          · exact hfront t ht e he
        · cases h
    · rintro ⟨front, text, back, hsplit, hfront, hrefused⟩
      cases front with
      | nil =>
        obtain ⟨rfl, rfl⟩ := List.cons.inj hsplit
        exact Or.inl (ofText_of_refused weapon hrefused)
      | cons t front =>
        obtain ⟨rfl, rfl⟩ := List.cons.inj hsplit
        rcases refused_or_outcome weapon s with ⟨e', he⟩ | ⟨rules, hrules⟩
        · exact absurd he (hfront s List.mem_cons_self e')
        · refine Or.inr ⟨rules, ofText_of_outcome hrules, bind_eq_error.mpr (Or.inl ?_)⟩
          exact ofTexts_eq_error_iff.mpr
            ⟨front, text, back, rfl, fun t ht => hfront t (List.mem_cons_of_mem s ht), hrefused⟩

/-- If none is, their outcomes are put together in order. -/
theorem ofTexts_eq_ok_iff {weapon : String} : ∀ {texts : List String} {rules : WeaponRules},
    ofTexts weapon texts = .ok rules ↔ ∃ parts, List.Forall₂ (Outcome weapon) texts parts ∧
      rules = ⟨parts.flatMap (·.mechanics), parts.flatMap (·.effects)⟩
  | [], rules => by
    constructor
    · intro h
      cases h
      exact ⟨[], .nil, rfl⟩
    · rintro ⟨parts, hparts, rfl⟩
      cases hparts
      rfl
  | s :: ss, rules => by
    rw [ofTexts_cons, bind_eq_ok]
    constructor
    · rintro ⟨a, ha, h⟩
      obtain ⟨b, hb, h⟩ := bind_eq_ok.mp h
      cases h
      obtain ⟨parts, hparts, rfl⟩ := ofTexts_eq_ok_iff.mp hb
      exact ⟨a :: parts, .cons (ofText_eq_ok_iff.mp ha) hparts, rfl⟩
    · rintro ⟨parts, hparts, rfl⟩
      cases hparts with
      | cons ha hparts =>
        exact ⟨_, ofText_of_outcome ha,
          bind_eq_ok.mpr ⟨_, ofTexts_eq_ok_iff.mpr ⟨_, hparts, rfl⟩, rfl⟩⟩

/-- **What the texts behind a weapon come to.**  They are refused exactly if one of them is: for a
    number of too many digits, or for an anti rule whose digit is no threshold.  Otherwise each
    comes to a mechanic that its own reader accepts, or is only shown, or is ignored. -/
theorem ofTexts_outcome (weapon : String) (texts : List String) :
    (∀ e, ofTexts weapon texts = .error e ↔ ∃ front text back, texts = front ++ text :: back ∧
      (∀ s ∈ front, ∀ e, ¬ Refused s e) ∧ Refused text e) ∧
    ∀ rules, ofTexts weapon texts = .ok rules ↔
      ∃ parts, List.Forall₂ (Outcome weapon) texts parts ∧
        rules = ⟨parts.flatMap (·.mechanics), parts.flatMap (·.effects)⟩ :=
  ⟨fun _ => ofTexts_eq_error_iff, fun _ => ofTexts_eq_ok_iff⟩

/-- An anti rule with a digit that is no threshold is not ignored. -/
theorem not_ignored_anti_seven : ofTexts "Weapon" ["ANTI-INFANTRY 7+"]
    = .error (.invalid [⟨["value"], .lessThanEqual⟩]) := by
  rfl

end WeaponRules

end Muster.Combat
