/-
  The parameter of a weapon rule: which number a rule carries.

  1. **Program.**  A rule that takes a number is told by its name, and its number is the first run
     of digits behind it (`WeaponRule.firstNumber`).

  2. **Specification.**  A rule is printed as its name in any case, blanks and a parameter, with
     blanks around (`Printed`).  The parameter is a numeral or a dice expression.

  3. **What is read** (`parameter_read`).  A numeral is read as the number that it writes, unless
     it is too long to be read.  Of a dice expression the first number is read as if it stood alone,
     the number of dice or else that of sides: the dice are lost.
-/
import Mathlib
import Muster.Proofs.Combat.WeaponRule
import Muster.Proofs.Text.LetterCase
import Muster.Proofs.Wargear.Item

namespace Muster.Combat

open Text Document Wargear

/-! ## Parameters -/

/-- A dice expression: dice of so many sides, perhaps several, perhaps with a number added. -/
structure DiceExpression where
  count : Option Numeral
  letter : Char
  letter_eq : letter = 'd' ∨ letter = 'D'
  sides : Numeral
  bonus : Option Numeral

namespace DiceExpression

variable (x : DiceExpression)

/-- The digits before the letter. -/
def countDigits : List Char :=
  match x.count with
  | none => []
  | some k => k.digits

/-- What follows the sides. -/
def bonusText : List Char :=
  match x.bonus with
  | none => []
  | some k => '+' :: k.digits

/-- A dice expression as it is printed. -/
def text : List Char := x.countDigits ++ x.letter :: (x.sides.digits ++ x.bonusText)

/-- The numeral that comes first. -/
def first : Numeral := x.count.getD x.sides

end DiceExpression

theorem upperChar_of_isAsciiDigit {c : Char} (h : isAsciiDigit c = true) : upperChar c = [c] := by
  have hdigit := (isAsciiDigit_iff c).mp h
  have hsmall : ¬ ('a' ≤ c && c ≤ 'z') = true := by
    simp only [Bool.and_eq_true, decide_eq_true_eq, not_and]
    intro hle
    have : 97 ≤ c.toNat := hle
    omega
  rw [upperChar, if_pos (toNat_lt_of_isAsciiDigit h), if_neg hsmall]

theorem upper_digits (k : Numeral) : upper k.digits = k.digits :=
  upper_eq_self fun c hc => upperChar_of_isAsciiDigit (k.ascii c hc)

namespace DiceExpression

variable (x : DiceExpression)

theorem upper_countDigits : upper x.countDigits = x.countDigits := by
  rw [countDigits]
  cases x.count with
  | none => rfl
  | some k => exact upper_digits k

theorem upper_bonusText : upper x.bonusText = x.bonusText := by
  rw [bonusText]
  cases x.bonus with
  | none => rfl
  | some k => exact congrArg ('+' :: ·) (upper_digits k)

/-- In upper case only the letter changes. -/
theorem upper_text :
    upper x.text = x.countDigits ++ 'D' :: (x.sides.digits ++ x.bonusText) := by
  have hletter : upper [x.letter] = ['D'] := by
    rcases x.letter_eq with h | h <;> rw [h] <;> rfl
  rw [text, upper_append, x.upper_countDigits, ← List.singleton_append, upper_append, hletter,
    upper_append, upper_digits, x.upper_bonusText]
  rfl

theorem isWord_upper_text : IsWord (upper x.text) := by
  have hdigits : ∀ k : Numeral, ∀ c ∈ k.digits, isBlank c = false := fun k => k.isWord.2
  rw [x.upper_text]
  refine ⟨by simp, fun c hc => ?_⟩
  rcases List.mem_append.mp hc with hc | hc
  · rw [countDigits] at hc
    cases hcount : x.count with
    | none => rw [hcount] at hc; cases hc
    | some k => rw [hcount] at hc; exact hdigits k c hc
  · rcases List.mem_cons.mp hc with rfl | hc
    · rfl
    · rcases List.mem_append.mp hc with hc | hc
      · exact hdigits x.sides c hc
      · rw [bonusText] at hc
        cases hbonus : x.bonus with
        | none => rw [hbonus] at hc; cases hc
        | some k =>
          rw [hbonus] at hc
          rcases List.mem_cons.mp hc with rfl | hc
          · rfl
          · exact hdigits k c hc

end DiceExpression

/-! ## First numbers -/

theorem firstRun_digits {u v : List Char} (k : Numeral) (hu : ∀ c ∈ u, isDecimal c = false)
    (hv : ∀ c ∈ v.head?, isDecimal c = false) : FirstRun (u ++ k.digits ++ v) k.digits :=
  ⟨k.digits_ne_nil, fun c hc => isDecimal_of_isAsciiDigit (k.ascii c hc), u, v, rfl, hu, hv⟩

/-- Behind blanks, the first number of a dice expression is that of its dice or of their sides. -/
theorem DiceExpression.firstRun (x : DiceExpression) {gap : List Char}
    (hgap : ∀ c ∈ gap, isBlank c = true) : FirstRun (gap ++ upper x.text) x.first.digits := by
  have hblank : ∀ c ∈ gap, isDecimal c = false := fun c hc => isDecimal_of_isBlank (hgap c hc)
  rw [x.upper_text, countDigits, first]
  cases x.count with
  | some k =>
    rw [Option.getD_some, ← List.append_assoc]
    exact firstRun_digits k hblank (Text.of_mem_head (by decide) _)
  | none =>
    have hcut : gap ++ ([] ++ 'D' :: (x.sides.digits ++ x.bonusText))
        = gap ++ ['D'] ++ x.sides.digits ++ x.bonusText := by simp
    rw [Option.getD_none, hcut]
    refine firstRun_digits x.sides (fun c hc => ?_) ?_
    · rcases List.mem_append.mp hc with hc | hc
      · exact hblank c hc
      · rw [List.mem_singleton.mp hc]
        decide
    · rw [bonusText]
      cases x.bonus with
      | none => exact nofun
      | some k => exact Text.of_mem_head (by decide) _

/-! ## Rules -/

/-- A text is a rule as it may be printed: its name in any case, blanks and a parameter, with blanks
    around. -/
def Printed (name : String) (p : List Char) (text : String) : Prop :=
  ∃ before w gap after, text.toList = before ++ (w ++ gap ++ p ++ after) ∧
    upper w = name.toList ∧ gap ≠ [] ∧ ∀ c ∈ before ++ gap ++ after, isBlank c = true

/-- The number that a mechanic carries. -/
def Mechanic.number? : Mechanic → Option Int
  | .effect _ (.characteristicBonus _ n) => some n
  | .effect _ (.addsAbility _ (some (.integer n))) => some n
  | _ => none

namespace WeaponRules

open WeaponRule

/-- A text comes to the mechanic and the effect of a rule with the number of a numeral, which both
    carry; or it is refused, if the numeral is too long to be read. -/
def ReadAs (weapon text : String) (make : Nat → WeaponRule) (k : Numeral) : Prop :=
  (k.digits.length ≤ mostDigits → ∃ m e, ofText weapon text = .ok ⟨[m], [e]⟩ ∧
    (make k.value).mechanic? (sourceOf weapon text) = .ok (some m) ∧ m.number? = some k.value ∧
    e = effectOf (sourceOf weapon text) (make k.value) ∧ e.parameter = .number k.value) ∧
  (mostDigits < k.digits.length → ofText weapon text = .error (.longNumeral ⟨k.digits.length⟩))

/-- The mechanic and the effect of a rule that takes a number both carry it. -/
theorem exists_mechanic?_numbered {name : String} {make : Nat → WeaponRule}
    (h : (name, make) ∈ numberedRules) (source : Source) (n : Nat) :
    (∃ m, (make n).mechanic? source = .ok (some m) ∧ m.number? = some (n : Int)) ∧
      (make n).label.2 = .number n := by
  simp only [numberedRules, List.mem_cons, Prod.mk.injEq, List.not_mem_nil, or_false] at h
  rcases h with ⟨-, rfl⟩ | ⟨-, rfl⟩ | ⟨-, rfl⟩ <;> exact ⟨⟨_, rfl, rfl⟩, rfl⟩

/-- **A rule carries the first number behind its name.** -/
theorem readAs_of_firstRun {name text : String} {make : Nat → WeaponRule} {t : List Char}
    {k : Numeral} (weapon : String) (h : (name, make) ∈ numberedRules)
    (hs : spelling text = name.toList ++ t) (hrun : FirstRun t k.digits) :
    ReadAs weapon text make k := by
  constructor
  · intro hshort
    obtain ⟨⟨m, hm, hnumber⟩, hlabel⟩ :=
      exists_mechanic?_numbered h (sourceOf weapon text) k.value
    have hspells : Spells (spelling text) (make k.value) := by
      rw [← k.decimalValue_digits]
      exact .numbered h hs (.run hrun hshort)
    have hread := ofText_of_outcome (.mechanic hspells hm (read_toValue m))
    exact ⟨m, _, hread, hm, hnumber, rfl, hlabel⟩
  · intro hlong
    exact ofText_of_refused weapon (.long ⟨name, make, t, h, hs, k.digits, hrun, hlong, rfl⟩)

theorem isTrimmed_numberedRules : ∀ r ∈ numberedRules, IsTrimmed r.1.toList := by
  intro r hr
  simp only [numberedRules, List.mem_cons, List.not_mem_nil, or_false] at hr
  rcases hr with rfl | rfl | rfl
  · exact ⟨⟨_, _, rfl, rfl⟩, "RAPID FIR".toList, 'E', rfl, rfl⟩
  · exact ⟨⟨_, _, rfl, rfl⟩, "MELT".toList, 'A', rfl, rfl⟩
  · exact ⟨⟨_, _, rfl, rfl⟩, "SUSTAINED HIT".toList, 'S', rfl, rfl⟩

/-- What is printed is spelled without the blanks around it. -/
theorem spelling_of_printed {name text : String} {p : List Char}
    (hname : IsTrimmed name.toList) (hp : IsWord (upper p)) (h : Printed name p text) :
    ∃ gap, (∀ c ∈ gap, isBlank c = true) ∧ spelling text = name.toList ++ (gap ++ upper p) := by
  obtain ⟨before, w, gap, after, htext, hw, hne, hblank⟩ := h
  have hbefore : ∀ c ∈ before, isBlank c = true := fun c hc => hblank c (by simp [hc])
  have hgap : ∀ c ∈ gap, isBlank c = true := fun c hc => hblank c (by simp [hc])
  have hafter : ∀ c ∈ after, isBlank c = true := fun c hc => hblank c (by simp [hc])
  have hkept : ∀ u : List Char, (∀ c ∈ u, isBlank c = true) → upper u = u := fun u hu =>
    upper_eq_self fun c hc => upperChar_of_isBlank (hu c hc)
  refine ⟨gap, hgap, ?_⟩
  rw [spelling, htext, upper_append, upper_append, upper_append, upper_append, hkept _ hbefore,
    hkept _ hgap, hkept _ hafter, hw, trim_append_of_blank hbefore, trim_append_blanks hafter,
    (hname.append hp.isTrimmed gap).trim_eq, List.append_assoc]

/-- **How the parameter of a rule is read.**  A numeral gives the rule its number, in the mechanic
    and in the effect, if it is short enough to be read.  A dice expression gives it the first number
    that stands in the expression, as if it were that numeral. -/
theorem parameter_read {name : String} {make : Nat → WeaponRule} {p : List Char} {text : String}
    (hrule : (name, make) ∈ numberedRules) (hprinted : Printed name p text) (weapon : String) :
    (∀ k : Numeral, p = k.digits → ReadAs weapon text make k) ∧
    ∀ x : DiceExpression, p = x.text → ReadAs weapon text make x.first := by
  have hname := isTrimmed_numberedRules _ hrule
  constructor
  · rintro k rfl
    have hword : IsWord (upper k.digits) := by
      rw [upper_digits]
      exact k.isWord
    obtain ⟨gap, hgap, hs⟩ := spelling_of_printed hname hword hprinted
    have hrun := firstRun_digits (u := gap) (v := []) k
      (fun c hc => isDecimal_of_isBlank (hgap c hc)) nofun
    rw [upper_digits] at hs
    rw [List.append_nil] at hrun
    exact readAs_of_firstRun weapon hrule hs hrun
  · rintro x rfl
    obtain ⟨gap, hgap, hs⟩ := spelling_of_printed hname x.isWord_upper_text hprinted
    exact readAs_of_firstRun weapon hrule hs (x.firstRun hgap)

/-- Rapid fire with its number, in small letters and with blanks around. -/
theorem parameter_read_rapid_fire :
    ("RAPID FIRE", rapidFire) ∈ numberedRules ∧ Printed "RAPID FIRE" ['2'] " rapid fire 2\n" ∧
    ReadAs "Boltgun" " rapid fire 2\n" rapidFire two := by
  have hprinted : Printed "RAPID FIRE" ['2'] " rapid fire 2\n" :=
    ⟨[' '], "rapid fire".toList, [' '], ['\n'], rfl, rfl, List.cons_ne_nil _ _,
      by simp [isBlank]⟩
  exact ⟨List.mem_cons_self, hprinted,
    (parameter_read List.mem_cons_self hprinted "Boltgun").1 two rfl⟩

/-- A die of three sides. -/
def dThree : DiceExpression where
  count := none
  letter := 'D'
  letter_eq := Or.inr rfl
  sides := ⟨['3'], List.cons_ne_nil _ _, fun _ hc => List.mem_singleton.mp hc ▸ rfl⟩
  bonus := none

/-- A dice expression comes to a fixed number from inside it. -/
theorem not_dice_sustained_hits : dThree.text = "D3".toList ∧
    ∃ m e, ofText "Weapon" "Sustained Hits D3" = .ok ⟨[m], [e]⟩ ∧
      m.number? = some 3 ∧ e.parameter = .number 3 :=
  ⟨rfl, _, _, rfl, rfl, rfl⟩

end WeaponRules

end Muster.Combat
