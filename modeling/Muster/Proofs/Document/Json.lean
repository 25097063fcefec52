/-
  What is written as JSON can be told apart.

  1. **Program.**  `Json.write` puts no blanks and ends a number nowhere but before what follows it;
     some values are written alike (a date and a text, a double and an integer).

  2. **Specification.**  Two PLAIN values, built of texts, integers, truth values, null, lists and
     objects with text keys, are equal if they are written alike, whatever follows them, as long as
     no digit does (`write_append_inj`).

  3. **The crux** is at the ends.  A text ends at its closing quote, which is how the reader finds it
     (`readText_escape`); a number ends where the digits do; and the first character of a value
     tells its kind, so that neither a comma nor a closing bracket is taken for a value.
-/
import Mathlib
import Muster.Document.Json

namespace Muster.Document.Json

open Text

/-! ## Texts -/

theorem hexValue?_hexDigit : ∀ n < 16, hexValue? (hexDigit n) = some n := by decide

/-- A control character is found again from its two digits. -/
theorem readCodePoint_hexDigit {c : Char} (hc : c.toNat < 0x20) (r : List Char) :
    readCodePoint ('0' :: '0' :: hexDigit (c.toNat / 16) :: hexDigit (c.toNat % 16) :: r)
      = some (some c, r) := by
  have hzero : hexValue? '0' = some 0 := by decide
  have hhigh := hexValue?_hexDigit (c.toNat / 16) (by omega)
  have hlow := hexValue?_hexDigit (c.toNat % 16) (by omega)
  have hread : readHex ('0' :: '0' :: hexDigit (c.toNat / 16) :: hexDigit (c.toNat % 16) :: r)
      = some (c.toNat, r) := by
    simp only [readHex, hzero, hhigh, hlow, Option.bind_eq_bind, Option.bind_some, Option.pure_def]
    congr 2
    omega
  have hsurrogate : ¬ 0xD800 ≤ c.toNat := by omega
  have hlowSurrogate : ¬ 0xDC00 ≤ c.toNat := by omega
  simp [readCodePoint, hread, hsurrogate, hlowSurrogate]

/-- One character is read back, however it is escaped. -/
theorem readText_escape_append (c : Char) (fuel : Nat) (acc : List Char) (torn : Bool)
    (t : List Char) :
    readText (fuel + 1) acc torn (escape c ++ t) = readText fuel (c :: acc) torn t := by
  have hcode : ∀ n, c.toNat == n → c = Char.ofNat n := fun n hn => by
    rw [← beq_iff_eq.mp hn, Char.ofNat_toNat]
  rw [escape]
  split
  · rename_i hc
    rw [beq_iff_eq.mp hc]
    rfl
  split
  · rename_i hc
    rw [beq_iff_eq.mp hc]
    rfl
  split
  · rename_i hc
    rw [hcode _ hc]
    rfl
  split
  · rename_i hc
    rw [hcode _ hc]
    rfl
  split
  · rename_i hc
    rw [hcode _ hc]
    rfl
  split
  · rename_i hc
    rw [hcode _ hc]
    rfl
  split
  · rename_i hc
    rw [hcode _ hc]
    rfl
  split
  · rename_i hc
    simp [readText, readCodePoint_hexDigit hc]
  · rename_i hquote hslash _ _ _ _ _ hc
    rw [List.singleton_append, readText]
    · rw [if_neg hc]
    · rintro rfl
      exact hquote rfl
    · rintro r rfl
      exact absurd rfl hslash
    · rintro d r rfl
      exact absurd rfl hslash

/-- **The reader reads back a quoted text**, with whatever follows it. -/
theorem readText_escape (s : List Char) (torn : Bool) (r : List Char) :
    ∀ (fuel : Nat) (acc : List Char), s.length < fuel →
      readText fuel acc torn (s.flatMap escape ++ '"' :: r)
        = some (⟨acc.reverse ++ s, torn⟩, r) := by
  induction s with
  | nil =>
    intro fuel acc hfuel
    obtain ⟨fuel, rfl⟩ := Nat.exists_eq_succ_of_ne_zero (Nat.ne_of_gt hfuel)
    simp [readText]
  | cons c s ih =>
    intro fuel acc hfuel
    obtain ⟨fuel, rfl⟩ := Nat.exists_eq_succ_of_ne_zero (Nat.ne_of_gt (Nat.zero_lt_of_lt hfuel))
    rw [List.flatMap_cons, List.append_assoc, readText_escape_append,
      ih fuel (c :: acc) (by simpa using hfuel)]
    simp

/-- A quoted text ends where its quote does. -/
theorem quoted_append_inj {a b s t : List Char} (h : quoted a ++ s = quoted b ++ t) :
    a = b ∧ s = t := by
  have hopen : a.flatMap escape ++ '"' :: s = b.flatMap escape ++ '"' :: t := by
    simpa [quoted] using h
  have ha := readText_escape a false s (a.length + b.length + 1) [] (by omega)
  have hb := readText_escape b false t (a.length + b.length + 1) [] (by omega)
  rw [hopen, hb] at ha
  simpa [eq_comm] using ha

/-! ## Numbers -/

/-- No digit comes first. -/
def Stops (s : List Char) : Prop := ∀ c, s.head? = some c → c.isDigit = false

theorem isDigit_of_mem_numeral {n : Nat} {c : Char} (hc : c ∈ numeral n) : c.isDigit = true :=
  Nat.isDigit_of_mem_toDigits (by decide) (by decide) hc

theorem numeral_inj {m n : Nat} (h : numeral m = numeral n) : m = n := by
  have hm := Nat.ofDigitChars_ten_toDigits (n := m)
  rw [numeral, numeral] at h
  rw [h, Nat.ofDigitChars_ten_toDigits] at hm
  exact hm.symm

theorem takeWhile_numeral (n : Nat) {s : List Char} (hs : Stops s) :
    (numeral n ++ s).takeWhile Char.isDigit = numeral n := by
  rw [List.takeWhile_append_of_pos fun c hc => isDigit_of_mem_numeral hc]
  cases s with
  | nil => simp
  | cons c s => simp [hs c rfl]

theorem numeral_append_inj {m n : Nat} {s t : List Char} (hs : Stops s) (ht : Stops t)
    (h : numeral m ++ s = numeral n ++ t) : m = n ∧ s = t := by
  have hdigits : numeral m = numeral n := by
    rw [← takeWhile_numeral m hs, h, takeWhile_numeral n ht]
  rw [hdigits] at h
  exact ⟨numeral_inj hdigits, List.append_cancel_left h⟩

/-- A numeral is never empty and never begins with a sign. -/
theorem exists_numeral (n : Nat) : ∃ c r, numeral n = c :: r ∧ c.isDigit = true := by
  obtain ⟨c, r, hcr⟩ := List.exists_cons_of_ne_nil (Nat.toDigits_ne_nil (n := n) (b := 10))
  refine ⟨c, r, hcr, isDigit_of_mem_numeral (n := n) ?_⟩
  rw [numeral, hcr]
  exact List.mem_cons_self

/-- A number is made of digits and a sign. -/
theorem notMem_signed {c : Char} (hdigit : c.isDigit = false) (hsign : c ≠ '-') (n : Int) :
    c ∉ signed n := by
  have hnumeral : c ∉ numeral n.natAbs := fun h => by
    rw [isDigit_of_mem_numeral h] at hdigit
    cases hdigit
  rw [signed]
  split
  · exact fun h => hnumeral ((List.mem_cons.mp h).resolve_left hsign)
  · exact hnumeral

/-- A number ends where its digits do. -/
theorem signed_append_inj {m n : Int} {s t : List Char} (hs : Stops s) (ht : Stops t)
    (h : signed m ++ s = signed n ++ t) : m = n ∧ s = t := by
  have hunsigned : ∀ (k : Nat) (u v : List Char), numeral k ++ u ≠ '-' :: v := by
    intro k u v hk
    obtain ⟨c, r, hcr, hc⟩ := exists_numeral k
    rw [hcr, List.cons_append, List.cons.injEq] at hk
    rw [hk.1] at hc
    exact absurd hc (by decide)
  rw [signed, signed] at h
  by_cases hm : m < 0 <;> by_cases hn : n < 0
  · rw [if_pos hm, if_pos hn, List.cons_append, List.cons_append, List.cons.injEq] at h
    obtain ⟨habs, hrest⟩ := numeral_append_inj hs ht h.2
    exact ⟨by omega, hrest⟩
  · rw [if_pos hm, if_neg hn] at h
    exact absurd h.symm (hunsigned _ _ _)
  · rw [if_neg hm, if_pos hn] at h
    exact absurd h (hunsigned _ _ _)
  · rw [if_neg hm, if_neg hn] at h
    obtain ⟨habs, hrest⟩ := numeral_append_inj hs ht h
    exact ⟨by omega, hrest⟩

/-! ## Values -/

mutual

/-- Whether a value is one of those that are told apart by how they are written. -/
def plain : Value → Bool
  | .null | .bool _ | .int _ | .text _ => true
  | .double _ | .foreign _ | .bytes _ | .endless => false
  | .list vs => plainItems vs
  | .object fs => plainFields fs

def plainItems : List Value → Bool
  | [] => true
  | v :: vs => plain v && plainItems vs

def plainFields : List (Key × Value) → Bool
  | [] => true
  | (.text _, v) :: fs => plain v && plainFields fs
  | (.other _, _) :: _ => false

end

/-- The kinds of plain values. -/
inductive Kind where
  | null
  | bool
  | int
  | text
  | list
  | object
deriving DecidableEq

/-- The kind of a plain value. -/
def kind? : Value → Option Kind
  | .null => some .null
  | .bool _ => some .bool
  | .int _ => some .int
  | .text _ => some .text
  | .list _ => some .list
  | .object _ => some .object
  | _ => none

/-- The kind of the value that begins with a character. -/
def kindOf? (c : Char) : Option Kind :=
  if c.isDigit || c == '-' then some .int
  else if c == 'n' then some .null
  else if c == 't' || c == 'f' then some .bool
  else if c == '"' then some .text
  else if c == '[' then some .list
  else if c == '\x7b' then some .object
  else none

/-- The first character tells the kind. -/
theorem exists_write {v : Value} (hv : plain v = true) :
    ∃ c r, write v = c :: r ∧ kindOf? c = kind? v ∧ (kind? v).isSome := by
  cases v with
  | null => exact ⟨'n', _, by rw [write]; rfl, rfl, rfl⟩
  | bool b =>
    cases b with
    | false => exact ⟨'f', _, by rw [write]; rfl, rfl, rfl⟩
    | true => exact ⟨'t', _, by rw [write]; rfl, rfl, rfl⟩
  | int n =>
    rw [write, signed]
    split
    · exact ⟨'-', _, rfl, rfl, rfl⟩
    · obtain ⟨c, r, hcr, hc⟩ := exists_numeral n.natAbs
      exact ⟨c, r, hcr, by rw [kindOf?, hc]; rfl, rfl⟩
  | text s => exact ⟨'"', _, by rw [write]; rfl, rfl, rfl⟩
  | list vs => exact ⟨'[', _, by rw [write], rfl, rfl⟩
  | object fs => exact ⟨'\x7b', _, by rw [write], rfl, rfl⟩
  | double x => simp [plain] at hv
  | foreign s => simp [plain] at hv
  | bytes bs => simp [plain] at hv
  | endless => simp [plain] at hv

/-- Values of different kinds are never written alike. -/
theorem kind?_eq_of_write_append {v w : Value} {s t : List Char} (hv : plain v = true)
    (hw : plain w = true) (h : write v ++ s = write w ++ t) : kind? v = kind? w := by
  obtain ⟨c, r, hcr, hc, -⟩ := exists_write hv
  obtain ⟨d, u, hdu, hd, -⟩ := exists_write hw
  rw [hcr, hdu, List.cons_append, List.cons_append, List.cons.injEq] at h
  rw [← hc, h.1, hd]

/-- A closing bracket is not the beginning of a value. -/
theorem write_append_ne_close {v : Value} (hv : plain v = true) (s t : List Char) :
    write v ++ s ≠ ']' :: t := by
  obtain ⟨c, r, hcr, hc, hkind⟩ := exists_write hv
  rw [hcr, List.cons_append]
  rintro h
  rw [(List.cons.inj h).1] at hc
  rw [← hc] at hkind
  exact absurd hkind (by decide)

/-- What stands behind an item: the other items, after a comma, and what follows the list. -/
def moreItems (vs : List Value) (r : List Char) : List Char :=
  match vs with
  | [] => r
  | _ :: _ => ',' :: (writeItems vs ++ r)

theorem writeItems_cons_append (v : Value) (vs : List Value) (r : List Char) :
    writeItems (v :: vs) ++ r = write v ++ moreItems vs r := by
  cases vs with
  | nil => rw [writeItems, moreItems]
  | cons w ws => rw [writeItems, moreItems, List.append_assoc, List.cons_append]; simp

/-- What stands behind a field: the other fields, after a comma, and what follows the object. -/
def moreFields (fs : List (Key × Value)) (r : List Char) : List Char :=
  match fs with
  | [] => r
  | _ :: _ => ',' :: (writeFields fs ++ r)

theorem writeFields_cons_append (k : Key) (v : Value) (fs : List (Key × Value)) (r : List Char) :
    writeFields ((k, v) :: fs) ++ r
      = quoted (keyText k) ++ ':' :: (write v ++ moreFields fs r) := by
  cases fs with
  | nil => simp [writeFields, moreFields]
  | cons f fs => simp [writeFields, moreFields]

theorem stops_of_isDigit {c : Char} (hc : c.isDigit = false) (s : List Char) : Stops (c :: s) := by
  intro d hd
  rw [← Option.some.inj hd]
  exact hc

theorem stops_moreItems (vs : List Value) (s : List Char) : Stops (moreItems vs (']' :: s)) := by
  cases vs with
  | nil => exact stops_of_isDigit (by decide) s
  | cons w ws => exact stops_of_isDigit (by decide) _

theorem stops_moreFields (fs : List (Key × Value)) (s : List Char) :
    Stops (moreFields fs ('\x7d' :: s)) := by
  cases fs with
  | nil => exact stops_of_isDigit (by decide) s
  | cons f fs => exact stops_of_isDigit (by decide) _

mutual

/-- **Plain values are told apart by how they are written**, whatever follows them. -/
theorem write_append_inj : ∀ (v w : Value) (s t : List Char), plain v = true → plain w = true →
    Stops s → Stops t → write v ++ s = write w ++ t → v = w ∧ s = t
  | v, w, s, t, hv, hw, hs, ht, h => by
    -- the other value is of the same kind, so each kind is one case
    have hkind := kind?_eq_of_write_append hv hw h
    cases v with
    | null =>
      cases w <;> simp [kind?] at hkind
      exact ⟨rfl, List.append_cancel_left h⟩
    | bool b =>
      cases w <;> simp [kind?] at hkind
      rename_i b'
      cases b <;> cases b' <;> simp [write] at h ⊢ <;> exact h
    | int m =>
      cases w <;> simp [kind?] at hkind
      rw [write, write] at h
      obtain ⟨rfl, hrest⟩ := signed_append_inj hs ht h
      exact ⟨rfl, hrest⟩
    | text a =>
      cases w <;> simp [kind?] at hkind
      rw [write, write] at h
      obtain ⟨htext, hrest⟩ := quoted_append_inj h
      rw [String.toList_inj.mp htext]
      exact ⟨rfl, hrest⟩
    | list vs =>
      cases w <;> simp [kind?] at hkind
      rename_i ws
      rw [plain] at hv hw
      rw [write, write, List.cons_append, List.cons_append, List.append_assoc, List.append_assoc]
        at h
      obtain ⟨rfl, hrest⟩ := writeItems_append_inj vs ws s t hv hw (List.cons.inj h).2
      exact ⟨rfl, hrest⟩
    | object fs =>
      cases w <;> simp [kind?] at hkind
      rename_i gs
      rw [plain] at hv hw
      rw [write, write, List.cons_append, List.cons_append, List.append_assoc, List.append_assoc]
        at h
      obtain ⟨rfl, hrest⟩ := writeFields_append_inj fs gs s t hv hw (List.cons.inj h).2
      exact ⟨rfl, hrest⟩
    | double x => simp [plain] at hv
    | foreign a => simp [plain] at hv
    | bytes bs => simp [plain] at hv
    | endless => simp [plain] at hv

theorem writeItems_append_inj : ∀ (vs ws : List Value) (s t : List Char), plainItems vs = true →
    plainItems ws = true → writeItems vs ++ ']' :: s = writeItems ws ++ ']' :: t →
      vs = ws ∧ s = t
  | [], [], s, t, _, _, h => by
    rw [writeItems] at h
    exact ⟨rfl, (List.cons.inj h).2⟩
  | [], w :: ws, s, t, _, hws, h => by
    rw [plainItems, Bool.and_eq_true] at hws
    rw [writeItems, writeItems_cons_append] at h
    exact absurd h.symm (write_append_ne_close hws.1 _ _)
  | v :: vs, [], s, t, hvs, _, h => by
    rw [plainItems, Bool.and_eq_true] at hvs
    rw [writeItems, writeItems_cons_append] at h
    exact absurd h (write_append_ne_close hvs.1 _ _)
  | v :: vs, w :: ws, s, t, hvs, hws, h => by
    rw [plainItems, Bool.and_eq_true] at hvs hws
    rw [writeItems_cons_append, writeItems_cons_append] at h
    obtain ⟨rfl, hmore⟩ := write_append_inj v w _ _ hvs.1 hws.1 (stops_moreItems vs s)
      (stops_moreItems ws t) h
    -- a comma behind the one item is a comma behind the other
    match vs, ws with
    | [], [] =>
      exact ⟨rfl, (List.cons.inj hmore).2⟩
    | [], _ :: _ => exact absurd (List.cons.inj hmore).1 (by decide)
    | _ :: _, [] => exact absurd (List.cons.inj hmore).1 (by decide)
    | v' :: vs, w' :: ws =>
      obtain ⟨heq, hrest⟩ := writeItems_append_inj (v' :: vs) (w' :: ws) s t hvs.2 hws.2
        (List.cons.inj hmore).2
      exact ⟨congrArg (v :: ·) heq, hrest⟩

theorem writeFields_append_inj : ∀ (fs gs : List (Key × Value)) (s t : List Char),
    plainFields fs = true → plainFields gs = true →
      writeFields fs ++ '\x7d' :: s = writeFields gs ++ '\x7d' :: t → fs = gs ∧ s = t
  | [], [], s, t, _, _, h => by
    rw [writeFields] at h
    exact ⟨rfl, (List.cons.inj h).2⟩
  | [], (k, w) :: gs, s, t, _, _, h => by
    rw [writeFields, writeFields_cons_append] at h
    exact absurd (List.cons.inj h).1 (by decide)
  | (k, v) :: fs, [], s, t, _, _, h => by
    rw [writeFields, writeFields_cons_append] at h
    exact absurd (List.cons.inj h).1 (by decide)
  | (.other _, _) :: _, _ :: _, _, _, hfs, _, _ => by simp [plainFields] at hfs
  | (.text _, _) :: _, (.other _, _) :: _, _, _, _, hgs, _ => by simp [plainFields] at hgs
  | (.text k, v) :: fs, (.text l, w) :: gs, s, t, hfs, hgs, h => by
    rw [plainFields, Bool.and_eq_true] at hfs hgs
    rw [writeFields_cons_append, writeFields_cons_append] at h
    obtain ⟨hkey, hrest⟩ := quoted_append_inj h
    obtain rfl : k = l := String.toList_inj.mp hkey
    obtain ⟨rfl, hmore⟩ := write_append_inj v w _ _ hfs.1 hgs.1 (stops_moreFields fs s)
      (stops_moreFields gs t) (List.cons.inj hrest).2
    match fs, gs with
    | [], [] => exact ⟨rfl, (List.cons.inj hmore).2⟩
    | [], _ :: _ => exact absurd (List.cons.inj hmore).1 (by decide)
    | _ :: _, [] => exact absurd (List.cons.inj hmore).1 (by decide)
    | f :: fs, g :: gs =>
      obtain ⟨heq, hrest⟩ := writeFields_append_inj (f :: fs) (g :: gs) s t hfs.2 hgs.2
        (List.cons.inj hmore).2
      exact ⟨congrArg ((Key.text k, v) :: ·) heq, hrest⟩

end

end Muster.Document.Json
