/-
  What a fingerprint tells apart.

  1. **Program.**  `fingerprintText` puts the default-loadout text, the option lines, each after a
     NUL, and the catalog of roster, weapons and abilities into one text; the fingerprint is the
     digest of its bytes.

  2. **Specification.**  Two datasheets with the same bytes have the same CONTENTS, which is all
     that generation reads besides the id.

  3. **The crux** is to cut the text where it was put together.
       - The catalog begins where `{"u` stands for the last time: within the catalog a quote after
         a brace begins a key or ends a text, and neither is followed by that letter (`watch`).
       - Before it, the parts end where the NULs are.

  4. **Where it ends.**  The second cut needs texts without NUL.  With one, a default loadout can
     hold what looks like an option line, and two datasheets have the same bytes.
-/
import Mathlib
import Muster.Wargear.Cache
import Muster.Proofs.Document.Json
import Muster.Proofs.Wargear.LineOrder

namespace Muster.Wargear

open Text Document

/-! ## The mark -/

/-- How much of the mark `{"u` a text ends with, or that it holds the mark. -/
inductive Seen where
  | nothing
  | brace
  | quote
  | mark
deriving DecidableEq

/-- What is seen after one more character. -/
def watch : Seen → Char → Seen
  | .mark, _ => .mark
  | .quote, 'u' => .mark
  | .brace, '"' => .quote
  | _, '\x7b' => .brace
  | _, _ => .nothing

theorem foldl_watch_mark (s : List Char) : s.foldl watch .mark = .mark := by
  induction s with
  | nil => rfl
  | cons c s ih => exact ih

/-- The mark is not missed. -/
theorem foldl_watch_of_mark (q : Seen) (s t : List Char) :
    (s ++ '\x7b' :: '"' :: 'u' :: t).foldl watch q = .mark := by
  rw [List.foldl_append]
  cases s.foldl watch q <;> exact foldl_watch_mark t

/-- The text is over and holds no mark: what follows decides. -/
def Settled (s : List Char) : Prop :=
  s.foldl watch .nothing = .nothing ∨ s.foldl watch .nothing = .quote

/-- What stands between values. -/
def isDelimiter (c : Char) : Bool := c == ',' || c == ':' || c == ']' || c == '\x7d'

theorem Settled.foldl_append {s : List Char} (hs : Settled s) {d : Char} (hd : isDelimiter d = true)
    (r : List Char) : (s ++ d :: r).foldl watch .nothing = r.foldl watch .nothing := by
  have hclear : watch .nothing d = .nothing ∧ watch .quote d = .nothing := by
    simp only [isDelimiter, Bool.or_eq_true, beq_iff_eq] at hd
    rcases hd with ((rfl | rfl) | rfl) | rfl <;> decide
  rw [List.foldl_append, List.foldl_cons]
  rcases hs with hs | hs
  · rw [hs, hclear.1]
  · rw [hs, hclear.2]

/-- What may be seen within a text: a brace at most, for a quote is escaped. -/
def Seen.Inner (q : Seen) : Prop := q = .nothing ∨ q = .brace

theorem inner_watch_nothing (c : Char) : (watch .nothing c).Inner := by
  unfold watch
  split <;> simp_all [Seen.Inner]

theorem inner_watch {q : Seen} (hq : q.Inner) {c : Char} (hc : c ≠ '"') : (watch q c).Inner := by
  rcases hq with rfl | rfl
  · exact inner_watch_nothing c
  · unfold watch
    split <;> simp_all [Seen.Inner]

theorem hexDigit_ne_quote : ∀ n < 16, Json.hexDigit n ≠ '"' := by decide

theorem inner_foldl_escape {q : Seen} (hq : q.Inner) (c : Char) :
    ((Json.escape c).foldl watch q).Inner := by
  have hslash : watch q '\\' = .nothing := by rcases hq with rfl | rfl <;> decide
  have hletter : ∀ d, (['\\', d].foldl watch q).Inner := by
    intro d
    rw [List.foldl_cons, hslash]
    exact inner_watch_nothing d
  rw [Json.escape]
  split
  · exact hletter _
  split
  · exact hletter _
  split
  · exact hletter _
  split
  · exact hletter _
  split
  · exact hletter _
  split
  · exact hletter _
  split
  · exact hletter _
  split
  · -- a control character: two zeros and two digits
    have hzero : watch (watch (watch .nothing 'u') '0') '0' = .nothing := by decide
    simp only [List.foldl_cons, List.foldl_nil, hslash, hzero]
    exact inner_watch (inner_watch_nothing _) (hexDigit_ne_quote _ (by omega))
  · rename_i hquote _ _ _ _ _ _ _
    exact inner_watch hq (by simpa using hquote)

theorem settled_quoted (s : List Char) : Settled (Json.quoted s) := by
  have htext : ∀ q : Seen, q.Inner → ((s.flatMap Json.escape).foldl watch q).Inner := by
    induction s with
    | nil => exact fun q hq => hq
    | cons c s ih =>
      intro q hq
      rw [List.flatMap_cons, List.foldl_append]
      exact ih _ (inner_foldl_escape hq c)
  have hopen : watch .nothing '"' = .nothing := by decide
  rw [Settled, Json.quoted, List.foldl_cons, hopen, List.foldl_append]
  -- the closing quote may follow a brace, and then a `u` must not follow the quote
  rcases htext .nothing (Or.inl rfl) with hinner | hinner
  · exact Or.inl (by rw [hinner]; rfl)
  · exact Or.inr (by rw [hinner]; rfl)

theorem settled_signed (n : Int) : Settled (signed n) := by
  have hstay : ∀ s : List Char, '\x7b' ∉ s → s.foldl watch .nothing = .nothing := by
    intro s hs
    induction s with
    | nil => rfl
    | cons c s ih =>
      rw [List.mem_cons, not_or] at hs
      have hnothing : watch .nothing c = .nothing := by
        unfold watch
        split <;> simp_all
      rw [List.foldl_cons, hnothing]
      exact ih hs.2
  exact Or.inl (hstay _ (Json.notMem_signed (by decide) (by decide) n))

theorem settled_items {vs : List Value} (hvs : ∀ v ∈ vs, Settled (Json.write v)) :
    Settled (Json.writeItems vs) := by
  induction vs with
  | nil => exact Or.inl rfl
  | cons v vs ih =>
    rw [List.forall_mem_cons] at hvs
    have hcut := Json.writeItems_cons_append v vs []
    rw [List.append_nil] at hcut
    rw [hcut]
    cases vs with
    | nil =>
      rw [Json.moreItems, List.append_nil]
      exact hvs.1
    | cons w ws =>
      rw [Json.moreItems, List.append_nil, Settled, hvs.1.foldl_append (by decide)]
      exact ih hvs.2

theorem settled_list {vs : List Value} (hvs : ∀ v ∈ vs, Settled (Json.write v)) :
    Settled (Json.write (.list vs)) := by
  have hopen : watch .nothing '[' = .nothing := by decide
  rw [Settled, Json.write, List.foldl_cons, hopen, (settled_items hvs).foldl_append (by decide)]
  exact Or.inl rfl

theorem settled_fields {fs : List (Key × Value)} (hfs : ∀ f ∈ fs, Settled (Json.write f.2)) :
    Settled (Json.writeFields fs) := by
  induction fs with
  | nil => exact Or.inl rfl
  | cons f fs ih =>
    rw [List.forall_mem_cons] at hfs
    have hcut := Json.writeFields_cons_append f.1 f.2 fs []
    rw [List.append_nil] at hcut
    rw [Settled, hcut, (settled_quoted _).foldl_append (by decide)]
    cases fs with
    | nil =>
      rw [Json.moreFields, List.append_nil]
      exact hfs.1
    | cons g gs =>
      rw [Json.moreFields, List.append_nil, hfs.1.foldl_append (by decide)]
      exact ih hfs.2

/-- An object holds no mark if its first key does not begin one. -/
theorem settled_object {k : Key} {v : Value} {fs : List (Key × Value)}
    (hkey : (Json.quoted (Json.keyText k) ++ [':']).foldl watch .brace = .nothing)
    (hv : Settled (Json.write v)) (hfs : ∀ f ∈ fs, Settled (Json.write f.2)) :
    Settled (Json.write (.object ((k, v) :: fs))) := by
  have hopen : watch .nothing '\x7b' = .brace := by decide
  have hfields : Settled (Json.writeFields ((k, v) :: fs)) :=
    settled_fields (List.forall_mem_cons.mpr ⟨hv, hfs⟩)
  have hcut := Json.writeFields_cons_append k v fs ['\x7d']
  -- behind the first key it makes no difference that a brace came before
  have hsame : (Json.writeFields ((k, v) :: fs) ++ ['\x7d']).foldl watch .brace
      = (Json.writeFields ((k, v) :: fs) ++ ['\x7d']).foldl watch .nothing := by
    rw [hcut, (settled_quoted _).foldl_append (by decide), List.append_cons, List.foldl_append,
      hkey]
  rw [Settled, Json.write, List.foldl_cons, hopen, hsame, hfields.foldl_append (by decide)]
  exact Or.inl rfl

theorem settled_text (s : String) : Settled (Json.write (.text s)) := by
  rw [Json.write]
  exact settled_quoted s.toList

theorem settled_int (n : Int) : Settled (Json.write (.int n)) := by
  rw [Json.write]
  exact settled_signed n

theorem settled_rosterEntry (e : RosterEntry) : Settled (Json.write e.toValue) := by
  have hkey : (Json.quoted "description".toList ++ [':']).foldl watch .brace = .nothing := by decide
  refine settled_object hkey (settled_text e.description) ?_
  simp only [List.map_cons, List.map_nil, List.forall_mem_cons]
  exact ⟨settled_int e.min, settled_int e.max, fun f hf => absurd hf List.not_mem_nil⟩

theorem settled_weapon (w : Weapon) : Settled (Json.write w.toValue) := by
  have hkey : (Json.quoted "id".toList ++ [':']).foldl watch .brace = .nothing := by decide
  refine settled_object hkey (settled_text w.id) ?_
  simp only [List.map_cons, List.map_nil, List.forall_mem_cons]
  exact ⟨settled_text w.name, fun f hf => absurd hf List.not_mem_nil⟩

/-! ## The catalog -/

/-- The fields of the catalog. -/
def Datasheet.catalogFields (d : Datasheet) : List (Key × Value) := [
  (.text "unit_composition", .list (d.roster.map RosterEntry.toValue)),
  (.text "weapons", .list (d.weapons.map Weapon.toValue)),
  (.text "wargear_abilities", .list (d.abilities.map Value.text))]

theorem write_catalog (d : Datasheet) :
    Json.write d.catalog = '\x7b' :: (Json.writeFields d.catalogFields ++ ['\x7d']) := by
  rw [Datasheet.catalog, Value.ofFields, Json.write]
  rfl

/-- The catalog begins with the mark. -/
theorem exists_catalogFields (d : Datasheet) :
    ∃ r, Json.writeFields d.catalogFields = '"' :: 'u' :: r := by
  have hcut := Json.writeFields_cons_append (.text "unit_composition")
    (.list (d.roster.map RosterEntry.toValue)) d.catalogFields.tail []
  rw [List.append_nil] at hcut
  exact ⟨_, hcut⟩

/-- Within the catalog the mark does not come again. -/
theorem settled_catalogFields (d : Datasheet) : Settled (Json.writeFields d.catalogFields) := by
  have hroster : ∀ v ∈ d.roster.map RosterEntry.toValue, Settled (Json.write v) :=
    List.forall_mem_map.mpr fun e _ => settled_rosterEntry e
  have hweapons : ∀ v ∈ d.weapons.map Weapon.toValue, Settled (Json.write v) :=
    List.forall_mem_map.mpr fun w _ => settled_weapon w
  have habilities : ∀ v ∈ d.abilities.map Value.text, Settled (Json.write v) :=
    List.forall_mem_map.mpr fun a _ => settled_text a
  refine settled_fields ?_
  simp only [Datasheet.catalogFields, List.forall_mem_cons]
  exact ⟨settled_list hroster, settled_list hweapons, settled_list habilities,
    fun f hf => absurd hf List.not_mem_nil⟩

/-- One catalog does not end in another. -/
theorem catalog_eq_of_suffix {d d' : Datasheet} {s : List Char}
    (h : Json.write d.catalog = s ++ Json.write d'.catalog) : s = [] := by
  cases s with
  | nil => rfl
  | cons c s =>
    obtain ⟨r, hr⟩ := exists_catalogFields d'
    rw [write_catalog, write_catalog, hr, List.cons_append] at h
    -- the inner catalog would show its mark behind the first character of the outer one
    have hmark : (Json.writeFields d.catalogFields ++ ['\x7d']).foldl watch .nothing = .mark := by
      rw [(List.cons.inj h).2]
      exact foldl_watch_of_mark .nothing s _
    rw [(settled_catalogFields d).foldl_append (by decide)] at hmark
    exact absurd hmark (by decide)

/-- **The text is cut before the catalog in one way.** -/
theorem append_catalog_inj {s t : List Char} {d d' : Datasheet}
    (h : s ++ Json.write d.catalog = t ++ Json.write d'.catalog) :
    s = t ∧ Json.write d.catalog = Json.write d'.catalog := by
  rcases List.append_eq_append_iff.mp h with ⟨u, hu, hcatalog⟩ | ⟨u, hu, hcatalog⟩
  · obtain rfl := catalog_eq_of_suffix hcatalog
    exact ⟨by rw [hu, List.append_nil], hcatalog⟩
  · obtain rfl := catalog_eq_of_suffix hcatalog
    exact ⟨by rw [hu, List.append_nil], hcatalog.symm⟩

theorem RosterEntry.toValue_injective : Function.Injective RosterEntry.toValue := by
  rintro ⟨a, b, c⟩ ⟨a', b', c'⟩ h
  simpa [RosterEntry.toValue, Value.ofFields] using h

theorem Weapon.toValue_injective : Function.Injective Weapon.toValue := by
  rintro ⟨a, b⟩ ⟨a', b'⟩ h
  simpa [Weapon.toValue, Value.ofFields] using h

theorem plain_catalog (d : Datasheet) : Json.plain d.catalog = true := by
  have hitems : ∀ vs : List Value, (∀ v ∈ vs, Json.plain v = true) → Json.plainItems vs = true := by
    intro vs hvs
    induction vs with
    | nil => rfl
    | cons v vs ih =>
      rw [List.forall_mem_cons] at hvs
      rw [Json.plainItems, hvs.1, ih hvs.2]
      rfl
  have hroster := hitems (d.roster.map RosterEntry.toValue)
    (List.forall_mem_map.mpr fun e _ => rfl)
  have hweapons := hitems (d.weapons.map Weapon.toValue) (List.forall_mem_map.mpr fun w _ => rfl)
  have habilities := hitems (d.abilities.map Value.text) (List.forall_mem_map.mpr fun a _ => rfl)
  simp [Datasheet.catalog, Value.ofFields, Json.plain, Json.plainFields, hroster, hweapons,
    habilities]

/-- The catalog tells rosters, weapons and abilities apart. -/
theorem catalog_inj {d d' : Datasheet} (h : Json.write d.catalog = Json.write d'.catalog) :
    d.roster = d'.roster ∧ d.weapons = d'.weapons ∧ d.abilities = d'.abilities := by
  have hstops : Json.Stops [] := fun c hc => by simp at hc
  have hvalue := (Json.write_append_inj d.catalog d'.catalog [] [] (plain_catalog d)
    (plain_catalog d') hstops hstops (by rw [h])).1
  have htext : Function.Injective Value.text := fun a b hab => by simpa using hab
  simp only [Datasheet.catalog, Value.ofFields, List.map_cons, List.map_nil, Value.object.injEq,
    List.cons.injEq, Prod.mk.injEq, Value.list.injEq, true_and, and_true] at hvalue
  exact ⟨List.map_injective_iff.mpr RosterEntry.toValue_injective hvalue.1,
    List.map_injective_iff.mpr Weapon.toValue_injective hvalue.2.1,
    List.map_injective_iff.mpr htext hvalue.2.2⟩

/-! ## Option lines -/

/-- The character between the parts. -/
def nul : Char := Char.ofNat 0

/-- What generation reads of an option line. -/
def OptionLine.content (o : OptionLine) : Int × String := (o.line, o.description)

theorem lineText_eq (o : OptionLine) :
    lineText o = nul :: (signed o.line ++ nul :: o.description.toList) := rfl

theorem nul_notMem_signed (n : Int) : nul ∉ signed n :=
  Json.notMem_signed (by decide) (by decide) n

theorem signed_inj {m n : Int} (h : signed m = signed n) : m = n :=
  (Json.signed_append_inj (s := []) (t := []) (by simp [Json.Stops]) (by simp [Json.Stops])
    (by rw [h])).1

/-- A part ends at the first NUL. -/
theorem append_nul_inj {a b s t : List Char} (ha : nul ∉ a) (hb : nul ∉ b)
    (h : a ++ nul :: s = b ++ nul :: t) : a = b ∧ s = t := by
  have hcut : ∀ {a s : List Char}, nul ∉ a → (a ++ nul :: s).takeWhile (· != nul) = a := by
    intro a s ha
    rw [List.takeWhile_append_of_pos fun c hc => by
      simpa using fun hnul : c = nul => ha (hnul ▸ hc)]
    simp
  have hparts : a = b := by rw [← hcut (s := s) ha, h, hcut hb]
  rw [hparts] at h
  exact ⟨hparts, (List.cons.inj (List.append_cancel_left h)).2⟩

/-- **Option lines without NUL are told apart**, and from a text without NUL before them. -/
theorem append_lines_inj : ∀ {os ps : List OptionLine} {a b : List Char}, nul ∉ a → nul ∉ b →
    (∀ o ∈ os, nul ∉ o.description.toList) → (∀ o ∈ ps, nul ∉ o.description.toList) →
      a ++ os.flatMap lineText = b ++ ps.flatMap lineText →
        a = b ∧ os.map OptionLine.content = ps.map OptionLine.content
  | [], [], a, b, _, _, _, _, h => by simpa using h
  | [], p :: ps, a, b, ha, _, _, _, h => by
    rw [List.flatMap_nil, List.append_nil, List.flatMap_cons, lineText_eq, List.cons_append] at h
    exact absurd (h ▸ List.mem_append_right b List.mem_cons_self) ha
  | o :: os, [], a, b, _, hb, _, _, h => by
    rw [List.flatMap_nil, List.append_nil, List.flatMap_cons, lineText_eq, List.cons_append] at h
    exact absurd (h ▸ List.mem_append_right a List.mem_cons_self) hb
  | o :: os, p :: ps, a, b, ha, hb, hos, hps, h => by
    rw [List.forall_mem_cons] at hos hps
    simp only [List.flatMap_cons, lineText_eq, List.cons_append, List.append_assoc] at h
    obtain ⟨hfirst, hline⟩ := append_nul_inj ha hb h
    obtain ⟨hnumber, hrest⟩ :=
      append_nul_inj (nul_notMem_signed o.line) (nul_notMem_signed p.line) hline
    obtain ⟨htext, hmore⟩ := append_lines_inj hos.1 hps.1 hos.2 hps.2 hrest
    have hcontent : o.content = p.content :=
      Prod.ext (signed_inj hnumber) (String.toList_inj.mp htext)
    rw [List.map_cons, List.map_cons, hcontent, hmore]
    exact ⟨hfirst, rfl⟩

/-! ## Bytes and digests -/

theorem toList_loop (bs : ByteArray) (i : Nat) (r : List UInt8) :
    ByteArray.toList.loop bs i r = r.reverse ++ bs.data.toList.drop i := by
  fun_induction ByteArray.toList.loop bs i r with
  | case1 i r h ih =>
    have hi : i < bs.data.toList.length := by simpa using h
    have hget : bs.get! i = bs.data.toList[i] := by simp [ByteArray.get!, h]
    rw [ih, List.drop_eq_getElem_cons hi, List.reverse_cons, List.append_assoc, hget]
    rfl
  | case2 i r h =>
    rw [List.drop_eq_nil_of_le (by simpa using Nat.le_of_not_lt h), List.append_nil]

theorem toList_inj {bs cs : ByteArray} (h : bs.toList = cs.toList) : bs = cs := by
  rw [ByteArray.toList, ByteArray.toList, toList_loop, toList_loop] at h
  exact ByteArray.ext (Array.toList_inj.mp (by simpa using h))

/-- The bytes are those of one text. -/
theorem fingerprintBytes_inj {d d' : Datasheet} :
    fingerprintBytes d = fingerprintBytes d' ↔ fingerprintText d = fingerprintText d' := by
  constructor
  · intro h
    exact String.ofList_injective (String.toByteArray_inj.mp (toList_inj h))
  · intro h
    rw [fingerprintBytes, fingerprintBytes, h]

theorem digitChar_inj : ∀ m < 16, ∀ n < 16, Nat.digitChar m = Nat.digitChar n → m = n := by decide

theorem hexWord_inj {v w : UInt32} (h : Digest.hexWord v = Digest.hexWord w) : v = w := by
  have hdigit : ∀ i < 8, v.toNat / Nat.pow 16 (7 - i) % 16 = w.toNat / Nat.pow 16 (7 - i) % 16 := by
    intro i hi
    have hmap := List.map_inj_left.mp h i (List.mem_range.mpr hi)
    exact digitChar_inj _ (Nat.mod_lt _ (by decide)) _ (Nat.mod_lt _ (by decide)) hmap
  -- a number is its digits, eight of them for 32 bits
  have hdrop : ∀ i < 8, v.toNat / Nat.pow 16 (8 - i) = w.toNat / Nat.pow 16 (8 - i) →
      v.toNat / Nat.pow 16 (7 - i) = w.toNat / Nat.pow 16 (7 - i) := by
    intro i hi hhigh
    have hpow : Nat.pow 16 (8 - i) = Nat.pow 16 (7 - i) * 16 := by
      rw [show 8 - i = 7 - i + 1 by omega]
      rfl
    rw [hpow, ← Nat.div_div_eq_div_mul, ← Nat.div_div_eq_div_mul] at hhigh
    have hlow := hdigit i hi
    omega
  have htop : v.toNat / Nat.pow 16 8 = w.toNat / Nat.pow 16 8 := by
    rw [Nat.div_eq_of_lt v.toNat_lt, Nat.div_eq_of_lt w.toNat_lt]
  have hall : ∀ i ≤ 8, v.toNat / Nat.pow 16 (8 - i) = w.toNat / Nat.pow 16 (8 - i) := by
    intro i hi
    induction i with
    | zero => exact htop
    | succ i ih =>
      rw [show 8 - (i + 1) = 7 - i by omega]
      exact hdrop i (by omega) (ih (by omega))
  have hword := hall 8 le_rfl
  rw [Nat.sub_self] at hword
  exact UInt32.toNat_inj.mp (by simpa using hword)

/-- A digest is found again from its digits. -/
theorem hex_inj {s t : Digest.State} (h : s.hex = t.hex) : s = t := by
  have hlength : ∀ w : UInt32, (Digest.hexWord w).length = 8 := fun w => by
    rw [Digest.hexWord, List.length_map, List.length_range]
  have hwords : ∀ {vs ws : List UInt32}, vs.length = ws.length →
      vs.flatMap Digest.hexWord = ws.flatMap Digest.hexWord → vs = ws := by
    intro vs
    induction vs with
    | nil => exact fun hvs _ => (List.length_eq_zero_iff.mp hvs.symm).symm
    | cons v vs ih =>
      intro ws hvs hflat
      cases ws with
      | nil => simp at hvs
      | cons w ws =>
        rw [List.flatMap_cons, List.flatMap_cons] at hflat
        obtain ⟨hfirst, hrest⟩ := List.append_inj hflat ((hlength v).trans (hlength w).symm)
        rw [hexWord_inj hfirst, ih (by simpa using hvs) hrest]
  have hflat : s.words.flatMap Digest.hexWord = t.words.flatMap Digest.hexWord :=
    String.ofList_injective h
  have hcount : s.words.length = t.words.length := rfl
  have hstate := hwords hcount hflat
  obtain ⟨⟩ := s
  obtain ⟨⟩ := t
  simpa [Digest.State.words] using hstate

/-! ## Contents -/

/-- What generation reads of a datasheet besides the id. -/
structure Contents where
  defaultLoadout : String
  /-- The option lines in line order, by number and text. -/
  lines : List (Int × String)
  roster : List RosterEntry
  weapons : List Weapon
  abilities : List String

/-- The contents of a datasheet. -/
def Datasheet.contents (d : Datasheet) : Contents :=
  ⟨d.defaultLoadout, (inLineOrder d.options).map OptionLine.content, d.roster, d.weapons,
    d.abilities⟩

/-- What stands before the catalog. -/
def Datasheet.heading (d : Datasheet) : List Char :=
  d.defaultLoadout.toList ++ (inLineOrder d.options).flatMap lineText

/-- No text before the catalog holds a NUL. -/
def Datasheet.NulFree (d : Datasheet) : Prop :=
  nul ∉ d.defaultLoadout.toList ∧ ∀ o ∈ d.options, nul ∉ o.description.toList

instance (d : Datasheet) : Decidable d.NulFree := inferInstanceAs (Decidable (_ ∧ _))

/-- Two messages with one digest. -/
def Collision (x y : List UInt8) : Prop := x ≠ y ∧ Digest.sha256 x = Digest.sha256 y

theorem fingerprintText_inj {d d' : Datasheet} : fingerprintText d = fingerprintText d'
    ↔ d.heading = d'.heading ∧ d.roster = d'.roster ∧ d.weapons = d'.weapons
      ∧ d.abilities = d'.abilities := by
  constructor
  · intro h
    obtain ⟨hheading, hcatalog⟩ := append_catalog_inj (s := d.heading) (t := d'.heading) h
    exact ⟨hheading, catalog_inj hcatalog⟩
  · rintro ⟨hheading, hroster, hweapons, habilities⟩
    have hcatalog : d.catalog = d'.catalog := by
      rw [Datasheet.catalog, Datasheet.catalog, hroster, hweapons, habilities]
    show d.heading ++ Json.write d.catalog = d'.heading ++ Json.write d'.catalog
    rw [hheading, hcatalog]

/-- The lines of an option make its text. -/
theorem heading_eq_of_content {os ps : List OptionLine}
    (h : os.map OptionLine.content = ps.map OptionLine.content) :
    os.flatMap lineText = ps.flatMap lineText := by
  have hcontent : ∀ o : OptionLine,
      lineText o = nul :: (signed o.content.1 ++ nul :: o.content.2.toList) := fun _ => rfl
  have hmap : ∀ os : List OptionLine, os.flatMap lineText
      = (os.map OptionLine.content).flatMap fun r => nul :: (signed r.1 ++ nul :: r.2.toList) :=
    fun os => by rw [List.flatMap_map]; rfl
  rw [hmap, hmap, h]

theorem heading_inj {d d' : Datasheet} (hd : d.NulFree) (hd' : d'.NulFree) :
    d.heading = d'.heading ↔ d.defaultLoadout = d'.defaultLoadout
      ∧ (inLineOrder d.options).map OptionLine.content
        = (inLineOrder d'.options).map OptionLine.content := by
  constructor
  · intro h
    obtain ⟨hdefault, hlines⟩ := append_lines_inj hd.1 hd'.1
      (fun o ho => hd.2 o (mem_inLineOrder.mp ho)) (fun o ho => hd'.2 o (mem_inLineOrder.mp ho)) h
    exact ⟨String.toList_inj.mp hdefault, hlines⟩
  · rintro ⟨hdefault, hlines⟩
    rw [Datasheet.heading, Datasheet.heading, hdefault, heading_eq_of_content hlines]

/-! ## Generation -/

theorem parseOptions_eq_of_content {os ps : List OptionLine}
    (h : (inLineOrder os).map OptionLine.content = (inLineOrder ps).map OptionLine.content) :
    parseOptions os = parseOptions ps := by
  have hmap : ∀ os : List OptionLine,
      parseOptions os = ((inLineOrder os).map OptionLine.content).mapM fun r => parse r.2 r.1 :=
    fun os => by rw [List.mapM_map]; rfl
  rw [hmap, hmap, h]

/-- **Generation reads the id and the contents**, and nothing else. -/
theorem generate_eq_of_contents {d d' : Datasheet} (hid : d.id = d'.id)
    (h : d.contents = d'.contents) (s : Settings) : generate d s = generate d' s := by
  simp only [Datasheet.contents, Contents.mk.injEq] at h
  obtain ⟨hdefault, hlines, hroster, hweapons, habilities⟩ := h
  have hfrom : ∀ os, generateFrom d os s = generateFrom d' os s := by
    intro os
    obtain ⟨⟩ := d
    obtain ⟨⟩ := d'
    simp only at hid hdefault hroster hweapons habilities
    subst hid hdefault hroster hweapons habilities
    -- the names and the option lines that still differ are not looked at
    rfl
  simp only [generate, parseOptions_eq_of_content hlines, hfrom]

/-- **What a fingerprint tells apart.**  Two datasheets have the same bytes exactly if they have the
    same heading, roster, weapons and abilities; if no text of either holds a NUL, exactly if they
    have the same contents.  Then, unless the digests of their bytes collide, they have the same
    key exactly if they have the same id and contents, and the same key means the same generation. -/
theorem fingerprint_separates (d d' : Datasheet) :
    (fingerprintBytes d = fingerprintBytes d' ↔ d.heading = d'.heading ∧ d.roster = d'.roster
      ∧ d.weapons = d'.weapons ∧ d.abilities = d'.abilities)
    ∧ (d.NulFree → d'.NulFree →
      (fingerprintBytes d = fingerprintBytes d' ↔ d.contents = d'.contents)
      ∧ (¬ Collision (fingerprintBytes d) (fingerprintBytes d') →
        (cacheKey d = cacheKey d' ↔ d.id = d'.id ∧ d.contents = d'.contents)
        ∧ (cacheKey d = cacheKey d' → ∀ s, generate d s = generate d' s))) := by
  refine ⟨fingerprintBytes_inj.trans fingerprintText_inj, fun hd hd' => ?_⟩
  have hbytes : fingerprintBytes d = fingerprintBytes d' ↔ d.contents = d'.contents := by
    rw [fingerprintBytes_inj, fingerprintText_inj, heading_inj hd hd', Datasheet.contents,
      Datasheet.contents, Contents.mk.injEq, and_assoc]
  refine ⟨hbytes, fun hcollision => ?_⟩
  have hkey : cacheKey d = cacheKey d' ↔ d.id = d'.id ∧ d.contents = d'.contents := by
    rw [cacheKey, cacheKey, CacheKey.mk.injEq, ← hbytes]
    refine and_congr_right fun _ => ⟨fun h => ?_, fun h => by rw [fingerprint, fingerprint, h]⟩
    by_contra hne
    exact hcollision ⟨hne, hex_inj h⟩
  exact ⟨hkey, fun h => generate_eq_of_contents (hkey.mp h).1 (hkey.mp h).2⟩

/-- Marines with one option. -/
def marines (defaultLoadout option : String) : Datasheet where
  id := "u"
  name := "Marines"
  defaultLoadout := defaultLoadout
  roster := [⟨"4 Marines", 4, 4⟩]
  weapons := []
  abilities := []
  options := [⟨"u", 1, "", option⟩]

/-- An edit of an option makes another key. -/
theorem cacheKey_marines :
    (marines "" "1 axe").NulFree ∧ (marines "" "1 horn").NulFree
      ∧ cacheKey (marines "" "1 axe") ≠ cacheKey (marines "" "1 horn") := by
  have haxe : (marines "" "1 axe").NulFree := by decide +kernel
  have hhorn : (marines "" "1 horn").NulFree := by decide +kernel
  have hcollision : ¬ Collision (fingerprintBytes (marines "" "1 axe"))
      (fingerprintBytes (marines "" "1 horn")) := fun h => absurd h.2 (by decide +kernel)
  refine ⟨haxe, hhorn, fun hkey => ?_⟩
  have hcontents := ((((fingerprint_separates _ _).2 haxe hhorn).2 hcollision).1.mp hkey).2
  exact absurd (congrArg Contents.lines hcontents) (by decide +kernel)

/-- Marines without options whose default loadout goes on like an option line. -/
def disguisedMarines (defaultLoadout option : String) : Datasheet :=
  { marines (defaultLoadout ++ String.ofList (lineText ⟨"u", 1, "", option⟩)) option with
    options := [] }

/-- They have the bytes of marines with that option. -/
theorem not_fingerprint_separates_marines :
    let disguised := disguisedMarines "Every model is equipped with: bolter."
      "This model can be equipped with 1 axe."
    let plain := marines "Every model is equipped with: bolter."
      "This model can be equipped with 1 axe."
    disguised.defaultLoadout ≠ plain.defaultLoadout
      ∧ fingerprintBytes disguised = fingerprintBytes plain := by
  refine ⟨by decide +kernel, fingerprintBytes_inj.mpr (fingerprintText_inj.mpr ⟨?_, rfl, rfl, rfl⟩)⟩
  simp [Datasheet.heading, disguisedMarines, marines, inLineOrder, insertLine]

end Muster.Wargear
