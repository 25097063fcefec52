/-
  Reading back what was written.

  1. **Program.**  `Document/Reader` reads values generously, `Document/Writer` writes them in one
     form.

  2. **Specification.**  A reader READS BACK a writer if it accepts all that the writer writes and
     makes of it what was written (`ReadsBack`).

  3. **The crux** is at the choices between kinds: an integer, a text and a truth value are written
     as three different kinds of value, so a choice never takes one for another.  All else follows
     the build of the readers: lists, values that may be absent, and the fields of records each read
     back if their parts do.
-/
import Muster.Document.Writer

namespace Muster.Document

/-- A reader makes of what a writer wrote what was written. -/
def ReadsBack {α : Type} (read : Reader α) (write : α → Value) : Prop :=
  ∀ a, read (write a) = .ok a

/-! ## Single values -/

theorem readsBack_text : ReadsBack text .text := fun _ => rfl

theorem readsBack_integer : ReadsBack integer .int := fun _ => rfl

theorem readsBack_integerOrText : ReadsBack integerOrText .ofIntegerOrText := by
  intro v
  cases v with
  | integer n => rfl
  | text s => rfl

/-- A table reads back the names that it holds. -/
theorem readsBack_oneOf {α : Type} {table : List (String × α)} {c : Cause} {name : α → String}
    (hname : ∀ a, table.lookup (name a) = some a) :
    ReadsBack (oneOf table c) fun a => .text (name a) := by
  intro a
  simp only [oneOf, hname a]

theorem ReadsBack.nullable {α : Type} {read : Reader α} {write : α → Value}
    (h : ReadsBack read write) (hnull : ∀ a, write a ≠ .null) :
    ReadsBack (nullable read) (Value.ofOption write) := by
  intro a
  cases a with
  | none => rfl
  | some a =>
    have hread : Document.nullable read (write a) = some <$> read (write a) := by
      rw [Document.nullable]
      exact hnull a
    show Document.nullable read (write a) = _
    rw [hread, h a]
    rfl

/-! ## Lists -/

theorem itemsFrom_map {α : Type} {read : Reader α} {write : α → Value} (h : ReadsBack read write)
    (as : List α) : ∀ i, itemsFrom read i (as.map write) = .ok as := by
  induction as with
  | nil => exact fun _ => rfl
  | cons a as ih =>
    intro i
    rw [List.map_cons, itemsFrom, h a, ih (i + 1)]
    rfl

theorem ReadsBack.listOf {α : Type} {read : Reader α} {write : α → Value}
    (h : ReadsBack read write) : ReadsBack (listOf read) (Value.ofList write) :=
  fun as => itemsFrom_map h as 0

theorem readsBack_texts : ReadsBack (listOf text) .texts := readsBack_text.listOf

/-! ## Records -/

@[simp] theorem field?_ofFields (fs : List (String × Value)) (name : String) :
    (Value.ofFields fs).field? name = fs.lookup name := by
  show (fs.map fun f => (Key.text f.1, f.2)).lookup (.text name) = _
  induction fs with
  | nil => rfl
  | cons f fs ih =>
    rw [List.map_cons, List.lookup_cons, List.lookup_cons, ih]
    have hkey : (Key.text name == Key.text f.1) = (name == f.1) := by
      rw [Bool.eq_iff_iff, beq_iff_eq, beq_iff_eq, Key.text.injEq]
    rw [hkey]

theorem required_ofFields {α : Type} {read : Reader α} {write : α → Value} (name : String)
    (h : ReadsBack read write) {fs : List (String × Value)} {a : α}
    (hfield : fs.lookup name = some (write a)) : required (.ofFields fs) name read = .ok a := by
  rw [required, field?_ofFields, hfield]
  show (read (write a)).within name = _
  rw [h a]
  rfl

theorem optional_ofFields {α : Type} {read : Reader α} {write : α → Value} (name : String)
    (h : ReadsBack read write) {fs : List (String × Value)} {default a : α}
    (hfield : fs.lookup name = some (write a)) :
    optional (.ofFields fs) name default read = .ok a := by
  rw [optional, field?_ofFields, hfield]
  show (read (write a)).within name = _
  rw [h a]
  rfl

end Muster.Document
