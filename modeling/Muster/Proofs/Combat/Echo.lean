/-
  Echo: the texts of mechanics come from the document that they were read from.

  1. **Program.**  Mechanics are read from document values generously, and `mechanicsValue` writes
     them with every text that they hold.

  2. **Specification.**  `Mentions s v`: somewhere within `v` stands the text `s`, or bytes that are
     read as `s`.  A reader ECHOES a writer, for a given text, if what is read says the text only
     where the document says it (`Echoes`).

  3. **Reading invents no text** but the names of defaults, and no name is the placeholder.  So
     mechanics that say the placeholder were read from a document that says it
     (`mentions_of_readMechanics`).  As for reading back what was written, all follows the build of
     the readers, and the crux is an induction over the document: a conditional says what the
     mechanics say that it holds.
-/
import Mathlib
import Muster.Combat.Mechanic
import Muster.Combat.Template
import Muster.Proofs.Document.Accepted
import Muster.Proofs.Except

namespace Muster.Document

/-! ## Texts within a value -/

/-- A text stands somewhere within a value, perhaps as bytes. -/
inductive Mentions (s : String) : Value → Prop where
  | text {v : Value} (h : text v = .ok s) : Mentions s v
  | item {vs : List Value} {v : Value} (hv : v ∈ vs) (h : Mentions s v) : Mentions s (.list vs)
  | field {fs : List (Key × Value)} {f : Key × Value} (hf : f ∈ fs) (h : Mentions s f.2) :
      Mentions s (.object fs)

section Mentions

variable {s : String}

@[simp] theorem mentions_text_iff {t : String} : Mentions s (.text t) ↔ t = s := by
  constructor
  · rintro ⟨h⟩
    exact Checked.ok.inj h
  · rintro rfl
    exact .text rfl

@[simp] theorem mentions_list_iff {vs : List Value} :
    Mentions s (.list vs) ↔ ∃ v ∈ vs, Mentions s v := by
  constructor
  · intro h
    cases h with
    | text h => exact absurd h Checked.refuse_ne_ok
    | item hv h => exact ⟨_, hv, h⟩
  · rintro ⟨v, hv, h⟩
    exact .item hv h

@[simp] theorem mentions_object_iff {fs : List (Key × Value)} :
    Mentions s (.object fs) ↔ ∃ f ∈ fs, Mentions s f.2 := by
  constructor
  · intro h
    cases h with
    | text h => exact absurd h Checked.refuse_ne_ok
    | field hf h => exact ⟨_, hf, h⟩
  · rintro ⟨f, hf, h⟩
    exact .field hf h

@[simp] theorem not_mentions_null : ¬ Mentions s .null := by
  rintro ⟨h⟩
  exact Checked.refuse_ne_ok h

@[simp] theorem not_mentions_bool {b : Bool} : ¬ Mentions s (.bool b) := by
  rintro ⟨h⟩
  exact Checked.refuse_ne_ok h

@[simp] theorem not_mentions_int {n : Int} : ¬ Mentions s (.int n) := by
  rintro ⟨h⟩
  exact Checked.refuse_ne_ok h

@[simp] theorem not_mentions_ofFields_nil : ¬ Mentions s (.ofFields []) := by
  simp [Value.ofFields]

@[simp] theorem mentions_ofFields_cons {name : String} {v : Value} {fs : List (String × Value)} :
    Mentions s (.ofFields ((name, v) :: fs)) ↔ Mentions s v ∨ Mentions s (.ofFields fs) := by
  rw [Value.ofFields, List.map_cons, mentions_object_iff, List.exists_mem_cons_iff, Value.ofFields,
    mentions_object_iff]

theorem mentions_ofFields_append {fs gs : List (String × Value)} :
    Mentions s (.ofFields (fs ++ gs)) ↔ Mentions s (.ofFields fs) ∨ Mentions s (.ofFields gs) := by
  induction fs with
  | nil => simp
  | cons f fs ih =>
    rw [List.cons_append, mentions_ofFields_cons, mentions_ofFields_cons, ih, or_assoc]

/-- A value says what its fields say. -/
theorem mentions_of_field? {v w : Value} {name : String} (hw : v.field? name = some w)
    (h : Mentions s w) : Mentions s v := by
  cases v with
  | object fs =>
    obtain ⟨front, back, rfl, -⟩ := List.lookup_eq_some_iff.mp hw
    exact .field (List.mem_append_right front List.mem_cons_self) h
  | _ => cases hw

end Mentions

/-! ## Readers that echo -/

/-- What is read says a text only where the document says it. -/
def Echoes {α : Type} (s : String) (read : Reader α) (write : α → Value) : Prop :=
  ∀ v a, read v = .ok a → Mentions s (write a) → Mentions s v

variable {α : Type} {s : String} {read : Reader α} {write : α → Value}

theorem echoes_text : Echoes s text .text := by
  intro v t hread hmentions
  rw [mentions_text_iff] at hmentions
  exact .text (hmentions ▸ hread)

theorem Echoes.nullable (h : Echoes s read write) :
    Echoes s (nullable read) (Value.ofOption write) := by
  intro v a hread hmentions
  cases a with
  | none => exact absurd hmentions not_mentions_null
  | some a => exact h v a (of_nullable_eq_some hread) hmentions

theorem Echoes.listOf (h : Echoes s read write) : Echoes s (listOf read) (Value.ofList write) := by
  intro v as hread hmentions
  obtain ⟨vs, rfl, hall⟩ := listOf_eq_ok.mp hread
  obtain ⟨w, hw, hmentions⟩ := mentions_list_iff.mp hmentions
  obtain ⟨a, ha, rfl⟩ := List.mem_map.mp hw
  obtain ⟨u, hu, hread⟩ := exists_of_mem_right hall ha
  exact .item hu (h u a hread hmentions)

theorem echoes_texts : Echoes s (Document.listOf text) .texts := echoes_text.listOf

theorem echoes_integerOrText : Echoes s integerOrText .ofIntegerOrText := by
  intro v a hread hmentions
  cases a with
  | integer n => exact absurd hmentions not_mentions_int
  | text t =>
    refine echoes_text v t ?_ hmentions
    -- a text is taken as it is; what else is read as one was refused as an integer before
    cases v with
    | text u =>
      cases hread
      rfl
    | _ =>
      rw [integerOrText] at hread
      · split at hread
        · cases hread
        · rename_i htext
          cases hread
          exact htext
        · cases hread
      · exact nofun

theorem Echoes.required (h : Echoes s read write) {v : Value} {name : String} {a : α}
    (hread : required v name read = .ok a) (hmentions : Mentions s (write a)) : Mentions s v := by
  obtain ⟨w, hw, hread⟩ := required_eq_ok.mp hread
  exact mentions_of_field? hw (h w a hread hmentions)

theorem Echoes.optional (h : Echoes s read write) {v : Value} {name : String} {default a : α}
    (hdefault : ¬ Mentions s (write default)) (hread : optional v name default read = .ok a)
    (hmentions : Mentions s (write a)) : Mentions s v := by
  rcases optional_eq_ok.mp hread with ⟨-, rfl⟩ | ⟨w, hw, hread⟩
  · exact absurd hmentions hdefault
  · exact mentions_of_field? hw (h w a hread hmentions)

end Muster.Document

namespace Muster.Combat

open Document

/-! ## Names -/

theorem entity_silent (e : Entity) : ¬ Mentions placeholder (.text e.name) := by
  rw [mentions_text_iff]
  cases e <;> decide

theorem operator_silent (o : Operator) : ¬ Mentions placeholder (.text o.name) := by
  rw [mentions_text_iff]
  cases o <;> decide

theorem sourceType_silent (t : SourceType) : ¬ Mentions placeholder (.named sourceTypes t) := by
  cases t <;> exact fun h => absurd (mentions_text_iff.mp h) (by decide)

theorem rerollScope_silent (r : RerollScope) : ¬ Mentions placeholder (.named rerollScopes r) := by
  cases r <;> exact fun h => absurd (mentions_text_iff.mp h) (by decide)

theorem ignoreScope_silent (r : IgnoreScope) : ¬ Mentions placeholder (.named ignoreScopes r) := by
  cases r <;> exact fun h => absurd (mentions_text_iff.mp h) (by decide)

theorem roll_silent (r : Roll) : ¬ Mentions placeholder r.toValue := by
  cases r <;> exact fun h => absurd (mentions_text_iff.mp h) (by decide)

theorem kind_silent (e : Effect) : ¬ Mentions placeholder (.text e.kind) := by
  rw [mentions_text_iff]
  cases e <;> simp [Effect.kind, placeholder]

/-! ## Sources and conditions -/

theorem echoes_optionalText : Echoes placeholder (nullable text) (Value.ofOption .text) :=
  echoes_text.nullable

theorem echoes_source : Echoes placeholder Source.read Source.toValue := by
  intro v s hread hmentions
  obtain ⟨-, hread⟩ := record_eq_ok.mp hread
  simp only [Checked.seq_eq_ok, Checked.map_eq_ok] at hread
  obtain ⟨_, rule, ⟨_, unit, ⟨_, name, ⟨type, -, rfl⟩, hname, rfl⟩, hunit, rfl⟩, hrule, rfl⟩ :=
    hread
  simp only [Source.toValue, mentions_ofFields_cons, not_mentions_ofFields_nil,
    or_false] at hmentions
  rcases hmentions with h | h | h | h
  · exact absurd h (sourceType_silent type)
  · exact echoes_text.required hname h
  · exact echoes_optionalText.optional not_mentions_null hunit h
  · exact echoes_optionalText.optional not_mentions_null hrule h

/-- An expected text was read as a text, and several as a list of texts. -/
theorem text_of_expected {v : Value} {e : Expected} (hread : Expected.read v = .ok e) :
    (∀ t, e = .text t → text v = .ok t) ∧ ∀ ts, e = .texts ts → listOf text v = .ok ts := by
  cases v with
  | null | bool b | int n =>
    cases hread
    exact ⟨nofun, nofun⟩
  | text u =>
    cases hread
    exact ⟨fun t ht => Expected.text.inj ht ▸ rfl, nofun⟩
  | _ =>
    rw [Expected.read] at hread
    · split at hread
      · cases hread
        exact ⟨nofun, nofun⟩
      · cases hread
        exact ⟨nofun, nofun⟩
      · rename_i htext
        cases hread
        exact ⟨fun t ht => Expected.text.inj ht ▸ htext, nofun⟩
      · rename_i htexts
        cases hread
        exact ⟨nofun, fun ts hts => Expected.texts.inj hts ▸ htexts⟩
      · cases hread
    all_goals exact nofun

theorem echoes_expected : Echoes placeholder Expected.read Expected.toValue := by
  intro v e hread hmentions
  have htext := text_of_expected hread
  cases e with
  | absent => exact absurd hmentions not_mentions_null
  | flag b => exact absurd hmentions not_mentions_bool
  | number n => exact absurd hmentions not_mentions_int
  | text t => exact echoes_text v t (htext.1 t rfl) hmentions
  | texts ts => exact echoes_texts v ts (htext.2 ts rfl) hmentions

theorem echoes_condition : Echoes placeholder Condition.read Condition.toValue := by
  intro v c hread hmentions
  obtain ⟨-, hread⟩ := record_eq_ok.mp hread
  simp only [Checked.seq_eq_ok, Checked.map_eq_ok] at hread
  obtain ⟨_, value, ⟨_, operator, ⟨_, abilities, ⟨_, keywords, ⟨_, characteristic, ⟨_, state,
    ⟨entity, -, rfl⟩, hstate, rfl⟩, hcharacteristic, rfl⟩, hkeywords, rfl⟩, habilities, rfl⟩, -,
    rfl⟩, hvalue, rfl⟩ := hread
  simp only [Condition.toValue, mentions_ofFields_cons, not_mentions_ofFields_nil,
    or_false] at hmentions
  have hnone : ¬ Mentions placeholder (.texts []) := by simp [Value.texts, Value.ofList]
  rcases hmentions with h | h | h | h | h | h | h
  · exact absurd h (entity_silent entity)
  · exact echoes_optionalText.optional not_mentions_null hstate h
  · exact echoes_optionalText.optional not_mentions_null hcharacteristic h
  · exact echoes_texts.optional hnone hkeywords h
  · exact echoes_texts.optional hnone habilities h
  · exact absurd h (operator_silent operator)
  · exact echoes_expected.optional not_mentions_bool hvalue h

/-! ## Effects -/

theorem echoes_optionalIntegerOrText :
    Echoes placeholder (nullable integerOrText) (Value.ofOption .ofIntegerOrText) :=
  echoes_integerOrText.nullable

theorem echoes_frame {v : Value} {f : Frame} (hread : Frame.read v = .ok f)
    (hmentions : Mentions placeholder (.ofFields f.fields)) : Mentions placeholder v := by
  rw [Frame.read] at hread
  simp only [Checked.seq_eq_ok, Checked.map_eq_ok] at hread
  obtain ⟨_, source, ⟨_, conditions, ⟨entity, -, rfl⟩, hconditions, rfl⟩, hsource, rfl⟩ := hread
  simp only [Frame.fields, mentions_ofFields_cons, not_mentions_ofFields_nil, or_false] at hmentions
  rcases hmentions with h | h | h
  · exact absurd h (entity_silent entity)
  · exact echoes_condition.listOf.optional (by simp [Value.ofList]) hconditions h
  · exact echoes_source.nullable.optional not_mentions_null hsource h

/-- Each kind of effect reads the texts that it writes. -/
theorem echoes_effect : ∀ r ∈ effectReaders,
    Echoes placeholder r.2 fun e => .ofFields e.fields := by
  simp only [effectReaders, List.forall_mem_cons, List.not_mem_nil, false_implies, implies_true,
    and_true]
  refine ⟨?modifier, ?reroll, ?ignore, ?autoSuccess, ?criticalThreshold, ?staticNumber,
    ?characteristicBonus, ?addsKeyword, ?addsAbility, ?mortalWounds⟩
  all_goals
    intro v e hread hmentions
    simp only [Checked.seq_eq_ok, Checked.map_eq_ok] at hread
  case modifier =>
    obtain ⟨_, n, ⟨r, -, rfl⟩, -, rfl⟩ := hread
    simp [Effect.fields, roll_silent] at hmentions
  case reroll =>
    obtain ⟨_, scope, ⟨r, -, rfl⟩, -, rfl⟩ := hread
    simp [Effect.fields, roll_silent, rerollScope_silent] at hmentions
  case ignore =>
    obtain ⟨_, scope, ⟨r, -, rfl⟩, -, rfl⟩ := hread
    simp [Effect.fields, roll_silent, ignoreScope_silent] at hmentions
  case autoSuccess =>
    obtain ⟨r, -, rfl⟩ := hread
    simp [Effect.fields, roll_silent] at hmentions
  case criticalThreshold =>
    obtain ⟨_, t, ⟨r, -, rfl⟩, -, rfl⟩ := hread
    simp [Effect.fields, roll_silent] at hmentions
  case staticNumber =>
    obtain ⟨_, n, ⟨c, hc, rfl⟩, hn, rfl⟩ := hread
    simp only [Effect.fields, mentions_ofFields_cons, not_mentions_ofFields_nil,
      or_false] at hmentions
    rcases hmentions with h | h
    · exact echoes_text.required hc h
    · exact echoes_integerOrText.required hn h
  case characteristicBonus =>
    obtain ⟨_, n, ⟨c, hc, rfl⟩, -, rfl⟩ := hread
    simp only [Effect.fields, mentions_ofFields_cons, not_mentions_ofFields_nil, not_mentions_int,
      or_false] at hmentions
    exact echoes_text.required hc hmentions
  case addsKeyword =>
    obtain ⟨ks, hks, rfl⟩ := hread
    simp only [Effect.fields, mentions_ofFields_cons, not_mentions_ofFields_nil,
      or_false] at hmentions
    exact echoes_texts.required hks hmentions
  case addsAbility =>
    obtain ⟨_, n, ⟨as, has, rfl⟩, hn, rfl⟩ := hread
    simp only [Effect.fields, mentions_ofFields_cons, not_mentions_ofFields_nil,
      or_false] at hmentions
    rcases hmentions with h | h
    · exact echoes_texts.required has h
    · exact echoes_optionalIntegerOrText.optional not_mentions_null hn h
  case mortalWounds =>
    obtain ⟨n, hn, rfl⟩ := hread
    simp only [Effect.fields, mentions_ofFields_cons, not_mentions_ofFields_nil,
      or_false] at hmentions
    exact echoes_integerOrText.required hn hmentions

/-! ## Mechanics -/

/-- What a mechanic says was read from its object, if what it holds says nothing or was. -/
theorem mentions_of_mechanicFrom {v : Value} {nested : Option (Checked (List Mechanic))}
    {m : Mechanic} (hread : mechanicFrom v nested = .ok m)
    (hmentions : Mentions placeholder m.toValue)
    (hnested : ∀ ms, nested = some (.ok ms) → Mentions placeholder (mechanicsValue ms) →
      Mentions placeholder v) : Mentions placeholder v := by
  rw [mechanicFrom] at hread
  split at hread
  · exact absurd hread Checked.refuse_ne_ok
  · split at hread
    · simp only [Checked.within_eq_ok, Checked.seq_eq_ok, Checked.map_eq_ok] at hread
      obtain ⟨_, ms, ⟨f, hframe, rfl⟩, hms, rfl⟩ := hread
      rw [Mechanic.toValue, mentions_ofFields_append] at hmentions
      simp only [mentions_ofFields_cons, not_mentions_ofFields_nil, or_false] at hmentions
      rcases hmentions with h | h | h
      · exact echoes_frame hframe h
      · exact absurd (mentions_text_iff.mp h) (by decide)
      · cases nested with
        | none =>
          cases hms
          simp [mechanicValues] at h
        | some inner => exact hnested ms (congrArg some hms) h
    · split at hread
      · rename_i read hlookup
        simp only [Checked.within_eq_ok, Checked.seq_eq_ok, Checked.map_eq_ok] at hread
        obtain ⟨_, e, ⟨f, hframe, rfl⟩, he, rfl⟩ := hread
        rw [Mechanic.toValue, mentions_ofFields_append, mentions_ofFields_cons] at hmentions
        rcases hmentions with h | h | h
        · exact echoes_frame hframe h
        · exact absurd h (kind_silent e)
        · obtain ⟨front, back, hsplit, -⟩ := List.lookup_eq_some_iff.mp hlookup
          have hall := echoes_effect
          rw [hsplit] at hall
          exact hall _ (List.mem_append_right front List.mem_cons_self) v e he h
      · exact absurd hread Checked.refuse_ne_ok
  · exact absurd hread Checked.refuse_ne_ok

mutual

theorem mentions_of_read : ∀ (v : Value) (m : Mechanic), Mechanic.read v = .ok m →
    Mentions placeholder m.toValue → Mentions placeholder v
  | .object fs, m, hread, hmentions => by
    rw [Mechanic.read] at hread
    exact mentions_of_mechanicFrom hread hmentions (mentions_of_nestedMechanics fs)
  | .null, _, h, _ | .bool _, _, h, _ | .int _, _, h, _ | .double _, _, h, _ | .text _, _, h, _
  | .list _, _, h, _ | .foreign _, _, h, _ | .bytes _, _, h, _ | .endless, _, h, _ =>
    absurd h Checked.refuse_ne_ok

theorem mentions_of_nestedMechanics : ∀ (fs : List (Key × Value)) (ms : List Mechanic),
    nestedMechanics fs = some (.ok ms) → Mentions placeholder (mechanicsValue ms) →
    Mentions placeholder (.object fs)
  | [], _, h, _ => nomatch h
  | (k, v) :: fs, ms, hread, hmentions => by
    rw [nestedMechanics] at hread
    split at hread
    · have hv := mentions_of_readMechanics v ms (Option.some.inj hread) hmentions
      exact .field List.mem_cons_self hv
    · have hrest := mentions_of_nestedMechanics fs ms hread hmentions
      obtain ⟨f, hf, hmentions⟩ := mentions_object_iff.mp hrest
      exact .field (List.mem_cons_of_mem _ hf) hmentions

/-- **Mechanics say the placeholder only where their document does.** -/
theorem mentions_of_readMechanics : ∀ (v : Value) (ms : List Mechanic), readMechanics v = .ok ms →
    Mentions placeholder (mechanicsValue ms) → Mentions placeholder v
  | .list vs, ms, hread, hmentions => by
    rw [readMechanics] at hread
    exact mentions_of_mechanicsFrom 0 vs ms hread hmentions
  | .null, _, h, _ | .bool _, _, h, _ | .int _, _, h, _ | .double _, _, h, _ | .text _, _, h, _
  | .object _, _, h, _ | .foreign _, _, h, _ | .bytes _, _, h, _ | .endless, _, h, _ =>
    absurd h Checked.refuse_ne_ok

theorem mentions_of_mechanicsFrom : ∀ (i : Nat) (vs : List Value) (ms : List Mechanic),
    mechanicsFrom i vs = .ok ms → Mentions placeholder (mechanicsValue ms) →
    Mentions placeholder (.list vs)
  | _, [], ms, hread, hmentions => by
    cases hread
    exact absurd hmentions (by simp [mechanicsValue, mechanicValues])
  | i, v :: vs, ms, hread, hmentions => by
    rw [mechanicsFrom] at hread
    simp only [Checked.within_eq_ok, Checked.seq_eq_ok, Checked.map_eq_ok] at hread
    obtain ⟨_, ns, ⟨m, hm, rfl⟩, hns, rfl⟩ := hread
    rw [mechanicsValue, mechanicValues, mentions_list_iff, List.exists_mem_cons_iff] at hmentions
    rcases hmentions with h | h
    · exact .item List.mem_cons_self (mentions_of_read v m hm h)
    · have hrest := mentions_of_mechanicsFrom (i + 1) vs ns hns (mentions_list_iff.mpr h)
      obtain ⟨w, hw, hmentions⟩ := mentions_list_iff.mp hrest
      exact .item (List.mem_cons_of_mem v hw) hmentions

end

end Muster.Combat
