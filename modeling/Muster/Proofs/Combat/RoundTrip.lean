/-
  Mechanics written as document values and read again.

  1. **Program.**  `readMechanics` reads a list of mechanics generously: a roll may be abbreviated,
     a number may be a numeral in a text, a field with a default may be missing.  `mechanicsValue`
     writes every field in one form.

  2. **Specification.**  What was written is accepted and gives the same mechanics
     (`readMechanics_mechanicsValue`).  So writing gives the one form among all that are read alike
     which a second reading and writing leaves as it is.

  3. **The crux** is an induction over the trees of mechanics.  A written mechanic is told from the
     others by its kind (`effectReaders_kind`), and each kind reads the fields that it writes; a
     conditional writes the mechanics that it holds, and these read back by induction.
-/
import Muster.Combat.Mechanic
import Muster.Proofs.Document.Reader

namespace Muster.Combat

open Document

/-! ## Names -/

theorem readsBack_entity (c : Cause) :
    ReadsBack (oneOf entityNames c) fun e : Entity => .text e.name :=
  readsBack_oneOf fun e => by cases e <;> rfl

theorem readsBack_operator (c : Cause) :
    ReadsBack (oneOf operatorNames c) fun o : Operator => .text o.name :=
  readsBack_oneOf fun o => by cases o <;> rfl

theorem readsBack_sourceType (c : Cause) : ReadsBack (oneOf sourceTypes c) (.named sourceTypes) := by
  intro t
  cases t <;> rfl

theorem readsBack_rerollScope (c : Cause) :
    ReadsBack (oneOf rerollScopes c) (.named rerollScopes) := by
  intro s
  cases s <;> rfl

theorem readsBack_ignoreScope (c : Cause) :
    ReadsBack (oneOf ignoreScopes c) (.named ignoreScopes) := by
  intro s
  cases s <;> rfl

theorem readsBack_roll : ReadsBack Roll.read Roll.toValue := by
  intro r
  cases r <;> rfl

/-! ## Sources and conditions -/

theorem readsBack_optionalText : ReadsBack (nullable text) (Value.ofOption .text) :=
  readsBack_text.nullable fun _ => Value.noConfusion

theorem readsBack_source : ReadsBack Source.read Source.toValue := by
  intro s
  have htype : required s.toValue "type" (oneOf sourceTypes .enum) = .ok s.type :=
    required_ofFields "type" (readsBack_sourceType .enum) rfl
  have hname : required s.toValue "name" text = .ok s.name :=
    required_ofFields "name" readsBack_text rfl
  have hunit : optional s.toValue "unit_name" none (nullable text) = .ok s.unitName :=
    optional_ofFields "unit_name" readsBack_optionalText rfl
  have hrule : optional s.toValue "attribute" none (nullable text) = .ok s.rule :=
    optional_ofFields "attribute" readsBack_optionalText rfl
  show Source.mk <$> required s.toValue "type" _ <*> required s.toValue "name" _
    <*> optional s.toValue "unit_name" _ _ <*> optional s.toValue "attribute" _ _ = _
  rw [htype, hname, hunit, hrule]
  rfl

theorem readsBack_expected : ReadsBack Expected.read Expected.toValue := by
  intro e
  cases e with
  | absent => rfl
  | flag b => rfl
  | number n => rfl
  | text s => rfl
  | texts ss =>
    -- a list is no truth value, no number and no text, so only the last kind accepts it
    have hread : listOf text (.list (ss.map .text)) = .ok ss := readsBack_texts ss
    show Expected.read (.list (ss.map .text)) = _
    rw [Expected.read, hread]
    · rfl
    all_goals exact nofun

theorem readsBack_condition : ReadsBack Condition.read Condition.toValue := by
  intro c
  have hentity : optional c.toValue "entity" .thisUnit (oneOf entityNames .literalError)
      = .ok c.entity := optional_ofFields "entity" (readsBack_entity .literalError) rfl
  have hstate : optional c.toValue "state" none (nullable text) = .ok c.state :=
    optional_ofFields "state" readsBack_optionalText rfl
  have hattribute : optional c.toValue "attribute" none (nullable text) = .ok c.characteristic :=
    optional_ofFields "attribute" readsBack_optionalText rfl
  have hkeywords : optional c.toValue "keywords" [] (listOf text) = .ok c.keywords :=
    optional_ofFields "keywords" readsBack_texts rfl
  have habilities : optional c.toValue "abilities" [] (listOf text) = .ok c.abilities :=
    optional_ofFields "abilities" readsBack_texts rfl
  have hoperator : optional c.toValue "operator" .equals (oneOf operatorNames .literalError)
      = .ok c.operator := optional_ofFields "operator" (readsBack_operator .literalError) rfl
  have hvalue : optional c.toValue "value" (.flag true) Expected.read = .ok c.value :=
    optional_ofFields "value" readsBack_expected rfl
  show Condition.mk <$> optional c.toValue "entity" _ _ <*> optional c.toValue "state" _ _
    <*> optional c.toValue "attribute" _ _ <*> optional c.toValue "keywords" _ _
    <*> optional c.toValue "abilities" _ _ <*> optional c.toValue "operator" _ _
    <*> optional c.toValue "value" _ _ = _
  rw [hentity, hstate, hattribute, hkeywords, habilities, hoperator, hvalue]
  rfl

/-! ## The parts of a mechanic -/

/-- The fields of a frame read back, whatever fields come after them. -/
theorem read_frameFields (f : Frame) (rest : List (String × Value)) :
    Frame.read (.ofFields (f.fields ++ rest)) = .ok f := by
  have hentity : optional (.ofFields (f.fields ++ rest)) "entity" .thisUnit
      (oneOf entityNames .literalError) = .ok f.entity :=
    optional_ofFields "entity" (readsBack_entity .literalError) rfl
  have hconditions : optional (.ofFields (f.fields ++ rest)) "conditions" []
      (listOf Condition.read) = .ok f.conditions :=
    optional_ofFields "conditions" readsBack_condition.listOf rfl
  have hsource : optional (.ofFields (f.fields ++ rest)) "source" none (nullable Source.read)
      = .ok f.source :=
    optional_ofFields "source" (readsBack_source.nullable fun _ => Value.noConfusion) rfl
  rw [Frame.read, hentity, hconditions, hsource]
  rfl

theorem readsBack_optionalIntegerOrText :
    ReadsBack (nullable integerOrText) (Value.ofOption .ofIntegerOrText) :=
  readsBack_integerOrText.nullable fun v => by cases v <;> exact Value.noConfusion

theorem readsBack_threshold : ReadsBack Threshold.read fun t => .int t.value := by
  intro t
  show Threshold.check t.value = _
  rw [Threshold.check, dif_pos t.two_le, dif_pos t.le_six]

/-- The kind of an effect finds a reading, and the reading finds the fields that the effect wrote
    behind those of its frame. -/
theorem effectReaders_kind (f : Frame) (e : Effect) :
    ∃ read, effectReaders.lookup e.kind = some read ∧
      read (.ofFields (f.fields ++ ("kind", .text e.kind) :: e.fields)) = .ok e := by
  cases e with
  | modifier r n =>
    refine ⟨_, rfl, ?_⟩
    rw [required_ofFields "attribute" readsBack_roll (a := r) rfl,
      required_ofFields "value" readsBack_integer (a := n) rfl]
    rfl
  | reroll r s =>
    refine ⟨_, rfl, ?_⟩
    rw [required_ofFields "attribute" readsBack_roll (a := r) rfl,
      optional_ofFields "scope" (readsBack_rerollScope .literalError) (a := s) rfl]
    rfl
  | ignore r s =>
    refine ⟨_, rfl, ?_⟩
    rw [required_ofFields "attribute" readsBack_roll (a := r) rfl,
      optional_ofFields "scope" (readsBack_ignoreScope .literalError) (a := s) rfl]
    rfl
  | autoSuccess r =>
    refine ⟨_, rfl, ?_⟩
    rw [required_ofFields "attribute" readsBack_roll (a := r) rfl]
    rfl
  | criticalThreshold r t =>
    refine ⟨_, rfl, ?_⟩
    rw [required_ofFields "attribute" readsBack_roll (a := r) rfl,
      required_ofFields "value" readsBack_threshold (a := t) rfl]
    rfl
  | staticNumber c v =>
    refine ⟨_, rfl, ?_⟩
    rw [required_ofFields "characteristic" readsBack_text (a := c) rfl,
      required_ofFields "value" readsBack_integerOrText (a := v) rfl]
    rfl
  | characteristicBonus c n =>
    refine ⟨_, rfl, ?_⟩
    rw [required_ofFields "characteristic" readsBack_text (a := c) rfl,
      required_ofFields "value" readsBack_integer (a := n) rfl]
    rfl
  | addsKeyword ks =>
    refine ⟨_, rfl, ?_⟩
    rw [required_ofFields "keywords" readsBack_texts (a := ks) rfl]
    rfl
  | addsAbility as v =>
    refine ⟨_, rfl, ?_⟩
    rw [required_ofFields "abilities" readsBack_texts (a := as) rfl,
      optional_ofFields "value" readsBack_optionalIntegerOrText (a := v) rfl]
    rfl
  | mortalWounds v =>
    refine ⟨_, rfl, ?_⟩
    rw [required_ofFields "value" readsBack_integerOrText (a := v) rfl]
    rfl

theorem kind_ne_conditionalKind (e : Effect) : e.kind ≠ Mechanic.conditionalKind := by
  cases e <;> simp [Effect.kind, Mechanic.conditionalKind]

/-! ## Mechanics -/

mutual

theorem same_self : ∀ m : Mechanic, Mechanic.same m m = true
  | .effect f e => by
    rw [Mechanic.same, beq_self_eq_true, beq_self_eq_true]
    rfl
  | .conditional f ms => by
    rw [Mechanic.same, beq_self_eq_true, sameAll_self ms]
    rfl

theorem sameAll_self : ∀ ms : List Mechanic, Mechanic.sameAll ms ms = true
  | [] => by rw [Mechanic.sameAll]
  | m :: ms => by
    rw [Mechanic.sameAll, same_self m, sameAll_self ms]
    rfl

end

theorem mechanicFrom_effect (f : Frame) (e : Effect) (nested : Option (Checked (List Mechanic))) :
    mechanicFrom (.ofFields (f.fields ++ ("kind", .text e.kind) :: e.fields)) nested
      = .ok (.effect f e) := by
  obtain ⟨read, hlookup, hread⟩ := effectReaders_kind f e
  have hkind : (Value.ofFields (f.fields ++ ("kind", .text e.kind) :: e.fields)).field? "kind"
      = some (.text e.kind) := by
    rw [field?_ofFields]
    rfl
  have hother : (e.kind == Mechanic.conditionalKind) = false :=
    beq_eq_false_iff_ne.mpr (kind_ne_conditionalKind e)
  rw [mechanicFrom, hkind]
  dsimp only
  rw [hother, hlookup]
  dsimp only
  rw [read_frameFields, hread]
  rfl

theorem mechanicFrom_conditional (f : Frame) (rest : List (String × Value)) (ms : List Mechanic) :
    mechanicFrom (.ofFields (f.fields ++ ("kind", .text Mechanic.conditionalKind) :: rest))
      (some (.ok ms)) = .ok (.conditional f ms) := by
  have hkind : (Value.ofFields (f.fields ++ ("kind", .text Mechanic.conditionalKind) :: rest)).field?
      "kind" = some (.text Mechanic.conditionalKind) := by
    rw [field?_ofFields]
    rfl
  rw [mechanicFrom, hkind]
  dsimp only
  rw [read_frameFields, if_pos (beq_self_eq_true _)]
  rfl

theorem nestedMechanics_fields (f : Frame) (v : Value) :
    nestedMechanics ((f.fields ++ [("kind", .text Mechanic.conditionalKind), ("mechanics", v)]).map
      fun p => (Key.text p.1, p.2)) = some (readMechanics v) := rfl

mutual

theorem read_toValue : ∀ m : Mechanic, Mechanic.read m.toValue = .ok m
  | .effect f e => by
    rw [Mechanic.toValue]
    exact mechanicFrom_effect f e _
  | .conditional f ms => by
    rw [Mechanic.toValue, Value.ofFields, Mechanic.read, nestedMechanics_fields, readMechanics,
      mechanicsFrom_mechanicValues 0 ms]
    exact mechanicFrom_conditional f _ ms

theorem mechanicsFrom_mechanicValues : ∀ (i : Nat) (ms : List Mechanic),
    mechanicsFrom i (mechanicValues ms) = .ok ms
  | i, [] => by
    rw [mechanicValues, mechanicsFrom]
  | i, m :: ms => by
    rw [mechanicValues, mechanicsFrom, read_toValue m, mechanicsFrom_mechanicValues (i + 1) ms]
    rfl

end

/-- **Writing and reading again.**  Mechanics in their written form are accepted and are the same
    mechanics, whichever documents they were first read from; and the program's own comparison finds
    them so. -/
theorem readMechanics_mechanicsValue (ms : List Mechanic) :
    readMechanics (mechanicsValue ms) = .ok ms ∧ roundTrips ms = true := by
  have hread : readMechanics (mechanicsValue ms) = .ok ms := by
    rw [mechanicsValue, readMechanics]
    exact mechanicsFrom_mechanicValues 0 ms
  refine ⟨hread, ?_⟩
  rw [roundTrips, hread]
  exact sameAll_self ms

end Muster.Combat
