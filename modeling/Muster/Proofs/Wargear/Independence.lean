/-
  Independence: the order of options that only add is of no account.

  1. **Program.**  Options are applied one after another, and each is held against the bounds at its
     own turn.  So an order decides what an option is applied to, and what its bounds are held
     against.

  2. **Specification.**  `ParsedOption.AddsAlways o`: the option adds, to whatever loadout it comes.
     `Fits r s base os`: walking through `os` from `base`, no option is too much at its turn.

  3. **Adding commutes** (`change_change`, `variant_swap`).  To put in some items and then others is
     to put in both at once, whether the two share items or the loadout holds some of them already.
     So any two neighbours may change places, and a permutation of the options reaches the same
     loadouts (`reaches_perm`).

  4. **The crux** (`Fits.perm`) is that no order can break a bound that one order keeps.  How much an
     option offers is the same at every loadout.  And whatever is reached on the way is reached in
     the end, for every option may be passed over; so no list on the way is longer than the last
     one, and the last one is the same for all orders.
-/
import Mathlib
import Muster.Proofs.Wargear.Expansion

namespace Muster.Wargear

/-! ## Adding commutes -/

theorem mem_change_nil {l : Loadout} {added : List String} {a : String} :
    a ∈ l.change [] added ↔ a ∈ l ∨ a ∈ added := by
  have hcount := Loadout.count_change a l [] added
  rw [← List.count_pos_iff, hcount]
  by_cases hl : a ∈ l
  · simp [hl]
  · by_cases hadded : a ∈ added <;> simp [hl, hadded]

/-- To put in some items and then others is to put in both at once. -/
theorem change_change (l : Loadout) (as bs : List String) :
    (l.change [] as).change [] bs = l.change [] (as ++ bs) := by
  refine exchanged_iff.mp ⟨Loadout.change_ordered _ _ _, fun a => ?_⟩
  have hinner := Loadout.count_change a l [] as
  rw [Loadout.count_change]
  by_cases hl : a ∈ l
  · have hmem : a ∈ l.change [] as := mem_change_nil.mpr (Or.inl hl)
    rw [if_pos ⟨hmem, List.not_mem_nil⟩, hinner]
    simp [hl]
  · by_cases has : a ∈ as
    · have hmem : a ∈ l.change [] as := mem_change_nil.mpr (Or.inr has)
      rw [if_pos ⟨hmem, List.not_mem_nil⟩, hinner]
      simp [hl, has]
    · have hnot : a ∉ l.change [] as := fun h => (mem_change_nil.mp h).elim hl has
      simp [hl, has, hnot]

theorem change_comm (l : Loadout) (as bs : List String) :
    (l.change [] as).change [] bs = (l.change [] bs).change [] as := by
  rw [change_change, change_change]
  refine exchanged_iff.mp ((exchanged_iff.mpr rfl).congr fun a => ?_)
  rw [List.mem_append, List.mem_append, or_comm]

/-! ## Options that add -/

/-- An option adds, whatever loadout it comes to. -/
structure ParsedOption.AddsAlways (o : ParsedOption) : Prop where
  adds : o.action.type = .add
  unconditional : o.targeting.type ≠ "conditional"

namespace ParsedOption.AddsAlways

variable {r : Resolver} {s : Settings} {o p : ParsedOption}

theorem not_replace (h : o.AddsAlways) : o.action.type ≠ .replace := by
  rw [h.adds]
  decide

theorem admits (h : o.AddsAlways) (l : Loadout) : Admits r o l := by
  intro id hid
  rw [requiredIds, if_neg h.unconditional] at hid
  exact absurd hid List.not_mem_nil

/-- What the option makes of a loadout: the choices of a selection come in. -/
theorem variant_iff (h : o.AddsAlways) {l l' : Loadout} :
    Variant r o l l' ↔ ∃ x : Selection o, l' = l.change [] (x.choices.flatMap r.resolveChoice) := by
  constructor
  · rintro (⟨htype, _⟩ | ⟨_, _, x, hex⟩)
    · exact absurd htype h.not_replace
    · exact ⟨x, exchanged_iff.mp hex⟩
  · rintro ⟨x, rfl⟩
    exact Variant.add h.not_replace (h.admits l) x (exchanged_iff.mpr rfl)

/-- **Two options change places**: what comes of one after the other comes of the other after
    the one. -/
theorem variant_swap (ho : o.AddsAlways) (hp : p.AddsAlways) {l k m : Loadout}
    (hfirst : Variant r o l k) (hsecond : Variant r p k m) :
    ∃ k', Variant r p l k' ∧ Variant r o k' m := by
  obtain ⟨x, rfl⟩ := ho.variant_iff.mp hfirst
  obtain ⟨y, rfl⟩ := hp.variant_iff.mp hsecond
  refine ⟨l.change [] (y.choices.flatMap r.resolveChoice), hp.variant_iff.mpr ⟨y, rfl⟩, ?_⟩
  exact ho.variant_iff.mpr ⟨x, change_comm l _ _⟩

/-- What the option offers is too much at every loadout or at none. -/
theorem overflows_of_overflows (h : o.AddsAlways) {l : Loadout} (hover : Overflows r s o l)
    (k : Loadout) : Overflows r s o k := by
  cases hover with
  | choices htype => exact absurd htype h.not_replace
  | count htype _ hseveral hmany => exact Overflows.count htype (h.admits k) hseveral hmany
  | selections htype _ hmany => exact Overflows.selections htype (h.admits k) hmany

end ParsedOption.AddsAlways

/-! ## What permuted options reach -/

/-- The first two options of a walk change places. -/
theorem Reaches.swap {r : Resolver} {o p : ParsedOption} {os : List ParsedOption} {l m : Loadout}
    (ho : o.AddsAlways) (hp : p.AddsAlways) (h : Reaches r (o :: p :: os) l m) :
    Reaches r (p :: o :: os) l m := by
  cases h with
  | keep h =>
    cases h with
    | keep h => exact Reaches.keep (Reaches.keep h)
    | take hv h => exact Reaches.take hv (Reaches.keep h)
  | take hu h =>
    cases h with
    | keep h => exact Reaches.keep (Reaches.take hu h)
    | take hv h =>
      obtain ⟨k, hk, hk'⟩ := ho.variant_swap hp hu hv
      exact Reaches.take hk (Reaches.take hk' h)

theorem reaches_of_perm {r : Resolver} {os ps : List ParsedOption} (h : os.Perm ps)
    (hadds : ∀ o ∈ os, o.AddsAlways) {l m : Loadout} (hreach : Reaches r os l m) :
    Reaches r ps l m := by
  induction h generalizing l with
  | nil => exact hreach
  | cons o _ ih =>
    have hrest := fun p hp => hadds p (List.mem_cons_of_mem o hp)
    cases hreach with
    | keep hreach => exact Reaches.keep (ih hrest hreach)
    | take hv hreach => exact Reaches.take hv (ih hrest hreach)
  | swap p o os =>
    have ho : o.AddsAlways := hadds o List.mem_cons_self
    have hp : p.AddsAlways := hadds p (List.mem_cons_of_mem o List.mem_cons_self)
    exact hreach.swap ho hp
  | trans h _ ih ih' =>
    exact ih' (fun o ho => hadds o (h.mem_iff.mpr ho)) (ih hadds hreach)

/-- **Permuted options reach the same loadouts.** -/
theorem reaches_perm {r : Resolver} {os ps : List ParsedOption} (h : os.Perm ps)
    (hadds : ∀ o ∈ os, o.AddsAlways) {l m : Loadout} : Reaches r os l m ↔ Reaches r ps l m := by
  have hadds' : ∀ o ∈ ps, o.AddsAlways := fun o ho => hadds o (h.mem_iff.mpr ho)
  exact ⟨reaches_of_perm h hadds, reaches_of_perm h.symm hadds'⟩

/-- What is reached on the way is reached in the end: the options that follow are passed over. -/
theorem Reaches.append_right {r : Resolver} {os : List ParsedOption} {l m : Loadout}
    (h : Reaches r os l m) (ps : List ParsedOption) : Reaches r (os ++ ps) l m := by
  induction h with
  | done => exact Reaches.refl ps _
  | keep _ ih => exact Reaches.keep ih
  | take hv _ ih => exact Reaches.take hv ih

/-! ## Runs that drop nothing -/

/-- On the walk through `os` from `base` no option is too much at its turn. -/
def Fits (r : Resolver) (s : Settings) (base : Loadout) (os : List ParsedOption) : Prop :=
  ∀ ts o us, os = ts ++ o :: us → ¬ Excessive r s o {l | Reaches r ts base l}

section Walks

variable {r : Resolver} {s : Settings} {base : Loadout} {os kept dropped : List ParsedOption}

/-- A walk that drops nothing keeps everything, and everything on it fits. -/
theorem Walk.fits (h : Walk r s base os kept dropped) (hnone : dropped = []) :
    kept = os ∧ Fits r s base os := by
  induction h with
  | start =>
    refine ⟨rfl, fun ts o us hsplit => ?_⟩
    simp at hsplit
  | @keep os kept dropped p _ hfew ih =>
    obtain ⟨rfl, hfits⟩ := ih hnone
    refine ⟨rfl, fun ts o us hsplit => ?_⟩
    -- the option in question is the last one, or one of those before it
    rcases List.eq_nil_or_concat us with rfl | ⟨us', q, rfl⟩
    · obtain ⟨rfl, hlast⟩ := List.append_inj' hsplit rfl
      obtain rfl := List.singleton_inj.mp hlast
      exact hfew
    · rw [List.concat_eq_append, ← List.cons_append, ← List.append_assoc] at hsplit
      obtain ⟨hfront, _⟩ := List.append_inj' hsplit rfl
      exact hfits ts o us' hfront
  | drop => exact absurd hnone (List.append_ne_nil_of_right_ne_nil _ (List.cons_ne_nil _ _))

/-- A walk on which everything fits drops nothing. -/
theorem Walk.kept_eq_of_fits {all : List ParsedOption} (hfits : Fits r s base all)
    (h : Walk r s base os kept dropped) (hpart : os <+: all) : kept = os ∧ dropped = [] := by
  induction h with
  | start => exact ⟨rfl, rfl⟩
  | @keep os kept dropped p _ _ ih =>
    obtain ⟨rfl, hnone⟩ := ih ((List.prefix_append os [p]).trans hpart)
    exact ⟨rfl, hnone⟩
  | @drop os kept dropped p _ hmany ih =>
    obtain ⟨rfl, _⟩ := ih ((List.prefix_append os [p]).trans hpart)
    obtain ⟨us, hus⟩ := hpart
    rw [List.append_assoc, List.singleton_append] at hus
    exact absurd hmany (hfits kept p us hus.symm)

end Walks

/-- **When a run drops nothing**: if everything fits; and then it holds what all options reach. -/
theorem skipped_eq_nil_iff {base : List String} {os : List ParsedOption} {r : Resolver}
    {s : Settings} :
    (expand base os r s).skipped = [] ↔ Fits r s (Loadout.ofItems base) os := by
  obtain ⟨kept, dropped, hwalk, _, hskipped⟩ := exists_walk base os r s
  rw [hskipped, List.map_eq_nil_iff]
  constructor
  · intro hnone
    exact (hwalk.fits hnone).2
  · intro hfits
    exact (hwalk.kept_eq_of_fits hfits (List.prefix_refl os)).2

theorem mem_expand_of_fits {base : List String} {os : List ParsedOption} {r : Resolver}
    {s : Settings} (h : Fits r s (Loadout.ofItems base) os) {l : Loadout} :
    l ∈ (expand base os r s).loadouts ↔ Reaches r os (Loadout.ofItems base) l := by
  obtain ⟨kept, dropped, hwalk, hset, _⟩ := exists_walk base os r s
  obtain ⟨rfl, _⟩ := hwalk.kept_eq_of_fits h (List.prefix_refl os)
  exact Set.ext_iff.mp hset l

/-- Where everything fits, the last list is within its bound. -/
theorem Fits.encard_le {r : Resolver} {s : Settings} {base : Loadout} {os : List ParsedOption}
    (h : Fits r s base os) (hsome : os ≠ []) :
    {l | Reaches r os base l}.encard ≤ s.maxLoadouts := by
  rcases List.eq_nil_or_concat os with rfl | ⟨ts, o, rfl⟩
  · exact absurd rfl hsome
  · rw [List.concat_eq_append] at h ⊢
    have hfew := h ts o [] rfl
    rw [reaches_append_singleton]
    exact not_lt.mp fun hmany => hfew (Or.inr hmany)

/-- **No order breaks a bound that one order keeps.** -/
theorem Fits.perm {r : Resolver} {s : Settings} {base : Loadout} {os ps : List ParsedOption}
    (hfits : Fits r s base os) (hperm : os.Perm ps) (hadds : ∀ o ∈ os, o.AddsAlways) :
    Fits r s base ps := by
  intro ts o us hsplit hmany
  have hops : o ∈ ps := by
    rw [hsplit]
    exact List.mem_append_right ts List.mem_cons_self
  have ho : o ∈ os := hperm.mem_iff.mpr hops
  rcases hmany with ⟨l, _, hover⟩ | hmany
  · -- the option would have been too much at its turn in the other order, already for the base
    obtain ⟨ts', us', hsplit'⟩ := List.append_of_mem ho
    have hbase : Overflows r s o base := (hadds o ho).overflows_of_overflows hover base
    exact hfits ts' o us' hsplit' (Or.inl ⟨base, Reaches.refl ts' base, hbase⟩)
  · -- what is reached at this turn is reached in the end, in the one order as in the other
    have hsub : Widened r o {l | Reaches r ts base l} ⊆ {l | Reaches r os base l} := by
      rw [← reaches_append_singleton]
      intro l hl
      have hend : Reaches r ((ts ++ [o]) ++ us) base l := Reaches.append_right hl us
      rw [List.append_assoc, List.singleton_append, ← hsplit] at hend
      exact (reaches_perm hperm hadds).mpr hend
    have hle := (Set.encard_le_encard hsub).trans (hfits.encard_le (List.ne_nil_of_mem ho))
    exact absurd hmany (not_lt.mpr hle)

/-- **The order of independent options that add does not matter.**  If a run over options that only
    add, on no condition, drops none of them, then a run over the same options in another order
    drops none either, and holds the same loadouts. -/
theorem expand_perm {base : List String} {os ps : List ParsedOption} {r : Resolver} {s : Settings}
    (hadds : ∀ o ∈ os, o.AddsAlways) (hnone : (expand base os r s).skipped = [])
    (hperm : os.Perm ps) :
    (expand base ps r s).skipped = [] ∧
      ∀ l, l ∈ (expand base ps r s).loadouts ↔ l ∈ (expand base os r s).loadouts := by
  have hfits : Fits r s (Loadout.ofItems base) os := skipped_eq_nil_iff.mp hnone
  have hfits' : Fits r s (Loadout.ofItems base) ps := hfits.perm hperm hadds
  refine ⟨skipped_eq_nil_iff.mpr hfits', fun l => ?_⟩
  rw [mem_expand_of_fits hfits', mem_expand_of_fits hfits]
  exact (reaches_perm hperm hadds).symm

/-- Two options of a unit whose models carry a bolter: an axe, and up to two of axe, bolter and
    shield. -/
def armoury : List ParsedOption :=
  let option := fun (line : Int) (adds : List Choice) (most : Option Int) =>
    (⟨line, "", true, Targeting.plain "this-model" "this-model",
      ⟨"equip-with-list", .add, [], adds, true, most⟩, .none⟩ : ParsedOption)
  [option 1 [⟨[⟨"axe", 1⟩], false⟩] none,
    option 2 [⟨[⟨"axe", 1⟩], false⟩, ⟨[⟨"bolter", 1⟩], false⟩, ⟨[⟨"shield", 1⟩], false⟩] (some 2)]

/-- The two options share the axe, and the bolter is held already; still the order is of no
    account. -/
theorem armoury_reversed :
    (∀ o ∈ armoury, o.AddsAlways) ∧
      (expand ["u:bolter"] armoury ⟨"u", [], []⟩ .standard).skipped = [] ∧
      armoury.Perm armoury.reverse ∧
      (expand ["u:bolter"] armoury.reverse ⟨"u", [], []⟩ .standard).skipped = [] ∧
      ["u:axe", "u:bolter", "u:shield"]
        ∈ (expand ["u:bolter"] armoury.reverse ⟨"u", [], []⟩ .standard).loadouts := by
  have hadds : ∀ o ∈ armoury, o.AddsAlways := by
    intro o ho
    rcases List.mem_cons.mp ho with rfl | ho
    · exact ⟨rfl, by decide⟩
    · rw [List.mem_singleton.mp ho]
      exact ⟨rfl, by decide⟩
  have hnone : (expand ["u:bolter"] armoury ⟨"u", [], []⟩ .standard).skipped = [] := by
    simp only [expand, step_eq]
    decide +kernel
  have hheld : ["u:axe", "u:bolter", "u:shield"]
      ∈ (expand ["u:bolter"] armoury ⟨"u", [], []⟩ .standard).loadouts := by
    simp only [expand, step_eq]
    decide +kernel
  have hperm : armoury.Perm armoury.reverse := (List.reverse_perm armoury).symm
  obtain ⟨hnone', hsame⟩ := expand_perm hadds hnone hperm
  exact ⟨hadds, hnone, hperm, hnone', (hsame _).mpr hheld⟩

end Muster.Wargear
