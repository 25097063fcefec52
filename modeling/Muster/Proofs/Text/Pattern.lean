/-
  What a pattern reads, and which way of reading comes first.

  1. **Program.**  `Pattern.run` tries the ways in which a pattern may match, in a fixed order, and
     gives the continuation the first that it accepts.

  2. **Specification.**  `Reads p u` says that the pattern `p` may consume the text `u`, whatever
     stands around it.  It forgets the order of the ways, and what the pieces that consume nothing
     ask for.

  3. **Where a pattern does not match.**  All that matching finds is read (`exists_of_run`).  So a
     text without a phrase that the pattern must read has no match (`find_eq_none_of_contains`).

  4. **Which match is found.**  A pattern TAKES the text `u` if, put before a rest, it offers the
     place behind `u` before every other place that the continuation accepts.  An eager run takes
     all it can (`run_many_eager`); a lazy run takes the shortest text behind which the rest of the
     pattern matches (`run_many_lazy`), and that nothing shorter will do is shown by what the rest
     reads.
-/
import Mathlib
import Muster.Proofs.Text.Words

namespace Muster.Text.Pattern

variable {α : Type}

/-! ## What a pattern reads -/

/-- A pattern may consume a text. -/
def Reads : Pattern → List Char → Prop
  | empty, u => u = []
  | one ok, u => ∃ c, ok c = true ∧ u = [c]
  | many ok _, u => ∀ c ∈ u, ok c = true
  | seq p q, u => ∃ v w, u = v ++ w ∧ p.Reads v ∧ q.Reads w
  | alt p q, u => p.Reads u ∨ q.Reads u
  | group _ p, u => p.Reads u
  | textStart, u => u = []
  | textEnd, u => u = []
  | lineStart, u => u = []
  | lineEnd, u => u = []
  | ahead _, u => u = []

theorem reads_assoc {p q r : Pattern} {u : List Char} :
    (p ++ q ++ r).Reads u ↔ (p ++ (q ++ r)).Reads u := by
  constructor
  · rintro ⟨_, z, rfl, ⟨x, y, rfl, hx, hy⟩, hz⟩
    exact ⟨x, y ++ z, List.append_assoc x y z, hx, y, z, rfl, hy, hz⟩
  · rintro ⟨x, _, rfl, hx, y, z, rfl, hy, hz⟩
    exact ⟨x ++ y, z, (List.append_assoc x y z).symm, ⟨x, y, rfl, hx, hy⟩, hz⟩

/-- The numbers of the groups that a pattern may close. -/
def closes : Pattern → List Nat
  | seq p q => p.closes ++ q.closes
  | alt p q => p.closes ++ q.closes
  | group n p => n :: p.closes
  | _ => []

/-- From one place to another, a pattern consumes what lies between them, the groups that it closes
    lie behind the first, and all others stay. -/
structure Leads (p : Pattern) (s t : Place) : Prop where
  reads : ∃ u, s.rest = u ++ t.rest ∧ p.Reads u
  groups : ∀ g ∈ t.groups, g ∈ s.groups ∨ (g.2.1 <:+ s.rest ∧ g.2.2 <:+ g.2.1)
  kept : ∀ n ∉ p.closes, t.groups.lookup n = s.groups.lookup n

theorem Leads.suffix {p : Pattern} {s t : Place} (h : p.Leads s t) : t.rest <:+ s.rest := by
  obtain ⟨u, hu, _⟩ := h.reads
  exact ⟨u, hu.symm⟩

/-- A pattern that consumes nothing leads nowhere else. -/
theorem leads_self {p : Pattern} (h : p.Reads []) (s : Place) : p.Leads s s :=
  ⟨⟨[], rfl, h⟩, fun _ hg => Or.inl hg, fun _ _ => rfl⟩

theorem Leads.seq {p q : Pattern} {s t r : Place} (hp : p.Leads s t) (hq : q.Leads t r) :
    (seq p q).Leads s r := by
  obtain ⟨u, hu, hpu⟩ := hp.reads
  obtain ⟨v, hv, hqv⟩ := hq.reads
  refine ⟨⟨u ++ v, by rw [hu, hv, List.append_assoc], u, v, rfl, hpu, hqv⟩, fun g hg => ?_,
    fun n hn => ?_⟩
  · rcases hq.groups g hg with hg | ⟨hstart, hstop⟩
    · exact hp.groups g hg
    · exact Or.inr ⟨hstart.trans hp.suffix, hstop⟩
  · rw [closes, List.mem_append, not_or] at hn
    rw [hq.kept n hn.2, hp.kept n hn.1]

theorem exists_of_runMany {ok : Char → Bool} {eager : Bool}
    {gs : List (Nat × List Char × List Char)} {k : Place → Option α} {a : α} :
    ∀ {b : Option Char} {s : List Char}, runMany ok eager gs k b s = some a →
      ∃ u b' r, s = u ++ r ∧ (∀ c ∈ u, ok c = true) ∧ k ⟨b', r, gs⟩ = some a
  | b, [], h => ⟨[], b, [], rfl, fun _ hc => absurd hc List.not_mem_nil, h⟩
  | b, c :: s, h => by
    -- whichever is tried first, the run ends here or goes on behind `c`
    have hcases : k ⟨b, c :: s, gs⟩ = some a
        ∨ ok c = true ∧ runMany ok eager gs k (some c) s = some a := by
      rw [runMany] at h
      by_cases hc : ok c = true
      · rw [if_pos hc] at h
        cases heager : eager <;> grind
      · grind
    rcases hcases with hk | ⟨hc, hrun⟩
    · exact ⟨[], b, c :: s, rfl, fun _ hd => absurd hd List.not_mem_nil, hk⟩
    · obtain ⟨u, b', r, hs, hu, hk⟩ := exists_of_runMany hrun
      refine ⟨c :: u, b', r, by rw [hs, List.cons_append], fun d hd => ?_, hk⟩
      rcases List.mem_cons.mp hd with rfl | hd
      · exact hc
      · exact hu d hd

/-- **All that matching finds is read.** -/
theorem exists_of_run : ∀ (p : Pattern) {s : Place} {k : Place → Option α} {a : α},
    p.run s k = some a → ∃ t, p.Leads s t ∧ k t = some a
  | empty, s, k, a, h => ⟨s, leads_self (p := empty) rfl s, h⟩
  | one ok, s, k, a, h => by
    obtain ⟨b, r, gs⟩ := s
    cases r with
    | nil => cases h
    | cons c r =>
      rw [run] at h
      dsimp only at h
      split at h
      · rename_i hc
        exact ⟨⟨some c, r, gs⟩,
          ⟨⟨[c], rfl, c, hc, rfl⟩, fun _ hg => Or.inl hg, fun _ _ => rfl⟩, h⟩
      · cases h
  | many ok eager, s, k, a, h => by
    rw [run] at h
    obtain ⟨u, b', r, hs, hu, hk⟩ := exists_of_runMany h
    exact ⟨⟨b', r, s.groups⟩, ⟨⟨u, hs, hu⟩, fun _ hg => Or.inl hg, fun _ _ => rfl⟩, hk⟩
  | seq p q, s, k, a, h => by
    rw [run] at h
    obtain ⟨t, hp, hrun⟩ := exists_of_run p h
    obtain ⟨r, hq, hk⟩ := exists_of_run q hrun
    exact ⟨r, hp.seq hq, hk⟩
  | alt p q, s, k, a, h => by
    rw [run] at h
    split at h
    · rename_i hp
      cases h
      obtain ⟨t, ht, hk⟩ := exists_of_run p hp
      obtain ⟨u, hu, hpu⟩ := ht.reads
      refine ⟨t, ⟨⟨u, hu, Or.inl hpu⟩, ht.groups, fun n hn => ht.kept n fun hp => hn ?_⟩, hk⟩
      exact List.mem_append_left _ hp
    · obtain ⟨t, ht, hk⟩ := exists_of_run q h
      obtain ⟨u, hu, hqu⟩ := ht.reads
      refine ⟨t, ⟨⟨u, hu, Or.inr hqu⟩, ht.groups, fun n hn => ht.kept n fun hq => hn ?_⟩, hk⟩
      exact List.mem_append_right _ hq
  | group n p, s, k, a, h => by
    rw [run] at h
    obtain ⟨t, ht, hk⟩ := exists_of_run p h
    refine ⟨⟨t.before, t.rest, (n, s.rest, t.rest) :: t.groups⟩,
      ⟨ht.reads, fun g hg => ?_, fun m hm => ?_⟩, hk⟩
    · rcases List.mem_cons.mp hg with rfl | hg
      · exact Or.inr ⟨List.suffix_refl _, ht.suffix⟩
      · exact ht.groups g hg
    · rw [closes, List.mem_cons, not_or] at hm
      rw [List.lookup_cons, beq_eq_false_iff_ne.mpr hm.1]
      exact ht.kept m hm.2
  | textStart, s, k, a, h => by
    rw [run] at h
    split at h
    · exact ⟨s, leads_self (p := textStart) rfl s, h⟩
    · cases h
  | textEnd, s, k, a, h => by
    rw [run] at h
    split at h
    · exact ⟨s, leads_self (p := textEnd) rfl s, h⟩
    · cases h
  | lineStart, s, k, a, h => by
    rw [run] at h
    split at h
    · exact ⟨s, leads_self (p := lineStart) rfl s, h⟩
    · cases h
  | lineEnd, s, k, a, h => by
    rw [run] at h
    split at h
    · exact ⟨s, leads_self (p := lineEnd) rfl s, h⟩
    · cases h
  | ahead p, s, k, a, h => by
    rw [run] at h
    split at h
    · exact ⟨s, leads_self (p := ahead p) rfl s, h⟩
    · cases h

/-- A pattern that reads no beginning of a text does not match there. -/
theorem run_eq_none {p : Pattern} {s : Place} (h : ∀ u r, s.rest = u ++ r → ¬ p.Reads u)
    (k : Place → Option α) : p.run s k = none := by
  cases hrun : p.run s k with
  | none => rfl
  | some a =>
    obtain ⟨t, ht, _⟩ := exists_of_run p hrun
    obtain ⟨u, hu, hreads⟩ := ht.reads
    exact absurd hreads (h u t.rest hu)

/-- A pattern none of whose pieces asks for what stands around it. -/
def ContextFree : Pattern → Prop
  | seq p q => p.ContextFree ∧ q.ContextFree
  | alt p q => p.ContextFree ∧ q.ContextFree
  | group _ p => p.ContextFree
  | empty => True
  | one _ => True
  | many _ _ => True
  | _ => False

theorem isSome_runMany {ok : Char → Bool} {eager : Bool} {gs : List (Nat × List Char × List Char)}
    {k : Place → Option α} {r : List Char} (hk : ∀ b, (k ⟨b, r, gs⟩).isSome = true) :
    ∀ {u : List Char}, (∀ c ∈ u, ok c = true) → ∀ b,
      (runMany ok eager gs k b (u ++ r)).isSome = true
  | [], _, b => by
    cases r with
    | nil => exact hk b
    | cons c r =>
      have hhere := hk b
      rw [List.nil_append, runMany]
      cases eager
      · rw [if_neg Bool.false_ne_true]
        split <;> simp_all
      · rw [if_pos rfl]
        split <;> simp_all
  | c :: u, hu, b => by
    have hrest : (runMany ok eager gs k (some c) (u ++ r)).isSome = true :=
      isSome_runMany hk (fun d hd => hu d (List.mem_cons_of_mem c hd)) (some c)
    rw [List.cons_append, runMany, if_pos (hu c List.mem_cons_self)]
    cases eager
    · rw [if_neg Bool.false_ne_true]
      split <;> simp_all
    · rw [if_pos rfl]
      split <;> simp_all

/-- **Matching finds something wherever a pattern can read.** -/
theorem isSome_run : ∀ {p : Pattern} {u r : List Char} {k : Place → Option α}, p.ContextFree →
    p.Reads u → (∀ b gs, (k ⟨b, r, gs⟩).isSome = true) →
    ∀ b gs, (p.run ⟨b, u ++ r, gs⟩ k).isSome = true
  | empty, _, _, _, _, rfl, hk, b, gs => hk b gs
  | one ok, _, r, k, _, ⟨c, hc, rfl⟩, hk, b, gs => by
    rw [List.singleton_append, run]
    dsimp only
    rw [if_pos hc]
    exact hk (some c) gs
  | many ok eager, _, _, _, _, hu, hk, b, gs => isSome_runMany (fun b => hk b gs) hu b
  | seq p q, _, r, k, ⟨hp, hq⟩, ⟨v, w, rfl, hv, hw⟩, hk, b, gs => by
    rw [List.append_assoc, run]
    exact isSome_run hp hv (isSome_run hq hw hk) b gs
  | alt p q, _, r, k, ⟨hp, hq⟩, hu, hk, b, gs => by
    rw [run]
    rcases hu with hu | hu
    · obtain ⟨a, ha⟩ := Option.isSome_iff_exists.mp (isSome_run hp hu hk b gs)
      rw [ha]
      rfl
    · have hsome := isSome_run hq hu hk b gs
      split <;> simp_all
  | group n p, u, r, k, hp, hu, hk, b, gs => by
    rw [run]
    refine isSome_run (p := p) hp hu ?_ b gs
    exact fun b' gs' => hk b' _

/-- Where a text ends, at most a line break remains. -/
theorem rest_of_run_textEnd {s : Place} {k : Place → Option α} {a : α}
    (h : textEnd.run s k = some a) : s.rest = [] ∨ s.rest = ['\n'] := by
  rw [run] at h
  split_ifs at h with hend
  simpa using hend

/-! ## Finding -/

/-- A match between its two ends: what it consumed was read, and its groups lie within the text. -/
structure Found (p : Pattern) (s : List Char) (m : Match) : Prop where
  within : ∃ x u, s = x ++ u ++ m.stop ∧ m.start = u ++ m.stop ∧ p.Reads u
  groups : ∀ g ∈ m.groups, g.2.1 <:+ s ∧ g.2.2 <:+ g.2.1

theorem found_of_matchAt {p : Pattern} {b : Option Char} {s : List Char} {m : Match}
    (h : p.matchAt b s = some m) : p.Found s m := by
  rw [matchAt] at h
  obtain ⟨t, ht, hm⟩ := exists_of_run p h
  cases hm
  obtain ⟨u, hu, hreads⟩ := ht.reads
  refine ⟨⟨[], u, hu, hu, hreads⟩, fun g hg => ?_⟩
  exact (ht.groups g hg).resolve_left List.not_mem_nil

theorem Found.cons {p : Pattern} {s : List Char} {m : Match} (h : p.Found s m) (c : Char) :
    p.Found (c :: s) m := by
  obtain ⟨x, u, hs, hstart, hreads⟩ := h.within
  refine ⟨⟨c :: x, u, by rw [hs]; rfl, hstart, hreads⟩, fun g hg => ?_⟩
  obtain ⟨hleft, hright⟩ := h.groups g hg
  exact ⟨hleft.trans (List.suffix_cons c s), hright⟩

theorem found_of_findFrom {p : Pattern} {m : Match} : ∀ {b : Option Char} {s : List Char},
    p.findFrom b s = some m → p.Found s m
  | _, [], h => found_of_matchAt h
  | b, c :: s, h => by
    rw [findFrom] at h
    split at h
    · rename_i hm
      cases h
      exact found_of_matchAt hm
    · exact (found_of_findFrom h).cons c

theorem found_of_find {p : Pattern} {s : List Char} {m : Match} (h : p.find s = some m) :
    p.Found s m := found_of_findFrom h

theorem found_of_mem_findAllFrom {p : Pattern} {m : Match} :
    ∀ {skip : Nat} {b : Option Char} {s : List Char}, m ∈ p.findAllFrom skip b s → p.Found s m
  | _, b, [], h => by
    rw [findAllFrom] at h
    exact found_of_matchAt (Option.mem_toList.mp h)
  | skip + 1, _, c :: s, h => by
    rw [findAllFrom] at h
    exact (found_of_mem_findAllFrom h).cons c
  | 0, b, c :: s, h => by
    rw [findAllFrom] at h
    split at h
    · rename_i hm
      rcases List.mem_cons.mp h with rfl | h
      · exact found_of_matchAt hm
      · exact (found_of_mem_findAllFrom h).cons c
    · exact (found_of_mem_findAllFrom h).cons c

theorem found_of_mem_findAll {p : Pattern} {s : List Char} {m : Match} (h : m ∈ p.findAll s) :
    p.Found s m := found_of_mem_findAllFrom h

/-- The text of a group is a piece of the text searched. -/
theorem Found.group_piece {p : Pattern} {s : List Char} {m : Match} (h : p.Found s m) (n : Nat) :
    m.group n <:+: s := by
  rw [Match.group, Match.group?]
  cases hlookup : m.groups.lookup n with
  | none => exact List.nil_infix
  | some g =>
    have hmem : (n, g) ∈ m.groups := by
      have := List.lookup_eq_some_iff.mp hlookup
      obtain ⟨l, r, hsplit, _⟩ := this
      rw [hsplit]
      simp
    obtain ⟨hstart, _⟩ := h.groups (n, g) hmem
    exact (List.take_prefix _ g.1).isInfix.trans hstart.isInfix

theorem matchAt_eq_none {p : Pattern} {s : List Char} (h : ∀ u r, s = u ++ r → ¬ p.Reads u)
    (b : Option Char) : p.matchAt b s = none :=
  run_eq_none h _

/-- A match at the start of a text is the one that is found. -/
theorem find_of_matchStart {p : Pattern} {s : List Char} {m : Match}
    (h : p.matchStart s = some m) : p.find s = some m := by
  rw [matchStart] at h
  cases s with
  | nil => exact h
  | cons c s => rw [find, findFrom, h]

/-! ## The start of a text -/

/-- A pattern that matches at the start of a text only. -/
inductive Anchored : Pattern → Prop
  | start : Anchored textStart
  | seq {p : Pattern} (q : Pattern) : Anchored p → Anchored (p ++ q)

theorem Anchored.run_eq_none {p : Pattern} (h : p.Anchored) {s : Place} (hs : s.before ≠ none)
    (k : Place → Option α) : p.run s k = none := by
  induction h generalizing k with
  | start =>
    obtain ⟨c, hc⟩ := Option.ne_none_iff_exists'.mp hs
    rw [run, hc]
    rfl
  | seq q _ ih => exact ih _

theorem Anchored.findFrom_eq_none {p : Pattern} (h : p.Anchored) :
    ∀ (c : Char) (s : List Char), p.findFrom (some c) s = none
  | c, [] => h.run_eq_none (by simp) _
  | c, d :: s => by
    have hnone : p.matchAt (some c) (d :: s) = none := h.run_eq_none (by simp) _
    rw [findFrom, hnone]
    exact h.findFrom_eq_none d s

/-- Such a pattern is found at the start or not at all. -/
theorem Anchored.find_eq {p : Pattern} (h : p.Anchored) (s : List Char) :
    p.find s = p.matchStart s := by
  rw [find, matchStart]
  cases s with
  | nil => rfl
  | cons c s =>
    rw [findFrom, h.findFrom_eq_none c s]
    cases p.matchAt none (c :: s) <;> rfl

/-! ## Phrases that a pattern needs -/

/-- A text with its case ignored. -/
abbrev folded (s : List Char) : List Char := s.map foldChar

theorem folded_append (s t : List Char) : folded (s ++ t) = folded s ++ folded t :=
  List.map_append

/-- Words with their case ignored. -/
theorem folded_spaced (ws : List (List Char)) : folded (spaced ws) = spaced (ws.map folded) :=
  map_spaced rfl ws

theorem folded_of_letters {w : List Char} (hw : ∀ c ∈ w, c.isAlpha = true) :
    folded w = w.map Char.toLower :=
  List.map_congr_left fun c hc => foldChar_of_ascii (toNat_lt_of_isAlpha (hw c hc))

theorem folded_word {n : PlainName} {w : List Char} (hw : w ∈ n.words) :
    folded w = w.map Char.toLower := folded_of_letters (n.letters w hw)

/-- What a text begins with, case ignored, is a beginning of it with its case ignored. -/
theorem exists_of_prefix_folded {w s : List Char} (h : w <+: folded s) :
    ∃ u r, s = u ++ r ∧ folded u = w := by
  refine ⟨s.take w.length, s.drop w.length, (List.take_append_drop _ _).symm, ?_⟩
  rw [folded, List.map_take]
  exact (List.prefix_iff_eq_take.mp h).symm

/-- What is no letter stands for nothing else when case is ignored. -/
theorem foldChar_eq_of_not_alpha {c d : Char} (hd : d.isAlpha = false) (h : foldChar c = d) :
    c = d := by
  subst h
  rw [foldChar] at hd ⊢
  split_ifs at hd ⊢ with hupper
  · -- a capital stands for a small letter
    have hle : 65 ≤ c.toNat ∧ c.toNat ≤ 90 := by
      simp only [Bool.and_eq_true, decide_eq_true_eq] at hupper
      exact hupper
    rw [← Bool.not_eq_true, isAlpha_iff, Char.toNat_ofNat, if_pos (Or.inl (by omega))] at hd
    omega
  all_goals first | rfl | cases hd

theorem mem_of_mem_folded {d : Char} {s : List Char} (hd : d.isAlpha = false) (h : d ∈ folded s) :
    d ∈ s := by
  obtain ⟨c, hc, hcd⟩ := List.mem_map.mp h
  rw [foldChar_eq_of_not_alpha hd hcd] at hc
  exact hc

theorem reads_char {c : Char} {u : List Char} : (char c).Reads u ↔ folded u = folded [c] := by
  constructor
  · rintro ⟨d, hd, rfl⟩
    simpa using hd
  · intro h
    obtain ⟨d, rfl⟩ := List.length_eq_one_iff.mp (by simpa using congrArg List.length h)
    exact ⟨d, by simpa using h, rfl⟩

/-- One or more characters of a class, as many as possible or as few. -/
theorem reads_oneOrMore {ok : Char → Bool} {eager : Bool} {u : List Char} :
    (one ok ++ many ok eager).Reads u ↔ u ≠ [] ∧ ∀ c ∈ u, ok c = true := by
  constructor
  · rintro ⟨_, r, rfl, ⟨c, hc, rfl⟩, hr⟩
    refine ⟨List.cons_ne_nil c r, fun d hd => ?_⟩
    rcases List.mem_cons.mp hd with rfl | hd
    · exact hc
    · exact hr d hd
  · rintro ⟨hu, hall⟩
    obtain ⟨c, r, rfl⟩ := List.exists_cons_of_ne_nil hu
    exact ⟨[c], r, rfl, ⟨c, hall c List.mem_cons_self, rfl⟩,
      fun d hd => hall d (List.mem_cons_of_mem c hd)⟩

/-- A literal reads what is the same up to case. -/
theorem reads_textOf {w u : List Char} : (textOf w).Reads u ↔ folded u = folded w := by
  induction w generalizing u with
  | nil =>
    show u = [] ↔ _
    simp
  | cons c w ih =>
    cases w with
    | nil => exact reads_char
    | cons d w =>
      constructor
      · rintro ⟨v, x, rfl, hv, hx⟩
        have hv := reads_char.mp hv
        have hx := ih.mp hx
        rw [folded_append, hv, hx]
        rfl
      · intro h
        cases u with
        | nil => simp at h
        | cons e u =>
          obtain ⟨he, hu⟩ := List.cons.inj h
          exact ⟨[e], u, rfl, reads_char.mpr (by simpa using he), ih.mpr hu⟩

/-- A literal is not read from a text that parts ways with it. -/
theorem not_reads_textOf {w s v t : List Char} (hs : folded s = v ++ t)
    (hleft : (folded w).isPrefixOf v = false) (hright : v.isPrefixOf (folded w) = false)
    {u r : List Char} (hsplit : s = u ++ r) : ¬ (textOf w).Reads u := by
  intro hreads
  refine not_prefix_append hleft hright t ?_
  rw [← hs, hsplit, folded_append, reads_textOf.mp hreads]
  exact List.prefix_append _ _

/-- In single-spaced texts, a pattern reads nothing but a phrase. -/
def Spells (p : Pattern) (w : List Char) : Prop :=
  ∀ u, SingleSpaced u → p.Reads u → folded u = w

/-- In single-spaced texts, all that a pattern reads begins with a phrase. -/
def BeginsWith (p : Pattern) (w : List Char) : Prop :=
  ∀ u, SingleSpaced u → p.Reads u → w <+: folded u

/-- In single-spaced texts, all that a pattern reads ends with a phrase. -/
def EndsWith (p : Pattern) (w : List Char) : Prop :=
  ∀ u, SingleSpaced u → p.Reads u → w <:+ folded u

/-- In single-spaced texts, all that a pattern reads holds a phrase. -/
def Contains (p : Pattern) (w : List Char) : Prop :=
  ∀ u, SingleSpaced u → p.Reads u → w <:+: folded u

section Phrases

variable {p q : Pattern} {v w : List Char}

theorem spells_textOf (w : List Char) : (textOf w).Spells (folded w) :=
  fun _ _ hu => reads_textOf.mp hu

theorem spells_text (w : String) : (text w).Spells (folded w.toList) := spells_textOf w.toList

/-- A gap is a space. -/
theorem spells_gap : gap.Spells [' '] := by
  rintro _ hu ⟨_, x, rfl, ⟨c, hc, rfl⟩, hx⟩
  have hc : c = ' ' := hu.spaces c (by simp) hc
  cases x with
  | nil => rw [hc]; rfl
  | cons d x =>
    have hd : d = ' ' := hu.spaces d (by simp) (hx d List.mem_cons_self)
    exact absurd ⟨[], x, by rw [hc, hd]; rfl⟩ hu.apart

/-- What is read by two patterns in a row is read by each in its place. -/
theorem Reads.cut {P : List Char → List Char → Prop} {u : List Char} (h : (p ++ q).Reads u)
    (hu : SingleSpaced u)
    (hcut : ∀ x y, SingleSpaced x → SingleSpaced y → p.Reads x → q.Reads y →
      P (folded x) (folded y)) :
    ∃ x y, folded u = x ++ y ∧ P x y := by
  obtain ⟨x, y, rfl, hx, hy⟩ := h
  refine ⟨folded x, folded y, folded_append x y, hcut x y ?_ ?_ hx hy⟩
  · exact hu.piece (List.prefix_append x y).isInfix
  · exact hu.piece (List.suffix_append x y).isInfix

theorem Spells.append (hp : p.Spells v) (hq : q.Spells w) : (p ++ q).Spells (v ++ w) := by
  intro u hu hreads
  obtain ⟨x, y, hxy, rfl, rfl⟩ := hreads.cut (P := fun x y => x = v ∧ y = w) hu
    fun x y hx hy hpx hqy => ⟨hp x hx hpx, hq y hy hqy⟩
  exact hxy

theorem Spells.beginsWith (h : p.Spells w) : p.BeginsWith w :=
  fun u hu hreads => h u hu hreads ▸ List.prefix_refl _

theorem Spells.endsWith (h : p.Spells w) : p.EndsWith w :=
  fun u hu hreads => h u hu hreads ▸ List.suffix_refl _

theorem Spells.contains (h : p.Spells w) : p.Contains w :=
  fun u hu hreads => h u hu hreads ▸ List.infix_rfl

theorem BeginsWith.seq (h : p.BeginsWith w) (q : Pattern) : (p ++ q).BeginsWith w := by
  intro u hu hreads
  obtain ⟨x, y, hxy, hx⟩ := hreads.cut (P := fun x _ => w <+: x) hu
    fun x _ hx _ hpx _ => h x hx hpx
  rw [hxy]
  exact hx.trans (List.prefix_append x y)

theorem EndsWith.seq (h : q.EndsWith w) (p : Pattern) : (p ++ q).EndsWith w := by
  intro u hu hreads
  obtain ⟨x, y, hxy, hy⟩ := hreads.cut (P := fun _ y => w <:+ y) hu
    fun _ y _ hy _ hqy => h y hy hqy
  rw [hxy]
  exact hy.trans (List.suffix_append x y)

/-- A phrase that runs on to the end of the next piece of a pattern. -/
theorem EndsWith.append (hp : p.EndsWith v) (hq : q.Spells w) : (p ++ q).EndsWith (v ++ w) := by
  intro u hu hreads
  obtain ⟨x, y, hxy, ⟨a, ha⟩, rfl⟩ := hreads.cut (P := fun x y => v <:+ x ∧ y = w) hu
    fun x y hx hy hpx hqy => ⟨hp x hx hpx, hq y hy hqy⟩
  exact ⟨a, by rw [hxy, ← ha, List.append_assoc]⟩

/-- A phrase that runs from one piece of a pattern into the next. -/
theorem EndsWith.contains (hp : p.EndsWith v) (hq : q.BeginsWith w) :
    (p ++ q).Contains (v ++ w) := by
  intro u hu hreads
  obtain ⟨x, y, hxy, ⟨a, ha⟩, ⟨b, hb⟩⟩ := hreads.cut (P := fun x y => v <:+ x ∧ w <+: y) hu
    fun x y hx hy hpx hqy => ⟨hp x hx hpx, hq y hy hqy⟩
  exact ⟨a, b, by rw [hxy, ← ha, ← hb]; simp only [List.append_assoc]⟩

theorem Contains.left (h : p.Contains w) (q : Pattern) : (p ++ q).Contains w := by
  intro u hu hreads
  obtain ⟨x, y, hxy, hx⟩ := hreads.cut (P := fun x _ => w <:+: x) hu
    fun x _ hx _ hpx _ => h x hx hpx
  rw [hxy]
  exact hx.trans (List.prefix_append x y).isInfix

theorem Contains.right (h : q.Contains w) (p : Pattern) : (p ++ q).Contains w := by
  intro u hu hreads
  obtain ⟨x, y, hxy, hy⟩ := hreads.cut (P := fun _ y => w <:+: y) hu
    fun _ y _ hy _ hqy => h y hy hqy
  rw [hxy]
  exact hy.trans (List.suffix_append x y).isInfix

theorem Contains.mono (h : p.Contains w) (hv : v <:+: w) : p.Contains v :=
  fun u hu hreads => hv.trans (h u hu hreads)

end Phrases

/-- A pattern that matches at the start of a text only and begins with a literal. -/
inductive Opens : Pattern → List Char → Prop
  | start (w : List Char) : Opens (textStart ++ textOf w) w
  | seq {p : Pattern} {w : List Char} (q : Pattern) : Opens p w → Opens (p ++ q) w

theorem Opens.anchored {p : Pattern} {w : List Char} (h : p.Opens w) : p.Anchored := by
  induction h with
  | start w => exact .seq _ .start
  | seq q _ ih => exact .seq q ih

/-- What such a pattern reads begins with the literal. -/
theorem Opens.prefix_folded {p : Pattern} {w : List Char} (h : p.Opens w) {u : List Char}
    (hu : p.Reads u) : folded w <+: folded u := by
  induction h generalizing u with
  | start w =>
    obtain ⟨x, y, rfl, hx, hy⟩ := hu
    obtain rfl : x = [] := hx
    exact (reads_textOf.mp hy).symm ▸ List.prefix_refl _
  | seq q _ ih =>
    obtain ⟨x, y, rfl, hx, _⟩ := hu
    rw [folded_append]
    exact (ih hx).trans (List.prefix_append _ _)

/-! ## Texts without a match -/

section NoMatch

variable {p : Pattern} {w s : List Char}

/-- A pattern that reads no piece of a text is not found there. -/
theorem find_eq_none_of_reads (h : ∀ u, u <:+: s → ¬ p.Reads u) : p.find s = none := by
  cases hfind : p.find s with
  | none => rfl
  | some m =>
    obtain ⟨x, u, hsplit, _, hreads⟩ := (found_of_find hfind).within
    exact absurd hreads (h u ⟨x, m.stop, hsplit.symm⟩)

/-- **A text without a phrase that a pattern needs has no match.** -/
theorem find_eq_none_of_contains (h : p.Contains w) (hsingle : SingleSpaced s)
    (hs : ¬ w <:+: folded s) : p.find s = none := by
  refine find_eq_none_of_reads fun u hu hreads => hs ?_
  exact (h u (hsingle.piece hu) hreads).trans (hu.map foldChar)

theorem matchAt_eq_none_of_contains (h : p.Contains w) (hsingle : SingleSpaced s)
    (hs : ¬ w <:+: folded s) (b : Option Char) : p.matchAt b s = none := by
  refine matchAt_eq_none (fun u r hsplit hreads => hs ?_) b
  have hu : u <+: s := ⟨r, hsplit.symm⟩
  exact (h u (hsingle.piece hu.isInfix) hreads).trans (hu.map foldChar).isInfix

theorem run_eq_none_of_beginsWith (h : p.BeginsWith w) (hsingle : SingleSpaced s)
    (hs : ¬ w <+: folded s) (b : Option Char) (gs : List (Nat × List Char × List Char))
    (k : Place → Option α) : p.run ⟨b, s, gs⟩ k = none := by
  refine run_eq_none (fun u r hsplit hreads => hs ?_) k
  have hu : u <+: s := ⟨r, hsplit.symm⟩
  exact (h u (hsingle.piece hu.isInfix) hreads).trans (hu.map foldChar)

/-- A text that does not begin like a pattern that opens with a phrase has no match. -/
theorem Opens.find_eq_none (h : p.Opens w) (hs : ¬ folded w <+: folded s) : p.find s = none := by
  rw [h.anchored.find_eq]
  refine matchAt_eq_none (fun u r hsplit hreads => hs ?_) none
  rw [hsplit, folded_append]
  exact (h.prefix_folded hreads).trans (List.prefix_append _ _)

/-- **Where a separator word does not stand, its pattern does not match**: from within words other
    than `w`, a pattern that begins with `w` between two spaces reads nothing. -/
theorem run_eq_none_of_not_mem {ws : List (List Char)} {x y t : List Char}
    (h : p.BeginsWith (' ' :: (w ++ [' ']))) (hspace : ' ' ∉ w) (hws : ∀ v ∈ ws, ' ' ∉ v)
    (hw : ∀ v ∈ ws, folded v ≠ w) (hxy : spaced ws = x ++ y) (hy : y ≠ [])
    (hs : s <+: y ++ ' ' :: t) (hsingle : SingleSpaced s) (b : Option Char)
    (gs : List (Nat × List Char × List Char)) (k : Place → Option α) :
    p.run ⟨b, s, gs⟩ k = none := by
  refine run_eq_none_of_beginsWith h hsingle (fun hfound => ?_) b gs k
  have hfold : foldChar ' ' = ' ' := rfl
  have hwords : ∀ v ∈ ws.map folded, ' ' ∉ v := by
    intro _ hmap hmem
    obtain ⟨v, hv, rfl⟩ := List.mem_map.mp hmap
    exact hws v hv (mem_of_mem_folded (by decide) hmem)
  have hmem : w ∉ ws.map folded := fun hmem => by
    obtain ⟨v, hv, heq⟩ := List.mem_map.mp hmem
    exact hw v hv heq
  have hsplit : spaced (ws.map folded) = folded x ++ folded y := by
    rw [← folded_append, ← hxy]
    exact (map_spaced hfold ws).symm
  refine not_prefix_of_not_mem hwords hspace hmem hsplit (by simpa using hy) (folded t) ?_
  have hlong : folded s <+: folded y ++ ' ' :: folded t := by
    simpa [hfold] using hs.map foldChar
  exact hfound.trans hlong

end NoMatch

/-! ## The first way of matching -/

section First

variable {k : Place → Option α} {a : α} {gs : List (Nat × List Char × List Char)} {r : List Char}

theorem run_append (p q : Pattern) (s : Place) (k : Place → Option α) :
    (p ++ q).run s k = p.run s fun t => q.run t k := rfl

theorem run_group (n : Nat) (p : Pattern) (s : Place) (k : Place → Option α) :
    (group n p).run s k
      = p.run s fun t => k ⟨t.before, t.rest, (n, s.rest, t.rest) :: t.groups⟩ := rfl

theorem run_textStart (s : List Char) (gs : List (Nat × List Char × List Char))
    (k : Place → Option α) : textStart.run ⟨none, s, gs⟩ k = k ⟨none, s, gs⟩ := rfl

theorem run_lineStart (s : List Char) (gs : List (Nat × List Char × List Char))
    (k : Place → Option α) : lineStart.run ⟨none, s, gs⟩ k = k ⟨none, s, gs⟩ := rfl

theorem run_alt_left {p : Pattern} {s : Place} (h : p.run s k = some a) (q : Pattern) :
    (alt p q).run s k = some a := by
  rw [run, h]

theorem run_alt_right {p q : Pattern} {s : Place} (hp : p.run s k = none) (hq : q.run s k = some a) :
    (alt p q).run s k = some a := by
  rw [run, hp, hq]

theorem run_one {ok : Char → Bool} {c : Char} (hc : ok c = true)
    (hk : ∀ b, k ⟨b, r, gs⟩ = some a) (b : Option Char) :
    (one ok).run ⟨b, c :: r, gs⟩ k = some a := by
  rw [run]
  dsimp only
  rw [if_pos hc]
  exact hk _

theorem run_char {c d : Char} (h : foldChar d = foldChar c) (hk : ∀ b, k ⟨b, r, gs⟩ = some a)
    (b : Option Char) : (char c).run ⟨b, d :: r, gs⟩ k = some a := by
  rw [char]
  refine run_one ?_ hk b
  exact beq_iff_eq.mpr h

/-- A literal takes what is the same up to case. -/
theorem run_textOf {w u : List Char} (h : folded u = folded w)
    (hk : ∀ b, k ⟨b, r, gs⟩ = some a) (b : Option Char) :
    (textOf w).run ⟨b, u ++ r, gs⟩ k = some a := by
  induction w generalizing u b with
  | nil =>
    obtain rfl : u = [] := by simpa using h
    exact hk b
  | cons c w ih =>
    cases u with
    | nil => simp at h
    | cons d u =>
      obtain ⟨hd, hu⟩ := List.cons.inj h
      cases w with
      | nil =>
        obtain rfl : u = [] := by simpa using hu
        exact run_char hd hk b
      | cons e w =>
        rw [textOf, run_append]
        · exact run_char hd (ih hu) b
        · exact List.cons_ne_nil e w

theorem run_text {w : String} {u : List Char} (h : folded u = folded w.toList)
    (hk : ∀ b, k ⟨b, r, gs⟩ = some a) (b : Option Char) :
    (text w).run ⟨b, u ++ r, gs⟩ k = some a := run_textOf h hk b

/-- **An eager run** takes all it can. -/
theorem run_many_eager {ok : Char → Bool} {u : List Char} (hu : ∀ c ∈ u, ok c = true)
    (hr : ∀ c ∈ r.head?, ok c = false) (hk : ∀ b, k ⟨b, r, gs⟩ = some a) (b : Option Char) :
    (many ok true).run ⟨b, u ++ r, gs⟩ k = some a := by
  show runMany ok true gs k b (u ++ r) = some a
  induction u generalizing b with
  | nil =>
    cases r with
    | nil => exact hk b
    | cons c r =>
      have hc : ok c = false := hr c rfl
      rw [List.nil_append, runMany, if_pos rfl, hc, if_neg Bool.false_ne_true]
      exact hk b
  | cons c u ih =>
    have hrest := ih (fun d hd => hu d (List.mem_cons_of_mem c hd)) (some c)
    rw [List.cons_append, runMany, if_pos rfl, if_pos (hu c List.mem_cons_self), hrest]

theorem run_longest {ok : Char → Bool} {u : List Char} (hne : u ≠ []) (hu : ∀ c ∈ u, ok c = true)
    (hr : ∀ c ∈ r.head?, ok c = false) (hk : ∀ b, k ⟨b, r, gs⟩ = some a) (b : Option Char) :
    (longest ok).run ⟨b, u ++ r, gs⟩ k = some a := by
  obtain ⟨c, u, rfl⟩ := List.exists_cons_of_ne_nil hne
  rw [longest, run_append]
  exact run_one (hu c List.mem_cons_self)
    (run_many_eager (fun d hd => hu d (List.mem_cons_of_mem c hd)) hr hk) b

/-- A group that takes all that is left. -/
theorem run_longest_textEnd {n : Nat} {u : List Char} (hne : u ≠ [])
    (hk : ∀ b, k ⟨b, [], (n, u, []) :: gs⟩ = some a) (b : Option Char) :
    (group n (longest anyChar) ++ textEnd).run ⟨b, u, gs⟩ k = some a := by
  rw [run_append, run_group]
  have hall : (longest anyChar).run ⟨b, u ++ [], gs⟩ (fun t =>
      textEnd.run ⟨t.before, t.rest, (n, u, t.rest) :: t.groups⟩ k) = some a :=
    run_longest hne (fun _ _ => rfl) (fun _ hc => by cases hc) (fun b => by rw [run]; exact hk b) b
  rwa [List.append_nil] at hall

/-- A gap takes a single space. -/
theorem run_gap (hr : ∀ c ∈ r.head?, isBlank c = false) (hk : ∀ b, k ⟨b, r, gs⟩ = some a)
    (b : Option Char) : gap.run ⟨b, ' ' :: r, gs⟩ k = some a := by
  exact run_longest (List.cons_ne_nil ' ' []) isBlank_of_mem_space hr hk b

/-- A gap and the word behind it. -/
theorem run_gap_text {w : String} {c : Char} {u : List Char} (hw : w.toList = c :: u)
    (hc : isBlank c = false) (hk : ∀ b, k ⟨b, r, gs⟩ = some a) (b : Option Char) :
    (gap ++ text w).run ⟨b, ' ' :: (w.toList ++ r), gs⟩ k = some a := by
  have hhead : ∀ d ∈ (w.toList ++ r).head?, isBlank d = false := by
    rw [hw]
    exact of_mem_head hc _
  rw [run_append]
  exact run_gap hhead (run_text rfl hk) b

/-- **A lazy run** takes the shortest text behind which the continuation accepts. -/
theorem run_many_lazy {ok : Char → Bool} {u : List Char} (hu : ∀ c ∈ u, ok c = true)
    (hshorter : ∀ x y, u = x ++ y → y ≠ [] → ∀ b, k ⟨b, y ++ r, gs⟩ = none)
    (hk : ∀ b, k ⟨b, r, gs⟩ = some a) (b : Option Char) :
    (many ok false).run ⟨b, u ++ r, gs⟩ k = some a := by
  show runMany ok false gs k b (u ++ r) = some a
  induction u generalizing b with
  | nil =>
    cases r with
    | nil => exact hk b
    | cons c r =>
      rw [List.nil_append, runMany, if_neg Bool.false_ne_true, hk b]
  | cons c u ih =>
    have hrest := ih (fun d hd => hu d (List.mem_cons_of_mem c hd))
      (fun x y hxy hy => hshorter (c :: x) y (by rw [hxy, List.cons_append]) hy) (some c)
    have hnone : k ⟨b, c :: (u ++ r), gs⟩ = none :=
      hshorter [] (c :: u) rfl (List.cons_ne_nil c u) b
    rw [List.cons_append, runMany, if_neg Bool.false_ne_true, hnone]
    dsimp only
    rw [if_pos (hu c List.mem_cons_self), hrest]

theorem run_shortest {ok : Char → Bool} {u : List Char} (hne : u ≠ []) (hu : ∀ c ∈ u, ok c = true)
    (hshorter : ∀ x y, u = x ++ y → x ≠ [] → y ≠ [] → ∀ b, k ⟨b, y ++ r, gs⟩ = none)
    (hk : ∀ b, k ⟨b, r, gs⟩ = some a) (b : Option Char) :
    (shortest ok).run ⟨b, u ++ r, gs⟩ k = some a := by
  obtain ⟨c, u, rfl⟩ := List.exists_cons_of_ne_nil hne
  rw [shortest, run_append]
  refine run_one (hu c List.mem_cons_self) (run_many_lazy
    (fun d hd => hu d (List.mem_cons_of_mem c hd)) (fun x y hxy hy => ?_) hk) b
  exact hshorter (c :: x) y (by rw [hxy, List.cons_append]) (List.cons_ne_nil c x) hy

/-- **A lazy group of words** ends where the pattern behind it first begins. -/
theorem run_shortest_words {ok : Char → Bool} {n : Nat} {p : Pattern} {ws : List (List Char)}
    {w t : List Char} (hne : ws ≠ []) (hws : ∀ v ∈ ws, IsWord v)
    (hok : ∀ c ∈ spaced ws, ok c = true) (hp : p.BeginsWith (' ' :: (w ++ [' '])))
    (hspace : ' ' ∉ w) (hw : ∀ v ∈ ws, folded v ≠ w)
    (hsingle : SingleSpaced (spaced ws ++ ' ' :: t))
    (hk : ∀ b, p.run ⟨b, ' ' :: t, (n, spaced ws ++ ' ' :: t, ' ' :: t) :: gs⟩ k = some a)
    (b : Option Char) :
    (group n (shortest ok) ++ p).run ⟨b, spaced ws ++ ' ' :: t, gs⟩ k = some a := by
  obtain ⟨v, _, c, _, rfl, u, hu⟩ := exists_head_spaced hne fun v hv => (hws v hv).1
  have hfull : spaced ws ≠ [] := by simp [hu]
  rw [run_append, run_group]
  refine run_shortest hfull hok (fun x y hxy _ hy b => ?_) hk b
  refine run_eq_none_of_not_mem hp hspace (fun v hv => (hws v hv).space_not_mem) hw hxy hy
    (List.prefix_refl _) (hsingle.piece ?_) b _ k
  rw [hxy, List.append_assoc]
  exact (List.suffix_append x _).isInfix

end First

/-! ## Patterns without groups -/

/-- Before a rest, a pattern takes a text: of all places that the continuation accepts, the one
    behind the text comes first. -/
structure Takes (p : Pattern) (u r : List Char) : Prop where
  run : ∀ {α : Type} {k : Place → Option α} {a : α} {gs : List (Nat × List Char × List Char)},
    (∀ b, k ⟨b, r, gs⟩ = some a) → ∀ b, p.run ⟨b, u ++ r, gs⟩ k = some a

section Takes

variable {p q : Pattern} {u v r : List Char}

theorem takes_text {w : String} (h : folded u = folded w.toList) (r : List Char) :
    (text w).Takes u r := ⟨fun hk => run_text h hk⟩

theorem takes_gap (hr : ∀ c ∈ r.head?, isBlank c = false) : gap.Takes [' '] r :=
  ⟨fun hk => run_gap hr hk⟩

theorem Takes.seq (hp : p.Takes u (v ++ r)) (hq : q.Takes v r) : (p ++ q).Takes (u ++ v) r := by
  refine ⟨fun {α k a gs} hk b => ?_⟩
  rw [List.append_assoc, run_append]
  exact hp.run (hq.run hk) b

theorem Takes.assoc {t : Pattern} (h : (p ++ (q ++ t)).Takes u r) : (p ++ q ++ t).Takes u r :=
  ⟨h.run⟩

theorem Takes.alt_left (hp : p.Takes u r) (q : Pattern) : (alt p q).Takes u r :=
  ⟨fun hk b => run_alt_left (hp.run hk b) q⟩

theorem Takes.alt_right (hp : ∀ v t, u ++ r = v ++ t → ¬ p.Reads v) (hq : q.Takes u r) :
    (alt p q).Takes u r := ⟨fun hk b => run_alt_right (run_eq_none hp _) (hq.run hk b)⟩

/-- What is not there may be left out. -/
theorem takes_opt_nil (hp : ∀ v t, r = v ++ t → ¬ p.Reads v) : (opt p).Takes [] r :=
  ⟨fun hk b => run_alt_right (run_eq_none hp _) (hk b)⟩

/-- Of several literals the one that is there is taken, if no other begins like it. -/
theorem takes_firstOf : ∀ {ws : List (List Char)}, (∃ w ∈ ws, folded w = folded u) →
    (∀ w ∈ ws, folded w = folded u ∨
      (folded w).isPrefixOf (folded u) = false ∧ (folded u).isPrefixOf (folded w) = false) →
    (firstOf (ws.map textOf)).Takes u r
  | [], ⟨_, hw, _⟩, _ => absurd hw List.not_mem_nil
  | [w], hu, _ => by
    obtain ⟨_, hmem, heq⟩ := hu
    obtain rfl := List.mem_singleton.mp hmem
    exact ⟨fun hk => run_textOf heq.symm hk⟩
  | w :: v :: ws, hu, hother => by
    rcases hother w List.mem_cons_self with heq | ⟨hleft, hright⟩
    · have hfirst : (textOf w).Takes u r := ⟨fun hk => run_textOf heq.symm hk⟩
      exact hfirst.alt_left _
    · have hrest : ∃ w ∈ v :: ws, folded w = folded u := by
        obtain ⟨x, hx, heq⟩ := hu
        rcases List.mem_cons.mp hx with rfl | hx
        · rw [heq, List.isPrefixOf_iff_prefix.mpr (List.prefix_refl _)] at hleft
          cases hleft
        · exact ⟨x, hx, heq⟩
      have hnone : ∀ x t, u ++ r = x ++ t → ¬ (textOf w).Reads x := fun _ _ hsplit =>
        not_reads_textOf (folded_append u r) hleft hright hsplit
      exact Takes.alt_right hnone
        (takes_firstOf hrest fun x hx => hother x (List.mem_cons_of_mem w hx))

end Takes

/-! ## Groups, cuts and lists of matches -/

theorem between_append (u r : List Char) : between (u ++ r) r = u := by
  rw [between, List.length_append, Nat.add_sub_cancel, List.take_left]

theorem Match.group_eq {m : Match} {n : Nat} {u r : List Char}
    (h : m.groups.lookup n = some (u ++ r, r)) : m.group n = u := by
  rw [Match.group, Match.group?, h]
  exact between_append u r

theorem dropStart_suffix (p : Pattern) (s : List Char) : p.dropStart s <:+ s := by
  rw [dropStart]
  cases hm : p.matchStart s with
  | none => exact List.suffix_refl s
  | some m =>
    obtain ⟨x, u, hs, -, -⟩ := (found_of_matchAt hm).within
    exact ⟨x ++ u, hs.symm⟩

theorem dropStart_eq_self {p : Pattern} {s : List Char} (h : p.matchStart s = none) :
    p.dropStart s = s := by
  rw [dropStart, h]

/-- Where a separator does not match, the piece being read grows. -/
theorem splitFrom_append {p : Pattern} {u r : List Char}
    (h : ∀ x y, u = x ++ y → y ≠ [] → ∀ b, p.matchAt b (y ++ r) = none) (piece : List Char)
    (b : Option Char) : ∃ b', p.splitFrom 0 piece b (u ++ r)
      = p.splitFrom 0 (u.reverse ++ piece) b' r := by
  induction u generalizing piece b with
  | nil => exact ⟨b, rfl⟩
  | cons c u ih =>
    obtain ⟨b', hsplit⟩ := ih (fun x y hxy hy => h (c :: x) y (by rw [hxy, List.cons_append]) hy)
      (c :: piece) (some c)
    refine ⟨b', ?_⟩
    have hnone := h [] (c :: u) rfl (List.cons_ne_nil c u) b
    rw [List.cons_append] at hnone ⊢
    rw [splitFrom, hnone]
    dsimp only
    rw [hsplit, List.reverse_cons, List.append_assoc, List.singleton_append]

theorem splitFrom_skip {p : Pattern} (u r piece : List Char) (b : Option Char) :
    ∃ b', p.splitFrom u.length piece b (u ++ r) = p.splitFrom 0 piece b' r := by
  induction u generalizing b with
  | nil => exact ⟨b, rfl⟩
  | cons c u ih =>
    obtain ⟨b', hskip⟩ := ih (some c)
    exact ⟨b', by rw [List.length_cons, List.cons_append, splitFrom, hskip]⟩

/-- At a separator the piece being read ends and the next begins. -/
theorem splitFrom_match {p : Pattern} {u r : List Char} (hu : u ≠ []) {m : Match} {b : Option Char}
    (hm : p.matchAt b (u ++ r) = some m) (hstart : m.start = u ++ r) (hstop : m.stop = r)
    (piece : List Char) :
    ∃ b', p.splitFrom 0 piece b (u ++ r) = piece.reverse :: p.splitFrom 0 [] b' r := by
  obtain ⟨c, u, rfl⟩ := List.exists_cons_of_ne_nil hu
  have hlength : m.length = u.length + 1 := by
    rw [Match.length, hstart, hstop, List.length_append, Nat.add_sub_cancel, List.length_cons]
  have hsome : (m.length == 0) = false := by rw [hlength]; rfl
  obtain ⟨b', hskip⟩ := splitFrom_skip (p := p) u r [] (some c)
  refine ⟨b', ?_⟩
  rw [List.cons_append] at hm ⊢
  rw [splitFrom, hm]
  dsimp only
  rw [hsome, if_neg Bool.false_ne_true, hlength, Nat.add_sub_cancel, hskip]

/-- What a separator cuts out of the piece being read and the rest lies within them. -/
theorem infix_of_mem_splitFrom {p : Pattern} {q : List Char} :
    ∀ {skip : Nat} {piece : List Char} {b : Option Char} {s : List Char},
      skip = 0 ∨ piece = [] → q ∈ p.splitFrom skip piece b s → q <:+: piece.reverse ++ s
  | _, piece, _, [], _, h => by
    rw [splitFrom, List.mem_singleton] at h
    rw [h, List.append_nil]
  | skip + 1, piece, _, c :: s, hskip, h => by
    obtain rfl : piece = [] := hskip.resolve_left (Nat.succ_ne_zero skip)
    rw [splitFrom] at h
    exact (infix_of_mem_splitFrom (Or.inr rfl) h).trans (List.suffix_cons c s).isInfix
  | 0, piece, b, c :: s, _, h => by
    have hgrown : q ∈ p.splitFrom 0 (c :: piece) (some c) s → q <:+: piece.reverse ++ c :: s := by
      intro h
      have hpiece := infix_of_mem_splitFrom (Or.inl rfl) h
      rwa [List.reverse_cons, List.append_assoc] at hpiece
    rw [splitFrom] at h
    split at h
    · split_ifs at h
      · exact hgrown h
      · rcases List.mem_cons.mp h with rfl | h
        · exact (List.prefix_append _ _).isInfix
        · have hrest := infix_of_mem_splitFrom (Or.inr rfl) h
          exact hrest.trans ((List.suffix_cons c s).trans (List.suffix_append _ _)).isInfix
    · exact hgrown h

theorem infix_of_mem_split {p : Pattern} {q s : List Char} (h : q ∈ p.split s) : q <:+: s :=
  infix_of_mem_splitFrom (Or.inl rfl) h

/-- A text in which a separator never matches is one piece. -/
theorem split_eq_singleton {p : Pattern} {s : List Char}
    (h : ∀ x y, s = x ++ y → y ≠ [] → ∀ b, p.matchAt b y = none) : p.split s = [s] := by
  obtain ⟨b, hsplit⟩ := splitFrom_append (p := p) (u := s) (r := [])
    (fun x y hxy hy b => by rw [List.append_nil]; exact h x y hxy hy b) [] none
  rw [List.append_nil] at hsplit
  rw [split, hsplit, splitFrom, List.append_nil, List.reverse_reverse]

theorem findAllFrom_skip {p : Pattern} (u r : List Char) (b : Option Char) :
    ∃ b', p.findAllFrom u.length b (u ++ r) = p.findAllFrom 0 b' r := by
  induction u generalizing b with
  | nil => exact ⟨b, rfl⟩
  | cons c u ih =>
    obtain ⟨b', hskip⟩ := ih (some c)
    exact ⟨b', by rw [List.length_cons, List.cons_append, findAllFrom, hskip]⟩

/-- A match is the next one of the list, and the search goes on behind it. -/
theorem findAllFrom_match {p : Pattern} {u r : List Char} (hu : u ≠ []) {m : Match}
    {b : Option Char} (hm : p.matchAt b (u ++ r) = some m) (hstart : m.start = u ++ r)
    (hstop : m.stop = r) :
    ∃ b', p.findAllFrom 0 b (u ++ r) = m :: p.findAllFrom 0 b' r := by
  obtain ⟨c, u, rfl⟩ := List.exists_cons_of_ne_nil hu
  have hlength : m.length - 1 = u.length := by
    rw [Match.length, hstart, hstop, List.length_append, Nat.add_sub_cancel, List.length_cons,
      Nat.add_sub_cancel]
  obtain ⟨b', hskip⟩ := findAllFrom_skip (p := p) u r (some c)
  refine ⟨b', ?_⟩
  rw [List.cons_append] at hm ⊢
  rw [findAllFrom, hm]
  dsimp only
  rw [hlength, hskip]

end Muster.Text.Pattern
