import Mathlib.Logic.Function.Iterate
import Mathlib.Logic.Relation
import PureLint.Regex.Basic

/-!
# What an expression matches

`Spans t r i j` says, by recursion over the expression, that `r` matches the characters of `t` from
position `i` to position `j`. The set that `reach` computes has exactly the ends of these matches in
it (`carries_reach`), so that an expression is found in a text if and only if it matches somewhere
in it (`isFound_iff`).

A function on sets is related to a relation on positions by `Carries`; each way to put expressions
together has one lemma about it. The rounds of `closure` suffice for a repetition without a limit
because a match never runs backward: a round that stays where it is can be left out, and what is
left has at most one round for each position.
-/

namespace PureLint.Regex

/-! ## Matches -/

/-- A relation followed a number of times. -/
def Steps (R : Nat → Nat → Prop) : Nat → Nat → Nat → Prop
  | 0 => Eq
  | n + 1 => Relation.Comp R (Steps R n)

/-- The characters beside a position of a text. -/
def spotAt (t : Text) (i : Nat) : Spot := ⟨if i = 0 then none else t[i - 1]?, t[i]?⟩

/-- The expression matches from one position of a text to another. A repetition that is to end
before it may end is made as often as it must. -/
def Spans (t : Text) : Regex → Nat → Nat → Prop
  | empty => Eq
  | chars c => fun i j => j = i + 1 ∧ ∃ ch, t[i]? = some ch ∧ c.has ch.toNat = true
  | look l => fun i j => i = j ∧ l.holds (spotAt t i) = true
  | cat a b => Relation.Comp (Spans t a) (Spans t b)
  | alt a b => fun i j => Spans t a i j ∨ Spans t b i j
  | rep r least most _ => fun i j =>
    ∃ n, least ≤ n ∧ (∀ m, most = some m → n ≤ max least m) ∧ Steps (Spans t r) n i j
  | group _ r => Spans t r

theorem Steps.add {R : Nat → Nat → Prop} {m n i j k : Nat} (h : Steps R m i j)
    (h' : Steps R n j k) : Steps R (m + n) i k := by
  induction m generalizing i with
  | zero =>
    obtain rfl : i = j := h
    rwa [Nat.zero_add]
  | succ m ih =>
    obtain ⟨i', hi, h⟩ := h
    rw [Nat.add_right_comm]
    exact ⟨i', hi, ih h⟩

theorem Steps.split {R : Nat → Nat → Prop} {m n i k : Nat} (h : Steps R (m + n) i k) :
    ∃ j, Steps R m i j ∧ Steps R n j k := by
  induction m generalizing i with
  | zero => exact ⟨i, rfl, by rwa [Nat.zero_add] at h⟩
  | succ m ih =>
    rw [Nat.add_right_comm] at h
    obtain ⟨i', hi, h⟩ := h
    obtain ⟨j, hj, hk⟩ := ih h
    exact ⟨j, ⟨i', hi, hj⟩, hk⟩

theorem Steps.preserves {R : Nat → Nat → Prop} {P : Nat → Prop} (hP : ∀ {i j}, R i j → P i → P j)
    {n i j : Nat} (h : Steps R n i j) (hi : P i) : P j := by
  induction n generalizing i with
  | zero => exact h ▸ hi
  | succ n ih =>
    obtain ⟨k, hk, h⟩ := h
    exact ih h (hP hk hi)

theorem Steps.le {R : Nat → Nat → Prop} (hR : ∀ {i j}, R i j → i ≤ j) {n i j : Nat}
    (h : Steps R n i j) : i ≤ j :=
  h.preserves (P := (i ≤ ·)) (fun hstep hi => Nat.le_trans hi (hR hstep)) (Nat.le_refl i)

theorem Steps.shorten {R : Nat → Nat → Prop} (hR : ∀ {i j}, R i j → i ≤ j) {n i j : Nat}
    (h : Steps R n i j) : ∃ m ≤ j - i, Steps R m i j := by
  induction n generalizing i with
  | zero => exact ⟨0, Nat.zero_le _, h⟩
  | succ n ih =>
    obtain ⟨k, hk, h⟩ := h
    obtain ⟨m, hm, hmj⟩ := ih h
    have hik : i ≤ k := hR hk
    have hkj : k ≤ j := h.le hR
    rcases Nat.eq_or_lt_of_le hik with rfl | hlt
    · exact ⟨m, hm, hmj⟩
    · exact ⟨m + 1, by omega, k, hk, hmj⟩

theorem Spans.le {t : Text} {r : Regex} {i j : Nat} (h : Spans t r i j) : i ≤ j := by
  induction r generalizing i j with
  | empty => exact Nat.le_of_eq h
  | chars c => exact h.1 ▸ Nat.le_succ i
  | look l => exact Nat.le_of_eq h.1
  | cat a b iha ihb =>
    obtain ⟨k, ha, hb⟩ := h
    exact Nat.le_trans (iha ha) (ihb hb)
  | alt a b iha ihb => exact h.elim iha ihb
  | rep r least most greedy ih =>
    obtain ⟨n, -, -, h⟩ := h
    exact h.le ih
  | group numbered r ih => exact ih h

theorem Spans.le_length {t : Text} {r : Regex} {i j : Nat} (h : Spans t r i j) (hi : i ≤ t.length) :
    j ≤ t.length := by
  induction r generalizing i j with
  | empty => exact h ▸ hi
  | chars c =>
    obtain ⟨rfl, ch, hch, -⟩ := h
    exact (List.getElem?_eq_some_iff.mp hch).1
  | look l => exact h.1 ▸ hi
  | cat a b iha ihb =>
    obtain ⟨k, ha, hb⟩ := h
    exact ihb hb (iha ha hi)
  | alt a b iha ihb => exact h.elim (iha · hi) (ihb · hi)
  | rep r least most greedy ih =>
    obtain ⟨n, -, -, h⟩ := h
    exact h.preserves (P := (· ≤ t.length)) ih hi
  | group numbered r ih => exact ih h hi

/-! ## Sets of positions -/

/-- The position is in the set. -/
def Marked (m : Positions) (i : Nat) : Prop := m[i]? = some true

theorem Marked.lt {m : Positions} {i : Nat} (h : Marked m i) : i < m.length :=
  (List.getElem?_eq_some_iff.mp h).1

theorem spotsFrom_getElem? (before : Option Char) (t : Text) (i : Nat) :
    (spotsFrom before t)[i]? =
      if i ≤ t.length then some ⟨if i = 0 then before else t[i - 1]?, t[i]?⟩ else none := by
  induction t generalizing before i with
  | nil => cases i <;> simp [spotsFrom]
  | cons c cs ih =>
    cases i with
    | zero => simp [spotsFrom]
    | succ i =>
      rw [spotsFrom, List.getElem?_cons_succ, ih]
      cases i <;> simp

theorem spots_getElem? (t : Text) (i : Nat) :
    (spots t)[i]? = if i ≤ t.length then some (spotAt t i) else none :=
  spotsFrom_getElem? none t i

theorem spotsFrom_length (before : Option Char) (t : Text) :
    (spotsFrom before t).length = t.length + 1 := by
  induction t generalizing before with
  | nil => rfl
  | cons c cs ih => rw [spotsFrom, List.length_cons, ih, List.length_cons]

@[simp] theorem spots_length (t : Text) : (spots t).length = t.length + 1 := spotsFrom_length none t

theorem marked_zipWith_spots {t : Text} {m : Positions} (hm : m.length = t.length + 1)
    (p : Spot → Bool) (i : Nat) :
    Marked (List.zipWith (fun here s => here && p s) m (spots t)) i ↔
      Marked m i ∧ p (spotAt t i) = true := by
  unfold Marked
  rw [List.getElem?_zipWith, spots_getElem?]
  by_cases hi : i ≤ t.length
  · rw [if_pos hi]
    cases h : m[i]? with
    | none => simp
    | some here => simp
  · have hnone : m[i]? = none := List.getElem?_eq_none (by omega)
    simp [hnone]

theorem marked_join {a b : Positions} (h : a.length = b.length) (i : Nat) :
    Marked (join a b) i ↔ Marked a i ∨ Marked b i := by
  unfold Marked join
  rw [List.getElem?_zipWith]
  by_cases hi : i < a.length
  · rw [List.getElem?_eq_getElem hi, List.getElem?_eq_getElem (h ▸ hi)]
    simp
  · rw [List.getElem?_eq_none (by omega), List.getElem?_eq_none (by omega)]
    simp

/-! ## Functions on sets -/

theorem times_eq_iterate {α : Type} [BEq α] [LawfulBEq α] (f : α → α) (n : Nat) (a : α) :
    times f n a = f^[n] a := by
  induction n generalizing a with
  | zero => rfl
  | succ n ih =>
    rw [times, Function.iterate_succ_apply]
    split
    · rename_i h
      have hfix : f a = a := by simpa using h
      rw [hfix, Function.iterate_fixed hfix]
    · exact ih (f a)

theorem closure_eq_iterate (f : Positions → Positions) (n : Nat) (m : Positions) :
    closure f n m = (fun m => join m (f m))^[n] m := by
  rw [← times_eq_iterate]
  induction n generalizing m with
  | zero => rfl
  | succ n ih => rw [closure, times, ih]

/-- On sets of `n` positions, the function carries a set along the relation. -/
structure Carries (n : Nat) (f : Positions → Positions) (R : Nat → Nat → Prop) : Prop where
  length_eq : ∀ {m : Positions}, m.length = n → (f m).length = n
  marked_iff : ∀ {m : Positions}, m.length = n → ∀ j, Marked (f m) j ↔ ∃ i, Marked m i ∧ R i j

namespace Carries

variable {n : Nat} {f g : Positions → Positions} {R S : Nat → Nat → Prop}

theorem congr (h : Carries n f R) (hRS : ∀ {i j}, i < n → (R i j ↔ S i j)) : Carries n f S where
  length_eq := h.length_eq
  marked_iff := by
    intro m hm j
    rw [h.marked_iff hm]
    exact exists_congr fun i => and_congr_right fun hi => hRS (hm ▸ hi.lt)

theorem refl : Carries n id Eq where
  length_eq hm := hm
  marked_iff hm j := by simp

theorem comp (hf : Carries n f R) (hg : Carries n g S) :
    Carries n (fun m => g (f m)) (Relation.Comp R S) where
  length_eq hm := hg.length_eq (hf.length_eq hm)
  marked_iff := by
    intro m hm j
    rw [hg.marked_iff (hf.length_eq hm)]
    constructor
    · rintro ⟨k, hk, hkj⟩
      obtain ⟨i, hi, hik⟩ := (hf.marked_iff hm k).mp hk
      exact ⟨i, hi, k, hik, hkj⟩
    · rintro ⟨i, hi, k, hik, hkj⟩
      exact ⟨k, (hf.marked_iff hm k).mpr ⟨i, hi, hik⟩, hkj⟩

theorem union (hf : Carries n f R) (hg : Carries n g S) :
    Carries n (fun m => join (f m) (g m)) fun i j => R i j ∨ S i j where
  length_eq hm := by rw [join, List.length_zipWith, hf.length_eq hm, hg.length_eq hm, Nat.min_self]
  marked_iff := by
    intro m hm j
    have hlen : (f m).length = (g m).length := by rw [hf.length_eq hm, hg.length_eq hm]
    rw [marked_join hlen, hf.marked_iff hm, hg.marked_iff hm, ← exists_or]
    exact exists_congr fun i => and_or_left.symm

theorem iterate (hf : Carries n f R) (k : Nat) : Carries n f^[k] (Steps R k) := by
  induction k with
  | zero => exact refl
  | succ k ih =>
    rw [Function.iterate_succ]
    exact hf.comp ih

theorem steps_or_stay {k i j : Nat} :
    Steps (fun i j => i = j ∨ R i j) k i j ↔ ∃ m ≤ k, Steps R m i j := by
  induction k generalizing i with
  | zero =>
    constructor
    · intro h
      exact ⟨0, Nat.le_refl 0, h⟩
    · rintro ⟨m, hm, h⟩
      obtain rfl : m = 0 := Nat.le_zero.mp hm
      exact h
  | succ k ih =>
    constructor
    · rintro ⟨i', rfl | hi, h⟩
      · obtain ⟨m, hm, h⟩ := ih.mp h
        exact ⟨m, Nat.le_succ_of_le hm, h⟩
      · obtain ⟨m, hm, h⟩ := ih.mp h
        exact ⟨m + 1, Nat.succ_le_succ hm, i', hi, h⟩
    · rintro ⟨m, hm, h⟩
      cases m with
      | zero => exact ⟨i, .inl rfl, ih.mpr ⟨0, Nat.zero_le k, h⟩⟩
      | succ m =>
        obtain ⟨i', hi, h⟩ := h
        exact ⟨i', .inr hi, ih.mpr ⟨m, Nat.le_of_succ_le_succ hm, h⟩⟩

theorem closure (hf : Carries n f R) (k : Nat) :
    Carries n (closure f k) fun i j => ∃ m ≤ k, Steps R m i j := by
  have hstep : Carries n (fun m => join m (f m)) fun i j => i = j ∨ R i j := refl.union hf
  rw [show Regex.closure f k = (fun m => join m (f m))^[k] from funext (closure_eq_iterate f k)]
  exact (hstep.iterate k).congr fun _ => steps_or_stay

end Carries

/-! ## The expressions -/

theorem carries_stepOver (t : Text) (c : CharClass) :
    Carries (t.length + 1) (stepOver (spots t) c) (Spans t (chars c)) where
  length_eq hm := by simp [stepOver, hm]
  marked_iff := by
    intro m hm j
    rw [stepOver]
    cases j with
    | zero =>
      constructor
      · intro h
        simp [Marked] at h
      · rintro ⟨i, -, hj, -⟩
        omega
    | succ j =>
      have hiff := marked_zipWith_spots hm (fun s => s.after.any fun ch => c.has ch.toNat) j
      unfold Marked at hiff ⊢
      rw [List.getElem?_cons_succ, List.getElem?_dropLast]
      constructor
      · intro h
        split at h
        · obtain ⟨hmark, hhas⟩ := hiff.mp h
          exact ⟨j, hmark, rfl, (Option.any_eq_true _ _).mp hhas⟩
        · contradiction
      · rintro ⟨i, hmark, hj, ch, hch, hhas⟩
        obtain rfl : j = i := Nat.succ.inj hj
        -- A character stands behind the position, so it is not the last one, which is dropped.
        have hlt : j < t.length := (List.getElem?_eq_some_iff.mp hch).1
        rw [if_pos (by simp [hm, hlt])]
        exact hiff.mpr ⟨hmark, by simp [spotAt, hch, hhas]⟩

theorem carries_keep (t : Text) (l : Look) :
    Carries (t.length + 1) (keep (spots t) l) (Spans t (look l)) where
  length_eq hm := by simp [keep, hm]
  marked_iff := by
    intro m hm j
    rw [keep, marked_zipWith_spots hm]
    constructor
    · rintro ⟨hj, hl⟩
      exact ⟨j, hj, rfl, hl⟩
    · rintro ⟨i, hi, rfl, hl⟩
      exact ⟨hi, hl⟩

/-- A repetition is made as often as it must, and then at most as often as there is room for. -/
theorem spans_rep_iff {t : Text} {r : Regex} {least : Nat} {most : Option Nat} {greedy : Bool}
    {i j : Nat} (hi : i ≤ t.length) :
    Spans t (rep r least most greedy) i j ↔
      ∃ k, Steps (Spans t r) least i k ∧
        ∃ m ≤ (match most with | some n => n - least | none => t.length + 1),
          Steps (Spans t r) m k j := by
  constructor
  · rintro ⟨n, hle, hmost, h⟩
    have hj : j ≤ t.length := h.preserves (P := (· ≤ t.length)) Spans.le_length hi
    obtain ⟨m, rfl⟩ := Nat.exists_eq_add_of_le hle
    obtain ⟨k, hk, hkj⟩ := h.split
    cases most with
    | some n =>
      have hn := hmost n rfl
      exact ⟨k, hk, m, by simp only; omega, hkj⟩
    | none =>
      obtain ⟨m', hm', hm'j⟩ := hkj.shorten Spans.le
      exact ⟨k, hk, m', by simp only; omega, hm'j⟩
  · rintro ⟨k, hk, m, hm, hj⟩
    refine ⟨least + m, Nat.le_add_right .., ?_, hk.add hj⟩
    rintro n rfl
    simp only at hm
    omega

/-- What `reach` computes are the ends of the matches that begin in the set. -/
theorem carries_reach (t : Text) (r : Regex) :
    Carries (t.length + 1) (reach (spots t) r) (Spans t r) := by
  induction r with
  | empty => exact Carries.refl
  | chars c => exact carries_stepOver t c
  | look l => exact carries_keep t l
  | cat a b iha ihb => exact iha.comp ihb
  | alt a b iha ihb => exact iha.union ihb
  | rep r least most greedy ih =>
    have htimes :
        Carries (t.length + 1) (times (reach (spots t) r) least) (Steps (Spans t r) least) := by
      rw [show times (reach (spots t) r) least = (reach (spots t) r)^[least] from
        funext (times_eq_iterate (reach (spots t) r) least)]
      exact ih.iterate least
    have hrounds :=
      htimes.comp (ih.closure (match most with | some n => n - least | none => (spots t).length))
    refine hrounds.congr fun hi => ?_
    rw [spots_length]
    exact (spans_rep_iff (Nat.le_of_lt_succ hi)).symm
  | group numbered r ih => exact ih

/-- An expression is found in a text exactly if it matches from one of its positions on. -/
theorem isFound_iff (r : Regex) (t : Text) :
    r.isFound t = true ↔ ∃ i j, i ≤ t.length ∧ Spans t r i j := by
  have hall : ∀ i, Marked ((spots t).map fun _ => true) i ↔ i ≤ t.length := by
    intro i
    rw [Marked, List.getElem?_map, spots_getElem?]
    by_cases hi : i ≤ t.length <;> simp [hi]
  have hlen : ((spots t).map fun _ => true).length = t.length + 1 := by simp
  have hany : r.isFound t = true ↔
      ∃ j, Marked (reach (spots t) r ((spots t).map fun _ => true)) j := by
    simp [isFound, Marked, List.mem_iff_getElem?]
  rw [hany, exists_comm]
  refine exists_congr fun j => ?_
  rw [(carries_reach t r).marked_iff hlen]
  simp only [hall]

end PureLint.Regex
