import Mathlib.Data.Fintype.Card
import Mathlib.Data.List.FinRange
import Mathlib.Order.Minimal
import PureLint.Proofs.FixSelection

/-!
# Reports take turns

`applyFixes` takes the reports that have replacements in turn: by the place at which the first of
their replacements begins, and as they were made where these places are equal (`queue_inTurn`). The
report at a place of this order is accepted exactly if it overlaps none that was accepted before it
(`chosenPlaces_isGreedy`). That alone settles the choice (`IsGreedy.unique`), and everything else
follows from it: no two chosen reports overlap, a report that is left out overlaps a chosen one
before it, and so nothing can be added to the choice.

What is chosen are places in the order and not reports, because the same report can be made twice.
-/

namespace PureLint.Fixer

/-! ## The order -/

/-- `order` lists the reports of `ds` that have replacements by where the first of these begins.
Reports that begin at the same place stand in the order of `ds`. -/
structure InTurn (ds order : List Diagnostic) : Prop where
  perm : order.Perm (ds.filter (·.isFixable))
  least : ∀ d ∈ order, IsLeast {n | ∃ f ∈ d.fixes, f.start = n} (firstStart d.fixes)
  sorted : order.Pairwise fun d e => firstStart d.fixes ≤ firstStart e.fixes
  stable : ∀ n, order.filter (fun d => firstStart d.fixes = n) =
    (ds.filter (·.isFixable)).filter fun d => firstStart d.fixes = n

theorem firstStart_cons (f : Fix) {fs : List Fix} (h : fs ≠ []) :
    firstStart (f :: fs) = min f.start (firstStart fs) := by
  cases fs with
  | nil => exact absurd rfl h
  | cons g gs => rfl

theorem isLeast_firstStart {fixes : List Fix} (h : fixes ≠ []) :
    IsLeast {n | ∃ f ∈ fixes, f.start = n} (firstStart fixes) := by
  induction fixes with
  | nil => exact absurd rfl h
  | cons f fs ih =>
    by_cases hfs : fs = []
    · subst hfs
      simp [firstStart, IsLeast, lowerBounds]
    · obtain ⟨⟨a, ha, hstart⟩, hbound⟩ := ih hfs
      rw [firstStart_cons f hfs]
      refine ⟨?_, ?_⟩
      · rcases Nat.le_total f.start (firstStart fs) with hle | hle
        · exact ⟨f, List.mem_cons_self, (Nat.min_eq_left hle).symm⟩
        · exact ⟨a, List.mem_cons_of_mem f ha, hstart.trans (Nat.min_eq_right hle).symm⟩
      · intro n hn
        obtain ⟨b, hb, rfl⟩ := hn
        rcases List.mem_cons.mp hb with rfl | hb
        · exact Nat.min_le_left _ _
        · exact Nat.le_trans (Nat.min_le_right _ _) (hbound ⟨b, hb, rfl⟩)

section

variable {α : Type} (key : α → Nat)

theorem sortBy_key_pairwise (l : List α) :
    (sortBy (fun a b => decide (key a ≤ key b)) l).Pairwise fun a b => key a ≤ key b := by
  have htotal : Std.Total fun a b => decide (key a ≤ key b) = true := ⟨fun a b => by simp; omega⟩
  have htrans : IsTrans α fun a b => decide (key a ≤ key b) = true := ⟨fun a b c => by simp; omega⟩
  rw [sortBy_eq_insertionSort]
  exact (List.pairwise_insertionSort _ l).imp of_decide_eq_true

/-- Sorting by a number keeps the order of those for which it is the same. -/
theorem filter_sortBy_key (l : List α) (n : Nat) :
    (sortBy (fun a b => decide (key a ≤ key b)) l).filter (fun a => key a = n) = l.filter fun a =>
      key a = n := by
  apply filter_sortBy
  intro a b ha hb
  simp only [decide_eq_true_eq] at ha hb ⊢
  omega

end

theorem queue_inTurn (ds : List Diagnostic) : InTurn ds (queue ds) where
  perm := sortBy_perm _ _
  least := by
    intro d hd
    have hfixable : d.isFixable = true := List.of_mem_filter ((sortBy_perm _ _).mem_iff.mp hd)
    apply isLeast_firstStart
    simpa [Diagnostic.isFixable] using hfixable
  sorted := sortBy_key_pairwise (fun d : Diagnostic => firstStart d.fixes) _
  stable := filter_sortBy_key (fun d : Diagnostic => firstStart d.fixes) _

/-! ## The choice -/

/-- Whether no replacement of one report overlaps one of another. -/
def Apart (d e : Diagnostic) : Prop := ∀ f ∈ d.fixes, ∀ g ∈ e.fixes, overlaps f g = false

theorem Apart.symm {d e : Diagnostic} (h : Apart d e) : Apart e d := by
  intro g hg f hf
  rw [overlaps_comm]
  exact h f hf g hg

theorem conflicts_eq_false_iff {others : List Diagnostic} {d : Diagnostic} :
    conflicts others d = false ↔ ∀ e ∈ others, Apart d e := by
  simp only [conflicts, List.any_eq_false, Bool.not_eq_true, mem_fixesOf, Apart]
  refine ⟨?_, ?_⟩
  · intro h e he f hf g hg
    exact h f hf g ⟨e, he, hg⟩
  · intro h f hf g hg
    obtain ⟨e, he, hg⟩ := hg
    exact h e he f hf g hg

/-- Whether the reports at the given places do not overlap. -/
def KeepsApart (order : List Diagnostic) (places : Finset (Fin order.length)) : Prop :=
  ∀ i ∈ places, ∀ j ∈ places, i ≠ j → Apart (order.get i) (order.get j)

/-- Whether a place is chosen exactly if the report there overlaps none at a chosen place before
it. -/
def IsGreedy (order : List Diagnostic) (chosen : Finset (Fin order.length)) : Prop :=
  ∀ i, i ∈ chosen ↔ ∀ j ∈ chosen, j < i → Apart (order.get i) (order.get j)

namespace IsGreedy

variable {order : List Diagnostic} {chosen : Finset (Fin order.length)}

theorem keepsApart (h : IsGreedy order chosen) : KeepsApart order chosen := by
  intro i hi j hj hne
  rcases lt_or_gt_of_ne hne with hlt | hlt
  · exact ((h j).mp hj i hi hlt).symm
  · exact (h i).mp hi j hj hlt

theorem exists_not_apart (h : IsGreedy order chosen) {i : Fin order.length} (hi : i ∉ chosen) :
    ∃ j ∈ chosen, j < i ∧ ¬ Apart (order.get i) (order.get j) := by
  rw [h i] at hi
  push Not at hi
  exact hi

/-- A place that was added would hold a report that overlaps a chosen one. -/
theorem maximal (h : IsGreedy order chosen) : Maximal (KeepsApart order) chosen := by
  refine ⟨h.keepsApart, ?_⟩
  intro places hapart hsub i hi
  by_contra hnot
  obtain ⟨j, hj, hlt, hoverlap⟩ := h.exists_not_apart hnot
  exact hoverlap (hapart i hi j (hsub hj) (ne_of_gt hlt))

/-- Whether a place is chosen is settled by what is chosen before it, so that there is only one such
choice. -/
theorem unique {other : Finset (Fin order.length)} (h : IsGreedy order chosen)
    (hother : IsGreedy order other) : other = chosen := by
  ext i
  induction i using WellFoundedLT.induction with
  | ind i ih =>
    rw [h i, hother i]
    refine ⟨?_, ?_⟩
    · intro hi j hj hlt
      exact hi j ((ih j hlt).mpr hj) hlt
    · intro hi j hj hlt
      exact hi j ((ih j hlt).mp hj) hlt

end IsGreedy

/-! ## What is accepted -/

/-- Whether the report at a place is accepted. -/
def isTaken (order : List Diagnostic) (i : Fin order.length) : Bool :=
  !conflicts (acceptFrom [] (order.take i)) (order.get i)

/-- The places whose reports are accepted. -/
def chosenPlaces (order : List Diagnostic) : Finset (Fin order.length) :=
  ((List.finRange order.length).filter (isTaken order)).toFinset

/-- The reports at the given places. -/
def reportsAt (order : List Diagnostic) (places : Finset (Fin order.length)) : List Diagnostic :=
  ((List.finRange order.length).filter (· ∈ places)).map order.get

theorem mem_chosenPlaces {order : List Diagnostic} {i : Fin order.length} :
    i ∈ chosenPlaces order ↔ isTaken order i = true := by
  simp [chosenPlaces]

theorem acceptFrom_append (before ds es : List Diagnostic) :
    acceptFrom before (ds ++ es) =
      acceptFrom before ds ++ acceptFrom (before ++ acceptFrom before ds) es := by
  induction ds generalizing before with
  | nil => simp [acceptFrom]
  | cons d ds ih =>
    simp only [List.cons_append, acceptFrom]
    split
    · exact ih before
    · rw [ih (before ++ [d])]
      simp

/-- What is accepted among the first reports are those that are taken when their turn comes. -/
theorem acceptFrom_take (order : List Diagnostic) {n : Nat} (hn : n ≤ order.length) :
    acceptFrom [] (order.take n) =
      (((List.finRange order.length).take n).filter (isTaken order)).map order.get := by
  induction n with
  | zero => rfl
  | succ n ih =>
    have hlt : n < order.length := hn
    have htake : order.take (n + 1) = order.take n ++ [order.get ⟨n, hlt⟩] :=
      List.take_succ_eq_append_getElem hlt
    have hplaces : (List.finRange order.length).take (n + 1) =
        (List.finRange order.length).take n ++ [⟨n, hlt⟩] := by
      rw [List.take_succ_eq_append_getElem (by simpa using hlt), List.getElem_finRange]
      rfl
    have hlast : acceptFrom (acceptFrom [] (order.take n)) [order.get ⟨n, hlt⟩] =
        (List.filter (isTaken order) [⟨n, hlt⟩]).map order.get := by
      show (if conflicts (acceptFrom [] (order.take n)) (order.get ⟨n, hlt⟩)
        then [] else [order.get ⟨n, hlt⟩]) = _
      have htaken : isTaken order ⟨n, hlt⟩ =
          !conflicts (acceptFrom [] (order.take n)) (order.get ⟨n, hlt⟩) := rfl
      rw [List.filter_singleton, htaken]
      cases conflicts (acceptFrom [] (order.take n)) (order.get ⟨n, hlt⟩) <;> rfl
    rw [htake, acceptFrom_append, hplaces, List.filter_append, List.map_append, ← ih hlt.le,
      List.nil_append, hlast]

theorem mem_take_finRange {n k : Nat} {j : Fin n} : j ∈ (List.finRange n).take k ↔ j < k := by
  rw [List.mem_take_iff_getElem]
  simp only [List.getElem_finRange, List.length_finRange]
  refine ⟨?_, ?_⟩
  · intro h
    obtain ⟨i, hi, rfl⟩ := h
    show i < k
    omega
  · intro h
    exact ⟨j, by omega, rfl⟩

theorem mem_acceptFrom_take {order : List Diagnostic} {i : Fin order.length} {d : Diagnostic} :
    d ∈ acceptFrom [] (order.take i) ↔ ∃ j ∈ chosenPlaces order, j < i ∧ order.get j = d := by
  rw [acceptFrom_take order i.isLt.le]
  simp only [List.mem_map, List.mem_filter, mem_take_finRange, mem_chosenPlaces, Fin.val_fin_lt]
  refine ⟨?_, ?_⟩
  · intro h
    obtain ⟨j, ⟨hlt, htaken⟩, hd⟩ := h
    exact ⟨j, htaken, hlt, hd⟩
  · intro h
    obtain ⟨j, htaken, hlt, hd⟩ := h
    exact ⟨j, ⟨hlt, htaken⟩, hd⟩

theorem acceptFrom_eq_reportsAt (order : List Diagnostic) :
    acceptFrom [] order = reportsAt order (chosenPlaces order) := by
  have hall := acceptFrom_take order (Nat.le_refl _)
  rw [List.take_length, List.take_of_length_le (by simp)] at hall
  rw [hall, reportsAt]
  congr 1
  apply List.filter_congr
  intro i _
  simp [mem_chosenPlaces]

theorem chosenPlaces_isGreedy (order : List Diagnostic) : IsGreedy order (chosenPlaces order) := by
  intro i
  rw [mem_chosenPlaces, isTaken, Bool.not_eq_true', conflicts_eq_false_iff]
  refine ⟨?_, ?_⟩
  · intro h j hj hlt
    exact h (order.get j) (mem_acceptFrom_take.mpr ⟨j, hj, hlt, rfl⟩)
  · intro h e he
    obtain ⟨j, hj, hlt, rfl⟩ := mem_acceptFrom_take.mp he
    exact h j hj hlt

theorem length_reportsAt (order : List Diagnostic) (places : Finset (Fin order.length)) :
    (reportsAt order places).length = places.card := by
  have hnodup : ((List.finRange order.length).filter (· ∈ places)).Nodup :=
    (List.nodup_finRange _).filter _
  have hplaces : ((List.finRange order.length).filter (· ∈ places)).toFinset = places := by
    ext i
    simp
  rw [reportsAt, List.length_map, ← List.toFinset_card_of_nodup hnodup, hplaces]

theorem length_accepted (ds : List Diagnostic) :
    (accepted ds).length = (chosenPlaces (queue ds)).card := by
  rw [accepted, acceptFrom_eq_reportsAt, length_reportsAt]

theorem length_rejected (ds : List Diagnostic) :
    (rejected ds).length = (chosenPlaces (queue ds))ᶜ.card := by
  have hsum := length_accepted_add_length_rejected ds
  rw [← length_queue, length_accepted] at hsum
  rw [Finset.card_compl, Fintype.card_fin]
  omega

/-- Reports with replacements take turns by where they begin, and as they were made where they begin
at the same place. What is spliced are the replacements of the greedy choice among them, and the
counts are those of the choice and of the rest. Chosen reports do not overlap, each of the rest
overlaps a chosen one before it, and nothing can be added. -/
theorem applyFixes_takes_turns (source : Text) (ds : List Diagnostic) :
    ∃ (order : List Diagnostic) (chosen : Finset (Fin order.length)),
      InTurn ds order ∧ IsGreedy order chosen ∧ (∀ other, IsGreedy order other → other = chosen) ∧
      applyFixes source ds = (splice source (fixesOf (reportsAt order chosen))).map (fun output =>
        ⟨output, chosen.card, chosenᶜ.card⟩) ∧
      chosen.card + chosenᶜ.card = ds.countP (·.isFixable) ∧
      KeepsApart order chosen ∧
      (∀ i ∉ chosen, ∃ j ∈ chosen, j < i ∧ ¬ Apart (order.get i) (order.get j)) ∧
      Maximal (KeepsApart order) chosen := by
  have hgreedy := chosenPlaces_isGreedy (queue ds)
  refine ⟨queue ds, chosenPlaces (queue ds), queue_inTurn ds, hgreedy, fun _ => hgreedy.unique,
    ?_, ?_, hgreedy.keepsApart, fun _ => hgreedy.exists_not_apart, hgreedy.maximal⟩
  · rw [applyFixes_eq, length_accepted, length_rejected, accepted, acceptFrom_eq_reportsAt]
  · rw [Finset.card_add_card_compl, Fintype.card_fin, length_queue]

end PureLint.Fixer
