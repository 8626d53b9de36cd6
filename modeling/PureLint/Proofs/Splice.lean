import Mathlib.Data.List.Sort
import PureLint.Fixer
import PureLint.Proofs.ByteCut

/-!
# One pass makes the replacements one by one

`splice` sorts replacements and makes them in a single pass, leaving out those that begin before the
end of the last one it made or end beyond the text. `performed` lists the replacements it makes. For
replacements whose offsets are boundaries wherever they lie in the text, the pass succeeds, and its
output is the text in which the performed replacements are made one at a time from the last to the
first (`splice_eq_replaceEach`). So an earlier offset is still good when its turn comes.
-/

namespace PureLint.Fixer

/-! ## Sorting -/

theorem sortBy_eq_insertionSort {α : Type} (le : α → α → Bool) (l : List α) :
    sortBy le l = l.insertionSort fun a b => le a b = true := by
  have hinsert : ∀ (a : α) (bs : List α),
      insertBy le a bs = bs.orderedInsert (fun a b => le a b = true) a := by
    intro a bs
    induction bs with
    | nil => rfl
    | cons b bs ih => rw [insertBy, List.orderedInsert_cons, ih]
  induction l with
  | nil => rfl
  | cons a l ih => rw [sortBy, List.insertionSort_cons, ih, hinsert]

theorem sortBy_perm {α : Type} (le : α → α → Bool) (l : List α) : (sortBy le l).Perm l := by
  rw [sortBy_eq_insertionSort]
  exact List.perm_insertionSort _ l

theorem filter_sortBy {α : Type} {le : α → α → Bool} {p : α → Bool}
    (hp : ∀ a b, p a = true → p b = true → le a b = true)
    (l : List α) : (sortBy le l).filter p = l.filter p := by
  have hequal : (l.filter p).Pairwise fun a b => le a b = true := by
    apply List.pairwise_of_forall_mem_list
    intro a ha b hb
    exact hp a b (List.of_mem_filter ha) (List.of_mem_filter hb)
  -- They are in order as they stand, and what is in order stays as it is.
  have hsub : (l.filter p).Sublist (sortBy le l) := by
    rw [sortBy_eq_insertionSort]
    exact List.sublist_insertionSort hequal List.filter_sublist
  have hfilter := hsub.filter p
  simp only [List.filter_filter, Bool.and_self] at hfilter
  exact (hfilter.eq_of_length ((sortBy_perm le l).filter p).length_eq.symm).symm

theorem fixLe_iff {a b : Fix} :
    fixLe a b = true ↔ a.start < b.start ∨ (a.start = b.start ∧ a.stop ≤ b.stop) := by
  simp [fixLe]

theorem sortBy_fixLe_pairwise (fixes : List Fix) :
    (sortBy fixLe fixes).Pairwise fun a b => fixLe a b = true := by
  have htotal : Std.Total fun a b => fixLe a b = true :=
    ⟨fun a b => by simp only [fixLe_iff]; omega⟩
  have htrans : IsTrans Fix fun a b => fixLe a b = true :=
    ⟨fun a b c => by simp only [fixLe_iff]; omega⟩
  rw [sortBy_eq_insertionSort]
  exact List.pairwise_insertionSort _ fixes

/-! ## One replacement at a time -/

/-- Makes one replacement. -/
def replaceOne (f : Fix) (s : Text) : Option Text :=
  if f.start ≤ f.stop then
    match s.cutAt? f.start, s.cutAt? f.stop with
    | some (front, _), some (_, back) => some (front ++ f.replacement ++ back)
    | _, _ => none
  else none

/-- Makes replacements one after the other, each in the text that the one before it has left. -/
def replaceEach (fixes : List Fix) (s : Text) : Option Text :=
  fixes.foldlM (fun t f => replaceOne f t) s

theorem replaceOne_append {f : Fix} (front gone back : Text) (hstart : f.start = front.byteLength)
    (hstop : f.stop = (front ++ gone).byteLength) :
    replaceOne f (front ++ gone ++ back) = some (front ++ f.replacement ++ back) := by
  have hle : front.byteLength ≤ (front ++ gone).byteLength := by simp
  have hfront : Text.cutAt? front.byteLength (front ++ gone ++ back) =
      some (front, gone ++ back) := by
    rw [List.append_assoc, Text.cutAt?_append]
  rw [replaceOne, hstart, hstop, if_pos hle, hfront, Text.cutAt?_append]

theorem replaceEach_append (first second : List Fix) (s : Text) :
    replaceEach (first ++ second) s = (replaceEach first s).bind (replaceEach second) := by
  rw [replaceEach, List.foldlM_append]
  rfl

theorem replaceEach_singleton (f : Fix) (s : Text) : replaceEach [f] s = replaceOne f s := by
  simp [replaceEach]

/-! ## What the pass performs -/

/-- The replacements made by a pass that has come to `last`. -/
def performedFrom (source : Text) (last : Nat) : List Fix → List Fix
  | [] => []
  | f :: fs =>
    if f.start < last || source.byteLength < f.stop then performedFrom source last fs
    else f :: performedFrom source f.stop fs

/-- The replacements that `splice` makes, from left to right. -/
def performed (source : Text) (fixes : List Fix) : List Fix :=
  performedFrom source 0 (sortBy fixLe fixes)

/-- Replacements each of which begins where the one before it ends, or later, and ends within the
text. -/
def InLine (source : Text) (last : Nat) : List Fix → Prop
  | [] => True
  | f :: fs => last ≤ f.start ∧ f.stop ≤ source.byteLength ∧ InLine source f.stop fs

/-- The test by which the pass leaves a replacement out, the other way round. -/
theorem not_left_out_iff {source : Text} {last : Nat} {f : Fix} :
    ¬ (decide (f.start < last) || decide (source.byteLength < f.stop)) = true ↔
      last ≤ f.start ∧ f.stop ≤ source.byteLength := by
  simp only [Bool.or_eq_true, decide_eq_true_eq]
  omega

theorem performedFrom_sublist (source : Text) (last : Nat) (fs : List Fix) :
    (performedFrom source last fs).Sublist fs := by
  induction fs generalizing last with
  | nil => exact List.Sublist.refl _
  | cons f fs ih =>
    rw [performedFrom]
    split
    · exact (ih last).cons f
    · exact (ih f.stop).cons_cons f

theorem performed_sublist (source : Text) (fixes : List Fix) :
    (performed source fixes).Sublist (sortBy fixLe fixes) := performedFrom_sublist source 0 _

theorem mem_of_mem_performed {source : Text} {fixes : List Fix} {f : Fix}
    (h : f ∈ performed source fixes) : f ∈ fixes :=
  (sortBy_perm fixLe fixes).mem_iff.mp ((performed_sublist source fixes).subset h)

theorem inLine_performedFrom (source : Text) (last : Nat) (fs : List Fix) :
    InLine source last (performedFrom source last fs) := by
  induction fs generalizing last with
  | nil => trivial
  | cons f fs ih =>
    rw [performedFrom]
    split
    · exact ih last
    · rename_i hkept
      obtain ⟨hstart, hstop⟩ := not_left_out_iff.mp hkept
      exact ⟨hstart, hstop, ih f.stop⟩

/-- A pass over replacements in line leaves none out. -/
theorem performedFrom_of_inLine {source : Text} {last : Nat} {fs : List Fix}
    (h : InLine source last fs) : performedFrom source last fs = fs := by
  induction fs generalizing last with
  | nil => rfl
  | cons f fs ih =>
    obtain ⟨hstart, hstop, hline⟩ := h
    rw [performedFrom, if_neg (not_left_out_iff.mpr ⟨hstart, hstop⟩), ih hline]

theorem inLine_of_pairwise {source : Text} {last : Nat} {fs : List Fix}
    (hlast : ∀ f ∈ fs, last ≤ f.start)
    (hend : ∀ f ∈ fs, f.stop ≤ source.byteLength) (hfs : fs.Pairwise fun a b => a.stop ≤ b.start) :
    InLine source last fs := by
  induction fs generalizing last with
  | nil => trivial
  | cons f fs ih =>
    obtain ⟨hf, hrest⟩ := List.pairwise_cons.mp hfs
    refine ⟨hlast f List.mem_cons_self, hend f List.mem_cons_self, ih hf ?_ hrest⟩
    exact fun g hg => hend g (List.mem_cons_of_mem f hg)

/-- In a line every replacement ends before all that follow it begin. -/
theorem pairwise_of_inLine {source : Text} {last : Nat} {fs : List Fix}
    (hordered : ∀ f ∈ fs, f.start ≤ f.stop) (h : InLine source last fs) :
    (∀ f ∈ fs, last ≤ f.start ∧ f.stop ≤ source.byteLength) ∧ fs.Pairwise fun a b =>
      a.stop ≤ b.start := by
  induction fs generalizing last with
  | nil => exact ⟨by simp, List.Pairwise.nil⟩
  | cons f fs ih =>
    obtain ⟨hstart, hstop, hrest⟩ := h
    have hf := hordered f List.mem_cons_self
    obtain ⟨hbounds, hpairs⟩ := ih (fun g hg => hordered g (List.mem_cons_of_mem f hg)) hrest
    refine ⟨?_, List.pairwise_cons.mpr ⟨fun g hg => (hbounds g hg).1, hpairs⟩⟩
    intro g hg
    rcases List.mem_cons.mp hg with rfl | hg
    · exact ⟨hstart, hstop⟩
    · have hg' := hbounds g hg
      omega

/-- The pass gives the same text without the replacements that it leaves out. -/
theorem spliceFrom_performedFrom (source : Text) (last : Nat) (fs : List Fix) :
    spliceFrom source last (performedFrom source last fs) = spliceFrom source last fs := by
  induction fs generalizing last with
  | nil => rfl
  | cons f fs ih =>
    rw [performedFrom]
    split
    · rename_i hleft
      rw [ih, spliceFrom, if_pos hleft]
    · rename_i hkept
      rw [spliceFrom, spliceFrom, if_neg hkept, if_neg hkept, ih]

/-! ## The pass and the single replacements -/

/-- A replacement in order whose offsets are boundaries of the text as far as they lie in it. -/
structure WellPlaced (source : Text) (f : Fix) : Prop where
  ordered : f.start ≤ f.stop
  start_boundary : f.start ≤ source.byteLength → source.IsBoundary f.start
  stop_boundary : f.stop ≤ source.byteLength → source.IsBoundary f.stop

instance (source : Text) (f : Fix) : Decidable (WellPlaced source f) :=
  decidable_of_iff
    (f.start ≤ f.stop ∧ (f.start ≤ source.byteLength → source.IsBoundary f.start) ∧
      (f.stop ≤ source.byteLength → source.IsBoundary f.stop))
    ⟨fun h => ⟨h.1, h.2.1, h.2.2⟩, fun h => ⟨h.1, h.2, h.3⟩⟩

/-- A pass over replacements in line that has come to the end of `front` writes what the single
replacements write behind `front`. -/
theorem spliceFrom_of_inLine {front back : Text} {fs : List Fix}
    (hline : InLine (front ++ back) front.byteLength fs)
    (hplaced : ∀ f ∈ fs, WellPlaced (front ++ back) f) :
    ∃ out, spliceFrom (front ++ back) front.byteLength fs = some out ∧
      replaceEach fs.reverse (front ++ back) = some (front ++ out) := by
  induction fs generalizing front back with
  | nil => exact ⟨back, by rw [spliceFrom, Text.dropBytes?_append], rfl⟩
  | cons f fs ih =>
    obtain ⟨hstart, hstop, hrest⟩ := hline
    have hf := hplaced f List.mem_cons_self
    have hkeep := not_left_out_iff.mpr ⟨hstart, hstop⟩
    -- What is kept before the replacement, what it removes, and what lies behind it.
    obtain ⟨kept, tail, rfl, hkept⟩ :=
      (hf.start_boundary (Nat.le_trans hf.ordered hstop)).of_append hstart
    obtain ⟨gone, behind, rfl, hgone⟩ : ∃ gone behind, tail = gone ++ behind ∧
        (front ++ kept ++ gone).byteLength = f.stop := by
      refine Text.IsBoundary.of_append ?_ (hkept ▸ hf.ordered)
      simpa using hf.stop_boundary hstop
    have htext : front ++ (kept ++ (gone ++ behind)) = front ++ kept ++ gone ++ behind := by simp
    rw [htext] at hplaced hkeep hrest ⊢
    rw [← hgone] at hrest
    obtain ⟨out, hsplice, heach⟩ := ih hrest fun g hg => hplaced g (List.mem_cons_of_mem f hg)
    have hslice : Text.slice? front.byteLength f.start (front ++ kept ++ gone ++ behind) =
        some kept := by
      rw [← hkept, List.append_assoc _ gone behind]
      exact Text.slice?_append front kept (gone ++ behind)
    refine ⟨kept ++ f.replacement ++ out, ?_, ?_⟩
    · rw [spliceFrom, if_neg hkeep, hslice, ← hgone, hsplice]
    · rw [List.reverse_cons, replaceEach_append, heach, Option.bind_some, replaceEach_singleton,
        replaceOne_append (front ++ kept) gone out hkept.symm hgone.symm]
      simp

/-- The pass succeeds, and gives the text in which the replacements it performs are made one at a
time from the last to the first. -/
theorem splice_eq_replaceEach {source : Text} {fixes : List Fix}
    (h : ∀ f ∈ fixes, WellPlaced source f) :
    ∃ out, splice source fixes = some out ∧
      replaceEach (performed source fixes).reverse source = some out := by
  have hplaced : ∀ f ∈ performed source fixes, WellPlaced source f :=
    fun f hf => h f (mem_of_mem_performed hf)
  obtain ⟨out, hsplice, heach⟩ : ∃ out, spliceFrom source 0 (performed source fixes) = some out ∧
      replaceEach (performed source fixes).reverse source = some out :=
    @spliceFrom_of_inLine [] source _ (inLine_performedFrom source 0 _) hplaced
  rw [performed, spliceFrom_performedFrom] at hsplice
  exact ⟨out, hsplice, heach⟩

/-! ## When nothing is left out -/

/-- Whether two replacements have a place in common: each begins before the other ends. -/
def Crosses (a b : Fix) : Prop := a.start < b.stop ∧ b.start < a.stop

instance (a b : Fix) : Decidable (Crosses a b) := inferInstanceAs (Decidable (_ ∧ _))

theorem Crosses.symm {a b : Fix} (h : Crosses a b) : Crosses b a := ⟨h.2, h.1⟩

theorem stop_le_start {a b : Fix} (hb : b.start ≤ b.stop) (hle : fixLe a b = true)
    (h : ¬ Crosses a b) : a.stop ≤ b.start := by
  rw [fixLe_iff] at hle
  unfold Crosses at h
  omega

/-- The pass performs all replacements exactly if they end within the text and no two of them
cross. -/
theorem performed_perm_iff {source : Text} {fixes : List Fix}
    (hordered : ∀ f ∈ fixes, f.start ≤ f.stop) :
    (performed source fixes).Perm fixes ↔
      (∀ f ∈ fixes, f.stop ≤ source.byteLength) ∧ fixes.Pairwise fun a b => ¬ Crosses a b := by
  have hperm := sortBy_perm fixLe fixes
  have hsorted := sortBy_fixLe_pairwise fixes
  have hordered' : ∀ f ∈ sortBy fixLe fixes, f.start ≤ f.stop :=
    fun f hf => hordered f (hperm.mem_iff.mp hf)
  have hsymm : ∀ {a b : Fix}, ¬ Crosses a b → ¬ Crosses b a := fun h hc => h hc.symm
  constructor
  · -- What is performed is a sublist of the sorted replacements, and now has their length.
    intro hall
    have hself : performed source fixes = sortBy fixLe fixes :=
      (performed_sublist source fixes).eq_of_length (hall.trans hperm.symm).length_eq
    have hline : InLine source 0 (sortBy fixLe fixes) := hself ▸ inLine_performedFrom source 0 _
    obtain ⟨hbounds, hpairs⟩ := pairwise_of_inLine hordered' hline
    refine ⟨fun f hf => (hbounds f (hperm.mem_iff.mpr hf)).2, (hperm.pairwise_iff hsymm).mp ?_⟩
    exact hpairs.imp fun hab hc => by
      unfold Crosses at hc
      omega
  · rintro ⟨hend, hapart⟩
    have hpairs : (sortBy fixLe fixes).Pairwise fun a b => a.stop ≤ b.start := by
      have hapart' := (hperm.pairwise_iff hsymm).mpr hapart
      exact (hsorted.and hapart').imp_of_mem fun _ hb hab =>
        stop_le_start (hordered' _ hb) hab.1 hab.2
    have hline : InLine source 0 (sortBy fixLe fixes) :=
      inLine_of_pairwise (by simp) (fun f hf => hend f (hperm.mem_iff.mp hf)) hpairs
    rw [performed, performedFrom_of_inLine hline]
    exact hperm

end PureLint.Fixer
