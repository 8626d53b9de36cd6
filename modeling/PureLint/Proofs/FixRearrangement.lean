import Mathlib.Data.List.Pairwise
import PureLint.Proofs.FixTurns

/-!
# The order of reports does not matter where nothing overlaps

Reports are sorted to take turns, and the accepted replacements are sorted to be spliced. Both sorts
are stable, so that the order in which reports are made, and the order of the replacements in a
report, could show in the output. Where no two replacements overlap it does not: every report is
accepted (`accepted_of_apart`), and no two replacements begin and end at the same places, so that
there is only one order in which they can be spliced (`sortBy_fixLe_eq_of_perm`). Two insertions at
one place overlap; an insertion and a replacement that begin at one place do not, and the insertion
is made first.
-/

namespace PureLint.Fixer

/-! ## One order for splicing -/

theorem overlaps_of_fixLe {a b : Fix} (ha : a.start ≤ a.stop) (hab : fixLe a b = true)
    (hba : fixLe b a = true) : overlaps a b = true := by
  rw [fixLe_iff] at hab hba
  have hstart : b.start = a.start := by omega
  have hstop : b.stop = a.stop := by omega
  by_cases hinsertion : a.start = a.stop
  · simp [overlaps, Fix.isInsertion, hstart, hstop, hinsertion]
  · have hlt : a.start < a.stop := by omega
    simp [overlaps, Fix.isInsertion, hstart, hstop, hinsertion, hlt]

/-- Replacements that do not overlap are sorted in one way, whatever their order was. -/
theorem sortBy_fixLe_eq_of_perm {fixes fixes' : List Fix} (hperm : fixes'.Perm fixes)
    (hordered : ∀ f ∈ fixes, f.start ≤ f.stop)
    (hapart : fixes.Pairwise fun f g => overlaps f g = false) :
    sortBy fixLe fixes' = sortBy fixLe fixes := by
  have hsorted := sortBy_perm fixLe fixes
  have hsorted' := (sortBy_perm fixLe fixes').trans hperm
  apply List.Perm.eq_of_pairwise _ (sortBy_fixLe_pairwise fixes') (sortBy_fixLe_pairwise fixes)
    (hsorted'.trans hsorted.symm)
  intro f g hf hg hfg hgf
  by_contra hne
  have hsymm : Std.Symm fun f g => overlaps f g = false :=
    ⟨fun a b h => (overlaps_comm b a).trans h⟩
  have hfixes : f ∈ fixes := hsorted'.mem_iff.mp hf
  have hnot : overlaps f g = false := hapart.forall hfixes (hsorted.mem_iff.mp hg) hne
  rw [overlaps_of_fixLe (hordered f hfixes) hfg hgf] at hnot
  cases hnot

theorem splice_eq_of_perm {source : Text} {fixes fixes' : List Fix} (hperm : fixes'.Perm fixes)
    (hordered : ∀ f ∈ fixes, f.start ≤ f.stop)
    (hapart : fixes.Pairwise fun f g => overlaps f g = false) :
    splice source fixes' = splice source fixes := by
  rw [splice, splice, sortBy_fixLe_eq_of_perm hperm hordered hapart]

/-! ## Reports that are all accepted -/

theorem acceptFrom_of_apart {before ds : List Diagnostic}
    (hbefore : ∀ d ∈ ds, ∀ e ∈ before, Apart d e)
    (hapart : ds.Pairwise Apart) : acceptFrom before ds = ds := by
  induction ds generalizing before with
  | nil => rfl
  | cons d ds ih =>
    obtain ⟨hd, hrest⟩ := List.pairwise_cons.mp hapart
    have hfree : conflicts before d = false :=
      conflicts_eq_false_iff.mpr (hbefore d List.mem_cons_self)
    rw [acceptFrom, hfree]
    simp only [Bool.false_eq_true, if_false]
    rw [ih _ hrest]
    intro e he c hc
    rcases List.mem_append.mp hc with hc | hc
    · exact hbefore e (List.mem_cons_of_mem d he) c hc
    · rw [List.mem_singleton.mp hc]
      exact (hd e he).symm

theorem accepted_of_apart {ds : List Diagnostic} (h : ds.Pairwise Apart) :
    accepted ds = queue ds := by
  have hqueue : (queue ds).Pairwise Apart :=
    ((sortBy_perm _ _).pairwise_iff Apart.symm).mpr (h.filter _)
  exact acceptFrom_of_apart (by simp) hqueue

theorem fixesOf_perm {ds es : List Diagnostic} (h : ds.Perm es) : (fixesOf ds).Perm (fixesOf es) :=
  h.flatMap_right _

theorem fixesOf_filter_isFixable (ds : List Diagnostic) :
    fixesOf (ds.filter (·.isFixable)) = fixesOf ds := by
  induction ds with
  | nil => rfl
  | cons d ds ih =>
    cases hd : d.isFixable with
    | true => simp_all [fixesOf]
    | false =>
      have hnone : d.fixes = [] := by simpa [Diagnostic.isFixable] using hd
      simp_all [fixesOf]

theorem fixesOf_queue_perm (ds : List Diagnostic) : (fixesOf (queue ds)).Perm (fixesOf ds) := by
  have h := fixesOf_perm (sortBy_perm (fun a b => decide (firstStart a.fixes ≤ firstStart b.fixes))
    (ds.filter (·.isFixable)))
  rwa [fixesOf_filter_isFixable] at h

/-- Where no two replacements overlap, all of them are spliced and no report is skipped. -/
theorem applyFixes_of_apart {source : Text} {ds : List Diagnostic}
    (hordered : ∀ f ∈ fixesOf ds, f.start ≤ f.stop)
    (hapart : (fixesOf ds).Pairwise fun f g => overlaps f g = false) :
    applyFixes source ds = (splice source (fixesOf ds)).map fun output =>
      ⟨output, ds.countP (·.isFixable), 0⟩ := by
  have haccepted : accepted ds = queue ds := accepted_of_apart (List.pairwise_flatMap.mp hapart).2
  have hnone : (rejected ds).length = 0 := by
    have hsum := length_accepted_add_length_rejected ds
    rw [haccepted, length_queue] at hsum
    omega
  rw [applyFixes_eq, hnone, haccepted, length_queue,
    splice_eq_of_perm (fixesOf_queue_perm ds) hordered hapart]

/-! ## Other orders -/

/-- `e` is the report `d` with its replacements in some order. -/
def Reordered (d e : Diagnostic) : Prop := e.fixes.Perm d.fixes ∧ e = { d with fixes := e.fixes }

/-- `es` are the reports of `ds` in some order, each with its replacements in some order. -/
def Rearranged (ds es : List Diagnostic) : Prop :=
  ∃ mid, ds.Perm mid ∧ List.Forall₂ Reordered mid es

theorem Reordered.isFixable_eq {d e : Diagnostic} (h : Reordered d e) :
    e.isFixable = d.isFixable := by
  rw [Diagnostic.isFixable, Diagnostic.isFixable, h.1.isEmpty_eq]

theorem fixesOf_perm_of_reordered {ds es : List Diagnostic} (h : List.Forall₂ Reordered ds es) :
    (fixesOf es).Perm (fixesOf ds) := by
  induction h with
  | nil => exact .refl _
  | cons hd _ ih => exact hd.1.append ih

theorem countP_of_reordered {ds es : List Diagnostic} (h : List.Forall₂ Reordered ds es) :
    es.countP (·.isFixable) = ds.countP (·.isFixable) := by
  induction h with
  | nil => rfl
  | cons hd _ ih => rw [List.countP_cons, List.countP_cons, ih, hd.isFixable_eq]

namespace Rearranged

variable {ds es : List Diagnostic}

theorem fixesOf_perm (h : Rearranged ds es) : (fixesOf es).Perm (fixesOf ds) := by
  obtain ⟨mid, hperm, hforall⟩ := h
  exact (fixesOf_perm_of_reordered hforall).trans (Fixer.fixesOf_perm hperm.symm)

theorem countP_eq (h : Rearranged ds es) : es.countP (·.isFixable) = ds.countP (·.isFixable) := by
  obtain ⟨mid, hperm, hforall⟩ := h
  rw [countP_of_reordered hforall, hperm.countP_eq]

end Rearranged

/-- If all replacements lie within the text at boundaries and no two of them overlap, then all are
made and no report is skipped, and the result is the same for the same reports in any order with
their replacements in any order. -/
theorem applyFixes_rearranged (source : Text) (ds : List Diagnostic)
    (hplaced : ∀ d ∈ ds, ∀ f ∈ d.fixes, f.start ≤ f.stop ∧ f.stop ≤ source.byteLength ∧
      source.IsBoundary f.start ∧ source.IsBoundary f.stop)
    (hapart : (fixesOf ds).Pairwise fun f g => overlaps f g = false) :
    ∃ r order, applyFixes source ds = some r ∧ r.applied = ds.countP (·.isFixable) ∧ r.skipped = 0 ∧
      order.Perm (fixesOf ds) ∧ order.Pairwise (fun a b => Precedes b a) ∧
        replaceEach order source = some r.output ∧
      ∀ es, Rearranged ds es → applyFixes source es = some r := by
  have hplaced' : ∀ f ∈ fixesOf ds, f.start ≤ f.stop ∧ f.stop ≤ source.byteLength ∧
      source.IsBoundary f.start ∧ source.IsBoundary f.stop := by
    intro f hf
    obtain ⟨d, hd, hf⟩ := mem_fixesOf.mp hf
    exact hplaced d hd f hf
  have hordered : ∀ f ∈ fixesOf ds, f.start ≤ f.stop := fun f hf => (hplaced' f hf).1
  have hall : (performed source (fixesOf ds)).Perm (fixesOf ds) :=
    (performed_perm_iff hordered).mpr
      ⟨fun f hf => (hplaced' f hf).2.1, hapart.imp not_crosses_of_overlaps⟩
  obtain ⟨out, hsplice, heach⟩ : ∃ out, splice source (fixesOf ds) = some out ∧
      replaceEach (performed source (fixesOf ds)).reverse source = some out := by
    apply splice_eq_replaceEach
    intro f hf
    obtain ⟨hf, _, hstart, hstop⟩ := hplaced' f hf
    exact ⟨hf, fun _ => hstart, fun _ => hstop⟩
  refine ⟨⟨out, ds.countP (·.isFixable), 0⟩, (performed source (fixesOf ds)).reverse, ?_, rfl, rfl,
    (List.reverse_perm _).trans hall, ?_, heach, ?_⟩
  · rw [applyFixes_of_apart hordered hapart, hsplice]
    rfl
  · exact List.pairwise_reverse.mpr (performed_pairwise_precedes hordered hapart hall)
  · intro es hes
    have hperm := hes.fixesOf_perm
    have hordered' : ∀ f ∈ fixesOf es, f.start ≤ f.stop :=
      fun f hf => hordered f (hperm.mem_iff.mp hf)
    have hapart' : (fixesOf es).Pairwise fun f g => overlaps f g = false := by
      refine (hperm.pairwise_iff ?_).mpr hapart
      intro a b h
      rwa [overlaps_comm]
    rw [applyFixes_of_apart hordered' hapart', hes.countP_eq,
      splice_eq_of_perm hperm hordered hapart, hsplice]
    rfl

/-- Reports on `aéb`: one puts a text before `é` and replaces it, one has nothing to replace, and
one replaces what follows. -/
def neighbouringReports : List Diagnostic :=
  [mending [Fix.insert 1 ['x'], Fix.replace ⟨1, 3⟩ ['e']], mending [],
    mending [Fix.replace ⟨3, 4⟩ ['c']]]

/-- The same reports the other way round. -/
def neighboursReversed : List Diagnostic :=
  [mending [Fix.replace ⟨3, 4⟩ ['c']], mending [],
    mending [Fix.replace ⟨1, 3⟩ ['e'], Fix.insert 1 ['x']]]

theorem applyFixes_neighbouringReports :
    Rearranged neighbouringReports neighboursReversed ∧
      applyFixes ['a', 'é', 'b'] neighbouringReports = some ⟨['a', 'x', 'e', 'c'], 2, 0⟩ ∧
      applyFixes ['a', 'é', 'b'] neighboursReversed = some ⟨['a', 'x', 'e', 'c'], 2, 0⟩ := by
  obtain ⟨r, _, hr, _, _, _, _, _, hsame⟩ :=
    applyFixes_rearranged ['a', 'é', 'b'] neighbouringReports (by decide) (by decide)
  have hout : applyFixes ['a', 'é', 'b'] neighbouringReports = some ⟨['a', 'x', 'e', 'c'], 2, 0⟩ :=
    by decide
  have hreversed : Rearranged neighbouringReports neighboursReversed :=
    ⟨neighbouringReports.reverse, (List.reverse_perm _).symm,
      .cons ⟨.refl _, rfl⟩ (.cons ⟨.refl _, rfl⟩ (.cons ⟨.swap _ _ _, rfl⟩ .nil))⟩
  exact ⟨hreversed, hout, (hsame _ hreversed).trans (hr.symm.trans hout)⟩

end PureLint.Fixer
