import PureLint.Proofs.Splice

/-!
# Which reports are mended

The reports that have replacements are considered in the order in which their first replacements
begin. A report is accepted if none of its replacements overlaps one of a report accepted before,
and rejected otherwise. `applyFixes` splices the replacements of the accepted reports and counts
both kinds (`applyFixes_eq`).

Replacements of different accepted reports never cross, so that splicing leaves one out only for
what a report does by itself: it reaches beyond the text, or two of its own replacements cross.
Where reports do neither, `applyFixes` makes all accepted replacements, and it is the same to make
them one at a time from the last to the first.
-/

namespace PureLint.Fixer

/-! ## Accepted and rejected reports -/

/-- The replacements of reports. -/
def fixesOf (ds : List Diagnostic) : List Fix := ds.flatMap (·.fixes)

/-- Whether a report has a replacement that overlaps one of other reports. -/
def conflicts (others : List Diagnostic) (d : Diagnostic) : Bool :=
  d.fixes.any fun f => (fixesOf others).any fun g => overlaps f g

/-- The reports accepted in order, after those in `before` were accepted. -/
def acceptFrom (before : List Diagnostic) : List Diagnostic → List Diagnostic
  | [] => []
  | d :: ds =>
    if conflicts before d then acceptFrom before ds else d :: acceptFrom (before ++ [d]) ds

/-- The reports rejected in order, after those in `before` were accepted. -/
def rejectFrom (before : List Diagnostic) : List Diagnostic → List Diagnostic
  | [] => []
  | d :: ds =>
    if conflicts before d then d :: rejectFrom before ds else rejectFrom (before ++ [d]) ds

/-- The reports that have replacements, the one that begins first in front. -/
def queue (ds : List Diagnostic) : List Diagnostic :=
  sortBy (fun a b => decide (firstStart a.fixes ≤ firstStart b.fixes)) (ds.filter (·.isFixable))

/-- The reports whose replacements are made. -/
def accepted (ds : List Diagnostic) : List Diagnostic := acceptFrom [] (queue ds)

/-- The reports that have replacements but are passed over. -/
def rejected (ds : List Diagnostic) : List Diagnostic := rejectFrom [] (queue ds)

theorem fixesOf_append (ds es : List Diagnostic) : fixesOf (ds ++ es) = fixesOf ds ++ fixesOf es :=
  List.flatMap_append

theorem mem_fixesOf {ds : List Diagnostic} {f : Fix} : f ∈ fixesOf ds ↔ ∃ d ∈ ds, f ∈ d.fixes :=
  List.mem_flatMap

theorem acceptFrom_sublist (before ds : List Diagnostic) : (acceptFrom before ds).Sublist ds := by
  induction ds generalizing before with
  | nil => exact List.Sublist.refl _
  | cons d ds ih =>
    rw [acceptFrom]
    split
    · exact (ih before).cons d
    · exact (ih (before ++ [d])).cons_cons d

theorem mem_of_mem_accepted {ds : List Diagnostic} {d : Diagnostic} (h : d ∈ accepted ds) :
    d ∈ ds := by
  have hqueue : d ∈ queue ds := (acceptFrom_sublist [] _).subset h
  exact List.mem_of_mem_filter ((sortBy_perm _ _).mem_iff.mp hqueue)

theorem forall_fixesOf_accepted {P : Fix → Prop} {ds : List Diagnostic}
    (h : ∀ d ∈ ds, ∀ f ∈ d.fixes, P f) : ∀ f ∈ fixesOf (accepted ds), P f := by
  intro f hf
  obtain ⟨d, hd, hf⟩ := mem_fixesOf.mp hf
  exact h d (mem_of_mem_accepted hd) f hf

theorem length_queue (ds : List Diagnostic) : (queue ds).length = ds.countP (·.isFixable) := by
  rw [queue, (sortBy_perm _ _).length_eq, List.countP_eq_length_filter]

theorem acceptFrom_append_rejectFrom_perm (before ds : List Diagnostic) :
    (acceptFrom before ds ++ rejectFrom before ds).Perm ds := by
  induction ds generalizing before with
  | nil => exact .refl _
  | cons d ds ih =>
    rw [acceptFrom, rejectFrom]
    split
    · exact List.perm_middle.trans ((ih before).cons d)
    · exact (ih (before ++ [d])).cons d

theorem accepted_append_rejected_perm (ds : List Diagnostic) :
    (accepted ds ++ rejected ds).Perm (ds.filter (·.isFixable)) :=
  (acceptFrom_append_rejectFrom_perm [] (queue ds)).trans (sortBy_perm _ _)

/-- Every report that has replacements is accepted or rejected. -/
theorem length_accepted_add_length_rejected (ds : List Diagnostic) :
    (accepted ds).length + (rejected ds).length = ds.countP (·.isFixable) := by
  rw [← List.length_append, (accepted_append_rejected_perm ds).length_eq,
    List.countP_eq_length_filter]

theorem choose_map_fixes (before ds : List Diagnostic) (applied skipped : Nat) :
    choose (ds.map (·.fixes)) ⟨fixesOf before, applied, skipped⟩ =
      ⟨fixesOf (before ++ acceptFrom before ds), applied + (acceptFrom before ds).length,
        skipped + (rejectFrom before ds).length⟩ := by
  induction ds generalizing before applied skipped with
  | nil => simp [choose, acceptFrom, rejectFrom]
  | cons d ds ih =>
    rw [List.map_cons, choose, acceptFrom, rejectFrom]
    cases hc : conflicts before d with
    | true =>
      rw [conflicts] at hc
      simp only [hc, if_true, ih, List.length_cons]
      congr 1
      omega
    | false =>
      have hfixes : fixesOf before ++ d.fixes = fixesOf (before ++ [d]) := by simp [fixesOf]
      rw [conflicts] at hc
      simp only [hc, Bool.false_eq_true, if_false, hfixes, ih, List.append_assoc, List.cons_append,
        List.nil_append, List.length_cons]
      congr 1
      omega

theorem candidates_map_fixes (ds : List Diagnostic) :
    candidates (ds.map (·.fixes)) = (queue ds).map (·.fixes) := by
  rw [candidates, queue, sortBy_eq_insertionSort, sortBy_eq_insertionSort, List.filter_map]
  refine (List.map_insertionSort _ _ _ _ ?_).symm
  intro a _ b _
  rfl

/-- The replacements of the accepted reports are spliced, and both kinds of reports are counted. -/
theorem applyFixes_eq (source : Text) (ds : List Diagnostic) :
    applyFixes source ds = (splice source (fixesOf (accepted ds))).map fun output =>
      ⟨output, (accepted ds).length, (rejected ds).length⟩ := by
  have hchoice := choose_map_fixes [] (queue ds) 0 0
  simp only [List.nil_append, Nat.zero_add] at hchoice
  simp only [applyFixes, applyGroups, candidates_map_fixes]
  rw [show ([] : List Fix) = fixesOf [] from rfl, hchoice]
  rfl

/-! ## Replacements of accepted reports -/

theorem overlaps_comm (a b : Fix) : overlaps a b = overlaps b a := by
  simp only [overlaps, Fix.isInsertion]
  grind

theorem not_crosses_of_overlaps {a b : Fix} (h : overlaps a b = false) : ¬ Crosses a b := by
  simp only [overlaps, Fix.isInsertion] at h
  unfold Crosses
  grind

theorem acceptFrom_apart (before ds : List Diagnostic) :
    (∀ d ∈ acceptFrom before ds, ∀ f ∈ d.fixes, ∀ g ∈ fixesOf before, overlaps f g = false) ∧
      (acceptFrom before ds).Pairwise fun d e =>
        ∀ f ∈ d.fixes, ∀ g ∈ e.fixes, overlaps g f = false := by
  induction ds generalizing before with
  | nil => exact ⟨by simp [acceptFrom], List.Pairwise.nil⟩
  | cons d ds ih =>
    rw [acceptFrom]
    split
    · exact ih before
    · rename_i hfree
      obtain ⟨hbefore, hpairs⟩ := ih (before ++ [d])
      have hhead : ∀ f ∈ d.fixes, ∀ g ∈ fixesOf before, overlaps f g = false := by
        simpa [conflicts] using hfree
      have hd : fixesOf [d] = d.fixes := by simp [fixesOf]
      rw [fixesOf_append, hd] at hbefore
      constructor
      · intro e he f hf g hg
        rcases List.mem_cons.mp he with rfl | he
        · exact hhead f hf g hg
        · exact hbefore e he f hf g (List.mem_append_left _ hg)
      · -- What is accepted later was compared with `d` as one of those accepted before.
        refine List.pairwise_cons.mpr ⟨?_, hpairs⟩
        intro e he f hf g hg
        exact hbefore e he g hg f (List.mem_append_right _ hf)

/-- Replacements of different accepted reports do not overlap. -/
theorem accepted_apart (ds : List Diagnostic) :
    (accepted ds).Pairwise fun d e => ∀ f ∈ d.fixes, ∀ g ∈ e.fixes, overlaps f g = false := by
  refine (acceptFrom_apart [] (queue ds)).2.imp ?_
  intro d e h f hf g hg
  rw [overlaps_comm]
  exact h f hf g hg

/-- Splicing performs all accepted replacements exactly if each accepted report stays within the
text and does not cross itself. -/
theorem performed_accepted_perm_iff {source : Text} {ds : List Diagnostic}
    (hordered : ∀ d ∈ ds, ∀ f ∈ d.fixes, f.start ≤ f.stop) :
    (performed source (fixesOf (accepted ds))).Perm (fixesOf (accepted ds)) ↔
      ∀ d ∈ accepted ds,
        (∀ f ∈ d.fixes, f.stop ≤ source.byteLength) ∧ d.fixes.Pairwise fun a b =>
          ¬ Crosses a b := by
  have hordered' : ∀ f ∈ fixesOf (accepted ds), f.start ≤ f.stop := forall_fixesOf_accepted hordered
  have hacross : (accepted ds).Pairwise fun d e => ∀ f ∈ d.fixes, ∀ g ∈ e.fixes, ¬ Crosses f g :=
    (accepted_apart ds).imp fun h f hf g hg => not_crosses_of_overlaps (h f hf g hg)
  -- Crossing pairs can only come from one report, and so the condition splits over the reports.
  have hpairs : (fixesOf (accepted ds)).Pairwise (fun a b => ¬ Crosses a b) ↔
      ∀ d ∈ accepted ds, d.fixes.Pairwise fun a b => ¬ Crosses a b := by
    rw [fixesOf, List.pairwise_flatMap]
    exact and_iff_left hacross
  have hend : (∀ f ∈ fixesOf (accepted ds), f.stop ≤ source.byteLength) ↔
      ∀ d ∈ accepted ds, ∀ f ∈ d.fixes, f.stop ≤ source.byteLength := by
    simp only [mem_fixesOf]
    exact ⟨fun h d hd f hf => h f ⟨d, hd, hf⟩, fun h f ⟨d, hd, hf⟩ => h d hd f hf⟩
  rw [performed_perm_iff hordered', hend, hpairs]
  exact ⟨fun h d hd => ⟨h.1 d hd, h.2 d hd⟩, fun h =>
    ⟨fun d hd => (h d hd).1, fun d hd => (h d hd).2⟩⟩

/-- Well-placed replacements can be applied, and the output is the text with what splicing
performs. -/
theorem applyFixes_of_wellPlaced {source : Text} {ds : List Diagnostic}
    (h : ∀ d ∈ ds, ∀ f ∈ d.fixes, WellPlaced source f) :
    ∃ r, applyFixes source ds = some r ∧ r.applied = (accepted ds).length ∧
      r.skipped = (rejected ds).length ∧
      replaceEach (performed source (fixesOf (accepted ds))).reverse source = some r.output := by
  obtain ⟨out, hsplice, heach⟩ := splice_eq_replaceEach (forall_fixesOf_accepted h)
  exact ⟨⟨out, (accepted ds).length, (rejected ds).length⟩, by
    rw [applyFixes_eq, hsplice]; rfl, rfl, rfl, heach⟩

/-! ## Reports that keep their replacements apart -/

/-- Whether a replacement begins before another, or begins with it and ends before it. -/
def Precedes (a b : Fix) : Prop := a.start < b.start ∨ (a.start = b.start ∧ a.stop < b.stop)

theorem precedes_of_fixLe {a b : Fix} (ha : a.start ≤ a.stop) (hle : fixLe a b = true)
    (h : overlaps a b = false) : Precedes a b := by
  rw [fixLe_iff] at hle
  simp only [overlaps, Fix.isInsertion] at h
  unfold Precedes
  grind

/-- Sorting replacements that do not overlap leaves no two of them at the same place. -/
theorem performed_pairwise_precedes {source : Text} {fixes : List Fix}
    (hordered : ∀ f ∈ fixes, f.start ≤ f.stop)
    (hapart : fixes.Pairwise fun a b => overlaps a b = false)
    (hall : (performed source fixes).Perm fixes) : (performed source fixes).Pairwise Precedes := by
  have hsorted : (performed source fixes).Pairwise fun a b => fixLe a b = true :=
    (sortBy_fixLe_pairwise fixes).sublist (performed_sublist source fixes)
  have hapart' : (performed source fixes).Pairwise fun a b => overlaps a b = false := by
    refine (hall.pairwise_iff ?_).mpr hapart
    intro a b h
    rwa [overlaps_comm]
  refine (hsorted.and hapart').imp_of_mem fun ha _ hab => ?_
  exact precedes_of_fixLe (hordered _ (mem_of_mem_performed ha)) hab.1 hab.2

/-- If all replacements lie within the text at boundaries and no two of one report overlap, then
they can be applied, splicing performs every accepted one, and the output is the text in which the
accepted replacements are made one at a time from the last place to the first. -/
theorem applyFixes_eq_replaceEach (source : Text) (ds : List Diagnostic)
    (hplaced : ∀ d ∈ ds, ∀ f ∈ d.fixes, f.start ≤ f.stop ∧ f.stop ≤ source.byteLength ∧
      source.IsBoundary f.start ∧ source.IsBoundary f.stop)
    (hapart : ∀ d ∈ ds, d.fixes.Pairwise fun a b => overlaps a b = false) :
    ∃ r order,
      applyFixes source ds = some r ∧ r.applied = (accepted ds).length ∧
        r.skipped = (rejected ds).length ∧
      (performed source (fixesOf (accepted ds))).Perm (fixesOf (accepted ds)) ∧
      order.Perm (fixesOf (accepted ds)) ∧ order.Pairwise (fun a b => Precedes b a) ∧
      replaceEach order source = some r.output := by
  have hwell : ∀ d ∈ ds, ∀ f ∈ d.fixes, WellPlaced source f := by
    intro d hd f hf
    obtain ⟨hordered, _, hstart, hstop⟩ := hplaced d hd f hf
    exact ⟨hordered, fun _ => hstart, fun _ => hstop⟩
  have hordered : ∀ d ∈ ds, ∀ f ∈ d.fixes, f.start ≤ f.stop :=
    fun d hd f hf => (hplaced d hd f hf).1
  have hall : (performed source (fixesOf (accepted ds))).Perm (fixesOf (accepted ds)) := by
    rw [performed_accepted_perm_iff hordered]
    intro d hd
    have hd' := mem_of_mem_accepted hd
    exact ⟨fun f hf => (hplaced d hd' f hf).2.1, (hapart d hd').imp not_crosses_of_overlaps⟩
  have hapart' : (fixesOf (accepted ds)).Pairwise fun a b => overlaps a b = false := by
    rw [fixesOf, List.pairwise_flatMap]
    exact ⟨fun d hd => hapart d (mem_of_mem_accepted hd), accepted_apart ds⟩
  have hprecedes := performed_pairwise_precedes (forall_fixesOf_accepted hordered) hapart' hall
  obtain ⟨r, hr, happlied, hskipped, heach⟩ := applyFixes_of_wellPlaced hwell
  exact ⟨r, (performed source (fixesOf (accepted ds))).reverse, hr, happlied, hskipped, hall,
    (List.reverse_perm _).trans hall, List.pairwise_reverse.mpr hprecedes, heach⟩

/-- A report with the given replacements and nothing else of interest. -/
def mending (fixes : List Fix) : Diagnostic := { Diagnostic.plain "rule" "id" ⟨0, 0⟩ "" with fixes }

/-- Reports on `aéb` that touch at the ends of `é`, and one that overlaps both. -/
def touchingReports : List Diagnostic :=
  [mending [Fix.replace ⟨1, 3⟩ ['e'], Fix.insert 3 ['!']], mending [Fix.replace ⟨0, 1⟩ ['x']],
    mending [Fix.replace ⟨0, 3⟩ []]]

theorem applyFixes_touchingReports :
    applyFixes ['a', 'é', 'b'] touchingReports = some ⟨['x', 'e', '!', 'b'], 2, 1⟩ ∧
      ∃ order,
        order.Perm (fixesOf (accepted touchingReports)) ∧ order.Pairwise (fun a b => Precedes b a) ∧
        replaceEach order ['a', 'é', 'b'] = some ['x', 'e', '!', 'b'] := by
  obtain ⟨r, order, hr, _, _, _, hperm, hsorted, heach⟩ :=
    applyFixes_eq_replaceEach ['a', 'é', 'b'] touchingReports (by decide) (by decide)
  have hout : applyFixes ['a', 'é', 'b'] touchingReports = some ⟨['x', 'e', '!', 'b'], 2, 1⟩ := by
    decide
  obtain rfl := Option.some.inj (hr.symm.trans hout)
  exact ⟨hout, order, hperm, hsorted, heach⟩

/-! ## Reports that do not -/

/-- For well-placed replacements whatever reports do by themselves, applying succeeds, makes only
replacements of accepted reports, and makes all of them exactly if no accepted report reaches beyond
the text or crosses itself. -/
theorem applied_together_iff (source : Text) (ds : List Diagnostic)
    (h : ∀ d ∈ ds, ∀ f ∈ d.fixes, WellPlaced source f) :
    ∃ r, applyFixes source ds = some r ∧ r.applied = (accepted ds).length ∧
      r.skipped = (rejected ds).length ∧
      replaceEach (performed source (fixesOf (accepted ds))).reverse source = some r.output ∧
      (performed source (fixesOf (accepted ds))).Subperm (fixesOf (accepted ds)) ∧
      ((performed source (fixesOf (accepted ds))).Perm (fixesOf (accepted ds)) ↔
        ∀ d ∈ accepted ds,
          (∀ f ∈ d.fixes, f.stop ≤ source.byteLength) ∧ d.fixes.Pairwise fun a b =>
            ¬ Crosses a b) := by
  obtain ⟨r, hr, happlied, hskipped, heach⟩ := applyFixes_of_wellPlaced h
  have hsub : (performed source (fixesOf (accepted ds))).Subperm (fixesOf (accepted ds)) :=
    (performed_sublist source _).subperm.trans (sortBy_perm fixLe _).subperm
  refine ⟨r, hr, happlied, hskipped, heach, hsub, performed_accepted_perm_iff ?_⟩
  exact fun d hd f hf => (h d hd f hf).ordered

/-- A report on `abcdef` whose second replacement begins inside its first one. -/
def crossingReport : Diagnostic := mending [Fix.replace ⟨0, 3⟩ ['X'], Fix.replace ⟨2, 5⟩ ['Y']]

theorem applied_together_crossingReport :
    (∀ f ∈ crossingReport.fixes, WellPlaced "abcdef".toList f) ∧
      ∃ r, applyFixes "abcdef".toList [crossingReport] = some r ∧ r.applied = 1 ∧
        ¬ (performed "abcdef".toList crossingReport.fixes).Perm crossingReport.fixes := by
  obtain ⟨r, hr, happlied, _, _, _, hiff⟩ :=
    applied_together_iff "abcdef".toList [crossingReport] (by decide)
  have haccepted : accepted [crossingReport] = [crossingReport] := by decide
  have hfixes : fixesOf [crossingReport] = crossingReport.fixes := by decide
  rw [haccepted, hfixes] at hiff
  rw [haccepted] at happlied
  refine ⟨by decide, r, hr, happlied, fun hall => ?_⟩
  exact absurd (hiff.mp hall crossingReport List.mem_cons_self).2 (by decide)

/-- The crossing report counts as applied, but only the first of its replacements is made. -/
theorem crossing_replacement_dropped :
    (∀ f ∈ crossingReport.fixes, WellPlaced "abcdef".toList f) ∧
      applyFixes "abcdef".toList [crossingReport] = some ⟨"Xdef".toList, 1, 0⟩ ∧
      accepted [crossingReport] = [crossingReport] ∧
      performed "abcdef".toList crossingReport.fixes = [Fix.replace ⟨0, 3⟩ ['X']] := by
  refine ⟨?_, ?_, ?_, ?_⟩
  · decide
  · decide
  · decide
  · decide

end PureLint.Fixer
