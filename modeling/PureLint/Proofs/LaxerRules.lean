import PureLint.Proofs.PrunedWalk
import PureLint.Proofs.RegisteredRules

/-!
# Laxer rules

A rule is laxer than another on a tree if it ignores every site that the other ignores, hides what
the other hides, and reports at each site no more places than the other. Then it reports no more
places in a whole run (`run_sublist`). What has to be kept in the walk is that the laxer rule is
pruned wherever the other one is.

The second half says when a rule ignores more: flags are turned on, texts are added, and
`ignoreClass` goes from nothing to fields and from fields to everything (`shouldIgnore_mono`). The
last step needs that fields lie in classes.
-/

namespace PureLint

/-! ## Places of reports -/

/-- The rule of a report, and where the report begins and ends. -/
def Diagnostic.place (d : Diagnostic) : String × Nat × Nat := (d.rule, d.span.start, d.span.stop)

namespace CheckResult

/-- The places that are reported. -/
def places (r : CheckResult) : List (String × Nat × Nat) := r.diagnostics.map Diagnostic.place

@[simp] theorem places_none : places .none = [] := rfl

@[simp] theorem places_report (d : Diagnostic) : places (.report d) = [d.place] := rfl

theorem places_ofOption_sublist {d d' : Option Diagnostic} (h : ∀ x ∈ d', x ∈ d) :
    (places (.ofOption d')).Sublist (places (.ofOption d)) := by
  cases d' with
  | none => exact List.nil_sublist _
  | some x =>
    obtain rfl := h x rfl
    exact List.Sublist.refl _

end CheckResult

/-! ## A laxer rule -/

/-- Whether `r'` reports at a site no more than `r`, and ignores the site if `r` does. -/
structure Rule.IsLaxerAt (source : Text) (r r' : Rule) (s : Site) : Prop where
  ignores : r.ignores source s = true → r'.ignores source s = true
  places : (r'.check source s).places.Sublist (r.check source s).places

/-- Whether `r'` is laxer than `r` at every site, looks at no other nodes, and hides below ignored
nodes what `r` hides. -/
structure Rule.IsLaxer (source : Text) (r r' : Rule) (sites : List Site) : Prop where
  runsOn : ∀ t, r'.runsOn t = true → r.runsOn t = true
  skipIgnoredSubtree : r'.skipIgnoredSubtree = r.skipIgnoredSubtree
  /-- A rule that hides below ignored nodes looks at the same nodes as before. -/
  runsOn_of_skip : r.skipIgnoredSubtree = true → ∀ t, r.runsOn t = true → r'.runsOn t = true
  skipChildren : ∀ s, (r.check source s).skipChildren = false
  at_site : ∀ s ∈ sites, r.IsLaxerAt source r' s

namespace Walk

variable {source : Text} {r r' : Rule} (severity : Severity)

theorem places_withSeverity (ds : List Diagnostic) (s : Severity) :
    (ds.map (·.withSeverity s)).map Diagnostic.place = ds.map Diagnostic.place := by
  rw [List.map_map]
  rfl

/-- At one site a laxer rule reports no more, and is pruned below if the other rule is. -/
theorem visit_sublist {sites : List Site} (h : r.IsLaxer source r' sites) {s : Site}
    (hs : s ∈ sites) {p p' : Bool} (hp : p = true → p' = true) :
    ((visit source s (⟨r', severity⟩, p')).1.map Diagnostic.place).Sublist
        ((visit source s (⟨r, severity⟩, p)).1.map Diagnostic.place) ∧
      ((visit source s (⟨r, severity⟩, p)).2 = true →
        (visit source s (⟨r', severity⟩, p')).2 = true) := by
  obtain ⟨hignores, hplaces⟩ := h.at_site s hs
  cases p' with
  | true => exact ⟨List.nil_sublist _, fun _ => rfl⟩
  | false =>
    obtain rfl : p = false := by simpa using mt hp
    simp only [visit]
    cases hr' : r'.runsOn s.tree with
    | false =>
      refine ⟨List.nil_sublist _, ?_⟩
      -- Only a rule that hides nothing may look at a node that the laxer one does not look at.
      cases hr : r.runsOn s.tree with
      | false => simp
      | true =>
        cases hskip : r.skipIgnoredSubtree with
        | true => rw [h.runsOn_of_skip hskip _ hr] at hr'; cases hr'
        | false => cases r.ignores source s <;> simp [h.skipChildren s]
    | true =>
      rw [h.runsOn _ hr']
      cases hi : r.ignores source s with
      | true => simp [hignores hi, h.skipIgnoredSubtree]
      | false =>
        cases r'.ignores source s with
        | true => simp [h.skipChildren s]
        | false =>
          refine ⟨?_, by simp [h.skipChildren s]⟩
          simp only [Bool.false_eq_true, if_true, if_false, places_withSeverity]
          exact hplaces

mutual

theorem walkFrom_sublist {p p' : Bool} (hp : p = true → p' = true) :
    ∀ {t : Tree} {above : List Node} {id : Nat}, r.IsLaxer source r' (t.sitesFrom above id) →
    ((walkFrom source [(⟨r', severity⟩, p')] above id t).map Diagnostic.place).Sublist
      ((walkFrom source [(⟨r, severity⟩, p)] above id t).map Diagnostic.place)
  | .node label span children, above, id, h => by
    rw [Tree.sitesFrom] at h
    obtain ⟨hhere, hbelow⟩ := visit_sublist severity h List.mem_cons_self hp
    have hchildren :
        r.IsLaxer source r'
          (Tree.sitesOfAll (⟨id, .node label span children⟩ :: above) (id + 1) children) :=
      { h with at_site := fun s hs => h.at_site s (List.mem_cons_of_mem _ hs) }
    simp only [walkFrom, reports, below, List.flatMap_singleton, List.map_append, List.map_cons,
      List.map_nil]
    exact hhere.append (walkAll_sublist hbelow hchildren)

theorem walkAll_sublist {p p' : Bool} (hp : p = true → p' = true) :
    ∀ {ts : List Tree} {above : List Node} {id : Nat},
      r.IsLaxer source r' (Tree.sitesOfAll above id ts) →
    ((walkAll source [(⟨r', severity⟩, p')] above id ts).map Diagnostic.place).Sublist
      ((walkAll source [(⟨r, severity⟩, p)] above id ts).map Diagnostic.place)
  | [], _, _, _ => by simp [walkAll]
  | t :: ts, above, id, h => by
    rw [Tree.sitesOfAll] at h
    have hfirst : r.IsLaxer source r' (t.sitesFrom above id) :=
      { h with at_site := fun s hs => h.at_site s (List.mem_append_left _ hs) }
    have hrest : r.IsLaxer source r' (Tree.sitesOfAll above (id + t.size) ts) :=
      { h with at_site := fun s hs => h.at_site s (List.mem_append_right _ hs) }
    rw [walkAll, walkAll, List.map_append, List.map_append]
    exact (walkFrom_sublist hp hfirst).append (walkAll_sublist hp hrest)

end

end Walk

/-- In a whole run a laxer rule reports no more places, in the same order. -/
theorem Rule.IsLaxer.run_sublist {source : Text} {tree : Tree} {r r' : Rule}
    (h : r.IsLaxer source r' tree.sites) (severity : Severity) :
    ((Runner.run source tree [⟨r', severity⟩]).map Diagnostic.place).Sublist
      ((Runner.run source tree [⟨r, severity⟩]).map Diagnostic.place) := by
  rw [Runner.run_eq_walk, Runner.run_eq_walk]
  exact Walk.walkFrom_sublist severity (by simp) h

/-! ## Ignoring more -/

/-- How much of a class is ignored. -/
def IgnoreClass.rank : IgnoreClass → Nat
  | off => 0
  | fieldsOnly => 1
  | all => 2

/-- Whether exemptions `i'` make at least those of `i`. -/
structure IgnoreOptions.Relaxes (i i' : IgnoreOptions) : Prop where
  allowLocalMutation : i.allowLocalMutation ≤ i'.allowLocalMutation
  patterns : i.patterns ⊆ i'.patterns
  accessorPatterns : i.accessorPatterns ⊆ i'.accessorPatterns
  ignoreClass : i.ignoreClass.rank ≤ i'.ignoreClass.rank
  ignoreInterface : i.ignoreInterface ≤ i'.ignoreInterface
  starts : i.starts ⊆ i'.starts
  ends : i.ends ⊆ i'.ends

/-- The same of exemptions whose patterns are not read yet. -/
structure IgnoreSettings.Relaxes (i i' : IgnoreSettings) : Prop where
  allowLocalMutation : i.allowLocalMutation ≤ i'.allowLocalMutation
  ignorePattern : i.ignorePattern ⊆ i'.ignorePattern
  ignoreAccessorPattern : i.ignoreAccessorPattern ⊆ i'.ignoreAccessorPattern
  ignoreClass : i.ignoreClass.rank ≤ i'.ignoreClass.rank
  ignoreInterface : i.ignoreInterface ≤ i'.ignoreInterface
  starts : i.starts ⊆ i'.starts
  ends : i.ends ⊆ i'.ends

theorem mem_of_mapM_eq_ok {α β ε : Type} {f : α → Except ε β} {xs : List α} {ys : List β}
    (h : xs.mapM f = .ok ys) (y : β) : y ∈ ys ↔ ∃ x ∈ xs, f x = .ok y := by
  induction xs generalizing ys with
  | nil =>
    obtain rfl := Except.ok.inj h
    simp
  | cons x xs ih =>
    rw [List.mapM_cons] at h
    cases hx : f x with
    | error e => rw [hx] at h; cases h
    | ok z =>
      cases hxs : xs.mapM f with
      | error e => rw [hx, hxs] at h; cases h
      | ok zs =>
        rw [hx, hxs] at h
        obtain rfl : z :: zs = ys := Except.ok.inj h
        simp [hx, ih hxs, eq_comm]

theorem subset_of_mapM_eq_ok {α β ε : Type} {f : α → Except ε β} {xs xs' : List α} {ys ys' : List β}
    (h : xs.mapM f = .ok ys) (h' : xs'.mapM f = .ok ys') (hsub : xs ⊆ xs') : ys ⊆ ys' := by
  intro y hy
  obtain ⟨x, hx, hread⟩ := (mem_of_mapM_eq_ok h y).mp hy
  exact (mem_of_mapM_eq_ok h' y).mpr ⟨x, hsub hx, hread⟩

theorem IgnoreSettings.compile_eq_ok {i : IgnoreSettings} {c : IgnoreOptions}
    (h : i.compile = .ok c) :
    ∃ patterns accessorPatterns, i.ignorePattern.mapM Pattern.compile = .ok patterns ∧
      i.ignoreAccessorPattern.mapM AccessorPattern.parse = .ok accessorPatterns ∧
      c =
        { allowLocalMutation := i.allowLocalMutation, patterns, accessorPatterns
          ignoreClass := i.ignoreClass, ignoreInterface := i.ignoreInterface
          starts := i.starts, ends := i.ends } := by
  unfold compile at h
  cases hp : Pattern.compileAll i.ignorePattern with
  | error e => rw [hp] at h; cases h
  | ok patterns =>
    cases ha : AccessorPattern.parseAll i.ignoreAccessorPattern with
    | error e => rw [hp, ha] at h; cases h
    | ok accessorPatterns =>
      rw [hp, ha] at h
      exact ⟨patterns, accessorPatterns, hp, ha, (Except.ok.inj h).symm⟩

theorem IgnoreSettings.Relaxes.compile {i i' : IgnoreSettings} (h : i.Relaxes i')
    {c c' : IgnoreOptions} (hc : i.compile = .ok c) (hc' : i'.compile = .ok c') : c.Relaxes c' := by
  obtain ⟨ps, as, hps, has, rfl⟩ := compile_eq_ok hc
  obtain ⟨ps', as', hps', has', rfl⟩ := compile_eq_ok hc'
  exact
    { h with
      patterns := subset_of_mapM_eq_ok hps hps' h.ignorePattern
      accessorPatterns := subset_of_mapM_eq_ok has has' h.ignoreAccessorPattern }

namespace Ignore

variable {i i' : IgnoreOptions}

theorem any_of_subset {α : Type} {xs ys : List α} {p : α → Bool} (hsub : xs ⊆ ys)
    (h : xs.any p = true) : ys.any p = true := by
  obtain ⟨x, hx, hp⟩ := List.any_eq_true.mp h
  exact List.any_eq_true.mpr ⟨x, hsub hx, hp⟩

theorem all_of_imp {α : Type} {xs : List α} {p q : α → Bool} (himp : ∀ x, p x = true → q x = true)
    (h : xs.all p = true) : xs.all q = true :=
  List.all_eq_true.mpr fun x hx => himp x (List.all_eq_true.mp h x hx)

theorem matchesPattern_mono (h : i.Relaxes i') (t : Text) (ht : i.matchesPattern t = true) :
    i'.matchesPattern t = true :=
  any_of_subset h.patterns ht

theorem matchesAccessor_mono (h : i.Relaxes i') (t : Text) (ht : i.matchesAccessor t = true) :
    i'.matchesAccessor t = true :=
  any_of_subset h.accessorPatterns ht

theorem matchesAffix_mono (h : i.Relaxes i') (t : Text) (ht : i.matchesAffix t = true) :
    i'.matchesAffix t = true := by
  unfold IgnoreOptions.matchesAffix at ht ⊢
  rw [Bool.or_eq_true] at ht ⊢
  exact ht.imp (any_of_subset h.starts) (any_of_subset h.ends)

theorem objectMatches_mono (h : i.Relaxes i') {n : Nat} {t : Text}
    (ht : objectMatches i n t = true) : objectMatches i' n t = true := by
  induction n generalizing t with
  | zero => exact ht
  | succ n ih =>
    unfold objectMatches at ht ⊢
    cases hobject : objectPath? t with
    | none => rw [hobject] at ht; cases ht
    | some object =>
      simp only [hobject, Bool.or_eq_true] at ht ⊢
      exact ht.imp (matchesAffix_mono h object) ih

theorem ignoredByAffix_mono (h : i.Relaxes i') (label : Label) (t : Text)
    (ht : ignoredByAffix i label t = true) : ignoredByAffix i' label t = true := by
  unfold ignoredByAffix at ht ⊢
  rw [Bool.or_eq_true, Bool.and_eq_true] at ht ⊢
  exact ht.imp (matchesAffix_mono h t) fun hobject => ⟨hobject.1, objectMatches_mono h hobject.2⟩

theorem hasTextMatchers_mono (h : i.Relaxes i') (ht : i.hasTextMatchers = true) :
    i'.hasTextMatchers = true := by
  have hempty : ∀ {α : Type} {xs ys : List α},
      xs ⊆ ys → (!xs.isEmpty) = true → (!ys.isEmpty) = true := by
    intro α xs ys hsub hxs
    cases ys with
    | nil => rw [List.subset_nil.mp hsub] at hxs; exact hxs
    | cons y ys => rfl
  unfold IgnoreOptions.hasTextMatchers at ht ⊢
  simp only [Bool.or_eq_true] at ht ⊢
  rcases ht with ((ht | ht) | ht) | ht
  · exact .inl (.inl (.inl (hempty h.patterns ht)))
  · exact .inl (.inl (.inr (hempty h.accessorPatterns ht)))
  · exact .inl (.inr (hempty h.starts ht))
  · exact .inr (hempty h.ends ht)

theorem ignoredByText_mono (h : i.Relaxes i') {source : Text} {s : Site}
    (hs : ignoredByText source i s = true) : ignoredByText source i' s = true := by
  simp only [ignoredByText, Bool.and_eq_true, Bool.or_eq_true] at hs ⊢
  obtain ⟨hmatchers, htexts, hall⟩ := hs
  refine ⟨hasTextMatchers_mono h hmatchers, htexts, ?_⟩
  rcases hall with (hall | hall) | hall
  · exact .inl (.inl (all_of_imp (matchesPattern_mono h) hall))
  · exact .inl (.inr (all_of_imp (matchesAccessor_mono h) hall))
  · exact .inr (all_of_imp (ignoredByAffix_mono h s.label) hall)

/-- Whether a label is that of a field of a class. -/
def isField : Label → Bool
  | .propertyDefinition .. => true
  | _ => false

/-- Whether a site lies in a class if it is a field. -/
def FieldInClass (s : Site) : Prop := isField s.label = true → s.inClass = true

instance (s : Site) : Decidable (FieldInClass s) := inferInstanceAs (Decidable (_ → _))

theorem inClass_of_isFieldMutation {s : Site} (hfield : FieldInClass s)
    (h : isFieldMutation s = true) : s.inClass = true := by
  unfold isFieldMutation at h
  split at h
  · rename_i htree
    exact hfield (by rw [Site.label, ← Site.tree, htree]; rfl)
  · exact (Bool.and_eq_true_iff.mp h).2
  · cases h

/-- What is ignored in a class grows with the rank, where fields lie in classes. -/
theorem ignoredByPlace_mono (h : i.Relaxes i') {s : Site} (hfield : FieldInClass s)
    (hs : ignoredByPlace i s = true) : ignoredByPlace i' s = true := by
  unfold ignoredByPlace at hs ⊢
  simp only [Bool.or_eq_true, Bool.and_eq_true] at hs ⊢
  rcases hs with (⟨hallow, hbody⟩ | hclass) | ⟨hallow, hbody⟩
  · exact .inl (.inl ⟨h.allowLocalMutation hallow, hbody⟩)
  · refine .inl (.inr ?_)
    have hrank := h.ignoreClass
    cases hi : i.ignoreClass with
    | off => rw [hi] at hclass; cases hclass
    | fieldsOnly =>
      rw [hi] at hclass hrank
      cases hi' : i'.ignoreClass with
      | off => rw [hi'] at hrank; exact absurd hrank (by decide)
      | fieldsOnly => exact hclass
      | all => exact inClass_of_isFieldMutation hfield hclass
    | all =>
      rw [hi] at hclass hrank
      cases hi' : i'.ignoreClass with
      | off => rw [hi'] at hrank; exact absurd hrank (by decide)
      | fieldsOnly => rw [hi'] at hrank; exact absurd hrank (by decide)
      | all => exact hclass
  · exact .inr ⟨h.ignoreInterface hallow, hbody⟩

theorem shouldIgnore_mono (h : i.Relaxes i') {source : Text} {s : Site} (hfield : FieldInClass s)
    (hs : shouldIgnore source i s = true) : shouldIgnore source i' s = true := by
  unfold shouldIgnore at hs ⊢
  rw [Bool.or_eq_true] at hs ⊢
  exact hs.imp (ignoredByPlace_mono h hfield) (ignoredByText_mono h)

end Ignore

end PureLint
