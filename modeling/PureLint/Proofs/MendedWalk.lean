import PureLint.Proofs.MendedTree

/-!
# Runs on mended trees

On a tree in which sites were mended the rule has a replacement for a site exactly if it had one
before that was not made (`isMutable_mended`): a list type stands behind `readonly`, a property has
the modifier, and the read-only form of a collection has no further one. As the rule also ignores
the same sites as before, in a whole run there are as many reports to be mended as were left
(`countP_run`).
-/

namespace PureLint.Mending

open Rules Rules.PreferReadonlyType Walk

variable {made : Site → Bool} {source source' : Text}

/-! ## What is mended -/

/-- Whether a label is the name of a collection that has a read-only form. -/
def isCollection : Label → Bool
  | .identifierReference name => (Builtin.readonlyForm? name).isSome
  | _ => false

/-- Whether there is a replacement for a type. -/
def isMutableType (o : Options) (s : Site) : Bool :=
  !(o.ignoreCollections || isAllowedReturn o s) &&
    (isListType s.label && !isReadonlyOperand s ||
      isReference s.label && s.tree.children.head?.any fun t => isCollection t.label)

/-- Whether there is a replacement for a property, given whether it is in a return type that may be
mutable and whether it has a key or a pattern. -/
def isMutableProperty (allowed hasPart : Bool) : Label → Bool
  | .indexSignature isReadonly isStatic => !(isReadonly || allowed) && !isStatic
  | .propertySignature isReadonly => !(isReadonly || allowed)
  | .propertyDefinition _ isReadonly => !isReadonly && hasPart
  | .formalParameter accessible isReadonly => !(!accessible || isReadonly) && hasPart
  | _ => false

/-- Whether the rule has a replacement for a site. -/
def isMutable (o : Options) (s : Site) : Bool :=
  isMutableType o s || isMutableProperty (isAllowedReturn o s) s.tree.firstPart?.isSome s.label

theorem checkType_any (o : Options) (s : Site) :
    (checkType o s).any (·.isFixable) = isMutableType o s := by
  obtain ⟨⟨id, label, span, children⟩, above⟩ := s
  unfold checkType isMutableType
  cases o.ignoreCollections || isAllowedReturn o _ with
  | true => rfl
  | false =>
    simp only [Bool.false_eq_true, if_false, Bool.not_false, Bool.true_and, Site.tree]
    split
    · rename_i htree
      cases htree
      cases isReadonlyOperand _ <;> rfl
    · rename_i htree
      cases htree
      cases isReadonlyOperand _ <;> rfl
    · rename_i name nameSpan _ _ htree
      cases htree
      cases hform : Builtin.readonlyForm? name <;>
        simp [isListType, isReference, isCollection, Site.label, Tree.label, Tree.children, hform,
          Diagnostic.isFixable]
    · rename_i harray htuple hreference
      have hlist : isListType label = false := by
        unfold isListType
        split
        · exact absurd rfl (harray span children)
        · exact absurd rfl (htuple span children)
        · rfl
      have hcollection : (isReference label && children.head?.any fun t => isCollection t.label) =
          false := by
        unfold isReference
        split
        · cases children with
          | nil => rfl
          | cons t ts =>
            obtain ⟨l, span', children'⟩ := t
            change isCollection l = false
            unfold isCollection
            split
            · exact absurd rfl (hreference span _ span' children' ts)
            · rfl
        · rfl
      change false =
        (isListType label && _ ||
          (isReference label && children.head?.any fun t => isCollection t.label))
      rw [hlist, hcollection]
      rfl

theorem checkProperty_any (o : Options) (source : Text) (s : Site) :
    (checkProperty o source s).any (·.isFixable) =
      isMutableProperty (isAllowedReturn o s) s.tree.firstPart?.isSome s.label := by
  unfold checkProperty
  split
  · rename_i isReadonly isStatic hl
    rw [hl, isMutableProperty]
    cases isReadonly || isAllowedReturn o s <;> cases isStatic <;> rfl
  · rename_i isReadonly hl
    rw [hl, isMutableProperty]
    cases isReadonly || isAllowedReturn o s <;> rfl
  · rename_i computed isReadonly hl
    rw [hl, isMutableProperty]
    cases isReadonly <;> cases s.tree.firstPart? <;> rfl
  · rename_i accessible isReadonly hl
    rw [hl, isMutableProperty]
    cases !accessible || isReadonly <;> cases s.tree.firstPart? <;> rfl
  · unfold isMutableProperty
    split <;> simp_all

theorem check_eq_ofOption (o : Options) (source : Text) (s : Site) :
    ∃ d, check o source s = .ofOption d ∧ d.any (·.isFixable) = isMutable o s := by
  unfold check
  split
  · rename_i hl
    exact ⟨_, rfl, by rw [checkType_any, isMutable, hl]; exact (Bool.or_false _).symm⟩
  · rename_i hl
    exact ⟨_, rfl, by rw [checkType_any, isMutable, hl]; exact (Bool.or_false _).symm⟩
  · rename_i hl
    exact ⟨_, rfl, by rw [checkType_any, isMutable, hl]; exact (Bool.or_false _).symm⟩
  · rename_i harray htuple hreference
    refine ⟨_, rfl, ?_⟩
    have hlist : isListType s.label = false := by
      unfold isListType
      split <;> simp_all
    have href : isReference s.label = false := by
      unfold isReference
      split <;> simp_all
    have hnone : isMutableType o s = false := by simp [isMutableType, hlist, href]
    rw [checkProperty_any, isMutable, hnone, Bool.false_or]

theorem isMutableProperty_readonlyLabel (allowed hasPart : Bool) (l : Label) :
    isMutableProperty allowed hasPart (readonlyLabel l) = false := by
  unfold readonlyLabel
  split
  all_goals simp_all [isMutableProperty]

theorem isMutableProperty_mendedLabel (allowed hasPart : Bool) (s : Site) :
    isMutableProperty allowed hasPart (mendedLabel made s) =
      (!made s && isMutableProperty allowed hasPart s.label) := by
  unfold mendedLabel
  split
  · rename_i name hl
    simp [isMutableProperty, hl]
  · cases made s with
    | true => exact isMutableProperty_readonlyLabel ..
    | false => rfl

theorem readonlyForm?_readonlyName (name : Text) :
    Builtin.readonlyForm? (readonlyName name) = none := by
  have hforms : ∀ p ∈ Builtin.readonlyForms, Builtin.readonlyForm? p.2.toList = none := by decide
  unfold readonlyName
  split
  · rename_i form hform
    obtain ⟨before, after, hsplit, _⟩ := List.lookup_eq_some_iff.mp hform
    exact hforms (String.ofList name, form) (by simp [hsplit])
  · rename_i hform
    exact hform

theorem isCollection_mended {n : Node} {above : List Node} (hn : isReference n.tree.label = true)
    (t : Tree) :
    isCollection (mendedLabel made ⟨⟨n.id + 1, t⟩, n :: above⟩) =
      (!made ⟨n, above⟩ && isCollection t.label) := by
  unfold mendedLabel
  split
  · rename_i name hl
    have hrenamed : isRenamed made ⟨⟨n.id + 1, t⟩, n :: above⟩ = made ⟨n, above⟩ := by
      simp [isRenamed, hn]
    rw [Site.label] at hl
    rw [hrenamed, hl]
    cases made ⟨n, above⟩ with
    | true => simp [isCollection, readonlyForm?_readonlyName]
    | false => rfl
  · rename_i hname
    have hnone : isCollection t.label = false := by
      unfold isCollection
      split
      · rename_i name hl
        exact absurd hl (hname name)
      · rfl
    have hreadonly : ∀ l, isCollection (readonlyLabel l) = isCollection l := by
      intro l
      unfold readonlyLabel
      split <;> rfl
    rw [hnone, Bool.and_false]
    split
    · exact (hreadonly _).trans hnone
    · exact hnone

theorem head?_isCollection_mended {n : Node} {above : List Node} {ts ts' : List Tree}
    (hn : isReference n.tree.label = true)
    (h : carriedOutAll made source source' (n :: above) (n.id + 1) ts ts' = true) :
    (ts'.head?.any fun t => isCollection t.label) =
      (!made ⟨n, above⟩ && ts.head?.any fun t => isCollection t.label) := by
  cases ts with
  | nil =>
    cases ts' with
    | nil => simp
    | cons t' ts' => simp [carriedOutAll] at h
  | cons t ts =>
    cases ts' with
    | nil => simp [carriedOutAll] at h
    | cons t' ts' =>
      rw [carriedOutAll, Bool.and_eq_true] at h
      rw [List.head?_cons, List.head?_cons, Option.any_some, Option.any_some]
      rcases became_of_carriedOut h.1 with ⟨_, hbecame⟩ | ⟨hwrapped, span, u, rfl, _⟩
      · rw [hbecame.label, isCollection_mended hn]
      · have hnone : isCollection t.label = false :=
          of_isWrapped (p := fun l => isCollection l = false) rfl rfl hwrapped
        rw [hnone, Bool.and_false]
        rfl

/-- After mending there is a replacement for a site if there was one and it was not made. -/
theorem isMutable_mended {s s' : Site} (h : IsMendedSite made source source' s s') (o : Options) :
    isMutable o s' = (!made s && isMutable o s) := by
  have hallowed : isAllowedReturn o s' = isAllowedReturn o s := by
    rw [isAllowedReturn, isAllowedReturn, h.inReturnType_eq]
  have hpart : s'.tree.firstPart?.isSome = s.tree.firstPart?.isSome := by
    have hblind : IsBlind fun l => !l.isDecorator := {}
    rw [Tree.firstPart?, Tree.firstPart?, List.isSome_find?, List.isSome_find?]
    exact hblind.any_eq rfl rfl h.became.children
  have hlist : isListType s'.label = isListType s.label := h.blind_eq {}
  have href : isReference s'.label = isReference s.label := h.blind_eq {}
  have hcollection :
      (isReference s.label && s'.tree.children.head?.any fun t => isCollection t.label) =
      (!made s &&
        (isReference s.label && s.tree.children.head?.any fun t => isCollection t.label)) := by
    cases hr : isReference s.label with
    | false => simp
    | true =>
      rw [Bool.true_and, Bool.true_and]
      exact head?_isCollection_mended hr h.became.children
  rw [isMutable, isMutable, isMutableType, isMutableType, hallowed, hpart, hlist, href, hcollection,
    h.label_eq, isMutableProperty_mendedLabel, h.isReadonlyOperand_eq, isWrapped]
  cases made s <;> cases isListType s.label <;> simp

/-! ## The walk after mending -/

/-- Whether the report of a rule about a site is among those that are mended. -/
def isMended (c : ConfiguredRule) (source : Text) (mended : List Diagnostic) (s : Site) : Bool :=
  (c.rule.check source s).diagnostics.any fun d => mended.contains (d.withSeverity c.severity)

variable {o : Options} {i : IgnoreOptions} {c : ConfiguredRule} {mended : List Diagnostic}

section

variable (hc : c.rule = preferReadonlyType.toRule o (some i))

include hc

/-- What is left to be mended at a site are the reports with replacements that were not made. -/
theorem countP_check_mended {s s' : Site}
    (h : IsMendedSite (isMended c source mended) source source' s s') :
    ((check o source' s').diagnostics.map (·.withSeverity c.severity)).countP (·.isFixable) =
      ((check o source s).diagnostics.map (·.withSeverity c.severity)).countP
        fun d => d.isFixable && !mended.contains d := by
  have hcount : ∀ (d : Option Diagnostic) (q : Diagnostic → Bool),
      ((CheckResult.ofOption d).diagnostics.map (·.withSeverity c.severity)).countP q =
        (d.any fun x => q (x.withSeverity c.severity)).toNat := by
    intro d q
    cases d with
    | none => rfl
    | some d => cases hq : q (d.withSeverity c.severity) <;> simp [CheckResult.ofOption, hq]
  obtain ⟨d', hd', hfixable'⟩ := check_eq_ofOption o source' s'
  obtain ⟨d, hd, hfixable⟩ := check_eq_ofOption o source s
  have hmade : isMended c source mended s = d.any fun d =>
      mended.contains (d.withSeverity c.severity) := by
    rw [isMended, hc]
    change ((check o source s).diagnostics.any fun d =>
      mended.contains (d.withSeverity c.severity)) = _
    rw [hd]
    cases d <;> simp [CheckResult.ofOption]
  rw [isMutable_mended h, hmade, ← hfixable] at hfixable'
  rw [hd', hd, hcount, hcount]
  change (d'.any (·.isFixable)).toNat = _
  rw [hfixable']
  cases d with
  | none => rfl
  | some d => rw [Bool.and_comm]; rfl

theorem visit_of_rule_eq (source : Text) (s : Site) :
    visit source s (c, false) =
      if runsOn s.label then
        if Ignore.shouldIgnore source i s then ([], true)
        else ((check o source s).diagnostics.map (·.withSeverity c.severity), false)
      else ([], false) := by
  rw [visit, hc]
  change (if runsOn s.label then if Ignore.shouldIgnore source i s then ([], true)
    else ((check o source s).diagnostics.map (·.withSeverity c.severity),
      (check o source s).skipChildren)
    else ([], false)) = _
  rw [(check_signedBy o source s).skipChildren_eq]

/-- At a site the rule has as many reports to be mended as were not, and it is pruned below as
before. -/
theorem visit_mended {s s' : Site}
    (h : IsMendedSite (isMended c source mended) source source' s s') (p : Bool) :
    (visit source' s' (c, p)).1.countP (·.isFixable) =
        (visit source s (c, p)).1.countP (fun d => d.isFixable && !mended.contains d) ∧
      (visit source' s' (c, p)).2 = (visit source s (c, p)).2 := by
  have hruns : runsOn s'.label = runsOn s.label := h.blind_eq {}
  cases p with
  | true => exact ⟨rfl, rfl⟩
  | false =>
    rw [visit_of_rule_eq hc, visit_of_rule_eq hc, hruns]
    cases hr : runsOn s.label with
    | false => exact ⟨rfl, rfl⟩
    | true =>
      rw [h.shouldIgnore_eq hr]
      cases Ignore.shouldIgnore source i s with
      | true => exact ⟨rfl, rfl⟩
      | false => exact ⟨countP_check_mended hc h, rfl⟩

/-- The rule does not look at an operator, and so walks on to its operand. -/
theorem walkFrom_operator (source : Text) (p : Bool)
    (above : List Node) (id : Nat) (span : Span) (u : Tree) :
    walkFrom source [(c, p)] above id (.node (.typeOperator .readonly) span [u]) =
      walkFrom source [(c, p)] (⟨id, .node (.typeOperator .readonly) span [u]⟩ :: above)
      (id + 1) u := by
  have hvisit : visit source ⟨⟨id, .node (.typeOperator .readonly) span [u]⟩, above⟩ (c, p) =
      ([], p) := by
    cases p with
    | true => rfl
    | false =>
      rw [visit_of_rule_eq hc]
      rfl
  simp [walkFrom, walkAll, reports, below, hvisit]

end

mutual

theorem countP_walkFrom (hc : c.rule = preferReadonlyType.toRule o (some i)) (p : Bool) :
    ∀ {t t' : Tree} {above above' : List Node} {id : Nat} (id' : Nat),
    Trail (isMended c source mended) source source' above above' →
      (∀ q ∈ above.head?, t ∈ q.tree.children) →
    carriedOut (isMended c source mended) source source' above id t t' = true →
    (walkFrom source' [(c, p)] above' id' t').countP (·.isFixable) =
      (walkFrom source [(c, p)] above id t).countP fun d => d.isFixable && !mended.contains d
  | .node label span children, t', above, above', id, id', htrail, hlinked, h => by
    -- Wherever the root ended up, the rule reports there and below what it has to.
    have hroot : ∀ (u : Tree) (above'' : List Node) (id'' : Nat),
        Trail (isMended c source mended) source source' (⟨id, .node label span children⟩ :: above)
          (⟨id'', u⟩ :: above'') →
        Became (isMended c source mended) source source' ⟨id, .node label span children⟩ above u →
        (walkFrom source' [(c, p)] above'' id'' u).countP (·.isFixable) =
          (walkFrom source [(c, p)] above id (.node label span children)).countP
            fun d => d.isFixable && !mended.contains d := by
      rintro ⟨label', span', children'⟩ above'' id'' htrail' hbecame
      have hsite :
          IsMendedSite (isMended c source mended) source source'
            ⟨⟨id, .node label span children⟩, above⟩
          ⟨⟨id'', .node label' span' children'⟩, above''⟩ := htrail'
      obtain ⟨hhere, hbelow⟩ := visit_mended hc hsite p
      simp only [walkFrom, reports, below, List.flatMap_singleton, List.countP_append,
        List.map_cons, List.map_nil]
      rw [hhere, hbelow, Nat.add_left_cancel_iff]
      exact countP_walkAll hc _ (id'' + 1) htrail' (List.Subset.refl _) hbecame.children
    rcases became_of_carriedOut h with ⟨hkept, hbecame⟩ | ⟨hwrapped, span', u, rfl, hbecame⟩
    · exact hroot t' above' id' (.keep htrail hlinked hbecame hkept) hbecame
    · rw [walkFrom_operator hc]
      exact hroot u _ (id' + 1) (.wrap htrail hlinked hbecame hwrapped rfl) hbecame

theorem countP_walkAll (hc : c.rule = preferReadonlyType.toRule o (some i)) (p : Bool) :
    ∀ {ts ts' : List Tree} {n : Node} {above above' : List Node} {id : Nat} (id' : Nat),
    Trail (isMended c source mended) source source' (n :: above) above' → ts ⊆ n.tree.children →
    carriedOutAll (isMended c source mended) source source' (n :: above) id ts ts' = true →
    (walkAll source' [(c, p)] above' id' ts').countP (·.isFixable) =
      (walkAll source [(c, p)] (n :: above) id ts).countP fun d => d.isFixable && !mended.contains d
  | [], [], _, _, _, _, _, _, _, _ => by rw [walkAll, walkAll]; rfl
  | [], _ :: _, _, _, _, _, _, _, _, h => by simp [carriedOutAll] at h
  | _ :: _, [], _, _, _, _, _, _, _, h => by simp [carriedOutAll] at h
  | t :: ts, t' :: ts', n, above, above', id, id', htrail, hsub, h => by
    rw [carriedOutAll, Bool.and_eq_true] at h
    have hfirst : ∀ q ∈ (n :: above).head?, t ∈ q.tree.children := by
      intro q hq
      obtain rfl := Option.some.inj hq
      exact hsub List.mem_cons_self
    rw [walkAll, walkAll, List.countP_append, List.countP_append,
      countP_walkFrom hc p id' htrail hfirst h.1,
      countP_walkAll hc p (id' + t'.size) htrail (List.subset_of_cons_subset hsub) h.2]

end

/-- If a tree is another one with reports mended, a run on it has as many reports to be mended as
were not mended. -/
theorem countP_run (hc : c.rule = preferReadonlyType.toRule o (some i)) {tree tree' : Tree}
    (h : carriedOut (isMended c source mended) source source' [] 0 tree tree' = true) :
    (Runner.run source' tree' [c]).countP (·.isFixable) =
      (Runner.run source tree [c]).countP fun d => d.isFixable && !mended.contains d := by
  rw [Runner.run_eq_walk, Runner.run_eq_walk]
  exact countP_walkFrom hc false 0 .nil (by simp) h

end PureLint.Mending
