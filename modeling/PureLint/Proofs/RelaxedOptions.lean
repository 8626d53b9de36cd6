import PureLint.Proofs.LaxerRules

/-!
# Relaxed options report no more

For each rule with options, `Relaxes` says when options `o'` are more permissive than `o`: flags
that allow or ignore are turned on, checks are turned off, texts are added, and graded options go
up. The rule under `o'` is then laxer at every site (`isLaxer_of_relaxes`): an allowance that stops
one report may let another take its place, as `finally` does once `catch` is allowed, but only at
the same place. So the places that are reported under `o'` are among those reported under `o`.
-/

namespace PureLint

/-! ## What relaxing is -/

/-- How much is asked of the number of parameters, the most first. -/
def ParameterCount.rank : ParameterCount → Nat
  | exactlyOne => 0
  | atLeastOne => 1

/-- Whether less is asked of the number of parameters; nothing is asked in the end. -/
def EnforceCount.Relaxes : Option EnforceCount → Option EnforceCount → Prop
  | _, none => True
  | none, some _ => False
  | some e, some e' => e.count.rank ≤ e'.count.rank ∧ e.ignoreIIFE ≤ e'.ignoreIIFE

namespace Rules

structure ImmutableData.Options.Relaxes (o o' : ImmutableData.Options) : Prop where
  ignorePattern : o.ignorePattern.toList ⊆ o'.ignorePattern.toList
  ignoreAccessorPattern : o.ignoreAccessorPattern.toList ⊆ o'.ignoreAccessorPattern.toList
  ignoreClass : o.ignoreClass.rank ≤ o'.ignoreClass.rank
  ignoreImmediateMutation : o.ignoreImmediateMutation ≤ o'.ignoreImmediateMutation

structure NoLet.Options.Relaxes (o o' : NoLet.Options) : Prop where
  allowInForLoopInit : o.allowInForLoopInit ≤ o'.allowInForLoopInit
  allowLocalMutation : o.allowLocalMutation ≤ o'.allowLocalMutation
  ignorePattern : o.ignorePattern.toList ⊆ o'.ignorePattern.toList

structure PreferReadonlyType.Options.Relaxes (o o' : PreferReadonlyType.Options) : Prop where
  allowLocalMutation : o.allowLocalMutation ≤ o'.allowLocalMutation
  allowMutableReturnType : o.allowMutableReturnType ≤ o'.allowMutableReturnType
  ignoreClass : o.ignoreClass.rank ≤ o'.ignoreClass.rank
  ignoreInterface : o.ignoreInterface ≤ o'.ignoreInterface
  ignoreCollections : o.ignoreCollections ≤ o'.ignoreCollections
  ignorePattern : o.ignorePattern.toList ⊆ o'.ignorePattern.toList

structure NoMethodSignature.Options.Relaxes (o o' : NoMethodSignature.Options) : Prop where
  ignoreIfReadonly : o.ignoreIfReadonly ≤ o'.ignoreIfReadonly

/-- Here checks are turned off. -/
structure NoMixedType.Options.Relaxes (o o' : NoMixedType.Options) : Prop where
  checkInterfaces : o'.checkInterfaces ≤ o.checkInterfaces
  checkTypeLiterals : o'.checkTypeLiterals ≤ o.checkTypeLiterals

structure NoExpressionStatement.Options.Relaxes (o o' : NoExpressionStatement.Options) : Prop where
  ignorePattern : o.ignorePattern.toList ⊆ o'.ignorePattern.toList
  ignorePrefix : o.ignorePrefix.toList ⊆ o'.ignorePrefix.toList
  ignoreSuffix : o.ignoreSuffix.toList ⊆ o'.ignoreSuffix.toList
  ignoreVoid : o.ignoreVoid ≤ o'.ignoreVoid

structure NoThrowStatement.Options.Relaxes (o o' : NoThrowStatement.Options) : Prop where
  allowInAsyncFunctions : o.allowInAsyncFunctions ≤ o'.allowInAsyncFunctions

structure NoTryStatement.Options.Relaxes (o o' : NoTryStatement.Options) : Prop where
  allowCatch : o.allowCatch ≤ o'.allowCatch
  allowFinally : o.allowFinally ≤ o'.allowFinally

structure FunctionalParameters.Options.Relaxes (o o' : FunctionalParameters.Options) : Prop where
  allowRestParameter : o.allowRestParameter ≤ o'.allowRestParameter
  allowArgumentsKeyword : o.allowArgumentsKeyword ≤ o'.allowArgumentsKeyword
  enforceParameterCount : EnforceCount.Relaxes o.enforceParameterCount o'.enforceParameterCount
  ignorePattern : o.ignorePattern.toList ⊆ o'.ignorePattern.toList

end Rules

/-- Whether options of a rule of the registry are relaxed. A rule without options has only the same
ones. -/
inductive Definition.Relaxes : (d : Definition) → d.Options → d.Options → Prop
  | immutableData {o o' : Rules.ImmutableData.Options} (h : o.Relaxes o') :
    Relaxes Rules.immutableData o o'
  | noLet {o o' : Rules.NoLet.Options} (h : o.Relaxes o') : Relaxes Rules.noLet o o'
  | preferReadonlyType {o o' : Rules.PreferReadonlyType.Options} (h : o.Relaxes o') :
    Relaxes Rules.preferReadonlyType o o'
  | noMethodSignature {o o' : Rules.NoMethodSignature.Options}
    (h : o.Relaxes o') : Relaxes Rules.noMethodSignature o o'
  | noMixedType {o o' : Rules.NoMixedType.Options}
    (h : o.Relaxes o') : Relaxes Rules.noMixedType o o'
  | noExpressionStatement {o o' : Rules.NoExpressionStatement.Options} (h : o.Relaxes o') :
    Relaxes Rules.noExpressionStatement o o'
  | noThisExpression (o o' : NoOptions) : Relaxes Rules.noThisExpression o o'
  | noClass (o o' : NoOptions) : Relaxes Rules.noClass o o'
  | noLoopStatement (o o' : NoOptions) : Relaxes Rules.noLoopStatement o o'
  | noThrowStatement {o o' : Rules.NoThrowStatement.Options}
    (h : o.Relaxes o') : Relaxes Rules.noThrowStatement o o'
  | noTryStatement {o o' : Rules.NoTryStatement.Options}
    (h : o.Relaxes o') : Relaxes Rules.noTryStatement o o'
  | functionalParameters {o o' : Rules.FunctionalParameters.Options} (h : o.Relaxes o') :
    Relaxes Rules.functionalParameters o o'
  | noPromiseReject (o o' : NoOptions) : Relaxes Rules.noPromiseReject o o'

/-! ## What relaxed options do at a site -/

/-- Whether the rule under `o'` is laxer than under `o` as far as its definition says. -/
structure Definition.RelaxesChecks (d : Definition) (o o' : d.Options) : Prop where
  settings : ∀ i ∈ d.ignore o, ∃ i' ∈ d.ignore o', i.Relaxes i'
  runsOn : ∀ l, d.runsOn o' l = true → d.runsOn o l = true
  runsOn_of_skip : d.skipIgnoredSubtree = true → ∀ l, d.runsOn o l = true → d.runsOn o' l = true
  places : ∀ source s, (d.check o' source s).places.Sublist (d.check o source s).places

namespace Rules

open CheckResult

theorem places_unless {b b' : Bool} {d : Diagnostic} (h : b = true → b' = true) :
    (places (if b' then .none else .report d)).Sublist
      (places (if b then .none else .report d)) := by
  cases b with
  | true => simp [h rfl]
  | false => cases b' <;> simp

theorem ImmutableData.mutation?_mono {o o' : ImmutableData.Options} (h : o.Relaxes o') {t : Tree}
    {m : Mutation} (hm : mutation? o' t = some m) : mutation? o t = some m := by
  unfold mutation? at hm ⊢
  split at hm
  · exact hm
  · exact hm
  · exact hm
  · -- A call is left alone only under `ignoreImmediateMutation`, whatever else could be said about
    -- it.
    have hflag := h.ignoreImmediateMutation
    cases ho : o.ignoreImmediateMutation with
    | true => rw [ho] at hflag; simpa [hflag rfl] using hm
    | false =>
      simp only [Bool.false_and, Bool.false_eq_true, if_false]
      split at hm
      · rename_i harray
        rw [if_pos harray]
        split at hm
        · cases hm
        · exact hm
      · rename_i harray
        rw [if_neg harray]
        exact hm
  · cases hm

theorem ImmutableData.relaxesChecks {o o' : ImmutableData.Options} (h : o.Relaxes o') :
    immutableData.RelaxesChecks o o' where
  settings := by
    rintro i ⟨⟩
    refine ⟨_, rfl, ?_⟩
    exact { h with
      allowLocalMutation := id, ignoreInterface := id, starts := nofun, ends := nofun }
  runsOn := fun _ => id
  runsOn_of_skip := fun _ _ => id
  places := by
    intro source s
    refine places_ofOption_sublist fun d hd => ?_
    obtain ⟨m, hm, rfl⟩ := Option.map_eq_some_iff.mp hd
    exact Option.map_eq_some_iff.mpr ⟨m, mutation?_mono h hm, rfl⟩

theorem NoLet.relaxesChecks {o o' : NoLet.Options} (h : o.Relaxes o') :
    noLet.RelaxesChecks o o' where
  settings := by
    rintro i ⟨⟩
    exact ⟨_, rfl,
      { h with
        ignoreAccessorPattern := nofun, ignoreClass := Nat.le_refl _, ignoreInterface := id
        starts := nofun, ends := nofun }⟩
  runsOn := fun _ => id
  runsOn_of_skip := fun _ _ => id
  places := by
    intro source s
    change (places (NoLet.check o' source s)).Sublist (places (NoLet.check o source s))
    unfold NoLet.check
    split
    · refine places_unless fun hallowed => ?_
      rw [Bool.and_eq_true] at hallowed ⊢
      exact ⟨hallowed.1, h.allowInForLoopInit hallowed.2⟩
    · exact List.Sublist.refl _

theorem PreferReadonlyType.isAllowedReturn_mono {o o' : PreferReadonlyType.Options}
    (h : o.Relaxes o') {s : Site}
    (hs : isAllowedReturn o s = true) : isAllowedReturn o' s = true := by
  unfold isAllowedReturn at hs ⊢
  rw [Bool.and_eq_true] at hs ⊢
  exact ⟨h.allowMutableReturnType hs.1, hs.2⟩

/-- Relaxed options say nothing about a type that the others say nothing about, and otherwise the
same or nothing. -/
theorem PreferReadonlyType.checkType_mono {o o' : PreferReadonlyType.Options} (h : o.Relaxes o')
    {s : Site} {d : Diagnostic} (hd : checkType o' s = some d) : checkType o s = some d := by
  unfold checkType at hd ⊢
  by_cases ho : (o.ignoreCollections || isAllowedReturn o s) = true
  · have ho' : (o'.ignoreCollections || isAllowedReturn o' s) = true := by
      rw [Bool.or_eq_true] at ho ⊢
      exact ho.imp h.ignoreCollections (isAllowedReturn_mono h)
    rw [if_pos ho'] at hd
    cases hd
  · rw [if_neg ho]
    split at hd
    · cases hd
    · exact hd

theorem PreferReadonlyType.checkProperty_mono {o o' : PreferReadonlyType.Options} (h : o.Relaxes o')
    {source : Text}
    {s : Site} {d : Diagnostic} (hd : checkProperty o' source s = some d) :
    checkProperty o source s = some d := by
  have hallowed : ∀ {isReadonly : Bool}, ¬ (isReadonly || isAllowedReturn o' s) = true →
      ¬ (isReadonly || isAllowedReturn o s) = true := by
    intro isReadonly hno
    rw [Bool.or_eq_true] at hno ⊢
    exact fun hyes => hno (hyes.imp_right (isAllowedReturn_mono h))
  unfold checkProperty at hd ⊢
  split at hd
  · split at hd
    · cases hd
    · rename_i hno
      rw [if_neg (hallowed hno)]
      exact hd
  · split at hd
    · cases hd
    · rename_i hno
      rw [if_neg (hallowed hno)]
      exact hd
  · exact hd
  · exact hd
  · cases hd

theorem PreferReadonlyType.relaxesChecks {o o' : PreferReadonlyType.Options} (h : o.Relaxes o') :
    preferReadonlyType.RelaxesChecks o o' where
  settings := by
    rintro i ⟨⟩
    exact ⟨_, rfl, { h with ignoreAccessorPattern := nofun, starts := nofun, ends := nofun }⟩
  runsOn := fun _ => id
  runsOn_of_skip := fun _ _ => id
  places := by
    intro source s
    change (places (PreferReadonlyType.check o' source s)).Sublist
      (places (PreferReadonlyType.check o source s))
    unfold PreferReadonlyType.check
    split
    · exact places_ofOption_sublist fun _ => checkType_mono h
    · exact places_ofOption_sublist fun _ => checkType_mono h
    · exact places_ofOption_sublist fun _ => checkType_mono h
    · exact places_ofOption_sublist fun _ => checkProperty_mono h

theorem NoMethodSignature.relaxesChecks {o o' : NoMethodSignature.Options} (h : o.Relaxes o') :
    noMethodSignature.RelaxesChecks o o' where
  settings := nofun
  runsOn := fun _ => id
  runsOn_of_skip := nofun
  places := by
    intro source s
    refine places_unless fun hleft => ?_
    rw [Bool.or_eq_true, Bool.and_eq_true] at hleft ⊢
    exact hleft.imp_right fun hreadonly => ⟨h.ignoreIfReadonly hreadonly.1, hreadonly.2⟩

theorem NoMixedType.relaxesChecks {o o' : NoMixedType.Options} (h : o.Relaxes o') :
    noMixedType.RelaxesChecks o o' where
  settings := nofun
  runsOn := by
    intro l hl
    change NoMixedType.runsOn o' l = true at hl
    change NoMixedType.runsOn o l = true
    unfold NoMixedType.runsOn at hl ⊢
    split at hl
    · exact h.checkInterfaces hl
    · exact h.checkTypeLiterals hl
    · cases hl
  runsOn_of_skip := nofun
  places := fun _ _ => List.Sublist.refl _

theorem NoExpressionStatement.relaxesChecks {o o' : NoExpressionStatement.Options}
    (h : o.Relaxes o') :
    noExpressionStatement.RelaxesChecks o o' where
  settings := by
    rintro i ⟨⟩
    exact ⟨_, rfl,
      { ignorePattern := h.ignorePattern, starts := h.ignorePrefix, ends := h.ignoreSuffix
        allowLocalMutation := id, ignoreAccessorPattern := nofun
        ignoreClass := Nat.le_refl _, ignoreInterface := id }⟩
  runsOn := fun _ => id
  runsOn_of_skip := nofun
  places := by
    intro source s
    refine places_unless fun hleft => ?_
    rw [Bool.or_eq_true, Bool.and_eq_true] at hleft ⊢
    exact hleft.imp_right fun hvoid => ⟨h.ignoreVoid hvoid.1, hvoid.2⟩

theorem NoThrowStatement.relaxesChecks {o o' : NoThrowStatement.Options} (h : o.Relaxes o') :
    noThrowStatement.RelaxesChecks o o' where
  settings := nofun
  runsOn := fun _ => id
  runsOn_of_skip := nofun
  places := by
    intro source s
    refine places_unless fun hleft => ?_
    rw [Bool.or_eq_true, Bool.and_eq_true] at hleft ⊢
    exact hleft.imp_right fun hasync => ⟨h.allowInAsyncFunctions hasync.1, hasync.2⟩

/-- Whether the statement at a site is reported, for what it catches or for what it finishes. -/
def NoTryStatement.isReported (o : NoTryStatement.Options) (s : Site) : Bool :=
  runsOn s.label &&
    ((s.tree.children.any isHandler && !o.allowCatch) || (hasFinalizer s.tree && !o.allowFinally))

theorem NoTryStatement.places_check (o : NoTryStatement.Options) (source : Text) (s : Site) :
    places (NoTryStatement.check o source s) =
      if isReported o s then [("no-try-statement", s.span.start, s.span.stop)] else [] := by
  unfold NoTryStatement.check isReported
  cases runsOn s.label with
  | false => rfl
  | true =>
    cases s.tree.children.any isHandler && !o.allowCatch with
    | true => rfl
    | false => cases hasFinalizer s.tree && !o.allowFinally <;> rfl

/-- Allowing `catch` may put the report of `finally` in the place of the other, but no report where
there was none. -/
theorem NoTryStatement.isReported_mono {o o' : NoTryStatement.Options} (h : o.Relaxes o') {s : Site}
    (hs : isReported o' s = true) : isReported o s = true := by
  have hflag : ∀ {b b' : Bool}, b ≤ b' → (!b') = true → (!b) = true := by
    intro b b' hle hb'
    cases b with
    | true => rw [hle rfl] at hb'; cases hb'
    | false => rfl
  unfold isReported at hs ⊢
  simp only [Bool.and_eq_true, Bool.or_eq_true] at hs ⊢
  refine ⟨hs.1, hs.2.imp ?_ ?_⟩
  · exact fun hcatch => ⟨hcatch.1, hflag h.allowCatch hcatch.2⟩
  · exact fun hfinally => ⟨hfinally.1, hflag h.allowFinally hfinally.2⟩

theorem NoTryStatement.relaxesChecks {o o' : NoTryStatement.Options} (h : o.Relaxes o') :
    noTryStatement.RelaxesChecks o o' where
  settings := nofun
  runsOn := fun _ => id
  runsOn_of_skip := nofun
  places := by
    intro source s
    change (places (NoTryStatement.check o' source s)).Sublist
      (places (NoTryStatement.check o source s))
    rw [places_check, places_check]
    by_cases hs : isReported o' s = true
    · simp [hs, isReported_mono h hs]
    · simp [hs]

theorem FunctionalParameters.countReports_mono {span : Span} {n : Nat} {c c' : ParameterCount}
    (h : c.rank ≤ c'.rank) :
    ((countReports span n c').map Diagnostic.place).Sublist
      ((countReports span n c).map Diagnostic.place) := by
  cases c with
  | atLeastOne =>
    cases c' with
    | atLeastOne => exact List.Sublist.refl _
    | exactlyOne => exact absurd h (by decide)
  | exactlyOne =>
    cases c' with
    | exactlyOne => exact List.Sublist.refl _
    | atLeastOne =>
      -- No parameter at all is too few for either count, and both report the function.
      unfold countReports
      by_cases hn : n = 0
      · simp [hn, Diagnostic.place, Diagnostic.plain]
      · simp [hn]

theorem FunctionalParameters.parameterReports_mono {o o' : FunctionalParameters.Options}
    (h : o.Relaxes o') (s : Site) :
    ((parameterReports o' s).map Diagnostic.place).Sublist
      ((parameterReports o s).map Diagnostic.place) := by
  unfold parameterReports
  rw [List.map_append, List.map_append]
  refine List.Sublist.append ?_ ?_
  · unfold restReports
    have hrest := h.allowRestParameter
    cases ho : o.allowRestParameter with
    | true => rw [ho] at hrest; simp [hrest rfl]
    | false => cases o'.allowRestParameter <;> simp
  · have hcount := h.enforceParameterCount
    cases he' : o'.enforceParameterCount with
    | none => exact List.nil_sublist _
    | some e' =>
      cases he : o.enforceParameterCount with
      | none => rw [he, he'] at hcount; exact hcount.elim
      | some e =>
        rw [he, he'] at hcount
        obtain ⟨hrank, hcalled⟩ := hcount
        by_cases hleft' : (isAccessor s || (e'.ignoreIIFE && s.isImmediatelyCalled)) = true
        · simp [hleft']
        · have hleft : ¬ (isAccessor s || (e.ignoreIIFE && s.isImmediatelyCalled)) = true := by
            rw [Bool.or_eq_true, Bool.and_eq_true] at hleft' ⊢
            exact fun hyes => hleft' (hyes.imp_right fun hiife => ⟨hcalled hiife.1, hiife.2⟩)
          simp only [if_neg hleft', if_neg hleft]
          exact countReports_mono hrank

theorem FunctionalParameters.relaxesChecks {o o' : FunctionalParameters.Options}
    (h : o.Relaxes o') :
    functionalParameters.RelaxesChecks o o' where
  settings := by
    rintro i ⟨⟩
    exact ⟨_, rfl,
      { ignorePattern := h.ignorePattern, allowLocalMutation := id, ignoreAccessorPattern := nofun
        ignoreClass := Nat.le_refl _, ignoreInterface := id, starts := nofun, ends := nofun }⟩
  runsOn := by
    intro l hl
    change FunctionalParameters.runsOn o' l = true at hl
    change FunctionalParameters.runsOn o l = true
    unfold FunctionalParameters.runsOn at hl ⊢
    split at hl
    · rfl
    · rfl
    · have hflag := h.allowArgumentsKeyword
      cases ho : o.allowArgumentsKeyword with
      | true => rw [ho] at hflag; simp [hflag rfl] at hl
      | false => simpa using (Bool.and_eq_true_iff.mp hl).2
    · cases hl
  runsOn_of_skip := nofun
  places := by
    intro source s
    change (places (FunctionalParameters.check o' source s)).Sublist
      (places (FunctionalParameters.check o source s))
    unfold FunctionalParameters.check
    split
    · split
      · exact parameterReports_mono h s
      · exact List.Sublist.refl _
    · exact parameterReports_mono h s
    · exact List.Sublist.refl _
    · exact List.Sublist.refl _

theorem relaxesChecks_same {d : Definition} (o : d.Options) (hignore : d.ignore o = Option.none) :
    d.RelaxesChecks o o where
  settings := by simp [hignore]
  runsOn := fun _ => id
  runsOn_of_skip := fun _ _ => id
  places := fun _ _ => List.Sublist.refl _

end Rules

theorem Definition.Relaxes.relaxesChecks {d : Definition} {o o' : d.Options} (h : d.Relaxes o o') :
    d ∈ Registry.definitions ∧ d.RelaxesChecks o o' := by
  cases h with
  | immutableData h =>
    exact ⟨by simp [Registry.mem_definitions_iff], Rules.ImmutableData.relaxesChecks h⟩
  | noLet h => exact ⟨by simp [Registry.mem_definitions_iff], Rules.NoLet.relaxesChecks h⟩
  | preferReadonlyType h =>
    exact ⟨by simp [Registry.mem_definitions_iff], Rules.PreferReadonlyType.relaxesChecks h⟩
  | noMethodSignature h =>
    exact ⟨by simp [Registry.mem_definitions_iff], Rules.NoMethodSignature.relaxesChecks h⟩
  | noMixedType h =>
    exact ⟨by simp [Registry.mem_definitions_iff], Rules.NoMixedType.relaxesChecks h⟩
  | noExpressionStatement h =>
    exact ⟨by simp [Registry.mem_definitions_iff], Rules.NoExpressionStatement.relaxesChecks h⟩
  | noThisExpression =>
    exact ⟨by simp [Registry.mem_definitions_iff], Rules.relaxesChecks_same _ rfl⟩
  | noClass => exact ⟨by simp [Registry.mem_definitions_iff], Rules.relaxesChecks_same _ rfl⟩
  | noLoopStatement =>
    exact ⟨by simp [Registry.mem_definitions_iff], Rules.relaxesChecks_same _ rfl⟩
  | noThrowStatement h =>
    exact ⟨by simp [Registry.mem_definitions_iff], Rules.NoThrowStatement.relaxesChecks h⟩
  | noTryStatement h =>
    exact ⟨by simp [Registry.mem_definitions_iff], Rules.NoTryStatement.relaxesChecks h⟩
  | functionalParameters h =>
    exact ⟨by simp [Registry.mem_definitions_iff], Rules.FunctionalParameters.relaxesChecks h⟩
  | noPromiseReject =>
    exact ⟨by simp [Registry.mem_definitions_iff], Rules.relaxesChecks_same _ rfl⟩

/-! ## Whole runs -/

theorem Definition.RelaxesChecks.ignores {d : Definition} {o o' : d.Options}
    (h : d.RelaxesChecks o o')
    {i i' : Option IgnoreOptions} (hi : d.Exempts o i) (hi' : d.Exempts o' i') {source : Text}
    {s : Site} (hfield : Ignore.FieldInClass s) (hs : (d.toRule o i).ignores source s = true) :
    (d.toRule o' i').ignores source s = true := by
  unfold Exempts at hi hi'
  cases hsettings : d.ignore o with
  | none =>
    rw [hsettings] at hi
    subst hi
    cases hs
  | some settings =>
    obtain ⟨settings', hsettings', hrelaxes⟩ := h.settings settings hsettings
    rw [Option.mem_def] at hsettings'
    rw [hsettings] at hi
    rw [hsettings'] at hi'
    obtain ⟨c, hc, rfl⟩ := hi
    obtain ⟨c', hc', rfl⟩ := hi'
    exact Ignore.shouldIgnore_mono (hrelaxes.compile hc hc') hfield hs

/-- On every tree whose class fields lie in classes, a rule of the registry under relaxed options
reports places that it reported before, in the same order. -/
theorem relaxed_run_sublist {d : Definition} {o o' : d.Options} (h : d.Relaxes o o') {r r' : Rule}
    (hr : d.withOptions o = .ok r) (hr' : d.withOptions o' = .ok r') (source : Text) (tree : Tree)
    (hfields : ∀ s ∈ tree.sites, Ignore.FieldInClass s) (severity : Severity) :
    ((Runner.run source tree [⟨r', severity⟩]).map Diagnostic.place).Sublist
      ((Runner.run source tree [⟨r, severity⟩]).map Diagnostic.place) := by
  obtain ⟨hd, hrelaxes⟩ := h.relaxesChecks
  obtain ⟨i, hi, rfl⟩ := Definition.withOptions_eq_ok_iff.mp hr
  obtain ⟨i', hi', rfl⟩ := Definition.withOptions_eq_ok_iff.mp hr'
  refine Rule.IsLaxer.run_sublist ?_ severity
  exact
    { runsOn := fun t => hrelaxes.runsOn t.label
      skipIgnoredSubtree := rfl
      runsOn_of_skip := fun hskip t => hrelaxes.runsOn_of_skip hskip t.label
      skipChildren := fun s => (Registry.signedBy_of_mem hd o source s).skipChildren_eq
      at_site := fun s hs => ⟨hrelaxes.ignores hi hi' (hfields s hs), hrelaxes.places source s⟩ }

/-- A statement that catches and finishes. -/
def guardedBlock : Tree :=
  .node .program ⟨0, 40⟩
    [.node .tryStatement ⟨2, 40⟩
      [.node .blockStatement ⟨6, 8⟩ [], .node .catchClause ⟨9, 25⟩ [],
        .node .blockStatement ⟨35, 40⟩ []]]

/-- The rule about such statements, where catching may be allowed. -/
def catching (allowCatch : Bool) : ConfiguredRule :=
  ⟨Rules.noTryStatement.toRule { allowCatch } none, .error⟩

theorem relaxed_run_sublist_guardedBlock :
    ((Runner.run [] guardedBlock [catching true]).map Diagnostic.place).Sublist
        ((Runner.run [] guardedBlock [catching false]).map Diagnostic.place) ∧
      (Runner.run [] guardedBlock [catching false]).map (·.id) = ["catch"] ∧
      (Runner.run [] guardedBlock [catching true]).map (·.id) = ["finally"] := by
  have hrelaxes :
      Rules.noTryStatement.Relaxes ({} : Rules.NoTryStatement.Options) { allowCatch := true } :=
    .noTryStatement ⟨nofun, id⟩
  refine ⟨?_, rfl, rfl⟩
  exact relaxed_run_sublist hrelaxes rfl rfl [] guardedBlock (by decide) .error

end PureLint
