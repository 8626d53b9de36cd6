import PureLint.Config

/-!
# Rules of the registry

What is known about a rule that was built from a definition of the registry, under any options: the
rule has the name of its definition, every report it makes carries that name, it never hides what is
below a node it has looked at, and only `preferReadonlyType` mends what it reports
(`signedBy_of_mem`).
-/

namespace PureLint

/-! ## Building a rule -/

namespace Definition

/-- Whether the options of a definition make these exemptions. -/
def Exempts (d : Definition) (o : d.Options) (i : Option IgnoreOptions) : Prop :=
  match d.ignore o with
  | none => i = none
  | some settings => ∃ compiled, settings.compile = .ok compiled ∧ i = some compiled

theorem withOptions_eq_ok_iff {d : Definition} {o : d.Options} {r : Rule} :
    d.withOptions o = .ok r ↔ ∃ i, d.Exempts o i ∧ r = d.toRule o i := by
  unfold withOptions Exempts
  cases d.ignore o with
  | none => simp [eq_comm]
  | some settings => cases hc : settings.compile <;> simp [hc, Except.map, eq_comm]

theorem withOptions_name {d : Definition} {o : d.Options} {r : Rule} (h : d.withOptions o = .ok r) :
    r.name = d.name := by
  obtain ⟨i, _, rfl⟩ := withOptions_eq_ok_iff.mp h
  rfl

theorem build_eq_ok_iff {d : Definition} {options : Option Json} {r : Rule} :
    d.build options = .ok r ↔ ∃ o, d.readOptions options = .ok o ∧ d.withOptions o = .ok r := by
  unfold build
  cases d.readOptions options with
  | error e => simp
  | ok o => cases hr : d.withOptions o <;> simp [hr]

end Definition

/-- Whether a rule is one of the registry, under some options. -/
def Rule.IsRegistered (r : Rule) : Prop :=
  ∃ d ∈ Registry.definitions, ∃ o : d.Options, d.withOptions o = .ok r

namespace Registry

theorem names_nodup : names.Nodup := by decide

theorem exists_of_find? {name : Text} {d : Definition} (h : find? name = some d) :
    d ∈ definitions ∧ d.name.toList = name := by
  have hname : (d.name.toList == name) = true :=
    List.find?_some (p := fun d : Definition => d.name.toList == name) h
  exact ⟨List.mem_of_find?_eq_some h, by simpa using hname⟩

theorem build_eq_ok {name : Text} {options : Option Json} {r : Rule}
    (h : build name options = .ok r) : r.IsRegistered ∧ r.name.toList = name := by
  unfold build at h
  split at h
  · cases h
  · rename_i d hfind
    obtain ⟨hd, hname⟩ := exists_of_find? hfind
    split at h
    · rename_i r' hbuild
      obtain rfl := Except.ok.inj h
      obtain ⟨o, _, hr⟩ := Definition.build_eq_ok_iff.mp hbuild
      exact ⟨⟨d, hd, o, hr⟩, by rw [Definition.withOptions_name hr, hname]⟩
    · cases h
    · cases h

theorem isRegistered_of_mem_defaultRules {c : ConfiguredRule} (h : c ∈ defaultRules) :
    c.rule.IsRegistered := by
  obtain ⟨d, hd, hbuild⟩ := List.mem_filterMap.mp h
  split at hbuild
  · rename_i r hr
    obtain rfl := Option.some.inj hbuild
    obtain ⟨o, _, ho⟩ := Definition.build_eq_ok_iff.mp hr
    exact ⟨d, hd, o, ho⟩
  · cases hbuild

/-- Every definition builds with its defaults, so the default rules have all names in order. -/
theorem defaultRules_names : defaultRules.map (·.rule.name) = names := rfl

end Registry

/-! ## What rules report -/

namespace CheckResult

/-- What is common to the reports of a rule: they carry its name, they have no replacements unless
the rule mends, and nothing below the site is hidden. -/
structure SignedBy (name : String) (mends : Bool) (r : CheckResult) : Prop where
  name_eq : ∀ d ∈ r.diagnostics, d.rule = name
  fixes_eq : mends = false → ∀ d ∈ r.diagnostics, d.fixes = []
  skipChildren_eq : r.skipChildren = false

variable {name : String} {mends : Bool}

theorem SignedBy.none : SignedBy name mends .none where
  name_eq := by simp [CheckResult.none]
  fixes_eq := by simp [CheckResult.none]
  skipChildren_eq := rfl

theorem SignedBy.report {d : Diagnostic} (hname : d.rule = name)
    (hfixes : mends = false → d.fixes = []) :
    SignedBy name mends (.report d) where
  name_eq := by simpa [CheckResult.report] using hname
  fixes_eq := by simpa [CheckResult.report] using hfixes
  skipChildren_eq := rfl

theorem SignedBy.ofOption {d : Option Diagnostic} (hname : ∀ x ∈ d, x.rule = name)
    (hfixes : mends = false → ∀ x ∈ d, x.fixes = []) : SignedBy name mends (.ofOption d) where
  name_eq := by simpa [CheckResult.ofOption] using hname
  fixes_eq := by simpa [CheckResult.ofOption] using hfixes
  skipChildren_eq := rfl

end CheckResult

namespace Rules

open CheckResult

theorem ImmutableData.check_signedBy (o : ImmutableData.Options) (source : Text) (s : Site) :
    (ImmutableData.check o source s).SignedBy "immutable-data" false := by
  have hreport : ∀ m, (ImmutableData.report s.span m).rule = "immutable-data" ∧
      (ImmutableData.report s.span m).fixes = [] := by
    intro m
    cases m <;> exact ⟨rfl, rfl⟩
  refine .ofOption (fun d hd => ?_) fun _ d hd => ?_
  all_goals
    obtain ⟨m, _, rfl⟩ := Option.map_eq_some_iff.mp hd
  · exact (hreport m).1
  · exact (hreport m).2

theorem NoLet.check_signedBy (o : NoLet.Options) (source : Text) (s : Site) :
    (NoLet.check o source s).SignedBy "no-let" false := by
  unfold NoLet.check
  split
  · split
    · exact .none
    · exact .report rfl fun _ => rfl
  · exact .none

theorem PreferReadonlyType.checkType_rule {o : PreferReadonlyType.Options} {s : Site}
    {d : Diagnostic}
    (h : PreferReadonlyType.checkType o s = some d) : d.rule = "prefer-readonly-type" := by
  unfold PreferReadonlyType.checkType at h
  split at h
  · cases h
  · split at h
    · split at h <;> cases h
      rfl
    · split at h <;> cases h
      rfl
    · obtain ⟨form, _, rfl⟩ := Option.map_eq_some_iff.mp h
      rfl
    · cases h

theorem PreferReadonlyType.checkProperty_rule {o : PreferReadonlyType.Options} {source : Text}
    {s : Site}
    {d : Diagnostic} (h : PreferReadonlyType.checkProperty o source s = some d) :
    d.rule = "prefer-readonly-type" := by
  unfold PreferReadonlyType.checkProperty at h
  split at h
  · split at h <;> cases h
    rfl
  · split at h <;> cases h
    rfl
  · split at h
    · cases h
    · obtain ⟨key, _, rfl⟩ := Option.map_eq_some_iff.mp h
      rfl
  · split at h
    · cases h
    · obtain ⟨pattern, _, rfl⟩ := Option.map_eq_some_iff.mp h
      rfl
  · cases h

theorem PreferReadonlyType.check_signedBy (o : PreferReadonlyType.Options) (source : Text)
    (s : Site) : (PreferReadonlyType.check o source s).SignedBy "prefer-readonly-type" true := by
  unfold PreferReadonlyType.check
  split
  all_goals refine .ofOption (fun d hd => ?_) nofun
  · exact checkType_rule hd
  · exact checkType_rule hd
  · exact checkType_rule hd
  · exact checkProperty_rule hd

theorem NoMethodSignature.check_signedBy (o : NoMethodSignature.Options) (source : Text)
    (s : Site) : (NoMethodSignature.check o source s).SignedBy "no-method-signature" false := by
  unfold NoMethodSignature.check
  split
  · exact .none
  · exact .report rfl fun _ => rfl

theorem NoMixedType.check_signedBy (o : NoMixedType.Options) (source : Text) (s : Site) :
    (NoMixedType.check o source s).SignedBy "no-mixed-type" false := by
  unfold NoMixedType.check
  split
  · exact .report rfl fun _ => rfl
  · exact .none

theorem NoExpressionStatement.check_signedBy (o : NoExpressionStatement.Options) (source : Text)
    (s : Site) :
    (NoExpressionStatement.check o source s).SignedBy "no-expression-statement" false := by
  unfold NoExpressionStatement.check
  split
  · exact .none
  · exact .report rfl fun _ => rfl

theorem NoThisExpression.check_signedBy (s : Site) :
    (NoThisExpression.check s).SignedBy "no-this-expression" false := by
  unfold NoThisExpression.check
  split
  · exact .report rfl fun _ => rfl
  · exact .none

theorem NoClass.check_signedBy (s : Site) : (NoClass.check s).SignedBy "no-class" false := by
  unfold NoClass.check
  split
  · exact .report rfl fun _ => rfl
  · exact .none

theorem NoLoopStatement.check_signedBy (s : Site) :
    (NoLoopStatement.check s).SignedBy "no-loop-statement" false :=
  .report rfl fun _ => rfl

theorem NoThrowStatement.check_signedBy (o : NoThrowStatement.Options) (source : Text) (s : Site) :
    (NoThrowStatement.check o source s).SignedBy "no-throw-statement" false := by
  unfold NoThrowStatement.check
  split
  · exact .none
  · exact .report rfl fun _ => rfl

theorem NoTryStatement.check_signedBy (o : NoTryStatement.Options) (source : Text) (s : Site) :
    (NoTryStatement.check o source s).SignedBy "no-try-statement" false := by
  unfold NoTryStatement.check
  split
  · exact .none
  · split
    · exact .report rfl fun _ => rfl
    · split
      · exact .report rfl fun _ => rfl
      · exact .none

theorem FunctionalParameters.mem_parameterReports {o : FunctionalParameters.Options} {s : Site}
    {d : Diagnostic}
    (h : d ∈ FunctionalParameters.parameterReports o s) :
    d.rule = "functional-parameters" ∧ d.fixes = [] := by
  rcases List.mem_append.mp h with h | h
  · unfold restReports at h
    split at h
    · cases h
    · split at h
      · rw [List.mem_singleton.mp h]
        exact ⟨rfl, rfl⟩
      · cases h
  · split at h
    · cases h
    · split at h
      · cases h
      · unfold countReports at h
        split at h
        all_goals
          split at h
          · simp_all [Diagnostic.plain]
          · simp_all [Diagnostic.plain]

theorem FunctionalParameters.check_signedBy (o : FunctionalParameters.Options) (source : Text)
    (s : Site) :
    (FunctionalParameters.check o source s).SignedBy "functional-parameters" false := by
  have hparameters :
      SignedBy "functional-parameters" false { diagnostics := parameterReports o s } :=
    ⟨fun _ hd => (mem_parameterReports hd).1, fun _ _ hd => (mem_parameterReports hd).2, rfl⟩
  unfold FunctionalParameters.check
  split
  · split
    · exact hparameters
    · exact .none
  · exact hparameters
  · exact .report rfl fun _ => rfl
  · exact .none

theorem NoPromiseReject.check_signedBy (s : Site) :
    (NoPromiseReject.check s).SignedBy "no-promise-reject" false := by
  unfold NoPromiseReject.check
  split
  · exact .report rfl fun _ => rfl
  · exact .none

end Rules

theorem Registry.mem_definitions_iff {d : Definition} :
    d ∈ definitions ↔ d = Rules.immutableData ∨ d = Rules.noLet ∨ d = Rules.preferReadonlyType ∨
      d = Rules.noMethodSignature ∨ d = Rules.noMixedType ∨ d = Rules.noExpressionStatement ∨
      d = Rules.noThisExpression ∨ d = Rules.noClass ∨ d = Rules.noLoopStatement ∨
      d = Rules.noThrowStatement ∨ d = Rules.noTryStatement ∨ d = Rules.functionalParameters ∨
      d = Rules.noPromiseReject := by
  simp [definitions]

/-- Every rule signs its reports, and `preferReadonlyType` is the only one that mends. -/
theorem Registry.signedBy_of_mem {d : Definition} (h : d ∈ definitions) (o : d.Options)
    (source : Text) (s : Site) :
    (d.check o source s).SignedBy d.name (d.name == Rules.preferReadonlyType.name) := by
  obtain rfl | rfl | rfl | rfl | rfl | rfl | rfl | rfl | rfl | rfl | rfl | rfl | rfl :=
    mem_definitions_iff.mp h
  · exact Rules.ImmutableData.check_signedBy o source s
  · exact Rules.NoLet.check_signedBy o source s
  · exact Rules.PreferReadonlyType.check_signedBy o source s
  · exact Rules.NoMethodSignature.check_signedBy o source s
  · exact Rules.NoMixedType.check_signedBy o source s
  · exact Rules.NoExpressionStatement.check_signedBy o source s
  · exact Rules.NoThisExpression.check_signedBy s
  · exact Rules.NoClass.check_signedBy s
  · exact Rules.NoLoopStatement.check_signedBy s
  · exact Rules.NoThrowStatement.check_signedBy o source s
  · exact Rules.NoTryStatement.check_signedBy o source s
  · exact Rules.FunctionalParameters.check_signedBy o source s
  · exact Rules.NoPromiseReject.check_signedBy s

end PureLint
