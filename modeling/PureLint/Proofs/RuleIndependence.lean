import PureLint.Lint
import PureLint.Proofs.LastAddition
import PureLint.Proofs.PrunedWalk

/-!
# Rules do not interfere

All rules go through a tree together, site after site, but each keeps its own list of hidden nodes
and is asked about a site without regard to the others. So what is kept of a run when only the
reports of one name are selected is the run of the rules of that name alone (`filter_run`): one site
does so (`offerAll_filter_fst`, `offerAll_filter_snd`), and then all sites one after the other. In a
configuration of registered rules every name stands for one rule, and every report carries the name
of the rule that made it.
-/

namespace PureLint

/-! ## Configurations -/

/-- Rule sets that are put together from rules of the registry under any options and at any
severity, beginning with nothing or with the default rules. -/
inductive RuleSet.IsConfiguration : RuleSet → Prop
  | none : IsConfiguration []
  | default : IsConfiguration Registry.defaultRules
  | push {rules : RuleSet} {r : Rule} (s : Severity) (h : IsConfiguration rules)
    (hr : r.IsRegistered) :
    IsConfiguration (rules.push r s)

namespace RuleSet.IsConfiguration

variable {rules : RuleSet}

theorem nodup_names (h : rules.IsConfiguration) : rules.names.Nodup := by
  induction h with
  | none => exact nodup_names_start (.inl rfl)
  | default => exact nodup_names_start (.inr rfl)
  | push s _ _ ih => exact nodup_names_push ih _ s

theorem isRegistered (h : rules.IsConfiguration) : ∀ c ∈ rules, c.rule.IsRegistered := by
  induction h with
  | none => simp
  | default => exact fun _ => Registry.isRegistered_of_mem_defaultRules
  | push s _ hr ih =>
    intro c hc
    rcases List.mem_append.mp hc with hc | hc
    · exact ih c (List.mem_of_mem_filter hc)
    · rw [List.mem_singleton.mp hc]
      exact hr

theorem of_addEntries {entries : List (Text × Json)} {rules' : RuleSet} (h : rules.IsConfiguration)
    (hadd : Config.addEntries rules entries = .ok rules') : rules'.IsConfiguration := by
  induction entries generalizing rules with
  | nil =>
    obtain rfl := Except.ok.inj hadd
    exact h
  | cons entry rest ih =>
    obtain ⟨name, v⟩ := entry
    rw [Config.addEntries] at hadd
    split at hadd
    · rename_i next hnext
      refine ih ?_ hadd
      unfold Config.addEntry RuleSet.pushNamed at hnext
      -- An entry that is off leaves the rules as they are, and any other adds the rule that is
      -- built.
      split at hnext
      · cases hnext
      · cases hbuild : Registry.build name Option.none with
        | error e => rw [hbuild] at hnext; cases hnext
        | ok r =>
          rw [hbuild] at hnext
          obtain rfl := Except.ok.inj hnext
          exact h
      · rename_i s options _
        cases hbuild : Registry.build name options with
        | error e => rw [hbuild] at hnext; cases hnext
        | ok r =>
          rw [hbuild] at hnext
          obtain rfl := Except.ok.inj hnext
          exact h.push s (Registry.build_eq_ok hbuild).1
    · cases hadd

theorem of_rulesOf {config : Option Text} (h : rulesOf config = .ok rules) :
    rules.IsConfiguration := by
  cases config with
  | none =>
    obtain rfl := Except.ok.inj h
    exact .default
  | some text =>
    simp only [rulesOf, Config.parse] at h
    split at h
    · rename_i rules' hparse
      obtain rfl := Except.ok.inj h
      split at hparse
      · cases hparse
      · exact of_addEntries .none hparse
    · cases h

end RuleSet.IsConfiguration

/-! ## One name in a run -/

theorem Walk.exists_check_of_mem_visit {source : Text} {s : Site} {c : ConfiguredRule} {p : Bool}
    {d : Diagnostic}
    (h : d ∈ (visit source s (c, p)).1) :
    ∃ x ∈ (c.rule.check source s).diagnostics, d = x.withSeverity c.severity := by
  unfold visit at h
  split at h
  · cases h
  · rename_i heq
    cases heq
    split at h
    · split at h
      · cases h
      · obtain ⟨x, hx, rfl⟩ := List.mem_map.mp h
        exact ⟨x, hx, rfl⟩
    · cases h

namespace Runner

/-- Whether every report of a rule carries its name. -/
def SignsReports (r : Rule) : Prop :=
  ∀ source s, ∀ d ∈ (r.check source s).diagnostics, d.rule = r.name

theorem signsReports_of_isRegistered {r : Rule} (h : r.IsRegistered) : SignsReports r := by
  obtain ⟨d, hd, o, ho⟩ := h
  obtain ⟨i, _, rfl⟩ := Definition.withOptions_eq_ok_iff.mp ho
  exact fun source s => (Registry.signedBy_of_mem hd o source s).name_eq

/-- Whether a rule, with what is hidden from it, has a certain name. -/
def isNamed (name : String) (p : ConfiguredRule × Hidden) : Bool := p.1.rule.name == name

theorem offer_rule {c : ConfiguredRule} (h : SignsReports c.rule) (source : Text) (s : Site)
    (hidden : Hidden) : ∀ d ∈ (offer source s c hidden).1, d.rule = c.rule.name := by
  intro d hd
  rw [offer_eq_visit] at hd
  obtain ⟨x, hx, rfl⟩ := Walk.exists_check_of_mem_visit hd
  exact h source s x hx

theorem offerAll_filter_fst {source : Text} {s : Site} (name : String)
    {state : List (ConfiguredRule × Hidden)} (h : ∀ p ∈ state, SignsReports p.1.rule) :
    (offerAll source s state).1.filter (·.rule == name) =
      (offerAll source s (state.filter (isNamed name))).1 := by
  induction state with
  | nil => rfl
  | cons p rest ih =>
    have hrest := ih fun q hq => h q (List.mem_cons_of_mem p hq)
    have hp := offer_rule (h p List.mem_cons_self) source s p.2
    rw [offerAll, List.filter_append, hrest]
    by_cases hname : p.1.rule.name = name
    · rw [List.filter_cons_of_pos (by simp [isNamed, hname]), offerAll]
      congr 1
      exact List.filter_eq_self.mpr fun d hd => by simp [hp d hd, hname]
    · rw [List.filter_cons_of_neg (by simp [isNamed, hname]), List.filter_eq_nil_iff.mpr,
        List.nil_append]
      exact fun d hd => by simp [hp d hd, hname]

/-- What is hidden from the rules of one name at a site does not depend on the other rules. -/
theorem offerAll_filter_snd {source : Text} {s : Site} (name : String)
    (state : List (ConfiguredRule × Hidden)) :
    (offerAll source s state).2.filter (isNamed name) =
      (offerAll source s (state.filter (isNamed name))).2 := by
  rw [offerAll_snd, offerAll_snd, List.filter_map]
  rfl

theorem filter_runSites {source : Text} (name : String) {sites : List Site}
    {state : List (ConfiguredRule × Hidden)} (h : ∀ p ∈ state, SignsReports p.1.rule) :
    (runSites source sites state).filter (·.rule == name) =
      runSites source sites (state.filter (isNamed name)) := by
  induction sites generalizing state with
  | nil => rfl
  | cons s ss ih =>
    have hafter : ∀ p ∈ (offerAll source s state).2, SignsReports p.1.rule := by
      rw [offerAll_snd]
      intro p hp
      obtain ⟨q, hq, rfl⟩ := List.mem_map.mp hp
      exact h q hq
    rw [runSites, runSites, List.filter_append, offerAll_filter_fst name h, ih hafter,
      offerAll_filter_snd]

/-- The reports of one name in a run are the run of the rules of that name. -/
theorem filter_run {rules : RuleSet} (h : ∀ c ∈ rules, SignsReports c.rule) (source : Text)
    (tree : Tree) (name : String) :
    (run source tree rules).filter (·.rule == name) =
      run source tree (rules.filter fun c => c.rule.name == name) := by
  have hstate : ∀ p ∈ rules.map fun c => (c, ([] : Hidden)), SignsReports p.1.rule := by
    intro p hp
    obtain ⟨c, hc, rfl⟩ := List.mem_map.mp hp
    exact h c hc
  rw [run, filter_runSites name hstate, List.filter_map]
  rfl

theorem exists_check_of_mem_runSites {source : Text} {sites : List Site}
    {state : List (ConfiguredRule × Hidden)}
    {d : Diagnostic} (h : d ∈ runSites source sites state) :
    ∃ p ∈ state, ∃ s ∈ sites, ∃ x ∈ (p.1.rule.check source s).diagnostics,
      d = x.withSeverity p.1.severity := by
  induction sites generalizing state with
  | nil => cases h
  | cons s ss ih =>
    rw [runSites_cons, Walk.reports, List.mem_append, List.mem_flatMap] at h
    rcases h with ⟨q, hq, hd⟩ | h
    · obtain ⟨p, hp, rfl⟩ := List.mem_map.mp hq
      obtain ⟨x, hx, hxd⟩ := Walk.exists_check_of_mem_visit hd
      exact ⟨p, hp, s, List.mem_cons_self, x, hx, hxd⟩
    · obtain ⟨p', hp', t, ht, x, hx, hxd⟩ := ih h
      rw [offerAll_snd] at hp'
      obtain ⟨p, hp, rfl⟩ := List.mem_map.mp hp'
      exact ⟨p, hp, t, List.mem_cons_of_mem s ht, x, hx, hxd⟩

theorem exists_check_of_mem_run {source : Text} {tree : Tree} {rules : RuleSet} {d : Diagnostic}
    (h : d ∈ run source tree rules) :
    ∃ c ∈ rules, ∃ s, ∃ x ∈ (c.rule.check source s).diagnostics, d = x.withSeverity c.severity := by
  obtain ⟨p, hp, s, _, x, hx, hxd⟩ := exists_check_of_mem_runSites h
  obtain ⟨c, hc, rfl⟩ := List.mem_map.mp hp
  exact ⟨c, hc, s, x, hx, hxd⟩

end Runner

/-! ## Configurations -/

open Runner

theorem RuleSet.filter_name {rules : RuleSet} (h : rules.names.Nodup) {c : ConfiguredRule}
    (hc : c ∈ rules) : rules.filter (fun d => d.rule.name == c.rule.name) = [c] := by
  induction rules with
  | nil => cases hc
  | cons d rest ih =>
    obtain ⟨hnew, hrest⟩ := List.nodup_cons.mp h
    rcases List.mem_cons.mp hc with rfl | hc
    · rw [List.filter_cons_of_pos (by simp), List.filter_eq_nil_iff.mpr]
      intro e he hname
      exact hnew (List.mem_map.mpr ⟨e, he, by simpa using hname⟩)
    · have hne : d.rule.name ≠ c.rule.name := fun heq => hnew (List.mem_map.mpr ⟨c, hc, heq.symm⟩)
      rw [List.filter_cons_of_neg (by simpa using hne), ih hrest hc]

variable {rules : RuleSet} {c : ConfiguredRule}

/-- What a rule of a configuration reports in a run is what it reports alone. -/
theorem byRule_run (h : rules.IsConfiguration) (hc : c ∈ rules) (source : Text) (tree : Tree) :
    (Report.mk (run source tree rules)).byRule c.rule.name = run source tree [c] := by
  have hsigns : ∀ c ∈ rules, SignsReports c.rule :=
    fun c hc => signsReports_of_isRegistered (h.isRegistered c hc)
  rw [Report.byRule, filter_run hsigns, RuleSet.filter_name h.nodup_names hc]

theorem exists_rule_of_mem_run (h : rules.IsConfiguration) {source : Text} {tree : Tree}
    {d : Diagnostic} (hd : d ∈ run source tree rules) : ∃ c ∈ rules, c.rule.name = d.rule := by
  obtain ⟨c, hc, s, x, hx, rfl⟩ := exists_check_of_mem_run hd
  exact ⟨c, hc, (signsReports_of_isRegistered (h.isRegistered c hc) source s x hx).symm⟩

theorem Report.count_error_add_warning (r : Report) :
    r.count .error + r.count .warning = r.diagnostics.length := by
  have hother : ∀ d : Diagnostic, (d.severity == .warning) = !(d.severity == .error) := by
    intro d
    cases d.severity <;> rfl
  rw [Report.count, Report.count,
    List.length_eq_countP_add_countP (fun d : Diagnostic => d.severity == .error)]
  simp only [hother, Bool.not_eq_true, Bool.decide_eq_false]

/-- In every configuration of registered rules a rule reports what it reports alone at its severity,
and so the same in any two configurations that have it; every report belongs to exactly one rule of
the configuration; and every report is counted as an error or as a warning. -/
theorem rules_do_not_interfere (h : rules.IsConfiguration) (source : Text) (tree : Tree) :
    (∀ c ∈ rules, (Report.mk (run source tree rules)).byRule c.rule.name = run source tree [c]) ∧
      (∀ rules' : RuleSet, rules'.IsConfiguration → ∀ c ∈ rules, c ∈ rules' →
        (Report.mk (run source tree rules)).byRule c.rule.name =
          (Report.mk (run source tree rules')).byRule c.rule.name) ∧
      (∀ d ∈ run source tree rules, ∃! c, c ∈ rules ∧ c.rule.name = d.rule) ∧
      (Report.mk (run source tree rules)).count .error +
        (Report.mk (run source tree rules)).count .warning =
        (run source tree rules).length := by
  refine ⟨fun c hc => byRule_run h hc source tree, ?_, ?_, Report.count_error_add_warning _⟩
  · intro rules' h' c hc hc'
    rw [byRule_run h hc, byRule_run h' hc']
  · intro d hd
    obtain ⟨c, hc, hname⟩ := exists_rule_of_mem_run h hd
    refine ⟨c, ⟨hc, hname⟩, ?_⟩
    rintro c' ⟨hc', hname'⟩
    exact List.inj_on_of_nodup_map h.nodup_names hc' hc (hname'.trans hname.symm)

/-- A class that uses `this`. -/
def classWithThis : Tree :=
  .node .program ⟨0, 30⟩ [.node .classDefinition ⟨0, 30⟩ [.node .thisExpression ⟨20, 24⟩ []]]

/-- `no-class` as a warning beside `no-this-expression`. -/
def classAndThis : RuleSet :=
  RuleSet.push (RuleSet.push [] (Rules.noClass.toRule {} none) .warning)
    (Rules.noThisExpression.toRule {} none) .error

theorem rules_do_not_interfere_classWithThis :
    classAndThis.IsConfiguration ∧
      (Report.mk (run [] classWithThis classAndThis)).byRule "no-class" =
        run [] classWithThis [⟨Rules.noClass.toRule {} none, .warning⟩] ∧
      (Report.mk (run [] classWithThis classAndThis)).count .warning = 1 ∧
      (run [] classWithThis classAndThis).length = 2 := by
  have hclass : (Rules.noClass.toRule {} none).IsRegistered :=
    ⟨Rules.noClass, by simp [Registry.mem_definitions_iff], {}, rfl⟩
  have hthis : (Rules.noThisExpression.toRule {} none).IsRegistered :=
    ⟨Rules.noThisExpression, by simp [Registry.mem_definitions_iff], {}, rfl⟩
  have hrules : classAndThis.IsConfiguration :=
    (RuleSet.IsConfiguration.none.push _ hclass).push _ hthis
  refine ⟨hrules, ?_, rfl, rfl⟩
  exact (rules_do_not_interfere hrules [] classWithThis).1 ⟨_, .warning⟩ List.mem_cons_self

end PureLint
