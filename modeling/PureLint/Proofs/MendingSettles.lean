import PureLint.Proofs.FixSelection
import PureLint.Proofs.MendedWalk
import PureLint.Proofs.RuleIndependence

/-!
# Mending settles

A round of linting and mending makes at least one replacement if there is any to be made. Only
`preferReadonlyType` has replacements, whatever else is configured, so that what is known of its run
alone holds of the whole run. Where the text that a round gives reads as was meant
(`readsAsMended`), the next round finds no more to mend than this one left out (`lint_mended`). Then
the number of reports to be mended goes down from round to round, and `fixLoop` ends with a round
that mends nothing.

Replacements are made in the text, and not every text reads as was meant: the last section has a
replacement that makes its text unreadable, and one that lands in a comment.
-/

namespace PureLint

/-! ## Counting accepted and rejected reports -/

namespace Fixer

/-- The first report in the queue overlaps nothing and is accepted, so that only an empty queue has
nothing accepted. -/
theorem countP_eq_zero_of_accepted_eq_nil {ds : List Diagnostic} (h : accepted ds = []) :
    ds.countP (·.isFixable) = 0 := by
  cases hq : queue ds with
  | nil =>
    rw [← length_queue, hq]
    rfl
  | cons d rest => simp [accepted, hq, acceptFrom, conflicts, fixesOf] at h

theorem countP_not_accepted_le (ds : List Diagnostic) :
    ds.countP (fun d => d.isFixable && !(accepted ds).contains d) ≤ (rejected ds).length := by
  have hnone : (accepted ds).countP (fun d => !(accepted ds).contains d) = 0 := by
    rw [List.countP_eq_zero]
    intro d hd
    simp [hd]
  calc ds.countP (fun d => d.isFixable && !(accepted ds).contains d)
      = (ds.filter (·.isFixable)).countP fun d => !(accepted ds).contains d := by
        rw [List.countP_filter]
        simp only [Bool.and_comm]
    _ = (accepted ds ++ rejected ds).countP fun d => !(accepted ds).contains d :=
        ((accepted_append_rejected_perm ds).countP_eq _).symm
    _ = (rejected ds).countP fun d => !(accepted ds).contains d := by
      rw [List.countP_append, hnone, Nat.zero_add]
    _ ≤ (rejected ds).length := List.countP_le_length

end Fixer

/-! ## Only one rule mends -/

open Runner

variable {rules : RuleSet} {c : ConfiguredRule}

theorem exists_toRule_of_name {r : Rule} (h : r.IsRegistered)
    (hname : r.name = Rules.preferReadonlyType.name) :
    ∃ o i, r = Rules.preferReadonlyType.toRule o (some i) := by
  obtain ⟨d, hd, o, ho⟩ := h
  obtain ⟨i, hi, rfl⟩ := Definition.withOptions_eq_ok_iff.mp ho
  have hmem : Rules.preferReadonlyType ∈ Registry.definitions := by
    simp [Registry.mem_definitions_iff]
  obtain rfl : d = Rules.preferReadonlyType :=
    List.inj_on_of_nodup_map Registry.names_nodup hd hmem hname
  obtain ⟨compiled, _, rfl⟩ := hi
  exact ⟨o, compiled, rfl⟩

theorem rule_eq_of_isFixable (h : rules.IsConfiguration) {source : Text} {tree : Tree}
    {d : Diagnostic}
    (hd : d ∈ run source tree rules) (hfixable : d.isFixable = true) :
    d.rule = Rules.preferReadonlyType.name := by
  obtain ⟨c, hc, s, x, hx, rfl⟩ := exists_check_of_mem_run hd
  obtain ⟨e, he, o, ho⟩ := h.isRegistered c hc
  obtain ⟨i, _, hrule⟩ := Definition.withOptions_eq_ok_iff.mp ho
  rw [hrule] at hx
  have hsigned := Registry.signedBy_of_mem he o source s
  cases hmends : e.name == Rules.preferReadonlyType.name with
  | true => exact (hsigned.name_eq x hx).trans (beq_iff_eq.mp hmends)
  | false =>
    have hnone : x.fixes = [] := hsigned.fixes_eq hmends x hx
    rw [Diagnostic.isFixable, Diagnostic.withSeverity, hnone] at hfixable
    cases hfixable

section

variable (h : rules.IsConfiguration) (hc : c ∈ rules)
    (hname : c.rule.name = Rules.preferReadonlyType.name)

include h hc hname

/-- What can be mended after a run of a configuration can be mended after a run of that rule
alone. -/
theorem filter_isFixable_run (source : Text) (tree : Tree) :
    (run source tree rules).filter (·.isFixable) = (run source tree [c]).filter (·.isFixable) := by
  rw [← byRule_run h hc, Report.byRule, List.filter_filter]
  apply List.filter_congr
  intro d hd
  cases hfixable : d.isFixable with
  | false => rfl
  | true => simp [rule_eq_of_isFixable h hd hfixable, hname]

theorem countP_isFixable_run (source : Text) (tree : Tree) (q : Diagnostic → Bool) :
    (run source tree rules).countP (fun d => d.isFixable && q d) =
      (run source tree [c]).countP fun d => d.isFixable && q d := by
  simp only [Bool.and_comm _ (q _), ← List.countP_filter]
  rw [filter_isFixable_run h hc hname]

/-- On a tree in which the accepted reports are mended a run has no more to mend than was
rejected. -/
theorem countP_run_mended_le {source source' : Text} {tree tree' : Tree}
    (hout : Mending.carriedOut
      (Mending.isMended c source (Fixer.accepted (run source tree rules))) source source' [] 0
      tree tree' = true) :
    (run source' tree' rules).countP (·.isFixable) ≤
      (Fixer.rejected (run source tree rules)).length := by
  obtain ⟨o, i, hrule⟩ := exists_toRule_of_name (h.isRegistered c hc) hname
  have halone : (run source' tree' rules).countP (·.isFixable) =
      (run source' tree' [c]).countP (·.isFixable) := by
    simpa using countP_isFixable_run h hc hname source' tree' fun _ => true
  calc (run source' tree' rules).countP (·.isFixable)
      = (run source' tree' [c]).countP (·.isFixable) := halone
    _ = (run source tree [c]).countP fun d =>
      d.isFixable && !(Fixer.accepted (run source tree rules)).contains d :=
        Mending.countP_run hrule hout
    _ = (run source tree rules).countP fun d =>
      d.isFixable && !(Fixer.accepted (run source tree rules)).contains d :=
        (countP_isFixable_run h hc hname source tree _).symm
    _ ≤ (Fixer.rejected (run source tree rules)).length := Fixer.countP_not_accepted_le _

end

/-! ## One round -/

/-- The number of reports that can be mended. -/
def Report.mendable (r : Report) : Nat := r.diagnostics.countP (·.isFixable)

/-- Whether a text that has something to be mended can be mended, and then reads as was meant. -/
def readsAsMended (path : Option Text) (rules : RuleSet) (c : ConfiguredRule) (source : Text) :
    Bool :=
  match SourceFile.parse? source path with
  | none => true
  | some file =>
    let ds := run source file.tree rules
    ds.all (fun d => !d.isFixable) ||
      (Fixer.applyFixes source ds).any fun r =>
        (SourceFile.parse? r.output path).any fun file' =>
          Mending.carriedOut (Mending.isMended c source (Fixer.accepted ds)) source r.output [] 0
            file.tree file'.tree

theorem lint_eq_ok_iff {source : Text} {path : Option Text} {report : Report} :
    lint source path rules = .ok report ↔
      ∃ file,
        SourceFile.parse? source path = some file ∧ report = ⟨run source file.tree rules⟩ := by
  unfold lint
  cases SourceFile.parse? source path with
  | none => simp
  | some file => simp [eq_comm]

theorem Fixer.applyFixes_of_countP_eq_zero {source : Text} {ds : List Diagnostic}
    (h : ds.countP (·.isFixable) = 0) : applyFixes source ds = some ⟨source, 0, 0⟩ := by
  have hlengths := length_accepted_add_length_rejected ds
  have haccepted : accepted ds = [] := List.length_eq_zero_iff.mp (by omega)
  have hrejected : rejected ds = [] := List.length_eq_zero_iff.mp (by omega)
  rw [applyFixes_eq, haccepted, hrejected]
  simp [fixesOf, splice, sortBy, spliceFrom, Text.dropBytes?, Text.cutAt?]

/-- A round counts every report that can be mended, and mends one if there is any. -/
theorem Fixer.counts_of_applyFixes {source : Text} {ds : List Diagnostic} {r : Result}
    (h : applyFixes source ds = some r) :
    r.applied + r.skipped = ds.countP (·.isFixable) ∧ r.skipped = (rejected ds).length ∧
      (r.applied = 0 → ds.countP (·.isFixable) = 0) := by
  rw [applyFixes_eq] at h
  obtain ⟨output, _, rfl⟩ := Option.map_eq_some_iff.mp h
  refine ⟨length_accepted_add_length_rejected ds, rfl, fun hnone => ?_⟩
  exact countP_eq_zero_of_accepted_eq_nil (List.length_eq_zero_iff.mp hnone)

/-- Where a text reads as mended, it is mended and linted again, and no more is left to be mended
than was left out. -/
theorem lint_mended (h : rules.IsConfiguration) (hc : c ∈ rules)
    (hname : c.rule.name = Rules.preferReadonlyType.name)
    {source : Text} {path : Option Text} {report : Report}
    (hlint : lint source path rules = .ok report)
    (hread : readsAsMended path rules c source = true) :
    ∃ r report',
      Fixer.applyFixes source report.diagnostics = some r ∧ lint r.output path rules = .ok report' ∧
      report'.mendable ≤ r.skipped := by
  obtain ⟨file, hfile, rfl⟩ := lint_eq_ok_iff.mp hlint
  by_cases hnone : (run source file.tree rules).countP (·.isFixable) = 0
  · exact ⟨_, _, Fixer.applyFixes_of_countP_eq_zero hnone, hlint, Nat.le_of_eq hnone⟩
  · simp only [readsAsMended, hfile, Bool.or_eq_true, Option.any_eq_true] at hread
    rcases hread with hread | ⟨r, hr, file', hfile', hout⟩
    · have hzero := List.countP_eq_zero.mpr fun d hd => by
        simpa using List.all_eq_true.mp hread d hd
      exact absurd hzero hnone
    · refine ⟨r, ⟨run r.output file'.tree rules⟩, hr, lint_eq_ok_iff.mpr ⟨file', hfile', rfl⟩, ?_⟩
      rw [(Fixer.counts_of_applyFixes hr).2.1]
      exact countP_run_mended_le h hc hname hout

/-! ## Round after round -/

/-- The text after a round. -/
def mend? (path : Option Text) (rules : RuleSet) (source : Text) : Option Text :=
  match lint source path rules with
  | .ok report => (Fixer.applyFixes source report.diagnostics).map (·.output)
  | .error _ => none

/-- The texts that rounds lead to, beginning with a text. -/
inductive Reached (path : Option Text) (rules : RuleSet) (source : Text) : Text → Prop
  | start : Reached path rules source source
  | round {t t' : Text} (h : Reached path rules source t) (hmend : mend? path rules t = some t') :
    Reached path rules source t'

theorem Reached.of_mend {path : Option Text} {source next t : Text}
    (hmend : mend? path rules source = some next)
    (h : Reached path rules next t) : Reached path rules source t := by
  induction h with
  | start => exact .round .start hmend
  | round _ hmend' ih => exact .round ih hmend'

/-- Rounds that are enough for all reports come to an end: each finds less to mend than the one
before, and the last finds nothing. -/
theorem fixLoop_settles {config path : Option Text} (hconfig : rulesOf config = .ok rules)
    (hc : c ∈ rules)
    (hname : c.rule.name = Rules.preferReadonlyType.name) {n : Nat} {source : Text}
    {report : Report} (hlint : lint source path rules = .ok report) (hn : report.mendable < n)
    (hread : ∀ t, Reached path rules source t → readsAsMended path rules c t = true) :
    ∃ rounds : List (Nat × Fixer.Result),
      fixLoop config path n source = rounds.map (fun p => .mended p.1 p.2) ∧
      (rounds.map fun p => p.2.applied + p.2.skipped).Pairwise (· > ·) ∧
      (∀ p ∈ rounds, p.2.applied + p.2.skipped ≤ report.mendable) ∧
      ∃ last ∈ rounds.getLast?, last.2.applied = 0 ∧ last.2.skipped = 0 := by
  have h := RuleSet.IsConfiguration.of_rulesOf hconfig
  induction n generalizing source report with
  | zero => omega
  | succ n ih =>
    obtain ⟨r, report', hr, hlint', hless⟩ := lint_mended h hc hname hlint (hread source .start)
    obtain ⟨htotal, _, hnone⟩ := Fixer.counts_of_applyFixes hr
    have hmend : mend? path rules source = some r.output := by simp [mend?, hlint, hr]
    have hloop : fixLoop config path (n + 1) source = .mended report.diagnostics.length r ::
        (if r.applied = 0 then [] else fixLoop config path n r.output) := by
      simp [fixLoop, lintWith, hconfig, hlint, hr]
    rw [Report.mendable] at hn hless
    by_cases hdone : r.applied = 0
    · refine ⟨[(report.diagnostics.length, r)], ?_, ?_, ?_, ?_⟩
      · simp [hloop, hdone]
      · simp
      · simp [Report.mendable, htotal]
      · have hzero := hnone hdone
        refine ⟨_, rfl, hdone, ?_⟩
        change r.skipped = 0
        omega
    · obtain ⟨rounds, hrounds, hpairs, hbound, last, hlast, hend⟩ :=
        ih hlint' (by rw [Report.mendable]; omega) fun t ht => hread t (ht.of_mend hmend)
      rw [Report.mendable] at hbound
      refine ⟨(report.diagnostics.length, r) :: rounds, ?_, ?_, ?_, last, ?_, hend⟩
      · simp [hloop, hdone, hrounds]
      · -- What is found later is at most what this round left out.
        refine List.pairwise_cons.mpr ⟨?_, hpairs⟩
        intro total htotal
        obtain ⟨p, hp, rfl⟩ := List.mem_map.mp htotal
        have := hbound p hp
        simp only
        omega
      · intro p hp
        rw [Report.mendable]
        rcases List.mem_cons.mp hp with rfl | hp
        · exact Nat.le_of_eq htotal
        · have := hbound p hp
          omega
      · rw [List.getLast?_cons, Option.mem_def.mp hlast]
        rfl

/-- In every configuration that has `preferReadonlyType`: a text that can be read, and that reads as
was meant once it is mended, is mended and linted again, with at most as many reports to be mended
as were left out. If that is so of all texts that rounds lead to, the rounds have less and less to
mend until there is nothing. -/
theorem mending_settles (h : rules.IsConfiguration) (hc : c ∈ rules)
    (hname : c.rule.name = Rules.preferReadonlyType.name)
    {source : Text} {path : Option Text} {report : Report}
    (hlint : lint source path rules = .ok report) :
    (readsAsMended path rules c source = true →
      ∃ r report',
        Fixer.applyFixes source report.diagnostics = some r ∧
          lint r.output path rules = .ok report' ∧
        report'.mendable ≤ r.skipped) ∧
    ((∀ t, Reached path rules source t → readsAsMended path rules c t = true) →
      ∀ config, rulesOf config = .ok rules → ∀ n, report.mendable < n →
        ∃ rounds : List (Nat × Fixer.Result),
          fixLoop config path n source = rounds.map (fun p => .mended p.1 p.2) ∧
          (rounds.map fun p => p.2.applied + p.2.skipped).Pairwise (· > ·) ∧
          ∃ last ∈ rounds.getLast?, last.2.applied = 0 ∧ last.2.skipped = 0) := by
  refine ⟨lint_mended h hc hname hlint, fun hread config hconfig n hn => ?_⟩
  obtain ⟨rounds, hrounds, hpairs, _, hlast⟩ := fixLoop_settles hconfig hc hname hlint hn hread
  exact ⟨rounds, hrounds, hpairs, hlast⟩

/-- The path of a file with types. -/
def typesPath : Option Text := some "p.ts".toList

/-- `preferReadonlyType` among the default rules. -/
def defaultReadonlyRule : ConfiguredRule := ⟨Rules.preferReadonlyType.toRule {} (some {}), .error⟩

/-- An array of arrays, the inner one by its name. Both are mended in one round. -/
def namedInnerArray : Text := "let a:Array<b>[];".toList

/-- The same once it is mended. -/
def mendedInnerArray : Text := "let a:readonly ReadonlyArray<b>[];".toList

theorem mending_settles_namedInnerArray :
    ∃ report,
      lint namedInnerArray typesPath Registry.defaultRules = .ok report ∧ report.mendable = 2 ∧
      (∃ r report', Fixer.applyFixes namedInnerArray report.diagnostics = some r ∧
        lint r.output typesPath Registry.defaultRules = .ok report' ∧
          report'.mendable ≤ r.skipped) ∧
      ∃ rounds : List (Nat × Fixer.Result),
        fixLoop none typesPath 3 namedInnerArray = rounds.map (fun p => .mended p.1 p.2) ∧
          (rounds.map fun p => p.2.applied + p.2.skipped).Pairwise (· > ·) ∧
          ∃ last ∈ rounds.getLast?, last.2.applied = 0 ∧ last.2.skipped = 0 := by
  have hmem : defaultReadonlyRule ∈ Registry.defaultRules := List.mem_of_getElem? (i := 2) rfl
  -- The first round gives a text in which nothing is left to be mended.
  obtain ⟨hfile, hfirst, hsecond, hread, hread'⟩ :
      ((SourceFile.parse? namedInnerArray typesPath).any fun file =>
        (run namedInnerArray file.tree Registry.defaultRules).countP (·.isFixable) == 2) = true ∧
      mend? typesPath Registry.defaultRules namedInnerArray = some mendedInnerArray ∧
      mend? typesPath Registry.defaultRules mendedInnerArray = some mendedInnerArray ∧
      readsAsMended typesPath Registry.defaultRules defaultReadonlyRule namedInnerArray = true ∧
      readsAsMended typesPath Registry.defaultRules defaultReadonlyRule mendedInnerArray =
        true := by
    decide +kernel
  obtain ⟨file, hfile, hcount⟩ := (Option.any_eq_true _ _).mp hfile
  have hlint : lint namedInnerArray typesPath Registry.defaultRules =
      .ok ⟨run namedInnerArray file.tree Registry.defaultRules⟩ :=
        lint_eq_ok_iff.mpr ⟨file, hfile, rfl⟩
  have hreached : ∀ t, Reached typesPath Registry.defaultRules namedInnerArray t →
      t = namedInnerArray ∨ t = mendedInnerArray := by
    intro t ht
    induction ht with
    | start => exact .inl rfl
    | round _ hmend ih =>
      rcases ih with rfl | rfl
      · exact .inr (Option.some.inj (hmend.symm.trans hfirst))
      · exact .inr (Option.some.inj (hmend.symm.trans hsecond))
  obtain ⟨hround, hrounds⟩ := mending_settles .default hmem rfl hlint
  have hmendable : (Report.mk (run namedInnerArray file.tree Registry.defaultRules)).mendable = 2 :=
    beq_iff_eq.mp hcount
  refine ⟨_, hlint, hmendable, hround hread, hrounds ?_ none rfl 3 (by rw [hmendable]; decide)⟩
  intro t ht
  rcases hreached t ht with rfl | rfl
  · exact hread
  · exact hread'

/-! ## Texts that do not read as was meant -/

/-- A readonly array of arrays: `readonly` for the inner one would stand right behind the `readonly`
of the outer one. -/
def arrayInReadonlyArray : Text := "type A=readonly a[][];".toList

/-- What becomes of it, which is no program. -/
def readonlyTwice : Text := "type A=readonly readonly a[][];".toList

/-- A computed key behind a comment that has a bracket. -/
def bracketInComment : Text := "class A\x7b[/*[*/k]=1\x7d".toList

/-- What becomes of it: the key is as it was. -/
def readonlyInComment : Text := "class A\x7b[/*readonly [*/k]=1\x7d".toList

theorem mending_does_not_settle :
    (∃ report r, lint arrayInReadonlyArray typesPath Registry.defaultRules = .ok report ∧
      Fixer.applyFixes arrayInReadonlyArray report.diagnostics = some r ∧ r.applied = 1 ∧
        r.skipped = 0 ∧
      lint r.output typesPath Registry.defaultRules = .error .unreadable) ∧
    ∃ report r report', lint bracketInComment typesPath Registry.defaultRules = .ok report ∧
      Fixer.applyFixes bracketInComment report.diagnostics = some r ∧ r.applied = 1 ∧
        r.skipped = 0 ∧
      lint r.output typesPath Registry.defaultRules = .ok report' ∧ report'.mendable = 1 := by
  obtain ⟨hfirst, hunreadable, hsecond, hagain⟩ :
      ((SourceFile.parse? arrayInReadonlyArray typesPath).any fun file =>
        Fixer.applyFixes arrayInReadonlyArray
          (run arrayInReadonlyArray file.tree Registry.defaultRules) ==
          some ⟨readonlyTwice, 1, 0⟩) = true ∧
      (SourceFile.parse? readonlyTwice typesPath).isNone = true ∧
      ((SourceFile.parse? bracketInComment typesPath).any fun file =>
        Fixer.applyFixes bracketInComment (run bracketInComment file.tree Registry.defaultRules) ==
          some ⟨readonlyInComment, 1, 0⟩) = true ∧
      ((SourceFile.parse? readonlyInComment typesPath).any fun file =>
        (run readonlyInComment file.tree Registry.defaultRules).countP (·.isFixable) == 1) =
          true := by
    decide +kernel
  constructor
  · obtain ⟨file, hfile, hr⟩ := (Option.any_eq_true _ _).mp hfirst
    refine ⟨_, _, lint_eq_ok_iff.mpr ⟨file, hfile, rfl⟩, beq_iff_eq.mp hr, rfl, rfl, ?_⟩
    rw [lint, Option.isNone_iff_eq_none.mp hunreadable]
  · obtain ⟨file, hfile, hr⟩ := (Option.any_eq_true _ _).mp hsecond
    obtain ⟨file', hfile', hcount⟩ := (Option.any_eq_true _ _).mp hagain
    exact ⟨_, _, _, lint_eq_ok_iff.mpr ⟨file, hfile, rfl⟩, beq_iff_eq.mp hr, rfl, rfl,
      lint_eq_ok_iff.mpr ⟨file', hfile', rfl⟩, beq_iff_eq.mp hcount⟩

end PureLint
