import Mathlib.Data.List.Forall2
import Mathlib.Data.List.Nodup
import PureLint.Proofs.RegisteredRules

/-!
# The last addition of a name counts

A rule set is put together from nothing or from the default rules, by adding a rule as it is, with a
severity, or by its name with options. Its history is what it began with and the entries that were
added, in order. `lastOfEach` keeps of each name the last entry of a history; adding to a rule set
is the same as adding to the history (`lastOfEach_concat`), and so a rule set that is put together
has, for each name that was ever there, the last entry of that name, ordered by where these entries
stand in the history.
-/

namespace PureLint.RuleSet

/-- The names of rules in order. -/
def names (rules : RuleSet) : List String := rules.map (·.rule.name)

theorem isEnabled_iff {rules : RuleSet} {name : String} :
    rules.isEnabled name = true ↔ name ∈ rules.names := by
  simp [isEnabled, names]

theorem names_append (first second : RuleSet) :
    names (first ++ second) = first.names ++ second.names :=
  List.map_append

/-! ## The last entry of each name -/

/-- Of each name the last entry, in the order of the history. -/
def lastOfEach : List ConfiguredRule → RuleSet
  | [] => []
  | c :: later => if isEnabled later c.rule.name then lastOfEach later else c :: lastOfEach later

theorem mem_names_lastOfEach {history : List ConfiguredRule} {name : String} :
    name ∈ (lastOfEach history).names ↔ name ∈ names history := by
  induction history with
  | nil => rfl
  | cons c later ih =>
    rw [lastOfEach]
    split
    · -- The name of the entry that is dropped comes again.
      rename_i hlater
      have hmem := isEnabled_iff.mp hlater
      rw [ih]
      exact ⟨List.mem_cons_of_mem _, fun h => (List.mem_cons.mp h).elim (fun he => he ▸ hmem) id⟩
    · simp only [names, List.map_cons, List.mem_cons]
      exact or_congr_right ih

theorem nodup_names_lastOfEach (history : List ConfiguredRule) :
    (lastOfEach history).names.Nodup := by
  induction history with
  | nil => exact List.nodup_nil
  | cons c later ih =>
    rw [lastOfEach]
    split
    · exact ih
    · rename_i hlater
      refine List.nodup_cons.mpr ⟨fun hmem => hlater ?_, ih⟩
      exact isEnabled_iff.mpr (mem_names_lastOfEach.mp hmem)

theorem lastOfEach_sublist (history : List ConfiguredRule) :
    (lastOfEach history).Sublist history := by
  induction history with
  | nil => exact List.Sublist.refl _
  | cons c later ih =>
    rw [lastOfEach]
    split
    · exact ih.cons c
    · exact ih.cons_cons c

theorem lastOfEach_of_nodup {history : List ConfiguredRule} (h : (names history).Nodup) :
    lastOfEach history = history := by
  induction history with
  | nil => rfl
  | cons c later ih =>
    obtain ⟨hnew, hlater⟩ := List.nodup_cons.mp h
    rw [lastOfEach, if_neg (fun he => hnew (isEnabled_iff.mp he)), ih hlater]

theorem lastOfEach_concat (history : List ConfiguredRule) (c : ConfiguredRule) :
    lastOfEach (history ++ [c]) = (lastOfEach history).push c.rule c.severity := by
  induction history with
  | nil => rfl
  | cons d later ih =>
    have hnames : isEnabled (later ++ [c]) d.rule.name = true ↔
        isEnabled later d.rule.name = true ∨ d.rule.name = c.rule.name := by
      simp [isEnabled_iff, names]
    rw [List.cons_append, lastOfEach, lastOfEach, ih]
    by_cases hlater : isEnabled later d.rule.name = true
    · rw [if_pos (hnames.mpr (.inl hlater)), if_pos hlater]
    · rw [if_neg hlater]
      by_cases hname : d.rule.name = c.rule.name
      · rw [if_pos (hnames.mpr (.inr hname))]
        simp [push, hname]
      · rw [if_neg (fun he => (hnames.mp he).elim hlater hname)]
        simp [push, hname]

theorem nodup_names_push {rules : RuleSet} (h : rules.names.Nodup) (r : Rule) (s : Severity) :
    (rules.push r s).names.Nodup := by
  rw [← lastOfEach_of_nodup h, ← lastOfEach_concat rules ⟨r, s⟩]
  exact nodup_names_lastOfEach _

theorem lastOfEach_append (first added : List ConfiguredRule) :
    lastOfEach (first ++ added) =
      (lastOfEach first).filter (fun c => !isEnabled added c.rule.name) ++ lastOfEach added := by
  induction first with
  | nil => rfl
  | cons c later ih =>
    have hnames : isEnabled (later ++ added) c.rule.name = true ↔
        isEnabled later c.rule.name = true ∨ isEnabled added c.rule.name = true := by
      simp [isEnabled_iff, names_append]
    rw [List.cons_append, lastOfEach, lastOfEach, ih]
    by_cases hlater : isEnabled later c.rule.name = true
    · rw [if_pos (hnames.mpr (.inl hlater)), if_pos hlater]
    · rw [if_neg hlater]
      by_cases hadded : isEnabled added c.rule.name = true
      · rw [if_pos (hnames.mpr (.inr hadded)), List.filter_cons_of_neg (by simp [hadded])]
      · rw [if_neg (fun he => (hnames.mp he).elim hlater hadded),
          List.filter_cons_of_pos (by simp [hadded])]
        rfl

/-! ## Places in a history -/

/-- Whether a place in a history has the last entry of its name. -/
def IsLastPlace (history : List ConfiguredRule) (i : Nat) : Prop :=
  ∃ c later, history.drop i = c :: later ∧ ∀ d ∈ later, d.rule.name ≠ c.rule.name

theorem isLastPlace_zero {c : ConfiguredRule} {later : List ConfiguredRule} :
    IsLastPlace (c :: later) 0 ↔ ¬ isEnabled later c.rule.name = true := by
  constructor
  · rintro ⟨_, _, heq, hlater⟩
    cases heq
    simpa [isEnabled] using hlater
  · intro h
    exact ⟨c, later, rfl, by simpa [isEnabled] using h⟩

theorem isLastPlace_succ {c : ConfiguredRule} {later : List ConfiguredRule} {i : Nat} :
    IsLastPlace (c :: later) (i + 1) ↔ IsLastPlace later i := Iff.rfl

/-- The entries that are kept stand at the places of the last entries, in this order. -/
theorem lastOfEach_places (history : List ConfiguredRule) :
    ∃ places : List Nat, places.Pairwise (· < ·) ∧ (∀ i, i ∈ places ↔ IsLastPlace history i) ∧
      (lastOfEach history).map some = places.map fun i => history[i]? := by
  induction history with
  | nil => exact ⟨[], List.Pairwise.nil, by simp [IsLastPlace], rfl⟩
  | cons c later ih =>
    obtain ⟨places, hsorted, hplaces, hentries⟩ := ih
    have hshifted : (places.map (· + 1)).Pairwise (· < ·) :=
      hsorted.map _ fun _ _ h => Nat.succ_lt_succ h
    rw [lastOfEach]
    split
    · rename_i hlater
      refine ⟨places.map (· + 1), hshifted, ?_, by simpa [Function.comp_def] using hentries⟩
      intro i
      cases i with
      | zero => simp [isLastPlace_zero, hlater]
      | succ i => simp [isLastPlace_succ, hplaces]
    · rename_i hlater
      refine ⟨0 :: places.map (· + 1), List.pairwise_cons.mpr ⟨by simp, hshifted⟩, ?_, by
        simpa [Function.comp_def] using hentries⟩
      intro i
      cases i with
      | zero => simp [isLastPlace_zero, hlater]
      | succ i => simp [isLastPlace_succ, hplaces]

/-! ## Many additions -/

/-- A way to add a rule: as it is, with a severity, or by name with options. -/
inductive Addition where
  | plain (r : Rule)
  | rated (r : Rule) (s : Severity)
  | named (name : Text) (options : Option Json) (s : Severity)

namespace Addition

/-- The name of the rule that is added. -/
def name : Addition → Text
  | plain r => r.name.toList
  | rated r _ => r.name.toList
  | named name _ _ => name

/-- The entry that is added, if the rule can be built. -/
def entry : Addition → Except ConfigError ConfiguredRule
  | plain r => .ok ⟨r, .error⟩
  | rated r s => .ok ⟨r, s⟩
  | named name options s => (Registry.build name options).map fun r => ⟨r, s⟩

end Addition

/-- Adds a rule; one that is given without a severity reports errors. -/
def add (rules : RuleSet) : Addition → Except ConfigError RuleSet
  | .plain r => .ok (rules.push r .error)
  | .rated r s => .ok (rules.push r s)
  | .named name options s => rules.pushNamed name options s

/-- Adds rules in order; the first that cannot be built is the error. -/
def addAll (rules : RuleSet) : List Addition → Except ConfigError RuleSet
  | [] => .ok rules
  | a :: as =>
    match rules.add a with
    | .ok rules' => addAll rules' as
    | .error e => .error e

theorem add_eq_entry_push (rules : RuleSet) (a : Addition) :
    rules.add a = a.entry.map fun c => rules.push c.rule c.severity := by
  cases a with
  | plain r => rfl
  | rated r s => rfl
  | named name options s =>
    rw [add, pushNamed, Addition.entry]
    cases Registry.build name options <;> rfl

/-- Additions that all succeed keep the last entry of each name in the history. -/
theorem addAll_eq_ok_iff {history : List ConfiguredRule} {steps : List Addition} {rules : RuleSet} :
    (lastOfEach history).addAll steps = .ok rules ↔
      ∃ added,
        List.Forall₂ (fun a c => a.entry = .ok c) steps added ∧
          rules = lastOfEach (history ++ added) := by
  induction steps generalizing history with
  | nil =>
    simp only [addAll, Except.ok.injEq, List.forall₂_nil_left_iff, exists_eq_left, List.append_nil]
    exact eq_comm
  | cons a as ih =>
    rw [addAll, add_eq_entry_push]
    cases hentry : a.entry with
    | error e => simp [Except.map, List.forall₂_cons_left_iff, hentry]
    | ok c =>
      simp only [Except.map, ← lastOfEach_concat, ih, List.forall₂_cons_left_iff, hentry,
        Except.ok.injEq]
      constructor
      · rintro ⟨added, hadded, rfl⟩
        exact ⟨c :: added, ⟨c, added, rfl, hadded, rfl⟩, by simp⟩
      · rintro ⟨_, ⟨_, added, rfl, hadded, rfl⟩, rfl⟩
        exact ⟨added, hadded, by simp⟩

theorem Addition.name_of_entry {a : Addition} {c : ConfiguredRule} (h : a.entry = .ok c) :
    c.rule.name.toList = a.name := by
  cases a with
  | plain r => cases h; rfl
  | rated r s => cases h; rfl
  | named name options s =>
    rw [entry] at h
    cases hbuild : Registry.build name options with
    | error e => rw [hbuild] at h; cases h
    | ok r =>
      rw [hbuild] at h
      cases h
      exact (Registry.build_eq_ok hbuild).2

theorem mem_names_added {steps : List Addition} {added : List ConfiguredRule}
    (h : List.Forall₂ (fun a c => a.entry = .ok c) steps added) {name : String} :
    name ∈ names added ↔ ∃ a ∈ steps, a.name = name.toList := by
  induction h with
  | nil => simp [names]
  | @cons a c steps added hentry _ ih =>
    have hname : name = c.rule.name ↔ a.name = name.toList := by
      rw [← Addition.name_of_entry hentry, String.toList_inj]
      exact eq_comm
    simp only [names, List.map_cons, List.mem_cons, exists_eq_or_imp]
    exact or_congr hname ih

theorem nodup_names_start {start : RuleSet} (h : start = [] ∨ start = Registry.defaultRules) :
    start.names.Nodup := by
  rcases h with rfl | rfl
  · exact List.nodup_nil
  · rw [names, Registry.defaultRules_names]
    exact Registry.names_nodup

/-- After any additions that succeed, to nothing or to the default rules, no two rules have one
name, the names are those that were ever there, every rule stands with its severity as it was last
added, in the order of these last additions, what the set began with and was not added again comes
first, and a rule is enabled exactly if its name is there. -/
theorem last_addition_counts {start rules : RuleSet} {steps : List Addition}
    (hstart : start = [] ∨ start = Registry.defaultRules) (h : start.addAll steps = .ok rules) :
    rules.names.Nodup ∧
      (∀ name, name ∈ rules.names ↔ name ∈ start.names ∨ ∃ a ∈ steps, a.name = name.toList) ∧
      (∃ added, List.Forall₂ (fun a c => a.entry = .ok c) steps added ∧
        (∃ places : List Nat,
          places.Pairwise (· < ·) ∧ (∀ i, i ∈ places ↔ IsLastPlace (start ++ added) i) ∧
          rules.map some = places.map fun i => (start ++ added)[i]?) ∧
        ∃ again,
          rules = start.filter (fun c => !isEnabled added c.rule.name) ++ again ∧
            ∀ c ∈ again, c ∈ added) ∧
      (∀ name, rules.isEnabled name = true ↔ name ∈ rules.names) ∧
      RuleSet.names Registry.defaultRules = Registry.names := by
  have hkept : lastOfEach start = start := lastOfEach_of_nodup (nodup_names_start hstart)
  rw [← hkept] at h
  obtain ⟨added, hadded, rfl⟩ := addAll_eq_ok_iff.mp h
  refine ⟨nodup_names_lastOfEach _, fun name => ?_,
    ⟨added, hadded, lastOfEach_places _, lastOfEach added, ?_, ?_⟩,
    fun _ => isEnabled_iff, Registry.defaultRules_names⟩
  · rw [mem_names_lastOfEach, names_append, List.mem_append, mem_names_added hadded]
  · rw [lastOfEach_append, hkept]
  · exact fun c hc => (lastOfEach_sublist added).subset hc

/-- `no-let` is added twice to the default rules, and `no-class` in between. -/
def noLetTwice : List Addition :=
  [.named "no-let".toList none .error, .rated (Rules.noClass.toRule {} none) .warning,
    .named "no-let".toList (some (.object [("allowLocalMutation".toList, .bool true)])) .warning]

theorem last_addition_counts_noLetTwice :
    ∃ rules, RuleSet.addAll Registry.defaultRules noLetTwice = .ok rules ∧ rules.names.Nodup ∧
      rules.map (fun c => (c.rule.name, c.severity)) =
        ["immutable-data", "prefer-readonly-type", "no-method-signature", "no-mixed-type",
          "no-expression-statement", "no-this-expression", "no-loop-statement",
          "no-throw-statement", "no-try-statement", "functional-parameters",
          "no-promise-reject"].map (·, Severity.error) ++
        [("no-class", .warning), ("no-let", .warning)] := by
  obtain ⟨rules, h⟩ : ∃ rules, RuleSet.addAll Registry.defaultRules noLetTwice = .ok rules :=
    ⟨_, rfl⟩
  refine ⟨rules, h, (last_addition_counts (.inr rfl) h).1, ?_⟩
  cases h
  rfl

end PureLint.RuleSet
