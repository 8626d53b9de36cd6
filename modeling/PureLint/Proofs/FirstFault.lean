import Mathlib.Data.List.ReduceOption
import PureLint.Proofs.LastAddition

/-!
# The first fault of a configuration

What an entry of a configuration says, in three steps: how it is written (`Form`), which values
stand for a severity (`Rates`), and what follows for the rule of its name. An entry either has a
fault (`Fault`) or adds at most one rule (`Adds`). The cases of `Fault` are listed in the order in
which faults are looked for: each of them asks for everything that goes before it to be in order, so
an entry has one fault at most. The options of an entry that is off occur in no case.

A configuration is then refused exactly if an entry has a fault, and the error is the fault of the
first such entry; otherwise the rules are those that the entries add, in their order.
-/

namespace PureLint

/-! ## The rule of a name -/

namespace Registry

/-- The definition of a name. -/
structure Defines (name : Text) (d : Definition) : Prop where
  mem : d ∈ definitions
  name_eq : d.name.toList = name

theorem find?_eq_some_iff {name : Text} {d : Definition} :
    find? name = some d ↔ Defines name d := by
  constructor
  · intro h
    obtain ⟨hmem, hname⟩ := exists_of_find? h
    exact ⟨hmem, hname⟩
  · rintro ⟨hmem, rfl⟩
    have hsome : (find? d.name.toList).isSome = true := List.find?_isSome.mpr ⟨d, hmem, by simp⟩
    obtain ⟨found, hfound⟩ := Option.isSome_iff_exists.mp hsome
    obtain ⟨hmem', hname⟩ := exists_of_find? hfound
    -- No two definitions have one name, so what is found is the definition itself.
    have heq : found = d :=
      List.inj_on_of_nodup_map names_nodup hmem' hmem (String.toList_inj.mp hname)
    rw [hfound, heq]

theorem build_of_defines {name : Text} {d : Definition} (hd : Defines name d)
    {options : Option Json} {o : d.Options} (hread : d.readOptions options = .ok o) :
    build name options = (d.withOptions o).mapError (.invalidPattern name) := by
  unfold build Definition.build
  rw [find?_eq_some_iff.mpr hd]
  dsimp only
  rw [hread]
  cases hrule : d.withOptions o <;> simp [hrule, Except.mapError]

theorem build_of_readOptions_error {name : Text} {d : Definition} (hd : Defines name d)
    {options : Option Json} {e : Json.ShapeError} (hread : d.readOptions options = .error e) :
    build name options = .error (.invalidOptions name e) := by
  unfold build Definition.build
  rw [find?_eq_some_iff.mpr hd]
  dsimp only
  rw [hread]

theorem build_of_unknown {name : Text} (h : ∀ d, ¬ Defines name d) (options : Option Json) :
    build name options = .error (.unknownRule name) := by
  have hnone : find? name = none :=
    Option.eq_none_iff_forall_ne_some.mpr fun d hd => h d (find?_eq_some_iff.mp hd)
  rw [build, hnone]

/-- The defaults of every definition have the patterns of a rule. -/
theorem exists_withOptions_defaults {d : Definition} (h : d ∈ definitions) :
    ∃ r, d.withOptions d.defaults = .ok r := by
  obtain rfl | rfl | rfl | rfl | rfl | rfl | rfl | rfl | rfl | rfl | rfl | rfl | rfl :=
    mem_definitions_iff.mp h
  all_goals exact ⟨_, rfl⟩

end Registry

namespace Config

open Registry (Defines)

/-! ## Entries -/

/-- The values that stand for a severity; `none` is off. -/
inductive Rates : Json → Option Severity → Prop
  | offWord : Rates (.string "off".toList) none
  | warnWord : Rates (.string "warn".toList) (some .warning)
  | errorWord : Rates (.string "error".toList) (some .error)
  | offNumber : Rates (.number (.nonNegative 0)) none
  | warnNumber : Rates (.number (.nonNegative 1)) (some .warning)
  | errorNumber : Rates (.number (.nonNegative 2)) (some .error)

/-- The ways to write an entry, with what is written as its severity and as its options. -/
inductive Form : Json → Json → Option Json → Prop
  | alone {v : Json} (h : ∀ items, v ≠ .array items) : Form v v none
  | listed (s : Json) : Form (.array [s]) s none
  | withOptions (s options : Json) : Form (.array [s, options]) s (some options)

/-- What is wrong with the entry of a name, and how it is reported. -/
inductive Fault (name : Text) : Json → ConfigError → Prop
  | length {items : List Json} (hone : items.length ≠ 1) (htwo : items.length ≠ 2) :
    Fault name (.array items) (.invalidSeverity name (.array items))
  | severity {v s : Json} {options : Option Json} (hform : Form v s options)
    (h : ∀ r, ¬ Rates s r) :
    Fault name v (.invalidSeverity name s)
  | unknown {v s : Json} {options : Option Json} {r : Option Severity} (hform : Form v s options)
    (hrates : Rates s r) (h : ∀ d, ¬ Defines name d) : Fault name v (.unknownRule name)
  | options {v s written : Json} {r : Severity} {d : Definition} {e : Json.ShapeError}
    (hform : Form v s (some written))
    (hrates : Rates s (some r)) (hd : Defines name d)
    (h : d.readOptions (some written) = .error e) :
    Fault name v (.invalidOptions name e)
  | pattern {v s : Json} {options : Option Json} {r : Severity} {d : Definition} {o : d.Options}
    {e : PatternError}
    (hform : Form v s options) (hrates : Rates s (some r)) (hd : Defines name d)
    (hread : d.readOptions options = .ok o)
    (h : d.withOptions o = .error e) : Fault name v (.invalidPattern name e)

/-- What the entry of a name adds when nothing is wrong with it: no rule if it is off. -/
inductive Adds (name : Text) : Json → Option ConfiguredRule → Prop
  | off {v s : Json} {options : Option Json} {d : Definition} (hform : Form v s options)
    (hrates : Rates s none) (hd : Defines name d) : Adds name v none
  | on {v s : Json} {options : Option Json} {r : Severity} {d : Definition} {o : d.Options}
    {rule : Rule}
    (hform : Form v s options) (hrates : Rates s (some r)) (hd : Defines name d)
    (hread : d.readOptions options = .ok o)
    (h : d.withOptions o = .ok rule) : Adds name v (some ⟨rule, r⟩)

/-! ## Reading an entry -/

theorem severity?_eq_some_iff {v : Json} {r : Option Severity} :
    severity? v = some r ↔ Rates v r := by
  constructor
  · intro h
    unfold severity? at h
    split at h
    · rename_i t
      obtain ⟨before, after, hwords, _⟩ := List.lookup_eq_some_iff.mp h
      have hmem : (String.ofList t, r) ∈ before ++ (String.ofList t, r) :: after := by simp
      rw [← hwords] at hmem
      rw [← String.toList_ofList (l := t)]
      simp only [List.mem_cons, Prod.mk.injEq, List.not_mem_nil, or_false] at hmem
      rcases hmem with ⟨ht, rfl⟩ | ⟨ht, rfl⟩ | ⟨ht, rfl⟩
      all_goals rw [ht]
      · exact .offWord
      · exact .warnWord
      · exact .errorWord
    · rename_i n
      obtain ⟨before, after, hnumbers, _⟩ := List.lookup_eq_some_iff.mp h
      have hmem : (n, r) ∈ before ++ (n, r) :: after := by simp
      rw [← hnumbers] at hmem
      simp only [List.mem_cons, Prod.mk.injEq, List.not_mem_nil, or_false] at hmem
      rcases hmem with ⟨rfl, rfl⟩ | ⟨rfl, rfl⟩ | ⟨rfl, rfl⟩
      · exact .offNumber
      · exact .warnNumber
      · exact .errorNumber
    · cases h
  · intro h
    cases h <;> rfl

theorem readSeverity_of_rates {name : Text} {s : Json} {r : Option Severity} (h : Rates s r) :
    readSeverity name s = .ok r := by
  rw [readSeverity, severity?_eq_some_iff.mpr h]

theorem readSeverity_of_not_rates {name : Text} {s : Json} (h : ∀ r, ¬ Rates s r) :
    readSeverity name s = .error (.invalidSeverity name s) := by
  have hnone : severity? s = none :=
    Option.eq_none_iff_forall_ne_some.mpr fun r hr => h r (severity?_eq_some_iff.mp hr)
  rw [readSeverity, hnone]

theorem readEntry_of_form {name : Text} {v s : Json} {options : Option Json}
    (h : Form v s options) :
    readEntry name v = (readSeverity name s).map fun r => ⟨r, options⟩ := by
  cases h with
  | alone h =>
    unfold readEntry
    split
    · exact absurd rfl (h _)
    · exact absurd rfl (h _)
    · exact absurd rfl (h _)
    · rfl
  | listed => rfl
  | withOptions => rfl

theorem readEntry_of_length {name : Text} {items : List Json} (hone : items.length ≠ 1)
    (htwo : items.length ≠ 2) :
    readEntry name (.array items) = .error (.invalidSeverity name (.array items)) := by
  match items with
  | [] => rfl
  | [_] => exact absurd rfl hone
  | [_, _] => exact absurd rfl htwo
  | _ :: _ :: _ :: _ => rfl

/-- A value is written as an entry, or it is an array of another length. -/
theorem form_or_length (v : Json) :
    (∃ s options, Form v s options) ∨
      ∃ items, v = .array items ∧ items.length ≠ 1 ∧ items.length ≠ 2 := by
  cases v with
  | array items =>
    match items with
    | [] => exact .inr ⟨[], rfl, by decide, by decide⟩
    | [s] => exact .inl ⟨s, none, .listed s⟩
    | [s, options] => exact .inl ⟨s, some options, .withOptions s options⟩
    | a :: b :: c :: rest => exact .inr ⟨a :: b :: c :: rest, rfl, by simp, by simp⟩
  | _ => exact .inl ⟨_, none, .alone (by simp)⟩

/-! ## One entry -/

/-- The rules with what an entry adds. -/
def extend (rules : RuleSet) : Option ConfiguredRule → RuleSet
  | none => rules
  | some c => rules.push c.rule c.severity

theorem addEntry_of_fault {name : Text} {v : Json} {e : ConfigError} (rules : RuleSet)
    (h : Fault name v e) : addEntry rules name v = .error e := by
  cases h with
  | length hone htwo => rw [addEntry, readEntry_of_length hone htwo]
  | severity hform h =>
    rw [addEntry, readEntry_of_form hform, readSeverity_of_not_rates h]
    rfl
  | @unknown _ _ _ r hform hrates h =>
    rw [addEntry, readEntry_of_form hform, readSeverity_of_rates hrates]
    cases r with
    | none => simp [Except.map, Registry.build_of_unknown h]
    | some s => simp [Except.map, RuleSet.pushNamed, Registry.build_of_unknown h]
  | options hform hrates hd h =>
    rw [addEntry, readEntry_of_form hform, readSeverity_of_rates hrates]
    simp [Except.map, RuleSet.pushNamed, Registry.build_of_readOptions_error hd h]
  | pattern hform hrates hd hread h =>
    rw [addEntry, readEntry_of_form hform, readSeverity_of_rates hrates]
    simp [Except.map, Except.mapError, RuleSet.pushNamed, Registry.build_of_defines hd hread, h]

theorem addEntry_of_adds {name : Text} {v : Json} {c : Option ConfiguredRule} (rules : RuleSet)
    (h : Adds name v c) : addEntry rules name v = .ok (extend rules c) := by
  cases h with
  | off hform hrates hd =>
    obtain ⟨r, hr⟩ := Registry.exists_withOptions_defaults hd.mem
    have hdefaults : ∀ {d : Definition}, d.readOptions none = .ok d.defaults := rfl
    rw [addEntry, readEntry_of_form hform, readSeverity_of_rates hrates]
    simp [Except.map, Except.mapError, Registry.build_of_defines hd hdefaults, hr, extend]
  | on hform hrates hd hread h =>
    rw [addEntry, readEntry_of_form hform, readSeverity_of_rates hrates]
    simp [Except.map, Except.mapError, RuleSet.pushNamed, Registry.build_of_defines hd hread, h,
      extend]

theorem fault_or_adds (name : Text) (v : Json) : (∃ e, Fault name v e) ∨ ∃ c, Adds name v c := by
  rcases form_or_length v with ⟨s, options, hform⟩ | ⟨items, rfl, hone, htwo⟩
  · by_cases hrates : ∃ r, Rates s r
    · obtain ⟨r, hrates⟩ := hrates
      by_cases hdefined : ∃ d, Defines name d
      · obtain ⟨d, hd⟩ := hdefined
        cases r with
        | none => exact .inr ⟨none, .off hform hrates hd⟩
        | some r =>
          cases hread : d.readOptions options with
          | error e =>
            cases options with
            | none => cases hread
            | some written => exact .inl ⟨_, .options hform hrates hd hread⟩
          | ok o =>
            cases hrule : d.withOptions o with
            | error e => exact .inl ⟨_, .pattern hform hrates hd hread hrule⟩
            | ok rule => exact .inr ⟨_, .on hform hrates hd hread hrule⟩
      · exact .inl ⟨_, .unknown hform hrates (not_exists.mp hdefined)⟩
    · exact .inl ⟨_, .severity hform (not_exists.mp hrates)⟩
  · exact .inl ⟨_, .length hone htwo⟩

theorem addEntry_eq_error_iff {rules : RuleSet} {name : Text} {v : Json} {e : ConfigError} :
    addEntry rules name v = .error e ↔ Fault name v e := by
  constructor
  · intro h
    rcases fault_or_adds name v with ⟨e', hfault⟩ | ⟨c, hadds⟩
    · obtain rfl := Except.error.inj ((addEntry_of_fault rules hfault).symm.trans h)
      exact hfault
    · cases (addEntry_of_adds rules hadds).symm.trans h
  · exact addEntry_of_fault rules

theorem addEntry_eq_ok_iff {rules rules' : RuleSet} {name : Text} {v : Json} :
    addEntry rules name v = .ok rules' ↔ ∃ c, Adds name v c ∧ rules' = extend rules c := by
  constructor
  · intro h
    rcases fault_or_adds name v with ⟨e', hfault⟩ | ⟨c, hadds⟩
    · cases (addEntry_of_fault rules hfault).symm.trans h
    · exact ⟨c, hadds, Except.ok.inj (h.symm.trans (addEntry_of_adds rules hadds))⟩
  · rintro ⟨c, hadds, rfl⟩
    exact addEntry_of_adds rules hadds

theorem Fault.unique {name : Text} {v : Json} {e e' : ConfigError} (h : Fault name v e)
    (h' : Fault name v e') : e = e' :=
  Except.error.inj ((addEntry_of_fault [] h).symm.trans (addEntry_of_fault [] h'))

theorem Adds.not_fault {name : Text} {v : Json} {c : Option ConfiguredRule} (h : Adds name v c)
    (e : ConfigError) : ¬ Fault name v e := by
  intro hfault
  cases (addEntry_of_adds [] h).symm.trans (addEntry_of_fault [] hfault)

theorem extend_nil (c : Option ConfiguredRule) : extend [] c = c.toList := by
  cases c <;> rfl

theorem Adds.unique {name : Text} {v : Json} {c c' : Option ConfiguredRule} (h : Adds name v c)
    (h' : Adds name v c') : c = c' := by
  have heq : extend [] c = extend [] c' :=
    Except.ok.inj ((addEntry_of_adds [] h).symm.trans (addEntry_of_adds [] h'))
  rw [extend_nil, extend_nil] at heq
  simpa using congrArg List.head? heq

/-- An entry has one fault, or it adds one thing. -/
theorem one_fault_or_one_addition (name : Text) (v : Json) :
    ((∃! e, Fault name v e) ∧ ∀ c, ¬ Adds name v c) ∨
      ((∃! c, Adds name v c) ∧ ∀ e, ¬ Fault name v e) := by
  rcases fault_or_adds name v with ⟨e, hfault⟩ | ⟨c, hadds⟩
  · exact .inl ⟨⟨e, hfault, fun e' h => h.unique hfault⟩, fun c hadds => hadds.not_fault e hfault⟩
  · exact .inr ⟨⟨c, hadds, fun c' h => h.unique hadds⟩, hadds.not_fault⟩

theorem exists_adds_iff {name : Text} {v : Json} :
    (∃ c, Adds name v c) ↔ ∀ e, ¬ Fault name v e := by
  rcases one_fault_or_one_addition name v with ⟨⟨e, hfault, _⟩, hnone⟩ | ⟨⟨c, hadds, _⟩, hnone⟩
  · exact ⟨fun ⟨c, hadds⟩ => absurd hadds (hnone c), fun h => absurd hfault (h e)⟩
  · exact ⟨fun _ => hnone, fun _ => ⟨c, hadds⟩⟩

theorem Adds.name_eq {name : Text} {v : Json} {c : ConfiguredRule} (h : Adds name v (some c)) :
    c.rule.name.toList = name := by
  cases h with
  | on _ _ hd _ hrule => rw [Definition.withOptions_name hrule, hd.name_eq]

/-! ## All entries -/

theorem addEntries_eq_error_iff {rules : RuleSet} {entries : List (Text × Json)} {e : ConfigError} :
    addEntries rules entries = .error e ↔
      ∃ before name v after,
        entries = before ++ (name, v) :: after ∧ (∀ p ∈ before, ∃ c, Adds p.1 p.2 c) ∧
        Fault name v e := by
  induction entries generalizing rules with
  | nil => simp [addEntries]
  | cons p rest ih =>
    obtain ⟨name, v⟩ := p
    rw [addEntries]
    cases hentry : addEntry rules name v with
    | error e' =>
      have hfault := addEntry_eq_error_iff.mp hentry
      simp only [Except.error.injEq]
      constructor
      · rintro rfl
        exact ⟨[], name, v, rest, rfl, by simp, hfault⟩
      · rintro ⟨before, name', v', after, heq, hbefore, hfault'⟩
        cases before with
        | nil =>
          cases heq
          exact hfault.unique hfault'
        | cons q before =>
          -- The entry with the fault would be one of those that have none.
          cases heq
          obtain ⟨c, hadds⟩ := hbefore (name, v) (by simp)
          exact absurd hfault (hadds.not_fault e')
    | ok rules' =>
      obtain ⟨c, hadds, _⟩ := addEntry_eq_ok_iff.mp hentry
      simp only [ih]
      constructor
      · rintro ⟨before, name', v', after, rfl, hbefore, hfault⟩
        refine ⟨(name, v) :: before, name', v', after, rfl, ?_, hfault⟩
        exact List.forall_mem_cons.mpr ⟨⟨c, hadds⟩, hbefore⟩
      · rintro ⟨before, name', v', after, heq, hbefore, hfault⟩
        cases before with
        | nil =>
          cases heq
          exact absurd hfault (hadds.not_fault e)
        | cons q before =>
          cases heq
          exact ⟨before, name', v', after, rfl, (List.forall_mem_cons.mp hbefore).2, hfault⟩

theorem lastOfEach_extend (history : List ConfiguredRule) (c : Option ConfiguredRule) :
    extend (RuleSet.lastOfEach history) c = RuleSet.lastOfEach (history ++ c.toList) := by
  cases c with
  | none => simp [extend]
  | some c => exact (RuleSet.lastOfEach_concat history c).symm

theorem addEntries_eq_ok_iff {history : List ConfiguredRule} {entries : List (Text × Json)}
    {rules : RuleSet} :
    addEntries (RuleSet.lastOfEach history) entries = .ok rules ↔
      ∃ added, List.Forall₂ (fun p c => Adds p.1 p.2 c) entries added ∧
        rules = RuleSet.lastOfEach (history ++ added.reduceOption) := by
  induction entries generalizing history with
  | nil =>
    simp only [addEntries, Except.ok.injEq, List.forall₂_nil_left_iff, exists_eq_left,
      List.reduceOption_nil, List.append_nil]
    exact eq_comm
  | cons p rest ih =>
    obtain ⟨name, v⟩ := p
    rw [addEntries]
    cases hentry : addEntry (RuleSet.lastOfEach history) name v with
    | error e =>
      have hfault := addEntry_eq_error_iff.mp hentry
      constructor
      · intro h
        cases h
      · rintro ⟨_, hadded, _⟩
        obtain ⟨c, _, hadds, _⟩ := List.forall₂_cons_left_iff.mp hadded
        exact absurd hfault (hadds.not_fault e)
    | ok rules' =>
      obtain ⟨c, hadds, rfl⟩ := addEntry_eq_ok_iff.mp hentry
      have hreduce : ∀ added,
          history ++ c.toList ++ added.reduceOption = history ++ (c :: added).reduceOption := by
        intro added
        cases c <;> simp
      simp only [lastOfEach_extend, ih, List.forall₂_cons_left_iff]
      constructor
      · rintro ⟨added, hadded, rfl⟩
        exact ⟨c :: added, ⟨c, added, hadds, hadded, rfl⟩, by rw [hreduce]⟩
      · rintro ⟨_, ⟨c', added, hadds', hadded, rfl⟩, rfl⟩
        obtain rfl := hadds.unique hadds'
        exact ⟨added, hadded, by rw [hreduce]⟩

theorem names_added_sublist {entries : List (Text × Json)} {added : List (Option ConfiguredRule)}
    (h : List.Forall₂ (fun p c => Adds p.1 p.2 c) entries added) :
    ((RuleSet.names added.reduceOption).map String.toList).Sublist (entries.map Prod.fst) := by
  induction h with
  | nil => exact List.Sublist.refl _
  | @cons p c entries added hadds _ ih =>
    cases c with
    | none => exact ih.cons _
    | some c =>
      rw [List.reduceOption_cons_of_some, List.map_cons, ← hadds.name_eq]
      exact ih.cons_cons _

/-- The options of an entry that is off do not matter. -/
theorem addEntry_off {name : Text} {s : Json} (h : Rates s none) (rules : RuleSet)
    (options options' : Json) :
    addEntry rules name (.array [s, options]) = addEntry rules name (.array [s, options']) := by
  simp only [addEntry, readEntry_of_form (.withOptions s _), readSeverity_of_rates h, Except.map]

theorem addEntries_append (rules : RuleSet) (first second : List (Text × Json)) :
    addEntries rules (first ++ second) = (addEntries rules first).bind fun rules' =>
      addEntries rules' second := by
  induction first generalizing rules with
  | nil => rfl
  | cons p rest ih =>
    rw [List.cons_append, addEntries, addEntries]
    cases addEntry rules p.1 p.2 with
    | error e => rfl
    | ok rules' => exact ih rules'

/-- Entries with different names are refused exactly if one of them has a fault, with the fault of
the first one that has; otherwise the rules are those that the entries add, in order. An entry has
one fault or adds one thing, and the options of an entry that is off make no difference. -/
theorem first_fault_decides {entries : List (Text × Json)} (h : (entries.map Prod.fst).Nodup) :
    ((∃ e, ofEntries entries = .error e) ↔ ∃ p ∈ entries, ∃ e, Fault p.1 p.2 e) ∧
      (∀ e, ofEntries entries = .error e ↔
        ∃ before name v after,
          entries = before ++ (name, v) :: after ∧ (∀ p ∈ before, ∀ e', ¬ Fault p.1 p.2 e') ∧
          Fault name v e) ∧
      (∀ rules, ofEntries entries = .ok rules ↔
        ∃ added,
          List.Forall₂ (fun p c => Adds p.1 p.2 c) entries added ∧ rules = added.reduceOption) ∧
      (∀ name v,
        ((∃! e, Fault name v e) ∧ ∀ c, ¬ Adds name v c) ∨
          ((∃! c, Adds name v c) ∧ ∀ e, ¬ Fault name v e)) ∧
      ∀ before name s options options' after,
        entries = before ++ (name, .array [s, options]) :: after → Rates s none →
        ofEntries (before ++ (name, .array [s, options']) :: after) = ofEntries entries := by
  have herror : ∀ e, ofEntries entries = .error e ↔
      ∃ before name v after,
        entries = before ++ (name, v) :: after ∧ (∀ p ∈ before, ∀ e', ¬ Fault p.1 p.2 e') ∧
        Fault name v e := by
    intro e
    simp only [ofEntries, addEntries_eq_error_iff, exists_adds_iff]
  have hok : ∀ rules, ofEntries entries = .ok rules ↔
      ∃ added,
        List.Forall₂ (fun p c => Adds p.1 p.2 c) entries added ∧ rules = added.reduceOption := by
    intro rules
    show addEntries (RuleSet.lastOfEach []) entries = .ok rules ↔ _
    rw [addEntries_eq_ok_iff]
    refine exists_congr fun added => and_congr_right fun hadded => ?_
    have hnames : (RuleSet.names added.reduceOption).Nodup :=
      ((names_added_sublist hadded).nodup h).of_map _
    rw [List.nil_append, RuleSet.lastOfEach_of_nodup hnames]
  refine ⟨?_, herror, hok, one_fault_or_one_addition, ?_⟩
  · constructor
    · rintro ⟨e, he⟩
      obtain ⟨before, name, v, after, rfl, _, hfault⟩ := (herror e).mp he
      exact ⟨(name, v), by simp, e, hfault⟩
    · rintro ⟨p, hp, e, hfault⟩
      cases hentries : ofEntries entries with
      | error e' => exact ⟨e', rfl⟩
      | ok rules =>
        obtain ⟨added, hadded, _⟩ := (hok rules).mp hentries
        have hnone : ∀ q ∈ entries, ∀ e', ¬ Fault q.1 q.2 e' :=
          ((List.forall₂_and_left _ _).mp (hadded.imp fun _ _ hadds => ⟨hadds.not_fault, hadds⟩)).1
        exact absurd hfault (hnone p hp e)
  · rintro before name s options options' after rfl hoff
    simp only [ofEntries, addEntries_append, addEntries, addEntry_off hoff _ options' options]

/-- Three entries in order: with options, off with options of no shape, and a number. -/
def entriesWithOff : List (Text × Json) :=
  [("no-let".toList,
    .array [.string "warn".toList, .object [("allowLocalMutation".toList, .bool true)]]),
    ("no-class".toList, .array [.string "off".toList, .bool true]),
    ("no-this-expression".toList, .number (.nonNegative 2))]

/-- The same entries, with one of no known name and one with a bad severity behind them. -/
def entriesWithTwoFaults : List (Text × Json) :=
  entriesWithOff ++
    [("no-var".toList, .array [.string "error".toList, .null]), ("no-try-statement".toList, .null)]

theorem first_fault_decides_entriesWithOff :
    (entriesWithTwoFaults.map Prod.fst).Nodup ∧
      (∃ added rules, List.Forall₂ (fun p c => Adds p.1 p.2 c) entriesWithOff added ∧
        ofEntries entriesWithOff = .ok rules ∧ rules = added.reduceOption ∧
        rules.map (fun c => (c.rule.name, c.severity)) =
          [("no-let", .warning), ("no-this-expression", .error)]) ∧
      ∃ before name v after, entriesWithTwoFaults = before ++ (name, v) :: after ∧
        (∀ p ∈ before, ∀ e, ¬ Fault p.1 p.2 e) ∧ Fault name v (.unknownRule "no-var".toList) := by
  have hnodup : (entriesWithTwoFaults.map Prod.fst).Nodup := by decide
  refine ⟨hnodup, ?_, ((first_fault_decides hnodup).2.1 _).mp rfl⟩
  obtain ⟨rules, hrules⟩ : ∃ rules, ofEntries entriesWithOff = .ok rules := ⟨_, rfl⟩
  obtain ⟨added, hadded, heq⟩ := ((first_fault_decides (by decide)).2.2.1 rules).mp hrules
  refine ⟨added, rules, hadded, hrules, heq, ?_⟩
  cases hrules
  rfl

end Config

end PureLint
