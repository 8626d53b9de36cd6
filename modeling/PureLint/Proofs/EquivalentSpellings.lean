import Mathlib.Logic.Relation
import PureLint.Lint
import PureLint.Proofs.DeclaredShapes
import PureLint.Proofs.FirstFault

/-!
# Equivalent spellings of a configuration

An entry of a configuration can be written in several ways: a severity as a word or a number, alone
or in an array, with or without empty options, and a text in the options alone or in a list
(`Respells`). None of them makes a difference to the rules, and an error may differ only in the
value that it shows.

Options that are read from two spellings are not the same: one text is kept apart from a list of
one. So options are compared after their texts are put in lists. This is compatible with every field
(`Keeps`), and a rule is built from the listed options as from the others (`exists_listsBy`).
-/

namespace PureLint

/-! ## Reading options up to lists -/

/-- The options that are a text or a list of texts. -/
def textOptions : List String :=
  ["ignorePattern", "ignoreAccessorPattern", "ignorePrefix", "ignoreSuffix"]

namespace Json.Shape

variable {ρ : Type} {listed : ρ → ρ} {fields : List (FieldShape ρ)}

/-- A field whose value changes records that are listed alike in the same way, and that makes no
difference between a text and the list of it, if it takes texts. -/
structure FieldShape.Keeps (listed : ρ → ρ) (f : FieldShape ρ) : Prop where
  set_listed : ∀ v r, (f.set v r).map listed = (f.set v (listed r)).map listed
  set_text : f.name ∈ textOptions →
    ∀ t r, (f.set (.string t) r).map listed = (f.set (.array [.string t]) r).map listed

theorem FieldShape.keeps_id {f : FieldShape ρ} (h : f.name ∉ textOptions) : f.Keeps id :=
  ⟨fun _ _ => rfl, fun hname => absurd hname h⟩

theorem FieldShape.set_of_listed {α : Type} {name : String} {shape : Json → Except ShapeError α}
    {update : α → ρ → ρ}
    (h : ∀ a r, listed (update a r) = listed (update a (listed r))) (v : Json) (r : ρ) :
    ((FieldShape.of name shape update).set v r).map listed =
      ((FieldShape.of name shape update).set v (listed r)).map listed := by
  show ((shape v).map fun a => update a r).map listed =
    ((shape v).map fun a => update a (listed r)).map listed
  cases shape v with
  | error e => rfl
  | ok a => exact congrArg Except.ok (h a r)

theorem FieldShape.keeps_of {α : Type} {name : String} {shape : Json → Except ShapeError α}
    {update : α → ρ → ρ}
    (hname : name ∉ textOptions) (h : ∀ a r, listed (update a r) = listed (update a (listed r))) :
    (FieldShape.of name shape update).Keeps listed :=
  ⟨set_of_listed h, fun hname' => absurd hname' hname⟩

theorem FieldShape.keeps_texts {name : String} {update : OneOrMany → ρ → ρ}
    (h : ∀ a r, listed (update a r) = listed (update a (listed r)))
    (htext : ∀ t r, listed (update (.one t) r) = listed (update (.many [t]) r)) :
    (FieldShape.of name OneOrMany.ofJson update).Keeps listed :=
  ⟨set_of_listed h, fun _ t r => congrArg Except.ok (htext t r)⟩

theorem bind_map_congr {ε α β γ δ : Type} {x y : Except ε α} {f : α → γ} {k : α → Except ε β}
    {g : β → δ} (h : x.map f = y.map f) (hk : ∀ a b, f a = f b → (k a).map g = (k b).map g) :
    (x.bind k).map g = (y.bind k).map g := by
  cases x with
  | error e =>
    cases y with
    | error e' =>
      cases h
      rfl
    | ok b => cases h
  | ok a =>
    cases y with
    | error e' => cases h
    | ok b => exact hk a b (Except.ok.inj h)

theorem setMembers_listed (h : ∀ f ∈ fields, f.Keeps listed) (members : List (Text × Json))
    (r r' : ρ) (hr : listed r = listed r') :
    (setMembers fields members r).map listed = (setMembers fields members r').map listed := by
  induction members generalizing r r' with
  | nil => exact congrArg Except.ok hr
  | cons p rest ih =>
    obtain ⟨key, value⟩ := p
    cases hfind : fields.find? fun f => f.name.toList == key with
    | none =>
      -- The error is the same, since it depends on the members only.
      simp [setMembers, hfind, Except.map]
    | some f =>
      have hf := (h f (List.mem_of_find?_eq_some hfind)).set_listed value
      have hset : (f.set value r).map listed = (f.set value r').map listed := by
        rw [hf r, hr, ← hf r']
      rw [setMembers_cons hfind, setMembers_cons hfind]
      exact bind_map_congr hset ih

theorem setMembers_text (h : ∀ f ∈ fields, f.Keeps listed) {key : String} (hkey : key ∈ textOptions)
    (before after : List (Text × Json)) (t : Text) (r : ρ) :
    (setMembers fields (before ++ (key.toList, .string t) :: after) r).map listed =
      (setMembers fields (before ++ (key.toList, .array [.string t]) :: after) r).map listed := by
  rw [setMembers_append, setMembers_append]
  cases setMembers fields before r with
  | error e => rfl
  | ok next =>
    show (setMembers fields _ next).map listed = (setMembers fields _ next).map listed
    cases hfind : fields.find? fun f => f.name.toList == key.toList with
    | none => simp [setMembers, hfind]
    | some f =>
      have hname : f.name = key := String.toList_inj.mp (by simpa using List.find?_some hfind)
      -- The records differ from here on, but they are listed alike.
      have hset := (h f (List.mem_of_find?_eq_some hfind)).set_text (hname ▸ hkey) t next
      rw [setMembers_cons hfind, setMembers_cons hfind]
      exact bind_map_congr hset (setMembers_listed h after)

end Json.Shape

open Json.Shape (FieldShape)

/-! ## Building rules up to lists -/

/-- The texts as a list. -/
def OneOrMany.listed (ts : OneOrMany) : OneOrMany := .many ts.toList

namespace Rules

def ImmutableData.Options.listed (o : ImmutableData.Options) : ImmutableData.Options :=
  { o with
    ignorePattern := o.ignorePattern.listed
    ignoreAccessorPattern := o.ignoreAccessorPattern.listed }

def NoLet.Options.listed (o : NoLet.Options) : NoLet.Options :=
  { o with ignorePattern := o.ignorePattern.listed }

def PreferReadonlyType.Options.listed (o : PreferReadonlyType.Options) :
    PreferReadonlyType.Options :=
  { o with ignorePattern := o.ignorePattern.listed }

def NoExpressionStatement.Options.listed (o : NoExpressionStatement.Options) :
    NoExpressionStatement.Options :=
  { o with
    ignorePattern := o.ignorePattern.listed
    ignorePrefix := o.ignorePrefix.listed
    ignoreSuffix := o.ignoreSuffix.listed }

def FunctionalParameters.Options.listed (o : FunctionalParameters.Options) :
    FunctionalParameters.Options :=
  { o with ignorePattern := o.ignorePattern.listed }

open Json.Shape.FieldShape (keeps_of keeps_texts)

theorem ImmutableData.fields_keep : ∀ f ∈ ImmutableData.fields, f.Keeps Options.listed := by
  simp only [ImmutableData.fields, List.forall_mem_cons, List.not_mem_nil, false_implies,
    implies_true, and_true]
  refine ⟨keeps_texts ?_ ?_, keeps_texts ?_ ?_, keeps_of (by decide) ?_, keeps_of (by decide) ?_,
    keeps_of (by decide) ?_⟩
  all_goals exact fun _ _ => rfl

theorem NoLet.fields_keep : ∀ f ∈ NoLet.fields, f.Keeps Options.listed := by
  simp only [NoLet.fields, List.forall_mem_cons, List.not_mem_nil, false_implies, implies_true,
    and_true]
  refine ⟨keeps_of (by decide) ?_, keeps_of (by decide) ?_, keeps_texts ?_ ?_⟩
  all_goals exact fun _ _ => rfl

theorem PreferReadonlyType.fields_keep :
    ∀ f ∈ PreferReadonlyType.fields, f.Keeps Options.listed := by
  simp only [PreferReadonlyType.fields, List.forall_mem_cons, List.not_mem_nil, false_implies,
    implies_true, and_true]
  refine ⟨keeps_of (by decide) ?_, keeps_of (by decide) ?_, keeps_of (by decide) ?_,
    keeps_of (by decide) ?_, keeps_of (by decide) ?_, keeps_texts ?_ ?_⟩
  all_goals exact fun _ _ => rfl

theorem NoExpressionStatement.fields_keep :
    ∀ f ∈ NoExpressionStatement.fields, f.Keeps Options.listed := by
  simp only [NoExpressionStatement.fields, List.forall_mem_cons, List.not_mem_nil, false_implies,
    implies_true, and_true]
  refine ⟨keeps_texts ?_ ?_, keeps_texts ?_ ?_, keeps_texts ?_ ?_, keeps_of (by decide) ?_⟩
  all_goals exact fun _ _ => rfl

theorem FunctionalParameters.fields_keep :
    ∀ f ∈ FunctionalParameters.fields, f.Keeps Options.listed := by
  simp only [FunctionalParameters.fields, List.forall_mem_cons, List.not_mem_nil, false_implies,
    implies_true, and_true]
  refine ⟨keeps_of (by decide) ?_, keeps_of (by decide) ?_, keeps_of (by decide) ?_,
    keeps_texts ?_ ?_⟩
  all_goals exact fun _ _ => rfl

end Rules

/-- A way to list the options of a definition that its fields keep and that its rules do not depend
on. -/
structure Definition.ListsBy (d : Definition) (listed : d.Options → d.Options) : Prop where
  fields_keep : ∀ f ∈ d.fields, f.Keeps listed
  withOptions_listed : ∀ o, d.withOptions (listed o) = d.withOptions o

theorem Definition.listsBy_id {d : Definition} (h : ∀ f ∈ d.fields, f.name ∉ textOptions) :
    d.ListsBy id :=
  ⟨fun f hf => FieldShape.keeps_id (h f hf), fun _ => rfl⟩

theorem Registry.exists_listsBy {d : Definition} (h : d ∈ definitions) :
    ∃ listed, d.ListsBy listed := by
  obtain rfl | rfl | rfl | rfl | rfl | rfl | rfl | rfl | rfl | rfl | rfl | rfl | rfl :=
    mem_definitions_iff.mp h
  · exact ⟨_, Rules.ImmutableData.fields_keep, fun _ => rfl⟩
  · exact ⟨_, Rules.NoLet.fields_keep, fun _ => rfl⟩
  · exact ⟨_, Rules.PreferReadonlyType.fields_keep, fun _ => rfl⟩
  · exact ⟨id, Definition.listsBy_id (by decide)⟩
  · exact ⟨id, Definition.listsBy_id (by decide)⟩
  · exact ⟨_, Rules.NoExpressionStatement.fields_keep, fun _ => rfl⟩
  · exact ⟨id, Definition.listsBy_id (by decide)⟩
  · exact ⟨id, Definition.listsBy_id (by decide)⟩
  · exact ⟨id, Definition.listsBy_id (by decide)⟩
  · exact ⟨id, Definition.listsBy_id (by decide)⟩
  · exact ⟨id, Definition.listsBy_id (by decide)⟩
  · exact ⟨_, Rules.FunctionalParameters.fields_keep, fun _ => rfl⟩
  · exact ⟨id, Definition.listsBy_id (by decide)⟩

theorem Definition.ListsBy.build_eq {d : Definition} {listed : d.Options → d.Options}
    (h : d.ListsBy listed) (options : Option Json) :
    d.build options = (((d.readOptions options).map listed).mapError .options).bind fun o =>
      (d.withOptions o).mapError .pattern := by
  unfold Definition.build
  cases d.readOptions options with
  | error e => rfl
  | ok o =>
    simp only [Except.map, Except.mapError, Except.bind, h.withOptions_listed]
    cases d.withOptions o <;> rfl

namespace Registry

/-- A text in the options may be put in a list. -/
theorem build_text (name : Text) {key : String} (hkey : key ∈ textOptions)
    (before after : List (Text × Json)) (t : Text) :
    build name (some (.object (before ++ (key.toList, .string t) :: after))) =
      build name (some (.object (before ++ (key.toList, .array [.string t]) :: after))) := by
  unfold build
  cases hfind : find? name with
  | none => rfl
  | some d =>
    obtain ⟨listed, hlisted⟩ := exists_listsBy (exists_of_find? hfind).1
    have hread := Json.Shape.setMembers_text hlisted.fields_keep hkey before after t d.defaults
    simp only [hlisted.build_eq, Definition.readOptions, Json.Shape.record, hread]

theorem build_empty (name : Text) : build name (some (.object [])) = build name none := rfl

end Registry

/-! ## Entries -/

/-- The error without the value that it shows of a bad severity. -/
def ConfigError.withoutValue : ConfigError → ConfigError
  | invalidSeverity rule _ => invalidSeverity rule .null
  | e => e

namespace Config

/-- One change to the way an entry is written: another spelling of its severity, a severity alone or
in an array, without options or with empty ones, other options where the rule is off, and a text in
the options alone or in a list. An array may have more items than an entry has. -/
inductive Respells : Json → Json → Prop
  | severity {s s' : Json} {r : Option Severity} (h : Rates s r) (h' : Rates s' r) : Respells s s'
  | listedSeverity {s s' : Json} {r : Option Severity} (h : Rates s r) (h' : Rates s' r)
    (rest : List Json) :
    Respells (.array (s :: rest)) (.array (s' :: rest))
  | listed {s : Json} (h : ∀ items, s ≠ .array items) : Respells s (.array [s])
  | emptyOptions {s : Json} (h : ∀ items, s ≠ .array items) : Respells s (.array [s, .object []])
  | offOptions {s : Json} (h : Rates s none) (options options' : Json) (rest : List Json) :
    Respells (.array (s :: options :: rest)) (.array (s :: options' :: rest))
  | text (s : Json) (before after : List (Text × Json)) (key : String) (hkey : key ∈ textOptions)
    (t : Text) (rest : List Json) :
    Respells (.array (s :: .object (before ++ (key.toList, .string t) :: after) :: rest))
      (.array (s :: .object (before ++ (key.toList, .array [.string t]) :: after) :: rest))

/-- Entries of one name whose values are written from each other by such changes, made forth or
back. -/
structure SameEntry (p p' : Text × Json) : Prop where
  name_eq : p.1 = p'.1
  value : Relation.EqvGen Respells p.2 p'.2

/-- What an entry comes to, apart from the value that is shown of a bad severity. -/
def outcome (rules : RuleSet) (name : Text) (v : Json) : Except ConfigError RuleSet :=
  (addEntry rules name v).mapError ConfigError.withoutValue

/-- Adds the rule of an entry whose severity and options are read. -/
def addRead (rules : RuleSet) (name : Text) (options : Option Json) :
    Option Severity → Except ConfigError RuleSet
  | none => (Registry.build name none).map fun _ => rules
  | some s => rules.pushNamed name options s

theorem outcome_of_form {v s : Json} {options : Option Json} (rules : RuleSet) (name : Text)
    (h : Form v s options) :
    outcome rules name v =
      ((readSeverity name s).bind (addRead rules name options)).mapError
        ConfigError.withoutValue := by
  rw [outcome, addEntry, readEntry_of_form h]
  cases readSeverity name s with
  | error e => rfl
  | ok r => cases r <;> rfl

theorem addRead_congr {name : Text} {options options' : Option Json}
    (h : Registry.build name options = Registry.build name options') (rules : RuleSet) :
    addRead rules name options = addRead rules name options' := by
  funext r
  cases r with
  | none => rfl
  | some s => rw [addRead, addRead, RuleSet.pushNamed, RuleSet.pushNamed, h]

theorem Rates.form {s : Json} {r : Option Severity} (h : Rates s r) : Form s s none := by
  cases h <;> exact .alone nofun

/-- A change to the way an entry is written makes no difference to what it comes to. -/
theorem Respells.outcome_eq {v v' : Json} (h : Respells v v') (rules : RuleSet) (name : Text) :
    outcome rules name v = outcome rules name v' := by
  cases h with
  | severity h h' =>
    rw [outcome_of_form rules name h.form, outcome_of_form rules name h'.form,
      readSeverity_of_rates h, readSeverity_of_rates h']
  | @listedSeverity s s' r h h' rest =>
    have hread : readSeverity name s = readSeverity name s' := by
      rw [readSeverity_of_rates h, readSeverity_of_rates h']
    match rest with
    | [] =>
      rw [outcome_of_form rules name (.listed s), outcome_of_form rules name (.listed s'), hread]
    | [options] =>
      rw [outcome_of_form rules name (.withOptions s options),
        outcome_of_form rules name (.withOptions s' options), hread]
    | _ :: _ :: _ => rfl -- An array that is too long is refused whatever it holds.
  | listed h => rw [outcome_of_form rules name (.alone h), outcome_of_form rules name (.listed v)]
  | emptyOptions h =>
    rw [outcome_of_form rules name (.alone h),
      outcome_of_form rules name (.withOptions v (.object [])),
      addRead_congr (Registry.build_empty name)]
  | @offOptions s h options options' rest =>
    match rest with
    | [] => rw [outcome, outcome, addEntry_off h rules options options']
    | _ :: _ => rfl
  | text s before after key hkey t rest =>
    match rest with
    | [] =>
      rw [outcome_of_form rules name (.withOptions s _),
        outcome_of_form rules name (.withOptions s _),
        addRead_congr (Registry.build_text name hkey before after t)]
    | _ :: _ => rfl

theorem SameEntry.outcome_eq {p p' : Text × Json} (h : SameEntry p p') (rules : RuleSet) :
    outcome rules p.1 p.2 = outcome rules p'.1 p'.2 := by
  obtain ⟨name, v⟩ := p
  obtain ⟨name', v'⟩ := p'
  obtain ⟨rfl, hvalue⟩ := h
  dsimp only at hvalue ⊢
  -- One change keeps the outcome, so any number of them does, forth or back.
  induction hvalue with
  | rel v v' h => exact h.outcome_eq rules name
  | refl v => rfl
  | symm v v' _ ih => exact ih.symm
  | trans v w v' _ _ ih ih' => exact ih.trans ih'

/-! ## All entries -/

theorem mapError_bind_congr {ε ε' α β : Type} {x y : Except ε α} {k k' : α → Except ε β}
    {w : ε → ε'}
    (h : x.mapError w = y.mapError w) (hk : ∀ a, (k a).mapError w = (k' a).mapError w) :
    (x.bind k).mapError w = (y.bind k').mapError w := by
  cases x with
  | error e =>
    cases y with
    | error e' => exact congrArg Except.error (Except.error.inj h)
    | ok b => cases h
  | ok a =>
    cases y with
    | error e' => cases h
    | ok b =>
      obtain rfl := Except.ok.inj h
      exact hk a

theorem addEntries_cons (rules : RuleSet) (p : Text × Json) (rest : List (Text × Json)) :
    addEntries rules (p :: rest) = (addEntry rules p.1 p.2).bind fun next =>
      addEntries next rest := by
  rw [addEntries]
  cases addEntry rules p.1 p.2 <;> rfl

theorem addEntries_respelled {entries entries' : List (Text × Json)}
    (h : List.Forall₂ SameEntry entries entries') (rules : RuleSet) :
    (addEntries rules entries).mapError ConfigError.withoutValue =
      (addEntries rules entries').mapError ConfigError.withoutValue := by
  induction h generalizing rules with
  | nil => rfl
  | cons hp _ ih =>
    rw [addEntries_cons, addEntries_cons]
    exact mapError_bind_congr (hp.outcome_eq rules) ih

end Config

/-- The error without the value that it shows of a bad severity. -/
def LintError.withoutValue : LintError → LintError
  | unreadable => unreadable
  | config e => config e.withoutValue

theorem lintWith_of_entriesOf {config : Text} {entries : List (Text × Json)}
    (h : Config.entriesOf config = .ok entries) (source : Text) (path : Option Text) :
    lintWith (some config) source path =
      ((Config.ofEntries entries).mapError .config).bind (lint source path) := by
  have hparse : Config.parse config = Config.ofEntries entries := by
    rw [Config.parse, h]
  rw [lintWith, rulesOf, hparse]
  cases Config.ofEntries entries <;> rfl

/-- Entries that are spelled differently have the same rules at the same severities, or are refused
for the same reason with the same rule, the shown value of a bad severity apart. So they lint alike,
and so do texts that they are read from. -/
theorem equivalent_spellings_lint_alike {entries entries' : List (Text × Json)}
    (h : List.Forall₂ Config.SameEntry entries entries') :
    (Config.ofEntries entries).mapError ConfigError.withoutValue =
        (Config.ofEntries entries').mapError ConfigError.withoutValue ∧
      (∀ source path,
        ((Config.ofEntries entries).map (lint source path)).mapError ConfigError.withoutValue =
        ((Config.ofEntries entries').map (lint source path)).mapError ConfigError.withoutValue) ∧
      ∀ config config',
        Config.entriesOf config = .ok entries → Config.entriesOf config' = .ok entries' →
        ∀ source path, (lintWith (some config) source path).mapError LintError.withoutValue =
          (lintWith (some config') source path).mapError LintError.withoutValue := by
  have hentries := Config.addEntries_respelled h []
  -- The shown value is dropped from an error of a configuration before or after it is one of
  -- linting.
  have hcommute : ∀ {α : Type} (x : Except ConfigError α),
      (x.mapError LintError.config).mapError LintError.withoutValue =
      (x.mapError ConfigError.withoutValue).mapError LintError.config := by
    intro α x
    cases x <;> rfl
  refine ⟨hentries, fun source path => ?_, fun config config' hconfig hconfig' source path => ?_⟩
  · exact Config.mapError_bind_congr hentries fun _ => rfl
  · rw [lintWith_of_entriesOf hconfig, lintWith_of_entriesOf hconfig']
    refine Config.mapError_bind_congr ?_ fun _ => rfl
    rw [hcommute, hcommute]
    exact congrArg _ hentries

/-- Three entries that are written in the long way. -/
def longEntries : List (Text × Json) :=
  [("no-let".toList, .array [.string "warn".toList, .object []]),
    ("no-class".toList, .array [.number (.nonNegative 0), .bool true]),
    ("no-expression-statement".toList,
      .array [.string "error".toList,
        .object [("ignorePrefix".toList, .array [.string "log".toList])]])]

/-- The same entries with words for numbers, texts for lists and nothing for empty options. -/
def shortEntries : List (Text × Json) :=
  [("no-let".toList, .number (.nonNegative 1)),
    ("no-class".toList, .string "off".toList),
    ("no-expression-statement".toList,
      .array [.number (.nonNegative 2), .object [("ignorePrefix".toList, .string "log".toList)]])]

theorem equivalent_spellings_longEntries :
    List.Forall₂ Config.SameEntry longEntries shortEntries ∧
      ∃ rules,
        Config.ofEntries longEntries = .ok rules ∧ Config.ofEntries shortEntries = .ok rules ∧
        rules.map (fun c => (c.rule.name, c.severity)) =
          [("no-let", .warning), ("no-expression-statement", .error)] := by
  have hentries : List.Forall₂ Config.SameEntry longEntries shortEntries := by
    refine .cons ⟨rfl, ?_⟩ (.cons ⟨rfl, ?_⟩ (.cons ⟨rfl, ?_⟩ .nil))
    · exact .trans _ _ _ (.symm _ _ (.rel _ _ (.emptyOptions nofun)))
        (.rel _ _ (.severity .warnWord .warnNumber))
    · refine .trans _ _ _ (.rel _ _ (.offOptions .offNumber (.bool true) (.object []) [])) ?_
      exact .trans _ _ _ (.symm _ _ (.rel _ _ (.emptyOptions nofun)))
        (.rel _ _ (.severity .offNumber .offWord))
    · refine .trans _ _ _ (.rel _ _ (.listedSeverity .errorWord .errorNumber _)) ?_
      exact .symm _ _
        (.rel _ _ (.text (.number (.nonNegative 2)) [] [] "ignorePrefix" (by decide) _ []))
  obtain ⟨rules, hrules⟩ : ∃ rules, Config.ofEntries longEntries = .ok rules := ⟨_, rfl⟩
  have hsame := (equivalent_spellings_lint_alike hentries).1
  rw [hrules] at hsame
  refine ⟨hentries, rules, hrules, ?_, ?_⟩
  · cases hshort : Config.ofEntries shortEntries with
    | error e =>
      rw [hshort] at hsame
      cases hsame
    | ok rules' =>
      rw [hshort] at hsame
      exact hsame.symm
  · cases hrules
    rfl

end PureLint
