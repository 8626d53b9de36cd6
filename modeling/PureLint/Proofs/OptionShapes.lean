import PureLint.Proofs.DeclaredShapes
import PureLint.Proofs.FirstFault
import PureLint.Proofs.GlobMeaning

/-!
# Which options a rule takes

The options of every rule are declared in a table, each with the values it takes (`optionTable`). A
rule is built from a value exactly if this is a record of its declared options whose patterns are in
order. The patterns are the texts of `ignorePattern`, which have to be regular expressions, and
behind them the segments of `ignoreAccessorPattern`, whose globs must not be too large; the first
that is not in order is the error (`PatternFault`). Nothing else about the options matters.
-/

namespace PureLint

open Json Json.Shape

/-! ## Values of options -/

theorem OneOrMany.exists_ofJson_iff {v : Json} : (∃ ts, ofJson v = .ok ts) ↔ IsTexts v := by
  cases v with
  | string t => simp [ofJson, IsTexts]
  | array items =>
    cases hmap : items.mapM text? with
    | none =>
      refine iff_of_false (by simp [ofJson, hmap]) ?_
      rintro (⟨t, ht⟩ | ⟨ts, hts⟩)
      · cases ht
      · rw [mapM_text?_eq_some_iff.mpr (Json.array.inj hts)] at hmap
        cases hmap
    | some ts =>
      refine iff_of_true ⟨.many ts, by simp [ofJson, hmap]⟩ (.inr ⟨ts, ?_⟩)
      rw [mapM_text?_eq_some_iff.mp hmap]
  | _ => simp [ofJson, IsTexts]

theorem OneOrMany.toList_of_ofJson {v : Json} {ts : OneOrMany} (h : ofJson v = .ok ts) :
    ts.toList = v.texts := by
  cases v with
  | string t =>
    cases h
    rfl
  | array items =>
    cases hmap : items.mapM text? with
    | none => simp [ofJson, hmap] at h
    | some us =>
      obtain rfl : OneOrMany.many us = ts := by simpa [ofJson, hmap] using h
      rw [mapM_text?_eq_some_iff.mp hmap, Json.texts, List.filterMap_map]
      exact List.filterMap_some.symm
  | _ => simp [ofJson] at h

/-- A flag, or the word for fields. -/
def IsClassMode (v : Json) : Prop := IsFlag v ∨ IsWord ["fieldsOnly"] v

theorem IgnoreClass.exists_ofJson_iff {v : Json} : (∃ c, ofJson v = .ok c) ↔ IsClassMode v := by
  rw [IsClassMode, show ["fieldsOnly"] = [("fieldsOnly", fieldsOnly)].map Prod.fst from rfl,
    ← exists_word?_iff]
  unfold ofJson
  split
  · simp [IsFlag]
  · rename_i hflag
    have hflag' : ¬ IsFlag v := by
      rintro ⟨b, hb⟩
      exact hflag b hb
    rw [or_iff_right hflag']
    split <;> simp_all

/-- The words for the number of parameters. -/
def countWords : List String := ["atLeastOne", "exactlyOne"]

/-- The options about the number of parameters. -/
def countOptions : List Declared := [⟨"count", IsWord countWords⟩, .flag "ignoreIIFE"]

/-- A flag, a word for the number of parameters, or a record about it. -/
def IsCount (v : Json) : Prop := IsFlag v ∨ IsWord countWords v ∨ IsRecord countOptions v

theorem EnforceCount.fields_read :
    List.Forall₂ FieldShape.Reads EnforceCount.fields countOptions := by
  refine .cons (FieldShape.reads_of ?_) (.cons (FieldShape.reads_of exists_flag_iff) .nil)
  intro v
  rw [show countWords = ParameterCount.words.map Prod.fst from rfl, ← exists_word?_iff]
  cases word? ParameterCount.words v <;> simp

theorem EnforceCount.exists_ofJson_iff {v : Json} : (∃ c, ofJson v = .ok c) ↔ IsCount v := by
  -- The three shapes are tried in turn, and each is taken as soon as it fits.
  have hrecord := exists_record_iff fields_read (by decide) "DetailedParameterCount" {} v
  rw [IsCount, show countWords = ParameterCount.words.map Prod.fst from rfl, ← exists_word?_iff,
    ← hrecord]
  unfold ofJson
  split
  · simp [IsFlag]
  · rename_i hflag
    have hflag' : ¬ IsFlag v := by
      rintro ⟨b, hb⟩
      exact hflag b hb
    rw [or_iff_right hflag']
    split
    · rename_i c hword
      simp [hword]
    · rename_i hword
      simp only [hword, reduceCtorEq, exists_false, false_or]
      split
      · rename_i e he
        simp [he]
      · rename_i e he
        simp [he]

/-! ## Fields that declare options -/

namespace Json.Shape.FieldShape

variable {ρ : Type} {patterns accessors : ρ → List Text}

/-- Whether a field reads what is declared for it, and two views of the record follow the fields
with patterns. -/
structure Declares (patterns accessors : ρ → List Text) (f : FieldShape ρ) (d : Declared) :
    Prop where
  reads : f.Reads d
  tracks_patterns : f.Tracks "ignorePattern" patterns
  tracks_accessors : f.Tracks "ignoreAccessorPattern" accessors

theorem tracks_texts {key : String} {update : OneOrMany → ρ → ρ} {view : ρ → List Text}
    (h : ∀ ts r, view (update ts r) = ts.toList) :
    (FieldShape.of key OneOrMany.ofJson update).Tracks key view := by
  intro v r r' hset
  change (OneOrMany.ofJson v).map (fun ts => update ts r) = .ok r' at hset
  cases hread : OneOrMany.ofJson v with
  | error e =>
    rw [hread] at hset
    cases hset
  | ok ts =>
    rw [hread] at hset
    cases hset
    rw [h, OneOrMany.toList_of_ofJson hread]
    exact (if_pos rfl).symm

theorem declares_of {α : Type} {name : String} {shape : Json → Except ShapeError α}
    {update : α → ρ → ρ} {Takes : Json → Prop} (hshape : ∀ {v}, (∃ a, shape v = .ok a) ↔ Takes v)
    (hname : name ∉ ["ignorePattern", "ignoreAccessorPattern"])
    (hpatterns : ∀ a r, patterns (update a r) = patterns r)
    (haccessors : ∀ a r, accessors (update a r) = accessors r) :
    (FieldShape.of name shape update).Declares patterns accessors ⟨name, Takes⟩ where
  reads := reads_of hshape
  tracks_patterns := tracks_of (fun heq => hname (by simp [heq])) hpatterns
  tracks_accessors := tracks_of (fun heq => hname (by simp [heq])) haccessors

theorem declares_patterns {update : OneOrMany → ρ → ρ}
    (hpatterns : ∀ ts r, patterns (update ts r) = ts.toList)
    (haccessors : ∀ ts r, accessors (update ts r) = accessors r) :
    (FieldShape.of "ignorePattern" OneOrMany.ofJson update).Declares patterns accessors
      (.texts "ignorePattern") where
  reads := reads_of OneOrMany.exists_ofJson_iff
  tracks_patterns := tracks_texts hpatterns
  tracks_accessors := tracks_of (by decide) haccessors

theorem declares_accessors {update : OneOrMany → ρ → ρ}
    (hpatterns : ∀ ts r, patterns (update ts r) = patterns r)
    (haccessors : ∀ ts r, accessors (update ts r) = ts.toList) :
    (FieldShape.of "ignoreAccessorPattern" OneOrMany.ofJson update).Declares patterns accessors
      (.texts "ignoreAccessorPattern") where
  reads := reads_of OneOrMany.exists_ofJson_iff
  tracks_patterns := tracks_of (by decide) hpatterns
  tracks_accessors := tracks_texts haccessors

end Json.Shape.FieldShape

/-! ## Patterns in order -/

/-- Whether a text is a regular expression that is not too large. -/
def IsRegex (t : Text) : Prop := (Regex.compile? t).isSome = true

/-- Whether a segment is a glob whose regular expression is too large. -/
def Accessor.IsTooLarge (segment : Text) : Prop :=
  IsGlob segment ∧ (Glob.regex segment).fits = false

/-- What is wrong with patterns: the first text that is no regular expression, or, if there is none,
the first segment that is too large a glob, which is shown as a regular expression. -/
inductive PatternFault (patterns segments : List Text) : PatternError → Prop
  | regex {before after : List Text} {t : Text} (h : patterns = before ++ t :: after)
    (hbefore : ∀ u ∈ before, IsRegex u) (ht : ¬ IsRegex t) : PatternFault patterns segments ⟨t⟩
  | glob (hpatterns : ∀ u ∈ patterns, IsRegex u) {before after : List Text} {segment : Text}
    (h : segments = before ++ segment :: after) (hbefore : ∀ u ∈ before, ¬ Accessor.IsTooLarge u)
    (hsegment : Accessor.IsTooLarge segment) :
      PatternFault patterns segments ⟨Glob.toPattern segment⟩

theorem mapM_eq_error_iff {α β ε : Type} {f : α → Except ε β} {xs : List α} {e : ε} :
    xs.mapM f = .error e ↔
      ∃ before x after,
        xs = before ++ x :: after ∧ (∀ y ∈ before, ∃ b, f y = .ok b) ∧ f x = .error e := by
  induction xs with
  | nil => simp [pure, Except.pure]
  | cons x xs ih =>
    rw [List.mapM_cons]
    cases hx : f x with
    | error e' =>
      -- Nothing can stand before the item at fault.
      constructor
      · intro h
        cases h
        exact ⟨[], x, xs, rfl, nofun, hx⟩
      · rintro ⟨before, y, after, heq, hbefore, hy⟩
        cases before with
        | nil =>
          cases heq
          rw [hx] at hy
          cases hy
          rfl
        | cons z before =>
          cases heq
          obtain ⟨b, hb⟩ := hbefore x List.mem_cons_self
          rw [hx] at hb
          cases hb
    | ok b =>
      have hrest : (do let ys ← xs.mapM f; pure (b :: ys)) = .error e ↔ xs.mapM f = .error e := by
        cases xs.mapM f <;> simp [bind, Except.bind, pure, Except.pure]
      show (do let ys ← xs.mapM f; pure (b :: ys)) = .error e ↔ _
      rw [hrest, ih]
      constructor
      · rintro ⟨before, y, after, rfl, hbefore, hy⟩
        exact ⟨x :: before, y, after, rfl, List.forall_mem_cons.mpr ⟨⟨b, hx⟩, hbefore⟩, hy⟩
      · rintro ⟨before, y, after, heq, hbefore, hy⟩
        cases before with
        | nil =>
          cases heq
          rw [hx] at hy
          cases hy
        | cons z before =>
          cases heq
          exact ⟨before, y, after, rfl, (List.forall_mem_cons.mp hbefore).2, hy⟩

theorem Pattern.compile_eq_error_iff {t : Text} {e : PatternError} :
    Pattern.compile t = .error e ↔ ¬ IsRegex t ∧ e = ⟨t⟩ := by
  unfold Pattern.compile IsRegex
  cases Regex.compile? t <;> simp [eq_comm]

theorem Pattern.exists_compile_iff {t : Text} : (∃ r, Pattern.compile t = .ok r) ↔ IsRegex t := by
  unfold Pattern.compile IsRegex
  cases Regex.compile? t <;> simp

theorem Accessor.exists_parse_iff {segment : Text} :
    (∃ s, Segment.parse segment = .ok s) ↔ ¬ IsTooLarge segment := by
  rw [exists_parse_eq_ok_iff, IsTooLarge, not_and, Bool.not_eq_false]

theorem Accessor.parse_eq_error_iff {segment : Text} {e : PatternError} :
    Segment.parse segment = .error e ↔ IsTooLarge segment ∧ e = ⟨Glob.toPattern segment⟩ := by
  by_cases hglob : IsGlob segment
  · rw [parse_of_isGlob hglob, Glob.compile_eq, IsTooLarge]
    by_cases hfits : (Glob.regex segment).fits <;> simp [Except.map, hglob, hfits, eq_comm]
  · obtain ⟨s, hs⟩ := exists_parse_iff.mpr fun h => hglob h.1
    simp [hs, IsTooLarge, hglob]

theorem AccessorPattern.parseAll_segments (sources : List Text) :
    (parseAll sources).map (fun ps => ps.flatMap (·.segments)) =
      (sources.flatMap (Text.splitOn '.')).mapM Accessor.Segment.parse := by
  induction sources with
  | nil => rfl
  | cons source sources ih =>
    rw [List.flatMap_cons, List.mapM_append, ← ih, parseAll, parseAll, List.mapM_cons, parse]
    cases (Text.splitOn '.' source).mapM Accessor.Segment.parse with
    | error e => rfl
    | ok segments => cases sources.mapM parse <;> rfl

theorem AccessorPattern.exists_parseAll_iff {sources : List Text} :
    (∃ ps, parseAll sources = .ok ps) ↔
    ∀ segment ∈ sources.flatMap (Text.splitOn '.'), ¬ Accessor.IsTooLarge segment := by
  have hsegments : (∃ ps, parseAll sources = .ok ps) ↔
      ∃ segments,
        (sources.flatMap (Text.splitOn '.')).mapM Accessor.Segment.parse = .ok segments := by
    rw [← parseAll_segments]
    cases parseAll sources <;> simp [Except.map]
  rw [hsegments, exists_mapM_eq_ok_iff]
  simp only [Accessor.exists_parse_iff]

theorem AccessorPattern.parseAll_eq_error_iff {sources : List Text} {e : PatternError} :
    parseAll sources = .error e ↔
      (sources.flatMap (Text.splitOn '.')).mapM Accessor.Segment.parse = .error e := by
  rw [← parseAll_segments]
  cases parseAll sources <;> simp [Except.map]

/-- Reading patterns fails with the first that is not in order. -/
theorem IgnoreSettings.compile_eq_error_iff {s : IgnoreSettings} {e : PatternError} :
    s.compile = .error e ↔
      PatternFault s.ignorePattern (s.ignoreAccessorPattern.flatMap (Text.splitOn '.')) e := by
  have hcompile : s.compile = .error e ↔ Pattern.compileAll s.ignorePattern = .error e ∨
      (∃ rs, Pattern.compileAll s.ignorePattern = .ok rs) ∧
        AccessorPattern.parseAll s.ignoreAccessorPattern = .error e := by
    unfold IgnoreSettings.compile
    cases Pattern.compileAll s.ignorePattern <;>
      cases AccessorPattern.parseAll s.ignoreAccessorPattern <;>
      simp [bind, Except.bind, pure, Except.pure]
  simp only [hcompile, Pattern.compileAll, AccessorPattern.parseAll_eq_error_iff, mapM_eq_error_iff,
    exists_mapM_eq_ok_iff, Pattern.exists_compile_iff, Pattern.compile_eq_error_iff,
      Accessor.exists_parse_iff, Accessor.parse_eq_error_iff]
  constructor
  · rintro (⟨before, t, after, h, hbefore, ht, rfl⟩
      | ⟨hpatterns, before, segment, after, h, hbefore, hsegment, rfl⟩)
    · exact .regex h hbefore ht
    · exact .glob hpatterns h hbefore hsegment
  · rintro (⟨h, hbefore, ht⟩ | ⟨hpatterns, h, hbefore, hsegment⟩)
    · exact .inl ⟨_, _, _, h, hbefore, ht, rfl⟩
    · exact .inr ⟨hpatterns, _, _, _, h, hbefore, hsegment, rfl⟩

theorem IgnoreSettings.exists_compile_iff {s : IgnoreSettings} :
    (∃ i, s.compile = .ok i) ↔ (∀ t ∈ s.ignorePattern, IsRegex t) ∧
      ∀ segment ∈ s.ignoreAccessorPattern.flatMap (Text.splitOn '.'),
        ¬ Accessor.IsTooLarge segment := by
  have hpatterns : (∃ rs, Pattern.compileAll s.ignorePattern = .ok rs) ↔
      ∀ t ∈ s.ignorePattern, IsRegex t := by
    simp only [Pattern.compileAll, exists_mapM_eq_ok_iff, Pattern.exists_compile_iff]
  rw [← hpatterns, ← AccessorPattern.exists_parseAll_iff]
  unfold IgnoreSettings.compile
  cases Pattern.compileAll s.ignorePattern <;>
    cases AccessorPattern.parseAll s.ignoreAccessorPattern <;>
    simp [bind, Except.bind, pure, Except.pure]

/-! ## The options of the rules -/

namespace Definition

/-- The regular expressions in options. -/
def patternTexts (d : Definition) (o : d.Options) : List Text :=
  ((d.ignore o).map (·.ignorePattern)).getD []

/-- The accessor patterns in options. -/
def accessorTexts (d : Definition) (o : d.Options) : List Text :=
  ((d.ignore o).map (·.ignoreAccessorPattern)).getD []

variable {d : Definition} {o : d.Options}

theorem withOptions_eq_error_iff {e : PatternError} : d.withOptions o = .error e ↔
    PatternFault (d.patternTexts o) ((d.accessorTexts o).flatMap (Text.splitOn '.')) e := by
  unfold withOptions patternTexts accessorTexts
  cases d.ignore o with
  | none =>
    -- A rule without settings has no patterns that could be at fault.
    refine iff_of_false nofun ?_
    rintro (⟨h, _, _⟩ | ⟨_, h, _, _⟩)
    · simp at h
    · simp at h
  | some settings =>
    simp only [Option.map_some, Option.getD_some, ← IgnoreSettings.compile_eq_error_iff]
    cases settings.compile <;> simp [Except.map]

theorem exists_withOptions_iff :
    (∃ r, d.withOptions o = .ok r) ↔ (∀ t ∈ d.patternTexts o, IsRegex t) ∧
    ∀ segment ∈ (d.accessorTexts o).flatMap (Text.splitOn '.'), ¬ Accessor.IsTooLarge segment := by
  unfold withOptions patternTexts accessorTexts
  cases d.ignore o with
  | none => simp
  | some settings =>
    simp only [Option.map_some, Option.getD_some, ← IgnoreSettings.exists_compile_iff]
    cases settings.compile <;> simp [Except.map]

/-- Whether the options of a definition are those that are declared, with no patterns in the
defaults. -/
structure Declares (d : Definition) (declared : List Declared) : Prop where
  fields : List.Forall₂ (FieldShape.Declares d.patternTexts d.accessorTexts) d.fields declared
  names_nodup : (declared.map (·.name)).Nodup
  patterns_defaults : d.patternTexts d.defaults = []
  accessors_defaults : d.accessorTexts d.defaults = []

end Definition

namespace Rules

open Json.Shape.FieldShape (declares_of declares_patterns declares_accessors)

def ImmutableData.declared : List Declared :=
  [.texts "ignorePattern", .texts "ignoreAccessorPattern", ⟨"ignoreClass", IsClassMode⟩,
    .flag "ignoreImmediateMutation", ⟨"assumeTypes", fun _ => True⟩]

def NoLet.declared : List Declared :=
  [.flag "allowInForLoopInit", .flag "allowLocalMutation", .texts "ignorePattern"]

def PreferReadonlyType.declared : List Declared :=
  [.flag "allowLocalMutation", .flag "allowMutableReturnType", ⟨"ignoreClass", IsClassMode⟩,
    .flag "ignoreInterface", .flag "ignoreCollections", .texts "ignorePattern"]

def NoMethodSignature.declared : List Declared := [.flag "ignoreIfReadonly"]

def NoMixedType.declared : List Declared := [.flag "checkInterfaces", .flag "checkTypeLiterals"]

def NoExpressionStatement.declared : List Declared :=
  [.texts "ignorePattern", .texts "ignorePrefix", .texts "ignoreSuffix", .flag "ignoreVoid"]

def NoThrowStatement.declared : List Declared := [.flag "allowInAsyncFunctions"]

def NoTryStatement.declared : List Declared := [.flag "allowCatch", .flag "allowFinally"]

def FunctionalParameters.declared : List Declared :=
  [.flag "allowRestParameter", .flag "allowArgumentsKeyword", ⟨"enforceParameterCount", IsCount⟩,
    .texts "ignorePattern"]

theorem immutableData_declares : immutableData.Declares ImmutableData.declared := by
  refine ⟨.cons (declares_patterns ?_ ?_) <| .cons (declares_accessors ?_ ?_) <|
    .cons (declares_of IgnoreClass.exists_ofJson_iff (by decide) ?_ ?_) <|
    .cons (declares_of exists_flag_iff (by decide) ?_ ?_) <|
    .cons (declares_of (by simp) (by decide) ?_ ?_) .nil, by decide, rfl, rfl⟩
  all_goals exact fun _ _ => rfl

theorem noLet_declares : noLet.Declares NoLet.declared := by
  refine ⟨.cons (declares_of exists_flag_iff (by decide) ?_ ?_) <|
    .cons (declares_of exists_flag_iff (by decide) ?_ ?_) <| .cons (declares_patterns ?_ ?_) .nil,
      by decide, rfl, rfl⟩
  all_goals exact fun _ _ => rfl

theorem preferReadonlyType_declares : preferReadonlyType.Declares PreferReadonlyType.declared := by
  refine ⟨.cons (declares_of exists_flag_iff (by decide) ?_ ?_) <|
    .cons (declares_of exists_flag_iff (by decide) ?_ ?_) <|
    .cons (declares_of IgnoreClass.exists_ofJson_iff (by decide) ?_ ?_) <|
    .cons (declares_of exists_flag_iff (by decide) ?_ ?_) <|
    .cons (declares_of exists_flag_iff (by decide) ?_ ?_) <| .cons (declares_patterns ?_ ?_) .nil,
      by decide, rfl, rfl⟩
  all_goals exact fun _ _ => rfl

theorem noMethodSignature_declares : noMethodSignature.Declares NoMethodSignature.declared := by
  refine ⟨.cons (declares_of exists_flag_iff (by decide) ?_ ?_) .nil, by decide, rfl, rfl⟩
  all_goals exact fun _ _ => rfl

theorem noMixedType_declares : noMixedType.Declares NoMixedType.declared := by
  refine ⟨.cons (declares_of exists_flag_iff (by decide) ?_ ?_) <|
    .cons (declares_of exists_flag_iff (by decide) ?_ ?_) .nil, by decide, rfl, rfl⟩
  all_goals exact fun _ _ => rfl

theorem noExpressionStatement_declares :
    noExpressionStatement.Declares NoExpressionStatement.declared := by
  refine ⟨.cons (declares_patterns ?_ ?_) <|
    .cons (declares_of OneOrMany.exists_ofJson_iff (by decide) ?_ ?_) <|
    .cons (declares_of OneOrMany.exists_ofJson_iff (by decide) ?_ ?_) <|
    .cons (declares_of exists_flag_iff (by decide) ?_ ?_) .nil, by decide, rfl, rfl⟩
  all_goals exact fun _ _ => rfl

theorem noThrowStatement_declares : noThrowStatement.Declares NoThrowStatement.declared := by
  refine ⟨.cons (declares_of exists_flag_iff (by decide) ?_ ?_) .nil, by decide, rfl, rfl⟩
  all_goals exact fun _ _ => rfl

theorem noTryStatement_declares : noTryStatement.Declares NoTryStatement.declared := by
  refine ⟨.cons (declares_of exists_flag_iff (by decide) ?_ ?_) <|
    .cons (declares_of exists_flag_iff (by decide) ?_ ?_) .nil, by decide, rfl, rfl⟩
  all_goals exact fun _ _ => rfl

theorem functionalParameters_declares :
    functionalParameters.Declares FunctionalParameters.declared := by
  refine ⟨.cons (declares_of exists_flag_iff (by decide) ?_ ?_) <|
    .cons (declares_of exists_flag_iff (by decide) ?_ ?_) <|
    .cons (declares_of EnforceCount.exists_ofJson_iff (by decide) ?_ ?_) <|
      .cons (declares_patterns ?_ ?_) .nil, by decide, rfl, rfl⟩
  all_goals exact fun _ _ => rfl

end Rules

theorem Definition.declares_nil {d : Definition} (hfields : d.fields = [])
    (hignore : d.ignore = fun _ => none) :
    d.Declares [] where
  fields := by
    rw [hfields]
    exact .nil
  names_nodup := List.nodup_nil
  patterns_defaults := by simp [patternTexts, hignore]
  accessors_defaults := by simp [accessorTexts, hignore]

/-- The options of all rules by name. -/
def optionTable : List (String × List Declared) :=
  [("immutable-data", Rules.ImmutableData.declared),
   ("no-let", Rules.NoLet.declared),
   ("prefer-readonly-type", Rules.PreferReadonlyType.declared),
   ("no-method-signature", Rules.NoMethodSignature.declared),
   ("no-mixed-type", Rules.NoMixedType.declared),
   ("no-expression-statement", Rules.NoExpressionStatement.declared),
   ("no-this-expression", []),
   ("no-class", []),
   ("no-loop-statement", []),
   ("no-throw-statement", Rules.NoThrowStatement.declared),
   ("no-try-statement", Rules.NoTryStatement.declared),
   ("functional-parameters", Rules.FunctionalParameters.declared),
   ("no-promise-reject", [])]

theorem optionTable_declares :
    List.Forall₂ (fun d p => d.name = p.1 ∧ d.Declares p.2) Registry.definitions optionTable :=
  .cons ⟨rfl, Rules.immutableData_declares⟩ <| .cons ⟨rfl, Rules.noLet_declares⟩ <|
  .cons ⟨rfl, Rules.preferReadonlyType_declares⟩ <| .cons ⟨rfl, Rules.noMethodSignature_declares⟩ <|
  .cons ⟨rfl, Rules.noMixedType_declares⟩ <| .cons ⟨rfl, Rules.noExpressionStatement_declares⟩ <|
  .cons ⟨rfl, Definition.declares_nil rfl rfl⟩ <| .cons ⟨rfl, Definition.declares_nil rfl rfl⟩ <|
  .cons ⟨rfl, Definition.declares_nil rfl rfl⟩ <| .cons ⟨rfl, Rules.noThrowStatement_declares⟩ <|
  .cons ⟨rfl, Rules.noTryStatement_declares⟩ <| .cons ⟨rfl, Rules.functionalParameters_declares⟩ <|
  .cons ⟨rfl, Definition.declares_nil rfl rfl⟩ .nil

theorem optionTable_names : optionTable.map Prod.fst = Registry.names := rfl

/-! ## Building a rule from a value -/

namespace Definition.Declares

variable {d : Definition} {declared : List Declared}

theorem exists_readOptions_iff (h : d.Declares declared) {v : Json} :
    (∃ o, d.readOptions (some v) = .ok o) ↔ IsRecord declared v :=
  exists_record_iff (h.fields.imp fun _ _ hf => hf.reads) h.names_nodup d.optionsName d.defaults v

/-- The patterns of options that are read from a value are those that are written in it. -/
theorem texts_of_readOptions (h : d.Declares declared) {v : Json} {o : d.Options}
    (hread : d.readOptions (some v) = .ok o) :
    d.patternTexts o = textsGiven (declared.map (·.name)) "ignorePattern" v ∧
      d.accessorTexts o = textsGiven (declared.map (·.name)) "ignoreAccessorPattern" v := by
  have hnames := names_eq (h.fields.imp fun _ _ hf => hf.reads)
  have hset := ((record_eq_ok_iff (hnames ▸ h.names_nodup)).mp hread).2
  rw [hnames] at hset
  have htracks : ∀ f ∈ d.fields, f.Tracks "ignorePattern" d.patternTexts ∧
      f.Tracks "ignoreAccessorPattern" d.accessorTexts := by
    intro f hf
    obtain ⟨_, _, hdeclares⟩ := exists_of_mem_forall₂ h.fields hf
    exact ⟨hdeclares.tracks_patterns, hdeclares.tracks_accessors⟩
  constructor
  · have hview := view_of_setMembers (fun f hf => (htracks f hf).1) hset
    rwa [h.patterns_defaults] at hview
  · have hview := view_of_setMembers (fun f hf => (htracks f hf).2) hset
    rwa [h.accessors_defaults] at hview

end Definition.Declares

/-- The regular expressions that a value gives as options of these names. -/
def patternsIn (declared : List Declared) (v : Json) : List Text :=
  textsGiven (declared.map (·.name)) "ignorePattern" v

/-- The segments of the accessor patterns that a value gives as options of these names. -/
def segmentsIn (declared : List Declared) (v : Json) : List Text :=
  (textsGiven (declared.map (·.name)) "ignoreAccessorPattern" v).flatMap (Text.splitOn '.')

/-- For every rule the table says what comes of a value as its options. It is refused for its shape
exactly if it is no record of the declared options. A record is refused for a pattern exactly if a
text of `ignorePattern` is no regular expression, or, if all are, a segment of
`ignoreAccessorPattern` is too large a glob, and the error names the first of these. Otherwise the
rule is built, whatever else is in the record. -/
theorem options_decide_building : optionTable.map Prod.fst = Registry.names ∧
    ∀ name declared, (name, declared) ∈ optionTable → ∀ v : Json,
      ((∃ e, Registry.build name.toList (some v) = .error (.invalidOptions name.toList e)) ↔
        ¬ IsRecord declared v) ∧
        (∀ e, Registry.build name.toList (some v) = .error (.invalidPattern name.toList e) ↔
          IsRecord declared v ∧ PatternFault (patternsIn declared v) (segmentsIn declared v) e) ∧
        ((∃ r, Registry.build name.toList (some v) = .ok r) ↔
          IsRecord declared v ∧ (∀ t ∈ patternsIn declared v, IsRegex t) ∧
            ∀ segment ∈ segmentsIn declared v, ¬ Accessor.IsTooLarge segment) := by
  refine ⟨optionTable_names, fun name declared hmem v => ?_⟩
  obtain ⟨d, hd, hname, hdeclares⟩ := exists_of_mem_forall₂ optionTable_declares.flip hmem
  have hdefines : Registry.Defines name.toList d := ⟨hd, by rw [hname]⟩
  rw [← hdeclares.exists_readOptions_iff]
  cases hread : d.readOptions (some v) with
  | error e => simp [Registry.build_of_readOptions_error hdefines hread]
  | ok o =>
    obtain ⟨hpatterns, haccessors⟩ := hdeclares.texts_of_readOptions hread
    -- The options are read, so what is left is about the patterns that are written in them.
    have herror := fun e => d.withOptions_eq_error_iff (o := o) (e := e)
    have hok := d.exists_withOptions_iff (o := o)
    rw [hpatterns, haccessors] at hok
    simp only [hpatterns, haccessors] at herror
    rw [Registry.build_of_defines hdefines hread]
    simp only [patternsIn, segmentsIn, ← herror, ← hok]
    cases d.withOptions o <;> simp [Except.mapError]

/-- Options with a text that is no regular expression behind one that is, and with a glob. -/
def unclosedGroup : Json :=
  .object [("ignoreAccessorPattern".toList, .string "a*".toList),
    ("ignorePattern".toList, .array [.string "b".toList, .string "(".toList])]

theorem options_decide_building_unclosedGroup :
    ("immutable-data", Rules.ImmutableData.declared) ∈ optionTable ∧
      IsRecord Rules.ImmutableData.declared unclosedGroup ∧
      Registry.build "immutable-data".toList (some unclosedGroup) =
        .error (.invalidPattern "immutable-data".toList ⟨"(".toList⟩) := by
  have hmem : ("immutable-data", Rules.ImmutableData.declared) ∈ optionTable := by
    simp [optionTable]
  have hrecord : IsRecord Rules.ImmutableData.declared unclosedGroup := by
    refine .object (List.forall_mem_cons.mpr ⟨?_, List.forall_mem_singleton.mpr ?_⟩)
    · exact ⟨.texts "ignoreAccessorPattern", by
        simp [Rules.ImmutableData.declared], rfl, .inl ⟨_, rfl⟩⟩
    · exact ⟨.texts "ignorePattern", by simp [Rules.ImmutableData.declared], rfl,
        .inr ⟨["b".toList, "(".toList], rfl⟩⟩
  have hpatterns : patternsIn Rules.ImmutableData.declared unclosedGroup =
      ["b".toList] ++ ["(".toList] := by
    decide
  have hgood : IsRegex "b".toList := by
    unfold IsRegex
    decide +kernel
  have hbad : ¬ IsRegex "(".toList := by
    unfold IsRegex
    decide +kernel
  refine ⟨hmem, hrecord,
    ((options_decide_building.2 _ _ hmem unclosedGroup).2.1 _).mpr ⟨hrecord, ?_⟩⟩
  exact .regex hpatterns (List.forall_mem_singleton.mpr hgood) hbad

/-- More stars than there is room for. -/
def manyStars : Text := List.replicate 60000 '*'

theorem isTooLarge_manyStars : Accessor.IsTooLarge manyStars := by
  -- The text is not evaluated: its length tells it from the wildcards, and its stars are a bound on
  -- the size.
  have hlength : manyStars.length = 60000 := List.length_replicate
  have hcount : manyStars.count '*' = 60000 := List.count_replicate_self
  refine ⟨⟨List.mem_replicate.mpr ⟨by decide, rfl⟩, ?_, ?_⟩, Glob.not_fits_of_count ?_⟩
  · intro h
    rw [h] at hlength
    cases hlength
  · intro h
    rw [h] at hlength
    cases hlength
  · rw [hcount]
    decide

/-- Options with one accessor pattern. -/
def accessorOptions (glob : Text) : Json := .object [("ignoreAccessorPattern".toList, .string glob)]

theorem build_of_isTooLarge {glob : Text} (h : Accessor.IsTooLarge glob) (hpoint : '.' ∉ glob) :
    Registry.build "immutable-data".toList (some (accessorOptions glob)) =
      .error (.invalidPattern "immutable-data".toList ⟨Glob.toPattern glob⟩) := by
  have hdefines : Registry.Defines "immutable-data".toList Rules.immutableData :=
    ⟨by simp [Registry.definitions], rfl⟩
  have hread : Rules.immutableData.readOptions (some (accessorOptions glob)) =
      .ok { ignoreAccessorPattern := .one glob } := rfl
  have hpiece : Text.splitOn '.' glob = [glob] :=
    @Text.splitOn_join '.' [glob] (List.cons_ne_nil _ _) (List.forall_mem_singleton.mpr hpoint)
  have hsegments : [glob].flatMap (Text.splitOn '.') = [] ++ [glob] := by
    rw [List.flatMap_singleton, hpiece]
    rfl
  have hpatterns : Rules.immutableData.patternTexts { ignoreAccessorPattern := .one glob } = [] :=
    rfl
  have hfault : Rules.immutableData.withOptions { ignoreAccessorPattern := .one glob } =
      .error ⟨Glob.toPattern glob⟩ :=
    Definition.withOptions_eq_error_iff.mpr (.glob (by simp [hpatterns]) hsegments (by simp) h)
  rw [Registry.build_of_defines hdefines hread, hfault]
  rfl

/-- An accessor pattern is refused for its size, though there is no regular expression in the
options. -/
theorem accessor_pattern_refused :
    ("immutable-data", Rules.ImmutableData.declared) ∈ optionTable ∧
      IsRecord Rules.ImmutableData.declared (accessorOptions manyStars) ∧
      patternsIn Rules.ImmutableData.declared (accessorOptions manyStars) = [] ∧
      Registry.build "immutable-data".toList (some (accessorOptions manyStars)) =
        .error (.invalidPattern "immutable-data".toList ⟨Glob.toPattern manyStars⟩) := by
  refine ⟨by simp [optionTable], ?_, rfl, build_of_isTooLarge isTooLarge_manyStars ?_⟩
  · refine .object (List.forall_mem_singleton.mpr ?_)
    exact ⟨.texts "ignoreAccessorPattern", by
      simp [Rules.ImmutableData.declared], rfl, .inl ⟨_, rfl⟩⟩
  · intro hpoint
    cases (List.mem_replicate.mp hpoint).2

end PureLint
