import PureLint.Proofs.FixSelection
import PureLint.Proofs.RuleIndependence

/-!
# Where reports and replacements stand

If the spans of a tree lie at boundaries of the source and the parts of a node lie in it, then every
report stands at boundaries, and what it mends or offers to change lies within it
(`Diagnostic.IsSound`). The rules compute other offsets than those of spans by searching the source
between two spans; what is found between two boundaries lies at a boundary again. So all
replacements can be made.
-/

namespace PureLint

/-! ## Placed spans -/

namespace Span

/-- A span whose ends are boundaries of the source in order. -/
structure IsPlaced (source : Text) (s : Span) : Prop where
  ordered : s.start ≤ s.stop
  start_boundary : source.IsBoundary s.start
  stop_boundary : source.IsBoundary s.stop

instance (source : Text) (s : Span) : Decidable (s.IsPlaced source) :=
  decidable_of_iff (s.start ≤ s.stop ∧ source.IsBoundary s.start ∧ source.IsBoundary s.stop)
    ⟨fun h => ⟨h.1, h.2.1, h.2.2⟩, fun h => ⟨h.1, h.2, h.3⟩⟩

/-- Whether a span lies within another. -/
def LiesIn (inner outer : Span) : Prop := outer.start ≤ inner.start ∧ inner.stop ≤ outer.stop

instance (inner outer : Span) : Decidable (inner.LiesIn outer) :=
  inferInstanceAs (Decidable (_ ∧ _))

theorem IsPlaced.point {source : Text} {n : Nat} (h : source.IsBoundary n) :
    IsPlaced source ⟨n, n⟩ :=
  ⟨Nat.le_refl _, h, h⟩

theorem IsPlaced.append_textIn {source : Text} {s : Span} (h : s.IsPlaced source) :
    ∃ a b, source = a ++ s.textIn source ++ b ∧ a.byteLength = s.start ∧
      (a ++ s.textIn source).byteLength = s.stop :=
  h.start_boundary.append_slice h.stop_boundary h.ordered

/-- What divides the text of a placed span lies within the span, and at boundaries of the source. -/
theorem IsPlaced.part {source : Text} {s : Span} (h : s.IsPlaced source) {a b c : Text}
    (htext : s.textIn source = a ++ b ++ c) :
    let inner : Span := ⟨s.start + a.byteLength, s.start + a.byteLength + b.byteLength⟩
    inner.IsPlaced source ∧ inner.LiesIn s ∧ source.slice? inner.start inner.stop = some b := by
  obtain ⟨front, back, hsource, hstart, hstop⟩ := h.append_textIn
  rw [htext] at hsource hstop
  -- A cut of the text is a cut of the source, moved by what stands before the span.
  have hstart' : s.start + a.byteLength = (front ++ a).byteLength := by
    rw [Text.byteLength_append, hstart]
  have hstop' : s.start + a.byteLength + b.byteLength = (front ++ a ++ b).byteLength := by
    rw [hstart', Text.byteLength_append (front ++ a)]
  have hparts : source = front ++ a ++ b ++ (c ++ back) := by
    rw [hsource]
    simp
  simp only [Text.byteLength_append] at hstop
  refine ⟨⟨Nat.le_add_right _ _, ?_, ?_⟩, ⟨Nat.le_add_right _ _, ?_⟩, ?_⟩
  · exact ⟨front ++ a, b ++ (c ++ back), by rw [hparts]; simp, hstart'.symm⟩
  · exact ⟨front ++ a ++ b, c ++ back, hparts, hstop'.symm⟩
  · show s.start + a.byteLength + b.byteLength ≤ s.stop
    omega
  · show source.slice? (s.start + a.byteLength) (s.start + a.byteLength + b.byteLength) = some b
    rw [hstop', hstart', hparts]
    exact Text.slice?_append (front ++ a) b (c ++ back)

end Span

/-! ## Trees with placed spans -/

/-- Whether a part may stand outside the node that it belongs to. Decorators stand before the class
they decorate, and the type of a parameter that takes the rest stands behind it. -/
def Label.mayStandOutside (part whole : Label) : Bool :=
  part.isDecorator || whole.isFormalParameterRest

namespace Tree

mutual

/-- Whether all spans of a tree are placed, and every part lies in the node that it belongs to. -/
def isNested (source : Text) : Tree → Bool
  | node label span children =>
    decide (span.IsPlaced source) && areNested source label span children

/-- Whether trees are nested, and lie in the node that they are the parts of. -/
def areNested (source : Text) (label : Label) (span : Span) : List Tree → Bool
  | [] => true
  | t :: ts =>
    (t.label.mayStandOutside label || decide (t.span.LiesIn span)) && isNested source t &&
      areNested source label span ts

end

variable {source : Text} {t part : Tree}

theorem areNested_iff {label : Label} {span : Span} {ts : List Tree} :
    areNested source label span ts = true ↔
    ∀ t ∈ ts,
      (t.label.mayStandOutside label = true ∨ t.span.LiesIn span) ∧ t.isNested source = true := by
  induction ts with
  | nil => simp [areNested]
  | cons t ts ih => simp [areNested, ih]

theorem isNested_iff : t.isNested source = true ↔ t.span.IsPlaced source ∧
    ∀ part ∈ t.children, (part.label.mayStandOutside t.label = true ∨ part.span.LiesIn t.span) ∧
      part.isNested source = true := by
  obtain ⟨label, span, children⟩ := t
  rw [isNested, Bool.and_eq_true, areNested_iff, decide_eq_true_eq]
  rfl

theorem isPlaced_of_isNested (h : t.isNested source = true) : t.span.IsPlaced source :=
  (isNested_iff.mp h).1

theorem isNested_part (h : t.isNested source = true) (hpart : part ∈ t.children) :
    part.isNested source = true :=
  ((isNested_iff.mp h).2 part hpart).2

theorem liesIn_part (h : t.isNested source = true) (hpart : part ∈ t.children)
    (hinside : part.label.mayStandOutside t.label = false) : part.span.LiesIn t.span := by
  rcases ((isNested_iff.mp h).2 part hpart).1 with houtside | hlies
  · rw [hinside] at houtside
    cases houtside
  · exact hlies

mutual

theorem isNested_of_mem_sitesFrom {above : List Node} {id : Nat} :
    ∀ {t : Tree} {s : Site}, t.isNested source = true →
    s ∈ sitesFrom above id t → s.tree.isNested source = true
  | .node label span children, s, hnested, hs => by
    rw [sitesFrom] at hs
    rcases List.mem_cons.mp hs with rfl | hs
    · exact hnested
    · exact isNested_of_mem_sitesOfAll (fun part hpart => isNested_part hnested hpart) hs

theorem isNested_of_mem_sitesOfAll {above : List Node} {id : Nat} : ∀ {ts : List Tree} {s : Site},
    (∀ t ∈ ts, t.isNested source = true) → s ∈ sitesOfAll above id ts →
      s.tree.isNested source = true
  | [], s, _, hs => by simp [sitesOfAll] at hs
  | t :: ts, s, hnested, hs => by
    rw [sitesOfAll] at hs
    rcases List.mem_append.mp hs with hs | hs
    · exact isNested_of_mem_sitesFrom (hnested t List.mem_cons_self) hs
    · exact isNested_of_mem_sitesOfAll (fun u hu => hnested u (List.mem_cons_of_mem t hu)) hs

end

theorem isNested_of_mem_sites {s : Site} (h : t.isNested source = true) (hs : s ∈ t.sites) :
    s.tree.isNested source = true :=
  isNested_of_mem_sitesFrom h hs

end Tree

/-! ## Sound reports -/

/-- The span that a replacement replaces. -/
def Fix.span (f : Fix) : Span := ⟨f.start, f.stop⟩

/-- Whether a replacement is made within a span, at boundaries of the source. -/
structure Fix.IsMadeIn (source : Text) (span : Span) (f : Fix) : Prop where
  placed : f.span.IsPlaced source
  within : f.span.LiesIn span

theorem Fix.IsMadeIn.wellPlaced {source : Text} {span : Span} {f : Fix}
    (h : f.IsMadeIn source span) : Fixer.WellPlaced source f :=
  ⟨h.placed.ordered, fun _ => h.placed.start_boundary, fun _ => h.placed.stop_boundary⟩

/-- A report at boundaries of the source that mends at most one place, which lies in the report, and
offers to change only the word `let`. -/
structure Diagnostic.IsSound (source : Text) (d : Diagnostic) : Prop where
  span_placed : d.span.IsPlaced source
  one_fix : d.fixes.length ≤ 1
  fix_within : ∀ f ∈ d.fixes, f.IsMadeIn source d.span
  offer_within : ∀ g ∈ d.suggestions, ∀ f ∈ g.fixes, f.IsMadeIn source d.span
  offer_text : ∀ g ∈ d.suggestions, ∀ f ∈ g.fixes, source.slice? f.start f.stop = some "let".toList

namespace Diagnostic.IsSound

variable {source : Text} {d : Diagnostic}

theorem of_span (hspan : d.span.IsPlaced source) (hfixes : d.fixes = [])
    (hoffers : d.suggestions = []) :
    d.IsSound source where
  span_placed := hspan
  one_fix := by simp [hfixes]
  fix_within := by simp [hfixes]
  offer_within := by simp [hoffers]
  offer_text := by simp [hoffers]

theorem plain {rule id message : String} {span : Span} (hspan : span.IsPlaced source) :
    (Diagnostic.plain rule id span message).IsSound source :=
  of_span hspan rfl rfl

theorem of_fix {f : Fix} (hspan : d.span.IsPlaced source) (hfixes : d.fixes = [f])
    (hoffers : d.suggestions = []) (hf : f.IsMadeIn source d.span) : d.IsSound source where
  span_placed := hspan
  one_fix := by simp [hfixes]
  fix_within := by simpa [hfixes] using hf
  offer_within := by simp [hoffers]
  offer_text := by simp [hoffers]

end Diagnostic.IsSound

namespace CheckResult

/-- Whether all reports of a site are sound. -/
def IsSound (source : Text) (r : CheckResult) : Prop := ∀ d ∈ r.diagnostics, d.IsSound source

variable {source : Text}

theorem IsSound.none : CheckResult.none.IsSound source := by simp [IsSound, CheckResult.none]

theorem IsSound.report {d : Diagnostic} (h : d.IsSound source) :
    (CheckResult.report d).IsSound source := by
  simpa [IsSound, CheckResult.report] using h

theorem IsSound.ofOption {d : Option Diagnostic} (h : ∀ x, d = some x → x.IsSound source) :
    (CheckResult.ofOption d).IsSound source := by
  simpa [IsSound, CheckResult.ofOption] using h

theorem IsSound.ite {c : Prop} [Decidable c] {r r' : CheckResult} (h : r.IsSound source)
    (h' : r'.IsSound source) : (if c then r else r').IsSound source := by
  split
  · exact h
  · exact h'

end CheckResult

/-! ## The rules -/

namespace Rules

open CheckResult

variable {source : Text} {s : Site}

theorem ImmutableData.check_isSound (o : ImmutableData.Options) (h : s.span.IsPlaced source) :
    (ImmutableData.check o source s).IsSound source := by
  refine .ofOption fun d hd => ?_
  obtain ⟨m, _, rfl⟩ := Option.map_eq_some_iff.mp hd
  cases m <;> exact .plain h

theorem NoLet.suggestion?_within (h : s.span.IsPlaced source) {g : Suggestion}
    (hg : NoLet.suggestion? source s = some g) : ∀ f ∈ g.fixes,
      f.IsMadeIn source s.span ∧ source.slice? f.start f.stop = some "let".toList := by
  obtain ⟨offset, hfound, rfl⟩ := Option.map_eq_some_iff.mp hg
  obtain ⟨a, b, htext, rfl⟩ := Text.append_of_findByte? hfound
  obtain ⟨hplaced, hwithin, hslice⟩ := h.part htext
  intro f hf
  obtain rfl := List.mem_singleton.mp hf
  exact ⟨⟨hplaced, hwithin⟩, hslice⟩

theorem NoLet.check_isSound (o : NoLet.Options) (h : s.span.IsPlaced source) :
    (NoLet.check o source s).IsSound source := by
  have hoffers : ∀ g ∈ (if canBeConst s then (suggestion? source s).toList else []), ∀ f ∈ g.fixes,
      f.IsMadeIn source s.span ∧ source.slice? f.start f.stop = some "let".toList := by
    intro g hg
    split at hg
    · exact suggestion?_within h (Option.mem_toList.mp hg)
    · cases hg
  unfold NoLet.check
  split
  · refine .ite .none (.report ⟨h, Nat.zero_le _, nofun, ?_, ?_⟩)
    · exact fun g hg f hf => (hoffers g hg f hf).1
    · exact fun g hg f hf => (hoffers g hg f hf).2
  · exact .none

theorem PreferReadonlyType.insertReadonly_isMadeIn {span : Span} {pos : Nat}
    (hpos : source.IsBoundary pos) (hstart : span.start ≤ pos) (hstop : pos ≤ span.stop) :
    (PreferReadonlyType.insertReadonly pos).IsMadeIn source span :=
  ⟨.point hpos, hstart, hstop⟩

theorem PreferReadonlyType.insertReadonly_start {span : Span} (h : span.IsPlaced source) :
    (PreferReadonlyType.insertReadonly span.start).IsMadeIn source span :=
  insertReadonly_isMadeIn h.start_boundary (Nat.le_refl _) h.ordered

theorem PreferReadonlyType.checkType_isSound {o : PreferReadonlyType.Options}
    (h : s.tree.isNested source = true)
    {d : Diagnostic} (hd : PreferReadonlyType.checkType o s = some d) : d.IsSound source := by
  have hspan := Tree.isPlaced_of_isNested h
  unfold PreferReadonlyType.checkType at hd
  split at hd
  · cases hd
  · split at hd
    · rename_i span _ htree
      rw [htree] at hspan
      split at hd <;> cases hd
      exact .of_fix hspan rfl rfl (insertReadonly_start hspan)
    · rename_i span _ htree
      rw [htree] at hspan
      split at hd <;> cases hd
      exact .of_fix hspan rfl rfl (insertReadonly_start hspan)
    · -- The name of a collection is the first part of a reference to it.
      rename_i span name nameSpan children parts htree
      rw [htree] at hspan h
      obtain ⟨form, _, rfl⟩ := Option.map_eq_some_iff.mp hd
      have hplaced := Tree.isPlaced_of_isNested (Tree.isNested_part h List.mem_cons_self)
      have hwithin := Tree.liesIn_part h List.mem_cons_self rfl
      exact .of_fix hspan rfl rfl ⟨hplaced, hwithin⟩
    · cases hd

theorem PreferReadonlyType.firstPart?_within {t part : Tree} (h : t.isNested source = true)
    (hrest : t.label.isFormalParameterRest = false) (hpart : t.firstPart? = some part) :
    part.span.IsPlaced source ∧ part.span.LiesIn t.span := by
  have hmem : part ∈ t.children := List.mem_of_find?_eq_some hpart
  have hdecorator : part.label.isDecorator = false := by
    simpa using List.find?_some hpart
  exact ⟨Tree.isPlaced_of_isNested (Tree.isNested_part h hmem),
    Tree.liesIn_part h hmem (by rw [Label.mayStandOutside, hdecorator, hrest]; rfl)⟩

theorem PreferReadonlyType.fieldInsertion_within {span key : Span} (computed : Bool)
    (hspan : span.IsPlaced source) (hkey : key.IsPlaced source) (hwithin : key.LiesIn span) :
    (PreferReadonlyType.insertReadonly (fieldInsertion source computed span key.start)).IsMadeIn
      source span := by
  have hend : key.start ≤ span.stop := Nat.le_trans hkey.ordered hwithin.2
  have hatKey : (PreferReadonlyType.insertReadonly key.start).IsMadeIn source span :=
    insertReadonly_isMadeIn hkey.start_boundary hwithin.1 hend
  unfold fieldInsertion
  split
  · split
    · rename_i offset hfound
      obtain ⟨a, b, htext, rfl⟩ := Text.append_of_rfindByte? hfound
      have hbefore : Span.IsPlaced source ⟨span.start, key.start⟩ :=
        ⟨hwithin.1, hspan.start_boundary, hkey.start_boundary⟩
      -- The place of the bracket is an empty part of the text before the key.
      obtain ⟨hplaced, hlies, _⟩ :=
        hbefore.part (a := a) (b := []) (c := '[' :: b) (by rw [htext]; simp)
      exact insertReadonly_isMadeIn hplaced.start_boundary (Nat.le_add_right _ _)
        (Nat.le_trans hlies.2 hend)
    · exact hatKey
  · exact hatKey

theorem PreferReadonlyType.checkProperty_isSound {o : PreferReadonlyType.Options}
    (h : s.tree.isNested source = true)
    {d : Diagnostic} (hd : PreferReadonlyType.checkProperty o source s = some d) :
    d.IsSound source := by
  have hspan : s.span.IsPlaced source := Tree.isPlaced_of_isNested h
  unfold PreferReadonlyType.checkProperty at hd
  split at hd
  · -- A static index signature is reported, but not mended.
    rename_i isReadonly isStatic _
    split at hd <;> cases hd
    cases isStatic with
    | true => exact .of_span hspan rfl rfl
    | false => exact .of_fix hspan rfl rfl (insertReadonly_start hspan)
  · split at hd <;> cases hd
    exact .of_fix hspan rfl rfl (insertReadonly_start hspan)
  · -- `readonly` goes behind the other modifiers of a field, so the place depends on its key.
    rename_i computed isReadonly hlabel
    split at hd
    · cases hd
    · obtain ⟨key, hkey, rfl⟩ := Option.map_eq_some_iff.mp hd
      obtain ⟨hplaced, hwithin⟩ :=
        firstPart?_within h (congrArg Label.isFormalParameterRest hlabel) hkey
      exact .of_fix hspan rfl rfl (fieldInsertion_within computed hspan hplaced hwithin)
  · -- A parameter that is a property as well: `readonly` goes before its pattern.
    rename_i accessible isReadonly hlabel
    split at hd
    · cases hd
    · obtain ⟨pattern, hpattern, rfl⟩ := Option.map_eq_some_iff.mp hd
      obtain ⟨hplaced, hwithin⟩ :=
        firstPart?_within h (congrArg Label.isFormalParameterRest hlabel) hpattern
      exact .of_fix hspan rfl rfl
        (insertReadonly_isMadeIn hplaced.start_boundary hwithin.1
          (Nat.le_trans hplaced.ordered hwithin.2))
  · cases hd

theorem PreferReadonlyType.check_isSound (o : PreferReadonlyType.Options)
    (h : s.tree.isNested source = true) : (PreferReadonlyType.check o source s).IsSound source := by
  unfold PreferReadonlyType.check
  split
  all_goals refine .ofOption fun d hd => ?_
  · exact checkType_isSound h hd
  · exact checkType_isSound h hd
  · exact checkType_isSound h hd
  · exact checkProperty_isSound h hd

theorem NoMethodSignature.check_isSound (o : NoMethodSignature.Options)
    (h : s.span.IsPlaced source) : (NoMethodSignature.check o source s).IsSound source :=
  .ite .none (.report (.of_span h rfl rfl))

theorem NoMixedType.check_isSound (o : NoMixedType.Options) (h : s.span.IsPlaced source) :
    (NoMixedType.check o source s).IsSound source :=
  .ite (.report (.plain h)) .none

theorem NoExpressionStatement.check_isSound (o : NoExpressionStatement.Options)
    (h : s.span.IsPlaced source) : (NoExpressionStatement.check o source s).IsSound source :=
  .ite .none (.report (.plain h))

theorem NoThisExpression.check_isSound (h : s.span.IsPlaced source) :
    (NoThisExpression.check s).IsSound source :=
  .ite (.report (.plain h)) .none

theorem NoClass.check_isSound (h : s.span.IsPlaced source) : (NoClass.check s).IsSound source :=
  .ite (.report (.plain h)) .none

theorem NoLoopStatement.check_isSound (h : s.span.IsPlaced source) :
    (NoLoopStatement.check s).IsSound source :=
  .report (.plain h)

theorem NoThrowStatement.check_isSound (o : NoThrowStatement.Options) (h : s.span.IsPlaced source) :
    (NoThrowStatement.check o source s).IsSound source :=
  .ite .none (.report (.plain h))

theorem NoTryStatement.check_isSound (o : NoTryStatement.Options) (h : s.span.IsPlaced source) :
    (NoTryStatement.check o source s).IsSound source :=
  .ite .none (.ite (.report (.plain h)) (.ite (.report (.plain h)) .none))

/-- A parameter that takes the rest is reported at its own span, which need not be that of the
function. -/
theorem FunctionalParameters.restReports_isSound (o : FunctionalParameters.Options) {ps : List Tree}
    (h : ∀ p ∈ ps, p.span.IsPlaced source) : ∀ d ∈ restReports o ps, d.IsSound source := by
  intro d hd
  unfold restReports at hd
  split at hd
  · cases hd
  · split at hd
    · rename_i p hp
      obtain rfl := List.mem_singleton.mp hd
      exact .plain (h p (List.mem_of_find?_eq_some hp))
    · cases hd

theorem FunctionalParameters.countReports_isSound {span : Span} (h : span.IsPlaced source) (n : Nat)
    (count : ParameterCount) : ∀ d ∈ countReports span n count, d.IsSound source := by
  intro d hd
  cases count with
  | atLeastOne =>
    rw [countReports] at hd
    split at hd
    · obtain rfl := List.mem_singleton.mp hd
      exact .plain h
    · cases hd
  | exactlyOne =>
    rw [countReports] at hd
    split at hd
    · cases hd
    · obtain rfl := List.mem_singleton.mp hd
      exact .plain h

theorem FunctionalParameters.parameters_isPlaced (h : s.tree.isNested source = true) :
    ∀ p ∈ parameters s.tree, p.span.IsPlaced source := by
  intro p hp
  unfold parameters at hp
  split at hp
  · rename_i ps hps
    have hlist := Tree.isNested_part h (List.mem_of_find?_eq_some hps)
    exact Tree.isPlaced_of_isNested (Tree.isNested_part hlist hp)
  · cases hp

theorem FunctionalParameters.parameterReports_isSound (o : FunctionalParameters.Options)
    (h : s.tree.isNested source = true) : ∀ d ∈ parameterReports o s, d.IsSound source := by
  intro d hd
  rcases List.mem_append.mp hd with hd | hd
  · exact restReports_isSound o (parameters_isPlaced h) d hd
  · split at hd
    · cases hd
    · split at hd
      · cases hd
      · exact countReports_isSound (Tree.isPlaced_of_isNested h) _ _ d hd

theorem FunctionalParameters.check_isSound (o : FunctionalParameters.Options)
    (h : s.tree.isNested source = true) :
    (FunctionalParameters.check o source s).IsSound source := by
  have hparameters := parameterReports_isSound o h
  unfold FunctionalParameters.check
  split
  · exact .ite hparameters .none
  · exact hparameters
  · exact .report (.plain (Tree.isPlaced_of_isNested h))
  · exact .none

theorem NoPromiseReject.check_isSound (h : s.span.IsPlaced source) :
    (NoPromiseReject.check s).IsSound source :=
  .ite (.report (.plain h)) .none

end Rules

/-- All that a rule of the registry reports about a node of a nested tree is sound. -/
theorem Registry.isSound_of_mem {d : Definition} (hd : d ∈ definitions) (o : d.Options)
    {source : Text} {s : Site}
    (h : s.tree.isNested source = true) : (d.check o source s).IsSound source := by
  have hspan : s.span.IsPlaced source := Tree.isPlaced_of_isNested h
  obtain rfl | rfl | rfl | rfl | rfl | rfl | rfl | rfl | rfl | rfl | rfl | rfl | rfl :=
    mem_definitions_iff.mp hd
  · exact Rules.ImmutableData.check_isSound o hspan
  · exact Rules.NoLet.check_isSound o hspan
  · exact Rules.PreferReadonlyType.check_isSound o h
  · exact Rules.NoMethodSignature.check_isSound o hspan
  · exact Rules.NoMixedType.check_isSound o hspan
  · exact Rules.NoExpressionStatement.check_isSound o hspan
  · exact Rules.NoThisExpression.check_isSound hspan
  · exact Rules.NoClass.check_isSound hspan
  · exact Rules.NoLoopStatement.check_isSound hspan
  · exact Rules.NoThrowStatement.check_isSound o hspan
  · exact Rules.NoTryStatement.check_isSound o hspan
  · exact Rules.FunctionalParameters.check_isSound o h
  · exact Rules.NoPromiseReject.check_isSound hspan

/-! ## Runs -/

theorem Diagnostic.IsSound.withSeverity {source : Text} {d : Diagnostic} (h : d.IsSound source)
    (severity : Severity) : (d.withSeverity severity).IsSound source :=
  ⟨h.span_placed, h.one_fix, h.fix_within, h.offer_within, h.offer_text⟩

theorem Runner.isSound_of_mem_run {source : Text} {tree : Tree} {rules : RuleSet}
    (hrules : ∀ c ∈ rules, c.rule.IsRegistered) (htree : tree.isNested source = true) :
    ∀ d ∈ run source tree rules, d.IsSound source := by
  intro d hd
  -- A report of the run is one of a rule at a site, at the severity that the rule is configured
  -- with.
  obtain ⟨p, hp, s, hs, x, hx, rfl⟩ := exists_check_of_mem_runSites hd
  obtain ⟨c, hc, rfl⟩ := List.mem_map.mp hp
  obtain ⟨definition, hdefinition, o, ho⟩ := hrules c hc
  obtain ⟨i, _, hrule⟩ := Definition.withOptions_eq_ok_iff.mp ho
  rw [hrule] at hx
  have hsite := Tree.isNested_of_mem_sites htree hs
  exact (Registry.isSound_of_mem hdefinition o hsite x hx).withSeverity c.severity

open Runner

/-- Over a tree whose spans are placed and nested, every report of rules of the registry is placed
and ends within the source, mends at most one place, and mends or offers to change only what lies
within it, an offer being about the word `let`; so every offer can be carried out, and so can the
mending of all reports. -/
theorem reports_can_be_mended {source : Text} {tree : Tree} {rules : RuleSet}
    (hrules : ∀ c ∈ rules, c.rule.IsRegistered) (htree : tree.isNested source = true) :
    (∀ d ∈ run source tree rules, d.IsSound source ∧ d.span.stop ≤ source.byteLength ∧
        ∀ g ∈ d.suggestions, (Fixer.applySuggestion source g).isSome = true) ∧
      (Fixer.applyFixes source (run source tree rules)).isSome = true := by
  have hsound := isSound_of_mem_run hrules htree
  constructor
  · intro d hd
    refine ⟨hsound d hd, (hsound d hd).span_placed.stop_boundary.le_byteLength, fun g hg => ?_⟩
    obtain ⟨out, hout, _⟩ :=
      Fixer.splice_eq_replaceEach fun f hf => ((hsound d hd).offer_within g hg f hf).wellPlaced
    rw [Fixer.applySuggestion, hout]
    rfl
  · obtain ⟨r, hr, _⟩ :=
      Fixer.applyFixes_of_wellPlaced fun d hd f hf => ((hsound d hd).fix_within f hf).wellPlaced
    rw [hr]
    rfl

/-- A string with a character of two bytes, a decorated class with a computed field, and a parameter
that takes the rest. -/
def decoratedClass : Text := "let s='é';@d class C{@d [ s]=1}function g(...h:i[]){}".toList

theorem reports_can_be_mended_decoratedClass :
    ∃ file, SourceFile.parse? decoratedClass (some "p.ts".toList) = some file ∧
      file.tree.isNested decoratedClass = true ∧
      (∃ d ∈ run decoratedClass file.tree Registry.defaultRules, d.suggestions ≠ []) ∧
      (∃ d ∈ run decoratedClass file.tree Registry.defaultRules,
        d.fixes = [Fix.insert 25 "readonly ".toList]) ∧
      (∀ d ∈ run decoratedClass file.tree Registry.defaultRules, d.IsSound decoratedClass) ∧
      (Fixer.applyFixes decoratedClass
        (run decoratedClass file.tree Registry.defaultRules)).isSome = true := by
  have hread : ((SourceFile.parse? decoratedClass (some "p.ts".toList)).any fun file =>
      file.tree.isNested decoratedClass &&
        ((run decoratedClass file.tree Registry.defaultRules).any (fun d =>
          decide (d.suggestions ≠ [])) &&
          (run decoratedClass file.tree Registry.defaultRules).any fun d =>
            decide (d.fixes = [Fix.insert 25 "readonly ".toList]))) = true := by
    decide +kernel
  simp only [Option.any_eq_true, Bool.and_eq_true, List.any_eq_true, decide_eq_true_eq] at hread
  obtain ⟨file, hfile, hnested, hoffer, hfix⟩ := hread
  obtain ⟨hreports, hfixes⟩ :=
    reports_can_be_mended (fun _ => Registry.isRegistered_of_mem_defaultRules) hnested
  exact ⟨file, hfile, hnested, hoffer, hfix, fun d hd => (hreports d hd).1, hfixes⟩

end PureLint
