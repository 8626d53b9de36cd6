import PureLint.Lint

/-!
# Members behind type-only syntax

Parentheses, assertions, instantiations and non-null marks say nothing about what a program does.
`Tree.withoutTypeSyntax` is an assignment, an update, a deletion or a call without them, and this
module compares what `immutableData` reports about the two forms. Calls and deletions strip an
expression before they ask for a member, so there the two agree. They do not where the member is
looked for without stripping: in the target of an assignment or of an update, and inside an optional
chain. `Tree.ConcealsMember` describes these places; there nothing is reported, and everywhere else
the reports are the same (`reportedIds_withoutTypeSyntax_iff`).
-/

namespace PureLint

/-- Whether a label is that of syntax around an expression that `Tree.inner` looks through. -/
def Label.isWrapping : Label → Bool
  | .parenthesizedExpression | .asExpression | .satisfiesExpression | .instantiationExpression
  | .nonNullExpression | .typeAssertion => true
  | _ => false

namespace Tree

/-! ## Nodes without type-only syntax -/

/-- The expression without parentheses, assertions, instantiations and non-null marks around it,
also where these stand inside an optional chain. -/
def bare : Tree → Tree
  | .node .parenthesizedExpression _ [e] => bare e
  | .node .nonNullExpression _ [e] => bare e
  | .node .asExpression _ (e :: _) => bare e
  | .node .satisfiesExpression _ (e :: _) => bare e
  | .node .typeAssertion _ [_, e] => bare e
  | .node .instantiationExpression _ (e :: _) => bare e
  | .node .chainExpression s [e] => .node .chainExpression s [bare e]
  | e => e

/-- A member with its object bare. -/
def bareObject : Tree → Tree
  | .node l s (object :: rest) => .node l s (bare object :: rest)
  | e => e

/-- What is called, bare, with the object bare if it is a member. -/
def bareCallee (callee : Tree) : Tree :=
  match bare callee with
  | .node .chainExpression s [m] =>
    .node .chainExpression s [if m.label.isMember then bareObject m else m]
  | m => if m.label.isMember then bareObject m else m

/-- An argument, bare. -/
def bareArgument (a : Tree) : Tree := if (bare a).label.isTypeArguments then a else bare a

/-- What follows the callee of a call, with the first argument bare. Type arguments come before the
arguments. -/
def bareFirst : List Tree → List Tree
  | [] => []
  | a :: rest => if a.label.isTypeArguments then a :: bareFirst rest else bareArgument a :: rest

/-- An assignment, an update, a deletion or a call without type-only syntax around its target, its
operand, its callee, the object of the callee and its first argument. -/
def withoutTypeSyntax : Tree → Tree
  | .node (.assignmentExpression plain) s (target :: rest) =>
    .node (.assignmentExpression plain) s (bare target :: rest)
  | .node .updateExpression s (target :: rest) => .node .updateExpression s (bare target :: rest)
  | .node (.unaryExpression .delete) s (operand :: rest) =>
    .node (.unaryExpression .delete) s (bare operand :: rest)
  | .node .callExpression s (callee :: rest) =>
    .node .callExpression s (bareCallee callee :: bareFirst rest)
  | t => t

/-- Whether a member stands inside parentheses, assertions, instantiations or non-null marks. -/
def WrapsMember (e : Tree) : Prop := e.label.isMember = false ∧ (inner e).label.isMember = true

/-- Whether that is so in the optional chain that an expression is. -/
def ChainWrapsMember (e : Tree) : Prop :=
  ∃ s x, inner e = .node .chainExpression s [x] ∧ WrapsMember x

/-- Whether type-only syntax keeps a member from being seen: around a target, or inside an optional
chain that is deleted, called or given as the object to be changed. -/
def ConcealsMember : Tree → Prop
  | .node (.assignmentExpression _) _ (target :: _) => WrapsMember target
  | .node .updateExpression _ (target :: _) => WrapsMember target
  | .node (.unaryExpression .delete) _ (operand :: _) => ChainWrapsMember operand
  | .node .callExpression s (callee :: rest) =>
    ChainWrapsMember callee ∨
      (arrayMutator? (.node .callExpression s (callee :: rest)) = none ∧
        ∃ first ∈ (callArguments (.node .callExpression s (callee :: rest))).head?,
          ChainWrapsMember first)
  | _ => False

/-! ## Stripped expressions -/

theorem bare_inner (e : Tree) : bare (inner e) = bare e := by
  fun_induction inner e with
  | case1 _ e ih => rw [bare, ih]
  | case2 _ e _ ih => rw [bare, ih]
  | case3 _ e _ ih => rw [bare, ih]
  | case4 _ e _ ih => rw [bare, ih]
  | case5 _ e ih => rw [bare, ih]
  | case6 _ e _ ih => rw [bare, ih]
  | case7 => rfl

/-- Stripping leaves an optional chain, or all that is stripped is around the expression. -/
theorem inner_chain_or_bare_eq (e : Tree) :
    (∃ s x, inner e = .node .chainExpression s [x] ∧ bare e = .node .chainExpression s [bare x]) ∨
      ((∀ s x, inner e ≠ .node .chainExpression s [x]) ∧ bare e = inner e) := by
  fun_induction inner e with
  | case1 _ e ih => simpa only [bare] using ih
  | case2 _ e _ ih => simpa only [bare] using ih
  | case3 _ e _ ih => simpa only [bare] using ih
  | case4 _ e _ ih => simpa only [bare] using ih
  | case5 _ e ih => simpa only [bare] using ih
  | case6 _ e _ ih => simpa only [bare] using ih
  | case7 e hparen has hsatisfies hinst hnull hassert =>
    have hbare := bare.eq_def e
    split at hbare
    · exact absurd rfl (hparen _ _)
    · exact absurd rfl (hnull _ _)
    · exact absurd rfl (has _ _ _)
    · exact absurd rfl (hsatisfies _ _ _)
    · exact absurd rfl (hassert _ _ _)
    · exact absurd rfl (hinst _ _ _)
    · exact .inl ⟨_, _, rfl, hbare⟩
    · rename_i hchain
      exact .inr ⟨hchain, hbare⟩

theorem inner_inner (e : Tree) : inner (inner e) = inner e := by
  fun_induction inner e with
  | case1 _ e ih => exact ih
  | case2 _ e _ ih => exact ih
  | case3 _ e _ ih => exact ih
  | case4 _ e _ ih => exact ih
  | case5 _ e ih => exact ih
  | case6 _ e _ ih => exact ih
  | case7 e hparen has hsatisfies hinst hnull hassert =>
    exact inner.eq_7 e hparen has hsatisfies hinst hnull hassert

theorem inner_bare (e : Tree) : inner (bare e) = bare e := by
  rcases inner_chain_or_bare_eq e with ⟨s, x, _, hbare⟩ | ⟨_, hbare⟩
  · rw [hbare]
    rfl
  · rw [hbare, inner_inner]

theorem bare_label (e : Tree) : (bare e).label = (inner e).label := by
  rcases inner_chain_or_bare_eq e with ⟨s, x, hinner, hbare⟩ | ⟨_, hbare⟩
  · rw [hbare, hinner]
    rfl
  · rw [hbare]

theorem inner_of_not_isWrapping {e : Tree} (h : e.label.isWrapping = false) : inner e = e := by
  unfold inner
  split
  · cases h
  · cases h
  · cases h
  · cases h
  · cases h
  · cases h
  · rfl

theorem inner_of_isMember {e : Tree} (h : e.label.isMember = true) : inner e = e := by
  apply inner_of_not_isWrapping
  revert h
  cases e.label <;> simp [Label.isMember, Label.isWrapping]

theorem bare_of_isMember {e : Tree} (h : e.label.isMember = true) : bare e = e := by
  rcases inner_chain_or_bare_eq e with ⟨s, x, hinner, _⟩ | ⟨_, hbare⟩
  · rw [inner_of_isMember h] at hinner
    rw [hinner] at h
    cases h
  · rw [hbare, inner_of_isMember h]

/-! ## Members -/

theorem member?_of_chain {e x : Tree} {s : Span} (h : inner e = .node .chainExpression s [x]) :
    member? e = if x.label.isMember then some x else none := by
  rw [member?, h]

theorem member?_of_not_chain {e : Tree} (h : ∀ s x, inner e ≠ .node .chainExpression s [x]) :
    member? e = if (inner e).label.isMember then some (inner e) else none := by
  unfold member?
  split
  · rename_i heq
    exact absurd heq (h _ _)
  · rfl

theorem member?_of_isMember {e : Tree} (h : e.label.isMember = true) : member? e = some e := by
  have hchain : ∀ s x, inner e ≠ .node .chainExpression s [x] := by
    intro s x hx
    rw [inner_of_isMember h] at hx
    rw [hx] at h
    cases h
  rw [member?_of_not_chain hchain, inner_of_isMember h, if_pos h]

/-- The member of an expression is that of the bare expression, unless a chain wraps it. -/
theorem member?_bare {e : Tree} (h : ¬ ChainWrapsMember e) : member? (bare e) = member? e := by
  rcases inner_chain_or_bare_eq e with ⟨s, x, hinner, hbare⟩ | ⟨hchain, hbare⟩
  · rw [member?_of_chain hinner, member?_of_chain ((inner_bare e).trans hbare), bare_label]
    cases hx : x.label.isMember with
    | true =>
      rw [bare_of_isMember hx, inner_of_isMember hx, hx]
    | false =>
      have hwraps : ¬ (inner x).label.isMember = true :=
        fun hinnerx => h ⟨s, x, hinner, hx, hinnerx⟩
      simp [hwraps]
  · rw [hbare, member?_of_not_chain hchain, member?_of_not_chain (by rwa [inner_inner]),
      inner_inner]

theorem ChainWrapsMember.member? {e : Tree} (h : ChainWrapsMember e) :
    member? e = none ∧ (member? (bare e)).isSome = true := by
  obtain ⟨s, x, hinner, hx, hmember⟩ := h
  have hbare : inner (bare e) = .node .chainExpression s [bare x] := by
    rw [inner_bare, ← bare_inner, hinner, bare]
  rw [member?_of_chain hinner, member?_of_chain hbare, bare_label]
  simp [hx, hmember]

theorem isMemberTarget_bare {e : Tree} (h : ¬ WrapsMember e) :
    isMemberTarget (bare e) = isMemberTarget e := by
  rw [isMemberTarget, isMemberTarget]
  cases hmember : e.label.isMember with
  | true => rw [bare_of_isMember hmember, hmember]
  | false =>
    rw [bare_label]
    exact Bool.eq_false_iff.mpr fun hinner => h ⟨hmember, hinner⟩

/-! ## Callees -/

theorem bareObject_label (m : Tree) : (bareObject m).label = m.label := by
  unfold bareObject
  split <;> rfl

theorem object?_bareObject (m : Tree) : object? (bareObject m) = (object? m).map bare := by
  obtain ⟨l, s, children⟩ := m
  cases children <;> rfl

theorem propertyName?_of_object {l : Label} {s : Span} {object : Tree} {rest : List Tree}
    {name : Text} (h : propertyName? (.node l s (object :: rest)) = some name) (object' : Tree) :
    propertyName? (.node l s (object' :: rest)) = some name := by
  unfold propertyName? at h
  split at h
  iterate 4
    rename_i heq
    cases heq
    exact h
  · contradiction

theorem propertyName?_bareObject (m : Tree) : propertyName? (bareObject m) = propertyName? m := by
  obtain ⟨l, s, children⟩ := m
  cases children with
  | nil => rfl
  | cons object rest =>
    exact Option.ext fun name =>
      ⟨fun h => propertyName?_of_object h object, fun h => propertyName?_of_object h _⟩

/-- The member that is called has its object bare, and nothing else about it changes. -/
theorem member?_bareCallee {callee : Tree} (h : ¬ ChainWrapsMember callee) :
    member? (bareCallee callee) = (member? callee).map bareObject := by
  rw [← member?_bare h]
  rcases inner_chain_or_bare_eq callee with ⟨s, x, hinner, hbare⟩ | ⟨hchain, hbare⟩
  · have hcallee : bareCallee callee =
        .node .chainExpression s
          [if (bare x).label.isMember then bareObject (bare x) else bare x] := by
      rw [bareCallee, hbare]
    rw [member?_of_chain ((inner_bare callee).trans hbare), hcallee, member?_of_chain rfl]
    split <;> simp_all [bareObject_label]
  · have hcallee : bareCallee callee =
        if (inner callee).label.isMember then bareObject (inner callee) else inner callee := by
      unfold bareCallee
      split
      · rename_i heq
        exact absurd (hbare.symm.trans heq) (hchain _ _)
      · rw [hbare]
    rw [hcallee, hbare]
    cases hmember : (inner callee).label.isMember with
    | true =>
      have hobject : (bareObject (inner callee)).label.isMember = true := by rwa [bareObject_label]
      rw [if_pos rfl, member?_of_isMember hobject, member?_of_isMember hmember, Option.map_some]
    | false =>
      have hnone : member? (inner callee) = none := by
        rw [member?_of_not_chain (by rwa [inner_inner]), inner_inner, hmember]
        rfl
      simp [hnone]

theorem referenceName?_bare (e : Tree) : referenceName? (bare e) = referenceName? e := by
  rw [referenceName?, referenceName?, inner_bare, bare_label]

theorem isNewArray_bare (e : Tree) : isNewArray (bare e) = isNewArray e := by
  rcases inner_chain_or_bare_eq e with ⟨s, x, hinner, hbare⟩ | ⟨_, hbare⟩
  · rw [isNewArray, isNewArray, inner_bare, hbare, hinner]
  · rw [isNewArray, isNewArray, inner_bare, hbare]

/-! ## Arguments -/

theorem filter_bareFirst (rest : List Tree) :
    (bareFirst rest).filter (fun a => !a.label.isTypeArguments) =
      match rest.filter fun a => !a.label.isTypeArguments with
      | [] => []
      | first :: more => bareArgument first :: more := by
  induction rest with
  | nil => rfl
  | cons a rest ih =>
    rw [bareFirst]
    cases ha : a.label.isTypeArguments with
    | true => simpa [ha] using ih
    | false =>
      have hbare : (bareArgument a).label.isTypeArguments = false := by
        unfold bareArgument
        split <;> simp_all
      simp [ha, hbare]

theorem isExistingObject_bareArgument {a : Tree} (h : ¬ ChainWrapsMember a) :
    isExistingObject (bareArgument a) = isExistingObject a := by
  unfold bareArgument
  split
  · rfl
  · rw [isExistingObject, isExistingObject, inner_bare, bare_label, member?_bare h]

theorem ChainWrapsMember.not_isExistingObject {a : Tree} (h : ChainWrapsMember a) :
    isExistingObject a = false := by
  have hnone := h.member?.1
  obtain ⟨s, x, hinner, _⟩ := h
  rw [isExistingObject, hinner, hnone]
  rfl

/-- Whether a call changes its first argument, without the question for spreads. -/
theorem isObjectMutation_eq (t : Tree) :
    isObjectMutation t =
      ((calleePath? t).any (fun p =>
        p.1 == "Object".toList && Builtin.isIn Builtin.objectMutators p.2) &&
        (2 ≤ (callArguments t).length && (callArguments t).head?.any isExistingObject)) := by
  -- What is spread out is no object that exists already.
  have hspread : ∀ first : Tree, first.label = .spreadElement → isExistingObject first = false := by
    rintro ⟨l, s, children⟩ hlabel
    cases hlabel
    rfl
  unfold isObjectMutation
  cases calleePath? t with
  | none => rfl
  | some p =>
    cases callArguments t with
    | nil => simp
    | cons first more =>
      cases more with
      | nil => simp
      | cons second more =>
        have htwo :
            (2 ≤ (first :: second :: more).length &&
              (first :: second :: more).head?.any isExistingObject) =
            isExistingObject first := by simp
        rw [htwo, Option.any_some]
        simp only
        split
        · rename_i hlabel
          rw [hspread first hlabel, Bool.false_and]
        · rw [Bool.true_and]

/-! ## Calls -/

section Call

variable {s : Span} {callee : Tree} {rest : List Tree}

theorem calleeMember?_withoutTypeSyntax (h : ¬ ChainWrapsMember callee) :
    calleeMember? (withoutTypeSyntax (.node .callExpression s (callee :: rest))) =
      (calleeMember? (.node .callExpression s (callee :: rest))).map bareObject :=
  member?_bareCallee h

theorem calleeProperty?_withoutTypeSyntax (h : ¬ ChainWrapsMember callee) :
    calleeProperty? (withoutTypeSyntax (.node .callExpression s (callee :: rest))) =
      calleeProperty? (.node .callExpression s (callee :: rest)) := by
  rw [calleeProperty?, calleeProperty?, calleeMember?_withoutTypeSyntax h, Option.bind_map]
  exact congrArg _ (funext propertyName?_bareObject)

theorem calleePath?_withoutTypeSyntax (h : ¬ ChainWrapsMember callee) :
    calleePath? (withoutTypeSyntax (.node .callExpression s (callee :: rest))) =
      calleePath? (.node .callExpression s (callee :: rest)) := by
  have hobject : ∀ m,
      (object? (bareObject m)).bind referenceName? = (object? m).bind referenceName? := by
    intro m
    rw [object?_bareObject, Option.bind_map]
    exact congrArg _ (funext referenceName?_bare)
  unfold calleePath?
  rw [calleeMember?_withoutTypeSyntax h]
  cases calleeMember? (.node .callExpression s (callee :: rest)) with
  | none => rfl
  | some m => simp [propertyName?_bareObject, hobject]

theorem callArguments_withoutTypeSyntax :
    callArguments (withoutTypeSyntax (.node .callExpression s (callee :: rest))) =
      match callArguments (.node .callExpression s (callee :: rest)) with
      | [] => []
      | first :: more => bareArgument first :: more :=
  filter_bareFirst rest

theorem isObjectMutation_withoutTypeSyntax (h : ¬ ChainWrapsMember callee)
    (hfirst : ∀ first ∈ (callArguments (.node .callExpression s (callee :: rest))).head?,
      ¬ ChainWrapsMember first) :
    isObjectMutation (withoutTypeSyntax (.node .callExpression s (callee :: rest))) =
      isObjectMutation (.node .callExpression s (callee :: rest)) := by
  rw [isObjectMutation_eq, isObjectMutation_eq, calleePath?_withoutTypeSyntax h,
    callArguments_withoutTypeSyntax]
  congr 1
  cases hargs : callArguments (.node .callExpression s (callee :: rest)) with
  | nil => rfl
  | cons first more =>
    cases more with
    | nil => rfl
    | cons second more => exact isExistingObject_bareArgument (hfirst first (by rw [hargs]; rfl))

end Call

end Tree

/-- A site with its node without type-only syntax. -/
def Site.withoutTypeSyntax (s : Site) : Site :=
  { s with node := { s.node with tree := s.tree.withoutTypeSyntax } }

namespace Rules.ImmutableData

open PureLint.Tree

theorem mutatesNewArray_withoutTypeSyntax {s : Span} {callee : Tree} {rest : List Tree}
    (h : ¬ ChainWrapsMember callee) :
    mutatesNewArray (withoutTypeSyntax (.node .callExpression s (callee :: rest))) =
      mutatesNewArray (.node .callExpression s (callee :: rest)) := by
  unfold mutatesNewArray
  rw [calleeMember?_withoutTypeSyntax h]
  cases calleeMember? (.node .callExpression s (callee :: rest)) with
  | none => rfl
  | some m =>
    simp only [Option.map_some, Option.bind_some, object?_bareObject]
    cases object? m with
    | none => rfl
    | some object => exact isNewArray_bare object

theorem mutation?_of_call (o : Options) {t : Tree} (h : t.label = .callExpression) :
    mutation? o t =
      if t.arrayMutator?.isSome then
        if o.ignoreImmediateMutation && mutatesNewArray t then none else some .array
      else if t.isObjectMutation then some .object
      else none := by
  obtain ⟨l, s, children⟩ := t
  cases h
  rfl

/-- Where a member is concealed nothing is reported. -/
theorem mutation?_of_concealsMember (o : Options) {t : Tree} (h : ConcealsMember t) :
    mutation? o t = none := by
  unfold ConcealsMember at h
  split at h
  · exact if_neg (Bool.eq_false_iff.mp h.1)
  · exact if_neg (Bool.eq_false_iff.mp h.1)
  · rename_i operand _
    have hnone : ¬ operand.member?.isSome = true := by simp [h.member?.1]
    exact if_neg hnone
  · rename_i s callee rest
    rcases h with hcallee | ⟨harray, first, hfirst, hwraps⟩
    · have hnone : calleeMember? (.node .callExpression s (callee :: rest)) = none :=
        hcallee.member?.1
      rw [mutation?_of_call o rfl, isObjectMutation_eq, arrayMutator?, calleeProperty?, calleePath?,
        hnone]
      rfl
    · have hobject : isObjectMutation (.node .callExpression s (callee :: rest)) = false := by
        rw [isObjectMutation_eq]
        cases hargs : callArguments (.node .callExpression s (callee :: rest)) with
        | nil => simp
        | cons a more =>
          obtain rfl : a = first := by simpa [hargs] using hfirst
          cases more <;> simp [hwraps.not_isExistingObject]
      rw [mutation?_of_call o rfl, harray, hobject]
      rfl
  · exact h.elim

/-- Where no member is concealed, type-only syntax makes no difference. -/
theorem mutation?_withoutTypeSyntax (o : Options) {t : Tree} (h : ¬ ConcealsMember t) :
    mutation? o (withoutTypeSyntax t) = mutation? o t := by
  unfold ConcealsMember at h
  split at h
  · rename_i target _
    show (if (bare target).isMemberTarget then some Mutation.member else none) =
      if target.isMemberTarget then _ else _
    rw [isMemberTarget_bare h]
  · rename_i target _
    show (if (bare target).isMemberTarget then some Mutation.member else none) =
      if target.isMemberTarget then _ else _
    rw [isMemberTarget_bare h]
  · rename_i operand _
    show (if (bare operand).member?.isSome then some Mutation.member else none) =
      if operand.member?.isSome then _ else _
    rw [member?_bare h]
  · rename_i s callee rest
    obtain ⟨hcallee, hargument⟩ := not_or.mp h
    have harray : arrayMutator? (withoutTypeSyntax (.node .callExpression s (callee :: rest))) =
        arrayMutator? (.node .callExpression s (callee :: rest)) := by
      rw [arrayMutator?, arrayMutator?, calleeProperty?_withoutTypeSyntax hcallee]
    rw [mutation?_of_call o rfl, mutation?_of_call o rfl, harray,
      mutatesNewArray_withoutTypeSyntax hcallee]
    -- The first argument is looked at only if the method is none of the array methods.
    cases hmethod : arrayMutator? (.node .callExpression s (callee :: rest)) with
    | some method => rfl
    | none =>
      have hfirst : ∀ first ∈ (callArguments (.node .callExpression s (callee :: rest))).head?,
          ¬ ChainWrapsMember first :=
        fun first hfirst hwraps => hargument ⟨hmethod, first, hfirst, hwraps⟩
      rw [isObjectMutation_withoutTypeSyntax hcallee hfirst]
  · rename_i hassignment hupdate hdelete hcall
    rw [withoutTypeSyntax.eq_5 t hassignment hupdate hdelete hcall]

/-! ## Reports -/

/-- The ids of what is reported at a site. -/
def reportedIds (o : Options) (source : Text) (s : Site) : List String :=
  (check o source s).diagnostics.map (·.id)

theorem reportedIds_eq (o : Options) (source : Text) (s : Site) :
    reportedIds o source s = (mutation? o s.tree).toList.map fun m => (report ⟨0, 0⟩ m).id := by
  unfold reportedIds check CheckResult.ofOption
  cases mutation? o s.tree with
  | none => rfl
  | some m => cases m <;> rfl

theorem reportedIds_eq_nil_iff {o : Options} {source : Text} {s : Site} :
    reportedIds o source s = [] ↔ mutation? o s.tree = none := by
  rw [reportedIds_eq]
  cases mutation? o s.tree <;> simp

/-- Type-only syntax makes no difference to what is reported exactly where it conceals no member, or
where nothing would be reported without it; and it never does more than hide a report. -/
theorem reportedIds_withoutTypeSyntax_iff (o : Options) (source : Text) (s : Site) :
    (reportedIds o source s = reportedIds o source s.withoutTypeSyntax ↔
      reportedIds o source s.withoutTypeSyntax = [] ∨ ¬ s.tree.ConcealsMember) ∧
    (reportedIds o source s ≠ reportedIds o source s.withoutTypeSyntax →
      reportedIds o source s = []) := by
  have hconceals : s.tree.ConcealsMember → reportedIds o source s = [] :=
    fun h => reportedIds_eq_nil_iff.mpr (mutation?_of_concealsMember o h)
  have hsame : ¬ s.tree.ConcealsMember →
      reportedIds o source s = reportedIds o source s.withoutTypeSyntax := by
    intro h
    rw [reportedIds_eq, reportedIds_eq]
    exact congrArg _ (congrArg _ (mutation?_withoutTypeSyntax o h).symm)
  by_cases h : s.tree.ConcealsMember
  · refine ⟨?_, fun _ => hconceals h⟩
    rw [hconceals h]
    constructor
    · intro heq
      exact .inl heq.symm
    · rintro (hnil | hnot)
      · exact hnil.symm
      · exact absurd h hnot
  · exact ⟨iff_of_true (hsame h) (.inr h), fun hne => absurd (hsame h) hne⟩

/-- An assignment to a member under an assertion. -/
def assertedTarget : Text := "(a.b as any)=1;".toList

/-- A call that changes the member of an optional chain, which is marked as being there. -/
def markedChain : Text := "Object.assign(a?.b!,c);".toList

theorem concealed_member_not_reported :
    (∃ file s,
      SourceFile.parse? assertedTarget (some "p.ts".toList) = some file ∧ s ∈ file.tree.sites ∧
      reportedIds {} assertedTarget s = [] ∧
        reportedIds {} assertedTarget s.withoutTypeSyntax = ["generic"]) ∧
    ∃ file s, SourceFile.parse? markedChain (some "p.ts".toList) = some file ∧ s ∈ file.tree.sites ∧
      reportedIds {} markedChain s = [] ∧
        reportedIds {} markedChain s.withoutTypeSyntax = ["object"] := by
  obtain ⟨hasserted, hmarked⟩ :
      ((SourceFile.parse? assertedTarget (some "p.ts".toList)).any fun file =>
        file.tree.sites.any fun s => decide (reportedIds {} assertedTarget s = []) &&
          decide (reportedIds {} assertedTarget s.withoutTypeSyntax = ["generic"])) = true ∧
      ((SourceFile.parse? markedChain (some "p.ts".toList)).any fun file =>
        file.tree.sites.any fun s => decide (reportedIds {} markedChain s = []) &&
          decide (reportedIds {} markedChain s.withoutTypeSyntax = ["object"])) = true := by
    decide +kernel
  simp only [Option.any_eq_true, List.any_eq_true, Bool.and_eq_true,
    decide_eq_true_eq] at hasserted hmarked
  obtain ⟨file, hfile, s, hs, hseen⟩ := hasserted
  obtain ⟨file', hfile', s', hs', hseen'⟩ := hmarked
  exact ⟨⟨file, s, hfile, hs, hseen⟩, file', s', hfile', hs', hseen'⟩

end Rules.ImmutableData

end PureLint
