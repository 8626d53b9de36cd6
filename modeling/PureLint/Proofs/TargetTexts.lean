import PureLint.Proofs.RetriedObjects
import PureLint.Proofs.TypeSyntaxInTexts

/-!
# Texts of targets

What is assigned to, counted up or down, or deleted may be the same name or member, and options that
look at texts should treat the three alike. There are three functions for the three texts. Those for
what is assigned to and for an expression, as a deleted one is, agree on every target
(`targetText_eq`). The one for what is counted does not look through a non-null mark, `as` or
`satisfies` around the target: it takes what is written. So the three are treated alike where the
target has none of these around it, and where the source has room for the target, only there
(`targets_treated_alike_iff`): an option can ask for the ending that only the longer text has.
-/

namespace PureLint

namespace Tree

/-! ## Targets -/

/-- A non-null mark, `as` or `satisfies` around an expression. -/
inductive Marks : Tree → Tree → Prop
  | nonNull {s : Span} {e : Tree} : Marks (.node .nonNullExpression s [e]) e
  | as {s : Span} {e : Tree} {rest : List Tree} : Marks (.node .asExpression s (e :: rest)) e
  | satisfies {s : Span} {e : Tree}
    {rest : List Tree} : Marks (.node .satisfiesExpression s (e :: rest)) e

/-- Whether a target has one of these around it. -/
def isMarked (t : Tree) : Bool :=
  match t.label with
  | .nonNullExpression | .asExpression | .satisfiesExpression => true
  | _ => false

/-- A target with none of these around it, of which the three texts are the same. -/
structure IsPlainTarget (t : Tree) : Prop where
  unmarked : t.isMarked = false
  targetText_eq : ∀ source, t.targetText source = t.expressionText source
  updateTargetText_eq : ∀ source, t.updateTargetText source = t.expressionText source

theorem isPlainTarget_of_isNameOrMember {t : Tree} (h : Grammar.isNameOrMember t = true) :
    IsPlainTarget t := by
  obtain ⟨l, s, parts⟩ := t
  unfold Grammar.isNameOrMember at h
  split at h
  case h_5 => cases h
  all_goals
    rename_i hlabel
    cases hlabel
    exact ⟨rfl, fun _ => rfl, fun _ => rfl⟩

/-- What can be assigned to has one of the marks around it, or is a name, a member or an assertion
before one. -/
theorem assignable_cases {t : Tree} (h : Grammar.isAssignable t = true) :
    IsPlainTarget t ∨ ∃ e, Marks t e := by
  obtain ⟨l, s, parts⟩ := t
  unfold Grammar.isAssignable at h
  split at h
  · rename_i hlabel
    cases hlabel
    cases parts with
    | nil => cases h
    | cons e rest => exact .inr ⟨e, .as⟩
  · rename_i hlabel
    cases hlabel
    cases parts with
    | nil => cases h
    | cons e rest => exact .inr ⟨e, .satisfies⟩
  · rename_i hlabel
    cases hlabel
    match parts, h with
    | [e], _ => exact .inr ⟨e, .nonNull⟩
  · rename_i hlabel
    cases hlabel
    exact .inl ⟨rfl, fun _ => rfl, fun _ => rfl⟩
  · exact .inl (isPlainTarget_of_isNameOrMember h)

section

variable {source : Text} {t e : Tree}

theorem Marks.isMarked (h : Marks t e) : t.isMarked = true := by
  cases h <;> rfl

theorem Marks.expressionText_eq (h : Marks t e) :
    t.expressionText source = e.expressionText source := by
  cases h <;> rfl

theorem Marks.targetText_eq (h : Marks t e) : t.targetText source = t.expressionText source := by
  cases h <;> rfl

theorem Marks.updateTargetText_eq (h : Marks t e) :
    t.updateTargetText source = t.span.textIn source := by
  cases h <;> rfl

theorem Marks.room (h : Marks t e) (hroom : hasRoom source t = true) :
    hasRoom source e = true ∧ e.span.extent source < t.span.extent source := by
  have heq : hasRoom source t =
      (hasRoom source e && decide (e.span.extent source < t.span.extent source)) := by
    cases h <;> rfl
  rwa [heq, Bool.and_eq_true, decide_eq_true_eq] at hroom

theorem targetText_eq (h : Grammar.isAssignable t = true) :
    t.targetText source = t.expressionText source := by
  rcases assignable_cases h with hplain | ⟨e, hmarks⟩
  · exact hplain.targetText_eq source
  · exact hmarks.targetText_eq

theorem updateTargetText_eq (h : Grammar.isAssignable t = true) (hmark : t.isMarked = false) :
    t.updateTargetText source = t.expressionText source := by
  rcases assignable_cases h with hplain | ⟨e, hmarks⟩
  · exact hplain.updateTargetText_eq source
  · rw [hmarks.isMarked] at hmark
    cases hmark

/-- Otherwise its text is longer: the mark stands in it. -/
theorem length_expressionText_lt (h : Grammar.isAssignable t = true) (hmark : t.isMarked = true)
    (hroom : hasRoom source t = true) :
    (t.expressionText source).length < (t.updateTargetText source).length := by
  rcases assignable_cases h with hplain | ⟨e, hmarks⟩
  · rw [hplain.unmarked] at hmark
    cases hmark
  · obtain ⟨hroom', hextent⟩ := hmarks.room hroom
    rw [hmarks.expressionText_eq, hmarks.updateTargetText_eq]
    exact Nat.lt_of_le_of_lt (length_text_le hroom') hextent

end

end Tree

namespace Ignore

open PureLint.Tree

/-! ## What options make of a text -/

/-- Whether options ignore an access with a certain text. -/
def ignoresAccess (o : IgnoreOptions) (t : Text) : Bool :=
  o.hasTextMatchers &&
    (o.matchesPattern t || o.matchesAccessor t || (o.matchesAffix t || objectMatches o t.length t))

theorem borrows_of_isAccess {l : Label} (h : isAccess l = true) : borrows l = false := by
  unfold isAccess at h
  split at h
  all_goals first | rfl | cases h

theorem identifierTexts_of_isAccess {source : Text} {s : Site} (h : isAccess s.label = true) :
    identifierTexts source s = ownTexts source s.tree := by
  have hown : ¬ borrows s.tree.label = true := Bool.eq_false_iff.mp (borrows_of_isAccess h)
  unfold identifierTexts
  cases s.above with
  | nil => exact if_neg hown
  | cons n rest => exact if_neg hown

theorem ignoredByText_eq {source : Text} {o : IgnoreOptions} {s : Site} {l : Label} {span : Span}
    {parts : List Tree}
    {t : Text} (htree : s.tree = .node l span parts) (hlabel : isAccess l = true)
    (htext : ownTexts source (.node l span parts) = [t]) :
    ignoredByText source o s = ignoresAccess o t := by
  have haccess : isAccess s.label = true :=
    (congrArg (fun x => isAccess x.label) htree).trans hlabel
  have htexts : identifierTexts source s = [t] := by
    rw [identifierTexts_of_isAccess haccess, htree, htext]
  simp [ignoredByText, ignoresAccess, htexts, ignoredByAffix, haccess]

theorem length_lt_of_mem_retriedFrom {n : Nat} {t p : Text} (h : p ∈ retriedFrom n t) :
    p.length < t.length := by
  induction n generalizing t with
  | zero => cases h
  | succ n ih =>
    rw [retriedFrom] at h
    cases hobject : objectPath? t with
    | none => rw [hobject] at h; cases h
    | some object =>
      have hlt := length_objectPath?_lt hobject
      rw [hobject] at h
      rcases List.mem_cons.mp h with rfl | h
      · exact hlt
      · exact Nat.lt_trans (ih h) hlt

/-- Options can tell a text from every shorter one: they ask for it as an ending. -/
theorem ignoresAccess_ends {long short : Text} (h : short.length < long.length) :
    ignoresAccess { ends := [long] } long = true ∧
      ignoresAccess { ends := [long] } short = false := by
  have hnone : ∀ p : Text,
      p.length ≤ short.length → IgnoreOptions.matchesAffix { ends := [long] } p = false := by
    intro p hp
    rw [← Bool.not_eq_true, matchesAffix_ends]
    intro hsuffix
    have hle := hsuffix.length_le
    omega
  have hobjects : objectMatches { ends := [long] } short.length short = false := by
    rw [objectMatches_eq_any, List.any_eq_false]
    intro p hp
    simp [hnone p (Nat.le_of_lt (length_lt_of_mem_retriedFrom hp))]
  refine ⟨?_, ?_⟩
  · have hself := matchesAffix_ends.mpr (List.suffix_refl long)
    simp [ignoresAccess, IgnoreOptions.hasTextMatchers, hself]
  · simp [ignoresAccess, IgnoreOptions.matchesPattern, Pattern.anyFound,
      IgnoreOptions.matchesAccessor, hnone short (Nat.le_refl _), hobjects]

/-! ## Sites of targets -/

/-- Whether a target is assigned to at a site. -/
def Assigns (s : Site) (t : Tree) : Prop :=
  ∃ plain span rest, s.tree = .node (.assignmentExpression plain) span (t :: rest)

/-- Whether a target is counted up or down at a site. -/
def Counts (s : Site) (t : Tree) : Prop :=
  ∃ span rest, s.tree = .node .updateExpression span (t :: rest)

/-- Whether a target is deleted at a site. -/
def Deletes (s : Site) (t : Tree) : Prop :=
  ∃ span rest, s.tree = .node (.unaryExpression .delete) span (t :: rest)

section

variable {source : Text} {o : IgnoreOptions} {s : Site} {t : Tree}

theorem ignoredByText_of_assigns (h : Assigns s t) :
    ignoredByText source o s = ignoresAccess o (t.targetText source) := by
  obtain ⟨plain, span, rest, htree⟩ := h
  exact ignoredByText_eq htree rfl rfl

theorem ignoredByText_of_counts (h : Counts s t) :
    ignoredByText source o s = ignoresAccess o (t.updateTargetText source) := by
  obtain ⟨span, rest, htree⟩ := h
  exact ignoredByText_eq htree rfl rfl

theorem ignoredByText_of_deletes (h : Deletes s t) :
    ignoredByText source o s = ignoresAccess o (t.expressionText source) := by
  obtain ⟨span, rest, htree⟩ := h
  exact ignoredByText_eq htree rfl rfl

end

/-- What is assigned to has the text that it has as an expression, and so options that look at texts
treat an assignment to it like its deletion. What is counted up or down has this text too, and is
treated alike, if no non-null mark, `as` or `satisfies` is around it; and where the source has room
for it, only then. -/
theorem targets_treated_alike_iff (source : Text) (t : Tree) (h : Grammar.isAssignable t = true) :
    t.targetText source = t.expressionText source ∧
      (t.isMarked = false → t.updateTargetText source = t.expressionText source) ∧
      (hasRoom source t = true →
        (t.updateTargetText source = t.expressionText source ↔ t.isMarked = false)) ∧
      ∀ a c d : Site, Assigns a t → Counts c t → Deletes d t →
        (∀ o, ignoredByText source o a = ignoredByText source o d) ∧
        (t.isMarked = false → ∀ o, ignoredByText source o c = ignoredByText source o a) ∧
        (hasRoom source t = true →
          ((∀ o, ignoredByText source o c = ignoredByText source o a) ↔ t.isMarked = false)) := by
  have htarget : t.targetText source = t.expressionText source := targetText_eq h
  refine ⟨htarget, updateTargetText_eq h, fun hroom => ⟨fun heq => ?_, updateTargetText_eq h⟩, ?_⟩
  · cases hmark : t.isMarked with
    | false => rfl
    | true =>
      have hlt := length_expressionText_lt h hmark hroom
      rw [heq] at hlt
      exact absurd hlt (Nat.lt_irrefl _)
  · intro a c d ha hc hd
    have halike : t.isMarked = false →
        ∀ o, ignoredByText source o c = ignoredByText source o a := by
      intro hmark o
      rw [ignoredByText_of_counts hc, ignoredByText_of_assigns ha, htarget,
        updateTargetText_eq h hmark]
    refine ⟨fun o => ?_, halike, fun hroom => ⟨fun hall => ?_, halike⟩⟩
    · rw [ignoredByText_of_assigns ha, ignoredByText_of_deletes hd, htarget]
    · cases hmark : t.isMarked with
      | false => rfl
      | true =>
        -- The options that ask for the counted text tell the two apart: what is assigned to is too
        -- short to end so.
        obtain ⟨hlong, hshort⟩ := ignoresAccess_ends (length_expressionText_lt h hmark hroom)
        have hsame := hall { ends := [t.updateTargetText source] }
        rw [ignoredByText_of_counts hc, ignoredByText_of_assigns ha, htarget, hlong,
          hshort] at hsame
        cases hsame

/-- A site at which a target is assigned to. -/
def assignedAt (t : Tree) : Site := ⟨⟨0, .node (.assignmentExpression true) t.span [t]⟩, []⟩

/-- A site at which a target is counted up. -/
def countedAt (t : Tree) : Site := ⟨⟨0, .node .updateExpression t.span [t]⟩, []⟩

/-- A site at which a target is deleted. -/
def deletedAt (t : Tree) : Site := ⟨⟨0, .node (.unaryExpression .delete) t.span [t]⟩, []⟩

/-- A member behind an index, with `as` around it. -/
def markedMember : Text := "(a.b[c] as d)=1;".toList

theorem targets_treated_alike_markedMember :
    ∃ s e, IsTargetIn markedMember s e ∧ Grammar.isAssignable e = true ∧
      hasRoom markedMember e = true ∧
      e.targetText markedMember = "a.b[c]".toList ∧
      e.updateTargetText markedMember ≠ e.expressionText markedMember ∧
      (∀ o, ignoredByText markedMember o (assignedAt e) =
        ignoredByText markedMember o (deletedAt e)) ∧
      ¬ ∀ o, ignoredByText markedMember o (countedAt e) =
        ignoredByText markedMember o (assignedAt e) := by
  have hread : hasTarget markedMember (fun _ e => decide (Grammar.isAssignable e = true ∧
      hasRoom markedMember e = true ∧ e.isMarked = true ∧
        e.expressionText markedMember = "a.b[c]".toList)) = true := by
    decide +kernel
  obtain ⟨s, e, he, hseen⟩ := exists_isTargetIn hread
  obtain ⟨hassignable, hroom, hmark, htext⟩ := of_decide_eq_true hseen
  have hnot : ¬ e.isMarked = false := by simp [hmark]
  obtain ⟨htarget, _, hcounted, hsites⟩ := targets_treated_alike_iff markedMember e hassignable
  obtain ⟨hdeleted, _, hall⟩ :=
    hsites (assignedAt e) (countedAt e) (deletedAt e) ⟨true, e.span, [], rfl⟩
    ⟨e.span, [], rfl⟩ ⟨e.span, [], rfl⟩
  exact ⟨s, e, he, hassignable, hroom, htarget.trans htext,
    fun heq => hnot ((hcounted hroom).mp heq), hdeleted, fun heq => hnot ((hall hroom).mp heq)⟩

/-- A name with a non-null mark that is counted up. -/
def markedCount : Text := "x!++;".toList

/-- The mark stands in the text of what is counted, so that an ending that the name has does not
match; it does if the same target is assigned to or deleted. -/
theorem mark_stands_in_text :
    ∃ s e, IsTargetIn markedCount s e ∧ s.label = .updateExpression ∧
      Grammar.isAssignable e = true ∧
      e.updateTargetText markedCount = "x!".toList ∧ e.targetText markedCount = ['x'] ∧
      e.expressionText markedCount = ['x'] ∧
        ignoredByText markedCount { ends := [['x']] } s = false ∧
      ignoredByText markedCount { ends := [['x']] } (assignedAt e) = true ∧
      ignoredByText markedCount { ends := [['x']] } (deletedAt e) = true := by
  have hread :
      hasTarget markedCount (fun s e =>
        decide (s.label = .updateExpression ∧ Grammar.isAssignable e = true ∧
      e.updateTargetText markedCount = "x!".toList ∧ e.targetText markedCount = ['x'] ∧
      e.expressionText markedCount = ['x'] ∧
        ignoredByText markedCount { ends := [['x']] } s = false ∧
      ignoredByText markedCount { ends := [['x']] } (assignedAt e) = true ∧
      ignoredByText markedCount { ends := [['x']] } (deletedAt e) = true)) = true := by
    decide +kernel
  obtain ⟨s, e, he, hseen⟩ := exists_isTargetIn hread
  exact ⟨s, e, he, of_decide_eq_true hseen⟩

end Ignore

end PureLint
