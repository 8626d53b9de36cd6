import PureLint.Proofs.AccessPath

/-!
# Type-only syntax in texts

The text of an expression is made on a way down: from a member to its object, from a call to what is
called, from an operator to its operand, and through the syntax around any of them (`Tree.wayDown`).
`Tree.erased` is the expression without parentheses and type-only syntax on this way, which should
not make a difference to its text.

Parentheses, non-null marks, `as` and `satisfies` are looked through, and they make none. An
assertion before an expression and an instantiation are not: there the text is that of the source,
with the types in it. So an expression has the text of the erased one if it has neither on its way,
and in a source text that has room for what was read from it (`hasRoom`) only then
(`text_of_erased_iff`).

All this follows from what happens at one node (`wayDown_induction`): the way ends, or goes on and
puts something behind the text, or goes on where the text does not.
-/

namespace PureLint

/-- The number of characters that a span covers. -/
def Span.extent (source : Text) (s : Span) : Nat := (s.textIn source).length

namespace Tree

/-! ## The way down -/

/-- The expression without parentheses and type-only syntax on the way that its text is made. -/
def erased : Tree → Tree
  | .node .parenthesizedExpression _ [e] => erased e
  | .node .nonNullExpression _ [e] => erased e
  | .node .asExpression _ (e :: _) => erased e
  | .node .satisfiesExpression _ (e :: _) => erased e
  | .node .typeAssertion _ [_, e] => erased e
  | .node .instantiationExpression _ (e :: _) => erased e
  | .node .staticMember s [o, .node (.identifierName n) sn parts] =>
    .node .staticMember s [erased o, .node (.identifierName n) sn parts]
  | .node .computedMember s [o, i] => .node .computedMember s [erased o, i]
  | .node .privateMember s [o, .node (.privateIdentifier n) sn parts] =>
    .node .privateMember s [erased o, .node (.privateIdentifier n) sn parts]
  | .node .callExpression s (f :: rest) => .node .callExpression s (erased f :: rest)
  | .node (.unaryExpression op) s [e] => .node (.unaryExpression op) s [erased e]
  | .node .chainExpression s [e] => .node .chainExpression s [erased e]
  | e => e

/-- The expression, and those that it is a member, a call or an operator of, or syntax around, down
to the last. -/
def wayDown : Tree → List Tree
  | .node .parenthesizedExpression s [e] => .node .parenthesizedExpression s [e] :: wayDown e
  | .node .nonNullExpression s [e] => .node .nonNullExpression s [e] :: wayDown e
  | .node .asExpression s (e :: rest) => .node .asExpression s (e :: rest) :: wayDown e
  | .node .satisfiesExpression s (e :: rest) =>
    .node .satisfiesExpression s (e :: rest) :: wayDown e
  | .node .typeAssertion s [t, e] => .node .typeAssertion s [t, e] :: wayDown e
  | .node .instantiationExpression s (e :: rest) =>
    .node .instantiationExpression s (e :: rest) :: wayDown e
  | .node .staticMember s [o, .node (.identifierName n) sn parts] =>
    .node .staticMember s [o, .node (.identifierName n) sn parts] :: wayDown o
  | .node .computedMember s [o, i] => .node .computedMember s [o, i] :: wayDown o
  | .node .privateMember s [o, .node (.privateIdentifier n) sn parts] =>
    .node .privateMember s [o, .node (.privateIdentifier n) sn parts] :: wayDown o
  | .node .callExpression s (f :: rest) => .node .callExpression s (f :: rest) :: wayDown f
  | .node (.unaryExpression op) s [e] => .node (.unaryExpression op) s [e] :: wayDown e
  | .node .chainExpression s [e] => .node .chainExpression s [e] :: wayDown e
  | e => [e]

/-- Whether an expression is an assertion before another one, or an instantiation of it. -/
def assertsBefore : Tree → Bool
  | .node .typeAssertion _ [_, _] => true
  | .node .instantiationExpression _ (_ :: _) => true
  | _ => false

/-- Whether every expression on the way down is written with no fewer characters than what it
consists of. -/
def hasRoom (source : Text) : Tree → Bool
  | .node (.identifierReference n) s _ => n.length ≤ s.extent source
  | .node .thisExpression s _ => 4 ≤ s.extent source
  | .node .super s _ => 5 ≤ s.extent source
  | .node .parenthesizedExpression s [e] =>
    hasRoom source e && decide (e.span.extent source < s.extent source)
  | .node .nonNullExpression s [e] =>
    hasRoom source e && decide (e.span.extent source < s.extent source)
  | .node .asExpression s (e :: _) =>
    hasRoom source e && decide (e.span.extent source < s.extent source)
  | .node .satisfiesExpression s (e :: _) =>
    hasRoom source e && decide (e.span.extent source < s.extent source)
  | .node .typeAssertion s [_, e] =>
    hasRoom source e && decide (e.span.extent source < s.extent source)
  | .node .instantiationExpression s (e :: _) =>
    hasRoom source e && decide (e.span.extent source < s.extent source)
  | .node .staticMember s [o, .node (.identifierName n) _ _] =>
    hasRoom source o && decide (o.span.extent source + (n.length + 1) ≤ s.extent source)
  | .node .computedMember s [o, i] =>
    hasRoom source o && decide (o.span.extent source + (i.span.extent source + 2) ≤ s.extent source)
  | .node .privateMember s [o, .node (.privateIdentifier n) _ _] =>
    hasRoom source o && decide (o.span.extent source + (n.length + 2) ≤ s.extent source)
  | .node .callExpression s (f :: _) =>
    hasRoom source f && decide (f.span.extent source ≤ s.extent source)
  | .node (.unaryExpression _) s [e] =>
    hasRoom source e && decide (e.span.extent source ≤ s.extent source)
  | .node .chainExpression s [e] =>
    hasRoom source e && decide (e.span.extent source ≤ s.extent source)
  | _ => true

/-! ## One node of the way -/

section

variable (source : Text)

/-- The way ends at an expression that has nothing to erase around it. -/
structure Ends (t : Tree) : Prop where
  erased_eq : erased t = t
  way : wayDown t = [t]
  seen : assertsBefore t = false
  bare : inner t = t
  room : hasRoom source t = true → (t.expressionText source).length ≤ t.span.extent source

/-- The way goes on from `t` to `e`, and the text is that of `e` with something behind it. -/
structure GoesOn (t e : Tree) (behind : Text) : Prop where
  text : t.expressionText source = e.expressionText source ++ behind
  erased_text : (erased t).expressionText source = (erased e).expressionText source ++ behind
  way : wayDown t = t :: wayDown e
  seen : assertsBefore t = false
  bare : (∀ x ∈ wayDown (erased e), inner x = x) → ∀ x ∈ wayDown (erased t), inner x = x
  room : hasRoom source t = true →
    hasRoom source e = true ∧ e.span.extent source + behind.length ≤ t.span.extent source

/-- The way goes on from `t` to `e`, but the text is what is written for `t`. -/
structure StopsShort (t e : Tree) : Prop where
  text : t.expressionText source = t.span.textIn source
  erased_eq : erased t = erased e
  way : wayDown t = t :: wayDown e
  unseen : assertsBefore t = true
  room : hasRoom source t = true →
    hasRoom source e = true ∧ e.span.extent source < t.span.extent source

end

theorem GoesOn.around {source : Text} {t e : Tree}
    (htext : t.expressionText source = e.expressionText source)
    (herased : erased t = erased e) (hway : wayDown t = t :: wayDown e)
    (hseen : assertsBefore t = false)
    (hroom : hasRoom source t =
      (hasRoom source e && decide (e.span.extent source < t.span.extent source))) :
    GoesOn source t e [] := by
  refine ⟨?_, ?_, hway, hseen, ?_, ?_⟩
  · rw [htext, List.append_nil]
  · rw [herased, List.append_nil]
  · rw [herased]
    exact id
  · intro h
    rw [hroom, Bool.and_eq_true, decide_eq_true_eq] at h
    exact ⟨h.1, Nat.le_of_lt h.2⟩

/-- An expression that stays when what it is made of is erased. -/
theorem GoesOn.kept {source : Text} {t e : Tree} {behind : Text}
    (htext : t.expressionText source = e.expressionText source ++ behind)
    (herased : (erased t).expressionText source = (erased e).expressionText source ++ behind)
    (hway : wayDown t = t :: wayDown e)
    (hway' : wayDown (erased t) = erased t :: wayDown (erased e))
    (hseen : assertsBefore t = false) (hbare : inner (erased t) = erased t)
    (hroom : hasRoom source t =
      (hasRoom source e && decide (e.span.extent source + behind.length ≤ t.span.extent source))) :
    GoesOn source t e behind := by
  refine ⟨htext, herased, hway, hseen, ?_, ?_⟩
  · intro h
    rw [hway', List.forall_mem_cons]
    exact ⟨hbare, h⟩
  · intro h
    rwa [hroom, Bool.and_eq_true, decide_eq_true_eq] at h

theorem StopsShort.of_room {source : Text} {t e : Tree}
    (htext : t.expressionText source = t.span.textIn source)
    (herased : erased t = erased e) (hway : wayDown t = t :: wayDown e)
    (hunseen : assertsBefore t = true)
    (hroom : hasRoom source t =
      (hasRoom source e && decide (e.span.extent source < t.span.extent source))) :
    StopsShort source t e := by
  refine ⟨htext, herased, hway, hunseen, ?_⟩
  intro h
  rwa [hroom, Bool.and_eq_true, decide_eq_true_eq] at h

theorem wayDown_ne_nil (t : Tree) : wayDown t ≠ [] := by
  unfold wayDown
  split <;> exact List.cons_ne_nil _ _

/-- Where the way ends, the text is not longer than what is written. -/
theorem length_text_le_of_wayDown {source : Text} {t : Tree} (hway : wayDown t = [t])
    (h : hasRoom source t = true) : (t.expressionText source).length ≤ t.span.extent source := by
  unfold expressionText
  split
  case h_1 | h_2 | h_3 => exact of_decide_eq_true h
  case h_14 => exact Nat.le_refl _
  -- From everything else the way goes on.
  all_goals exact absurd (List.cons.inj hway).2 (wayDown_ne_nil _)

theorem wayDown_induction (source : Text) {motive : Tree → Prop}
    (ends : ∀ t, Ends source t → motive t)
    (goesOn : ∀ t e behind, GoesOn source t e behind → motive e → motive t)
    (stopsShort : ∀ t e, StopsShort source t e → motive e → motive t) (t : Tree) : motive t := by
  fun_induction wayDown t with
  | case1 s e ih => exact goesOn _ e [] (.around rfl rfl rfl rfl rfl) ih
  | case2 s e ih => exact goesOn _ e [] (.around rfl rfl rfl rfl rfl) ih
  | case3 s e rest ih => exact goesOn _ e [] (.around rfl rfl rfl rfl rfl) ih
  | case4 s e rest ih => exact goesOn _ e [] (.around rfl rfl rfl rfl rfl) ih
  | case5 s t e ih => exact stopsShort _ e (.of_room rfl rfl rfl rfl rfl) ih
  | case6 s e rest ih => exact stopsShort _ e (.of_room rfl rfl rfl rfl rfl) ih
  | case7 s o n sn parts ih => exact goesOn _ o ('.' :: n) (.kept rfl rfl rfl rfl rfl rfl rfl) ih
  | case8 s o i ih =>
    have hlength : ('[' :: i.span.textIn source ++ [']']).length = i.span.extent source + 2 := by
      simp [Span.extent]
    refine goesOn _ o ('[' :: i.span.textIn source ++ [']']) (.kept ?_ ?_ rfl rfl rfl rfl ?_) ih
    · exact List.append_assoc _ _ _
    · exact List.append_assoc _ _ _
    · rw [hlength]
      rfl
  | case9 s o n sn parts ih =>
    exact goesOn _ o ('.' :: '#' :: n) (.kept rfl rfl rfl rfl rfl rfl rfl) ih
  | case10 s f rest ih =>
    exact goesOn _ f []
      (.kept (List.append_nil _).symm (List.append_nil _).symm rfl rfl rfl rfl rfl) ih
  | case11 op s e ih =>
    exact goesOn _ e []
      (.kept (List.append_nil _).symm (List.append_nil _).symm rfl rfl rfl rfl rfl) ih
  | case12 s e ih =>
    exact goesOn _ e []
      (.kept (List.append_nil _).symm (List.append_nil _).symm rfl rfl rfl rfl rfl) ih
  | case13 t hparen hmark has hsatisfies hassert hinst hstatic hcomputed hprivate hcall hunary
      hchain =>
    have hway : wayDown t = [t] := wayDown.eq_13 t hparen hmark has hsatisfies hassert hinst hstatic
      hcomputed hprivate hcall hunary hchain
    apply ends
    refine ⟨?_, hway, ?_, ?_, length_text_le_of_wayDown hway⟩
    · exact erased.eq_13 t hparen hmark has hsatisfies hassert hinst hstatic hcomputed hprivate
        hcall hunary hchain
    · exact assertsBefore.eq_3 t hassert hinst
    · exact inner.eq_7 t hparen has hsatisfies hinst hmark hassert

/-! ## Texts -/

section

variable {source : Text} {t : Tree}

theorem inner_of_mem_wayDown_erased (t : Tree) : ∀ x ∈ wayDown (erased t), inner x = x := by
  -- What happens to texts does not matter here, so that any source does.
  induction t using wayDown_induction [] with
  | ends t h =>
    rw [h.erased_eq, h.way]
    simpa using h.bare
  | goesOn t e behind h ih => exact h.bare ih
  | stopsShort t e h ih => rwa [h.erased_eq]

/-- The text of an expression is not longer than what is written for it. -/
theorem length_text_le (h : hasRoom source t = true) :
    (t.expressionText source).length ≤ t.span.extent source := by
  induction t using wayDown_induction source with
  | ends t hends => exact hends.room h
  | goesOn t e behind hgoes ih =>
    obtain ⟨hroom, hextent⟩ := hgoes.room h
    have hle := ih hroom
    rw [hgoes.text, List.length_append]
    omega
  | stopsShort t e hstops _ =>
    rw [hstops.text]
    exact Nat.le_refl _

theorem length_text_erased_le (h : hasRoom source t = true) :
    ((erased t).expressionText source).length ≤ t.span.extent source := by
  induction t using wayDown_induction source with
  | ends t hends =>
    rw [hends.erased_eq]
    exact hends.room h
  | goesOn t e behind hgoes ih =>
    obtain ⟨hroom, hextent⟩ := hgoes.room h
    have hle := ih hroom
    rw [hgoes.erased_text, List.length_append]
    omega
  | stopsShort t e hstops ih =>
    obtain ⟨hroom, hextent⟩ := hstops.room h
    have hle := ih hroom
    rw [hstops.erased_eq]
    omega

/-- With nothing on the way that is not looked through, erasing makes no difference. -/
theorem text_erased_eq (h : ∀ x ∈ wayDown t, assertsBefore x = false) :
    (erased t).expressionText source = t.expressionText source := by
  induction t using wayDown_induction source with
  | ends t hends => rw [hends.erased_eq]
  | goesOn t e behind hgoes ih =>
    rw [hgoes.way, List.forall_mem_cons] at h
    rw [hgoes.text, hgoes.erased_text, ih h.2]
  | stopsShort t e hstops _ =>
    rw [hstops.way, List.forall_mem_cons, hstops.unseen] at h
    cases h.1

/-- Otherwise the text is longer than without: types stand in it. -/
theorem length_text_erased_lt (hroom : hasRoom source t = true)
    (h : ∃ x ∈ wayDown t, assertsBefore x = true) :
    ((erased t).expressionText source).length < (t.expressionText source).length := by
  obtain ⟨x, hx, hasserts⟩ := h
  induction t using wayDown_induction source with
  | ends t hends =>
    rw [hends.way, List.mem_singleton] at hx
    rw [hx, hends.seen] at hasserts
    cases hasserts
  | goesOn t e behind hgoes ih =>
    have hrest : x ∈ wayDown e := by
      rw [hgoes.way, List.mem_cons] at hx
      apply hx.resolve_left
      intro heq
      rw [heq, hgoes.seen] at hasserts
      cases hasserts
    have hlt := ih (hgoes.room hroom).1 hrest
    rw [hgoes.text, hgoes.erased_text, List.length_append, List.length_append]
    omega
  | stopsShort t e hstops _ =>
    obtain ⟨hroom', hextent⟩ := hstops.room hroom
    rw [hstops.erased_eq, hstops.text]
    exact Nat.lt_of_le_of_lt (length_text_erased_le hroom') hextent

end

/-- The erased expression has neither parentheses nor type-only syntax on its way. If no assertion
before an expression and no instantiation is on the way of an expression, it has the text of the
erased one; and where the source has room for it, only then. -/
theorem text_of_erased_iff (source : Text) (t : Tree) :
    (∀ x ∈ wayDown (erased t), inner x = x) ∧
      ((∀ x ∈ wayDown t, assertsBefore x = false) →
        t.expressionText source = (erased t).expressionText source) ∧
      (hasRoom source t = true → (t.expressionText source = (erased t).expressionText source ↔
        ∀ x ∈ wayDown t, assertsBefore x = false)) := by
  refine ⟨inner_of_mem_wayDown_erased t, fun h => (text_erased_eq h).symm, ?_⟩
  intro hroom
  refine ⟨?_, ?_⟩
  · intro heq x hx
    rw [← Bool.not_eq_true]
    intro hasserts
    have hlt := length_text_erased_lt hroom ⟨x, hx, hasserts⟩
    rw [heq] at hlt
    exact Nat.lt_irrefl _ hlt
  · intro h
    exact (text_erased_eq h).symm

/-- A member of a chain of wrapped objects, one of them called. -/
def wrappedObjects : Text := "((a as b)!.c?.(1) satisfies d)[e!].#f=1;".toList

theorem text_of_erased_wrappedObjects :
    ∃ s e, IsTargetIn wrappedObjects s e ∧ hasRoom wrappedObjects e = true ∧
      (∀ x ∈ wayDown e, assertsBefore x = false) ∧ (wayDown e).length = 11 ∧
        (wayDown (erased e)).length = 6 ∧
      (erased e).expressionText wrappedObjects = e.expressionText wrappedObjects ∧
      e.expressionText wrappedObjects = "a.c[e!].#f".toList := by
  have hread : hasTarget wrappedObjects (fun _ e => decide (hasRoom wrappedObjects e = true ∧
      (∀ x ∈ wayDown e, assertsBefore x = false) ∧ (wayDown e).length = 11 ∧
        (wayDown (erased e)).length = 6 ∧
      e.expressionText wrappedObjects = "a.c[e!].#f".toList)) = true := by
    decide +kernel
  obtain ⟨s, e, he, hseen⟩ := exists_isTargetIn hread
  obtain ⟨hroom, hway, hlong, hshort, htext⟩ := of_decide_eq_true hseen
  have herased := ((text_of_erased_iff wrappedObjects e).2.2 hroom).mpr hway
  exact ⟨s, e, he, hroom, hway, hlong, hshort, herased.symm, htext⟩

/-- An assignment to a member of an object under an assertion before it. -/
def assertedObject : Text := "(<any>a).b=1;".toList

/-- The same with an instantiation. -/
def instantiatedObject : Text := "(f<c>).b=1;".toList

/-- The types stand in the texts of both, and not in those of the erased targets. -/
theorem types_stand_in_text :
    (∃ s e, IsTargetIn assertedObject s e ∧ e.expressionText assertedObject = "<any>a.b".toList ∧
      (erased e).expressionText assertedObject = "a.b".toList) ∧
    ∃ s e, IsTargetIn instantiatedObject s e ∧
      e.expressionText instantiatedObject = "f<c>.b".toList ∧
      (erased e).expressionText instantiatedObject = "f.b".toList := by
  have hasserted :
      hasTarget assertedObject (fun _ e =>
        decide (e.expressionText assertedObject = "<any>a.b".toList ∧
      (erased e).expressionText assertedObject = "a.b".toList)) = true := by
    decide +kernel
  have hinstantiated : hasTarget instantiatedObject (fun _ e => decide (
      e.expressionText instantiatedObject = "f<c>.b".toList ∧
      (erased e).expressionText instantiatedObject = "f.b".toList)) = true := by
    decide +kernel
  obtain ⟨s, e, he, hseen⟩ := exists_isTargetIn hasserted
  obtain ⟨s', e', he', hseen'⟩ := exists_isTargetIn hinstantiated
  exact ⟨⟨s, e, he, of_decide_eq_true hseen⟩, s', e', he', of_decide_eq_true hseen'⟩

end Tree

end PureLint
