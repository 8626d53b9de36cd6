import PureLint.Accessor
import PureLint.Proofs.TextPieces
import PureLint.SourceFile
import PureLint.Tree.Inspect
import PureLint.Tree.Site

/-!
# Access paths

An access path is an expression such as `a.b[i].#c` or `this.f().g`: members accessed by name or by
index, and calls, down to a name or `this`. `Tree.accesses` lists its accesses with their objects,
the last access first. The text of a path is the text of its object with the key behind it, so that
what is said about texts of paths is proved by induction on the accesses (`AccessPath.induction`).

Patterns see such a text cut at its points. A member accessed by name makes one more segment. One
accessed by index is meant to make none, but its index is written as it stands in the source, and
every point in it cuts (`count_point_text`, `one_segment_for_each_name_iff`).
-/

namespace PureLint

/-- Whether a text can be the name of something. -/
def IsIdentifier (t : Text) : Prop := t ≠ [] ∧ ∀ c ∈ t, Unicode.isIdPart c = true

instance (t : Text) : Decidable (IsIdentifier t) :=
  decidable_of_iff (t ≠ [] ∧ t.all Unicode.isIdPart = true) (by rw [List.all_eq_true, IsIdentifier])

namespace Tree

/-- Members accessed by name or by index, and calls, from a name or `this` on. Optional accesses are
in a chain. -/
inductive AccessPath : Tree → Prop
  | name {n : Text} {s : Span} {parts : List Tree} (hn : IsIdentifier n) :
    AccessPath (.node (.identifierReference n) s parts)
  | this {s : Span} {parts : List Tree} : AccessPath (.node .thisExpression s parts)
  | member {o : Tree} {n : Text} {s sn : Span} {parts : List Tree} (ho : AccessPath o)
    (hn : IsIdentifier n) :
    AccessPath (.node .staticMember s [o, .node (.identifierName n) sn parts])
  | privateMember {o : Tree} {n : Text} {s sn : Span} {parts : List Tree} (ho : AccessPath o)
    (hn : IsIdentifier n) :
    AccessPath (.node .privateMember s [o, .node (.privateIdentifier n) sn parts])
  | index {o i : Tree} {s : Span} (ho : AccessPath o) : AccessPath (.node .computedMember s [o, i])
  | call {f : Tree} {s : Span} {rest : List Tree}
    (hf : AccessPath f) : AccessPath (.node .callExpression s (f :: rest))
  | chain {e : Tree} {s : Span} (he : AccessPath e) : AccessPath (.node .chainExpression s [e])

/-- Finds out whether an expression is an access path. -/
def isAccessPath : Tree → Bool
  | .node (.identifierReference n) _ _ => decide (IsIdentifier n)
  | .node .thisExpression _ _ => true
  | .node .staticMember _ [o, .node (.identifierName n) _ _] =>
    isAccessPath o && decide (IsIdentifier n)
  | .node .privateMember _ [o, .node (.privateIdentifier n) _ _] =>
    isAccessPath o && decide (IsIdentifier n)
  | .node .computedMember _ [o, _] => isAccessPath o
  | .node .callExpression _ (f :: _) => isAccessPath f
  | .node .chainExpression _ [e] => isAccessPath e
  | _ => false

theorem isAccessPath_iff {e : Tree} : isAccessPath e = true ↔ AccessPath e := by
  refine ⟨?_, ?_⟩
  · intro h
    fun_induction isAccessPath e with
    | case1 n s parts => exact .name (of_decide_eq_true h)
    | case2 s parts => exact .this
    | case3 s o n sn parts ih =>
      rw [Bool.and_eq_true, decide_eq_true_eq] at h
      exact .member (ih h.1) h.2
    | case4 s o n sn parts ih =>
      rw [Bool.and_eq_true, decide_eq_true_eq] at h
      exact .privateMember (ih h.1) h.2
    | case5 s o i ih => exact .index (ih h)
    | case6 s f rest ih => exact .call (ih h)
    | case7 s e ih => exact .chain (ih h)
    | case8 => cases h
  · intro h
    induction h with
    | name hn => exact decide_eq_true hn
    | this => rfl
    | member _ hn ih => rw [isAccessPath, ih, decide_eq_true hn]; rfl
    | privateMember _ hn ih => rw [isAccessPath, ih, decide_eq_true hn]; rfl
    | index _ ih => exact ih
    | call _ ih => exact ih
    | chain _ ih => exact ih

instance (e : Tree) : Decidable (AccessPath e) := decidable_of_iff _ isAccessPath_iff

/-! ## Accesses -/

/-- What is accessed in an object: a member by its name, where that of a private one begins with
`#`, or by an index. -/
inductive Key where
  | named (t : Text)
  | indexed (i : Tree)

/-- An object and what is accessed in it. -/
structure Access where
  object : Tree
  key : Key

/-- The accesses of an expression, the last one first. -/
def accesses : Tree → List Access
  | .node .staticMember _ [o, .node (.identifierName n) _ _] => ⟨o, .named n⟩ :: accesses o
  | .node .privateMember _ [o, .node (.privateIdentifier n) _ _] =>
    ⟨o, .named ('#' :: n)⟩ :: accesses o
  | .node .computedMember _ [o, i] => ⟨o, .indexed i⟩ :: accesses o
  | .node .callExpression _ (f :: _) => accesses f
  | .node .chainExpression _ [e] => accesses e
  | _ => []

namespace Key

/-- What a key adds to the text of the object. -/
def text (source : Text) : Key → Text
  | named t => '.' :: t
  | indexed i => '[' :: i.span.textIn source ++ [']']

/-- Whether the key is a name. -/
def isNamed : Key → Bool
  | named _ => true
  | indexed _ => false

/-- The index that the key is. -/
def index? : Key → Option Tree
  | named _ => none
  | indexed i => some i

end Key

/-- The objects of an expression: that of its last access first. -/
def objects (e : Tree) : List Tree := (accesses e).map (·.object)

/-- The indexes by which an expression accesses members. -/
def indexes (e : Tree) : List Tree := (accesses e).filterMap (·.key.index?)

/-- Whether a key is a name, or an index of which something holds. -/
def Key.Satisfies (P : Tree → Prop) : Key → Prop
  | named _ => True
  | indexed i => P i

theorem forall_mem_indexes {P : Tree → Prop} {e : Tree} :
    (∀ i ∈ indexes e, P i) ↔ ∀ a ∈ accesses e, a.key.Satisfies P := by
  have hkey : ∀ k : Key, k.Satisfies P ↔ ∀ i, k.index? = some i → P i := by
    intro k
    cases k <;> simp [Key.Satisfies, Key.index?]
  simp only [indexes, List.mem_filterMap, hkey]
  exact ⟨fun h a ha i hi => h i ⟨a, ha, hi⟩, fun h i ⟨a, ha, hi⟩ => h a ha i hi⟩

/-- The number of members that an expression accesses by name. -/
def namedMembers (e : Tree) : Nat := (accesses e).countP (·.key.isNamed)

/-- A text that has no bracket in it and is not empty. -/
structure HasNoBracket (t : Text) : Prop where
  ne_nil : t ≠ []
  no_opening : '[' ∉ t
  no_closing : ']' ∉ t

/-- A text that has no point in it either. -/
structure IsPlain (t : Text) : Prop extends HasNoBracket t where
  no_point : '.' ∉ t

/-- A name that is plain, or any index. -/
def Key.IsPlain : Key → Prop
  | named t => Tree.IsPlain t
  | indexed _ => True

theorem isPlain_of_isIdentifier {t : Text} (h : IsIdentifier t) : IsPlain t := by
  have hnot : ∀ c, Unicode.isIdPart c = false → c ∉ t := by
    intro c hc hmem
    have hpart := h.2 c hmem
    rw [hc] at hpart
    cases hpart
  exact ⟨⟨h.1, hnot '[' (by decide), hnot ']' (by decide)⟩, hnot '.' (by decide)⟩

theorem IsPlain.private {t : Text} (h : IsPlain t) : IsPlain ('#' :: t) where
  ne_nil := List.cons_ne_nil _ _
  no_opening := by simp [h.no_opening]
  no_closing := by simp [h.no_closing]
  no_point := by simp [h.no_point]

/-- A path is a plain text that accesses nothing, or adds a key to the text of an object that is a
path. -/
theorem AccessPath.induction {source : Text} {motive : List Access → Text → Prop}
    (root : ∀ t, IsPlain t → motive [] t)
    (access : ∀ o k, AccessPath o → Key.IsPlain k → motive (accesses o) (o.expressionText source) →
      motive (⟨o, k⟩ :: accesses o) (o.expressionText source ++ k.text source))
    {e : Tree} (h : AccessPath e) : motive (accesses e) (e.expressionText source) := by
  induction h with
  | name hn => exact root _ (isPlain_of_isIdentifier hn)
  | this => exact root "this".toList ⟨⟨by decide, by decide, by decide⟩, by decide⟩
  | member ho hn ih => exact access _ (.named _) ho (isPlain_of_isIdentifier hn) ih
  | privateMember ho hn ih => exact access _ (.named _) ho (isPlain_of_isIdentifier hn).private ih
  | @index o i s ho ih =>
    have htext : expressionText source (.node .computedMember s [o, i]) =
        o.expressionText source ++ Key.text source (.indexed i) := List.append_assoc _ _ _
    rw [htext]
    exact access o (.indexed i) ho trivial ih
  | call _ ih => exact ih
  | chain _ ih => exact ih

/-! ## Segments -/

/-- The indexes of an expression as they are written, one behind the other. -/
def indexText (source : Text) (e : Tree) : Text := (indexes e).flatMap fun i => i.span.textIn source

theorem count_point_text (source : Text) {e : Tree} (h : AccessPath e) :
    (e.expressionText source).count '.' = namedMembers e + (indexText source e).count '.' := by
  unfold namedMembers indexText indexes
  refine h.induction (motive := fun as t => t.count '.' = as.countP (·.key.isNamed) +
    ((as.filterMap (·.key.index?)).flatMap fun i => i.span.textIn source).count '.') ?_ ?_
  · intro t ht
    rw [List.count_eq_zero_of_not_mem ht.no_point]
    rfl
  · intro o k _ hk ih
    rw [List.count_append, ih]
    cases k with
    | named t =>
      have hname : (Key.text source (.named t)).count '.' = 1 := by
        rw [Key.text, List.count_cons_self, List.count_eq_zero_of_not_mem hk.no_point]
      rw [hname, List.countP_cons_of_pos rfl, List.filterMap_cons_none rfl]
      omega
    | indexed i =>
      have hindex : (Key.text source (.indexed i)).count '.' =
          (i.span.textIn source).count '.' := by
        simp [Key.text]
      have hcons : (⟨o, .indexed i⟩ :: accesses o).filterMap (·.key.index?) =
          i :: (accesses o).filterMap (·.key.index?) := rfl
      rw [hindex, hcons, List.countP_cons_of_neg (by simp [Key.isNamed]), List.flatMap_cons,
        List.count_append]
      omega

/-- A path is cut into one segment for its root, one for each member accessed by name, and one for
each point in an index. So there is one for the root and each name exactly if no index has a point
in it. -/
theorem one_segment_for_each_name_iff (source : Text) (e : Tree) (h : AccessPath e) :
    (Text.splitOn '.' (e.expressionText source)).length =
      1 + namedMembers e + (indexText source e).count '.' ∧
      ((Text.splitOn '.' (e.expressionText source)).length = 1 + namedMembers e ↔
        ∀ i ∈ indexes e, '.' ∉ i.span.textIn source) := by
  have hlength : (Text.splitOn '.' (e.expressionText source)).length =
      1 + namedMembers e + (indexText source e).count '.' := by
    rw [Text.length_splitOn, count_point_text source h]
    omega
  refine ⟨hlength, ?_⟩
  rw [hlength, Nat.add_eq_left, List.count_eq_zero, indexText, List.mem_flatMap]
  simp only [not_exists, not_and]

/-- `e` is what is assigned to, or counted up or down, at a site of a program with types. -/
def IsTargetIn (source : Text) (s : Site) (e : Tree) : Prop :=
  ∃ file,
    SourceFile.parse? source (some "p.ts".toList) = some file ∧ s ∈ file.tree.sites ∧
      s.tree.target? = some e

/-- Whether a program has such a site that passes a test. -/
def hasTarget (source : Text) (p : Site → Tree → Bool) : Bool :=
  (SourceFile.parse? source (some "p.ts".toList)).any fun file =>
    file.tree.sites.any fun s => s.tree.target?.any (p s)

theorem exists_isTargetIn {source : Text} {p : Site → Tree → Bool} (h : hasTarget source p = true) :
    ∃ s e, IsTargetIn source s e ∧ p s e = true := by
  simp only [hasTarget, Option.any_eq_true, List.any_eq_true] at h
  obtain ⟨file, hfile, s, hs, e, he, hp⟩ := h
  exact ⟨s, e, ⟨file, hfile, hs, he⟩, hp⟩

/-- A path with a private member behind an index. -/
def indexedPath : Text := "this.a[b].#c=1;".toList

theorem one_segment_for_each_name_indexedPath :
    ∃ s e, IsTargetIn indexedPath s e ∧ AccessPath e ∧
      e.expressionText indexedPath = "this.a[b].#c".toList ∧
      (Text.splitOn '.' (e.expressionText indexedPath)).length = 3 := by
  have hread : hasTarget indexedPath (fun _ e => decide (AccessPath e ∧
      e.expressionText indexedPath = "this.a[b].#c".toList ∧ namedMembers e = 2 ∧
      ∀ i ∈ indexes e, '.' ∉ i.span.textIn indexedPath)) = true := by
    decide +kernel
  obtain ⟨s, e, he, hseen⟩ := exists_isTargetIn hread
  obtain ⟨hpath, htext, hnamed, hindexes⟩ := of_decide_eq_true hseen
  have hlength := (one_segment_for_each_name_iff indexedPath e hpath).2.mpr hindexes
  rw [hnamed] at hlength
  exact ⟨s, e, he, hpath, htext, hlength⟩

/-- A path whose index accesses a member. -/
def memberAsIndex : Text := "a[b.c]=1;".toList

/-- The index is cut, and a pattern for one segment does not match the path. -/
theorem index_is_cut :
    ∃ s e, IsTargetIn memberAsIndex s e ∧ AccessPath e ∧ namedMembers e = 0 ∧
      Text.splitOn '.' (e.expressionText memberAsIndex) = ["a[b".toList, "c]".toList] ∧
      ∃ p, AccessorPattern.parse ['*'] = .ok p ∧
        p.isMatch (e.expressionText memberAsIndex) = false := by
  have hread : hasTarget memberAsIndex (fun _ e => decide (AccessPath e ∧ namedMembers e = 0 ∧
      Text.splitOn '.' (e.expressionText memberAsIndex) = ["a[b".toList, "c]".toList])) = true := by
    decide +kernel
  obtain ⟨s, e, he, hseen⟩ := exists_isTargetIn hread
  obtain ⟨hpath, hnamed, hsegments⟩ := of_decide_eq_true hseen
  refine ⟨s, e, he, hpath, hnamed, hsegments, ⟨['*'], [.one]⟩, rfl, ?_⟩
  rw [AccessorPattern.isMatch, hsegments]
  rfl

end Tree

end PureLint
