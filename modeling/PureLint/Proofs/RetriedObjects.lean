import Mathlib.Logic.Basic
import PureLint.Ignore
import PureLint.Proofs.AccessPath

/-!
# Objects on the way to a path

Beginnings and endings are tried on the text of an access, and then on the objects on the way to it.
The objects are found in the text: `objectPath?` cuts it at its last point, or at its last opening
bracket if it ends with a closing one, and `retried` lists what comes of doing so again and again.
The first cut is right for a member accessed by name. The second is right for one accessed by index
as long as the index has no opening bracket; otherwise the text is cut inside the index, and what is
tried there is no object.

So the decision about a path, and about every object on its way, is the one that its objects call
for exactly if no index has an opening bracket in it (`affix_follows_objects_iff`).
-/

namespace PureLint.Ignore

open PureLint.Tree

/-! ## The texts that are tried -/

/-- The objects that are tried after a text, looking at most `n` times. -/
def retriedFrom : Nat → Text → List Text
  | 0, _ => []
  | n + 1, t =>
    match objectPath? t with
    | some object => object :: retriedFrom n object
    | none => []

/-- The objects that are tried after a text. -/
def retried (t : Text) : List Text := retriedFrom t.length t

theorem objectMatches_eq_any (o : IgnoreOptions) (n : Nat) (t : Text) :
    objectMatches o n t = (retriedFrom n t).any o.matchesAffix := by
  induction n generalizing t with
  | zero => rfl
  | succ n ih =>
    rw [objectMatches, retriedFrom]
    cases objectPath? t with
    | none => rfl
    | some object => simp [ih]

theorem exists_mark_of_objectPath? {t object : Text} (h : objectPath? t = some object) :
    ∃ mark behind, (mark = '.' ∨ mark = '[') ∧ t = object ++ mark :: behind := by
  obtain ⟨mark, hmark, hcut⟩ : ∃ mark,
      (mark = '.' ∨ mark = '[') ∧ Text.beforeLast? mark t = some object := by
    unfold objectPath? at h
    split at h
    · exact ⟨'[', .inr rfl, (Option.filter_eq_some_iff.mp h).1⟩
    · exact ⟨'.', .inl rfl, h⟩
  obtain ⟨behind, htext, _⟩ := Text.beforeLast?_eq_some_iff.mp hcut
  exact ⟨mark, behind, hmark, htext⟩

theorem length_objectPath?_lt {t object : Text} (h : objectPath? t = some object) :
    object.length < t.length := by
  obtain ⟨mark, behind, _, rfl⟩ := exists_mark_of_objectPath? h
  simp

/-- Looking more often than a text has characters finds no more. -/
theorem retriedFrom_eq_of_le {n m : Nat} {t : Text} (hn : t.length ≤ n) (hm : t.length ≤ m) :
    retriedFrom n t = retriedFrom m t := by
  induction n generalizing m t with
  | zero =>
    obtain rfl : t = [] := List.eq_nil_of_length_eq_zero (by omega)
    cases m <;> rfl
  | succ n ih =>
    cases m with
    | zero =>
      obtain rfl : t = [] := List.eq_nil_of_length_eq_zero (by omega)
      rfl
    | succ m =>
      rw [retriedFrom, retriedFrom]
      cases hobject : objectPath? t with
      | none => rfl
      | some object =>
        have hlt := length_objectPath?_lt hobject
        show object :: retriedFrom n object = object :: retriedFrom m object
        rw [ih (m := m) (by omega) (by omega)]

theorem retried_of_some {t object : Text} (h : objectPath? t = some object) :
    retried t = object :: retried object := by
  have hlt := length_objectPath?_lt h
  obtain ⟨n, hn⟩ : ∃ n, t.length = n + 1 := ⟨t.length - 1, by omega⟩
  rw [retried, hn, retriedFrom, h]
  show object :: retriedFrom n object = object :: retriedFrom object.length object
  rw [retriedFrom_eq_of_le (n := n) (by omega) (Nat.le_refl _)]

theorem retried_of_none {t : Text} (h : objectPath? t = none) : retried t = [] := by
  rw [retried]
  cases t.length with
  | zero => rfl
  | succ n => rw [retriedFrom, h]

theorem ignoredByAffix_eq (o : IgnoreOptions) (label : Label) (t : Text) :
    ignoredByAffix o label t =
      (o.matchesAffix t || (isAccess label && (retried t).any o.matchesAffix)) := by
  rw [ignoredByAffix, objectMatches_eq_any, retried]

theorem ignoredByAffix_iff {o : IgnoreOptions} {label : Label} (hlabel : isAccess label = true)
    {t : Text} :
    ignoredByAffix o label t = true ↔ ∃ p ∈ t :: retried t, o.matchesAffix p = true := by
  rw [ignoredByAffix_eq, hlabel, ← List.any_eq_true, List.any_cons, Bool.true_and]

/-! ## Where a path is cut -/

theorem endsWith_closing_iff {t : Text} : t.endsWith [']'] = true ↔ t.getLast? = some ']' := by
  rw [Text.endsWith, List.isSuffixOf_iff_suffix, List.singleton_suffix_iff_getLast?_eq_some]

theorem objectPath?_of_isPlain {t : Text} (h : IsPlain t) : objectPath? t = none := by
  have hend : ¬ t.endsWith [']'] = true := by
    intro hend
    exact h.no_closing (List.mem_of_getLast? (endsWith_closing_iff.mp hend))
  rw [objectPath?, if_neg hend]
  exact Text.beforeLast?_of_not_mem h.no_point

theorem objectPath?_named (object : Text) {t : Text} (h : IsPlain t) :
    objectPath? (object ++ '.' :: t) = some object := by
  have hend : ¬ (object ++ '.' :: t).endsWith [']'] = true := by
    rw [endsWith_closing_iff, List.getLast?_append, List.getLast?_cons_of_ne_nil h.ne_nil]
    intro hend
    obtain ⟨c, hc⟩ := Option.isSome_iff_exists.mp (List.getLast?_isSome.mpr h.ne_nil)
    rw [hc] at hend
    obtain rfl : c = ']' := Option.some.inj hend
    exact h.no_closing (List.mem_of_getLast? hc)
  rw [objectPath?, if_neg hend]
  exact Text.beforeLast?_append_cons object h.no_point

/-- A text that ends with a bracket is cut at the last opening one, whatever stands before it. -/
theorem objectPath?_bracket {before : Text} (hbefore : before ≠ []) {behind : Text}
    (h : '[' ∉ behind) : objectPath? (before ++ ('[' :: behind ++ [']'])) = some before := by
  have hend : (before ++ ('[' :: behind ++ [']'])).endsWith [']'] = true := by
    rw [Text.endsWith, List.isSuffixOf_iff_suffix]
    exact ⟨before ++ '[' :: behind, List.append_assoc _ _ _⟩
  have hlast : '[' ∉ behind ++ [']'] := by simp [h]
  rw [objectPath?, if_pos hend, List.cons_append, Text.beforeLast?_append_cons before hlast]
  simp [hbefore]

theorem text_ne_nil {source : Text} {e : Tree} (h : AccessPath e) :
    e.expressionText source ≠ [] := by
  refine h.induction (motive := fun _ t => t ≠ []) ?_ ?_
  · intro t ht
    exact ht.ne_nil
  · intro o k _ _ ho
    exact List.append_ne_nil_of_left_ne_nil ho _

/-! ## What the decision is to follow -/

/-- Whether the decision about an expression by beginnings and endings is that about it and its
objects, for all options. -/
def FollowsObjects (source : Text) (label : Label) (e : Tree) : Prop :=
  ∀ options : IgnoreOptions, ignoredByAffix options label (e.expressionText source) = true ↔
    ∃ x ∈ e :: objects e, options.matchesAffix (x.expressionText source) = true

/-- The same, said of accesses and a text. -/
def Follows (source : Text) (label : Label) (as : List Access) (t : Text) : Prop :=
  ∀ options : IgnoreOptions, ignoredByAffix options label t = true ↔
    ∃ p ∈ t :: as.map (fun a => a.object.expressionText source), options.matchesAffix p = true

theorem followsObjects_iff {source : Text} {label : Label} {e : Tree} :
    FollowsObjects source label e ↔
      Follows source label (accesses e) (e.expressionText source) := by
  have htexts : (accesses e).map (fun a => a.object.expressionText source) =
      (objects e).map (Tree.expressionText source) := by
    rw [objects, List.map_map]
    rfl
  simp only [FollowsObjects, Follows, htexts, ← List.map_cons, List.mem_map,
    exists_exists_and_eq_and]

theorem follows_of_retried {source : Text} {label : Label} (hlabel : isAccess label = true)
    {as : List Access} {t : Text}
    (h : retried t = as.map fun a => a.object.expressionText source) :
    Follows source label as t := by
  intro options
  rw [← h]
  exact ignoredByAffix_iff hlabel

/-! ## Where no index has an opening bracket -/

section

variable {source : Text}

/-- Whether an index has no opening bracket in it. -/
def HasNoOpening (source : Text) (i : Tree) : Prop := '[' ∉ i.span.textIn source

/-- The object of an access is tried first, then what is tried after the object. -/
theorem retried_access {o : Tree} {k : Key} (ho : AccessPath o) (hk : k.IsPlain)
    (hkey : k.Satisfies (HasNoOpening source)) :
    retried (o.expressionText source ++ k.text source) =
      o.expressionText source :: retried (o.expressionText source) := by
  apply retried_of_some
  cases k with
  | named t => exact objectPath?_named _ hk
  | indexed i => exact objectPath?_bracket (text_ne_nil ho) hkey

theorem retried_eq_objects {e : Tree} (h : AccessPath e)
    (hkeys : ∀ a ∈ accesses e, a.key.Satisfies (HasNoOpening source)) :
    retried (e.expressionText source) = (accesses e).map fun a =>
      a.object.expressionText source := by
  revert hkeys
  refine h.induction (motive := fun as t => (∀ a ∈ as, a.key.Satisfies (HasNoOpening source)) →
    retried t = as.map fun a => a.object.expressionText source) ?_ ?_
  · intro t ht _
    exact retried_of_none (objectPath?_of_isPlain ht)
  · intro o k ho hk ih hkeys
    obtain ⟨hkey, hrest⟩ := List.forall_mem_cons.mp hkeys
    rw [retried_access ho hk hkey, ih hrest, List.map_cons]

end

/-! ## Where an index has one -/

theorem mem_closing_of_suffix {t inside : Text} (hne : t ≠ []) (ht : '[' ∉ t)
    (h : t <:+ t ++ ('[' :: inside ++ [']'])) : ']' ∈ t := by
  rcases List.suffix_or_suffix_of_suffix h (List.suffix_append _ _) with hshort | hlong
  · rcases List.suffix_concat_iff.mp hshort with rfl | ⟨init, rfl, _⟩
    · exact absurd rfl hne
    · simp
  · exact absurd (hlong.subset (by simp)) ht

theorem first_opening_cases {front inside first rest : Text} (hfirst : '[' ∉ first)
    (h : front ++ '[' :: inside = first ++ '[' :: rest) :
    front = first ∨ ∃ more, front = first ++ '[' :: more ∧ rest = more ++ '[' :: inside := by
  rcases List.append_eq_append_iff.mp h with ⟨part, hpart, hrest⟩ | ⟨part, hpart, hrest⟩
  · cases part with
    | nil => exact .inl (by simpa using hpart.symm)
    | cons c cs =>
      obtain rfl : '[' = c := (List.cons.inj hrest).1
      exact absurd (by simp [hpart]) hfirst
  · cases part with
    | nil => exact .inl (by simpa using hpart)
    | cons c cs =>
      obtain ⟨rfl, hcs⟩ := List.cons.inj hrest
      exact .inr ⟨cs, hpart, hcs⟩

/-- A text that does not begin with a bracket is no ending of itself with a bracketed part behind
it. It would be a row of such parts, each as long as the one behind it, and the first of them would
end with a closing bracket. -/
theorem not_suffix_append_bracketed {first rest inside : Text} (hfirst : HasNoBracket first)
    (hinside : '[' ∉ inside) :
    ¬ (first ++ '[' :: rest) <:+ (first ++ '[' :: rest) ++ ('[' :: inside ++ [']']) := by
  -- The induction takes one bracketed part off the end of the text.
  induction hlength : rest.length using Nat.strongRecOn generalizing rest with
  | ind n ih =>
    intro h
    rcases List.suffix_or_suffix_of_suffix h (List.suffix_append _ _) with hshort | ⟨front, hfront⟩
    · rcases List.suffix_cons_iff.mp hshort with hsame | hshort
      · obtain ⟨c, cs, rfl⟩ := List.exists_cons_of_ne_nil hfirst.ne_nil
        obtain rfl : c = '[' := (List.cons.inj hsame).1
        exact hfirst.no_opening List.mem_cons_self
      · have hmem : '[' ∈ inside ++ [']'] := hshort.subset (by simp)
        simp [hinside] at hmem
    · have hsuffix : front <:+ front ++ ('[' :: inside ++ [']']) := by
        rw [← hfront] at h
        obtain ⟨shift, hshift⟩ := h
        rw [← List.append_assoc] at hshift
        exact ⟨shift, List.append_cancel_right hshift⟩
      rcases first_opening_cases hfirst.no_opening hfront with rfl | ⟨more, rfl, hrest⟩
      · exact hfirst.no_closing (mem_closing_of_suffix hfirst.ne_nil hfirst.no_opening hsuffix)
      · refine ih more.length ?_ rfl hsuffix
        rw [← hlength, hrest]
        simp

theorem exists_first_opening (source : Text) {e : Tree} (h : AccessPath e) :
    ∃ first rest, e.expressionText source = first ++ rest ∧ HasNoBracket first ∧
      (rest = [] ∨ ∃ more, rest = '[' :: more) := by
  refine h.induction (motive := fun _ t => ∃ first rest, t = first ++ rest ∧ HasNoBracket first ∧
    (rest = [] ∨ ∃ more, rest = '[' :: more)) ?_ ?_
  · intro t ht
    exact ⟨t, [], (List.append_nil t).symm, ht.toHasNoBracket, .inl rfl⟩
  · intro o k _ hk ih
    obtain ⟨first, rest, htext, hfirst, hrest⟩ := ih
    rw [htext, List.append_assoc]
    rcases hrest with rfl | ⟨more, rfl⟩
    · cases k with
      | named t =>
        have hname : IsPlain t := hk
        refine ⟨first ++ '.' :: t, [], by simp [Key.text], ⟨by simp, ?_, ?_⟩, .inl rfl⟩
        · simp [hfirst.no_opening, hname.no_opening]
        · simp [hfirst.no_closing, hname.no_closing]
      | indexed i => exact ⟨first, _, rfl, hfirst, .inr ⟨_, rfl⟩⟩
    · exact ⟨first, _, rfl, hfirst, .inr ⟨_, rfl⟩⟩

theorem length_object_le (source : Text) {e : Tree} (h : AccessPath e) :
    ∀ a ∈ accesses e,
      (a.object.expressionText source).length ≤ (e.expressionText source).length := by
  refine h.induction
    (motive := fun as t => ∀ a ∈ as, (a.object.expressionText source).length ≤ t.length) ?_ ?_
  · intro t _ a ha
    cases ha
  · intro o k _ _ ih a ha
    rw [List.length_append]
    rcases List.mem_cons.mp ha with rfl | ha
    · exact Nat.le_add_right _ _
    · exact Nat.le_trans (ih a ha) (Nat.le_add_right _ _)

theorem not_suffix_of_cut {source : Text} {o : Tree} (ho : AccessPath o) {before behind p : Text}
    (hbehind : '[' ∉ behind)
    (hp : p ∈
      ((o.expressionText source ++ '[' :: before) ++ ('[' :: behind ++ [']'])) ::
        o.expressionText source ::
      (accesses o).map fun a => a.object.expressionText source) :
    ¬ (o.expressionText source ++ '[' :: before) <:+ p := by
  intro hsuffix
  rcases List.mem_cons.mp hp with rfl | hobject
  · obtain ⟨first, rest, hfirst, hbracket, hrest⟩ := exists_first_opening source ho
    obtain ⟨more, hmore⟩ : ∃ more,
        o.expressionText source ++ '[' :: before = first ++ '[' :: more := by
      rcases hrest with rfl | ⟨more, rfl⟩
      · exact ⟨before, by rw [hfirst, List.append_nil]⟩
      · exact ⟨more ++ '[' :: before, by rw [hfirst, List.append_assoc, List.cons_append]⟩
    rw [hmore] at hsuffix
    exact not_suffix_append_bracketed hbracket hbehind hsuffix
  · -- The objects are too short.
    have hshort : p.length ≤ (o.expressionText source).length := by
      rcases List.mem_cons.mp hobject with rfl | hobject
      · exact Nat.le_refl _
      · obtain ⟨a, ha, rfl⟩ := List.mem_map.mp hobject
        exact length_object_le source ho a ha
    have hle := hsuffix.length_le
    rw [List.length_append, List.length_cons] at hle
    omega

theorem matchesAffix_ends {ending t : Text} :
    IgnoreOptions.matchesAffix { ends := [ending] } t = true ↔ ending <:+ t := by
  simp [IgnoreOptions.matchesAffix, Pattern.anyStart, Pattern.anyEnd, Text.endsWith]

/-- If the decision about an access is that about it and its objects, then no bracket opens in its
index: the text before the last such bracket would be tried, and options can ask for that ending. -/
theorem hasNoOpening_of_follows {source : Text} {label : Label} (hlabel : isAccess label = true)
    {o i : Tree} (ho : AccessPath o) (h : Follows source label (⟨o, .indexed i⟩ :: accesses o)
      (o.expressionText source ++ Key.text source (.indexed i))) : HasNoOpening source i := by
  intro hmem
  obtain ⟨before, behind, hindex, hbehind⟩ := Text.exists_last_of_mem hmem
  have htext : o.expressionText source ++ Key.text source (.indexed i) =
      (o.expressionText source ++ '[' :: before) ++ ('[' :: behind ++ [']']) := by
    simp [Key.text, hindex]
  rw [htext] at h
  have hignored : ignoredByAffix { ends := [o.expressionText source ++ '[' :: before] } label
      ((o.expressionText source ++ '[' :: before) ++ ('[' :: behind ++ [']'])) = true := by
    rw [ignoredByAffix_iff hlabel, retried_of_some (objectPath?_bracket (by simp) hbehind)]
    exact ⟨_, List.mem_cons_of_mem _ List.mem_cons_self, matchesAffix_ends.mpr (List.suffix_refl _)⟩
  obtain ⟨p, hp, hmatches⟩ := (h _).mp hignored
  exact not_suffix_of_cut ho hbehind hp (matchesAffix_ends.mp hmatches)

/-! ## The decision -/

section

variable {source : Text} {label : Label} {e : Tree}

theorem followsObjects_all_iff (hlabel : isAccess label = true) (h : AccessPath e) :
    (∀ x ∈ e :: objects e, FollowsObjects source label x) ↔
      ∀ a ∈ accesses e, a.key.Satisfies (HasNoOpening source) := by
  rw [List.forall_mem_cons, objects, List.forall_mem_map, followsObjects_iff]
  refine h.induction (motive := fun as t => (Follows source label as t ∧
    ∀ a ∈ as, FollowsObjects source label a.object) ↔
      ∀ a ∈ as, a.key.Satisfies (HasNoOpening source)) ?_ ?_
  · intro t ht
    have hroot : Follows source label [] t :=
      follows_of_retried hlabel (retried_of_none (objectPath?_of_isPlain ht))
    simp [hroot]
  · intro o k ho hk ih
    rw [List.forall_mem_cons, List.forall_mem_cons, followsObjects_iff, ih]
    refine ⟨?_, ?_⟩
    · intro ⟨hfollows, hrest⟩
      refine ⟨?_, hrest⟩
      cases k with
      | named t => trivial
      | indexed i => exact hasNoOpening_of_follows hlabel ho hfollows
    · intro ⟨hkey, hrest⟩
      refine ⟨follows_of_retried hlabel ?_, hrest⟩
      rw [retried_access ho hk hkey, retried_eq_objects ho hrest, List.map_cons]

end

/-- Where the text of an access is that of an access path, the decision by beginnings and endings is
that about the path and its objects if no index in it has an opening bracket. And this is so for the
path and for every object on its way only then. -/
theorem affix_follows_objects_iff (source : Text) (s : Site) (e : Tree)
    (hlabel : isAccess s.label = true)
    (htexts : identifierTexts source s = [e.expressionText source]) (he : AccessPath e) :
    ((∀ i ∈ indexes e, '[' ∉ i.span.textIn source) → ∀ options : IgnoreOptions,
      (identifierTexts source s).all (ignoredByAffix options s.label) = true ↔
        ∃ x ∈ e :: objects e, options.matchesAffix (x.expressionText source) = true) ∧
    ((∀ x ∈ e :: objects e, FollowsObjects source s.label x) ↔
      ∀ i ∈ indexes e, '[' ∉ i.span.textIn source) := by
  have hall : (∀ x ∈ e :: objects e, FollowsObjects source s.label x) ↔
      ∀ i ∈ indexes e, '[' ∉ i.span.textIn source :=
    (followsObjects_all_iff hlabel he).trans forall_mem_indexes.symm
  refine ⟨?_, hall⟩
  intro hindexes options
  rw [htexts, List.all_cons, List.all_nil, Bool.and_true]
  exact hall.mpr hindexes e List.mem_cons_self options

/-- Options that ignore what ends with `_mutable`. -/
def mutableEnding : IgnoreOptions := { ends := ["_mutable".toList] }

/-- A path to a member of what a method behind an index gives; the index has a point in it. -/
def methodByIndex : Text := "foo_mutable.b['x.y']().c=1;".toList

theorem affix_follows_objects_methodByIndex :
    ∃ s e, IsTargetIn methodByIndex s e ∧ AccessPath e ∧
      identifierTexts methodByIndex s = [e.expressionText methodByIndex] ∧
      (objects e).map (expressionText methodByIndex) =
        ["foo_mutable.b['x.y']".toList, "foo_mutable.b".toList, "foo_mutable".toList] ∧
      (identifierTexts methodByIndex s).all (ignoredByAffix mutableEnding s.label) = true := by
  have hread : hasTarget methodByIndex (fun s e => decide (AccessPath e ∧ isAccess s.label = true ∧
      identifierTexts methodByIndex s = [e.expressionText methodByIndex] ∧
      (objects e).map (expressionText methodByIndex) =
        ["foo_mutable.b['x.y']".toList, "foo_mutable.b".toList, "foo_mutable".toList] ∧
      (∀ i ∈ indexes e, '[' ∉ i.span.textIn methodByIndex) ∧
      ∃ x ∈ e :: objects e, mutableEnding.matchesAffix (x.expressionText methodByIndex) = true)) =
        true := by
    decide +kernel
  obtain ⟨s, e, he, hseen⟩ := exists_isTargetIn hread
  obtain ⟨hpath, hlabel, htexts, hobjects, hindexes, hmatches⟩ := of_decide_eq_true hseen
  have hfollows :=
    (affix_follows_objects_iff methodByIndex s e hlabel htexts hpath).1 hindexes mutableEnding
  exact ⟨s, e, he, hpath, htexts, hobjects, hfollows.mpr hmatches⟩

/-- A path whose object is to be ignored, with an element of an array as its index. -/
def elementAsIndex : Text := "foo_mutable[a[0]]=1;".toList

/-- A path in which only the array in the index is to be ignored. -/
def mutableInIndex : Text := "a[b_mutable[0]]=1;".toList

/-- The first path is not ignored though its object ends as the options say, and the second is
though no object does. -/
theorem index_taken_for_object :
    (∃ s e, IsTargetIn elementAsIndex s e ∧ AccessPath e ∧ isAccess s.label = true ∧
      identifierTexts elementAsIndex s = [e.expressionText elementAsIndex] ∧
      (∃ x ∈ e :: objects e, mutableEnding.matchesAffix (x.expressionText elementAsIndex) = true) ∧
      ignoredByAffix mutableEnding s.label (e.expressionText elementAsIndex) = false) ∧
    ∃ s e, IsTargetIn mutableInIndex s e ∧ AccessPath e ∧ isAccess s.label = true ∧
      identifierTexts mutableInIndex s = [e.expressionText mutableInIndex] ∧
      (¬ ∃ x ∈ e :: objects e,
        mutableEnding.matchesAffix (x.expressionText mutableInIndex) = true) ∧
      ignoredByAffix mutableEnding s.label (e.expressionText mutableInIndex) = true := by
  have hmissed :
      hasTarget elementAsIndex (fun s e => decide (AccessPath e ∧ isAccess s.label = true ∧
      identifierTexts elementAsIndex s = [e.expressionText elementAsIndex] ∧
      (∃ x ∈ e :: objects e, mutableEnding.matchesAffix (x.expressionText elementAsIndex) = true) ∧
      ignoredByAffix mutableEnding s.label (e.expressionText elementAsIndex) = false)) = true := by
    decide +kernel
  have htaken :
      hasTarget mutableInIndex (fun s e => decide (AccessPath e ∧ isAccess s.label = true ∧
      identifierTexts mutableInIndex s = [e.expressionText mutableInIndex] ∧
      (¬ ∃ x ∈ e :: objects e,
        mutableEnding.matchesAffix (x.expressionText mutableInIndex) = true) ∧
      ignoredByAffix mutableEnding s.label (e.expressionText mutableInIndex) = true)) = true := by
    decide +kernel
  obtain ⟨s, e, he, hseen⟩ := exists_isTargetIn hmissed
  obtain ⟨s', e', he', hseen'⟩ := exists_isTargetIn htaken
  exact ⟨⟨s, e, he, of_decide_eq_true hseen⟩, s', e', he', of_decide_eq_true hseen'⟩

end PureLint.Ignore
