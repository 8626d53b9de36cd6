import PureLint.Rules.ReadonlyTypes
import PureLint.SourceFile

/-!
# Types in return types

What a function returns is a written type right below it, and more types may be written inside: that
of a property, of a parameter, of an index or of a predicate. `Site.inReturnType` asks the nearest
type written around a site. So it misses a site that lies in a return type but has another written
type in between (`IsScreened`), and it is right about every other site. Both follow from what the
question comes to when the nodes above are cut at the nearest written type
(`returnTypeAbove_nearest`).

`preferReadonlyType` allows mutable types in return types by that question. A site that is screened
is reported as if nothing were allowed.
-/

namespace PureLint

namespace Site

/-! ## Types written around a site -/

/-- Whether a type is written at a node. -/
def isWrittenType (n : Node) : Bool := n.tree.label.isTypeAscription

/-- Whether a node, below the given ones, is the return type of the first of them. -/
def IsReturnType (n : Node) (outer : List Node) : Prop :=
  isWrittenType n = true ∧ ∃ p rest, outer = p :: rest ∧ hasReturnType p.tree.label = true

/-- Whether a site lies in a return type, at any depth. -/
def LiesInReturnType (s : Site) : Prop :=
  ∃ inner n outer, s.above = inner ++ n :: outer ∧ IsReturnType n outer

/-- Whether a type written at one of the nodes is a return type. -/
def anyReturnType : List Node → Bool
  | [] => false
  | n :: outer =>
    (isWrittenType n && outer.head?.any fun p => hasReturnType p.tree.label) || anyReturnType outer

theorem isReturnType_iff {n : Node} {outer : List Node} :
    IsReturnType n outer ↔
      isWrittenType n = true ∧ (outer.head?.any fun p => hasReturnType p.tree.label) = true := by
  cases outer <;> simp [IsReturnType]

theorem anyReturnType_iff {above : List Node} :
    anyReturnType above = true ↔
      ∃ inner n outer, above = inner ++ n :: outer ∧ IsReturnType n outer := by
  induction above with
  | nil => simp [anyReturnType]
  | cons m rest ih =>
    rw [anyReturnType, Bool.or_eq_true, Bool.and_eq_true, ← isReturnType_iff, ih]
    constructor
    · rintro (hm | ⟨inner, n, outer, rfl, hn⟩)
      · exact ⟨[], m, rest, rfl, hm⟩
      · exact ⟨m :: inner, n, outer, rfl, hn⟩
    · rintro ⟨inner, n, outer, heq, hn⟩
      cases inner with
      | nil =>
        cases heq
        exact .inl hn
      | cons k inner =>
        cases heq
        exact .inr ⟨inner, n, outer, rfl, hn⟩

instance (s : Site) : Decidable s.LiesInReturnType :=
  decidable_of_iff _ (@anyReturnType_iff s.above)

/-- A cut of the nodes above a place at the nearest written type. -/
structure IsNearest (above inner : List Node) (n : Node) (outer : List Node) : Prop where
  above_eq : above = inner ++ n :: outer
  inner_unwritten : ∀ m ∈ inner, isWrittenType m = false
  written : isWrittenType n = true

/-- Whether a site lies in a return type, but the nearest type written around it is another. -/
def IsScreened (s : Site) : Prop :=
  s.LiesInReturnType ∧ ∃ inner n outer, IsNearest s.above inner n outer ∧ ¬ IsReturnType n outer

theorem returnTypeAbove_append {inner : List Node} (h : ∀ m ∈ inner, isWrittenType m = false)
    (rest : List Node) : returnTypeAbove (inner ++ rest) = returnTypeAbove rest := by
  induction inner with
  | nil => rfl
  | cons m inner ih =>
    have hm : m.tree.label.isTypeAscription = false := h m List.mem_cons_self
    simp only [List.cons_append, returnTypeAbove, hm, Bool.false_eq_true, if_false]
    exact ih fun k hk => h k (List.mem_cons_of_mem m hk)

/-- The nearest written type decides. -/
theorem returnTypeAbove_nearest {above inner outer : List Node} {n : Node}
    (h : IsNearest above inner n outer) : returnTypeAbove above = true ↔ IsReturnType n outer := by
  have hn : n.tree.label.isTypeAscription = true := h.written
  rw [h.above_eq, returnTypeAbove_append h.inner_unwritten, returnTypeAbove, if_pos hn,
    isReturnType_iff]
  exact (and_iff_right h.written).symm

theorem unwritten_or_nearest (above : List Node) :
    (∀ m ∈ above, isWrittenType m = false) ∨ ∃ inner n outer, IsNearest above inner n outer := by
  cases hfind : above.find? isWrittenType with
  | none =>
    left
    intro m hm
    simpa using List.find?_eq_none.mp hfind m hm
  | some n =>
    right
    obtain ⟨hn, inner, outer, habove, hinner⟩ := List.find?_eq_some_iff_append.mp hfind
    exact ⟨inner, n, outer, habove, fun m hm => by simpa using hinner m hm, hn⟩

variable {s : Site}

theorem liesInReturnType_of_inReturnType (h : s.inReturnType = true) : s.LiesInReturnType := by
  rcases unwritten_or_nearest s.above with hnone | ⟨inner, n, outer, hnearest⟩
  · have hpassed : returnTypeAbove s.above = false := by
      simpa [returnTypeAbove] using returnTypeAbove_append hnone []
    rw [inReturnType, hpassed] at h
    cases h
  · exact ⟨inner, n, outer, hnearest.above_eq, (returnTypeAbove_nearest hnearest).mp h⟩

theorem IsScreened.inReturnType (h : s.IsScreened) : s.inReturnType = false := by
  obtain ⟨_, inner, n, outer, hnearest, hother⟩ := h
  rw [← Bool.not_eq_true]
  exact fun hin => hother ((returnTypeAbove_nearest hnearest).mp hin)

theorem LiesInReturnType.inReturnType_or_screened (h : s.LiesInReturnType) :
    s.inReturnType = true ∨ s.IsScreened := by
  obtain ⟨inner, n, outer, habove, hreturn⟩ := h
  rcases unwritten_or_nearest s.above with hnone | ⟨inner', n', outer', hnearest⟩
  · have hn : isWrittenType n = false := hnone n (by simp [habove])
    rw [hreturn.1] at hn
    cases hn
  · -- The nearest written type `n'` need not be the return type `n` around the site.
    by_cases hreturn' : IsReturnType n' outer'
    · exact .inl ((returnTypeAbove_nearest hnearest).mpr hreturn')
    · exact .inr ⟨⟨inner, n, outer, habove, hreturn⟩, inner', n', outer', hnearest, hreturn'⟩

theorem inReturnType_iff_liesInReturnType :
    (s.inReturnType = true ↔ s.LiesInReturnType) ↔ ¬ s.IsScreened := by
  constructor
  · intro hiff hscreened
    have hin := hiff.mpr hscreened.1
    rw [hscreened.inReturnType] at hin
    cases hin
  · intro hclear
    constructor
    · exact liesInReturnType_of_inReturnType
    · intro hlies
      exact hlies.inReturnType_or_screened.resolve_right hclear

end Site

namespace Rules.PreferReadonlyType

/-! ## Mutable types in return types -/

/-- The kinds of node that may be mutable in a return type. -/
def isAllowedKind : Label → Bool
  | .arrayType | .tupleType | .typeReference | .indexSignature .. | .propertySignature _ => true
  | _ => false

theorem check_of_inReturnType {o : Options} (source : Text) {s : Site}
    (hallow : o.allowMutableReturnType = true)
    (hkind : isAllowedKind s.label = true) (hin : s.inReturnType = true) :
    (check o source s).diagnostics = [] := by
  have hallowed : isAllowedReturn o s = true := by simp [isAllowedReturn, hallow, hin]
  have htype : checkType o s = none := by simp [checkType, hallowed]
  -- Types are left to `checkType`. Members ask about return types themselves, and only signatures
  -- do.
  unfold isAllowedKind at hkind
  split at hkind
  · simp [check, *, CheckResult.ofOption]
  · simp [check, *, CheckResult.ofOption]
  · simp [check, *, CheckResult.ofOption]
  · simp [check, checkProperty, *, CheckResult.ofOption]
  · simp [check, checkProperty, *, CheckResult.ofOption]
  · cases hkind

theorem check_of_not_inReturnType (o : Options) (source : Text) {s : Site}
    (h : s.inReturnType = false) :
    check o source s = check { o with allowMutableReturnType := false } source s := by
  have hnone : ∀ o : Options, isAllowedReturn o s = false := fun o => by simp [isAllowedReturn, h]
  simp only [check, checkType, checkProperty, hnone]

/-- A site that is seen to be in a return type lies in one, and every site that lies in one is seen
exactly if no other written type screens it. Where mutable return types are allowed, nothing is
reported about the sites in them except what is screened, and that is reported as if they were not
allowed. -/
theorem return_type_seen_iff_not_screened (s : Site) :
    (s.inReturnType = true → s.LiesInReturnType) ∧
      ((s.inReturnType = true ↔ s.LiesInReturnType) ↔ ¬ s.IsScreened) ∧
      ∀ (o : Options) (source : Text),
        o.allowMutableReturnType = true → isAllowedKind s.label = true →
        s.LiesInReturnType → ((check o source s).diagnostics = [] ↔
          ¬ s.IsScreened ∨
            (check { o with allowMutableReturnType := false } source s).diagnostics = []) := by
  refine ⟨Site.liesInReturnType_of_inReturnType, Site.inReturnType_iff_liesInReturnType, ?_⟩
  intro o source hallow hkind hlies
  by_cases hscreened : s.IsScreened
  · rw [check_of_not_inReturnType o source hscreened.inReturnType]
    simp [hscreened]
  · have hin : s.inReturnType = true := hlies.inReturnType_or_screened.resolve_right hscreened
    exact iff_of_true (check_of_inReturnType source hallow hkind hin) (.inl hscreened)

/-- A function that returns an array, which is mutable as well as its property. -/
def returnedArray : Text := "let f:()=>{a:b}[];".toList

theorem return_type_seen_returnedArray :
    ∃ file s,
      SourceFile.parse? returnedArray (some "p.ts".toList) = some file ∧ s ∈ file.tree.sites ∧
      s.label = .propertySignature false ∧ s.LiesInReturnType ∧ ¬ s.IsScreened ∧
      (check {} returnedArray s).diagnostics ≠ [] ∧
      (check { allowMutableReturnType := true } returnedArray s).diagnostics = [] := by
  have hread : ((SourceFile.parse? returnedArray (some "p.ts".toList)).any fun file =>
      file.tree.sites.any fun s =>
        decide (s.label = .propertySignature false ∧ s.inReturnType = true ∧
        (check {} returnedArray s).diagnostics ≠ [])) = true := by
    decide +kernel
  simp only [Option.any_eq_true, List.any_eq_true, decide_eq_true_eq] at hread
  obtain ⟨file, hfile, s, hs, hlabel, hin, hreported⟩ := hread
  obtain ⟨hlies, hseen, hreports⟩ := return_type_seen_iff_not_screened s
  have hclear : ¬ s.IsScreened := hseen.mp (iff_of_true hin (hlies hin))
  have hkind : isAllowedKind s.label = true := by
    rw [hlabel]
    rfl
  have hquiet :=
    (hreports { allowMutableReturnType := true } returnedArray rfl hkind (hlies hin)).mpr
  exact ⟨file, s, hfile, hs, hlabel, hlies hin, hclear, hreported, hquiet (.inl hclear)⟩

/-- A function that returns an object with an array. -/
def arrayInReturnedObject : Text := "let f:()=>{readonly a:b[]};".toList

/-- The type written for the property screens the array from the return type, and the array is
reported. -/
theorem property_screens_return_type :
    ∃ file s,
      SourceFile.parse? arrayInReturnedObject (some "p.ts".toList) = some file ∧
        s ∈ file.tree.sites ∧
      s.label = .arrayType ∧ s.LiesInReturnType ∧ s.inReturnType = false ∧
      (check { allowMutableReturnType := true } arrayInReturnedObject s).diagnostics ≠ [] := by
  have hread : ((SourceFile.parse? arrayInReturnedObject (some "p.ts".toList)).any fun file =>
      file.tree.sites.any fun s =>
        decide (s.label = .arrayType ∧ s.LiesInReturnType ∧ s.inReturnType = false ∧
        (check { allowMutableReturnType := true } arrayInReturnedObject s).diagnostics ≠ [])) =
          true := by
    decide +kernel
  simp only [Option.any_eq_true, List.any_eq_true, decide_eq_true_eq] at hread
  obtain ⟨file, hfile, s, hs, hseen⟩ := hread
  exact ⟨file, s, hfile, hs, hseen⟩

end Rules.PreferReadonlyType

end PureLint
