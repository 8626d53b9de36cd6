import PureLint.Proofs.ByteCut
import PureLint.Proofs.RetriedObjects

/-!
# Retries take beginnings of a text

The object of a path is found by byte offsets: the last point or opening bracket is searched, and
what stands before it is sliced off (`sliceObject?`). This is done again with every object until one
begins or ends as the options say, or nothing is left to slice off (`Retries`). Nothing in the
search itself says that it keeps to the boundaries of characters, or that it ends. Both follow from
what one slice does: it succeeds, and gives what stands before a point or an opening bracket
(`retries_iff`). So a search goes down through shorter and shorter beginnings of the text
(`Retries.pairwise_standsBefore`).

A beginning of a text begins with nothing that the text does not begin with, so that objects are
found by their endings only.
-/

namespace PureLint

namespace Text

theorem slice?_of_rfindByte? {c : Char} {t : Text} {n : Nat} (h : rfindByte? c t = some n) :
    ∃ before,
      slice? 0 n t = some before ∧ beforeLast? c t = some before ∧ before.byteLength = n := by
  rw [rfindByte?_eq] at h
  obtain ⟨before, hbefore, rfl⟩ := Option.map_eq_some_iff.mp h
  obtain ⟨behind, rfl, _⟩ := beforeLast?_eq_some_iff.mp hbefore
  exact ⟨before, slice?_append [] before (c :: behind), hbefore, rfl⟩

theorem beforeLast?_of_rfindByte? {c : Char} {t : Text} (h : rfindByte? c t = none) :
    beforeLast? c t = none := by
  rw [rfindByte?_eq, Option.map_eq_none_iff] at h
  exact h

theorem byteLength_pos_iff {t : Text} : 0 < t.byteLength ↔ t ≠ [] := by
  cases t with
  | nil => simp
  | cons c cs =>
    have hpos := c.utf8Size_pos
    simp only [byteLength_cons, ne_eq, reduceCtorEq, not_false_eq_true, iff_true]
    omega

end Text

namespace Ignore

/-! ## One slice -/

/-- The object of a path, sliced off at a byte offset; the inner `none` means that there is none.
The outer one means that the offset lies inside a character. -/
def sliceObject? (t : Text) : Option (Option Text) :=
  if t.endsWith [']'] then
    match t.rfindByte? '[' with
    | some opening => if 0 < opening then (t.slice? 0 opening).map some else some none
    | none => some none
  else
    match t.rfindByte? '.' with
    | some point => (t.slice? 0 point).map some
    | none => some none

theorem sliceObject?_eq (t : Text) : sliceObject? t = some (objectPath? t) := by
  unfold sliceObject? objectPath?
  split
  · cases hopening : t.rfindByte? '[' with
    | none => rw [Text.beforeLast?_of_rfindByte? hopening]; rfl
    | some opening =>
      obtain ⟨before, hslice, hbefore, rfl⟩ := Text.slice?_of_rfindByte? hopening
      rw [hbefore]
      by_cases hempty : before = []
      · subst hempty
        rfl
      · rw [Option.filter_some_pos (by simpa using hempty)]
        simp [hslice, Text.byteLength_pos_iff, hempty]
  · cases hpoint : t.rfindByte? '.' with
    | none => rw [Text.beforeLast?_of_rfindByte? hpoint]
    | some point =>
      obtain ⟨before, hslice, hbefore, _⟩ := Text.slice?_of_rfindByte? hpoint
      simp [hslice, hbefore]

theorem sliceObject?_eq_some_iff {t : Text} {object? : Option Text} :
    sliceObject? t = some object? ↔ objectPath? t = object? := by
  rw [sliceObject?_eq, Option.some.injEq]

/-- Whether a text is what stands before a point or an opening bracket of another one. -/
def StandsBefore (p t : Text) : Prop :=
  ∃ mark behind, (mark = '.' ∨ mark = '[') ∧ t = p ++ mark :: behind

namespace StandsBefore

variable {p q t : Text}

theorem trans (hp : StandsBefore p q) (hq : StandsBefore q t) : StandsBefore p t := by
  obtain ⟨mark, behind, hmark, rfl⟩ := hp
  obtain ⟨_, further, _, rfl⟩ := hq
  exact ⟨mark, _, hmark, List.append_assoc _ _ _⟩

theorem byteLength_lt (h : StandsBefore p t) : p.byteLength < t.byteLength := by
  obtain ⟨mark, behind, _, rfl⟩ := h
  have hpos := mark.utf8Size_pos
  rw [Text.byteLength_append, Text.byteLength_cons]
  omega

theorem anyStart {starts : List Text} (h : StandsBefore p t)
    (hp : Pattern.anyStart starts p = true) : Pattern.anyStart starts t = true := by
  obtain ⟨mark, behind, _, rfl⟩ := h
  simp only [Pattern.anyStart, Text.startsWith, List.any_eq_true,
    List.isPrefixOf_iff_prefix] at hp ⊢
  obtain ⟨start, hmem, hstart⟩ := hp
  exact ⟨start, hmem, hstart.trans (List.prefix_append _ _)⟩

/-- If a text does not begin or end as the options say, then what stands before a mark of it can
only end so. -/
theorem matchesAffix_eq {o : IgnoreOptions} (h : StandsBefore p t) (ht : o.matchesAffix t = false) :
    o.matchesAffix p = Pattern.anyEnd o.ends p := by
  have hstart : Pattern.anyStart o.starts p = false := by
    rw [← Bool.not_eq_true]
    intro hstart
    rw [IgnoreOptions.matchesAffix, h.anyStart hstart] at ht
    cases ht
  rw [IgnoreOptions.matchesAffix, hstart, Bool.false_or]

end StandsBefore

/-! ## The search -/

/-- A search from a text: the objects that are tried on the way, in order, and whether the last one
begins or ends as the options say. It breaks off without an answer where a slice would lie inside a
character. -/
inductive Retries (o : IgnoreOptions) : Text → List Text → Option Bool → Prop
  | broken {t : Text} (hslice : sliceObject? t = none) : Retries o t [] none
  | exhausted {t : Text} (hslice : sliceObject? t = some none) : Retries o t [] (some false)
  | found {t object : Text} (hslice : sliceObject? t = some (some object))
    (hmatch : o.matchesAffix object = true) :
    Retries o t [object] (some true)
  | next {t object : Text} {tried : List Text} {outcome : Option Bool}
    (hslice : sliceObject? t = some (some object))
    (hmatch : o.matchesAffix object = false)
    (h : Retries o object tried outcome) : Retries o t (object :: tried) outcome

variable {o : IgnoreOptions} {t : Text} {tried : List Text} {outcome : Option Bool}

theorem retries_iff : Retries o t tried outcome ↔
    (objectPath? t = none ∧ tried = [] ∧ outcome = some false) ∨
      ∃ object, objectPath? t = some object ∧
        ((o.matchesAffix object = true ∧ tried = [object] ∧ outcome = some true) ∨
          (o.matchesAffix object = false ∧
            ∃ rest, tried = object :: rest ∧ Retries o object rest outcome)) := by
  refine ⟨?_, ?_⟩
  · intro h
    cases h with
    | broken hslice =>
      rw [sliceObject?_eq] at hslice
      cases hslice
    | exhausted hslice => exact .inl ⟨sliceObject?_eq_some_iff.mp hslice, rfl, rfl⟩
    | found hslice hmatch =>
      exact .inr ⟨_, sliceObject?_eq_some_iff.mp hslice, .inl ⟨hmatch, rfl, rfl⟩⟩
    | next hslice hmatch h =>
      exact .inr ⟨_, sliceObject?_eq_some_iff.mp hslice, .inr ⟨hmatch, _, rfl, h⟩⟩
  · rintro (⟨hobject, rfl, rfl⟩ | ⟨object, hobject, ⟨hmatch, rfl, rfl⟩ | ⟨hmatch, rest, rfl, h⟩⟩)
    · exact .exhausted (sliceObject?_eq_some_iff.mpr hobject)
    · exact .found (sliceObject?_eq_some_iff.mpr hobject) hmatch
    · exact .next (sliceObject?_eq_some_iff.mpr hobject) hmatch h

/-- There is exactly one search from a text, and it answers whether an object on the way to the text
fits. -/
theorem exists_retries (o : IgnoreOptions) (t : Text) :
    ∃ tried, (∀ others outcome, Retries o t others outcome ↔
        others = tried ∧ outcome = some (tried.any o.matchesAffix)) ∧
      tried.any o.matchesAffix = (retried t).any o.matchesAffix := by
  -- The induction is on the length of the text, since an object is shorter than its path.
  induction hlength : t.length using Nat.strongRecOn generalizing t with
  | ind n ih =>
    cases hobject : objectPath? t with
    | none =>
      refine ⟨[], ?_, by rw [retried_of_none hobject]⟩
      intro others outcome
      rw [retries_iff, hobject]
      simp
    | some object =>
      cases hmatch : o.matchesAffix object with
      | true =>
        refine ⟨[object], ?_, by simp [retried_of_some hobject, hmatch]⟩
        intro others outcome
        rw [retries_iff, hobject]
        simp [hmatch]
      | false =>
        have hshorter := length_objectPath?_lt hobject
        obtain ⟨tried, hsearch, hany⟩ := ih object.length (hlength ▸ hshorter) object rfl
        refine ⟨object :: tried, ?_, by simp [retried_of_some hobject, hany]⟩
        intro others outcome
        rw [retries_iff, hobject]
        refine ⟨?_, ?_⟩
        · rintro (⟨hnone, _⟩ | ⟨_, hsome, ⟨htrue, _⟩ | ⟨_, rest, rfl, hrest⟩⟩)
          · cases hnone
          · rw [← Option.some.inj hsome, hmatch] at htrue
            cases htrue
          · rw [← Option.some.inj hsome] at hrest ⊢
            obtain ⟨rfl, houtcome⟩ := (hsearch _ _).mp hrest
            exact ⟨rfl, by rw [houtcome, List.any_cons, hmatch, Bool.false_or]⟩
        · rintro ⟨rfl, rfl⟩
          rw [List.any_cons, hmatch, Bool.false_or]
          exact .inr ⟨object, rfl, .inr ⟨hmatch, tried, rfl, (hsearch _ _).mpr ⟨rfl, rfl⟩⟩⟩

/-- Of the text and the objects that are tried, each stands before a point or an opening bracket of
all before it. -/
theorem Retries.pairwise_standsBefore (h : Retries o t tried outcome) :
    (t :: tried).Pairwise fun q p => StandsBefore p q := by
  induction h with
  | broken => exact List.pairwise_singleton _ _
  | exhausted => exact List.pairwise_singleton _ _
  | found hslice =>
    exact List.pairwise_pair.mpr (exists_mark_of_objectPath? (sliceObject?_eq_some_iff.mp hslice))
  | @next t object tried outcome hslice _ _ ih =>
    have hobject : StandsBefore object t :=
      exists_mark_of_objectPath? (sliceObject?_eq_some_iff.mp hslice)
    refine List.pairwise_cons.mpr ⟨?_, ih⟩
    intro p hp
    rcases List.mem_cons.mp hp with rfl | hp
    · exact hobject
    · exact ((List.pairwise_cons.mp ih).1 p hp).trans hobject

/-- For every text, label and options, the search for objects ends with an answer and without a
slice inside a character. What it tries are beginnings of the text that end right before a point or
an opening bracket, each shorter than those before it. So if the text does not fit itself, an object
can only fit by its ending, and without endings to ask for the search makes no difference. -/
theorem retries_shorten_text (o : IgnoreOptions) (label : Label) (t : Text) :
    ∃ tried verdict,
      (∀ others outcome, Retries o t others outcome ↔ others = tried ∧ outcome = some verdict) ∧
      ignoredByAffix o label t = (o.matchesAffix t || (isAccess label && verdict)) ∧
      (∀ p ∈ tried, StandsBefore p t) ∧
      (t :: tried).Pairwise (fun q p => p.byteLength < q.byteLength) ∧
      ignoredByAffix o label t =
        (o.matchesAffix t || (isAccess label && tried.any (Pattern.anyEnd o.ends))) ∧
      (o.ends = [] → ignoredByAffix o label t = o.matchesAffix t) := by
  obtain ⟨tried, hsearch, hany⟩ := exists_retries o t
  have hbefore := ((hsearch tried _).mpr ⟨rfl, rfl⟩).pairwise_standsBefore
  have hmembers : ∀ p ∈ tried, StandsBefore p t := (List.pairwise_cons.mp hbefore).1
  have hverdict : ignoredByAffix o label t =
      (o.matchesAffix t || (isAccess label && tried.any o.matchesAffix)) := by
    rw [hany, ignoredByAffix_eq]
  have hends : ignoredByAffix o label t =
      (o.matchesAffix t || (isAccess label && tried.any (Pattern.anyEnd o.ends))) := by
    cases ht : o.matchesAffix t with
    | true => rw [hverdict, ht]; rfl
    | false =>
      have hendings : tried.any o.matchesAffix = tried.any (Pattern.anyEnd o.ends) := by
        rw [Bool.eq_iff_iff, List.any_eq_true, List.any_eq_true]
        apply exists_congr
        intro p
        apply and_congr_right
        intro hp
        rw [(hmembers p hp).matchesAffix_eq ht]
      rw [hverdict, ht, hendings]
  refine ⟨tried, tried.any o.matchesAffix, hsearch, hverdict, hmembers,
    hbefore.imp StandsBefore.byteLength_lt, hends, ?_⟩
  intro hnone
  rw [hends, hnone]
  simp [Pattern.anyEnd]

/-- Options that ignore what begins with `é`. -/
def accentedBeginning : IgnoreOptions := { starts := [['é']] }

/-- A text that begins with a point, with the beginning to be ignored right behind it. -/
def leadingPoint : Text := ".é[0].b".toList

theorem retries_shorten_text_leadingPoint :
    accentedBeginning.ends = [] ∧
      (∀ others outcome, Retries accentedBeginning leadingPoint others outcome ↔
        others = [".é[0]".toList, ".é".toList, []] ∧ outcome = some false) ∧
      ignoredByAffix accentedBeginning .staticMember leadingPoint = false := by
  obtain ⟨tried, verdict, hsearch, _, _, _, _, hstarts⟩ :=
    retries_shorten_text accentedBeginning .staticMember leadingPoint
  have hretries :
      Retries accentedBeginning leadingPoint [".é[0]".toList, ".é".toList, []] (some false) :=
    .next (by decide) (by decide)
      (.next (by decide) (by decide) (.next (by decide) (by decide) (.exhausted (by decide))))
  obtain ⟨rfl, hverdict⟩ := (hsearch _ _).mp hretries
  rw [← hverdict] at hsearch
  exact ⟨rfl, hsearch, (hstarts rfl).trans (by decide)⟩

end Ignore

end PureLint
