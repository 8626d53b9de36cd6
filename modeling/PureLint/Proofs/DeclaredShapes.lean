import Mathlib.Data.List.Forall2
import Mathlib.Data.List.Nodup
import PureLint.Options

/-!
# Records with declared fields

Which values are read as a record is said without reading them: by the fields that are declared,
each with the values it takes (`IsRecord`). Reading succeeds exactly on these values
(`exists_record_iff`), because a field is set exactly by the values it takes (`FieldShape.Reads`).
What a record keeps of a field is what was written for it last, if a view of the record follows the
field (`FieldShape.Tracks`).
-/

namespace PureLint.Json

/-! ## Shapes -/

/-- A flag. -/
def IsFlag (v : Json) : Prop := ∃ b, v = .bool b

/-- A text, or a list of texts. -/
def IsTexts (v : Json) : Prop :=
  (∃ t, v = .string t) ∨ ∃ ts : List Text, v = .array (ts.map .string)

/-- A word of a list: alone, or as the only key of an object with nothing as its value. -/
def IsWord (words : List String) (v : Json) : Prop :=
  ∃ w ∈ words, v = .string w.toList ∨ v = .object [(w.toList, .null)]

/-- A field: its name, and the values that it takes. -/
structure Declared where
  name : String
  Takes : Json → Prop

namespace Declared

/-- A field that is a flag. -/
def flag (name : String) : Declared := ⟨name, IsFlag⟩

/-- A field that is a text or a list of texts. -/
def texts (name : String) : Declared := ⟨name, IsTexts⟩

end Declared

/-- An object whose keys are declared, with values that they take, or an array with values of the
first fields. -/
inductive IsRecord (declared : List Declared) : Json → Prop
  | object {members : List (Text × Json)}
    (h : ∀ p ∈ members, ∃ d ∈ declared, d.name.toList = p.1 ∧ d.Takes p.2) :
      IsRecord declared (.object members)
  | array {items : List Json} (hlength : items.length ≤ declared.length)
    (h : ∀ p ∈ declared.zip items, p.1.Takes p.2) : IsRecord declared (.array items)

/-- What is written for the fields of these names: the members of an object, or the items of an
array with the names of the first fields. -/
def written (names : List String) : Json → List (Text × Json)
  | .object members => members
  | .array items => (names.map String.toList).zip items
  | _ => []

/-- What is written last for a field. -/
def given? (names : List String) (key : String) (v : Json) : Option Json :=
  (written names v).reverse.lookup key.toList

/-- The texts of a text or of a list of texts. -/
def texts : Json → List Text
  | .string t => [t]
  | .array items => items.filterMap Shape.text?
  | _ => []

/-- The texts that are written last for a field. -/
def textsGiven (names : List String) (key : String) (v : Json) : List Text :=
  ((given? names key v).map texts).getD []

/-! ## Reading shapes -/

namespace Shape

theorem exists_flag_iff {v : Json} : (∃ b, flag v = .ok b) ↔ IsFlag v := by
  cases v <;> simp [flag, IsFlag]

theorem mapM_text?_eq_some_iff {items : List Json} {ts : List Text} :
    items.mapM text? = some ts ↔ items = ts.map .string := by
  induction items generalizing ts with
  | nil => cases ts <;> simp
  | cons v items ih =>
    rw [List.mapM_cons]
    cases v with
    | string t =>
      cases hmap : items.mapM text? with
      | none => cases ts <;> simp [text?, ← ih, hmap]
      | some us => cases ts <;> simp [text?, ← ih, hmap]
    | _ => cases ts <;> simp [text?]

theorem exists_lookup_iff {α : Type} {words : List (String × α)} {w : String} :
    (∃ a, words.lookup w = some a) ↔ w ∈ words.map Prod.fst := by
  rw [← Option.isSome_iff_exists, List.lookup_isSome_iff, List.mem_map]
  exact exists_congr fun p =>
    and_congr_right fun _ => ⟨fun h => (eq_of_beq h).symm, fun h => beq_iff_eq.mpr h.symm⟩

theorem exists_word?_iff {α : Type} {words : List (String × α)} {v : Json} :
    (∃ a, word? words v = some a) ↔ IsWord (words.map Prod.fst) v := by
  have hword : ∀ {t : Text},
      (∃ w ∈ words.map Prod.fst, t = w.toList) ↔ String.ofList t ∈ words.map Prod.fst := by
    intro t
    constructor
    · rintro ⟨w, hw, rfl⟩
      rwa [String.ofList_toList]
    · intro h
      exact ⟨String.ofList t, h, by rw [String.toList_ofList]⟩
  unfold word?
  split
  · rw [exists_lookup_iff, ← hword]
    simp [IsWord]
  · rw [exists_lookup_iff, ← hword]
    simp [IsWord]
  · rename_i hstring hobject
    refine iff_of_false nofun ?_
    rintro ⟨w, _, rfl | rfl⟩
    · exact hstring _ rfl
    · exact hobject _ rfl

/-! ## Setting fields -/

variable {ρ : Type} {fields : List (FieldShape ρ)}

theorem setMembers_cons {f : FieldShape ρ} {key : Text}
    (hfind : (fields.find? fun f => f.name.toList == key) = some f)
    (value : Json) (rest : List (Text × Json)) (r : ρ) :
    setMembers fields ((key, value) :: rest) r = (f.set value r).bind (setMembers fields rest) := by
  rw [setMembers, hfind]
  cases hset : f.set value r <;> simp [hset, Except.bind]

theorem setMembers_append (first second : List (Text × Json)) (r : ρ) :
    setMembers fields (first ++ second) r =
      (setMembers fields first r).bind (setMembers fields second) := by
  induction first generalizing r with
  | nil => rfl
  | cons p rest ih =>
    obtain ⟨key, value⟩ := p
    cases hfind : fields.find? fun f => f.name.toList == key with
    | none => simp [setMembers, hfind, Except.bind]
    | some f =>
      rw [List.cons_append, setMembers_cons hfind, setMembers_cons hfind]
      cases f.set value r with
      | error e => rfl
      | ok next => exact ih next

theorem find?_of_mem (hnodup : (fields.map (·.name)).Nodup) {f : FieldShape ρ} (hf : f ∈ fields) :
    (fields.find? fun g => g.name.toList == f.name.toList) = some f := by
  obtain ⟨g, hg⟩ : ∃ g, (fields.find? fun g => g.name.toList == f.name.toList) = some g :=
    Option.isSome_iff_exists.mp (List.find?_isSome.mpr ⟨f, hf, by simp⟩)
  have hname : g.name = f.name := String.toList_inj.mp (by simpa using List.find?_some hg)
  rw [hg, List.inj_on_of_nodup_map hnodup (List.mem_of_find?_eq_some hg) hf hname]

/-- Items that there are fields for are set like members with the names of these fields. -/
theorem setItems_eq_setMembers {first : List (FieldShape ρ)} {items : List Json}
    (hfind : ∀ f ∈ first, (fields.find? fun g => g.name.toList == f.name.toList) = some f)
    (hlength : items.length ≤ first.length) (n : Nat) (r : ρ) :
    setItems n first items r =
      setMembers fields ((first.map fun f => f.name.toList).zip items) r := by
  induction first generalizing items r with
  | nil =>
    obtain rfl : items = [] := List.eq_nil_of_length_eq_zero (Nat.le_zero.mp hlength)
    rfl
  | cons f first ih =>
    cases items with
    | nil => rfl
    | cons v items =>
      -- The members look up the fields among all of them, so `fields` stays as it is while `first`
      -- gets shorter.
      rw [List.map_cons, List.zip_cons_cons, setMembers_cons (hfind f List.mem_cons_self), setItems]
      cases f.set v r with
      | error e => rfl
      | ok next =>
        exact ih (fun g hg => hfind g (List.mem_cons_of_mem f hg))
          (Nat.le_of_succ_le_succ hlength) next

theorem setItems_of_lt {items : List Json} (hlength : fields.length < items.length) (n : Nat)
    (r r' : ρ) : setItems n fields items r ≠ .ok r' := by
  induction fields generalizing items r with
  | nil =>
    cases items with
    | nil => exact absurd hlength (Nat.lt_irrefl 0)
    | cons v items => exact nofun
  | cons f fields ih =>
    cases items with
    | nil => exact absurd hlength (Nat.not_lt_zero _)
    | cons v items =>
      rw [setItems]
      cases f.set v r with
      | error e => exact nofun
      | ok next => exact ih (Nat.lt_of_succ_lt_succ hlength) next

/-- A record is read from what is written for its fields, if it is an object or an array that is not
too long. -/
theorem record_eq_ok_iff (hnodup : (fields.map (·.name)).Nodup) {name : String} {r r' : ρ}
    {v : Json} :
    record name fields r v = .ok r' ↔
      ((∃ members, v = .object members) ∨
        ∃ items, v = .array items ∧ items.length ≤ fields.length) ∧
        setMembers fields (written (fields.map (·.name)) v) r = .ok r' := by
  cases v with
  | object members => simp [record, written]
  | array items =>
    by_cases hlength : items.length ≤ fields.length
    · have hset :=
        setItems_eq_setMembers (fun f hf => find?_of_mem hnodup hf) hlength items.length r
      simp [record, written, hlength, hset, Function.comp_def]
    · have hset := setItems_of_lt (Nat.lt_of_not_le hlength) items.length r r'
      simp [record, hlength, hset]
  | _ => simp [record]

/-! ## Fields that read what is declared -/

/-- Whether a field has the declared name and is set exactly by the values that are declared for
it. -/
structure FieldShape.Reads (f : FieldShape ρ) (d : Declared) : Prop where
  name_eq : f.name = d.name
  exists_set_iff : ∀ v r, (∃ r', f.set v r = .ok r') ↔ d.Takes v

theorem FieldShape.reads_of {α : Type} {name : String} {shape : Json → Except ShapeError α}
    {update : α → ρ → ρ} {Takes : Json → Prop} (h : ∀ {v}, (∃ a, shape v = .ok a) ↔ Takes v) :
    (FieldShape.of name shape update).Reads ⟨name, Takes⟩ where
  name_eq := rfl
  exists_set_iff v r := by
    show (∃ r', (shape v).map (fun a => update a r) = .ok r') ↔ Takes v
    rw [← h]
    cases shape v <;> simp [Except.map]

variable {declared : List Declared}

theorem names_eq (h : List.Forall₂ FieldShape.Reads fields declared) :
    fields.map (·.name) = declared.map (·.name) := by
  induction h with
  | nil => rfl
  | cons hf _ ih => rw [List.map_cons, List.map_cons, hf.name_eq, ih]

theorem exists_of_mem_forall₂ {α β : Type*} {R : α → β → Prop} {xs : List α} {ys : List β}
    (h : List.Forall₂ R xs ys) {x : α} (hx : x ∈ xs) : ∃ y ∈ ys, R x y := by
  induction h with
  | nil => cases hx
  | @cons a b xs ys hab _ ih =>
    rcases List.mem_cons.mp hx with rfl | hx
    · exact ⟨b, List.mem_cons_self, hab⟩
    · obtain ⟨y, hy, hxy⟩ := ih hx
      exact ⟨y, List.mem_cons_of_mem b hy, hxy⟩

theorem not_declared_of_find? (h : List.Forall₂ FieldShape.Reads fields declared) {key : Text}
    (hfind : (fields.find? fun f => f.name.toList == key) = none) :
    ∀ d ∈ declared, d.name.toList ≠ key := by
  intro d hd hkey
  have hname : d.name ∈ fields.map (·.name) := by
    rw [names_eq h]
    exact List.mem_map_of_mem hd
  obtain ⟨f, hf, hfname⟩ := List.mem_map.mp hname
  exact List.find?_eq_none.mp hfind f hf (by simp [hfname, hkey])

theorem exists_setMembers_iff (h : List.Forall₂ FieldShape.Reads fields declared)
    (hnodup : (declared.map (·.name)).Nodup) (members : List (Text × Json)) (r : ρ) :
    (∃ r', setMembers fields members r = .ok r') ↔
      ∀ p ∈ members, ∃ d ∈ declared, d.name.toList = p.1 ∧ d.Takes p.2 := by
  induction members generalizing r with
  | nil => simp [setMembers]
  | cons p rest ih =>
    obtain ⟨key, value⟩ := p
    rw [List.forall_mem_cons]
    cases hfind : fields.find? fun f => f.name.toList == key with
    | none =>
      refine iff_of_false ?_ ?_
      · simp [setMembers, hfind]
      · rintro ⟨⟨d, hd, hname, _⟩, _⟩
        exact not_declared_of_find? h hfind d hd hname
    | some f =>
      obtain ⟨d, hd, hread⟩ := exists_of_mem_forall₂ h (List.mem_of_find?_eq_some hfind)
      have hkey : d.name.toList = key := by
        rw [← hread.name_eq]
        simpa using List.find?_some hfind
      -- No other field is declared with this name.
      have htakes : (∃ e ∈ declared, e.name.toList = key ∧ e.Takes value) ↔ d.Takes value := by
        constructor
        · rintro ⟨e, he, hname, htake⟩
          have hsame : e.name = d.name := String.toList_inj.mp (hname.trans hkey.symm)
          rwa [← List.inj_on_of_nodup_map hnodup he hd hsame]
        · exact fun htake => ⟨d, hd, hkey, htake⟩
      rw [htakes, ← hread.exists_set_iff value r, setMembers_cons hfind]
      cases hset : f.set value r with
      | error e => simp [Except.bind]
      | ok next =>
        show (∃ r', setMembers fields rest next = .ok r') ↔ _
        rw [ih]
        simp

/-- A record is read exactly from the values that have its declared fields. -/
theorem exists_record_iff (h : List.Forall₂ FieldShape.Reads fields declared)
    (hnodup : (declared.map (·.name)).Nodup)
    (name : String) (r : ρ) (v : Json) :
    (∃ r', record name fields r v = .ok r') ↔ IsRecord declared v := by
  have hnames := names_eq h
  simp only [record_eq_ok_iff (hnames ▸ hnodup), exists_and_left, hnames,
    exists_setMembers_iff h hnodup]
  constructor
  · rintro ⟨⟨members, rfl⟩ | ⟨items, rfl, hlength⟩, htakes⟩
    · exact .object htakes
    · refine .array (by rwa [h.length_eq] at hlength) ?_
      rintro ⟨d, v⟩ hd
      have hwritten : (d.name.toList, v) ∈ written (declared.map (·.name)) (.array items) := by
        rw [written, List.map_map, List.zip_map_left]
        exact List.mem_map.mpr ⟨(d, v), hd, rfl⟩
      -- The field of this name is the one at this place, since names are not repeated.
      obtain ⟨e, he, hname, htake⟩ := htakes _ hwritten
      rwa [List.inj_on_of_nodup_map hnodup (List.of_mem_zip hd).1 he
        (String.toList_inj.mp hname.symm)]
  · rintro (⟨htakes⟩ | ⟨hlength, htakes⟩)
    · exact ⟨.inl ⟨_, rfl⟩, htakes⟩
    · refine ⟨.inr ⟨_, rfl, by rwa [h.length_eq]⟩, ?_⟩
      intro p hp
      rw [written, List.map_map, List.zip_map_left] at hp
      obtain ⟨⟨d, v⟩, hd, rfl⟩ := List.mem_map.mp hp
      exact ⟨d, (List.of_mem_zip hd).1, rfl, htakes _ hd⟩

/-! ## Views that follow a field -/

/-- Whether a view of a record is the texts of a field when this is set, and stays as it is when
another one is. -/
def FieldShape.Tracks (key : String) (view : ρ → List Text) (f : FieldShape ρ) : Prop :=
  ∀ v r r', f.set v r = .ok r' → view r' = if f.name = key then texts v else view r

theorem FieldShape.tracks_of {α : Type} {name key : String} {shape : Json → Except ShapeError α}
    {update : α → ρ → ρ}
    {view : ρ → List Text} (hname : name ≠ key) (h : ∀ a r, view (update a r) = view r) :
    (FieldShape.of name shape update).Tracks key view := by
  intro v r r' hset
  change (shape v).map (fun a => update a r) = .ok r' at hset
  cases hshape : shape v with
  | error e =>
    rw [hshape] at hset
    cases hset
  | ok a =>
    rw [hshape] at hset
    cases hset
    exact (h a r).trans (if_neg hname).symm

/-- What is written last for a field is what the view of the record shows. -/
theorem view_of_setMembers {key : String} {view : ρ → List Text}
    (h : ∀ f ∈ fields, f.Tracks key view)
    {members : List (Text × Json)} {r r' : ρ} (hset : setMembers fields members r = .ok r') :
    view r' = ((members.reverse.lookup key.toList).map texts).getD (view r) := by
  induction members generalizing r with
  | nil =>
    cases hset
    rfl
  | cons p rest ih =>
    obtain ⟨k, value⟩ := p
    cases hfind : fields.find? fun f => f.name.toList == k with
    | none => simp [setMembers, hfind] at hset
    | some f =>
      have hname : f.name.toList = k := by simpa using List.find?_some hfind
      rw [setMembers_cons hfind] at hset
      cases hvalue : f.set value r with
      | error e =>
        rw [hvalue] at hset
        cases hset
      | ok next =>
        rw [hvalue] at hset
        have hnext := h f (List.mem_of_find?_eq_some hfind) value r next hvalue
        rw [ih hset, List.reverse_cons, List.lookup_append]
        -- A later member of the same key overrides this one.
        cases hrest : rest.reverse.lookup key.toList with
        | some w => rfl
        | none =>
          rw [hnext]
          by_cases hkey : f.name = key
          · simp [← hname, hkey]
          · have hne : (key.toList == k) = false := by
              rw [← hname]
              exact beq_eq_false_iff_ne.mpr fun heq => hkey (String.toList_inj.mp heq.symm)
            simp [hkey, List.lookup_cons, hne]

end Shape

end PureLint.Json
