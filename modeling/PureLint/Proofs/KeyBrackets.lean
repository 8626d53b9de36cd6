import PureLint.Proofs.TextPieces
import PureLint.Rules.ReadonlyTypes
import PureLint.SourceFile

/-!
# The bracket that opens a key

`preferReadonlyType` mends a field of a class by `readonly` before its key, and before the bracket
that opens the key if it is computed. No node of the tree is that bracket. It is taken to be the
last one in the source between the beginning of the field and the key (`check_of_hasComputedKey`),
and so it does not matter what stands before it: modifiers, decorators with brackets of their own,
comments. It does matter what stands between the bracket and the key. If a comment there has a
bracket in it, `readonly` goes into the comment, and otherwise it goes where it should
(`readonly_before_opening_iff`).
-/

namespace PureLint.Rules.PreferReadonlyType

/-- What stands between the beginning of a field and its key. -/
def textBeforeKey? (source : Text) (s : Site) : Option Text :=
  s.tree.firstPart?.map fun key => Span.textIn source ⟨s.span.start, key.start⟩

/-- Whether a site is a field that may be changed and has a computed key, with `before` between the
beginning of the field and the bracket that opens the key, and `gap` between that bracket and the
key. -/
structure HasComputedKey (source : Text) (s : Site) (before gap : Text) : Prop where
  label_eq : s.label = .propertyDefinition true false
  text_eq : textBeforeKey? source s = some (before ++ '[' :: gap)

instance (source : Text) (s : Site) (before gap : Text) :
    Decidable (HasComputedKey source s before gap) :=
  decidable_of_iff
    (s.label = .propertyDefinition true false ∧
      textBeforeKey? source s = some (before ++ '[' :: gap))
    ⟨fun h => ⟨h.1, h.2⟩, fun h => ⟨h.1, h.2⟩⟩

/-- The bytes before the last bracket of a text are those before the given one, exactly if no
bracket follows that one. -/
theorem rfindByte?_bracket (before gap : Text) :
    ∃ found behind, before ++ '[' :: gap = found ++ '[' :: behind ∧ '[' ∉ behind ∧
      Text.rfindByte? '[' (before ++ '[' :: gap) = some found.byteLength ∧
      (found.byteLength = before.byteLength ↔ '[' ∉ gap) := by
  by_cases hgap : '[' ∈ gap
  -- The last bracket is the last one of the gap, and the given one counts among the bytes before
  -- it.
  · obtain ⟨inner, behind, rfl, hbehind⟩ := Text.exists_last_of_mem hgap
    have htext : before ++ '[' :: (inner ++ '[' :: behind) =
        (before ++ '[' :: inner) ++ '[' :: behind := by simp
    refine ⟨before ++ '[' :: inner, behind, htext, hbehind, ?_, ?_⟩
    · rw [htext, Text.rfindByte?_eq, Text.beforeLast?_append_cons _ hbehind]
      rfl
    · have hpos := Char.utf8Size_pos '['
      rw [Text.byteLength_append, Text.byteLength_cons]
      apply iff_of_false
      · omega
      · simp
  · refine ⟨before, gap, rfl, hgap, ?_, iff_of_true rfl hgap⟩
    rw [Text.rfindByte?_eq, Text.beforeLast?_append_cons before hgap]
    rfl

variable {source : Text} {s : Site} {before gap : Text}

/-- A field that may be changed is mended where the last bracket before its computed key stands. -/
theorem check_of_hasComputedKey (o : Options) (h : HasComputedKey source s before gap)
    {offset : Nat} (hfound : Text.rfindByte? '[' (before ++ '[' :: gap) = some offset) :
    (check o source s).diagnostics =
      [property s.span [insertReadonly (s.span.start + offset)]] := by
  obtain ⟨key, hkey, htext⟩ := Option.map_eq_some_iff.mp h.text_eq
  have hinsertion : fieldInsertion source true s.span key.start = s.span.start + offset := by
    rw [fieldInsertion, if_pos rfl, htext, hfound]
  simp only [check, h.label_eq, checkProperty, hkey, Option.map_some, hinsertion,
    CheckResult.ofOption, Option.toList_some, Bool.false_eq_true, if_false]

/-- A field with a computed key has one report, which is mended before the last bracket that stands
before the key. That is the bracket that opens the key exactly if there is none between this one and
the key. -/
theorem readonly_before_opening_iff (o : Options) (h : HasComputedKey source s before gap) :
    ((check o source s).diagnostics =
      [property s.span [insertReadonly (s.span.start + before.byteLength)]] ↔
        '[' ∉ gap) ∧
      ∃ found behind, before ++ '[' :: gap = found ++ '[' :: behind ∧ '[' ∉ behind ∧
        (check o source s).diagnostics =
          [property s.span [insertReadonly (s.span.start + found.byteLength)]] := by
  obtain ⟨found, behind, htext, hbehind, hfound, hiff⟩ := rfindByte?_bracket before gap
  have hcheck := check_of_hasComputedKey o h hfound
  refine ⟨?_, found, behind, htext, hbehind, hcheck⟩
  rw [hcheck, ← hiff]
  simp [property, insertReadonly, Fix.insert]

/-- A field behind a decorator and a comment that both have brackets in them. -/
def decoratedField : Text := "class A{@d(a[0])static/*[*/[ k]=1}".toList

theorem readonly_before_opening_decoratedField :
    ∃ file s,
      SourceFile.parse? decoratedField (some "p.ts".toList) = some file ∧ s ∈ file.tree.sites ∧
      HasComputedKey decoratedField s "@d(a[0])static/*[*/".toList [' '] ∧
      (check {} decoratedField s).diagnostics =
        [property s.span [insertReadonly (s.span.start + 19)]] := by
  have hread : ((SourceFile.parse? decoratedField (some "p.ts".toList)).any fun file =>
      file.tree.sites.any fun s =>
        decide (HasComputedKey decoratedField s "@d(a[0])static/*[*/".toList [' '])) = true := by
    decide +kernel
  simp only [Option.any_eq_true, List.any_eq_true, decide_eq_true_eq] at hread
  obtain ⟨file, hfile, s, hs, hkey⟩ := hread
  exact ⟨file, s, hfile, hs, hkey, (readonly_before_opening_iff {} hkey).1.mpr (by decide)⟩

/-- A field with a comment between the bracket that opens its key and the key. -/
def commentedKey : Text := "class A{[/*[*/k]=1}".toList

/-- The field begins with the bracket that opens its key, and `readonly` goes into the comment
behind it. -/
theorem bracket_of_comment_taken :
    ∃ file s,
      SourceFile.parse? commentedKey (some "p.ts".toList) = some file ∧ s ∈ file.tree.sites ∧
        s.span.start = 8 ∧
      HasComputedKey commentedKey s [] "/*[*/".toList ∧
      (check {} commentedKey s).diagnostics = [property s.span [insertReadonly 11]] := by
  have hread : ((SourceFile.parse? commentedKey (some "p.ts".toList)).any fun file =>
      file.tree.sites.any fun s =>
        decide (s.span.start = 8 ∧ HasComputedKey commentedKey s [] "/*[*/".toList ∧
        (check {} commentedKey s).diagnostics = [property s.span [insertReadonly 11]])) = true := by
    decide +kernel
  simp only [Option.any_eq_true, List.any_eq_true, decide_eq_true_eq] at hread
  obtain ⟨file, hfile, s, hs, hfix⟩ := hread
  exact ⟨file, s, hfile, hs, hfix⟩

end PureLint.Rules.PreferReadonlyType
