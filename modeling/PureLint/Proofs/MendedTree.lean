import PureLint.Proofs.LaxerRules

/-!
# Trees of mended texts

`preferReadonlyType` mends a text without regard to its grammar: it puts `readonly` before a byte,
or writes the read-only form of a collection over its name. What was meant is a change of the tree.
A mended array or tuple becomes the operand of `readonly`, a mended property has the modifier, and a
mended reference has another name; nothing else is touched. `carriedOut` decides whether one tree is
another one so changed.

If it is, the nodes above a site are what became of those above it before (`Trail`). The questions
that the ignore options ask about surroundings do not tell the two apart, and the texts are those
that they were. So the rule ignores the same sites as before (`shouldIgnore_eq`).
-/

namespace PureLint.Mending

open Rules.PreferReadonlyType

/-! ## What mending means for a tree -/

/-- The label of a property once it is readonly. -/
def readonlyLabel : Label → Label
  | .indexSignature _ isStatic => .indexSignature true isStatic
  | .propertySignature _ => .propertySignature true
  | .propertyDefinition computed _ => .propertyDefinition computed true
  | .formalParameter accessible _ => .formalParameter accessible true
  | l => l

/-- The read-only form of a name, if it has one. -/
def readonlyName (name : Text) : Text :=
  match Builtin.readonlyForm? name with
  | some form => form.toList
  | none => name

/-- Whether `readonly` may be written before a type. -/
def isListType : Label → Bool
  | .arrayType | .tupleType => true
  | _ => false

def isReference : Label → Bool
  | .typeReference => true
  | _ => false

def isReadonlyOperator : Label → Bool
  | .typeOperator .readonly => true
  | _ => false

/-- Whether a node answers for its own texts: the rule looks at it, or a node right below has its
texts. -/
def lends (t : Tree) : Bool := runsOn t.label || t.children.any fun c => Ignore.borrows c.label

section

variable (made : Site → Bool)

/-- Whether a site is the name of a reference that is mended. The name is the first child. -/
def isRenamed (s : Site) : Bool :=
  match s.above with
  | p :: rest => isReference p.tree.label && made ⟨p, rest⟩ && s.node.id == p.id + 1
  | [] => false

/-- The label of a site after those that are `made` are mended. -/
def mendedLabel (s : Site) : Label :=
  match s.label with
  | .identifierReference name =>
    .identifierReference (if isRenamed made s then readonlyName name else name)
  | l => if made s then readonlyLabel l else l

/-- Whether a site becomes the operand of `readonly`. -/
def isWrapped (s : Site) : Bool := isListType s.label && made s

variable (source source' : Text)

mutual

/-- Whether the second tree is the first one with the sites mended that are `made`, where the root
of the first one has the number `id` and lies below `above`. Nodes that answer for their texts keep
them. -/
def carriedOut (above : List Node) (id : Nat) : Tree → Tree → Bool
  | .node label span children, t' =>
    let here : Node := ⟨id, .node label span children⟩
    let became (u : Tree) :=
      decide (u.label = mendedLabel made ⟨here, above⟩) &&
        (!lends here.tree || Ignore.ownTexts source' u == Ignore.ownTexts source here.tree) &&
        carriedOutAll (here :: above) (id + 1) children u.children
    if isWrapped made ⟨here, above⟩ then
      match t' with
      | .node (.typeOperator .readonly) _ [u] => became u
      | _ => false
    else became t'

/-- The same of neighbours. -/
def carriedOutAll (above : List Node) (id : Nat) : List Tree → List Tree → Bool
  | [], [] => true
  | t :: ts, t' :: ts' => carriedOut above id t t' && carriedOutAll above (id + t.size) ts ts'
  | _, _ => false

end

/-- What became of a node below `above`. -/
structure Became (n : Node) (above : List Node) (u : Tree) : Prop where
  label : u.label = mendedLabel made ⟨n, above⟩
  texts : lends n.tree = true → Ignore.ownTexts source' u = Ignore.ownTexts source n.tree
  children : carriedOutAll made source source' (n :: above) (n.id + 1) n.tree.children u.children =
    true

end

variable {made : Site → Bool} {source source' : Text}

/-- A tree is carried out if its root became the root, behind `readonly` where it is wrapped. -/
theorem became_of_carriedOut {above : List Node} {id : Nat} {t t' : Tree}
    (h : carriedOut made source source' above id t t' = true) :
    (isWrapped made ⟨⟨id, t⟩, above⟩ = false ∧ Became made source source' ⟨id, t⟩ above t') ∨
      (isWrapped made ⟨⟨id, t⟩, above⟩ = true ∧
        ∃ span u, t' = .node (.typeOperator .readonly) span [u] ∧
        Became made source source' ⟨id, t⟩ above u) := by
  obtain ⟨label, span, children⟩ := t
  have hbecame : ∀ u : Tree,
      (decide (u.label = mendedLabel made ⟨⟨id, .node label span children⟩, above⟩) &&
      (!lends (.node label span children) ||
        Ignore.ownTexts source' u == Ignore.ownTexts source (.node label span children)) &&
      carriedOutAll made source source' (⟨id, .node label span children⟩ :: above) (id + 1) children
        u.children) = true →
      Became made source source' ⟨id, .node label span children⟩ above u := by
    intro u hu
    simp only [Bool.and_eq_true, decide_eq_true_eq, Bool.or_eq_true, Bool.not_eq_true',
      beq_iff_eq] at hu
    refine ⟨hu.1.1, fun hlends => ?_, hu.2⟩
    rcases hu.1.2 with hno | htexts
    · rw [hlends] at hno
      cases hno
    · exact htexts
  simp only [carriedOut] at h
  split at h
  · rename_i hwrapped
    split at h
    · rename_i span' u
      exact .inr ⟨hwrapped, span', u, rfl, hbecame u h⟩
    · cases h
  · rename_i hwrapped
    exact .inl ⟨by simpa using hwrapped, hbecame t' h⟩

/-! ## Questions that mending does not change -/

/-- Whether a question about labels asks neither for the name of a reference nor for `readonly`. -/
structure IsBlind (p : Label → Bool) : Prop where
  reference : ∀ a b, p (.identifierReference a) = p (.identifierReference b) := by intros; rfl
  indexSignature : ∀ a b isStatic,
    p (.indexSignature a isStatic) = p (.indexSignature b isStatic) := by intros; rfl
  propertySignature : ∀ a b, p (.propertySignature a) = p (.propertySignature b) := by intros; rfl
  propertyDefinition : ∀ computed a b,
    p (.propertyDefinition computed a) = p (.propertyDefinition computed b) := by
    intros; rfl
  formalParameter : ∀ accessible a b,
    p (.formalParameter accessible a) = p (.formalParameter accessible b) := by
    intros; rfl

theorem IsBlind.readonlyLabel {p : Label → Bool} (h : IsBlind p) (l : Label) :
    p (readonlyLabel l) = p l := by
  unfold Mending.readonlyLabel
  split
  · exact h.indexSignature ..
  · exact h.propertySignature ..
  · exact h.propertyDefinition ..
  · exact h.formalParameter ..
  · rfl

theorem IsBlind.mendedLabel {p : Label → Bool} (h : IsBlind p) (s : Site) :
    p (mendedLabel made s) = p s.label := by
  unfold Mending.mendedLabel
  split
  · rename_i name hlabel
    rw [hlabel]
    exact h.reference ..
  · split
    · exact h.readonlyLabel _
    · rfl

theorem IsBlind.became {p : Label → Bool} (h : IsBlind p) {n : Node} {above : List Node} {u : Tree}
    (hu : Became made source source' n above u) : p u.label = p n.tree.label := by
  rw [hu.label, h.mendedLabel, Site.label]

theorem of_isWrapped {p : Label → Prop} (harray : p .arrayType) (htuple : p .tupleType) {s : Site}
    (h : isWrapped made s = true) : p s.label := by
  have hlist := (Bool.and_eq_true_iff.mp h).1
  unfold isListType at hlist
  split at hlist
  · rename_i hl
    rwa [hl]
  · rename_i hl
    rwa [hl]
  · cases hlist

/-- A blind question that does not tell a list type from one with `readonly` is answered as
before. -/
theorem IsBlind.label_eq {p : Label → Bool} (h : IsBlind p)
    (harray : p .arrayType = p (.typeOperator .readonly))
    (htuple : p .tupleType = p (.typeOperator .readonly)) {above : List Node} {id : Nat}
    {t t' : Tree}
    (hout : carriedOut made source source' above id t t' = true) : p t'.label = p t.label := by
  rcases became_of_carriedOut hout with ⟨_, hbecame⟩ | ⟨hwrapped, span, u, rfl, _⟩
  · exact h.became hbecame
  · exact of_isWrapped (p := fun l => p (.typeOperator .readonly) = p l) harray.symm htuple.symm
      hwrapped

theorem IsBlind.any_eq {p : Label → Bool} (h : IsBlind p)
    (harray : p .arrayType = p (.typeOperator .readonly))
    (htuple : p .tupleType = p (.typeOperator .readonly)) {above : List Node} {id : Nat}
    {ts ts' : List Tree} (hout : carriedOutAll made source source' above id ts ts' = true) :
    ts'.any (fun t => p t.label) = ts.any fun t => p t.label := by
  induction ts generalizing id ts' with
  | nil =>
    cases ts' with
    | nil => rfl
    | cons t' ts' => simp [carriedOutAll] at hout
  | cons t ts ih =>
    cases ts' with
    | nil => simp [carriedOutAll] at hout
    | cons t' ts' =>
      rw [carriedOutAll, Bool.and_eq_true] at hout
      rw [List.any_cons, List.any_cons, h.label_eq harray htuple hout.1, ih hout.2]

/-! ## What lies above a site -/

/-- The nodes from a site up, before and after mending. A node that is wrapped has `readonly` right
above it afterwards. -/
inductive Trail (made : Site → Bool) (source source' : Text) : List Node → List Node → Prop
  | nil : Trail made source source' [] []
  | keep {n n' : Node} {above above' : List Node} (h : Trail made source source' above above')
    (hlinked : ∀ p ∈ above.head?, n.tree ∈ p.tree.children)
    (hbecame : Became made source source' n above n'.tree)
    (hkept : isWrapped made ⟨n, above⟩ = false) : Trail made source source' (n :: above)
    (n' :: above')
  | wrap {n n' w : Node} {above above' : List Node} (h : Trail made source source' above above')
    (hlinked : ∀ p ∈ above.head?, n.tree ∈ p.tree.children)
    (hbecame : Became made source source' n above n'.tree)
    (hwrapped : isWrapped made ⟨n, above⟩ = true) (hw : w.tree.label = .typeOperator .readonly) :
    Trail made source source' (n :: above) (n' :: w :: above')

/-- The texts that a node right below the given nodes would have of them. -/
def textsAbove (source : Text) : List Node → List Text
  | [] => []
  | n :: above => Ignore.textsBelow source n.tree above

theorem textsAbove_cons (source : Text) (n : Node) (above : List Node) :
    textsAbove source (n :: above) =
      if Ignore.borrows n.tree.label then textsAbove source above
        else Ignore.ownTexts source n.tree := by
  cases above <;> rfl

namespace Trail

theorem any_eq {above above' : List Node} (h : Trail made source source' above above')
    {p : Label → Bool} (hp : IsBlind p) (hoperator : p (.typeOperator .readonly) = false) :
    above'.any (fun n => p n.tree.label) = above.any fun n => p n.tree.label := by
  induction h with
  | nil => rfl
  | keep _ _ hbecame _ ih =>
    rw [List.any_cons, List.any_cons, ih, hp.became hbecame]
  | wrap _ _ hbecame _ hw ih =>
    rw [List.any_cons, List.any_cons, List.any_cons, ih, hw, hoperator, hp.became hbecame,
      Bool.false_or]

theorem head?_any_eq {above above' : List Node} (h : Trail made source source' above above')
    {p : Label → Bool}
    (hp : IsBlind p) :
    above'.head?.any (fun n => p n.tree.label) = above.head?.any fun n => p n.tree.label := by
  cases h with
  | nil => rfl
  | keep _ _ hbecame _ | wrap _ _ hbecame _ _ =>
    rw [List.head?_cons, List.head?_cons, Option.any_some, Option.any_some, hp.became hbecame]

theorem returnTypeAbove_eq {above above' : List Node} (h : Trail made source source' above above') :
    Site.returnTypeAbove above' = Site.returnTypeAbove above := by
  have hascription : IsBlind Label.isTypeAscription := {}
  have hreturn : IsBlind Site.hasReturnType := {}
  induction h with
  | nil => rfl
  | keep h _ hbecame _ ih =>
    rw [Site.returnTypeAbove, Site.returnTypeAbove, hascription.became hbecame, ih,
      h.head?_any_eq hreturn]
  | @wrap n n' w above above' _ _ hbecame hwrapped hw ih =>
    -- Neither a list type nor the operator before it is where a type is written.
    have hlist : n.tree.label.isTypeAscription = false :=
      of_isWrapped (p := fun l => l.isTypeAscription = false) rfl rfl hwrapped
    rw [Site.returnTypeAbove, Site.returnTypeAbove, Site.returnTypeAbove,
      hascription.became hbecame, hw, hlist]
    simpa [Label.isTypeAscription] using ih

/-- A list type, and also the operator before it, has the texts of what lies above. -/
theorem textsAbove_eq {above above' : List Node} (h : Trail made source source' above above')
    (hlends : ∀ n ∈ above.head?, lends n.tree = true) :
    textsAbove source' above' = textsAbove source above := by
  have hborrows : IsBlind Ignore.borrows := {}
  -- A node that has the texts of its parent makes the parent answer for them.
  have hparent : ∀ {n : Node} {above : List Node}, (∀ p ∈ above.head?, n.tree ∈ p.tree.children) →
      Ignore.borrows n.tree.label = true → ∀ p ∈ above.head?, lends p.tree = true := by
    intro n above hlinked hn p hp
    exact Bool.or_eq_true_iff.mpr (.inr (List.any_eq_true.mpr ⟨n.tree, hlinked p hp, hn⟩))
  induction h with
  | nil => rfl
  | @keep n n' above above' _ hlinked hbecame _ ih =>
    rw [textsAbove_cons, textsAbove_cons, hborrows.became hbecame]
    cases hn : Ignore.borrows n.tree.label with
    | true => simpa using ih (hparent hlinked hn)
    | false => simpa using hbecame.texts (hlends n rfl)
  | @wrap n n' w above above' _ hlinked hbecame hwrapped hw ih =>
    have hn : Ignore.borrows n.tree.label = true :=
      of_isWrapped (p := fun l => Ignore.borrows l = true) rfl rfl hwrapped
    rw [textsAbove_cons, textsAbove_cons, textsAbove_cons, hborrows.became hbecame, hn, hw]
    simpa [Ignore.borrows] using ih (hparent hlinked hn)

end Trail

/-! ## What is ignored -/

/-- Whether the second site is what became of the first. -/
def IsMendedSite (made : Site → Bool) (source source' : Text) (s s' : Site) : Prop :=
  Trail made source source' (s.node :: s.above) (s'.node :: s'.above)

/-- Of the sites that the rule looks at only fields count as mutations of fields. -/
theorem isFieldMutation_eq {s : Site} (h : runsOn s.label = true) :
    Ignore.isFieldMutation s = Ignore.isField s.label := by
  obtain ⟨⟨id, label, span, children⟩, above⟩ := s
  change runsOn label = true at h
  change _ = Ignore.isField label
  unfold Ignore.isFieldMutation
  split
  · rename_i htree
    cases htree
    rfl
  · rename_i htree
    cases htree
    cases h
  · rename_i hfield _
    unfold Ignore.isField
    split
    · exact absurd rfl (hfield _ _ span children)
    · rfl

namespace IsMendedSite

variable {s s' : Site}

/-- Above what became of a site lies what became of the nodes above it, and `readonly` before them
if the site is wrapped. -/
theorem above (h : IsMendedSite made source source' s s') :
    (isWrapped made s = false ∧ Trail made source source' s.above s'.above) ∨
      (isWrapped made s = true ∧
        ∃ w above', s'.above = w :: above' ∧ w.tree.label = .typeOperator .readonly ∧
        Trail made source source' s.above above') := by
  obtain ⟨n', above'⟩ := s'
  unfold IsMendedSite at h
  cases h with
  | keep h _ _ hkept => exact .inl ⟨hkept, h⟩
  | wrap h _ _ hwrapped hw => exact .inr ⟨hwrapped, _, _, rfl, hw, h⟩

theorem became (h : IsMendedSite made source source' s s') :
    Became made source source' s.node s.above s'.tree := by
  obtain ⟨n', above'⟩ := s'
  unfold IsMendedSite at h
  cases h with
  | keep _ _ hbecame _ | wrap _ _ hbecame _ _ => exact hbecame

theorem label_eq (h : IsMendedSite made source source' s s') : s'.label = mendedLabel made s :=
  h.became.label

theorem blind_eq (h : IsMendedSite made source source' s s') {p : Label → Bool} (hp : IsBlind p) :
    p s'.label = p s.label :=
  hp.became h.became

theorem hasAbove_eq (h : IsMendedSite made source source' s s') {p : Label → Bool} (hp : IsBlind p)
    (hoperator : p (.typeOperator .readonly) = false) : s'.hasAbove p = s.hasAbove p := by
  unfold Site.hasAbove
  rcases h.above with ⟨_, h⟩ | ⟨_, w, above', habove, hw, h⟩
  · exact h.any_eq hp hoperator
  · rw [habove, List.any_cons, hw, hoperator, Bool.false_or, h.any_eq hp hoperator]

theorem inReturnType_eq (h : IsMendedSite made source source' s s') :
    s'.inReturnType = s.inReturnType := by
  unfold Site.inReturnType
  rcases h.above with ⟨_, h⟩ | ⟨_, w, above', habove, hw, h⟩
  · exact h.returnTypeAbove_eq
  · rw [habove, Site.returnTypeAbove, hw, ← h.returnTypeAbove_eq]
    rfl

theorem isReadonlyOperand_eq (h : IsMendedSite made source source' s s') :
    isReadonlyOperand s' = (isWrapped made s || isReadonlyOperand s) := by
  have hoperand : ∀ s,
      isReadonlyOperand s = s.above.head?.any fun n => isReadonlyOperator n.tree.label := by
    rintro ⟨n, above⟩
    cases above with
    | nil => rfl
    | cons p rest =>
      simp only [isReadonlyOperand, isReadonlyOperator, Site.parentLabel?, Site.parent?,
        List.head?_cons, Option.map_some, Option.any_some]
      split <;> simp_all
  have hblind : IsBlind isReadonlyOperator := {}
  rw [hoperand, hoperand]
  rcases h.above with ⟨hkept, h⟩ | ⟨hwrapped, w, above', habove, hw, _⟩
  · rw [hkept, h.head?_any_eq hblind, Bool.false_or]
  · rw [hwrapped, habove, List.head?_cons, Option.any_some, hw]
    rfl

/-- A site that the rule looks at is ignored after mending if it was ignored before. -/
theorem shouldIgnore_eq (h : IsMendedSite made source source' s s') (hruns : runsOn s.label = true)
    (i : IgnoreOptions) : Ignore.shouldIgnore source' i s' = Ignore.shouldIgnore source i s := by
  have hruns' : runsOn s'.label = true := (h.blind_eq (p := runsOn) {}).trans hruns
  have hfield : Ignore.isField s'.label = Ignore.isField s.label := h.blind_eq {}
  have haccess : Ignore.isAccess s'.label = Ignore.isAccess s.label := h.blind_eq {}
  have hplace : Ignore.ignoredByPlace i s' = Ignore.ignoredByPlace i s := by
    simp only [Ignore.ignoredByPlace, Site.inFunctionBody, Site.inClass, Site.inInterfaceBody]
    rw [h.hasAbove_eq {} rfl, h.hasAbove_eq {} rfl, h.hasAbove_eq {} rfl, isFieldMutation_eq hruns,
      isFieldMutation_eq hruns', hfield]
  have htexts : Ignore.identifierTexts source' s' = Ignore.identifierTexts source s :=
    Trail.textsAbove_eq h fun n hn => by
      obtain rfl := Option.some.inj hn
      exact Bool.or_eq_true_iff.mpr (.inl hruns)
  have haffix : Ignore.ignoredByAffix i s'.label = Ignore.ignoredByAffix i s.label := by
    funext t
    rw [Ignore.ignoredByAffix, Ignore.ignoredByAffix, haccess]
  simp only [Ignore.shouldIgnore, Ignore.ignoredByText]
  rw [hplace, htexts, haffix]

end IsMendedSite

end PureLint.Mending
