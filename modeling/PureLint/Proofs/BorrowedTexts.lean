import Mathlib.Data.List.Forall2
import Mathlib.Logic.Relation
import PureLint.Ignore
import PureLint.Proofs.SiteTable
import PureLint.SourceFile

/-!
# Where borrowed texts come from

A type has the texts of the node above it, and this goes on for as long as that is a type as well.
Seen from a table of nodes, in which each node knows the number of the one above it and the root its
own, a call for the texts of a node calls for those of another (`Gives`), and nothing in the table
says that this ends: at a root that borrows it would not. If the node above each but the root stands
earlier, then every call comes down to the root at the latest (`exists_owner`), and a program does
not borrow. So the texts are those of the nearest node on the way that does not borrow, and
`Ignore.identifierTexts` gives them for the table of a tree (`gives_identifierTexts`).
-/

namespace PureLint

/-- A node of a table, with the number of the node above it. -/
structure Link where
  tree : Tree
  parent : Nat

/-- The number of the node right above a site; the root is above itself. -/
def Site.parentId (s : Site) : Nat := (s.above.head?.map (·.id)).getD s.node.id

/-- The table of the nodes of a tree. -/
def Tree.links (t : Tree) : List Link := t.sites.map fun s => ⟨s.tree, s.parentId⟩

namespace Ignore

/-! ## Calls for texts -/

/-- Whether a call for the texts of a node calls for those of the node with the number `above`. -/
def BorrowsFrom (table : List Link) (id above : Nat) : Prop :=
  ∃ l, table[id]? = some l ∧ borrows l.tree.label = true ∧ l.parent = above

/-- Whether a call for the texts of a node ends, and gives `texts`. -/
inductive Gives (source : Text) (table : List Link) : Nat → List Text → Prop
  | own {id : Nat} {l : Link} (hl : table[id]? = some l) (howns : borrows l.tree.label = false) :
      Gives source table id (ownTexts source l.tree)
  | borrowed {id : Nat} {l : Link} {texts : List Text} (hl : table[id]? = some l)
    (hborrows : borrows l.tree.label = true)
      (h : Gives source table l.parent texts) : Gives source table id texts

variable {source : Text} {table : List Link} {id : Nat}

theorem Gives.unique {texts others : List Text} (h : Gives source table id texts)
    (hothers : Gives source table id others) : others = texts := by
  induction h with
  | own hl howns =>
    cases hothers with
    | own hl' _ =>
      rw [hl] at hl'
      cases hl'
      rfl
    | borrowed hl' hborrows _ =>
      rw [hl] at hl'
      cases hl'
      rw [howns] at hborrows
      cases hborrows
  | borrowed hl hborrows _ ih =>
    cases hothers with
    | own hl' howns =>
      rw [hl] at hl'
      cases hl'
      rw [howns] at hborrows
      cases hborrows
    | borrowed hl' _ hothers =>
      rw [hl] at hl'
      cases hl'
      exact ih hothers

/-- A call that has come to a node with texts of its own ends there. -/
theorem gives_of_borrowsFrom {owner : Nat} {l : Link}
    (h : Relation.ReflTransGen (BorrowsFrom table) id owner)
    (hl : table[owner]? = some l) (howns : borrows l.tree.label = false) :
    Gives source table id (ownTexts source l.tree) := by
  induction h using Relation.ReflTransGen.head_induction_on with
  | refl => exact .own hl howns
  | head hstep _ ih =>
    obtain ⟨k, hk, hborrows, rfl⟩ := hstep
    exact .borrowed hk hborrows ih

/-! ## Tables of programs -/

/-- Whether each of the declarators of a declaration of variables has a pattern. -/
def bindsPatterns : Tree → Bool
  | .node (.variableDeclaration _) _ declarators => declarators.all fun d => !d.children.isEmpty
  | _ => true

/-- A table that begins with a program, and in which the node above each of the others stands
earlier. Declarators have the pattern that they bind. -/
structure IsNodeTable (table : List Link) : Prop where
  root_program : ∀ l, table[0]? = some l → l.tree.label = .program
  parent_earlier : ∀ id l, table[id]? = some l → 0 < id → l.parent < id
  binds_patterns : ∀ l ∈ table, bindsPatterns l.tree = true

theorem exists_owner (h : IsNodeTable table) (hid : id < table.length) :
    ∃ owner l, Relation.ReflTransGen (BorrowsFrom table) id owner ∧ table[owner]? = some l ∧
      borrows l.tree.label = false := by
  -- The induction is on the number of the node, since the next one on the way up has a smaller one.
  induction id using Nat.strongRecOn with
  | ind id ih =>
    have hl : table[id]? = some table[id] := List.getElem?_eq_getElem hid
    cases hborrows : borrows table[id].tree.label with
    | false => exact ⟨id, table[id], .refl, hl, hborrows⟩
    | true =>
      have hpos : 0 < id := by
        apply Nat.pos_of_ne_zero
        intro hzero
        subst hzero
        rw [h.root_program _ hl] at hborrows
        cases hborrows
      have hearlier := h.parent_earlier id _ hl hpos
      obtain ⟨owner, l, hway, hlook, howns⟩ := ih _ hearlier (by omega)
      exact ⟨owner, l, .head ⟨_, hl, hborrows, rfl⟩ hway, hlook, howns⟩

/-! ## How many texts a node has -/

theorem length_declaredName_le (t : Tree) : (declaredName t).length ≤ 1 := by
  unfold declaredName
  split
  · exact Option.length_toList_le
  · exact Nat.zero_le 1

theorem length_ownTexts_le {t : Tree} (h : ∀ kind, t.label ≠ .variableDeclaration kind) :
    (ownTexts source t).length ≤ 1 := by
  unfold ownTexts
  split
  case h_4 => exact absurd rfl (h _)
  all_goals simp [length_declaredName_le, Option.length_toList_le]

theorem forall₂_ownTexts {t : Tree} {kind : DeclarationKind}
    (hkind : t.label = .variableDeclaration kind) (hbinds : bindsPatterns t = true) :
    List.Forall₂ (fun d text =>
      ∃ pattern rest, d.children = pattern :: rest ∧ text = pattern.bindingText source)
      t.children (ownTexts source t) := by
  obtain ⟨label, span, declarators⟩ := t
  obtain rfl : label = .variableDeclaration kind := hkind
  rw [bindsPatterns, List.all_eq_true] at hbinds
  show List.Forall₂ _ declarators (declarators.filterMap fun d =>
    d.children.head?.map (Tree.bindingText source))
  induction declarators with
  | nil => exact .nil
  | cons d ds ih =>
    have hd := hbinds d List.mem_cons_self
    cases hchildren : d.children with
    | nil => simp [hchildren] at hd
    | cons pattern rest =>
      simp only [List.filterMap_cons, hchildren, List.head?_cons, Option.map_some]
      exact .cons ⟨pattern, rest, hchildren, rfl⟩ (ih fun e he =>
        hbinds e (List.mem_cons_of_mem d he))

/-! ## Tables of trees -/

variable {t : Tree} {s : Site}

theorem links_getElem?_zero (t : Tree) : t.links[0]? = some ⟨t, 0⟩ := by
  obtain ⟨label, span, children⟩ := t
  rw [Tree.links, Tree.sites, Tree.sitesFrom]
  rfl

theorem links_getElem? (hs : s ∈ t.sites) : t.links[s.node.id]? = some ⟨s.tree, s.parentId⟩ := by
  rw [Tree.links, List.getElem?_map, t.sites_isPreorder.getElem?_id hs]
  rfl

theorem exists_site_of_link {l : Link} (hl : t.links[id]? = some l) :
    ∃ s ∈ t.sites, s.node.id = id ∧ l = ⟨s.tree, s.parentId⟩ := by
  rw [Tree.links, List.getElem?_map] at hl
  obtain ⟨s, hs, rfl⟩ := Option.map_eq_some_iff.mp hl
  exact ⟨s, List.mem_of_getElem? hs, t.sites_isPreorder.id_of_getElem? hs, rfl⟩

theorem links_isNodeTable (hroot : t.label = .program)
    (hbinds : ∀ s ∈ t.sites, bindsPatterns s.tree = true) :
    IsNodeTable t.links where
  root_program := by
    intro l hl
    rw [links_getElem?_zero] at hl
    cases hl
    exact hroot
  parent_earlier := by
    intro id l hl hpos
    obtain ⟨s, hs, rfl, rfl⟩ := exists_site_of_link hl
    cases habove : s.above with
    | nil =>
      rw [Tree.eq_root_of_above_eq_nil hs habove] at hpos
      cases hpos
    | cons p rest =>
      have hearlier := (t.sites_isPreorder.parent_earlier s hs p rest habove).1
      simpa [Site.parentId, habove] using hearlier
  binds_patterns := by
    intro l hl
    obtain ⟨s, hs, rfl⟩ := List.mem_map.mp hl
    exact hbinds s hs

/-- A call for the texts of a site of a tree ends with what `identifierTexts` gives. -/
theorem gives_identifierTexts (source : Text) (hroot : borrows t.label = false) (hs : s ∈ t.sites) :
    Gives source t.links s.node.id (identifierTexts source s) := by
  obtain ⟨n, above⟩ := s
  induction above generalizing n with
  | nil =>
    have hlook := links_getElem? hs
    obtain rfl : n = ⟨0, t⟩ := congrArg Site.node (Tree.eq_root_of_above_eq_nil hs rfl)
    rw [identifierTexts, textsBelow, if_neg (by rw [Site.tree, hroot]; exact Bool.false_ne_true)]
    exact .own hlook hroot
  | cons p rest ih =>
    have hlook := links_getElem? hs
    rw [identifierTexts, textsBelow]
    split
    · rename_i hborrows
      have hparent := (t.sites_isPreorder.parent_earlier _ hs p rest rfl).2
      exact .borrowed hlook hborrows (ih p hparent)
    · rename_i howns
      exact .own hlook (by simpa using howns)

/-- In a table that begins with a program, and in which the node above each of the others stands
earlier, a call for the texts of a node ends. It gives what the nearest node on the way up that does
not borrow has by itself: at most one text, and for a declaration of variables one for each
declarator in order. For the table of a tree these are the texts of the site. -/
theorem texts_of_nearest_owner (source : Text) {table : List Link} (h : IsNodeTable table)
    {id : Nat} (hid : id < table.length) :
    ∃ texts owner l, (∀ others, Gives source table id others ↔ others = texts) ∧
      (∀ t s, table = Tree.links t → s ∈ t.sites → s.node.id = id →
        identifierTexts source s = texts) ∧
      Relation.ReflTransGen (BorrowsFrom table) id owner ∧ table[owner]? = some l ∧
      borrows l.tree.label = false ∧ texts = ownTexts source l.tree ∧
      ((∀ kind, l.tree.label ≠ .variableDeclaration kind) → texts.length ≤ 1) ∧
      (∀ kind, l.tree.label = .variableDeclaration kind →
        List.Forall₂ (fun d text =>
          ∃ pattern rest, d.children = pattern :: rest ∧ text = pattern.bindingText source)
          l.tree.children texts) := by
  obtain ⟨owner, l, hway, hlook, howns⟩ := exists_owner h hid
  have hgives : Gives source table id (ownTexts source l.tree) :=
    gives_of_borrowsFrom hway hlook howns
  refine ⟨ownTexts source l.tree, owner, l, ?_, ?_, hway, hlook, howns, rfl, length_ownTexts_le, ?_⟩
  · intro others
    refine ⟨hgives.unique, ?_⟩
    intro hothers
    rw [hothers]
    exact hgives
  · intro t s htable hs hnumber
    subst htable hnumber
    have hroot : t.label = .program := h.root_program _ (links_getElem?_zero t)
    exact hgives.unique (gives_identifierTexts source (by rw [hroot]; rfl) hs)
  · intro kind hkind
    exact forall₂_ownTexts hkind (h.binds_patterns l (List.mem_of_getElem? hlook))

/-- Two declarators, one of them with a type inside of types. -/
def nestedTypes : Text := "let a:readonly(b|c)[]=d,[e]:f=g;".toList

theorem texts_of_nearest_owner_nestedTypes :
    ∃ file s,
      SourceFile.parse? nestedTypes (some "p.ts".toList) = some file ∧ IsNodeTable file.tree.links ∧
      s ∈ file.tree.sites ∧ s.label = .unionType ∧ identifierTexts nestedTypes s = [['a']] ∧
      (∀ texts, Gives nestedTypes file.tree.links s.node.id texts ↔ texts = [['a']]) ∧
      ∃ owner l, Relation.ReflTransGen (BorrowsFrom file.tree.links) s.node.id owner ∧
        file.tree.links[owner]? = some l ∧ borrows l.tree.label = false ∧
          ownTexts nestedTypes l.tree = [['a']] := by
  have hread : ((SourceFile.parse? nestedTypes (some "p.ts".toList)).any fun file =>
      decide (file.tree.label = .program) && file.tree.sites.all (fun s => bindsPatterns s.tree) &&
        file.tree.sites.any fun s =>
          decide (s.label = .unionType ∧ identifierTexts nestedTypes s = [['a']])) = true := by
    decide +kernel
  simp only [Option.any_eq_true, Bool.and_eq_true, List.all_eq_true, List.any_eq_true,
    decide_eq_true_eq] at hread
  obtain ⟨file, hfile, ⟨hroot, hbinds⟩, s, hs, hlabel, htexts⟩ := hread
  have htable : IsNodeTable file.tree.links := links_isNodeTable hroot hbinds
  obtain ⟨hid, _⟩ := List.getElem?_eq_some_iff.mp (links_getElem? hs)
  obtain ⟨texts, owner, l, hgives, hsite, hway, hlook, howns, hown, _⟩ :=
    texts_of_nearest_owner nestedTypes htable hid
  obtain rfl : [['a']] = texts := htexts.symm.trans (hsite file.tree s rfl hs rfl)
  exact ⟨file, s, hfile, htable, hs, hlabel, htexts, hgives, owner, l, hway, hlook, howns,
    hown.symm⟩

end Ignore

end PureLint
