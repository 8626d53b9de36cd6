import PureLint.Tree.Basic

/-!
# Sites

A site is a node of a tree together with the nodes above it, the nearest first. Nodes are numbered
in the order in which they are visited, a node before its children, so a number identifies a node of
its tree. `Tree.sites` lists all sites in that order.
-/

namespace PureLint

/-- A node with its number. -/
structure Node where
  id : Nat
  tree : Tree

/-- A node and the nodes above it. -/
structure Site where
  node : Node
  above : List Node

namespace Tree

mutual

/-- The number of nodes of a tree. -/
def size : Tree → Nat
  | node _ _ children => 1 + sizeAll children

def sizeAll : List Tree → Nat
  | [] => 0
  | t :: ts => size t + sizeAll ts

end

mutual

/-- The sites of a tree whose root has the number `id`, below the nodes `above`. -/
def sitesFrom (above : List Node) (id : Nat) : Tree → List Site
  | node label span children =>
    let here : Node := ⟨id, node label span children⟩
    ⟨here, above⟩ :: sitesOfAll (here :: above) (id + 1) children

/-- The sites of neighbours, the first of which has the number `id`. -/
def sitesOfAll (above : List Node) (id : Nat) : List Tree → List Site
  | [] => []
  | t :: ts => sitesFrom above id t ++ sitesOfAll above (id + size t) ts

end

/-- All sites of a tree, each before those below it. -/
def sites (t : Tree) : List Site := sitesFrom [] 0 t

end Tree

namespace Site

def tree (s : Site) : Tree := s.node.tree

def label (s : Site) : Label := s.node.tree.label

def span (s : Site) : Span := s.node.tree.span

def parent? (s : Site) : Option Tree := s.above.head?.map (·.tree)

def parentLabel? (s : Site) : Option Label := s.parent?.map (·.label)

def hasAbove (s : Site) (p : Label → Bool) : Bool := s.above.any fun n => p n.tree.label

end Site

end PureLint
