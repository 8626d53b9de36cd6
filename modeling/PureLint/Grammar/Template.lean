import PureLint.Grammar.Parser

/-!
# Templates

The pieces of text of a template and what stands between them: expressions, or types in a template
type.
-/

namespace PureLint.Grammar

open PureLint.Grammar.Parser

/-- The piece of a template that begins right behind the token before, and whether the template ends
with it. -/
def templateElement : Parser (Tree × Bool) := do
  let start ← previousStop
  let (piece, bytes) ← rescanBehind fun cs =>
    (Scan.templatePiece? cs).map fun p =>
      ⟨(p.value, p.bytes), p.bytes + (if p.value.last then 1 else 2), p.rest⟩
  return (.node (.templateElement piece.cooked) ⟨start, start + bytes⟩ [], piece.last)

/-- A template: its pieces of text, and the items between them. -/
def templateParts (item : Parser Tree) : Parser (List Tree × List Tree) := do
  expect .backtick
  let (first, last) ← templateElement
  let (pieces, items, _) ← grow
    (fun (pieces, items, last) => do
      if last then return none
      let e ← item
      expect .braceR
      let (piece, last) ← templateElement
      return some (piece :: pieces, e :: items, last))
    ([first], [], last)
  return (pieces.reverse, items.reverse)

/-- Whether every escape in a piece of a template has a meaning. -/
def isCooked (t : Tree) : Bool :=
  match t.label with
  | .templateElement cooked => cooked.isSome
  | _ => false

/-- A template with expressions. Escapes without a meaning are allowed behind a tag only. -/
def templateLiteral (self : Self) (tagged : Bool) : Parser Tree := do
  let start ← here
  let (pieces, items) ← templateParts
    (withContext (fun c => { c with allowIn := true }) (self .expression))
  guard (tagged || pieces.all isCooked)
  finish .templateLiteral start (pieces ++ items)

end PureLint.Grammar
