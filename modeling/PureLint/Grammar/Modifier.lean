import PureLint.Grammar.Parser

/-!
# Modifiers

Words before a declaration, a member or a parameter that say more about it. Such a word is a
modifier only if something follows that it can modify; otherwise it is a name. All modifiers are
read alike, and each construct then says which of them it allows.
-/

namespace PureLint.Grammar

open PureLint.Grammar.Parser

/-- Whether a token can stand behind a modifier. -/
def followsModifier (t : Token) : Bool :=
  match t.kind with
  | .word _ _ | .string _ | .number _ | .bigInt _ | .privateName _ => true
  | .punct p => p == .bracketL || p == .braceL || p == .star || p == .ellipsis
  | _ => false

/-- Whether a token can stand behind `export` used as a modifier. -/
def followsExport (t : Token) : Bool :=
  t.isPunct .at ||
    (!t.isPunct .star && !t.isPunct .braceL && !t.isKeyword .kwAs && followsModifier t)

/-- Whether what `default` can modify follows it, which stands here. -/
def atModifyingDefault : Parser Bool :=
  ahead do
    advance
    let t ← peek
    if t.isPunct .at || [.kwClass, .kwFunction, .kwInterface].any t.isKeyword then return true
    else if t.isKeyword .kwAbstract then nextOnLineIs fun n => n.isKeyword .kwClass
    else if t.isKeyword .kwAsync then nextOnLineIs fun n => n.isKeyword .kwFunction
    else return false

def atModifyingExport : Parser Bool :=
  ahead do
    advance
    if ← atKeyword .kwDefault then atModifyingDefault
    else
      if ← atKeyword .kwType then advance
      return followsExport (← peek)

/-- Whether the word here, which can be a modifier, modifies something. -/
def atModifying (k : Keyword) : Parser Bool :=
  match k with
  | .kwConst => nextIs fun t => t.isKeyword .kwEnum
  | .kwExport => atModifyingExport
  | .kwDefault => atModifyingDefault
  | .kwStatic | .kwGet | .kwSet => nextIs followsModifier
  | _ => nextOnLineIs followsModifier

/-- Reads the modifier that stands here, if there is one behind those already read. A second
`static` is a name, and so is one before a block in a class. -/
def modifier? (allowConst inClass : Bool) (seen : List Keyword) : Parser (Option Keyword) := do
  match (← peek).keyword? with
  | none => return none
  | some k =>
    let isOne ←
      if !k.isModifier then pure false
      else if allowConst && k == .kwConst then nextOnLineIs followsModifier
      else if k == .kwStatic && seen.contains .kwStatic then pure false
      else if k == .kwStatic && inClass && (← nextIs fun t => t.isPunct .braceL) then pure false
      else atModifying k
    if !isOne then return none
    advance
    return some k

/-- Whether a modifier may follow others: none is written twice, and at most one says who may see
the member. -/
def mayFollow (seen : List Keyword) (k : Keyword) : Bool :=
  !seen.contains k && !(k.isAccessibility && seen.any Keyword.isAccessibility)

/-- The modifiers that stand here, in order of appearance reversed. -/
def modifiers (allowConst inClass : Bool) : Parser (List Keyword) :=
  grow
    (fun seen => do
      match ← modifier? allowConst inClass seen with
      | none => return none
      | some k =>
        demand (mayFollow seen k)
        return some (k :: seen))
    []

/-- The modifiers of a declaration. Here `accessor` may also end its line. -/
def declarationModifiers : Parser (List Keyword) :=
  grow
    (fun seen => do
      match (← peek).keyword? with
      | none => return none
      | some k =>
        let isOne ←
          if !k.isModifier then pure false
          else if k == .kwAccessor then nextIs followsModifier
          else atModifying k
        if !isOne then return none
        advance
        demand (mayFollow seen k)
        return some (k :: seen))
    []

/-- Notes a flaw if there are other modifiers than those allowed. -/
def allowModifiers (allowed mods : List Keyword) : Parser Unit := demand (mods.all allowed.contains)

/-- Whether `get` or `set` begins an accessor here. -/
def atAccessor : Parser Bool := do
  if (← atKeyword .kwGet) || (← atKeyword .kwSet) then nextIs followsModifier else return false

end PureLint.Grammar
