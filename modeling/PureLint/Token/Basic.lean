import PureLint.Number.Double
import PureLint.Text.Basic

/-!
# Tokens

The words, punctuators and literals of a program. A word is looked up in the table of keywords when
it is read; whether a keyword may also be a name is asked where a name is expected. A keyword keeps
its meaning when it is written with escapes, but may then only be read as a name. A `>` is always a
token of its own, because two of them close two lists of type arguments; operators that begin with
it are put together by the expression grammar.
-/

namespace PureLint

/-- Words with a meaning of their own somewhere in the grammar. -/
inductive Keyword where
  | kwBreak | kwCase | kwCatch | kwClass | kwConst | kwContinue | kwDebugger | kwDefault
  | kwDelete | kwDo | kwElse | kwEnum | kwExport | kwExtends | kwFalse | kwFinally | kwFor
  | kwFunction | kwIf | kwImport | kwIn | kwInstanceof | kwNew | kwNull | kwReturn | kwSuper
  | kwSwitch | kwThis | kwThrow | kwTrue | kwTry | kwTypeof | kwVar | kwVoid | kwWhile | kwWith
  | kwLet | kwStatic | kwYield | kwAsync | kwAwait | kwOf | kwGet | kwSet | kwAs | kwFrom
  | kwAccessor | kwUsing | kwMeta | kwTarget | kwAbstract | kwAny | kwAsserts | kwAssert
  | kwBigint | kwBoolean | kwConstructor | kwDeclare | kwGlobal | kwInfer | kwIntrinsic | kwIs
  | kwKeyof | kwModule | kwNamespace | kwNever | kwNumber | kwObject | kwOut | kwOverride
  | kwReadonly | kwRequire | kwSatisfies | kwString | kwSymbol | kwType | kwUndefined
  | kwUnique | kwUnknown | kwImplements | kwInterface | kwPackage | kwPrivate | kwProtected
  | kwPublic | kwDefer | kwSource
deriving DecidableEq, Repr

namespace Keyword

def reserved : List (String × Keyword) :=
  [("break", .kwBreak), ("case", .kwCase), ("catch", .kwCatch), ("class", .kwClass),
   ("const", .kwConst), ("continue", .kwContinue), ("debugger", .kwDebugger),
   ("default", .kwDefault), ("delete", .kwDelete), ("do", .kwDo), ("else", .kwElse),
   ("enum", .kwEnum), ("export", .kwExport), ("extends", .kwExtends), ("false", .kwFalse),
   ("finally", .kwFinally), ("for", .kwFor), ("function", .kwFunction), ("if", .kwIf),
   ("import", .kwImport), ("in", .kwIn), ("instanceof", .kwInstanceof), ("new", .kwNew),
   ("null", .kwNull), ("return", .kwReturn), ("super", .kwSuper), ("switch", .kwSwitch),
   ("this", .kwThis), ("throw", .kwThrow), ("true", .kwTrue), ("try", .kwTry),
   ("typeof", .kwTypeof), ("var", .kwVar), ("void", .kwVoid), ("while", .kwWhile),
   ("with", .kwWith)]

/-- The words that are names wherever they are not keywords. -/
def contextual : List (String × Keyword) :=
  [("let", .kwLet), ("static", .kwStatic), ("yield", .kwYield), ("async", .kwAsync),
   ("await", .kwAwait), ("of", .kwOf), ("get", .kwGet), ("set", .kwSet), ("as", .kwAs),
   ("from", .kwFrom), ("accessor", .kwAccessor), ("using", .kwUsing), ("meta", .kwMeta),
   ("target", .kwTarget), ("abstract", .kwAbstract), ("any", .kwAny), ("asserts", .kwAsserts),
   ("assert", .kwAssert), ("bigint", .kwBigint), ("boolean", .kwBoolean),
   ("constructor", .kwConstructor), ("declare", .kwDeclare), ("global", .kwGlobal),
   ("infer", .kwInfer), ("intrinsic", .kwIntrinsic), ("is", .kwIs), ("keyof", .kwKeyof),
   ("module", .kwModule), ("namespace", .kwNamespace), ("never", .kwNever),
   ("number", .kwNumber), ("object", .kwObject), ("out", .kwOut), ("override", .kwOverride),
   ("readonly", .kwReadonly), ("require", .kwRequire), ("satisfies", .kwSatisfies),
   ("string", .kwString), ("symbol", .kwSymbol), ("type", .kwType),
   ("undefined", .kwUndefined), ("unique", .kwUnique), ("unknown", .kwUnknown),
   ("implements", .kwImplements), ("interface", .kwInterface), ("package", .kwPackage),
   ("private", .kwPrivate), ("protected", .kwProtected), ("public", .kwPublic),
   ("defer", .kwDefer), ("source", .kwSource)]

def ofText? (name : Text) : Option Keyword := (reserved ++ contextual).lookup (String.ofList name)

def isReserved (k : Keyword) : Bool := reserved.any fun p => p.2 = k

/-- Whether the word is no name in a generator or in an async function. -/
def isSuspending (k : Keyword) : Bool := k = kwAwait || k = kwYield

def isReservedInStrictCode (k : Keyword) : Bool :=
  [kwImplements, kwInterface, kwLet, kwPackage, kwPrivate, kwProtected, kwPublic, kwStatic].contains
    k

/-- Whether the word can stand before a declaration, a member or a parameter and modify it. -/
def isModifier (k : Keyword) : Bool :=
  [kwAbstract, kwAccessor, kwAsync, kwConst, kwDeclare, kwDefault, kwExport, kwIn, kwOut,
    kwOverride, kwPrivate, kwProtected, kwPublic, kwReadonly, kwStatic].contains k

/-- Whether a modifier says who may see a member. -/
def isAccessibility (k : Keyword) : Bool := k = kwPublic || k = kwPrivate || k = kwProtected

end Keyword

inductive Punct where
  | braceL | braceR | parenL | parenR | bracketL | bracketR | dot | ellipsis | semi | comma
  | lt | gt | le | shl | shlAssign | eqEq | eqEqEq | notEq | notEqEq | assign | arrow | plus
  | plusPlus | plusAssign | minus | minusMinus | minusAssign | star | starStar | starAssign
  | starStarAssign | slash | slashAssign | percent | percentAssign | amp | ampAmp | ampAssign
  | ampAmpAssign | pipe | pipePipe | pipeAssign | pipePipeAssign | caret | caretAssign | bang
  | tilde | question | questionDot | questionQuestion | questionAssign | colon | at | backtick
deriving DecidableEq, Repr

inductive TokenKind where
  /-- The end of the source. -/
  | eof
  /-- A word, with its meaning if it is a keyword. -/
  | word (keyword : Option Keyword) (name : Text)
  | privateName (name : Text)
  | punct (p : Punct)
  | number (value : Double)
  | bigInt (value : Nat)
  | string (value : Text)
  /-- No token can be read here. -/
  | bad
deriving DecidableEq, Repr

/-- A token with its place; `newline` says whether a line ends between it and the token before. -/
structure Token where
  kind : TokenKind
  start : Nat
  stop : Nat
  newline : Bool
deriving DecidableEq, Repr

namespace Token

def span (t : Token) : Span := ⟨t.start, t.stop⟩

def isPunct (t : Token) (p : Punct) : Bool :=
  match t.kind with
  | .punct q => p = q
  | _ => false

def isKeyword (t : Token) (k : Keyword) : Bool :=
  match t.kind with
  | .word (some k') _ => k = k'
  | _ => false

def keyword? (t : Token) : Option Keyword :=
  match t.kind with
  | .word k _ => k
  | _ => none

/-- Whether a word is written with escapes, each of which is longer than the character it stands
for. -/
def isEscaped (t : Token) : Bool :=
  match t.kind with
  | .word _ name => Text.byteLength name < t.stop - t.start
  | _ => false

end Token

end PureLint
