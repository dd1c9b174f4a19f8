import BuildHeader.Yaml.Scalar
import BuildHeader.Yaml.Tag

/-!
Tokens, and how a text is cut into them. A colon makes a key of the node before it after the fact:
the places where a key may have begun are remembered, one for each open collection, and the key
token is set in there when the colon comes. Indentation opens and closes block collections.
-/

set_option autoImplicit false

namespace BuildHeader.Yaml

inductive Token where
  | directive (directive : Directive)
  | documentStart
  | documentEnd
  | blockSequenceStart
  | blockMappingStart
  | blockEnd
  | flowSequenceStart
  | flowSequenceEnd
  | flowMappingStart
  | flowMappingEnd
  | blockEntry
  | flowEntry
  | key
  | value
  | alias (name : List Char)
  | anchor (name : List Char)
  | tag (name : TagName)
  | scalar (plain : Bool) (text : List Char)
  deriving DecidableEq, Repr

/-- A place where a key may have begun; one at the margin of a block mapping must turn out so. -/
structure KeyStart where
  required : Bool
  tokenCount : Nat
  index : Nat
  line : Nat
  column : Nat

/-- A key ends on its line and within this many bytes. -/
def maxKeyLength : Nat := 1024

structure Lexer where
  cursor : Cursor
  /-- The tokens so far, the last one first. -/
  tokens : List Token := []
  /-- The column after that of the innermost block collection, `0` outside all of them. -/
  margin : Nat := 0
  outerMargins : List Nat := []
  /-- The open key of the innermost collection, and of those around its flow collections. -/
  keyStart? : Option KeyStart := none
  outerKeys : List (Option KeyStart) := []
  mayStartKey : Bool := true

namespace Lexer

def inFlow (l : Lexer) : Bool := !l.outerKeys.isEmpty

def emit (l : Lexer) (token : Token) : Lexer := { l with tokens := token :: l.tokens }

def emitAt (l : Lexer) (count : Nat) (token : Token) : Lexer :=
  let later := l.tokens.length - count
  { l with tokens := l.tokens.take later ++ token :: l.tokens.drop later }

def moveTo (l : Lexer) (c : Cursor) : Lexer := { l with cursor := c }

def advance (l : Lexer) (n : Nat) : Lexer := l.moveTo (l.cursor.advance n)

def skipToToken : Nat → Lexer → Lexer
  | 0, l => l
  | fuel + 1, l =>
    let c := if l.cursor.column = 0 && l.cursor.rest.head? == some byteOrderMark
      then l.cursor.advance 1 else l.cursor
    let tabs := l.inFlow || !l.mayStartKey
    let c := (c.skipWhile fun ch => ch == ' ' || (tabs && ch == '\t')).skipComment
    match c.takeBreak? with
    | some (_, next) =>
      skipToToken fuel { l with cursor := next, mayStartKey := l.mayStartKey || !l.inFlow }
    | none => l.moveTo c

def KeyStart.isStale (k : KeyStart) (c : Cursor) : Bool :=
  decide (k.line < c.line) || decide (k.index + maxKeyLength < c.index)

def dropStale (c : Cursor) : Option KeyStart → Except Fault (Option KeyStart)
  | none => .ok none
  | some k =>
    if !KeyStart.isStale k c then .ok (some k)
    else if k.required then .error .missingColon
    else .ok none

def dropStaleKeys (l : Lexer) : Except Fault Lexer := do
  let outerKeys ← l.outerKeys.mapM (dropStale l.cursor)
  let keyStart? ← dropStale l.cursor l.keyStart?
  return { l with keyStart?, outerKeys }

/-- Forgets the innermost key place, which must not have been required. -/
def dropKey (l : Lexer) : Except Fault Lexer :=
  if l.keyStart?.any KeyStart.required then .error .missingColon
  else .ok { l with keyStart? := none }

def markKey (l : Lexer) : Except Fault Lexer :=
  if !l.mayStartKey then .ok l
  else
    let c := l.cursor
    (l.dropKey).map fun l =>
      { l with
        keyStart? := some
          { required := !l.inFlow && l.margin == c.column + 1
            tokenCount := l.tokens.length
            index := c.index
            line := c.line
            column := c.column } }

def closeBlocks (column : Nat) : List Nat → Nat → List Token → Nat × List Nat × List Token
  | [], margin, tokens => (margin, [], tokens)
  | outer :: rest, margin, tokens =>
    if column < margin then closeBlocks column rest outer (.blockEnd :: tokens)
    else (margin, outer :: rest, tokens)

/-- Leaves all blocks whose margin is above `floor`, unless a flow collection is open. -/
def unindent (l : Lexer) (floor : Nat) : Lexer :=
  if l.inFlow then l
  else
    let (margin, outerMargins, tokens) := closeBlocks floor l.outerMargins l.margin l.tokens
    { l with margin, outerMargins, tokens }

def indent (l : Lexer) (column tokenCount : Nat) (token : Token) : Lexer :=
  if l.inFlow || decide (column < l.margin) then l
  else
    { l with margin := column + 1, outerMargins := l.margin :: l.outerMargins }.emitAt
      tokenCount token

def scanMarker (l : Lexer) (token : Token) : Except Fault Lexer := do
  let l ← (l.unindent 0).dropKey
  return { l with mayStartKey := false }.advance 3 |>.emit token

def scanDirectiveLine (l : Lexer) : Except Fault Lexer := do
  let l ← (l.unindent 0).dropKey
  let (directive, next) ← scanDirective l.cursor
  return { l with mayStartKey := false }.moveTo next |>.emit (.directive directive)

def openFlow (l : Lexer) (token : Token) : Except Fault Lexer := do
  let l ← l.markKey
  return { l with
    keyStart? := none, outerKeys := l.keyStart? :: l.outerKeys, mayStartKey := true }.advance 1
      |>.emit token

def closeFlow (l : Lexer) (token : Token) : Except Fault Lexer := do
  let l ← l.dropKey
  let l :=
    match l.outerKeys with
    | [] => l
    | key? :: rest => { l with keyStart? := key?, outerKeys := rest }
  return { l with mayStartKey := false }.advance 1 |>.emit token

def scanFlowEntry (l : Lexer) : Except Fault Lexer := do
  let l ← l.dropKey
  return { l with mayStartKey := true }.advance 1 |>.emit .flowEntry

def scanBlockEntry (l : Lexer) : Except Fault Lexer := do
  if !l.inFlow && !l.mayStartKey then throw .entryNotAllowed
  let l ← (l.indent l.cursor.column l.tokens.length .blockSequenceStart).dropKey
  return { l with mayStartKey := true }.advance 1 |>.emit .blockEntry

def scanKey (l : Lexer) : Except Fault Lexer := do
  if !l.inFlow && !l.mayStartKey then throw .keyNotAllowed
  let l ← (l.indent l.cursor.column l.tokens.length .blockMappingStart).dropKey
  return { l with mayStartKey := !l.inFlow }.advance 1 |>.emit .key

def scanValue (l : Lexer) : Except Fault Lexer := do
  match l.keyStart? with
  | some k =>
    let l := (l.emitAt k.tokenCount .key).indent k.column k.tokenCount .blockMappingStart
    return { l with keyStart? := none, mayStartKey := false }.advance 1 |>.emit .value
  | none =>
    if !l.inFlow && !l.mayStartKey then throw .valueNotAllowed
    let l := l.indent l.cursor.column l.tokens.length .blockMappingStart
    return { l with mayStartKey := !l.inFlow }.advance 1 |>.emit .value

def scanNodePart (l : Lexer) (scan : Cursor → Except Fault (Token × Cursor)) :
    Except Fault Lexer := do
  let l ← l.markKey
  let (token, next) ← scan l.cursor
  return { l with mayStartKey := false }.moveTo next |>.emit token

def scanBlockScalar (l : Lexer) (literal : Bool) : Except Fault Lexer := do
  let l ← l.dropKey
  let (text, next) ← scanBlock literal l.margin l.cursor
  return { l with mayStartKey := true }.moveTo next |>.emit (.scalar false text)

def scanPlainScalar (l : Lexer) : Except Fault Lexer := do
  let l ← l.markKey
  let plain ← scanPlain l.inFlow l.margin l.cursor
  return { l with mayStartKey := plain.broken }.moveTo plain.cursor |>.emit
    (.scalar true plain.text)

def quotedToken (step : List Char → Except Fault QuotedStep) (c : Cursor) :
    Except Fault (Token × Cursor) :=
  (scanQuoted step c).map fun (text, next) => (.scalar false text, next)

def isIndicator (c : Char) : Bool :=
  isFlowIndicator c || "-?:#&*!|>'\"%@`".toList.contains c

/-- A plain scalar may also start with a sign of structure that no space follows. -/
def startsPlain (inFlow : Bool) (c : Char) (rest : List Char) : Bool :=
  !(isSpace c || isIndicator c) || (c == '-' && !(rest.head?.any isBlank)) ||
    (!inFlow && (c == '?' || c == ':') && !startsSpace rest)

def scanAt (l : Lexer) (c : Char) (rest : List Char) : Except Fault Lexer :=
  let signs := l.inFlow || startsSpace rest
  if l.cursor.column = 0 && c == '%' then l.scanDirectiveLine
  else if l.cursor.isAtMarker '-' then l.scanMarker .documentStart
  else if l.cursor.isAtMarker '.' then l.scanMarker .documentEnd
  else if c == '[' then l.openFlow .flowSequenceStart
  else if c == '\x7b' then l.openFlow .flowMappingStart
  else if c == ']' then l.closeFlow .flowSequenceEnd
  else if c == '\x7d' then l.closeFlow .flowMappingEnd
  else if c == ',' then l.scanFlowEntry
  else if c == '-' && startsSpace rest then l.scanBlockEntry
  else if c == '?' && signs then l.scanKey
  else if c == ':' && signs then l.scanValue
  else if c == '*' then
    l.scanNodePart fun c => (scanAnchorName c).map fun (name, next) => (.alias name, next)
  else if c == '&' then
    l.scanNodePart fun c => (scanAnchorName c).map fun (name, next) => (.anchor name, next)
  else if c == '!' then
    l.scanNodePart fun c => (scanTag l.inFlow c).map fun (name, next) => (.tag name, next)
  else if c == '|' && !l.inFlow then l.scanBlockScalar true
  else if c == '>' && !l.inFlow then l.scanBlockScalar false
  else if c == '\'' then l.scanNodePart (quotedToken singleQuotedStep)
  else if c == '"' then l.scanNodePart (quotedToken doubleQuotedStep)
  else if startsPlain l.inFlow c rest then l.scanPlainScalar
  else .error (.strayCharacter c)

def finish (l : Lexer) : Except Fault (List Token) :=
  (l.unindent 0).dropKey.map fun l => l.tokens.reverse

def run : Nat → Lexer → Except Fault (List Token)
  | 0, l => l.finish
  | fuel + 1, l => do
    let l ← (l.skipToToken fuel).dropStaleKeys
    let l := l.unindent (l.cursor.column + 1)
    match l.cursor.rest with
    | [] => l.finish
    | c :: rest => run fuel (← l.scanAt c rest)

end Lexer

def firstControl? (text : List Char) : Option Char := text.find? (!isAllowed ·)

/-- The tokens of a text; every token takes at least one character. -/
def Token.ofText (text : List Char) : Except Fault (List Token) :=
  match firstControl? text with
  | some c => .error (.control c)
  | none => Lexer.run (text.length + 1) { cursor := { rest := text } }

end BuildHeader.Yaml
