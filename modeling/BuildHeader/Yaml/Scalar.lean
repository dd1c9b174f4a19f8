import BuildHeader.Text.Basic
import BuildHeader.Yaml.Basic

set_option autoImplicit false

namespace BuildHeader.Yaml

/-- One line break between words is a space, of several the first is dropped. -/
def foldBreaks : List Char → List Char
  | ['\n'] => [' ']
  | '\n' :: more => more
  | breaks => breaks

structure Gap where
  blanks : List Char := []
  breaks : List Char := []
  escaped : Bool := false

namespace Gap

def isBroken (g : Gap) : Bool := g.escaped || !g.breaks.isEmpty

def text (g : Gap) : List Char :=
  if g.escaped then g.breaks else if g.breaks.isEmpty then g.blanks else foldBreaks g.breaks

/-- Reads on to the next word. A tab may not stand in a column below `floor` of a later line. -/
def scan (floor : Nat) : Nat → Gap → Cursor → Except Fault (Gap × Cursor)
  | 0, g, c => .ok (g, c)
  | fuel + 1, g, c =>
    match c.takeBreak? with
    | some (lineBreak, next) => scan floor fuel { g with breaks := g.breaks ++ [lineBreak] } next
    | none =>
      match c.rest with
      | [] => .ok (g, c)
      | blank :: _ =>
        if !isBlank blank then .ok (g, c)
        else if !g.isBroken then
          scan floor fuel { g with blanks := g.blanks ++ [blank] } (c.advance 1)
        else if blank == '\t' && decide (c.column < floor) then .error .tabInIndentation
        else scan floor fuel g (c.advance 1)

end Gap

def isFlowIndicator (c : Char) : Bool :=
  c == ',' || c == '[' || c == ']' || c == '\x7b' || c == '\x7d'

def plainWord (inFlow : Bool) : List Char → Except Fault (List Char)
  | [] => .ok []
  | c :: rest =>
    if isSpace c then .ok []
    else if inFlow && c == ':' && (rest.head?.any fun n => isFlowIndicator n || n == '?') then
      .error .flowColon
    else if c == ':' && startsSpace rest then .ok []
    else if inFlow && isFlowIndicator c then .ok []
    else (plainWord inFlow rest).map (c :: ·)

structure ScannedPlain where
  text : List Char
  cursor : Cursor
  broken : Bool

/--
Words from `margin` on, on one line or several; in flow collections any column will do. The gap
before the cursor counts only if a word follows it.
-/
def scanPlainWords (inFlow : Bool) (margin : Nat) :
    Nat → Gap → Cursor → Except Fault ScannedPlain
  | 0, gap, c => .ok ⟨[], c, gap.isBroken⟩
  | fuel + 1, gap, c =>
    if c.isAtDocumentMarker || c.rest.head? == some '#' then .ok ⟨[], c, gap.isBroken⟩
    else do
      let word ← plainWord inFlow c.rest
      if word.isEmpty then return ⟨[], c, gap.isBroken⟩
      let text := gap.text ++ word
      let next := c.advance word.length
      if !(next.rest.head?.any isSpace) then return ⟨text, next, false⟩
      let (gap, next) ← Gap.scan margin fuel {} next
      if !inFlow && decide (next.column < margin) then return ⟨text, next, gap.isBroken⟩
      let more ← scanPlainWords inFlow margin fuel gap next
      return { more with text := text ++ more.text }

def scanPlain (inFlow : Bool) (margin : Nat) (c : Cursor) : Except Fault ScannedPlain :=
  scanPlainWords inFlow margin c.rest.length {} c

def hexNumber? (count : Nat) (text : List Char) : Option Nat :=
  let digits := text.take count
  if digits.length < count then none
  else digits.foldl (fun acc c => do return (← acc) * 16 + (← Text.hexValue? c)) (some 0)

def escapedChar? (c : Char) : Option Char :=
  match c with
  | '0' => some '\x00'
  | 'a' => some '\x07'
  | 'b' => some '\x08'
  | 't' => some '\t'
  | '\t' => some '\t'
  | 'n' => some '\n'
  | 'v' => some '\x0b'
  | 'f' => some '\x0c'
  | 'r' => some '\r'
  | 'e' => some '\x1b'
  | ' ' => some ' '
  | '"' => some '"'
  | '/' => some '/'
  | '\\' => some '\\'
  | 'N' => some nextLine
  | '_' => some '\u00A0'
  | 'L' => some lineSeparator
  | 'P' => some paragraphSeparator
  | _ => none

def escapeDigits? (c : Char) : Option Nat :=
  match c with
  | 'x' => some 2
  | 'u' => some 4
  | 'U' => some 8
  | _ => none

inductive QuotedStep where
  | char (c : Char) (width : Nat)
  | space
  | escapedBreak
  | close

def escapeStep (code : Char) (rest : List Char) : Except Fault QuotedStep :=
  match escapedChar? code with
  | some c => .ok (.char c 2)
  | none =>
    match escapeDigits? code with
    | none => .error .escape
    | some count =>
      match hexNumber? count rest with
      | none => .error .escape
      | some n => if n.isValidChar then .ok (.char (Char.ofNat n) (2 + count)) else .error .escape

def singleQuotedStep : List Char → Except Fault QuotedStep
  | [] => .error .unterminated
  | '\'' :: '\'' :: _ => .ok (.char '\'' 2)
  | '\'' :: _ => .ok .close
  | c :: _ => .ok (if isSpace c then .space else .char c 1)

def doubleQuotedStep : List Char → Except Fault QuotedStep
  | [] => .error .unterminated
  | '"' :: _ => .ok .close
  | '\\' :: code :: rest => if isBreak code then .ok .escapedBreak else escapeStep code rest
  | '\\' :: [] => .error .escape
  | c :: _ => .ok (if isSpace c then .space else .char c 1)

def scanQuotedChars (step : List Char → Except Fault QuotedStep) :
    Nat → List Char → Cursor → Except Fault (List Char × Cursor)
  | 0, _, _ => .error .unterminated
  | fuel + 1, acc, c => do
    match ← step c.rest with
    | .char char width => scanQuotedChars step fuel (char :: acc) (c.advance width)
    | .close => return (acc.reverse, c.advance 1)
    | .space =>
      let (gap, next) ← Gap.scan 0 fuel {} c
      if next.isAtDocumentMarker then throw .documentMarker
      scanQuotedChars step fuel (gap.text.reverse ++ acc) next
    | .escapedBreak =>
      let (gap, next) ← Gap.scan 0 fuel { escaped := true } (c.advance 1).skipBreak
      if next.isAtDocumentMarker then throw .documentMarker
      scanQuotedChars step fuel (gap.text.reverse ++ acc) next

def scanQuoted (step : List Char → Except Fault QuotedStep) (c : Cursor) :
    Except Fault (List Char × Cursor) :=
  scanQuotedChars step c.rest.length [] (c.advance 1)

inductive Chomping where
  | strip
  | clip
  | keep
  deriving DecidableEq, Repr

structure BlockHeader where
  chomping : Chomping := .clip
  increment? : Option Nat := none

def chomping? (c : Char) : Option Chomping :=
  if c == '+' then some .keep else if c == '-' then some .strip else none

def blockHeader (text : List Char) : Except Fault (BlockHeader × Nat) :=
  let digit? (c : Char) : Option Nat := if c.isDigit then some (c.toNat - '0'.toNat) else none
  let positive (h : BlockHeader) (width : Nat) : Except Fault (BlockHeader × Nat) :=
    if h.increment? = some 0 then .error .blockHeader else .ok (h, width)
  match text.head?.bind chomping? with
  | some chomping =>
    match (text.drop 1).head?.bind digit? with
    | some n => positive ⟨chomping, some n⟩ 2
    | none => .ok (⟨chomping, none⟩, 1)
  | none =>
    match text.head?.bind digit? with
    | none => .ok ({}, 0)
    | some n =>
      match (text.drop 1).head?.bind chomping? with
      | some chomping => positive ⟨chomping, some n⟩ 2
      | none => positive ⟨.clip, some n⟩ 1

structure BlockGap where
  indent : Nat
  breaks : List Char
  cursor : Cursor

/--
The indentation and the empty lines before the next line of a block scalar. While the indentation
is not known (`0`), the widest run of spaces gives it, but at least the margin and at least one.
-/
def scanBlockGap (margin : Nat) :
    Nat → Nat → Nat → List Char → Cursor → Except Fault BlockGap
  | 0, indent, _, breaks, c => .ok ⟨indent, breaks, c⟩
  | fuel + 1, indent, widest, breaks, c =>
    let spaces := (c.rest.takeWhile (· == ' ')).length
    let c := c.advance (if indent = 0 then spaces else min spaces (indent - c.column))
    let widest := max widest c.column
    if (indent = 0 || decide (c.column < indent)) && c.rest.head? == some '\t' then
      .error .tabInIndentation
    else
      match c.takeBreak? with
      | some (lineBreak, next) =>
        scanBlockGap margin fuel indent widest (breaks ++ [lineBreak]) next
      | none => .ok ⟨if indent = 0 then max widest (max margin 1) else indent, breaks, c⟩

/-- Is a break between two lines folded? Not at a line that starts with a blank. -/
def blockBreak (literal afterBlank beforeBlank : Bool) (lineBreak breaks : List Char) :
    List Char :=
  if !literal && lineBreak == ['\n'] && !afterBlank && !beforeBlank then
    if breaks.isEmpty then [' '] else breaks
  else lineBreak ++ breaks

structure BlockBody where
  text : List Char
  lineBreak : List Char
  gap : BlockGap

def scanBlockLines (literal : Bool) (margin : Nat) :
    Nat → List Char → Bool → BlockGap → Except Fault BlockBody
  | 0, lineBreak, _, gap => .ok ⟨[], lineBreak, gap⟩
  | fuel + 1, lineBreak, afterBlank, gap =>
    if gap.cursor.column = gap.indent ∧ !gap.cursor.rest.isEmpty then do
      let blank := gap.cursor.rest.head?.any isBlank
      let (line, c) := gap.cursor.takeWhile (!isBreak ·)
      let (lineEnd, c) :=
        match c.takeBreak? with
        | some (found, next) => ([found], next)
        | none => ([], c)
      let below ← scanBlockGap margin fuel gap.indent 0 [] c
      let body ← scanBlockLines literal margin fuel lineEnd blank below
      let before := blockBreak literal afterBlank blank lineBreak gap.breaks
      return { body with text := before ++ line ++ body.text }
    else .ok ⟨[], lineBreak, gap⟩

def scanBlock (literal : Bool) (margin : Nat) (c : Cursor) :
    Except Fault (List Char × Cursor) := do
  let c := c.advance 1
  let (header, width) ← blockHeader c.rest
  let c := ((c.advance width).skipWhile isBlank).skipComment
  if !startsBreak c.rest then throw .blockHeader
  let c := c.skipBreak
  let indent := (header.increment?.map (margin - 1 + ·)).getD 0
  let fuel := c.rest.length + 1
  let body ← scanBlockLines literal margin fuel [] false
    (← scanBlockGap margin fuel indent 0 [] c)
  let tail :=
    match header.chomping with
    | .strip => []
    | .clip => body.lineBreak
    | .keep => body.lineBreak ++ body.gap.breaks
  return (body.text ++ tail, body.gap.cursor)

end BuildHeader.Yaml
