import BuildHeader.Text.Basic

/-!
Patterns (regular expressions) that the fields of log events are matched against. As no event has
such a field, all that matters of a pattern is whether it is well formed. A pattern comes from a
text in which commas, equals signs and closing braces have ended it, so that the forms that need
one of these are malformed from the start.

Patterns know characters by their numbers, but neither their properties nor their cases. So digits,
blanks, word characters and matches in any case are well formed only where all is ASCII.
-/

set_option autoImplicit false

namespace BuildHeader.Pattern

inductive Fault where
  | malformed
  /-- Only word boundaries between ASCII words can be matched. -/
  | wordBoundary
  deriving DecidableEq, Repr

def Fault.message : Fault → String
  | .malformed => "error building NFA"
  | .wordBoundary =>
    "unsupported regex feature for DFAs: cannot build DFAs for regexes with Unicode word " ++
      "boundaries; switch to ASCII word boundaries, or heuristically enable Unicode word " ++
      "boundaries or use a different regex engine"

structure Modes where
  verbose : Bool := false
  /-- Matches consist of characters, otherwise of ASCII characters only. -/
  unicode : Bool := true
  anyCase : Bool := false
  deriving DecidableEq, Repr

def skipBlanks : Bool → List Char → List Char
  | _, [] => []
  | true, c :: rest => skipBlanks (c != '\n') rest
  | false, c :: rest =>
    if Text.isWhitespace c then skipBlanks false rest
    else if c == '#' then skipBlanks true rest
    else c :: rest

def Modes.skip (m : Modes) (text : List Char) : List Char :=
  if m.verbose then skipBlanks false text else text

/-- In any case only what is ASCII can be matched. -/
def Modes.knowsCases (m : Modes) : Bool := !(m.anyCase && m.unicode)

/-- The items of one branch of a group or of one class, as far as the depth of nesting counts. -/
structure Sequence where
  size : Nat := 0
  last : Nat := 0
  others : Nat := 0
  deriving DecidableEq, Repr

namespace Sequence

def push (s : Sequence) (depth : Nat) : Sequence := ⟨s.size + 1, depth, max s.last s.others⟩

def depth (s : Sequence) : Nat := if s.size ≤ 1 then s.last else max s.last s.others + 1

end Sequence

def maxDepth : Nat := 250

def require (condition : Bool) : Except Fault Unit :=
  if condition then .ok () else .error .malformed

inductive Item where
  /-- A character; `octet` if it is spelled as two hexadecimal digits. -/
  | literal (c : Char) (octet : Bool)
  | wordClass (negated : Bool)
  | edge
  | wordBoundary
  deriving DecidableEq, Repr

def letterEscape? (c : Char) : Option Char :=
  match c with
  | 'a' => some '\x07'
  | 'f' => some '\x0c'
  | 't' => some '\t'
  | 'n' => some '\n'
  | 'r' => some '\r'
  | 'v' => some '\x0b'
  | _ => none

/-- Punctuation that may stand for itself after a backslash, whether it needs to or not. -/
def standsForItself (c : Char) : Bool :=
  decide (c.toNat < 0x80) && !c.isAlphanum && c != '<' && c != '>'

def hexDigits? (c : Char) : Option Nat :=
  match c with
  | 'x' => some 2
  | 'u' => some 4
  | 'U' => some 8
  | _ => none

/-- The number in exactly `count` more digits, of which `value` are read already. -/
def hexNumber (m : Modes) : Nat → Nat → List Char → Except Fault (Nat × List Char)
  | 0, value, text => .ok (value, text)
  | count + 1, value, text =>
    match m.skip text with
    | [] => .error .malformed
    | c :: rest =>
      match Text.hexValue? c with
      | none => .error .malformed
      | some digit => hexNumber m count (value * 16 + digit) rest

def escape (m : Modes) : List Char → Except Fault (Item × List Char)
  | [] => .error .malformed
  | c :: rest =>
    match hexDigits? c, letterEscape? c with
    | some count, _ => do
      let (number, rest) ← hexNumber m count 0 rest
      require number.isValidChar
      return (.literal (Char.ofNat number) (count == 2), rest)
    | none, some char => .ok (.literal char false, rest)
    | none, none =>
      if "dsw".toList.contains c then .ok (.wordClass false, rest)
      else if "DSW".toList.contains c then .ok (.wordClass true, rest)
      else if c == 'A' || c == 'z' then .ok (.edge, rest)
      else if "bB<>".toList.contains c then .ok (.wordBoundary, rest)
      else if standsForItself c then .ok (.literal c false, rest)
      else .error .malformed

/-- Without Unicode a class is a set of ASCII characters, and so never a complement. -/
def Item.checkInClass (m : Modes) : Item → Except Fault Unit
  | .literal c _ => require (m.knowsCases && (m.unicode || decide (c.toNat < 0x80)))
  | .wordClass negated => require (!m.unicode && !negated)
  | .edge => .error .malformed
  | .wordBoundary => .error .malformed

def classItem (m : Modes) : List Char → Except Fault (Item × List Char)
  | [] => .error .malformed
  | '\\' :: rest => escape m rest
  | c :: rest => .ok (.literal c false, rest)

def Modes.peek? (m : Modes) (text : List Char) : Option Char :=
  if !m.verbose then text.head?
  else
    match text.dropWhile Text.isWhitespace with
    | '#' :: rest => (rest.dropWhile Text.isWhitespace).head?
    | rest => rest.head?

def checkRange : Item → Item → Except Fault Unit
  | .literal first _, .literal last _ => require (decide (first ≤ last))
  | _, _ => .error .malformed

/-- An item, or a range of characters. A dash before another dash or the end makes no range. -/
def classRange (m : Modes) (text : List Char) : Except Fault (List Char) := do
  let (first, rest) ← classItem m text
  first.checkInClass m
  match m.skip rest with
  | '-' :: after =>
    let next? := m.peek? after
    if next? == some ']' || next? == some '-' then return '-' :: after
    let (last, rest) ← classItem m (m.skip after)
    last.checkInClass m
    checkRange first last
    return rest
  | rest => return rest

def asciiClassNames : List String :=
  ["alnum", "alpha", "ascii", "blank", "cntrl", "digit", "graph", "lower", "print", "punct",
   "space", "upper", "word", "xdigit"]

/-- A class by name, `:name:]` or `:^name:]`; whether it is negated, and the text after it. -/
def asciiClass? : List Char → Option (Bool × List Char)
  | ':' :: rest =>
    let negated := rest.head? == some '^'
    let rest := if negated then rest.drop 1 else rest
    let name := rest.takeWhile (· != ':')
    match rest.drop name.length with
    | ':' :: ']' :: rest =>
      if asciiClassNames.contains (String.ofList name) then some (negated, rest) else none
    | _ => none
  | _ => none

def isSetOperator (c : Char) (rest : List Char) : Bool :=
  (c == '&' || c == '-' || c == '~') && rest.head? == some c

structure OpenClass where
  items : Sequence := {}
  left? : Option Nat := none
  outer : List (Sequence × Option Nat) := []
  /-- Dashes at the start stand for themselves, and so does a closing bracket there. -/
  atStart : Bool := true

namespace OpenClass

def push (r : OpenClass) (depth : Nat) : OpenClass :=
  { r with items := r.items.push depth, atStart := false }

def depth (r : OpenClass) : Nat :=
  match r.left? with
  | none => r.items.depth
  | some left => max left r.items.depth + 1

end OpenClass

def complement (m : Modes) (text : List Char) : Except Fault (List Char) :=
  match m.skip text with
  | '^' :: rest => if m.unicode then .ok rest else .error .malformed
  | rest => .ok rest

def classRest (m : Modes) : Nat → OpenClass → List Char → Except Fault (Nat × List Char)
  | 0, _, _ => .error .malformed
  | fuel + 1, r, text =>
    match m.skip text with
    | [] => .error .malformed
    | c :: rest =>
      if r.atStart && c == '-' then do
        require m.knowsCases
        classRest m fuel { r with items := r.items.push 0 } rest
      else if r.atStart && r.items.size == 0 && c == ']' then do
        require m.knowsCases
        classRest m fuel (r.push 0) rest
      else if c == '[' then
        match asciiClass? rest with
        | some (negated, rest) => do
          require (m.knowsCases && (m.unicode || !negated))
          classRest m fuel (r.push 0) rest
        | none => do
          classRest m fuel { outer := (r.items, r.left?) :: r.outer } (← complement m rest)
      else if c == ']' then
        match r.outer with
        | [] => .ok (r.depth, rest)
        | (items, left?) :: outer =>
          classRest m fuel
            { items := items.push (r.depth + 1), left?, outer, atStart := false } rest
      else if isSetOperator c rest then
        classRest m fuel { r with items := {}, left? := some r.depth, atStart := false }
          (rest.drop 1)
      else do
        classRest m fuel (r.push 0) (← classRange m (c :: rest))

def characterClass (m : Modes) (text : List Char) : Except Fault (Nat × List Char) := do
  classRest m (text.length + 1) {} (← complement m text)

structure Group where
  modes : Modes
  branch : Sequence := {}
  /-- Flags and the start of a branch cannot be repeated. -/
  repeatable : Bool := false
  alternatives? : Option Nat := none

namespace Group

def push (g : Group) (depth : Nat) : Group :=
  { g with branch := g.branch.push depth, repeatable := true }

def repeatLast (g : Group) : Except Fault Group :=
  if g.repeatable then .ok { g with branch := { g.branch with last := g.branch.last + 1 } }
  else .error .malformed

def alternate (g : Group) : Group :=
  { g with
    branch := {}
    repeatable := false
    alternatives? := some (max (g.alternatives?.getD 0) g.branch.depth) }

def setModes (g : Group) (modes : Modes) : Group :=
  { g with modes, branch := g.branch.push 0, repeatable := false }

def depth (g : Group) : Nat :=
  match g.alternatives? with
  | none => g.branch.depth
  | some depth => max depth g.branch.depth + 1

end Group

structure Reading where
  inner : Group := { modes := {} }
  outer : List Group := []
  names : List (List Char) := []
  hasWordBoundary : Bool := false

namespace Reading

def push (r : Reading) (depth : Nat) : Reading := { r with inner := r.inner.push depth }

def openGroup (r : Reading) (modes : Modes) : Reading :=
  { r with inner := { modes }, outer := r.inner :: r.outer }

def closeGroup (r : Reading) : Except Fault Reading :=
  match r.outer with
  | [] => .error .malformed
  | group :: outer => .ok { r with inner := group.push (r.inner.depth + 1), outer }

def isGroupName : List Char → Bool
  | [] => false
  | first :: rest =>
    (first == '_' || Text.isAlphabetic first) &&
      rest.all fun c => Text.isWordChar c || ".[]".toList.contains c

def namedGroup (r : Reading) (text : List Char) : Except Fault (Reading × List Char) := do
  let name := text.takeWhile (· != '>')
  require (isGroupName name && !r.names.contains name && name.length < text.length)
  let r := { r with names := name :: r.names }
  return (r.openGroup r.inner.modes, text.drop (name.length + 1))

def areFlags (flags : List Char) : Bool :=
  flags.all "imsUuRx-".toList.contains && decide flags.Nodup && flags.getLast? != some '-'

def flagState (flags : List Char) (flag : Char) (before : Bool) : Bool :=
  let set := flags.takeWhile (· != '-')
  set.contains flag || (before && !flags.contains flag)

/-- Flags for the rest of the group, `flags)`, or for a group of their own, `flags:`. -/
def flagGroup (r : Reading) (text : List Char) : Except Fault (Reading × List Char) := do
  let flags := text.takeWhile fun c => c != ':' && c != ')'
  require (areFlags flags)
  let before := r.inner.modes
  let modes : Modes :=
    { verbose := flagState flags 'x' before.verbose
      unicode := flagState flags 'u' before.unicode
      anyCase := flagState flags 'i' before.anyCase }
  match text.drop flags.length with
  | ':' :: rest => return (r.openGroup modes, rest)
  | ')' :: rest =>
    require (!flags.isEmpty)
    return ({ r with inner := r.inner.setModes modes }, rest)
  | _ => throw .malformed

def group (r : Reading) (text : List Char) : Except Fault (Reading × List Char) :=
  match r.inner.modes.skip text with
  | '?' :: 'P' :: '<' :: rest => r.namedGroup rest
  | '?' :: '<' :: rest => r.namedGroup rest
  | '?' :: rest => r.flagGroup rest
  | rest => .ok (r.openGroup r.inner.modes, rest)

/-- Without Unicode nothing may match a part of a character. -/
def item (r : Reading) (item : Item) : Except Fault Reading :=
  let modes := r.inner.modes
  match item with
  | .literal c octet => do
    require (modes.knowsCases && (modes.unicode || !octet || decide (c.toNat < 0x80)))
    return r.push 0
  | .wordClass negated => do
    require (!modes.unicode && !negated)
    return r.push 0
  | .edge => .ok (r.push 0)
  | .wordBoundary =>
    .ok { r.push 0 with hasWordBoundary := r.hasWordBoundary || modes.unicode }

def step (r : Reading) (c : Char) (rest : List Char) : Except Fault (Reading × List Char) :=
  match c with
  | '(' => r.group rest
  | ')' => r.closeGroup.map (·, rest)
  | '|' => .ok ({ r with inner := r.inner.alternate }, rest)
  | '[' => do
    let (depth, rest) ← characterClass r.inner.modes rest
    return (r.push (depth + 1), rest)
  | '\x7b' => .error .malformed
  | '\\' => do
    let (found, rest) ← escape r.inner.modes rest
    return (← r.item found, rest)
  | '.' => do
    require r.inner.modes.unicode
    return (r.push 0, rest)
  | c =>
    if c == '?' || c == '*' || c == '+' then do
      let inner ← r.inner.repeatLast
      return ({ r with inner }, if rest.head? == some '?' then rest.drop 1 else rest)
    else return (← r.item (if c == '^' || c == '$' then .edge else .literal c false), rest)

def finish (r : Reading) : Except Fault Unit := do
  require (r.outer.isEmpty && decide (r.inner.depth ≤ maxDepth))
  if r.hasWordBoundary then throw .wordBoundary

def run : Nat → Reading → List Char → Except Fault Unit
  | 0, _, _ => .error .malformed
  | fuel + 1, r, text =>
    match r.inner.modes.skip text with
    | [] => r.finish
    | c :: rest => do
      let (r, rest) ← r.step c rest
      run fuel r rest

end Reading

/-- Is a text a pattern? Every step over it takes at least one character. -/
def check (text : List Char) : Except Fault Unit := Reading.run (text.length + 1) {} text

end BuildHeader.Pattern
