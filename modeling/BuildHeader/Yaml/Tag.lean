import BuildHeader.Text.Basic
import BuildHeader.Yaml.Basic

set_option autoImplicit false

namespace BuildHeader.Yaml

def hexOctet? (high low : Char) : Option Nat :=
  match Text.hexValue? high, Text.hexValue? low with
  | some h, some l => some (h * 16 + l)
  | _, _ => none

def trailingOctets? (octet : Nat) : Option Nat :=
  if octet < 0x80 then some 0
  else if 0xC0 ≤ octet ∧ octet < 0xE0 then some 1
  else if 0xE0 ≤ octet ∧ octet < 0xF0 then some 2
  else if 0xF0 ≤ octet ∧ octet < 0xF8 then some 3
  else none

/-- Punctuation of a tag; the flow indicators of the last group only in a verbatim one. -/
def isUriChar (verbatim : Bool) (c : Char) : Bool :=
  isNameChar c || ";/?:@&=+$.%!~*'()".toList.contains c ||
    (verbatim && (c == ',' || c == '[' || c == ']'))

/--
The octets of a tag. `pending` counts the octets that still belong to the character begun, which
must be escaped one by one. Each octet is kept as the character of its number.
-/
def scanUriChars (verbatim : Bool) :
    Nat → Nat → List Char → Cursor → Except Fault (List Char × Cursor)
  | 0, _, acc, c => .ok (acc.reverse, c)
  | fuel + 1, pending, acc, c =>
    match c.rest with
    | '%' :: high :: low :: _ =>
      match hexOctet? high low with
      | none => .error .tag
      | some octet =>
        if pending = 0 then
          match trailingOctets? octet with
          | none => .error .tag
          | some more =>
            scanUriChars verbatim fuel more (Char.ofNat octet :: acc) (c.advance 3)
        else if 0x80 ≤ octet ∧ octet < 0xC0 then
          scanUriChars verbatim fuel (pending - 1) (Char.ofNat octet :: acc) (c.advance 3)
        else .error .tag
    | next :: _ =>
      if pending ≠ 0 ∨ next = '%' then .error .tag
      else if isUriChar verbatim next then
        scanUriChars verbatim fuel 0 (next :: acc) (c.advance 1)
      else .ok (acc.reverse, c)
    | [] => if pending = 0 then .ok (acc.reverse, c) else .error .tag

/-- The octets before the first zero octet, which ends a tag. -/
def beforeZero (octets : List Char) : List Char := octets.takeWhile (· != '\x00')

/-- A tag's octets after `head`; something must be there, be it a zero octet. -/
def scanUri (verbatim : Bool) (head : List Char) (c : Cursor) :
    Except Fault (List Char × Cursor) := do
  let (chars, next) ← scanUriChars verbatim (c.rest.length + 1) 0 [] c
  if chars.isEmpty && head.isEmpty then throw .tag
  return (beforeZero (head.drop 1 ++ chars), next)

def scanHandle (c : Cursor) : Except Fault (List Char × Cursor) :=
  if c.rest.head? ≠ some '!' then .error .tag
  else
    let (word, next) := (c.advance 1).takeWhile isNameChar
    if next.rest.head? = some '!' then .ok ('!' :: word ++ ['!'], next.advance 1)
    else .ok ('!' :: word, next)

/-- A handle that a directive may define: one between two marks, or the single mark. -/
def isFullHandle (handle : List Char) : Bool :=
  1 < handle.length && handle.getLast? == some '!'

structure TagName where
  handle : List Char
  suffix : List Char
  deriving DecidableEq, Repr

def scanTagName (c : Cursor) : Except Fault (TagName × Cursor) := do
  if c.rest.drop 1 |>.head? |> (· == some '<') then
    let (suffix, next) ← scanUri true [] (c.advance 2)
    if next.rest.head? ≠ some '>' then throw .tag
    return (⟨[], suffix⟩, next.advance 1)
  else
    let (handle, next) ← scanHandle c
    if isFullHandle handle then
      let (suffix, next) ← scanUri false [] next
      return (⟨handle, suffix⟩, next)
    else
      let (suffix, next) ← scanUri false handle next
      if suffix.isEmpty then return (⟨[], ['!']⟩, next)
      return (⟨['!'], suffix⟩, next)

def scanTag (inFlow : Bool) (c : Cursor) : Except Fault (TagName × Cursor) := do
  let (name, next) ← scanTagName c
  if startsSpace next.rest || (inFlow && next.rest.head? == some ',') then return (name, next)
  throw .tag

def scanAnchorName (c : Cursor) : Except Fault (List Char × Cursor) :=
  let (name, next) := (c.advance 1).takeWhile isNameChar
  let ends := startsSpace next.rest ||
    (next.rest.head?.any fun n => "?:,]\x7d%@`".toList.contains n)
  if name.isEmpty || !ends then .error .anchorName else .ok (name, next)

inductive Directive where
  | version (major minor : Nat)
  | tagHandle (handle expansion : List Char)
  deriving DecidableEq, Repr

def maxVersionDigits : Nat := 9

def scanVersionNumber (c : Cursor) : Except Fault (Nat × Cursor) :=
  let (digits, next) := c.takeWhile Char.isDigit
  if digits.isEmpty || decide (maxVersionDigits < digits.length) then .error .directive
  else .ok (Nat.ofDigitChars 10 digits 0, next)

def scanVersionDirective (c : Cursor) : Except Fault (Directive × Cursor) := do
  let (major, next) ← scanVersionNumber (c.skipWhile isBlank)
  if next.rest.head? ≠ some '.' then throw .directive
  let (minor, next) ← scanVersionNumber (next.advance 1)
  return (.version major minor, next)

def scanTagDirective (c : Cursor) : Except Fault (Directive × Cursor) := do
  let (handle, next) ← scanHandle (c.skipWhile isBlank)
  if !isFullHandle handle && handle != ['!'] then throw .directive
  if !(next.rest.head?.any isBlank) then throw .directive
  let (expansion, next) ← scanUri true [] (next.skipWhile isBlank)
  if !startsSpace next.rest then throw .directive
  return (.tagHandle handle expansion, next)

def scanDirective (c : Cursor) : Except Fault (Directive × Cursor) := do
  let (name, next) := (c.advance 1).takeWhile isNameChar
  if name.isEmpty || !startsSpace next.rest then throw .directive
  let (directive, next) ←
    if name = "YAML".toList then scanVersionDirective next
    else if name = "TAG".toList then scanTagDirective next
    else .error .directive
  let next := (next.skipWhile isBlank).skipComment
  if !startsBreak next.rest then throw .directive
  return (directive, next.skipBreak)

end BuildHeader.Yaml
