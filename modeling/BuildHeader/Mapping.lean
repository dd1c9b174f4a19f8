import BuildHeader.Bindings
import BuildHeader.Entries

set_option autoImplicit false

namespace BuildHeader

/-- Variables in order of first mention; `distinct` makes every name occur once. -/
structure Mapping where
  entries : List (String × Option String) := []
  distinct : (Entries.keys entries).Nodup := by exact .nil

namespace Mapping

def empty : Mapping := {}

def size (m : Mapping) : Nat := m.entries.length

def isEmpty (m : Mapping) : Bool := m.entries.isEmpty

/-- Answers `some none` for a variable without a value, `none` for no variable at all. -/
def get? (m : Mapping) (key : String) : Option (Option String) := m.entries.lookup key

def contains (m : Mapping) (key : String) : Bool := (m.get? key).isSome

def value? (m : Mapping) (key : String) : Option String := (m.get? key).join

def insertOptional (m : Mapping) (key : String) (value : Option String) : Mapping :=
  ⟨Entries.upsert key value m.entries, Entries.nodup_keys_upsert m.distinct⟩

theorem get?_insertOptional_self (m : Mapping) (key : String) (value : Option String) :
    (m.insertOptional key value).get? key = some value :=
  Entries.lookup_upsert_self key value m.entries

theorem get?_insertOptional_of_ne (m : Mapping) {key other : String} (value : Option String)
    (h : other ≠ key) : (m.insertOptional key value).get? other = m.get? other :=
  Entries.lookup_upsert_of_ne value h

def insert (m : Mapping) (key value : String) : Mapping := m.insertOptional key (some value)

def insertAll (m : Mapping) (pairs : List (String × Option String)) : Mapping :=
  pairs.foldl (fun acc pair => acc.insertOptional pair.1 pair.2) m

def ofList (pairs : List (String × Option String)) : Mapping := empty.insertAll pairs

/-- Sets every binding, in ascending order of the names. -/
def extend (m : Mapping) (vars : Bindings) : Mapping :=
  vars.entries.foldl (fun acc pair => acc.insert pair.1 pair.2) m

/-- The same variables with the same values, in whatever order. -/
def sameAs (a b : Mapping) : Bool :=
  a.size == b.size && a.entries.all fun entry => b.get? entry.1 == some entry.2

def sorted (m : Mapping) : List (String × Option String) :=
  m.entries.mergeSort fun a b => decide (a.1 ≤ b.1)

end Mapping

end BuildHeader

namespace BuildHeader.Json

def hexDigit (n : Nat) : Char := Nat.digitChar (n % 16)

def escape (c : Char) : List Char :=
  match c with
  | '"' => ['\\', '"']
  | '\\' => ['\\', '\\']
  | '\n' => ['\\', 'n']
  | '\r' => ['\\', 'r']
  | '\t' => ['\\', 't']
  | '\x08' => ['\\', 'b']
  | '\x0c' => ['\\', 'f']
  | c =>
    if c.toNat < 0x20 then ['\\', 'u', '0', '0', hexDigit (c.toNat / 16), hexDigit c.toNat]
    else [c]

def quoted (text : String) : List Char := '"' :: (text.toList.flatMap escape ++ ['"'])

def value : Option String → List Char
  | some text => quoted text
  | none => ['n', 'u', 'l', 'l']

structure Layout where
  opening : List Char
  colon : List Char
  comma : List Char
  closing : List Char

def compact : Layout := ⟨[], [':'], [','], []⟩

def pretty : Layout := ⟨['\n', ' ', ' '], [':', ' '], [',', '\n', ' ', ' '], ['\n']⟩

def Layout.member (layout : Layout) (entry : String × Option String) : List Char :=
  quoted entry.1 ++ layout.colon ++ value entry.2

def Layout.object (layout : Layout) (entries : List (String × Option String)) : List Char :=
  if entries.isEmpty then ['\x7b', '\x7d']
  else
    '\x7b' :: (layout.opening ++ (entries.map layout.member |>.intersperse layout.comma).flatten ++
      layout.closing ++ ['\x7d'])

end BuildHeader.Json

namespace BuildHeader.Mapping

def compactJson (m : Mapping) : String := String.ofList (Json.compact.object m.entries)

/-- One variable a line, in ascending order of the names. -/
def prettyJson (m : Mapping) : String := String.ofList (Json.pretty.object m.sorted)

end BuildHeader.Mapping
