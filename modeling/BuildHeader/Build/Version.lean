import BuildHeader.Build.Host
import BuildHeader.Text.Basic

set_option autoImplicit false

namespace BuildHeader

structure Version where
  major : UInt64
  minor : UInt64
  alter : UInt64
  deriving DecidableEq, Repr

namespace Version

inductive Fault where
  | componentCount (found : Nat)
  | notANumber (component : String)
  deriving DecidableEq, Repr

def Fault.reason : Fault → String
  | .componentCount found => "expected 3 dot-separated components, found " ++ found.repr
  | .notANumber component => "component '" ++ component ++ "' is not a number"

def number? (component : List Char) : Option UInt64 :=
  (Text.natural? component).bind fun value =>
    if h : value < UInt64.size then some (UInt64.ofNatLT value h) else none

def component (text : List Char) : Except Fault UInt64 :=
  match number? text with
  | some value => .ok value
  | none => .error (.notANumber (String.ofList text))

/-- Three components between dots; of several bad ones the leftmost is named. -/
def parse (text : String) : Except Fault Version :=
  match text.toList.splitOn '.' with
  | [first, second, third] => do
    let major ← component first
    let minor ← component second
    let alter ← component third
    return ⟨major, minor, alter⟩
  | parts => .error (.componentCount parts.length)

def ofText (text : String) : Except BuildError Version :=
  (parse text).mapError fun fault => .invalidVersion text fault.reason

def numberText (value : UInt64) : String := value.toNat.repr

def text (v : Version) : String :=
  numberText v.major ++ "." ++ numberText v.minor ++ "." ++ numberText v.alter

def order (a b : Version) : Ordering :=
  (compare a.major b.major).then ((compare a.minor b.minor).then (compare a.alter b.alter))

def sort (versions : List Version) : List Version :=
  versions.mergeSort fun a b => (order a b).isLE

end Version

end BuildHeader
