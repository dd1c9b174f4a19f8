import BuildHeader.Text.Ranges

set_option autoImplicit false

namespace BuildHeader.Text

def isWhitespace (c : Char) : Bool := whitespaceRanges.holds c

def isAlphabetic (c : Char) : Bool := alphabeticRanges.holds c

def isNumeric (c : Char) : Bool := numericRanges.holds c

def isAlphanumeric (c : Char) : Bool := isAlphabetic c || isNumeric c

def trim (text : List Char) : List Char :=
  ((text.dropWhile isWhitespace).reverse.dropWhile isWhitespace).reverse

theorem Ranges.holds_of_mem {table : Ranges} {c : Char} {range : Nat × Nat} (h : range ∈ table)
    (low : range.1 ≤ c.toNat) (high : c.toNat ≤ range.2) : table.holds c = true :=
  List.any_eq_true.2 ⟨range, h, by simp [low, high]⟩

theorem isAlphanumeric_of_ascii {c : Char} (h : c.isAlphanum = true) :
    isAlphanumeric c = true := by
  rcases Bool.or_eq_true_iff.1 h with letter | digit
  · refine Bool.or_eq_true_iff.2 (.inl ?_)
    rcases Bool.or_eq_true_iff.1 letter with upper | lower
    · obtain ⟨low, high⟩ := of_decide_eq_true upper
      exact Ranges.holds_of_mem (.head _) low high
    · obtain ⟨low, high⟩ := Bool.and_eq_true_iff.1 lower
      exact Ranges.holds_of_mem (.tail _ (.head _)) (of_decide_eq_true low)
        (of_decide_eq_true high)
  · obtain ⟨low, high⟩ := Bool.and_eq_true_iff.1 digit
    exact Bool.or_eq_true_iff.2 (.inr (Ranges.holds_of_mem (.head _) (of_decide_eq_true low)
      (of_decide_eq_true high)))

def isWordChar (c : Char) : Bool := isAlphanumeric c || c == '_'

/-- An identifier may start with a digit. -/
def isIdentifier (name : List Char) : Bool := !name.isEmpty && name.all isWordChar

theorem isIdentifier_of_ascii {name : List Char} (hne : name ≠ [])
    (h : (name.all fun c => c.isAlphanum || c == '_') = true) : isIdentifier name = true := by
  have hall : name.all isWordChar = true := by
    refine List.all_eq_true.2 fun c hc => ?_
    rcases Bool.or_eq_true_iff.1 (List.all_eq_true.1 h c hc) with halnum | hlow
    · simp [isWordChar, isAlphanumeric_of_ascii halnum]
    · simp [isWordChar, hlow]
  simp [isIdentifier, hne, hall]

def isUnprintable (c : Char) : Bool := unprintableRanges.holds c

def escapeVisibly (c : Char) : List Char :=
  match c with
  | '\x00' => ['\\', '0']
  | '\t' => ['\\', 't']
  | '\n' => ['\\', 'n']
  | '\r' => ['\\', 'r']
  | '"' => ['\\', '"']
  | '\\' => ['\\', '\\']
  | c =>
    if isUnprintable c then '\\' :: 'u' :: '\x7b' :: (Nat.toDigits 16 c.toNat ++ ['\x7d']) else [c]

def quotedVisibly (text : String) : String :=
  String.ofList ('"' :: (text.toList.flatMap escapeVisibly ++ ['"']))

def unsigned : List Char → List Char
  | '+' :: digits => digits
  | digits => digits

def natural? (text : List Char) : Option Nat :=
  let digits := unsigned text
  if digits = [] ∨ ¬digits.all Char.isDigit then none else some (Nat.ofDigitChars 10 digits 0)

def hexValue? (c : Char) : Option Nat :=
  if '0' ≤ c ∧ c ≤ '9' then some (c.toNat - '0'.toNat)
  else if 'a' ≤ c ∧ c ≤ 'f' then some (c.toNat - 'a'.toNat + 10)
  else if 'A' ≤ c ∧ c ≤ 'F' then some (c.toNat - 'A'.toNat + 10)
  else none

def magnitude : List Char → List Char
  | '-' :: digits => digits
  | digits => unsigned digits

def isFixedPoint (text : List Char) : Bool :=
  let whole := text.takeWhile Char.isDigit
  match text.drop whole.length with
  | [] => !whole.isEmpty
  | '.' :: fraction => fraction.all Char.isDigit && !(whole.isEmpty && fraction.isEmpty)
  | _ => false

def isFloat (text : List Char) : Bool :=
  let text := (magnitude text).map Char.toLower
  let significand := text.takeWhile (· != 'e')
  text == "inf".toList || text == "infinity".toList || text == "nan".toList ||
    isFixedPoint significand &&
      match text.drop significand.length with
      | [] => true
      | _ :: exponent => !(magnitude exponent).isEmpty && (magnitude exponent).all Char.isDigit

def octets (text : String) : List UInt8 := text.toUTF8.data.toList

/-- An offset at which a text may be cut: its end, or the first octet of a character. -/
def IsBoundary (text : String) (offset : Nat) : Prop :=
  offset = (octets text).length ∨ ∃ octet ∈ (octets text)[offset]?, octet.IsUTF8FirstByte

instance (text : String) (offset : Nat) : Decidable (IsBoundary text offset) :=
  inferInstanceAs (Decidable (_ ∨ ∃ octet ∈ (octets text)[offset]?, _))

/-- The text between two offsets, unless one is out of bounds or inside of a character. -/
def slice? (text : String) (start stop : Nat) : Option String :=
  if start ≤ stop ∧ IsBoundary text start ∧ IsBoundary text stop then
    String.fromUTF8? (text.toUTF8.extract start stop)
  else none

end BuildHeader.Text
