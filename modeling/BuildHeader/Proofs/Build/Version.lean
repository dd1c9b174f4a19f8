import Mathlib.Algebra.Group.Nat.Defs
import BuildHeader.Build.Version
import BuildHeader.Proofs.Script
import BuildHeader.Proofs.Template.Segments
import BuildHeader.Text.Basic

set_option autoImplicit false

namespace BuildHeader.Text

def placeValue : List Char → Nat
  | [] => 0
  | c :: rest => (c.toNat - '0'.toNat) * 10 ^ rest.length + placeValue rest

inductive Numeral : List Char → Nat → Prop where
  | plain {digits : List Char} (given : digits ≠ []) (all : ∀ c ∈ digits, '0' ≤ c ∧ c ≤ '9') :
    Numeral digits (placeValue digits)
  | signed {digits : List Char} (given : digits ≠ []) (all : ∀ c ∈ digits, '0' ≤ c ∧ c ≤ '9') :
    Numeral ('+' :: digits) (placeValue digits)

theorem all_isDigit_iff (digits : List Char) :
    digits.all Char.isDigit = true ↔ ∀ c ∈ digits, '0' ≤ c ∧ c ≤ '9' := by
  simp [Char.isDigit, Char.le_def]

theorem ofDigitChars_eq_placeValue (digits : List Char) :
    Nat.ofDigitChars 10 digits 0 = placeValue digits := by
  induction digits with
  | nil => rfl
  | cons c rest ih =>
    rw [Nat.ofDigitChars_cons, Nat.ofDigitChars_eq_ofDigitChars_zero, ih, placeValue]
    simp [Nat.mul_comm]

theorem unsigned_of_digits {digits : List Char} (h : ∀ c ∈ digits, '0' ≤ c ∧ c ≤ '9') :
    unsigned digits = digits := by
  unfold unsigned
  split
  · exact absurd (h '+' (by simp)) (by decide)
  · rfl

theorem unsigned_eq_or (text : List Char) : text = '+' :: unsigned text ∨ unsigned text = text := by
  unfold unsigned
  split
  · exact .inl rfl
  · exact .inr rfl

theorem natural?_eq_some_iff_placeValue (text : List Char) (value : Nat) :
    natural? text = some value ↔ unsigned text ≠ [] ∧
      (∀ c ∈ unsigned text, '0' ≤ c ∧ c ≤ '9') ∧ placeValue (unsigned text) = value := by
  rw [← all_isDigit_iff, ← ofDigitChars_eq_placeValue]
  by_cases hempty : unsigned text = [] <;>
    by_cases hall : (unsigned text).all Char.isDigit = true <;> simp [natural?, hempty, hall]

theorem natural?_eq_some_iff (text : List Char) (value : Nat) :
    natural? text = some value ↔ Numeral text value := by
  rw [natural?_eq_some_iff_placeValue]
  constructor
  · rintro ⟨given, all, rfl⟩
    rcases unsigned_eq_or text with hsign | hsame
    · rw [hsign]
      exact .signed given all
    · rw [hsame] at given all ⊢
      exact .plain given all
  · intro h
    cases h with
    | plain given all =>
      rw [unsigned_of_digits all]
      exact ⟨given, all, rfl⟩
    | signed given all => exact ⟨given, all, rfl⟩

theorem numeral_toDigits (value : Nat) : Numeral (Nat.toDigits 10 value) value := by
  have all : ∀ c ∈ Nat.toDigits 10 value, '0' ≤ c ∧ c ≤ '9' := by
    rw [← all_isDigit_iff, List.all_eq_true]
    exact fun c hc => Nat.isDigit_of_mem_toDigits (by decide) (by decide) hc
  have hvalue : placeValue (Nat.toDigits 10 value) = value := by
    rw [← ofDigitChars_eq_placeValue, Nat.ofDigitChars_ten_toDigits]
  have h := Numeral.plain (by simp) all
  rwa [hvalue] at h

end BuildHeader.Text

namespace BuildHeader.Version

open Text (Numeral)

/-- The components stand between the dots of the text; a text without dots is a component. -/
structure Components (text : String) (parts : List (List Char)) : Prop where
  ne_nil : parts ≠ []
  free : ∀ part ∈ parts, '.' ∉ part
  joined : ['.'].intercalate parts = text.toList

theorem components_iff (text : String) (parts : List (List Char)) :
    Components text parts ↔ text.toList.splitOn '.' = parts := by
  constructor
  · intro h
    rw [← h.joined]
    exact List.splitOn_intercalate '.' h.free h.ne_nil
  · rintro rfl
    obtain ⟨first, rest, ht, hfirst, hrest⟩ := Template.exists_segments '.' text.toList
    refine ⟨List.splitOn_ne_nil _ _, ?_, List.intercalate_splitOn '.'⟩
    rw [ht, Template.splitOn_behind hfirst hrest]
    exact List.forall_mem_cons.2 ⟨hfirst, hrest⟩

def IsNumber (part : List Char) : Prop := ∃ value, value ≤ 2 ^ 64 - 1 ∧ Numeral part value

theorem number?_eq_some_iff (part : List Char) (value : UInt64) :
    number? part = some value ↔ Numeral part value.toNat := by
  rw [← Text.natural?_eq_some_iff, number?]
  cases hread : Text.natural? part with
  | none => simp
  | some read =>
    simp only [Option.bind_some, Option.some.injEq]
    split
    · rename_i hsize
      rw [Option.some.injEq]
      constructor
      · rintro rfl
        exact UInt64.toNat_ofNatLT.symm
      · rintro rfl
        exact UInt64.toNat.inj UInt64.toNat_ofNatLT
    · rename_i hsize
      constructor
      · intro h
        cases h
      · rintro rfl
        exact absurd value.toNat_lt hsize

def grow? (value : UInt64) (c : Char) : Option UInt64 :=
  if ('0' ≤ c ∧ c ≤ '9') ∧ value.toNat * 10 + (c.toNat - '0'.toNat) < UInt64.size then
    some (value * 10 + UInt64.ofNat (c.toNat - '0'.toNat))
  else none

def accumulate? (part : List Char) : Option UInt64 :=
  if Text.unsigned part = [] then none else (Text.unsigned part).foldlM grow? 0

theorem grow?_eq_some_iff (value next : UInt64) (c : Char) :
    grow? value c = some next ↔
      ('0' ≤ c ∧ c ≤ '9') ∧ next.toNat = value.toNat * 10 + (c.toNat - '0'.toNat) := by
  have hbound := next.toNat_lt
  unfold grow?
  split
  · rename_i h
    obtain ⟨hdigit, hsize⟩ := h
    have hnext : (value * 10 + UInt64.ofNat (c.toNat - '0'.toNat)).toNat =
        value.toNat * 10 + (c.toNat - '0'.toNat) := by
      simp only [UInt64.size] at hsize
      simp only [UInt64.toNat_add, UInt64.toNat_mul, UInt64.toNat_ofNat', UInt64.reduceToNat]
      omega
    rw [Option.some.injEq, ← UInt64.toNat_inj, hnext, eq_comm]
    simp [hdigit]
  · rename_i h
    simp only [reduceCtorEq, false_iff, not_and]
    intro hdigit hnext
    exact h ⟨hdigit, by simp only [UInt64.size]; omega⟩

theorem foldlM_grow?_eq_some_iff (digits : List Char) (start last : UInt64) :
    digits.foldlM grow? start = some last ↔ (∀ c ∈ digits, '0' ≤ c ∧ c ≤ '9') ∧
      last.toNat = start.toNat * 10 ^ digits.length + Text.placeValue digits := by
  induction digits generalizing start with
  | nil => simp [Text.placeValue, ← UInt64.toNat_inj, eq_comm]
  | cons c rest ih =>
    have hbound := last.toNat_lt
    have hplaces : start.toNat * 10 ^ (c :: rest).length + Text.placeValue (c :: rest) =
        (start.toNat * 10 + (c.toNat - '0'.toNat)) * 10 ^ rest.length + Text.placeValue rest := by
      simp only [Text.placeValue, List.length_cons, Nat.pow_succ', Nat.add_mul, Nat.mul_assoc,
        Nat.add_assoc]
    rw [hplaces, List.foldlM_cons]
    simp only [Option.bind_eq_bind, Option.bind_eq_some_iff, grow?_eq_some_iff, ih,
      List.forall_mem_cons]
    constructor
    · rintro ⟨next, ⟨hdigit, hnext⟩, hrest, hlast⟩
      exact ⟨⟨hdigit, hrest⟩, hnext ▸ hlast⟩
    · rintro ⟨⟨hdigit, hrest⟩, hlast⟩
      -- What comes behind the digit only adds to the number, so it is held if the last one is.
      have hgrown := Nat.le_mul_of_pos_right (start.toNat * 10 + (c.toNat - '0'.toNat))
        (Nat.pow_pos (n := rest.length) (show 0 < 10 by decide))
      have hnext : (UInt64.ofNat (start.toNat * 10 + (c.toNat - '0'.toNat))).toNat =
          start.toNat * 10 + (c.toNat - '0'.toNat) :=
        UInt64.toNat_ofNat_of_lt' (by simp only [UInt64.size]; omega)
      exact ⟨_, ⟨hdigit, hnext⟩, hrest, hnext.symm ▸ hlast⟩

theorem number?_eq_accumulate? (part : List Char) : number? part = accumulate? part := by
  refine Option.ext fun value => ?_
  rw [number?_eq_some_iff, ← Text.natural?_eq_some_iff, Text.natural?_eq_some_iff_placeValue,
    accumulate?]
  by_cases hempty : Text.unsigned part = []
  · simp [hempty]
  · rw [if_neg hempty, foldlM_grow?_eq_some_iff]
    simp [hempty, eq_comm]

theorem isNumber_iff (part : List Char) : IsNumber part ↔ ∃ value, number? part = some value := by
  simp only [number?_eq_some_iff]
  constructor
  · rintro ⟨value, hbound, h⟩
    refine ⟨UInt64.ofNat value, ?_⟩
    rwa [UInt64.toNat_ofNat_of_lt' (by simp only [UInt64.size]; omega)]
  · rintro ⟨value, h⟩
    have hbound := value.toNat_lt
    exact ⟨value.toNat, by omega, h⟩

theorem component_eq_ok_iff (part : List Char) (value : UInt64) :
    component part = .ok value ↔ Numeral part value.toNat := by
  rw [← number?_eq_some_iff, component]
  cases number? part <;> simp

theorem component_eq_error_iff (part : List Char) (fault : Fault) :
    component part = .error fault ↔
      ¬IsNumber part ∧ fault = .notANumber (String.ofList part) := by
  rw [isNumber_iff, component]
  cases number? part <;> simp [eq_comm]

structure FirstMisfit (parts : List (List Char)) (bad : List Char) : Prop where
  misfit : ¬IsNumber bad
  leftmost : ∃ before after, parts = before ++ bad :: after ∧ ∀ part ∈ before, IsNumber part

theorem firstMisfit_cons_iff (part bad : List Char) (parts : List (List Char)) :
    FirstMisfit (part :: parts) bad ↔
      ¬IsNumber part ∧ bad = part ∨ IsNumber part ∧ FirstMisfit parts bad := by
  constructor
  · rintro ⟨misfit, before, after, hparts, hbefore⟩
    cases before with
    | nil =>
      obtain ⟨rfl, rfl⟩ := List.cons.inj hparts
      exact .inl ⟨misfit, rfl⟩
    | cons first before =>
      obtain ⟨rfl, rfl⟩ := List.cons.inj hparts
      obtain ⟨hfirst, hbefore⟩ := List.forall_mem_cons.1 hbefore
      exact .inr ⟨hfirst, misfit, before, after, rfl, hbefore⟩
  · rintro (⟨misfit, rfl⟩ | ⟨hpart, misfit, before, after, rfl, hbefore⟩)
    · exact ⟨misfit, [], parts, rfl, by simp⟩
    · exact ⟨misfit, part :: before, after, rfl, List.forall_mem_cons.2 ⟨hpart, hbefore⟩⟩

def Blames (parts : List (List Char)) (fault : Fault) : Prop :=
  ∃ bad, FirstMisfit parts bad ∧ fault = .notANumber (String.ofList bad)

theorem not_blames_nil (fault : Fault) : ¬Blames [] fault := by
  rintro ⟨bad, ⟨_, before, after, hparts, _⟩, _⟩
  simp at hparts

theorem component_bind_eq_error_iff {part : List Char} {parts : List (List Char)} {fault : Fault}
    {next : UInt64 → Except Fault Version}
    (h : ∀ value, next value = .error fault ↔ Blames parts fault) :
    (component part).bind next = .error fault ↔ Blames (part :: parts) fault := by
  have hpart : (∃ value, component part = .ok value) ↔ IsNumber part := by
    simp only [component_eq_ok_iff, isNumber_iff, number?_eq_some_iff]
  simp only [Except.bind_eq_error_iff, h, exists_and_right, hpart, component_eq_error_iff]
  constructor
  · rintro (⟨misfit, rfl⟩ | ⟨hnumber, bad, hbad, rfl⟩)
    · exact ⟨part, (firstMisfit_cons_iff _ _ _).2 (.inl ⟨misfit, rfl⟩), rfl⟩
    · exact ⟨bad, (firstMisfit_cons_iff _ _ _).2 (.inr ⟨hnumber, hbad⟩), rfl⟩
  · rintro ⟨bad, hbad, rfl⟩
    rcases (firstMisfit_cons_iff _ _ _).1 hbad with ⟨misfit, rfl⟩ | ⟨hnumber, hbad⟩
    · exact .inl ⟨misfit, rfl⟩
    · exact .inr ⟨hnumber, bad, hbad, rfl⟩

section Parsed

variable {text : String} {parts : List (List Char)}

theorem parse_of_length_ne (h : Components text parts) (hlength : parts.length ≠ 3) :
    parse text = .error (.componentCount parts.length) := by
  rw [parse, (components_iff text parts).1 h]
  split
  · simp at hlength
  · rfl

theorem parse_of_three {first second third : List Char}
    (h : Components text [first, second, third]) :
    parse text = (component first).bind fun major => (component second).bind fun minor =>
      (component third).bind fun alter => .ok ⟨major, minor, alter⟩ := by
  rw [parse, (components_iff text _).1 h]
  rfl

theorem exists_three (hlength : parts.length = 3) :
    ∃ first second third, parts = [first, second, third] := by
  match parts, hlength with
  | [first, second, third], _ => exact ⟨first, second, third, rfl⟩

theorem parse_eq_ok_iff (h : Components text parts) (v : Version) :
    parse text = .ok v ↔ ∃ first second third, parts = [first, second, third] ∧
      Numeral first v.major.toNat ∧ Numeral second v.minor.toNat ∧
      Numeral third v.alter.toNat := by
  constructor
  · intro hv
    by_cases hlength : parts.length = 3
    · obtain ⟨first, second, third, rfl⟩ := exists_three hlength
      simp only [parse_of_three h, Except.bind_eq_ok_iff] at hv
      obtain ⟨major, hmajor, minor, hminor, alter, halter, hv⟩ := hv
      cases hv
      exact ⟨first, second, third, rfl, (component_eq_ok_iff _ _).1 hmajor,
        (component_eq_ok_iff _ _).1 hminor, (component_eq_ok_iff _ _).1 halter⟩
    · rw [parse_of_length_ne h hlength] at hv
      cases hv
  · rintro ⟨first, second, third, rfl, hmajor, hminor, halter⟩
    rw [parse_of_three h, (component_eq_ok_iff _ _).2 hmajor, (component_eq_ok_iff _ _).2 hminor,
      (component_eq_ok_iff _ _).2 halter]
    rfl

theorem parse_eq_error_iff (h : Components text parts) (hlength : parts.length = 3)
    (fault : Fault) : parse text = .error fault ↔ Blames parts fault := by
  obtain ⟨first, second, third, rfl⟩ := exists_three hlength
  rw [parse_of_three h]
  refine component_bind_eq_error_iff fun major => component_bind_eq_error_iff fun minor =>
    component_bind_eq_error_iff fun alter => ?_
  simp [not_blames_nil]

theorem ofText_eq_ok_iff (h : Components text parts) (v : Version) :
    ofText text = .ok v ↔ ∃ first second third, parts = [first, second, third] ∧
      Numeral first v.major.toNat ∧ Numeral second v.minor.toNat ∧
      Numeral third v.alter.toNat := by
  rw [ofText, Except.mapError_eq_ok_iff, parse_eq_ok_iff h]

theorem exists_ofText_iff (h : Components text parts) :
    (∃ v, ofText text = .ok v) ↔ parts.length = 3 ∧ ∀ part ∈ parts, IsNumber part := by
  constructor
  · rintro ⟨v, hv⟩
    obtain ⟨first, second, third, rfl, hfirst, hsecond, hthird⟩ := (ofText_eq_ok_iff h v).1 hv
    simp only [List.forall_mem_cons, isNumber_iff, number?_eq_some_iff]
    exact ⟨rfl, ⟨_, hfirst⟩, ⟨_, hsecond⟩, ⟨_, hthird⟩, by simp⟩
  · rintro ⟨hlength, hall⟩
    obtain ⟨first, second, third, rfl⟩ := exists_three hlength
    simp only [List.forall_mem_cons, isNumber_iff, number?_eq_some_iff] at hall
    obtain ⟨⟨major, hmajor⟩, ⟨minor, hminor⟩, ⟨alter, halter⟩, _⟩ := hall
    exact ⟨⟨major, minor, alter⟩,
      (ofText_eq_ok_iff h _).2 ⟨_, _, _, rfl, hmajor, hminor, halter⟩⟩

theorem ofText_eq_error_iff (h : Components text parts) (e : BuildError) :
    ofText text = .error e ↔
      parts.length ≠ 3 ∧ e = .invalidVersion text
        ("expected 3 dot-separated components, found " ++ parts.length.repr) ∨
      parts.length = 3 ∧ ∃ bad, FirstMisfit parts bad ∧ e = .invalidVersion text
        ("component '" ++ String.ofList bad ++ "' is not a number") := by
  rw [ofText, Except.mapError_eq_error_iff]
  constructor
  · rintro ⟨fault, hfault, rfl⟩
    by_cases hlength : parts.length = 3
    · obtain ⟨bad, hbad, rfl⟩ := (parse_eq_error_iff h hlength fault).1 hfault
      exact .inr ⟨hlength, bad, hbad, rfl⟩
    · rw [parse_of_length_ne h hlength] at hfault
      cases hfault
      exact .inl ⟨hlength, rfl⟩
  · rintro (⟨hlength, rfl⟩ | ⟨hlength, bad, hbad, rfl⟩)
    · exact ⟨_, parse_of_length_ne h hlength, rfl⟩
    · exact ⟨_, (parse_eq_error_iff h hlength _).2 ⟨bad, hbad, rfl⟩, rfl⟩

end Parsed

/--
A text is a version just when it has three components and each is a number below 2^64, and these are
the numbers of the version. Else the text is refused for the number of its components, or for the
leftmost one of three that is no such number.
-/
theorem versions_are_three_numbers (text : String) :
    ∃ parts, Components text parts ∧ (∀ others, Components text others → others = parts) ∧
      ((∃ v, ofText text = .ok v) ↔ parts.length = 3 ∧ ∀ part ∈ parts, IsNumber part) ∧
      (∀ v, ofText text = .ok v ↔ ∃ first second third, parts = [first, second, third] ∧
        Numeral first v.major.toNat ∧ Numeral second v.minor.toNat ∧
        Numeral third v.alter.toNat) ∧
      (∀ part ∈ parts, number? part = accumulate? part) ∧
      ∀ e, ofText text = .error e ↔
        parts.length ≠ 3 ∧ e = .invalidVersion text
          ("expected 3 dot-separated components, found " ++ parts.length.repr) ∨
        parts.length = 3 ∧ ∃ bad, FirstMisfit parts bad ∧ e = .invalidVersion text
          ("component '" ++ String.ofList bad ++ "' is not a number") := by
  have h : Components text (text.toList.splitOn '.') := (components_iff text _).2 rfl
  exact ⟨_, h, fun others ho => ((components_iff text others).1 ho).symm, exists_ofText_iff h,
    ofText_eq_ok_iff h, fun part _ => number?_eq_accumulate? part, ofText_eq_error_iff h⟩

/-- Zeros in front do not count, and 2^64 is too much where 2^64 - 1 is not. -/
example : ofText "+007.0.18446744073709551615" = .ok ⟨7, 0, 18446744073709551615⟩ ∧
    ofText "1..18446744073709551616" =
      .error (.invalidVersion "1..18446744073709551616" "component '' is not a number") :=
  ⟨by rfl, by rfl⟩

theorem components_text (v : Version) : Components v.text [Nat.toDigits 10 v.major.toNat,
    Nat.toDigits 10 v.minor.toNat, Nat.toDigits 10 v.alter.toNat] := by
  have hfree : ∀ value, '.' ∉ Nat.toDigits 10 value := fun value hm =>
    absurd (Nat.isDigit_of_mem_toDigits (by decide) (by decide) hm) (by decide)
  refine ⟨by simp, by simp [hfree], ?_⟩
  simp [text, numberText, List.intercalate]

theorem ofText_text (v : Version) : ofText v.text = .ok v := by
  rw [ofText, Except.mapError_eq_ok_iff, parse_eq_ok_iff (components_text v)]
  exact ⟨_, _, _, rfl, Text.numeral_toDigits _, Text.numeral_toDigits _, Text.numeral_toDigits _⟩

theorem text_injective {v w : Version} (h : v.text = w.text) : v = w :=
  Except.ok.inj ((ofText_text v).symm.trans ((congrArg ofText h).trans (ofText_text w)))

end BuildHeader.Version
