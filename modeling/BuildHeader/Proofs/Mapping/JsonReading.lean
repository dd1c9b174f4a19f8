import BuildHeader.Mapping
import BuildHeader.Proofs.Mapping
import BuildHeader.Proofs.Mapping.History
import BuildHeader.Run.Command
import BuildHeader.Text.Basic

/-!
A reader of JSON objects of strings and nulls, and what it makes of the texts of a mapping. The
text is cut into tokens first, with the escapes of every string undone, and the tokens are read as
members in a row. So what a layout writes is read back, whatever blanks it puts between the tokens.
-/

set_option autoImplicit false

namespace BuildHeader.Json

inductive Token where
  | opening
  | closing
  | colon
  | comma
  | null
  | text (chars : List Char)
  deriving DecidableEq, Repr

def isBlank (c : Char) : Bool := c == ' ' || c == '\t' || c == '\n' || c == '\r'

/-- What stands in a string: a character, or half of one by its number. -/
inductive Mark where
  | char (c : Char)
  | half (unit : Nat)
  deriving DecidableEq, Repr

def shortEscape? : Char → Option Char
  | '"' => some '"'
  | '\\' => some '\\'
  | '/' => some '/'
  | 'b' => some '\x08'
  | 'f' => some '\x0c'
  | 'n' => some '\n'
  | 'r' => some '\r'
  | 't' => some '\t'
  | _ => none

def Mark.ofUnit (unit : Nat) : Mark :=
  if 0xD800 ≤ unit ∧ unit < 0xE000 then .half unit else .char (Char.ofNat unit)

def longEscape? (a b c d : Char) : Option Mark := do
  let a ← Text.hexValue? a
  let b ← Text.hexValue? b
  let c ← Text.hexValue? c
  let d ← Text.hexValue? d
  return .ofUnit (((a * 16 + b) * 16 + c) * 16 + d)

/-- A high half and a low half are one character, and no half stands alone. -/
def joined : List Mark → Option (List Char)
  | [] => some []
  | .char c :: rest => (joined rest).map (c :: ·)
  | .half high :: .half low :: rest =>
    if high < 0xDC00 ∧ 0xDC00 ≤ low then
      (joined rest).map (Char.ofNat (0x10000 + (high - 0xD800) * 0x400 + (low - 0xDC00)) :: ·)
    else none
  | .half _ :: _ => none

def putFirst (mark : Mark) (found : List Mark × List Token) : List Mark × List Token :=
  (mark :: found.1, found.2)

mutual

def tokens : List Char → Option (List Token)
  | [] => some []
  | '\x7b' :: rest => (tokens rest).map (.opening :: ·)
  | '\x7d' :: rest => (tokens rest).map (.closing :: ·)
  | ':' :: rest => (tokens rest).map (.colon :: ·)
  | ',' :: rest => (tokens rest).map (.comma :: ·)
  | 'n' :: 'u' :: 'l' :: 'l' :: rest => (tokens rest).map (.null :: ·)
  | '"' :: rest =>
    (unquote rest).bind fun found => (joined found.1).map fun chars => .text chars :: found.2
  | c :: rest => if isBlank c then tokens rest else none

def unquote : List Char → Option (List Mark × List Token)
  | [] => none
  | '"' :: rest => (tokens rest).map ([], ·)
  | '\\' :: 'u' :: a :: b :: c :: d :: rest =>
    (longEscape? a b c d).bind fun mark => (unquote rest).map (putFirst mark)
  | '\\' :: c :: rest =>
    (shortEscape? c).bind fun plain => (unquote rest).map (putFirst (.char plain))
  | c :: rest =>
    if c = '\\' ∨ c.toNat < 0x20 then none else (unquote rest).map (putFirst (.char c))

end

def value? : Token → Option (Option String)
  | .text chars => some (some (String.ofList chars))
  | .null => some none
  | _ => none

def members : List Token → Option (List (String × Option String))
  | .text name :: .colon :: value :: rest =>
    match value? value, rest with
    | some value, [.closing] => some [(String.ofList name, value)]
    | some value, .comma :: rest => (members rest).map ((String.ofList name, value) :: ·)
    | _, _ => none
  | _ => none

def object : List Token → Option (List (String × Option String))
  | [.opening, .closing] => some []
  | .opening :: rest => members rest
  | _ => none

def decode (text : String) : Option (List (String × Option String)) :=
  (tokens text.toList).bind object

theorem tokens_blank {c : Char} (h : isBlank c = true) (rest : List Char) :
    tokens (c :: rest) = tokens rest := by
  simp only [isBlank, Bool.or_eq_true, beq_iff_eq] at h
  rcases h with ((rfl | rfl) | rfl) | rfl <;> simp [tokens, isBlank]

theorem tokens_gap {gap : List Char} (h : gap.all isBlank = true) (rest : List Char) :
    tokens (gap ++ rest) = tokens rest := by
  induction gap with
  | nil => rfl
  | cons c gap ih =>
    obtain ⟨hc, hgap⟩ := Bool.and_eq_true_iff.1 h
    rw [List.cons_append, tokens_blank hc, ih hgap]

theorem joined_map_char (chars : List Char) : joined (chars.map .char) = some chars := by
  induction chars with
  | nil => rfl
  | cons c chars ih => simp [joined, ih]

theorem longEscape?_control {c : Char} (h : c.toNat < 0x20) :
    longEscape? '0' '0' (hexDigit (c.toNat / 16)) (hexDigit c.toNat) = some (.char c) := by
  have hread : ∀ n < 0x20, longEscape? '0' '0' (hexDigit (n / 16)) (hexDigit n) =
      some (.char (Char.ofNat n)) := by decide
  rw [hread c.toNat h, Char.ofNat_toNat]

theorem unquote_plain {c : Char} (hquote : c ≠ '"') (hslash : c ≠ '\\') (h : ¬c.toNat < 0x20)
    (rest : List Char) : unquote (c :: rest) = (unquote rest).map (putFirst (.char c)) := by
  rw [unquote, if_neg (not_or.2 ⟨hslash, h⟩)]
  · exact hquote
  · exact fun _ _ _ _ _ same _ => hslash same
  · exact fun _ _ same _ => hslash same

theorem unquote_escape (c : Char) (rest : List Char) :
    unquote (escape c ++ rest) = (unquote rest).map (putFirst (.char c)) := by
  unfold escape
  split
  case h_8 hquote hslash _ _ _ _ _ =>
    split
    · rename_i hcontrol
      simp [unquote, longEscape?_control hcontrol]
    · rename_i hplain
      exact unquote_plain hquote hslash hplain rest
  all_goals
    simp [unquote, shortEscape?]

theorem unquote_escapes (chars rest : List Char) :
    unquote (chars.flatMap escape ++ '"' :: rest) = (tokens rest).map (chars.map .char, ·) := by
  induction chars with
  | nil => simp [unquote]
  | cons c chars ih =>
    rw [List.flatMap_cons, List.append_assoc, unquote_escape, ih, Option.map_map]
    rfl

theorem tokens_quoted (text : String) (rest : List Char) :
    tokens (quoted text ++ rest) = (tokens rest).map (.text text.toList :: ·) := by
  have hopen : quoted text ++ rest = '"' :: (text.toList.flatMap escape ++ '"' :: rest) := by
    simp [quoted]
  rw [hopen, tokens, unquote_escapes]
  cases tokens rest with
  | none => rfl
  | some found => simp [joined_map_char]

def valueToken : Option String → Token
  | some text => .text text.toList
  | none => .null

theorem tokens_value (value? : Option String) (rest : List Char) :
    tokens (value value? ++ rest) = (tokens rest).map (valueToken value? :: ·) := by
  cases value? with
  | some text => exact tokens_quoted text rest
  | none => simp [value, tokens, valueToken]

theorem value?_valueToken (value : Option String) : value? (valueToken value) = some value := by
  cases value <;> simp [value?, valueToken]

/-- Between its own tokens a layout writes blanks only. -/
structure Layout.Readable (layout : Layout) : Prop where
  opening (rest : List Char) : tokens (layout.opening ++ rest) = tokens rest
  colon (rest : List Char) : tokens (layout.colon ++ rest) = (tokens rest).map (.colon :: ·)
  comma (rest : List Char) : tokens (layout.comma ++ rest) = (tokens rest).map (.comma :: ·)
  closing (rest : List Char) : tokens (layout.closing ++ rest) = tokens rest

theorem compact_readable : compact.Readable where
  opening _ := rfl
  colon rest := by simp [compact, tokens]
  comma rest := by simp [compact, tokens]
  closing _ := rfl

theorem pretty_readable : pretty.Readable where
  opening := tokens_gap rfl
  colon rest := by simp [pretty, tokens, isBlank]
  comma rest := by simp [pretty, tokens, isBlank]
  closing := tokens_gap rfl

theorem Layout.Readable.member {layout : Layout} (h : layout.Readable)
    (entry : String × Option String) (rest : List Char) :
    tokens (layout.member entry ++ rest) =
      (tokens rest).map (.text entry.1.toList :: .colon :: valueToken entry.2 :: ·) := by
  rw [Layout.member, List.append_assoc, List.append_assoc, tokens_quoted, h.colon, tokens_value,
    Option.map_map, Option.map_map]
  rfl

theorem Layout.Readable.members {layout : Layout} (h : layout.Readable)
    (entry : String × Option String) (entries : List (String × Option String)) {ending : List Char}
    (hending : tokens ending = some [.closing]) :
    ∃ found, tokens ((((entry :: entries).map layout.member).intersperse layout.comma).flatten ++
        ending) = some found ∧ members found = some (entry :: entries) := by
  induction entries generalizing entry with
  | nil =>
    have hone : (([entry].map layout.member).intersperse layout.comma).flatten =
        layout.member entry := by simp
    rw [hone, h.member, hending]
    exact ⟨_, rfl, by simp [Json.members, value?_valueToken]⟩
  | cons next entries ih =>
    obtain ⟨found, hfound, hmembers⟩ := ih next
    have hmore : (((entry :: next :: entries).map layout.member).intersperse layout.comma).flatten =
        layout.member entry ++ (layout.comma ++
          (((next :: entries).map layout.member).intersperse layout.comma).flatten) := by simp
    rw [hmore, List.append_assoc, h.member, List.append_assoc, h.comma, hfound]
    exact ⟨_, rfl, by simp [Json.members, value?_valueToken, hmembers]⟩

theorem object_of_members {found : List Token} {entries : List (String × Option String)}
    (h : members found = some entries) : object (.opening :: found) = some entries := by
  unfold object
  split
  · rename_i hclosing
    cases hclosing
    simp [members] at h
  · rename_i heq
    cases heq
    exact h
  · rename_i hother
    exact absurd rfl (hother found)

theorem Layout.Readable.decode {layout : Layout} (h : layout.Readable)
    (entries : List (String × Option String)) :
    decode (String.ofList (layout.object entries)) = some entries := by
  rw [Json.decode, String.toList_ofList]
  cases entries with
  | nil => rfl
  | cons entry entries =>
    have hending : tokens (layout.closing ++ ['\x7d']) = some [.closing] := by
      rw [h.closing]
      rfl
    obtain ⟨found, hfound, hmembers⟩ := h.members entry entries hending
    have htokens : tokens (layout.object (entry :: entries)) = some (.opening :: found) := by
      rw [Layout.object, if_neg (by simp), tokens, List.append_assoc, List.append_assoc, h.opening,
        hfound]
      rfl
    rw [htokens]
    exact object_of_members hmembers

/-- A text that is `null` and no text at all, and a character in two halves. -/
example : decode "\x7b \"b\": \"null\", \"a\" : null, \"\\u0063\":\"\\ud83d\\ude00\\/\" \x7d" =
    some [("b", some "null"), ("a", none), ("c", some "😀/")] := by
  decide

end BuildHeader.Json

namespace BuildHeader

open Entries (keys)

namespace Json.Layout.Readable

variable {layout : Layout}

theorem object_inj (h : layout.Readable) {first second : List (String × Option String)} :
    String.ofList (layout.object first) = String.ofList (layout.object second) ↔
      first = second := by
  constructor
  · intro same
    have hread := congrArg Json.decode same
    rw [h.decode, h.decode] at hread
    exact Option.some.inj hread
  · intro same
    rw [same]

end Json.Layout.Readable

namespace Mapping

theorem sorted_perm (m : Mapping) : m.sorted.Perm m.entries := m.entries.mergeSort_perm _

theorem lookup_sorted (m : Mapping) (key : String) : m.sorted.lookup key = m.get? key :=
  Entries.lookup_of_perm m.sorted_perm m.distinct key

theorem ascending_sorted (m : Mapping) : m.sorted.Pairwise fun a b => a.1 < b.1 := by
  have hsorted : m.sorted.Pairwise fun a b => decide (a.1 ≤ b.1) = true :=
    List.pairwise_mergeSort
      (fun a b c hab hbc => by
        simpa using String.le_trans (by simpa using hab) (by simpa using hbc))
      (fun a b => by simpa using String.le_total a.1 b.1) m.entries
  have hdistinct : (keys m.sorted).Nodup := (Entries.nodup_keys_of_perm m.sorted_perm).2 m.distinct
  refine hsorted.imp₂ (fun a b hab hne => ?_) (List.pairwise_map.1 hdistinct)
  exact String.not_le.1 fun hba => hne (String.le_antisymm (of_decide_eq_true hab) hba)

theorem sorted_eq_iff (a b : Mapping) :
    a.sorted = b.sorted ↔ ∀ key, a.get? key = b.get? key := by
  constructor
  · intro same key
    rw [← lookup_sorted, ← lookup_sorted, same]
  · intro h
    have hmem : ∀ entry, entry ∈ a.entries ↔ entry ∈ b.entries := by
      rintro ⟨key, value⟩
      rw [mem_entries_iff, mem_entries_iff, h]
    have hentries : a.entries.Perm b.entries :=
      (List.perm_ext_iff_of_nodup (Entries.nodup_of_keys a.distinct)
        (Entries.nodup_of_keys b.distinct)).2 hmem
    have hperm : a.sorted.Perm b.sorted :=
      a.sorted_perm.trans (hentries.trans b.sorted_perm.symm)
    exact hperm.eq_of_pairwise (fun x y _ _ hxy hyx => absurd hxy (String.lt_asymm hyx))
      a.ascending_sorted b.ascending_sorted

theorem decode_prettyJson (m : Mapping) : Json.decode m.prettyJson = some m.sorted :=
  Json.pretty_readable.decode m.sorted

theorem decode_compactJson (m : Mapping) : Json.decode m.compactJson = some m.entries :=
  Json.compact_readable.decode m.entries

theorem prettyJson_eq_iff (a b : Mapping) :
    a.prettyJson = b.prettyJson ↔ ∀ key, a.get? key = b.get? key :=
  Json.pretty_readable.object_inj.trans (sorted_eq_iff a b)

/--
What is listed as JSON is read back as the variables of the mapping, each once and in ascending
order, and the compact text as the variables in the order of the mapping. Two mappings are listed
alike just when they are the same.
-/
theorem json_is_canonical_and_lossless (m : Mapping) :
    Run.listing m .json = [m.prettyJson] ∧
    Json.decode m.prettyJson = some m.sorted ∧
    m.sorted.Perm m.entries ∧
    (m.sorted.Pairwise fun a b => a.1 < b.1) ∧
    Json.decode m.compactJson = some m.entries ∧
    ∀ other, (m.sorted = other.sorted ↔ m.sameAs other = true) ∧
      (m.prettyJson = other.prettyJson ↔ m.sameAs other = true) ∧
      (m.sameAs other = true ↔ ∀ key, m.get? key = other.get? key) := by
  refine ⟨rfl, m.decode_prettyJson, m.sorted_perm, m.ascending_sorted, m.decode_compactJson,
    fun other => ⟨?_, ?_, sameAs_iff m other⟩⟩
  · rw [sameAs_iff, sorted_eq_iff]
  · rw [sameAs_iff, prettyJson_eq_iff]

end Mapping

end BuildHeader
