import BuildHeader.Text.Basic

/-!
Texts by their octets. Offsets count octets, and a text may be cut only where a character begins or
the text ends. The octets of a character stand in a text just where the character does: none of them
but the first one can begin another character.
-/

set_option autoImplicit false

namespace BuildHeader.Text

def firstAt? (c : Char) (text : String) : Option Nat :=
  (List.range (octets text).length).find? fun offset =>
    (String.utf8EncodeChar c).isPrefixOf ((octets text).drop offset)

@[simp] theorem octets_append (first second : String) :
    octets (first ++ second) = octets first ++ octets second := by
  simp [octets]

@[simp] theorem octets_singleton (c : Char) :
    octets (String.singleton c) = String.utf8EncodeChar c := by
  simp [octets, String.toByteArray_singleton, List.utf8Encode_singleton]

@[simp] theorem length_octets (text : String) : (octets text).length = text.utf8ByteSize := by
  simp [octets]

theorem isBoundary_iff_isValid (text : String) (offset : Nat) :
    IsBoundary text offset ↔ (⟨offset⟩ : String.Pos.Raw).IsValid text := by
  rw [String.Pos.Raw.isValid_iff_isUTF8FirstByte]
  refine or_congr ?_ ⟨?_, ?_⟩
  · simp [String.Pos.Raw.ext_iff]
  · rintro ⟨octet, h, hfirst⟩
    obtain ⟨hlt, rfl⟩ := List.getElem?_eq_some_iff.1 h
    exact ⟨by simpa [String.Pos.Raw.lt_iff] using hlt, hfirst⟩
  · rintro ⟨hlt, hfirst⟩
    have hlt' : offset < (octets text).length := by simpa [String.Pos.Raw.lt_iff] using hlt
    exact ⟨_, List.getElem?_eq_getElem hlt', hfirst⟩

theorem isBoundary_iff (text : String) (offset : Nat) :
    IsBoundary text offset ↔
      ∃ before after, text = before ++ after ∧ offset = before.utf8ByteSize := by
  rw [isBoundary_iff_isValid, String.Pos.Raw.isValid_iff_exists_append]
  simp [String.Pos.Raw.ext_iff]

theorem isBoundary_append (before after : String) :
    IsBoundary (before ++ after) before.utf8ByteSize :=
  (isBoundary_iff _ _).2 ⟨before, after, rfl, rfl⟩

theorem fromUTF8?_toUTF8 (text : String) : String.fromUTF8? text.toUTF8 = some text := by
  simp only [String.fromUTF8?, String.toUTF8_eq_toByteArray, dif_pos text.isValidUTF8]
  rfl

theorem slice?_append (before piece after : String) :
    slice? (before ++ piece ++ after) before.utf8ByteSize (before ++ piece).utf8ByteSize =
      some piece := by
  have hstart : IsBoundary (before ++ piece ++ after) before.utf8ByteSize := by
    rw [String.append_assoc]
    exact isBoundary_append before (piece ++ after)
  have hle : before.utf8ByteSize ≤ (before ++ piece).utf8ByteSize := by simp
  have hpiece : (before ++ piece ++ after).toUTF8.extract before.utf8ByteSize
      (before ++ piece).utf8ByteSize = piece.toUTF8 := by
    simp only [String.toUTF8_eq_toByteArray, String.toByteArray_append, ByteArray.append_assoc]
    rw [ByteArray.extract_append, ByteArray.extract_eq_empty_iff.2 (by simp)]
    simp [ByteArray.extract_append_eq_left]
  rw [slice?, if_pos ⟨hle, hstart, isBoundary_append _ after⟩, hpiece, fromUTF8?_toUTF8]

theorem slice?_left (before after : String) :
    slice? (before ++ after) 0 before.utf8ByteSize = some before := by
  simpa using slice?_append "" before after

theorem slice?_right (before after : String) :
    slice? (before ++ after) before.utf8ByteSize (before ++ after).utf8ByteSize = some after := by
  simpa using slice?_append before after ""

section Around

variable {c : Char} (before after : String)

theorem slice?_before :
    slice? (before ++ String.singleton c ++ after) 0 before.utf8ByteSize = some before := by
  rw [String.append_assoc]
  exact slice?_left before _

theorem slice?_from :
    slice? (before ++ String.singleton c ++ after) before.utf8ByteSize
      (before ++ String.singleton c ++ after).utf8ByteSize =
        some (String.singleton c ++ after) := by
  rw [String.append_assoc]
  exact slice?_right before _

theorem slice?_behind :
    slice? (before ++ String.singleton c ++ after) (before.utf8ByteSize + c.utf8Size)
      (before ++ String.singleton c ++ after).utf8ByteSize = some after := by
  have h := slice?_right (before ++ String.singleton c) after
  have hsize : (before ++ String.singleton c).utf8ByteSize = before.utf8ByteSize + c.utf8Size := by
    simp
  rwa [hsize] at h

end Around

theorem eq_free_or_append (c : Char) (text : String) :
    c ∉ text.toList ∨
      ∃ before after, text = before ++ String.singleton c ++ after ∧ c ∉ before.toList := by
  by_cases h : c ∈ text.toList
  · obtain ⟨before, after, ht, hb⟩ := List.eq_append_cons_of_mem h
    exact .inr ⟨String.ofList before, String.ofList after,
      String.toList_injective (by simp [ht]), by simpa using hb⟩
  · exact .inl h

theorem exists_of_prefix_octets {c : Char} {text : String}
    (h : String.utf8EncodeChar c <+: octets text) :
    ∃ after, text = String.singleton c ++ after := by
  obtain ⟨tail, ht⟩ := h
  have hbytes : [c].utf8Encode ++ tail.toByteArray = text.toList.utf8Encode := by
    rw [← String.toByteArray_ofList (l := text.toList), String.ofList_toList]
    refine ByteArray.ext (Array.toList_inj.1 ?_)
    simpa [octets, List.utf8Encode_singleton] using ht
  obtain ⟨after, ha⟩ := List.isPrefix_of_utf8Encode_append_eq_utf8Encode _ hbytes
  exact ⟨String.ofList after, String.toList_injective (by simp [← ha])⟩

theorem stands_iff (c : Char) (text : String) (offset : Nat) :
    String.utf8EncodeChar c <+: (octets text).drop offset ↔
      ∃ before after, text = before ++ String.singleton c ++ after ∧
        offset = before.utf8ByteSize := by
  have hdrop : ∀ before after : String,
      (octets (before ++ after)).drop before.utf8ByteSize = octets after := fun before after => by
    rw [octets_append, ← length_octets before, List.drop_left]
  constructor
  · intro h
    have hpos : 0 < (String.utf8EncodeChar c).length := by simp [Char.utf8Size_pos]
    have hoctet : (octets text)[offset]? = some (String.utf8EncodeChar c)[0] := by
      obtain ⟨tail, ht⟩ := h
      rw [← Nat.add_zero offset, ← List.getElem?_drop, ← ht, List.getElem?_append_left hpos,
        List.getElem?_eq_getElem hpos]
    -- Only the first octet of a character can be the first octet of the one looked for.
    have hboundary : IsBoundary text offset :=
      .inr ⟨_, hoctet, UInt8.isUTF8FirstByte_getElem_zero_utf8EncodeChar⟩
    obtain ⟨before, rest, rfl, rfl⟩ := (isBoundary_iff text offset).1 hboundary
    rw [hdrop] at h
    obtain ⟨after, rfl⟩ := exists_of_prefix_octets h
    exact ⟨before, after, by rw [String.append_assoc], rfl⟩
  · rintro ⟨before, after, rfl, rfl⟩
    rw [String.append_assoc, hdrop, octets_append, octets_singleton]
    exact List.prefix_append _ _

theorem firstAt?_eq_none {c : Char} {text : String} (h : c ∉ text.toList) :
    firstAt? c text = none := by
  refine List.find?_range_eq_none.2 fun offset _ => ?_
  rw [Bool.not_eq_true', Bool.eq_false_iff, ne_eq, List.isPrefixOf_iff_prefix, stands_iff]
  rintro ⟨before, after, rfl, _⟩
  simp at h

theorem mem_of_stands_before {c : Char} {before after first rest : String}
    (hs : before ++ String.singleton c ++ after = first ++ String.singleton c ++ rest)
    (hlt : first.utf8ByteSize < before.utf8ByteSize) : c ∈ before.toList := by
  have hchars := congrArg String.toList hs
  simp only [String.toList_append, String.toList_singleton, List.append_assoc] at hchars
  rcases List.append_eq_append_iff.1 hchars with ⟨inner, hfirst, _⟩ | ⟨inner, hbefore, hrest⟩
  · have hle : first = before ++ String.ofList inner := String.toList_injective (by simp [hfirst])
    have hsize := congrArg String.utf8ByteSize hle
    rw [String.utf8ByteSize_append] at hsize
    omega
  · cases inner with
    | nil =>
      have hsame : before = first := String.toList_injective (by simp [hbefore])
      exact absurd hlt (hsame ▸ Nat.lt_irrefl _)
    | cons x inner =>
      obtain ⟨rfl, _⟩ := List.cons.inj hrest
      simp [hbefore]

theorem firstAt?_append {c : Char} {before : String} (h : c ∉ before.toList) (after : String) :
    firstAt? c (before ++ String.singleton c ++ after) = some before.utf8ByteSize := by
  refine List.find?_range_eq_some.2 ⟨?_, ?_, fun offset hlt => ?_⟩
  · exact List.isPrefixOf_iff_prefix.2 ((stands_iff ..).2 ⟨before, after, rfl, rfl⟩)
  · have hpos := Char.utf8Size_pos c
    simp
    omega
  · rw [Bool.not_eq_true', Bool.eq_false_iff, ne_eq, List.isPrefixOf_iff_prefix, stands_iff]
    rintro ⟨first, rest, hs, rfl⟩
    exact h (mem_of_stands_before hs hlt)

/-- A character that is found can be cut out: a character begins at its offset and one behind it. -/
theorem isBoundary_of_firstAt? {c : Char} {text : String} {offset : Nat}
    (h : firstAt? c text = some offset) :
    IsBoundary text offset ∧ IsBoundary text (offset + c.utf8Size) := by
  rcases eq_free_or_append c text with hfree | ⟨before, after, rfl, hb⟩
  · rw [firstAt?_eq_none hfree] at h
    cases h
  · rw [firstAt?_append hb] at h
    obtain rfl := Option.some.inj h
    have hbehind := isBoundary_append (before ++ String.singleton c) after
    rw [String.utf8ByteSize_append, String.utf8ByteSize_singleton] at hbehind
    rw [String.append_assoc] at hbehind ⊢
    exact ⟨isBoundary_append _ _, hbehind⟩

end BuildHeader.Text
