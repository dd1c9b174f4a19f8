import BuildHeader.Template.Render

/-!
The segments of a template and the tokens in it. A name free of the delimiter stands between two
delimiters of a text just when it is an inner segment, neither the first nor the last one.
-/

set_option autoImplicit false

namespace BuildHeader.Template

/-- What follows a first segment: all others, each behind a delimiter of its own. -/
def behind (delimiter : Char) (segments : List (List Char)) : List Char :=
  segments.flatMap (delimiter :: ·)

@[simp] theorem behind_nil (d : Char) : behind d [] = [] := rfl

@[simp] theorem behind_cons (d : Char) (segment : List Char) (segments : List (List Char)) :
    behind d (segment :: segments) = d :: (segment ++ behind d segments) := rfl

@[simp] theorem behind_append (d : Char) (before after : List (List Char)) :
    behind d (before ++ after) = behind d before ++ behind d after := by
  simp [behind]

def Free (delimiter : Char) (segments : List (List Char)) : Prop :=
  ∀ segment ∈ segments, delimiter ∉ segment

@[simp] theorem free_nil (d : Char) : Free d [] := by simp [Free]

@[simp] theorem free_cons (d : Char) (segment : List Char) (segments : List (List Char)) :
    Free d (segment :: segments) ↔ d ∉ segment ∧ Free d segments := by
  simp [Free]

@[simp] theorem free_append (d : Char) (before after : List (List Char)) :
    Free d (before ++ after) ↔ Free d before ∧ Free d after := by
  simp [Free, or_imp, forall_and]

theorem splitOn_behind {d : Char} {first : List Char} {rest : List (List Char)}
    (hf : d ∉ first) (hr : Free d rest) : (first ++ behind d rest).splitOn d = first :: rest := by
  induction rest generalizing first with
  | nil => simp [List.splitOn_eq_singleton hf]
  | cons segment rest ih =>
    obtain ⟨hs, hr⟩ := (free_cons d segment rest).1 hr
    rw [behind_cons, List.splitOn_append_cons_self_of_not_mem hf, ih hs hr]

theorem exists_segments (d : Char) (text : List Char) :
    ∃ first rest, text = first ++ behind d rest ∧ d ∉ first ∧ Free d rest := by
  induction text with
  | nil => exact ⟨[], [], by simp⟩
  | cons c text ih =>
    obtain ⟨first, rest, rfl, hf, hr⟩ := ih
    by_cases hc : c = d
    · exact ⟨[], first :: rest, by simp [hc], by simp, by simp [hf, hr]⟩
    · exact ⟨c :: first, rest, by simp, by simp [Ne.symm hc, hf], hr⟩

def token (delimiter : Char) (name : List Char) : List Char := delimiter :: (name ++ [delimiter])

theorem token_infix_iff {d : Char} {first name : List Char} {rest : List (List Char)}
    (hf : d ∉ first) (hr : Free d rest) (hn : d ∉ name) :
    token d name <:+: first ++ behind d rest ↔ name ∈ rest.dropLast := by
  constructor
  · rintro ⟨before, after, h⟩
    obtain ⟨b, bs, hb⟩ := List.exists_cons_of_ne_nil (List.splitOn_ne_nil d before)
    obtain ⟨a, as, ha⟩ := List.exists_cons_of_ne_nil (List.splitOn_ne_nil d after)
    have hs := splitOn_behind hf hr
    have ht : before ++ token d name ++ after = before ++ d :: (name ++ d :: after) := by
      simp [token]
    rw [← h, ht, List.splitOn_append_cons_self,
      List.splitOn_append_cons_self_of_not_mem hn, hb, ha] at hs
    obtain ⟨rfl, rfl⟩ := List.cons.inj hs
    simp [List.dropLast_append_of_ne_nil]
  · intro h
    rcases List.eq_nil_or_concat rest with rfl | ⟨inner, last, rfl⟩
    · simp at h
    rw [List.concat_eq_append, List.dropLast_concat] at h
    obtain ⟨bs, as, rfl⟩ := List.append_of_mem h
    cases as with
    | nil => exact ⟨first ++ behind d bs, last, by simp [token]⟩
    | cons a as => exact ⟨first ++ behind d bs, a ++ behind d (as ++ [last]), by simp [token]⟩

/-- One of the names stands between two delimiters somewhere in the text. -/
def HasToken (delimiter : Char) (isName : List Char → Prop) (text : List Char) : Prop :=
  ∃ name, isName name ∧ token delimiter name <:+: text

section Names

variable {d : Char} {isName : List Char → Prop} (hn : ∀ name, isName name → d ∉ name)
include hn

theorem hasToken_behind_iff {first : List Char} {rest : List (List Char)}
    (hf : d ∉ first) (hr : Free d rest) :
    HasToken d isName (first ++ behind d rest) ↔ ∃ name ∈ rest.dropLast, isName name := by
  constructor
  · rintro ⟨name, h, ht⟩
    exact ⟨name, (token_infix_iff hf hr (hn name h)).1 ht, h⟩
  · rintro ⟨name, ht, h⟩
    exact ⟨name, h, (token_infix_iff hf hr (hn name h)).2 ht⟩

theorem hasToken_behind_concat_iff {first : List Char} {rest : List (List Char)}
    (hf : d ∉ first) (hr : Free d rest) :
    HasToken d isName (first ++ behind d rest ++ [d]) ↔ ∃ name ∈ rest, isName name := by
  have hs : first ++ behind d rest ++ [d] = first ++ behind d (rest ++ [[]]) := by simp
  rw [hs, hasToken_behind_iff hn hf (by simp [hr]), List.dropLast_concat]

end Names

section Fill

variable {value? : List Char → Option (List Char)}

theorem value?_of_mem_fill {segments : List (List Char)} {name value : List Char}
    (h : .filled name value ∈ fill value? segments) : value? name = some value := by
  fun_induction fill value? segments with
  | case1 => simp at h
  | case2 chars => simp at h
  | case3 key next rest v hv ih =>
    simp only [List.mem_cons, Piece.filled.injEq, reduceCtorEq, false_or] at h
    rcases h with ⟨rfl, rfl⟩ | h
    · exact hv
    · exact ih h
  | case4 key next rest hv ih =>
    simp only [List.mem_cons, reduceCtorEq, false_or] at h
    exact ih h

/-- Names without a value are passed over, each with the delimiter before it. -/
theorem fill_append {passed rest : List (List Char)}
    (hp : ∀ name ∈ passed, value? name = none) (hr : rest ≠ []) :
    fill value? (passed ++ rest) = passed.map .kept ++ fill value? rest := by
  induction passed with
  | nil => rfl
  | cons name passed ih =>
    have hnone := hp name (by simp)
    have htail := ih fun other h => hp other (by simp [h])
    obtain ⟨next, tail, ht⟩ :=
      List.exists_cons_of_ne_nil (List.append_ne_nil_of_right_ne_nil passed hr)
    rw [List.cons_append, ht, fill, hnone]
    simp [← ht, htail]

variable {d : Char} {first : List Char}

theorem pieces_behind {rest : List (List Char)} (hf : d ∉ first) (hr : Free d rest) :
    pieces d value? (first ++ behind d rest) = .text first :: fill value? rest := by
  simp [pieces, splitOn_behind hf hr]

theorem pieces_of_passed {passed : List (List Char)} {last : List Char} (hf : d ∉ first)
    (hd : Free d (passed ++ [last])) (hp : ∀ name ∈ passed, value? name = none) :
    pieces d value? (first ++ behind d (passed ++ [last])) =
      .text first :: (passed.map .kept ++ [.unclosed last]) := by
  rw [pieces_behind hf hd, fill_append hp (by simp), fill]

theorem pieces_token {passed : List (List Char)} {name value : List Char} (hf : d ∉ first)
    (hd : Free d passed) (hp : ∀ name ∈ passed, value? name = none) (hn : d ∉ name)
    (hv : value? name = some value) (text : List Char) :
    pieces d value? (first ++ behind d passed ++ d :: (name ++ d :: text)) =
      .text first :: (passed.map .kept ++ .filled name value :: pieces d value? text) := by
  obtain ⟨next, rest, rfl, hx, hr⟩ := exists_segments d text
  have hs : first ++ behind d passed ++ d :: (name ++ d :: (next ++ behind d rest)) =
      first ++ behind d (passed ++ name :: next :: rest) := by simp
  rw [hs, pieces_behind hf (by simp [hd, hn, hx, hr]), pieces_behind hx hr,
    fill_append hp (by simp), fill, hv]

theorem pieces_kept {name : List Char} (hf : d ∉ first) (hn : d ∉ name)
    (hv : value? name = none) (text : List Char) :
    ∃ later, pieces d value? (first ++ d :: (name ++ d :: text)) =
        .text first :: .kept name :: later ∧
      pieces d value? (name ++ d :: text) = .text name :: later := by
  obtain ⟨next, rest, rfl, hx, hr⟩ := exists_segments d text
  have hs : first ++ d :: (name ++ d :: (next ++ behind d rest)) =
      first ++ behind d (name :: next :: rest) := by simp
  have htail : name ++ d :: (next ++ behind d rest) = name ++ behind d (next :: rest) := by simp
  refine ⟨fill value? (next :: rest), ?_, ?_⟩
  · rw [hs, pieces_behind hf (by simp [hn, hx, hr]), fill, hv]
  · rw [htail, pieces_behind hn (by simp [hx, hr])]

end Fill

end BuildHeader.Template
