import BuildHeader.Proofs.Template.Leftmost

/-!
Where words stand unfilled in a template. A word that is none of the names and stands between two
delimiters counts if the first of the two does not close a token that is taken away, so it matters
what a cut takes away further left. From one token to the next the unfilled words are found apart:
none begins in text without the delimiter, nor at either delimiter of a token that is taken away.
-/

set_option autoImplicit false

namespace BuildHeader.Template

theorem exists_inner_of_delimiter {d : Char} {text before more rest : List Char} (hd : d ∉ text)
    (h : before ++ d :: rest <+: text ++ more) :
    ∃ inner, before = text ++ inner ∧ inner ++ d :: rest <+: more := by
  obtain ⟨tail, ht⟩ := h
  rw [List.append_assoc, List.append_eq_append_iff] at ht
  rcases ht with ⟨extra, htext, hmore⟩ | ⟨inner, hbefore, hmore⟩
  · cases extra with
    | nil => exact ⟨[], by simpa using htext.symm, tail, by simpa using hmore⟩
    | cons c extra =>
      obtain ⟨rfl, _⟩ := List.cons.inj hmore
      exact absurd (by simp [htext]) hd
  · exact ⟨inner, hbefore, tail, by simp [hmore]⟩

theorem eq_nil_or_exists_inner {d : Char} {key before more rest : List Char} (hd : d ∉ key)
    (h : before ++ d :: rest <+: d :: (key ++ more)) :
    before = [] ∨ ∃ inner, before = d :: key ++ inner ∧ inner ++ d :: rest <+: more := by
  cases before with
  | nil => exact .inl rfl
  | cons c before =>
    obtain ⟨rfl, htail⟩ := List.cons_prefix_cons.1 h
    obtain ⟨inner, rfl, hinner⟩ := exists_inner_of_delimiter hd htail
    exact .inr ⟨inner, rfl, hinner⟩

theorem name_eq_of_token {d : Char} {name other more : List Char} (hn : d ∉ name)
    (ho : d ∉ other) (h : token d name <+: d :: (other ++ d :: more)) : name = other := by
  obtain ⟨_, hrest⟩ := List.cons_prefix_cons.1 h
  obtain ⟨inner, rfl, hinner⟩ := exists_inner_of_delimiter ho hrest
  cases inner with
  | nil => simp
  | cons c inner =>
    obtain ⟨rfl, _⟩ := List.cons_prefix_cons.1 hinner
    exact absurd (by simp) hn

namespace Cut

/-- A token of the name is taken away behind the text. -/
def TakesAt (delimiter : Char) (cut : Cut) (before name : List Char) : Prop :=
  ∃ done next rest, cut.fills = done ++ (name, next) :: rest ∧
    before = source delimiter ⟨cut.lead, done⟩

/-- The delimiter behind the text closes a token that is taken away. -/
def ClosesAt (delimiter : Char) (cut : Cut) (before : List Char) : Prop :=
  ∃ opening name, cut.TakesAt delimiter opening name ∧ before = opening ++ delimiter :: name

def behindToken (name : List Char) (cut : Cut) : Cut := ⟨[], (name, cut.lead) :: cut.fills⟩

theorem source_behindToken (d : Char) (name : List Char) (cut : Cut) :
    (cut.behindToken name).source d = token d name ++ cut.source d := by
  simp [behindToken, source]

theorem not_takesAt_of_fills_eq_nil {d : Char} {cut : Cut} (h : cut.fills = [])
    (before name : List Char) : ¬cut.TakesAt d before name := by
  rintro ⟨done, next, rest, hf, _⟩
  simp [h] at hf

section Behind

variable {d : Char} {cut : Cut} {text key before name : List Char}

theorem takesAt_behindText_iff :
    (cut.behindText text).TakesAt d before name ↔
      ∃ inner, before = text ++ inner ∧ cut.TakesAt d inner name := by
  constructor
  · rintro ⟨done, next, rest, h, rfl⟩
    exact ⟨source d ⟨cut.lead, done⟩, by simp [behindText, source], done, next, rest, h, rfl⟩
  · rintro ⟨inner, rfl, done, next, rest, h, rfl⟩
    exact ⟨done, next, rest, h, by simp [behindText, source]⟩

theorem takesAt_behindToken_iff :
    (cut.behindToken key).TakesAt d before name ↔
      before = [] ∧ name = key ∨
        ∃ inner, before = token d key ++ inner ∧ cut.TakesAt d inner name := by
  constructor
  · rintro ⟨done, next, rest, h, rfl⟩
    cases done with
    | nil =>
      obtain ⟨⟨rfl, rfl⟩, rfl⟩ := by simpa [behindToken] using h
      exact .inl ⟨by simp [behindToken, source], rfl⟩
    | cons fill done =>
      obtain ⟨rfl, hrest⟩ := by simpa [behindToken] using h
      exact .inr ⟨source d ⟨cut.lead, done⟩, by simp [behindToken, source], done, next, rest,
        hrest, rfl⟩
  · rintro (⟨rfl, rfl⟩ | ⟨inner, rfl, done, next, rest, h, rfl⟩)
    · exact ⟨[], cut.lead, cut.fills, rfl, by simp [behindToken, source]⟩
    · exact ⟨(key, cut.lead) :: done, next, rest, by simp [behindToken, h],
        by simp [behindToken, source]⟩

theorem takesAt_append_behindText (text inner : List Char) :
    (cut.behindText text).TakesAt d (text ++ inner) name ↔ cut.TakesAt d inner name := by
  simp [takesAt_behindText_iff]

theorem takesAt_append_behindToken (key inner : List Char) :
    (cut.behindToken key).TakesAt d (token d key ++ inner) name ↔ cut.TakesAt d inner name := by
  simp [takesAt_behindToken_iff, token]

theorem closesAt_append_behindText (text inner : List Char) :
    (cut.behindText text).ClosesAt d (text ++ inner) ↔ cut.ClosesAt d inner := by
  constructor
  · rintro ⟨opening, name, h, ho⟩
    obtain ⟨early, rfl, he⟩ := takesAt_behindText_iff.1 h
    rw [List.append_assoc] at ho
    exact ⟨early, name, he, List.append_cancel_left ho⟩
  · rintro ⟨opening, name, h, rfl⟩
    exact ⟨text ++ opening, name, (takesAt_append_behindText text opening).2 h, by simp⟩

theorem closesAt_append_behindToken (key inner : List Char) :
    (cut.behindToken key).ClosesAt d (token d key ++ inner) ↔ cut.ClosesAt d inner := by
  constructor
  · rintro ⟨opening, name, h, ho⟩
    rcases takesAt_behindToken_iff.1 h with ⟨rfl, rfl⟩ | ⟨early, rfl, he⟩
    · have hlength := congrArg List.length ho
      simp [token] at hlength
    · rw [List.append_assoc] at ho
      exact ⟨early, name, he, List.append_cancel_left ho⟩
  · rintro ⟨opening, name, h, rfl⟩
    exact ⟨token d key ++ opening, name, (takesAt_append_behindToken key opening).2 h, by simp⟩

theorem closesAt_behindToken (d : Char) (key : List Char) (cut : Cut) :
    (cut.behindToken key).ClosesAt d (d :: key) :=
  ⟨[], key, takesAt_behindToken_iff.2 (.inl ⟨rfl, rfl⟩), rfl⟩

end Behind

end Cut

/--
A word that is none of the names stands between two delimiters, behind the text, and the first of
the two does not close a token that is taken away.
-/
structure Unfilled (delimiter : Char) (isName : List Char → Prop) (cut : Cut)
    (before name : List Char) : Prop where
  identifier : Text.isIdentifier name = true
  unknown : ¬isName name
  token : before ++ token delimiter name <+: cut.source delimiter
  opening : ¬cut.ClosesAt delimiter before

section Unfilled

variable {d : Char} {isName : List Char → Prop} {cut : Cut} {before name : List Char}

/-- What is passed before a cut makes no difference to what is unfilled in it. -/
theorem unfilled_append_iff {whole : Cut} {passed : List Char}
    (hs : whole.source d = passed ++ cut.source d)
    (hc : ∀ inner, whole.ClosesAt d (passed ++ inner) ↔ cut.ClosesAt d inner) :
    Unfilled d isName whole (passed ++ before) name ↔ Unfilled d isName cut before name := by
  have ht : passed ++ before ++ token d name <+: whole.source d ↔
      before ++ token d name <+: cut.source d := by
    rw [hs, List.append_assoc, List.prefix_append_right_inj]
  constructor
  · intro h
    exact ⟨h.identifier, h.unknown, ht.1 h.token, fun hb => h.opening ((hc before).2 hb)⟩
  · intro h
    exact ⟨h.identifier, h.unknown, ht.2 h.token, fun hb => h.opening ((hc before).1 hb)⟩

theorem unfilled_append_behindText (text : List Char) :
    Unfilled d isName (cut.behindText text) (text ++ before) name ↔
      Unfilled d isName cut before name :=
  unfilled_append_iff (Cut.source_behindText d text cut) (Cut.closesAt_append_behindText text)

theorem unfilled_append_behindToken (key : List Char) :
    Unfilled d isName (cut.behindToken key) (Template.token d key ++ before) name ↔
      Unfilled d isName cut before name :=
  unfilled_append_iff (Cut.source_behindToken d key cut) (Cut.closesAt_append_behindToken key)

theorem Unfilled.behind_text {text : List Char} (hd : d ∉ text)
    (h : Unfilled d isName (cut.behindText text) before name) :
    ∃ inner, before = text ++ inner ∧ Unfilled d isName cut inner name := by
  have ht := h.token
  rw [Cut.source_behindText] at ht
  obtain ⟨inner, rfl, _⟩ := exists_inner_of_delimiter hd ht
  exact ⟨inner, rfl, (unfilled_append_behindText text).1 h⟩

theorem Unfilled.behind_token {key : List Char} (hd : d ∉ key) (hk : isName key) (hn : d ∉ name)
    (h : Unfilled d isName (cut.behindToken key) before name) :
    ∃ inner, before = Template.token d key ++ inner ∧ Unfilled d isName cut inner name := by
  have ht := h.token
  have hs : (cut.behindToken key).source d = d :: (key ++ d :: cut.source d) := by
    simp [Cut.source_behindToken, Template.token]
  rw [hs] at ht
  rcases eq_nil_or_exists_inner hd ht with rfl | ⟨inner, rfl, hi⟩
  · exact absurd (name_eq_of_token hn hd ht ▸ hk) h.unknown
  · cases inner with
    | nil =>
      have hcloses := Cut.closesAt_behindToken d key cut
      exact absurd (by simpa using hcloses) h.opening
    | cons c inner =>
      obtain ⟨rfl, _⟩ := List.cons_prefix_cons.1 hi
      have hb : c :: key ++ c :: inner = Template.token c key ++ inner := by
        simp [Template.token]
      rw [hb] at h
      exact ⟨inner, hb, (unfilled_append_behindToken key).1 h⟩

theorem Unfilled.behind_kept {key more : List Char} (hd : d ∉ key) (hn : d ∉ name)
    (hs : cut.source d = d :: more)
    (h : Unfilled d isName (cut.behindText (d :: key)) before name) :
    before = [] ∧ name = key ∨
      ∃ inner, before = d :: key ++ inner ∧ Unfilled d isName cut inner name := by
  have ht := h.token
  have hsource : (cut.behindText (d :: key)).source d = d :: (key ++ d :: more) := by
    simp [Cut.source_behindText, hs]
  rw [hsource] at ht
  rcases eq_nil_or_exists_inner hd ht with rfl | ⟨inner, rfl, _⟩
  · exact .inl ⟨rfl, name_eq_of_token hn hd ht⟩
  · exact .inr ⟨inner, rfl, (unfilled_append_behindText (d :: key)).1 h⟩

theorem unfilled_kept {key more : List Char} (hw : Text.isIdentifier key = true)
    (hk : ¬isName key) (hs : cut.source d = d :: more) :
    Unfilled d isName (cut.behindText (d :: key)) [] key where
  identifier := hw
  unknown := hk
  token := ⟨more, by simp [Cut.source_behindText, hs, Template.token]⟩
  opening := by
    rintro ⟨opening, other, _, h⟩
    simp at h

theorem not_unfilled_nil : ¬Unfilled d isName ⟨[], []⟩ before name := by
  intro h
  have ht := h.token
  simp [Cut.source, Template.token] at ht

theorem not_unfilled_unclosed {chars : List Char} (hd : d ∉ chars) :
    ¬Unfilled d isName (Cut.behindText (d :: chars) ⟨[], []⟩) before name := by
  intro h
  have ht := h.token
  have hs : (Cut.behindText (d :: chars) ⟨[], []⟩).source d = d :: (chars ++ []) := by
    simp [Cut.behindText, Cut.source]
  rw [hs] at ht
  rcases eq_nil_or_exists_inner hd ht with rfl | ⟨inner, _, hi⟩
  · obtain ⟨_, tail, hchars⟩ := List.cons_prefix_cons.1 ht
    have hin : d ∈ chars ++ [] := hchars ▸ by simp
    exact hd (by simpa using hin)
  · simp at hi

end Unfilled

end BuildHeader.Template
