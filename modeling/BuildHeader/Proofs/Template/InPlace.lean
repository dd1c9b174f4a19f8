import BuildHeader.Proofs.Template.Unresolved

set_option autoImplicit false

namespace BuildHeader.Template

/--
What follows an unfilled name in the text: the value of the token that its second delimiter opens,
or else that delimiter.
-/
structure Stays (delimiter : Char) (value : List Char → List Char) (cut : Cut)
    (text before name : List Char) : Prop where
  followed : ∀ other, cut.TakesAt delimiter (before ++ delimiter :: name) other →
    delimiter :: (name ++ value other) <:+: text
  closed : (∀ other, ¬cut.TakesAt delimiter (before ++ delimiter :: name) other) →
    token delimiter name <:+: text

theorem Stays.begins {d : Char} {value : List Char → List Char} {cut : Cut}
    {text before name : List Char} (h : Stays d value cut text before name) :
    d :: name <:+: text := by
  by_cases htakes : ∃ other, cut.TakesAt d (before ++ d :: name) other
  · obtain ⟨other, ho⟩ := htakes
    have hvalue : d :: name <+: d :: (name ++ value other) := ⟨value other, rfl⟩
    exact hvalue.isInfix.trans (h.followed other ho)
  · have hclosed : d :: name <+: token d name := ⟨[d], rfl⟩
    exact hclosed.isInfix.trans (h.closed fun other ho => htakes ⟨other, ho⟩)

theorem begins_with_value_or_delimiter (d : Char) (value? : List Char → Option (List Char))
    (next : List Char) (rest : List (List Char)) :
    (∃ v tail, value? next = some v ∧
      (fill value? (next :: rest)).flatMap (Piece.chars d) = v ++ tail ∧
      ∀ other, (Cut.ofPieces d (fill value? (next :: rest))).TakesAt d [] other ↔ other = next) ∨
    ∃ tail, (fill value? (next :: rest)).flatMap (Piece.chars d) = d :: tail ∧
      ∀ other, ¬(Cut.ofPieces d (fill value? (next :: rest))).TakesAt d [] other := by
  have hnone : ∀ (chars : List Char) (later : Cut) (other : List Char),
      ¬(later.behindText (d :: chars)).TakesAt d [] other := fun chars later other h => by
    simp [Cut.takesAt_behindText_iff] at h
  cases rest with
  | nil => exact .inr ⟨next, by simp [fill, Piece.chars], hnone next _⟩
  | cons after rest =>
    cases hv : value? next with
    | none =>
      refine .inr ⟨next ++ (fill value? (after :: rest)).flatMap (Piece.chars d), ?_, ?_⟩
      · simp [fill, hv, Piece.chars]
      · simpa only [fill, hv, Cut.ofPieces] using hnone next _
    | some v =>
      refine .inl ⟨v, after ++ (fill value? rest).flatMap (Piece.chars d), rfl, ?_, fun other => ?_⟩
      · simp [fill, hv, Piece.chars]
      · simp only [fill, hv]
        refine Cut.takesAt_behindToken_iff.trans ⟨?_, fun h => .inl ⟨rfl, h⟩⟩
        rintro (⟨_, h⟩ | ⟨inner, h, _⟩)
        · exact h
        · simp [token] at h

section Stays

variable {d : Char} {value : List Char → List Char} {cut : Cut} {text before name : List Char}

theorem Stays.append (h : Stays d value cut text before name) {whole : Cut}
    {passed : List Char} (written : List Char)
    (hw : ∀ inner other, whole.TakesAt d (passed ++ inner) other ↔ cut.TakesAt d inner other) :
    Stays d value whole (written ++ text) (passed ++ before) name where
  followed := by
    intro other ho
    rw [List.append_assoc, hw] at ho
    exact List.infix_append_of_infix_right (h.followed other ho)
  closed := by
    intro hnone
    refine List.infix_append_of_infix_right (h.closed fun other ho => hnone other ?_)
    rw [List.append_assoc, hw]
    exact ho

variable {isName : List Char → Prop} {value? : List Char → Option (List Char)}
  (hv : ∀ name, value? name = none ↔ ¬isName name)
  (hvalue : ∀ name v, value? name = some v → value name = v)

include hvalue in
theorem stays_kept (key next : List Char) (rest : List (List Char)) :
    Stays d value ((Cut.ofPieces d (fill value? (next :: rest))).behindText (d :: key))
      (d :: key ++ (fill value? (next :: rest)).flatMap (Piece.chars d)) [] key := by
  have htakes : ∀ other, ((Cut.ofPieces d (fill value? (next :: rest))).behindText
      (d :: key)).TakesAt d ([] ++ d :: key) other ↔
        (Cut.ofPieces d (fill value? (next :: rest))).TakesAt d [] other := fun other => by
    simp [Cut.takesAt_behindText_iff]
  rcases begins_with_value_or_delimiter d value? next rest with
    ⟨v, tail, hv, htext, hother⟩ | ⟨tail, htext, hother⟩
  · refine ⟨fun other ho => ?_, fun hnone => ?_⟩
    · obtain rfl := (hother other).1 ((htakes other).1 ho)
      exact ⟨[], tail, by simp [htext, hvalue other v hv]⟩
    · exact absurd ((htakes next).2 ((hother next).2 rfl)) (hnone next)
  · refine ⟨fun other ho => absurd ((htakes other).1 ho) (hother other), fun _ => ?_⟩
    exact ⟨[], tail, by simp [htext, token]⟩

include hv hvalue in
theorem stays_of_unfilled_fill {segments : List (List Char)} (hs : Free d segments)
    (hn : d ∉ name)
    (h : Unfilled d isName (Cut.ofPieces d (fill value? segments)) before name) :
    Stays d value (Cut.ofPieces d (fill value? segments))
      ((fill value? segments).flatMap (Piece.chars d)) before name := by
  fun_induction fill value? segments generalizing before name with
  | case1 => exact absurd h not_unfilled_nil
  | case2 chars => exact absurd h (not_unfilled_unclosed (by simpa using hs))
  | case3 key next rest v hkeyvalue ih =>
    simp only [free_cons] at hs
    obtain ⟨hkey, hnext, hrest⟩ := hs
    have hk : isName key := isName_of_value? hv hkeyvalue
    obtain ⟨_, rfl, ht⟩ := Unfilled.behind_token hkey hk hn h
    obtain ⟨inner, rfl, hi⟩ := Unfilled.behind_text hnext ht
    have hstays := (ih hrest hn hi).append next fun inner _ =>
      Cut.takesAt_append_behindText next inner
    exact hstays.append v fun inner _ => Cut.takesAt_append_behindToken key inner
  | case4 key next rest hkeyvalue ih =>
    obtain ⟨hkey, hrest⟩ := (free_cons d key _).1 hs
    have hsource : (Cut.ofPieces d (fill value? (next :: rest))).source d =
        d :: (next ++ behind d rest) := source_ofPieces_fill _
    rcases h.behind_kept hkey hn hsource with ⟨rfl, rfl⟩ | ⟨inner, rfl, hi⟩
    · exact stays_kept hvalue name next rest
    · exact (ih hrest hn hi).append (d :: key) fun inner _ =>
        Cut.takesAt_append_behindText (d :: key) inner

include hv hvalue in
theorem stays_of_unfilled (template : List Char) (hn : d ∉ name)
    (h : Unfilled d isName (Cut.ofPieces d (pieces d value? template)) before name) :
    Stays d value (Cut.ofPieces d (pieces d value? template))
      ((pieces d value? template).flatMap (Piece.chars d)) before name := by
  obtain ⟨first, rest, rfl, hf, hr⟩ := exists_segments d template
  rw [pieces_behind hf hr] at h ⊢
  obtain ⟨inner, rfl, hi⟩ := Unfilled.behind_text hf h
  exact (stays_of_unfilled_fill hv hvalue hr hn hi).append first fun inner _ =>
    Cut.takesAt_append_behindText first inner

end Stays

/--
Every name that is reported still stands in the text behind its first delimiter, at each place
where it was unfilled: before its second delimiter, unless that opens a token that is taken away,
and then before the value of that token.
-/
theorem unresolved_names_stay {d : Char} {vars : Mapping} (usable : Usable d vars)
    (template : String) :
    ∃ (rendered : Rendered) (cut : Cut), render d vars template = .ok rendered ∧
      (cut.source d = template.toList ∧ cut.IsLeftmost d (IsName vars) ∧
        rendered.text.toList = cut.filled (valueIn vars)) ∧
      ∀ name ∈ rendered.unresolved,
        (∃ before, Unfilled d (IsName vars) cut before name.toList) ∧
        d :: name.toList <:+: rendered.text.toList ∧
        (∀ before, Unfilled d (IsName vars) cut before name.toList →
          ∀ other, cut.TakesAt d (before ++ d :: name.toList) other →
            d :: (name.toList ++ valueIn vars other) <:+: rendered.text.toList) ∧
        ((∃ before, Unfilled d (IsName vars) cut before name.toList ∧
            ∀ other, ¬cut.TakesAt d (before ++ d :: name.toList) other) →
          token d name.toList <:+: rendered.text.toList) := by
  obtain ⟨rendered, hr, htext, _⟩ := render_eq_filled_cutAt usable template
  have hchars : rendered.text.toList =
      (pieces d (lookup vars) template.toList).flatMap (Piece.chars d) := by
    simp [rendered_eq_assemble usable hr, assemble]
  refine ⟨rendered, cutAt d vars template, hr,
    ⟨source_ofPieces _, isLeftmost_cutAt usable template, htext⟩, fun name hm => ?_⟩
  obtain ⟨hn, hplaces⟩ := (mem_unresolved_iff usable hr name).1 hm
  have hstays : ∀ before, Unfilled d (IsName vars) (cutAt d vars template) before name.toList →
      Stays d (valueIn vars) (cutAt d vars template) rendered.text.toList before name.toList := by
    intro before hu
    rw [hchars]
    exact stays_of_unfilled usable.lookup_eq_none_iff (fun _ _ => valueIn_of_lookup) _ hn hu
  refine ⟨hplaces, ?_, fun before hu => (hstays before hu).followed, ?_⟩
  · obtain ⟨before, hu⟩ := hplaces
    exact (hstays before hu).begins
  · rintro ⟨before, hu, hnone⟩
    exact (hstays before hu).closed hnone

/-- The first name loses its second delimiter to the token behind it, the second keeps both. -/
theorem unresolved_names_stay_beside_a_token :
    Usable '@' (.ofList [("b", some "X")]) ∧
      ∃ rendered : Rendered,
        render '@' (.ofList [("b", some "X")]) "@a@b@ @c@" = .ok rendered ∧
        rendered.unresolved = ["a", "c"] ∧
        '@' :: "a".toList <:+: rendered.text.toList ∧
        token '@' "c".toList <:+: rendered.text.toList := by
  have usable : Usable '@' (.ofList [("b", some "X")]) := by decide
  obtain ⟨rendered, cut, hr, ⟨hs, hleft, _⟩, hstay⟩ := unresolved_names_stay usable "@a@b@ @c@"
  have htext : render '@' (.ofList [("b", some "X")]) "@a@b@ @c@" =
      .ok ⟨"@aX @c@", 1, ["a", "c"]⟩ := rfl
  obtain rfl := Except.ok.inj (htext.symm.trans hr)
  have hcut : cut = (Cut.behindToken "b".toList ⟨" @c@".toList, []⟩).behindText "@a".toList :=
    eq_cutAt usable hs hleft
  have htakes : ∀ before other, cut.TakesAt '@' before other → before = "@a".toList := by
    intro before other h
    rw [hcut, Cut.takesAt_behindText_iff] at h
    obtain ⟨inner, rfl, h⟩ := h
    rcases Cut.takesAt_behindToken_iff.1 h with ⟨rfl, _⟩ | ⟨later, _, h⟩
    · rfl
    · exact absurd h (Cut.not_takesAt_of_fills_eq_nil rfl later other)
  obtain ⟨⟨before, hu⟩, _, _, hclosed⟩ := hstay "c" (by decide)
  refine ⟨usable, _, hr, rfl, (hstay "a" (by decide)).2.1, hclosed ⟨before, hu, fun other ho => ?_⟩⟩
  have hbefore := congrArg List.getLast? (htakes _ other ho)
  simp at hbefore

theorem token_before_a_token_is_not_kept :
    Usable '@' (.ofList [("b", some "X")]) ∧
      ∃ rendered : Rendered, render '@' (.ofList [("b", some "X")]) "@a@b@" = .ok rendered ∧
        "a" ∈ rendered.unresolved ∧ ¬token '@' "a".toList <:+: rendered.text.toList :=
  ⟨by decide, ⟨"@aX", 1, ["a"]⟩, rfl, by decide, by decide⟩

end BuildHeader.Template
