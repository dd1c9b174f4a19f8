import BuildHeader.Proofs.Repetition
import BuildHeader.Proofs.Template.Unfilled

set_option autoImplicit false

namespace BuildHeader.Template

def Piece.source (delimiter : Char) : Piece → List Char
  | .text chars => chars
  | .filled name _ => token delimiter name
  | .kept name => delimiter :: name
  | .unclosed chars => delimiter :: chars

/-- All reports of the pieces in their order, each name with the template before its delimiter. -/
def reports (delimiter : Char) : List Piece → List (List Char × List Char)
  | [] => []
  | piece :: rest =>
    piece.unresolved?.toList.map (fun name => ([], name)) ++
      (reports delimiter rest).map fun report => (piece.source delimiter ++ report.1, report.2)

theorem map_snd_reports (d : Char) (stretches : List Piece) :
    (reports d stretches).map Prod.snd = stretches.filterMap Piece.unresolved? := by
  induction stretches with
  | nil => rfl
  | cons piece rest ih =>
    have hrest : (Prod.snd ∘ fun report : List Char × List Char =>
        (piece.source d ++ report.1, report.2)) = Prod.snd := rfl
    rw [reports, List.map_append, List.map_map, List.map_map, hrest, ih, List.filterMap_cons]
    cases piece.unresolved? <;> simp

theorem ascending_reports (d : Char) (stretches : List Piece) :
    (reports d stretches).Pairwise fun first second => first.1.length < second.1.length := by
  induction stretches with
  | nil => exact .nil
  | cons piece rest ih =>
    have hrest : ((reports d rest).map fun report =>
        (piece.source d ++ report.1, report.2)).Pairwise fun first second =>
        first.1.length < second.1.length :=
      List.pairwise_map.2 (ih.imp fun h => by simpa using h)
    cases piece with
    | kept name =>
      refine List.pairwise_append.2 ⟨?_, hrest, fun first hf second hs => ?_⟩
      · cases Piece.unresolved? (.kept name) <;> simp
      · obtain ⟨_, _, rfl⟩ := List.mem_map.1 hf
        obtain ⟨_, _, rfl⟩ := List.mem_map.1 hs
        simp [Piece.source]
    | text chars => exact hrest
    | filled name value => exact hrest
    | unclosed chars => exact hrest

theorem mem_reports_cons_iff {d : Char} {piece : Piece} {rest : List Piece}
    {before name : List Char} :
    (before, name) ∈ reports d (piece :: rest) ↔
      before = [] ∧ piece.unresolved? = some name ∨
        ∃ inner, before = piece.source d ++ inner ∧ (inner, name) ∈ reports d rest := by
  simp only [reports, List.mem_append, List.mem_map, Option.mem_toList, Prod.mk.injEq]
  constructor
  · rintro (⟨other, ho, rfl, rfl⟩ | ⟨⟨inner, other⟩, hi, rfl, rfl⟩)
    · exact .inl ⟨rfl, ho⟩
    · exact .inr ⟨inner, rfl, hi⟩
  · rintro (⟨rfl, ho⟩ | ⟨inner, rfl, hi⟩)
    · exact .inl ⟨name, ho, rfl, rfl⟩
    · exact .inr ⟨(inner, name), hi, rfl, rfl⟩

section Fill

variable {d : Char} {isName : List Char → Prop} {value? : List Char → Option (List Char)}
  (hv : ∀ name, value? name = none ↔ ¬isName name)
include hv

theorem mem_reports_fill_iff {segments : List (List Char)} (hs : Free d segments)
    (before name : List Char) :
    (before, name) ∈ reports d (fill value? segments) ↔
      d ∉ name ∧ Unfilled d isName (Cut.ofPieces d (fill value? segments)) before name := by
  fun_induction fill value? segments generalizing before name with
  | case1 =>
    have hnone : ¬Unfilled d isName (Cut.ofPieces d []) before name := not_unfilled_nil
    simp [reports, hnone]
  | case2 chars =>
    have hchars : d ∉ chars := by simpa using hs
    have hnone : ¬Unfilled d isName (Cut.ofPieces d [.unclosed chars]) before name :=
      not_unfilled_unclosed hchars
    simp [reports, Piece.unresolved?, hnone]
  -- Nothing is unfilled in a token, nor in the text behind it up to the next delimiter.
  | case3 key next rest value hvalue ih =>
    simp only [free_cons] at hs
    obtain ⟨hkey, hnext, hrest⟩ := hs
    have hk : isName key := isName_of_value? hv hvalue
    simp only [mem_reports_cons_iff, Piece.unresolved?, reduceCtorEq, and_false, false_or,
      Piece.source, ih hrest]
    constructor
    · rintro ⟨_, rfl, inner, rfl, hn, h⟩
      exact ⟨hn, (unfilled_append_behindToken key).2 ((unfilled_append_behindText next).2 h)⟩
    · rintro ⟨hn, h⟩
      obtain ⟨_, rfl, ht⟩ := Unfilled.behind_token hkey hk hn h
      obtain ⟨inner, rfl, hi⟩ := Unfilled.behind_text hnext ht
      exact ⟨_, rfl, inner, rfl, hn, hi⟩
  -- A name that is passed is unfilled itself, if it is a word, and hides none of the later ones.
  | case4 key next rest hvalue ih =>
    obtain ⟨hkey, hrest⟩ := (free_cons d key _).1 hs
    have hsource : (Cut.ofPieces d (fill value? (next :: rest))).source d =
        d :: (next ++ behind d rest) := source_ofPieces_fill _
    have hk : ¬isName key := (hv key).1 hvalue
    simp only [mem_reports_cons_iff, Piece.unresolved?, Piece.source, ih hrest]
    constructor
    · rintro (⟨rfl, h⟩ | ⟨inner, rfl, hn, h⟩)
      · obtain ⟨hw, rfl⟩ := by simpa using h
        exact ⟨hkey, unfilled_kept hw hk hsource⟩
      · exact ⟨hn, (unfilled_append_behindText _).2 h⟩
    · rintro ⟨hn, h⟩
      rcases h.behind_kept hkey hn hsource with ⟨rfl, rfl⟩ | ⟨inner, rfl, hi⟩
      · exact .inl ⟨rfl, by simp [h.identifier]⟩
      · exact .inr ⟨inner, rfl, hn, hi⟩

theorem mem_reports_iff (template before name : List Char) :
    (before, name) ∈ reports d (pieces d value? template) ↔
      d ∉ name ∧ Unfilled d isName (Cut.ofPieces d (pieces d value? template)) before name := by
  obtain ⟨first, rest, rfl, hf, hr⟩ := exists_segments d template
  rw [pieces_behind hf hr, mem_reports_cons_iff]
  simp only [Piece.unresolved?, reduceCtorEq, and_false, false_or, Piece.source,
    mem_reports_fill_iff hv hr]
  constructor
  · rintro ⟨inner, rfl, hn, h⟩
    exact ⟨hn, (unfilled_append_behindText first).2 h⟩
  · rintro ⟨hn, h⟩
    obtain ⟨inner, rfl, hi⟩ := h.behind_text hf
    exact ⟨inner, rfl, hn, hi⟩

end Fill

theorem isName_of_isLeftmost {d : Char} {isName : List Char → Prop} {cut : Cut}
    (h : cut.IsLeftmost d isName) : ∀ fill ∈ cut.fills, isName fill.1 := by
  obtain ⟨lead, fills⟩ := cut
  induction fills generalizing lead with
  | nil => simp
  | cons fill fills ih =>
    obtain ⟨_, hname, hrest⟩ := h
    exact List.forall_mem_cons.2 ⟨hname, ih fill.2 hrest⟩

theorem Unfilled.not_mem_of_not_isWordChar {d : Char} {isName : List Char → Prop} {cut : Cut}
    {before name : List Char} (h : Unfilled d isName cut before name)
    (hd : Text.isWordChar d = false) : d ∉ name := by
  intro hm
  have hword := h.identifier
  simp only [Text.isIdentifier, Bool.and_eq_true, List.all_eq_true] at hword
  simp [hword.2 d hm] at hd

theorem unresolved_assemble (d : Char) (stretches : List Piece) :
    (assemble d stretches).unresolved =
      ((reports d stretches).map fun report => String.ofList report.2).eraseDups := by
  simp only [assemble]
  rw [← map_snd_reports d, List.map_map]
  rfl

theorem mem_reports_cutAt_iff {d : Char} {vars : Mapping} (usable : Usable d vars)
    (template : String) (before name : List Char) :
    (before, name) ∈ reports d (pieces d (lookup vars) template.toList) ↔
      d ∉ name ∧ Unfilled d (IsName vars) (cutAt d vars template) before name :=
  mem_reports_iff usable.lookup_eq_none_iff template.toList before name

section Usable

variable {d : Char} {vars : Mapping} (usable : Usable d vars) {template : String}
  {rendered : Rendered} (h : render d vars template = .ok rendered)
include usable h

theorem unresolved_eq_reports :
    rendered.unresolved =
      ((reports d (pieces d (lookup vars) template.toList)).map fun report =>
        String.ofList report.2).eraseDups := by
  rw [rendered_eq_assemble usable h, unresolved_assemble]

theorem mem_unresolved_iff (name : String) :
    name ∈ rendered.unresolved ↔
      d ∉ name.toList ∧
        ∃ before, Unfilled d (IsName vars) (cutAt d vars template) before name.toList := by
  have hreports := mem_reports_cutAt_iff usable template
  rw [unresolved_eq_reports usable h, List.mem_eraseDups, List.mem_map]
  constructor
  · rintro ⟨⟨before, chars⟩, hm, rfl⟩
    obtain ⟨hn, hu⟩ := (hreports before chars).1 hm
    exact ⟨by simpa using hn, before, by simpa using hu⟩
  · rintro ⟨hn, before, hu⟩
    exact ⟨(before, name.toList), (hreports before _).2 ⟨hn, hu⟩, by simp⟩

/-- A name is reported before another if it stands unfilled before all places of the other. -/
theorem pairwise_unresolved :
    rendered.unresolved.Pairwise fun first second =>
      ∃ before, Unfilled d (IsName vars) (cutAt d vars template) before first.toList ∧
        ∀ later, Unfilled d (IsName vars) (cutAt d vars template) later second.toList →
          before.length < later.length := by
  have hreports := mem_reports_cutAt_iff usable template
  have hpairs := pairwise_eraseDups_map (fun report => String.ofList report.2)
    (ascending_reports d (pieces d (lookup vars) template.toList))
  rw [← unresolved_eq_reports usable h] at hpairs
  refine hpairs.imp_of_mem ?_
  rintro first second _ hs ⟨⟨before, chars⟩, hm, rfl, hlater⟩
  refine ⟨before, by simpa using ((hreports before chars).1 hm).2, fun later hu => ?_⟩
  have hd := ((mem_unresolved_iff usable h second).1 hs).1
  exact hlater (later, second.toList) ((hreports later _).2 ⟨hd, hu⟩) (by simp)

end Usable

/--
The names that a rendering reports are the words without the delimiter that stand unfilled in the
template, each of them once, in the order in which they first stand there. Where the delimiter is
no word character, these are all the words that do. A name that is filled is never reported.
-/
theorem unresolved_are_the_unfilled_words {d : Char} {vars : Mapping} (usable : Usable d vars)
    (template : String) :
    ∃ (rendered : Rendered) (cut : Cut), render d vars template = .ok rendered ∧
      (cut.source d = template.toList ∧ cut.IsLeftmost d (IsName vars) ∧
        rendered.text.toList = cut.filled (valueIn vars)) ∧
      (∀ name : String, name ∈ rendered.unresolved ↔
        d ∉ name.toList ∧ ∃ before, Unfilled d (IsName vars) cut before name.toList) ∧
      (Text.isWordChar d = false → ∀ name : String, name ∈ rendered.unresolved ↔
        ∃ before, Unfilled d (IsName vars) cut before name.toList) ∧
      rendered.unresolved.Nodup ∧
      (rendered.unresolved.Pairwise fun first second =>
        ∃ before, Unfilled d (IsName vars) cut before first.toList ∧
          ∀ later, Unfilled d (IsName vars) cut later second.toList →
            before.length < later.length) ∧
      ∀ fill ∈ cut.fills, String.ofList fill.1 ∉ rendered.unresolved := by
  obtain ⟨rendered, hr, htext, _⟩ := render_eq_filled_cutAt usable template
  have hleft := isLeftmost_cutAt usable template
  have hmem := mem_unresolved_iff usable hr
  have hpairs := pairwise_unresolved usable hr
  refine ⟨rendered, cutAt d vars template, hr, ⟨source_ofPieces _, hleft, htext⟩, hmem,
    fun hd name => ?_, hpairs.imp ?_, hpairs, fun fill hf hm => ?_⟩
  · rw [hmem name]
    refine ⟨fun h => h.2, fun h => ⟨?_, h⟩⟩
    obtain ⟨before, hu⟩ := h
    exact hu.not_mem_of_not_isWordChar hd
  · rintro first _ ⟨before, hu, hlater⟩ rfl
    exact Nat.lt_irrefl _ (hlater before hu)
  · obtain ⟨_, before, hu⟩ := (hmem _).1 hm
    have hname := isName_of_isLeftmost hleft fill hf
    exact hu.unknown (by simpa using hname)

theorem unfilled_words_at_shared_delimiters :
    Usable '@' (.ofList [("b", some "X")]) ∧
      ∃ (rendered : Rendered) (cut : Cut),
        render '@' (.ofList [("b", some "X")]) "@a@b@c@a@" = .ok rendered ∧
        cut.source '@' = "@a@b@c@a@".toList ∧
        (∀ name : String, name ∈ rendered.unresolved ↔ '@' ∉ name.toList ∧
          ∃ before, Unfilled '@' (IsName (.ofList [("b", some "X")])) cut before name.toList) ∧
        rendered.unresolved = ["a"] := by
  have usable : Usable '@' (.ofList [("b", some "X")]) := by decide
  obtain ⟨rendered, cut, hr, ⟨hs, _⟩, hmem, _⟩ :=
    unresolved_are_the_unfilled_words usable "@a@b@c@a@"
  have htext : render '@' (.ofList [("b", some "X")]) "@a@b@c@a@" = .ok ⟨"@aXc@a@", 1, ["a"]⟩ := rfl
  obtain rfl := Except.ok.inj (htext.symm.trans hr)
  exact ⟨usable, _, cut, hr, hs, hmem, rfl⟩

/-- A delimiter that is a word character divides a word, which is then not reported as a whole. -/
theorem divided_word_is_not_reported :
    Usable '_' .empty ∧
      ∃ (rendered : Rendered) (cut : Cut), render '_' .empty "__a_" = .ok rendered ∧
        (cut.source '_' = "__a_".toList ∧ cut.IsLeftmost '_' (IsName .empty)) ∧
        (∃ before, Unfilled '_' (IsName .empty) cut before "_a".toList) ∧
        "_a" ∉ rendered.unresolved := by
  have hnone : ∀ name, ¬IsName .empty name := fun name h => by cases h
  have hfills : ∀ before name, ¬Cut.TakesAt '_' ⟨"__a_".toList, []⟩ before name :=
    Cut.not_takesAt_of_fills_eq_nil rfl
  refine ⟨by decide, ⟨"__a_", 0, ["a"]⟩, ⟨"__a_".toList, []⟩, rfl, ⟨rfl, ?_⟩, ⟨[], ?_⟩, by decide⟩
  · rintro ⟨name, h, _⟩
    exact hnone name h
  · refine ⟨by decide +kernel, hnone _, by decide, ?_⟩
    rintro ⟨opening, name, h, _⟩
    exact hfills opening name h

end BuildHeader.Template
