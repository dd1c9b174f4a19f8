import BuildHeader.Proofs.Template.Segments
import BuildHeader.Proofs.Template.Usable

set_option autoImplicit false

namespace BuildHeader.Template

def redelimit (delimiter other c : Char) : Char := if c = delimiter then other else c

@[simp] theorem redelimit_self (d other : Char) : redelimit d other d = other := by
  simp [redelimit]

section Redelimit

variable {d : Char} (other : Char)

theorem map_redelimit_of_not_mem {text : List Char} (h : d ∉ text) :
    text.map (redelimit d other) = text := by
  refine (List.map_congr_left fun c hc => ?_).trans (List.map_id text)
  have hne : c ≠ d := fun same => h (same ▸ hc)
  simp [redelimit, hne]

theorem map_redelimit_behind {segments : List (List Char)} (h : Free d segments) :
    (behind d segments).map (redelimit d other) = behind other segments := by
  induction segments with
  | nil => rfl
  | cons segment segments ih =>
    obtain ⟨hs, hrest⟩ := (free_cons d segment segments).1 h
    simp [map_redelimit_of_not_mem other hs, ih hrest]

end Redelimit

def Piece.body : Piece → List Char
  | .text chars => chars
  | .filled _ value => value
  | .kept name => name
  | .unclosed chars => chars

section Pieces

variable {d other : Char} {value? : List Char → Option (List Char)}

theorem Piece.chars_other {piece : Piece} (h : d ∉ piece.body) :
    piece.chars other = (piece.chars d).map (redelimit d other) := by
  have hbody : piece.body.map (redelimit d other) = piece.body := map_redelimit_of_not_mem other h
  cases piece with
  | text chars => exact hbody.symm
  | filled name value => exact hbody.symm
  | kept name =>
    have hname : name.map (redelimit d other) = name := hbody
    simp [Piece.chars, hname]
  | unclosed chars =>
    have hchars : chars.map (redelimit d other) = chars := hbody
    simp [Piece.chars, hchars]

theorem not_mem_body_fill (hv : ∀ name value, value? name = some value → d ∉ value)
    {segments : List (List Char)} (hs : Free d segments) :
    ∀ piece ∈ fill value? segments, d ∉ piece.body := by
  fun_induction fill value? segments with
  | case1 => simp
  | case2 chars => simpa [Piece.body] using hs
  | case3 name next rest value hvalue ih =>
    simp only [free_cons] at hs
    simpa [Piece.body, hs.2.1, hv name value hvalue] using ih hs.2.2
  | case4 name next rest hvalue ih =>
    obtain ⟨hname, hrest⟩ := (free_cons d name _).1 hs
    simpa [Piece.body, hname] using ih hrest

/-- The segments of a template do not show what stood between them. -/
theorem pieces_redelimit {template : List Char} (ho : other ∉ template) :
    pieces other value? (template.map (redelimit d other)) = pieces d value? template := by
  obtain ⟨first, rest, rfl, hf, hr⟩ := exists_segments d template
  have hfirst : other ∉ first := fun hm => ho (by simp [hm])
  have hrest : Free other rest := fun segment hs hm =>
    ho (by
      have hin : other ∈ behind d rest := List.mem_flatMap.2 ⟨segment, hs, by simp [hm]⟩
      simp [hin])
  rw [List.map_append, map_redelimit_of_not_mem other hf, map_redelimit_behind other hr,
    pieces_behind hfirst hrest, pieces_behind hf hr]

theorem chars_pieces_redelimit (hv : ∀ name value, value? name = some value → d ∉ value)
    (template : List Char) :
    (pieces d value? template).flatMap (Piece.chars other) =
      ((pieces d value? template).flatMap (Piece.chars d)).map (redelimit d other) := by
  obtain ⟨first, rest, rfl, hf, hr⟩ := exists_segments d template
  have hbody : ∀ piece ∈ .text first :: fill value? rest, d ∉ piece.body :=
    List.forall_mem_cons.2 ⟨hf, not_mem_body_fill hv hr⟩
  rw [pieces_behind hf hr, List.map_flatMap]
  simp only [List.flatMap]
  rw [List.map_congr_left fun piece hm => Piece.chars_other (hbody piece hm)]

end Pieces

/--
With another delimiter in the place of the first, in the template and in the engine, a rendering is
the same but for its delimiters.
-/
theorem rendering_is_the_same_under_other_delimiter {d other : Char} {vars : Mapping}
    (usable : Usable d vars) (hkeys : ∀ entry ∈ vars.entries, other ∉ entry.1.toList)
    (hvalues : ∀ entry ∈ vars.entries, ∀ value ∈ entry.2, d ∉ value.toList) {template : String}
    (ht : other ∉ template.toList) :
    ∃ rendered : Rendered, render d vars template = .ok rendered ∧
      render other vars (template.map (redelimit d other)) =
        .ok ⟨rendered.text.map (redelimit d other), rendered.substitutions,
          rendered.unresolved⟩ := by
  have husable : Usable other vars := fun entry hm =>
    ⟨(usable entry hm).1, hkeys entry hm, (usable entry hm).2.2⟩
  have hpieces : pieces other (lookup vars) (template.toList.map (redelimit d other)) =
      pieces d (lookup vars) template.toList := pieces_redelimit ht
  have hchars : (pieces d (lookup vars) template.toList).flatMap (Piece.chars other) =
      ((pieces d (lookup vars) template.toList).flatMap (Piece.chars d)).map
        (redelimit d other) :=
    chars_pieces_redelimit (fun _ _ => not_mem_of_lookup hvalues) template.toList
  refine ⟨_, render_of_usable usable template, ?_⟩
  rw [render_of_usable husable, String.toList_map, hpieces]
  simp [assemble, hchars, String.map_eq_internal]

theorem rendering_is_the_same_under_wide_delimiter :
    (Usable '@' (.ofList [("b", some "€")]) ∧ '€' ∉ "@a@b@ @".toList) ∧
      ∃ rendered : Rendered, render '@' (.ofList [("b", some "€")]) "@a@b@ @" = .ok rendered ∧
        render '€' (.ofList [("b", some "€")]) ("@a@b@ @".map (redelimit '@' '€')) =
          .ok ⟨rendered.text.map (redelimit '@' '€'), rendered.substitutions,
            rendered.unresolved⟩ := by
  have usable : Usable '@' (.ofList [("b", some "€")]) := by decide
  have ht : '€' ∉ "@a@b@ @".toList := by decide
  exact ⟨⟨usable, ht⟩,
    rendering_is_the_same_under_other_delimiter usable (by decide) (by decide) ht⟩

end BuildHeader.Template
