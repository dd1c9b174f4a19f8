import BuildHeader.Proofs.Repetition
import BuildHeader.Proofs.Template.Segments
import BuildHeader.Proofs.Template.Usable

/-!
Rendering is local. A character that no name holds and no report can hold ends whatever a delimiter
before it may have begun, so a document can be rendered line by line.
-/

set_option autoImplicit false

namespace BuildHeader.Template

namespace Rendered

def blank : Rendered := ⟨"", 0, []⟩

/-- One rendering after another; a name that both report is reported where it came first. -/
def append (first second : Rendered) : Rendered where
  text := first.text ++ second.text
  substitutions := first.substitutions + second.substitutions
  unresolved :=
    first.unresolved ++ second.unresolved.filter fun name => !first.unresolved.contains name

theorem append_blank (r : Rendered) : r.append blank = r := by
  simp [append, blank]

end Rendered

theorem assemble_append (d : Char) (first second : List Piece) :
    assemble d (first ++ second) = (assemble d first).append (assemble d second) := by
  simp only [assemble, Rendered.append, List.flatMap_append, List.countP_append,
    List.filterMap_append, List.map_append, eraseDups_append_filter, String.ofList_append]

structure SameReading (delimiter : Char) (first second : List Piece) : Prop where
  chars : first.flatMap (Piece.chars delimiter) = second.flatMap (Piece.chars delimiter)
  filled : first.countP Piece.isFilled = second.countP Piece.isFilled
  names : first.filterMap Piece.unresolved? = second.filterMap Piece.unresolved?

theorem SameReading.cons {d : Char} {first second : List Piece} (h : SameReading d first second)
    (piece : Piece) : SameReading d (piece :: first) (piece :: second) where
  chars := by simp [h.chars]
  filled := by simp [List.countP_cons, h.filled]
  names := by simp [List.filterMap_cons, h.names]

theorem SameReading.assemble {d : Char} {first second : List Piece}
    (h : SameReading d first second) : assemble d first = assemble d second := by
  simp [Template.assemble, h.chars, h.filled, h.names]

section Seam

variable {d c : Char} {value? : List Char → Option (List Char)}
  (hvalue : ∀ name, c ∈ name → value? name = none) (hword : Text.isWordChar c = false)
include hvalue hword

/-- A segment with the separator in it is no name, whatever follows the separator. -/
theorem fill_seam_cons {last : List Char} (hl : c ∈ last) (next : List Char)
    (rest : List (List Char)) :
    SameReading d (fill value? ((last ++ next) :: rest))
      (.unclosed last :: .text next :: fill value? rest) := by
  cases rest with
  | nil => exact ⟨by simp [fill, Piece.chars], by rfl, by rfl⟩
  | cons segment rest =>
    have hnone : value? (last ++ next) = none := hvalue _ (by simp [hl])
    have hname : Text.isIdentifier (last ++ next) = false := by
      have hall : (last ++ next).all Text.isWordChar = false :=
        List.all_eq_false.2 ⟨c, by simp [hl], by simp [hword]⟩
      rw [Text.isIdentifier, hall, Bool.and_false]
    rw [fill, hnone]
    exact ⟨by simp [Piece.chars], by simp [Piece.isFilled],
      by simp [List.filterMap_cons, Piece.unresolved?, hname]⟩

theorem fill_seam {last : List Char} (hl : c ∈ last) (before : List (List Char))
    (next : List Char) (rest : List (List Char)) :
    SameReading d (fill value? (before ++ (last ++ next) :: rest))
      (fill value? (before ++ [last]) ++ .text next :: fill value? rest) := by
  induction before using fill.induct value? with
  | case1 => exact fill_seam_cons hvalue hword hl next rest
  | case2 name =>
    have hseam := fill_seam_cons hvalue hword (d := d) hl next rest
    cases hv : value? name with
    | none => simpa [fill, hv] using hseam.cons (.kept name)
    | some value =>
      simp only [List.cons_append, List.nil_append, fill, hv]
      exact ⟨by simp [Piece.chars], by simp [List.countP_cons, Piece.isFilled],
        by simp [List.filterMap_cons, Piece.unresolved?]⟩
  | case3 name segment before value hv ih =>
    simp only [List.cons_append, fill, hv]
    exact (ih.cons _).cons _
  | case4 name segment before hv ih =>
    simp only [List.cons_append] at ih
    simp only [List.cons_append, fill, hv]
    exact ih.cons _

theorem pieces_seam (hd : c ≠ d) {first : List Char} (hlast : first.getLast? = some c)
    (second : List Char) :
    SameReading d (pieces d value? (first ++ second))
      (pieces d value? first ++ pieces d value? second) := by
  obtain ⟨a, as, rfl, ha, has⟩ := exists_segments d first
  obtain ⟨b, bs, rfl, hb, hbs⟩ := exists_segments d second
  -- Without a delimiter in the first part the seam lies in the lead. Otherwise its last segment
  -- meets the first one of the second part there.
  rcases List.eq_nil_or_concat as with rfl | ⟨inner, last, rfl⟩
  · have hs : a ++ behind d [] ++ (b ++ behind d bs) = (a ++ b) ++ behind d bs := by simp
    rw [hs, pieces_behind (by simp [ha, hb]) hbs, pieces_behind ha has, pieces_behind hb hbs]
    exact ⟨by simp [fill, Piece.chars], by simp [fill, Piece.isFilled],
      by simp [fill, List.filterMap_cons, Piece.unresolved?]⟩
  · rw [List.concat_eq_append] at has hlast ⊢
    obtain ⟨hinner, hlastfree⟩ := (free_append d inner [last]).1 has
    have hl : c ∈ last := by
      cases hx : last.getLast? with
      | none =>
        have hnil := List.getLast?_eq_none_iff.1 hx
        simp [hnil] at hlast
        exact absurd hlast.symm hd
      | some x =>
        simp [List.getLast?_append, List.getLast?_cons, hx] at hlast
        exact hlast ▸ List.mem_of_getLast? hx
    have hs : a ++ behind d (inner ++ [last]) ++ (b ++ behind d bs) =
        a ++ behind d (inner ++ (last ++ b) :: bs) := by simp
    have hlastfree : d ∉ last := by simpa using hlastfree
    have hfree : Free d (inner ++ (last ++ b) :: bs) := by
      simp [hinner, hlastfree, hb, hbs]
    rw [hs, pieces_behind ha hfree, pieces_behind ha has, pieces_behind hb hbs]
    exact (fill_seam hvalue hword hl inner b bs).cons _

end Seam

/-- The lines of a text: each ends in its first separator, the last one in the text's end. -/
def lineChars (separator : Char) : List Char → List (List Char)
  | [] => []
  | c :: text =>
    if c = separator then [c] :: lineChars separator text
    else
      match lineChars separator text with
      | [] => [[c]]
      | line :: lines => (c :: line) :: lines

def linesOf (separator : Char) (text : String) : List String :=
  (lineChars separator text.toList).map String.ofList

theorem flatten_lineChars (c : Char) (text : List Char) : (lineChars c text).flatten = text := by
  induction text with
  | nil => rfl
  | cons x text ih =>
    rw [lineChars]
    split
    · simp [ih]
    · cases hl : lineChars c text with
      | nil => simpa [hl] using ih
      | cons line lines => simpa [hl] using ih

theorem getLast?_of_mem_dropLast_lineChars {c : Char} {text line : List Char}
    (h : line ∈ (lineChars c text).dropLast) : line.getLast? = some c := by
  induction text generalizing line with
  | nil => simp [lineChars] at h
  | cons x text ih =>
    rw [lineChars] at h
    split at h
    · rename_i hx
      cases hl : lineChars c text with
      | nil => simp [hl] at h
      | cons first lines =>
        rw [hl, List.dropLast_cons_cons] at h
        rcases List.mem_cons.1 h with rfl | h
        · simp [hx]
        · exact ih (hl ▸ h)
    · cases hl : lineChars c text with
      | nil => simp [hl] at h
      | cons first lines =>
        cases lines with
        | nil => simp [hl] at h
        | cons second lines =>
          rw [hl] at h
          rcases List.mem_cons.1 h with rfl | h
          · have hf : first.getLast? = some c := ih (by simp [hl])
            simp [List.getLast?_cons, hf]
          · exact ih (by simpa [hl] using Or.inr h)

theorem join_linesOf (c : Char) (text : String) : String.join (linesOf c text) = text := by
  apply String.toList_injective
  rw [String.toList_join, linesOf, List.flatMap_map]
  simp only [String.toList_ofList, List.flatMap_id', flatten_lineChars]

theorem getLast?_of_mem_dropLast_linesOf {c : Char} {text line : String}
    (h : line ∈ (linesOf c text).dropLast) : line.toList.getLast? = some c := by
  rw [linesOf, ← List.map_dropLast] at h
  obtain ⟨chars, hm, rfl⟩ := List.mem_map.1 h
  simpa using getLast?_of_mem_dropLast_lineChars hm

section Separator

variable {d c : Char} {vars : Mapping} (usable : Usable d vars) (hd : c ≠ d)
  (hkeys : ∀ entry ∈ vars.entries, c ∉ entry.1.toList) (hword : Text.isWordChar c = false)
include usable hd hkeys hword

theorem render_append_of_separator {first : String} (hlast : first.toList.getLast? = some c)
    (second : String) :
    ∃ before after, render d vars first = .ok before ∧ render d vars second = .ok after ∧
      render d vars (first ++ second) = .ok (before.append after) := by
  have hvalue : ∀ name, c ∈ name → lookup vars name = none := by
    intro name hc
    rw [usable.lookup_eq_none_iff]
    intro hn
    obtain ⟨value, hv⟩ := Option.isSome_iff_exists.1 hn
    exact hkeys _ ((vars.mem_entries_iff _ _).2 hv) (by simpa using hc)
  have hseam := pieces_seam hvalue hword hd hlast second.toList
  refine ⟨_, _, render_of_usable usable first, render_of_usable usable second, ?_⟩
  rw [render_of_usable usable, String.toList_append, hseam.assemble, assemble_append]

theorem render_join {lines : List String}
    (hlines : ∀ line ∈ lines.dropLast, line.toList.getLast? = some c) :
    ∃ parts, lines.mapM (render d vars) = .ok parts ∧
      render d vars (String.join lines) = .ok (parts.foldr Rendered.append .blank) := by
  induction lines with
  | nil => exact ⟨[], rfl, render_of_usable usable ""⟩
  | cons line lines ih =>
    cases lines with
    | nil =>
      have hr := render_of_usable usable line
      exact ⟨[_], by rw [List.mapM_cons, hr]; rfl, by simpa [Rendered.append_blank] using hr⟩
    | cons next lines =>
      obtain ⟨parts, hp, hj⟩ := ih fun l hl => hlines l (by simp [hl])
      obtain ⟨before, after, hb, ha, hr⟩ :=
        render_append_of_separator usable hd hkeys hword (hlines line (by simp))
          (String.join (next :: lines))
      rw [hj] at ha
      obtain rfl := Except.ok.inj ha
      refine ⟨before :: parts, by rw [List.mapM_cons, hb, hp]; rfl, ?_⟩
      rw [String.join_cons, hr, List.foldr_cons]

/--
Text behind a separator is rendered as if it stood alone. So any number of lines, and every
document taken line by line, can be rendered one after another.
-/
theorem render_is_local :
    (∀ first second : String, first.toList.getLast? = some c →
      ∃ before after,
        render d vars first = .ok before ∧ render d vars second = .ok after ∧
        render d vars (first ++ second) = .ok
          ⟨before.text ++ after.text, before.substitutions + after.substitutions,
            before.unresolved ++
              after.unresolved.filter fun name => !before.unresolved.contains name⟩) ∧
    (∀ lines : List String, (∀ line ∈ lines.dropLast, line.toList.getLast? = some c) →
      ∃ parts, lines.mapM (render d vars) = .ok parts ∧
        render d vars (String.join lines) = .ok (parts.foldr Rendered.append .blank)) ∧
    ∀ document : String,
      String.join (linesOf c document) = document ∧
      ∃ parts, (linesOf c document).mapM (render d vars) = .ok parts ∧
        render d vars document = .ok (parts.foldr Rendered.append .blank) := by
  refine ⟨fun first second hlast => ?_, fun lines hlines => ?_, fun document => ?_⟩
  · exact render_append_of_separator usable hd hkeys hword hlast second
  · exact render_join usable hd hkeys hword hlines
  · have hj := join_linesOf c document
    have hlines : ∀ line ∈ (linesOf c document).dropLast, line.toList.getLast? = some c :=
      fun line h => getLast?_of_mem_dropLast_linesOf h
    obtain ⟨parts, hp, hr⟩ := render_join usable hd hkeys hword hlines
    rw [hj] at hr
    exact ⟨hj, parts, hp, hr⟩

end Separator

theorem render_is_local_at_newlines :
    ('\n' ≠ '@' ∧ Text.isWordChar '\n' = false) ∧
      ∃ parts,
        (linesOf '\n' "x@y\n@a@\n").mapM (render '@' (.ofList [("a", some "1")])) = .ok parts ∧
        render '@' (.ofList [("a", some "1")]) "x@y\n@a@\n" =
          .ok (parts.foldr Rendered.append .blank) := by
  have usable : Usable '@' (.ofList [("a", some "1")]) := by decide
  have hkeys : ∀ entry ∈ (Mapping.ofList [("a", some "1")]).entries, '\n' ∉ entry.1.toList := by
    decide
  have hd : '\n' ≠ '@' := by decide
  have hword : Text.isWordChar '\n' = false := by decide +kernel
  have h := (render_is_local usable hd hkeys hword).2.2 "x@y\n@a@\n"
  exact ⟨⟨hd, hword⟩, h.2⟩

end BuildHeader.Template
