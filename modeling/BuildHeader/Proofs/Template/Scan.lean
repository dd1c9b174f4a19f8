import BuildHeader.Proofs.Repetition
import BuildHeader.Proofs.Template.Segments
import BuildHeader.Proofs.Template.Usable
import BuildHeader.Proofs.Text.Offsets

/-!
Rendering as a loop over octets. Each turn looks for two delimiters in what is left of the template
and cuts it at the offsets found, each taken with the width of the delimiter. No cut ever misses the
beginning of a character, every turn leaves less, and what is written in the end is the rendering.
-/

set_option autoImplicit false

namespace BuildHeader.Template

def report (unresolved : List String) (name : String) : List String :=
  if Text.isIdentifier name.toList then addNew unresolved name else unresolved

namespace Rendered

def nothing : Rendered := ⟨"", 0, []⟩

def put (delimiter : Char) (rendered : Rendered) : Piece → Rendered
  | .text chars => { rendered with text := rendered.text ++ String.ofList chars }
  | .filled _ value =>
    { rendered with
      text := rendered.text ++ String.ofList value
      substitutions := rendered.substitutions + 1 }
  | .kept name =>
    { rendered with
      text := rendered.text ++ String.ofList (delimiter :: name)
      unresolved := report rendered.unresolved (String.ofList name) }
  | .unclosed chars => { rendered with text := rendered.text ++ String.ofList (delimiter :: chars) }

theorem foldl_put (d : Char) (rendered : Rendered) (stretches : List Piece) :
    stretches.foldl (put d) rendered =
      ⟨rendered.text ++ String.ofList (stretches.flatMap (Piece.chars d)),
        rendered.substitutions + stretches.countP Piece.isFilled,
        ((stretches.filterMap Piece.unresolved?).map String.ofList).foldl addNew
          rendered.unresolved⟩ := by
  induction stretches generalizing rendered with
  | nil => simp
  | cons piece rest ih =>
    rw [List.foldl_cons, ih, List.flatMap_cons, List.countP_cons, List.filterMap_cons]
    cases piece with
    | text chars => simp [put, Piece.chars, Piece.isFilled, Piece.unresolved?, String.append_assoc]
    | filled name value =>
      simp [put, Piece.chars, Piece.isFilled, Piece.unresolved?, String.append_assoc,
        Nat.add_right_comm, ← Nat.add_assoc]
    | kept name =>
      by_cases h : Text.isIdentifier name <;>
        simp [put, report, Piece.chars, Piece.isFilled, Piece.unresolved?, String.append_assoc, h]
    | unclosed chars =>
      simp [put, Piece.chars, Piece.isFilled, Piece.unresolved?, String.append_assoc]

theorem assemble_eq_foldl_put (d : Char) (stretches : List Piece) :
    assemble d stretches = stretches.foldl (put d) nothing := by
  have hnew := foldl_addNew [] ((stretches.filterMap Piece.unresolved?).map String.ofList)
  rw [List.eraseDups_nil, List.nil_append] at hnew
  simp [foldl_put, nothing, assemble, hnew]

end Rendered

/-- How far a template has been scanned: what is rendered, and what has not been read yet. -/
structure Scan where
  done : Rendered
  rest : String
  deriving DecidableEq, Repr

inductive Turn where
  | again (scan : Scan)
  | last (scan : Scan)
  deriving DecidableEq, Repr

namespace Scan

/-- One turn of the loop. It fails where an offset is out of bounds or inside of a character. -/
def turn (delimiter : Char) (vars : Mapping) (scan : Scan) : Option Turn :=
  match Text.firstAt? delimiter scan.rest with
  | none => some (.last scan)
  | some opening => do
    let before ← Text.slice? scan.rest 0 opening
    let behind ← Text.slice? scan.rest (opening + delimiter.utf8Size) scan.rest.utf8ByteSize
    match Text.firstAt? delimiter behind with
    | none =>
      let unclosed ← Text.slice? scan.rest opening scan.rest.utf8ByteSize
      return .last ⟨{ scan.done with text := scan.done.text ++ before ++ unclosed }, ""⟩
    | some closing =>
      let name ← Text.slice? behind 0 closing
      match vars.value? name with
      | some value =>
        let rest ← Text.slice? behind (closing + delimiter.utf8Size) behind.utf8ByteSize
        return .again ⟨{ scan.done with
          text := scan.done.text ++ before ++ value
          substitutions := scan.done.substitutions + 1 }, rest⟩
      | none =>
        -- The closing delimiter may open the next placeholder.
        return .again ⟨{ scan.done with
          text := scan.done.text ++ before ++ String.singleton delimiter
          unresolved := report scan.done.unresolved name }, behind⟩

/-- What a turn can do, by what is left of the template. -/
inductive Turns (delimiter : Char) (vars : Mapping) : Scan → Turn → Prop where
  | free {done : Rendered} {rest : String} (free : delimiter ∉ rest.toList) :
    Turns delimiter vars ⟨done, rest⟩ (.last ⟨done, rest⟩)
  | unclosed {done : Rendered} {before tail : String}
    (hb : delimiter ∉ before.toList) (ht : delimiter ∉ tail.toList) :
    Turns delimiter vars ⟨done, before ++ String.singleton delimiter ++ tail⟩
      (.last ⟨{ done with
        text := done.text ++ before ++ (String.singleton delimiter ++ tail) }, ""⟩)
  | filled {done : Rendered} {before name more value : String} (hb : delimiter ∉ before.toList)
    (hn : delimiter ∉ name.toList) (hv : vars.value? name = some value) :
    Turns delimiter vars
      ⟨done, before ++ String.singleton delimiter ++ (name ++ String.singleton delimiter ++ more)⟩
      (.again ⟨{ done with
        text := done.text ++ before ++ value
        substitutions := done.substitutions + 1 }, more⟩)
  | kept {done : Rendered} {before name more : String} (hb : delimiter ∉ before.toList)
    (hn : delimiter ∉ name.toList) (hv : vars.value? name = none) :
    Turns delimiter vars
      ⟨done, before ++ String.singleton delimiter ++ (name ++ String.singleton delimiter ++ more)⟩
      (.again ⟨{ done with
        text := done.text ++ before ++ String.singleton delimiter
        unresolved := report done.unresolved name }, name ++ String.singleton delimiter ++ more⟩)

section Turn

variable {d : Char} {vars : Mapping} {scan : Scan} {turn : Turn}

theorem exists_turns (d : Char) (vars : Mapping) (scan : Scan) :
    ∃ turn, Turns d vars scan turn := by
  obtain ⟨done, rest⟩ := scan
  rcases Text.eq_free_or_append d rest with hfree | ⟨before, behind, rfl, hb⟩
  · exact ⟨_, .free hfree⟩
  rcases Text.eq_free_or_append d behind with ht | ⟨name, more, rfl, hn⟩
  · exact ⟨_, .unclosed hb ht⟩
  cases hv : vars.value? name with
  | some value => exact ⟨_, .filled hb hn hv⟩
  | none => exact ⟨_, .kept hb hn hv⟩

theorem Turns.turn_eq (h : Turns d vars scan turn) : scan.turn d vars = some turn := by
  cases h with
  | free free => simp only [Scan.turn, Text.firstAt?_eq_none free]
  | unclosed hb ht =>
    simp only [Scan.turn, Text.firstAt?_append hb, Text.firstAt?_eq_none ht, Text.slice?_before,
      Text.slice?_behind, Text.slice?_from, Option.pure_def, Option.bind_eq_bind, Option.bind_some]
  | filled hb hn hv =>
    simp only [Scan.turn, Text.firstAt?_append hb, Text.firstAt?_append hn, Text.slice?_before,
      Text.slice?_behind, hv, Option.pure_def, Option.bind_eq_bind, Option.bind_some]
  | kept hb hn hv =>
    simp only [Scan.turn, Text.firstAt?_append hb, Text.firstAt?_append hn, Text.slice?_before,
      Text.slice?_behind, hv, Option.pure_def, Option.bind_eq_bind, Option.bind_some]

theorem turns_of_turn (h : scan.turn d vars = some turn) : Turns d vars scan turn := by
  obtain ⟨other, hturns⟩ := exists_turns d vars scan
  obtain rfl := Option.some.inj (h.symm.trans hturns.turn_eq)
  exact hturns

theorem exists_turn (d : Char) (vars : Mapping) (scan : Scan) :
    ∃ turn, scan.turn d vars = some turn := by
  obtain ⟨turn, h⟩ := exists_turns d vars scan
  exact ⟨turn, h.turn_eq⟩

theorem rest_lt_of_turn {next : Scan} (h : scan.turn d vars = some (.again next)) :
    next.rest.utf8ByteSize < scan.rest.utf8ByteSize := by
  have hd := Char.utf8Size_pos d
  cases turns_of_turn h <;> simp <;> omega

end Turn

def run (delimiter : Char) (vars : Mapping) (scan : Scan) : Option Rendered :=
  match _h : scan.turn delimiter vars with
  | none => none
  | some (.last last) => some { last.done with text := last.done.text ++ last.rest }
  | some (.again next) => run delimiter vars next
termination_by scan.rest.utf8ByteSize
decreasing_by exact rest_lt_of_turn ‹_›

/-- What is rendered already, and behind it what the rest of the template turns into. -/
def outlook (delimiter : Char) (vars : Mapping) (scan : Scan) : Rendered :=
  (pieces delimiter (lookup vars) scan.rest.toList).foldl (Rendered.put delimiter) scan.done

section Outlook

variable {d : Char} {vars : Mapping} {scan next last : Scan}

theorem outlook_of_again (h : scan.turn d vars = some (.again next)) :
    next.outlook d vars = scan.outlook d vars := by
  cases turns_of_turn h with
  | @filled done before name more value hb hn hv =>
    have hlookup : lookup vars name.toList = some value.toList := by simp [lookup, hv]
    have hpieces : pieces d (lookup vars)
        (before.toList ++ d :: (name.toList ++ d :: more.toList)) =
          .text before.toList :: .filled name.toList value.toList ::
            pieces d (lookup vars) more.toList := by
      simpa using pieces_token hb (free_nil d) (by simp) hn hlookup more.toList
    simp [outlook, hpieces, Rendered.put]
  | @kept done before name more hb hn hv =>
    have hlookup : lookup vars name.toList = none := by simp [lookup, hv]
    obtain ⟨later, hpieces, hnext⟩ := pieces_kept hb hn hlookup more.toList
    -- The loop writes the delimiter now, the pieces have it with the name.
    have htext : (done.text ++ before).push d ++ name =
        done.text ++ before ++ (String.singleton d ++ name) := String.toList_injective (by simp)
    simp [outlook, hpieces, hnext, Rendered.put, htext]

theorem outlook_of_last (h : scan.turn d vars = some (.last last)) :
    scan.outlook d vars = { last.done with text := last.done.text ++ last.rest } := by
  cases turns_of_turn h with
  | @free done rest free =>
    have hpieces : pieces d (lookup vars) rest.toList = [.text rest.toList] := by
      simpa [fill] using pieces_behind free (free_nil d)
    simp [outlook, hpieces, Rendered.put]
  | @unclosed done before tail hb ht =>
    have hpieces : pieces d (lookup vars) (before.toList ++ d :: tail.toList) =
        [.text before.toList, .unclosed tail.toList] := by
      simpa [fill] using pieces_behind hb ((free_cons d tail.toList []).2 ⟨ht, free_nil d⟩)
    simp [outlook, hpieces, Rendered.put]

theorem run_eq_outlook (d : Char) (vars : Mapping) (scan : Scan) :
    scan.run d vars = some (scan.outlook d vars) := by
  -- The outlook is the invariant: no turn changes it, and after the last one nothing is left of it
  -- to be read.
  fun_induction run d vars scan with
  | case1 scan h =>
    obtain ⟨turn, hturn⟩ := exists_turn d vars scan
    rw [hturn] at h
    cases h
  | case2 scan last h => rw [outlook_of_last h]
  | case3 scan next h ih => rw [ih, outlook_of_again h]

end Outlook

end Scan

def scanned (delimiter : Char) (vars : Mapping) (template : String) : Option Rendered :=
  Scan.run delimiter vars ⟨.nothing, template⟩

theorem scanned_eq_assemble (d : Char) (vars : Mapping) (template : String) :
    scanned d vars template = some (assemble d (pieces d (lookup vars) template.toList)) := by
  rw [scanned, Scan.run_eq_outlook, Rendered.assemble_eq_foldl_put, Scan.outlook]

def joined (delimiter : Char) (value? : List Char → Option (List Char)) :
    List (List Char) → List Char
  | [] => []
  | [chars] => delimiter :: chars
  | name :: next :: rest =>
    match value? name with
    | some value => value ++ next ++ joined delimiter value? rest
    | none => delimiter :: (name ++ joined delimiter value? (next :: rest))

theorem chars_fill (d : Char) (value? : List Char → Option (List Char))
    (segments : List (List Char)) :
    (fill value? segments).flatMap (Piece.chars d) = joined d value? segments := by
  fun_induction fill value? segments with
  | case1 => rfl
  | case2 chars => simp [joined, Piece.chars]
  | case3 name next rest value hv ih => simp [joined, Piece.chars, hv, ih]
  | case4 name next rest hv ih => simp [joined, Piece.chars, hv, ih]

/--
The scan of the octets is the rendering. Where a delimiter is found in a text, a character begins
at its offset and one behind its width, or the text ends. So no turn of the loop fails, and each
but the last leaves less of the template. In the end there is what the recursion over the segments
between the delimiters gives.
-/
theorem octet_scan_is_rendering {d : Char} {vars : Mapping} (usable : Usable d vars)
    (template : String) :
    (∀ text offset, Text.firstAt? d text = some offset →
      Text.IsBoundary text offset ∧ Text.IsBoundary text (offset + d.utf8Size)) ∧
    (∀ scan : Scan, ∃ turn, scan.turn d vars = some turn ∧
      ∀ next, turn = .again next → next.rest.utf8ByteSize < scan.rest.utf8ByteSize) ∧
    ∃ (rendered : Rendered) (first : List Char) (segments : List (List Char)),
      scanned d vars template = some rendered ∧ render d vars template = .ok rendered ∧
      template.toList.splitOn d = first :: segments ∧
      rendered = assemble d (.text first :: fill (lookup vars) segments) ∧
      rendered.text.toList = first ++ joined d (lookup vars) segments := by
  refine ⟨fun text offset => Text.isBoundary_of_firstAt?, fun scan => ?_, ?_⟩
  · obtain ⟨turn, hturn⟩ := Scan.exists_turn d vars scan
    exact ⟨turn, hturn, fun next hnext => Scan.rest_lt_of_turn (hnext ▸ hturn)⟩
  · obtain ⟨first, segments, ht, hf, hs⟩ := exists_segments d template.toList
    have hscan := scanned_eq_assemble d vars template
    have hrender := render_of_usable usable template
    rw [ht, pieces_behind hf hs] at hscan hrender
    refine ⟨_, first, segments, hscan, hrender, ?_, rfl, ?_⟩
    · rw [ht, splitOn_behind hf hs]
    · simp [assemble, Piece.chars, ← chars_fill]

theorem octet_scan_with_wide_delimiter :
    Usable '§' (.ofList [("name", some "wörld")]) ∧
      ∃ (rendered : Rendered) (first : List Char) (segments : List (List Char)),
        scanned '§' (.ofList [("name", some "wörld")]) "héllo §name§ @name@§✓§" = some rendered ∧
        render '§' (.ofList [("name", some "wörld")]) "héllo §name§ @name@§✓§" = .ok rendered ∧
        "héllo §name§ @name@§✓§".toList.splitOn '§' = first :: segments ∧
        rendered.text.toList =
          first ++ joined '§' (lookup (.ofList [("name", some "wörld")])) segments := by
  have usable : Usable '§' (.ofList [("name", some "wörld")]) := by decide
  obtain ⟨_, _, rendered, first, segments, hscan, hrender, hsplit, _, htext⟩ :=
    octet_scan_is_rendering usable "héllo §name§ @name@§✓§"
  exact ⟨usable, rendered, first, segments, hscan, hrender, hsplit, htext⟩

end BuildHeader.Template
