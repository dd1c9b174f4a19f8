import BuildHeader.Proofs.Template.Segments
import BuildHeader.Proofs.Template.Usable

/-!
Rendering is leftmost, non-overlapping substitution. A template can be cut in exactly one way at
tokens of names such that no token begins further left than the cuts say, and the rendered text is
the template with the values in the place of those tokens.
-/

set_option autoImplicit false

namespace BuildHeader.Template

/-- A template cut at tokens: the text before the first, then each name with the text behind it. -/
structure Cut where
  lead : List Char
  fills : List (List Char × List Char)
  deriving DecidableEq, Repr

namespace Cut

def source (delimiter : Char) (cut : Cut) : List Char :=
  cut.lead ++ cut.fills.flatMap fun fill => token delimiter fill.1 ++ fill.2

def filled (value : List Char → List Char) (cut : Cut) : List Char :=
  cut.lead ++ cut.fills.flatMap fun fill => value fill.1 ++ fill.2

/--
The texts between the tokens hold no token of a name themselves. A text that a token follows is
taken together with the delimiter of that token, which might close an earlier one.
-/
def Leftmost (delimiter : Char) (isName : List Char → Prop) :
    List Char → List (List Char × List Char) → Prop
  | text, [] => ¬HasToken delimiter isName text
  | text, (name, next) :: rest =>
    ¬HasToken delimiter isName (text ++ [delimiter]) ∧ isName name ∧
      Leftmost delimiter isName next rest

def IsLeftmost (delimiter : Char) (isName : List Char → Prop) (cut : Cut) : Prop :=
  Leftmost delimiter isName cut.lead cut.fills

def behindText (text : List Char) (cut : Cut) : Cut := ⟨text ++ cut.lead, cut.fills⟩

/-- The cut that the pieces of a template show: only the filled ones take tokens away. -/
def ofPieces (delimiter : Char) : List Piece → Cut
  | [] => ⟨[], []⟩
  | .text chars :: rest => (ofPieces delimiter rest).behindText chars
  | .filled name _ :: rest =>
    ⟨[], (name, (ofPieces delimiter rest).lead) :: (ofPieces delimiter rest).fills⟩
  | .kept name :: rest => (ofPieces delimiter rest).behindText (delimiter :: name)
  | .unclosed chars :: rest => (ofPieces delimiter rest).behindText (delimiter :: chars)

@[simp] theorem source_behindText (d : Char) (text : List Char) (cut : Cut) :
    (cut.behindText text).source d = text ++ cut.source d := by
  simp [behindText, source]

@[simp] theorem filled_behindText (value : List Char → List Char) (text : List Char) (cut : Cut) :
    (cut.behindText text).filled value = text ++ cut.filled value := by
  simp [behindText, filled]

theorem source_cons (d : Char) (lead name next : List Char) (fills : List (List Char × List Char)) :
    source d ⟨lead, (name, next) :: fills⟩ =
      lead ++ d :: (name ++ d :: source d ⟨next, fills⟩) := by
  simp [source, token]

theorem behindText_behindText (first second : List Char) (cut : Cut) :
    (cut.behindText second).behindText first = cut.behindText (first ++ second) := by
  simp [behindText]

theorem ofPieces_kept (d : Char) (segments : List (List Char)) (rest : List Piece) :
    ofPieces d (segments.map .kept ++ rest) = (ofPieces d rest).behindText (behind d segments) := by
  induction segments with
  | nil => simp [behindText]
  | cons segment segments ih => simp [ofPieces, ih, behindText_behindText]

theorem length_fills_ofPieces (d : Char) (pieces : List Piece) :
    (ofPieces d pieces).fills.length = pieces.countP Piece.isFilled := by
  induction pieces with
  | nil => rfl
  | cons piece pieces ih =>
    cases piece <;> simp [ofPieces, behindText, Piece.isFilled, List.countP_cons, ih]

theorem filled_ofPieces {d : Char} {value : List Char → List Char} {pieces : List Piece}
    (h : ∀ name v, .filled name v ∈ pieces → value name = v) :
    (ofPieces d pieces).filled value = pieces.flatMap (Piece.chars d) := by
  induction pieces with
  | nil => rfl
  | cons piece pieces ih =>
    have hrest := ih fun name v hv => h name v (List.mem_cons_of_mem _ hv)
    cases piece with
    | filled name v =>
      have hv := h name v List.mem_cons_self
      simpa [ofPieces, filled, Piece.chars, hv] using hrest
    | text chars => simp [ofPieces, Piece.chars, hrest]
    | kept name => simp [ofPieces, Piece.chars, hrest]
    | unclosed chars => simp [ofPieces, Piece.chars, hrest]

end Cut

section Names

variable {d : Char} {isName : List Char → Prop} {value? : List Char → Option (List Char)}

theorem source_ofPieces_fill (segments : List (List Char)) :
    (Cut.ofPieces d (fill value? segments)).source d = behind d segments := by
  fun_induction fill value? segments with
  | case1 => rfl
  | case2 chars => simp [Cut.ofPieces, Cut.source, Cut.behindText]
  | case3 name next rest value hv ih =>
    simp only [Cut.ofPieces, Cut.source_cons, List.nil_append, behind_cons]
    rw [← ih, ← Cut.source_behindText]
  | case4 name next rest hv ih => simp [Cut.ofPieces, ih]

theorem source_ofPieces (template : List Char) :
    (Cut.ofPieces d (pieces d value? template)).source d = template := by
  obtain ⟨first, rest, rfl, hf, hr⟩ := exists_segments d template
  rw [pieces_behind hf hr, Cut.ofPieces, Cut.source_behindText, source_ofPieces_fill]

theorem isName_of_value? (hv : ∀ name, value? name = none ↔ ¬isName name)
    {name value : List Char} (h : value? name = some value) : isName name := by
  refine Classical.byContradiction fun hnot => ?_
  simp [(hv name).2 hnot] at h

variable (hn : ∀ name, isName name → d ∉ name) (hv : ∀ name, value? name = none ↔ ¬isName name)
include hn hv

/-- `passed` are the segments since the last filled name, none of them a name itself. -/
theorem isLeftmost_ofPieces_fill {first : List Char} {passed segments : List (List Char)}
    (hf : d ∉ first) (hd : Free d passed) (hp : ∀ name ∈ passed, ¬isName name)
    (hs : Free d segments) :
    ((Cut.ofPieces d (fill value? segments)).behindText (first ++ behind d passed)).IsLeftmost d
      isName := by
  fun_induction fill value? segments generalizing first passed with
  | case1 =>
    simp only [Cut.ofPieces, Cut.behindText, Cut.IsLeftmost, Cut.Leftmost, List.append_nil]
    rw [hasToken_behind_iff hn hf hd]
    rintro ⟨name, hm, h⟩
    exact hp name (List.dropLast_subset _ hm) h
  | case2 chars =>
    have ht : first ++ behind d passed ++ d :: chars = first ++ behind d (passed ++ [chars]) := by
      simp
    simp only [Cut.ofPieces, Cut.behindText, Cut.IsLeftmost, Cut.Leftmost, List.append_nil]
    rw [ht, hasToken_behind_iff hn hf (by simpa [hd] using hs), List.dropLast_concat]
    rintro ⟨name, hm, h⟩
    exact hp name hm h
  | case3 name next rest value hvalue ih =>
    have hname : isName name := isName_of_value? hv hvalue
    simp only [free_cons] at hs
    have hnext : ((Cut.ofPieces d (fill value? rest)).behindText (next ++ behind d [])).IsLeftmost
        d isName := ih hs.2.1 (by simp) (by simp) hs.2.2
    simp only [behind_nil, List.append_nil] at hnext
    simp only [Cut.ofPieces, Cut.IsLeftmost, Cut.behindText, Cut.Leftmost, List.append_nil]
    refine ⟨?_, hname, hnext⟩
    rw [hasToken_behind_concat_iff hn hf hd]
    rintro ⟨other, hm, h⟩
    exact hp other hm h
  -- A name without a value is passed, and the next one may begin at its second delimiter.
  | case4 name next rest hvalue ih =>
    obtain ⟨hname, hrest⟩ := (free_cons d name _).1 hs
    have hp' : ∀ other ∈ passed ++ [name], ¬isName other := by
      intro other h
      rcases List.mem_append.1 h with h | h
      · exact hp other h
      · rw [List.mem_singleton.1 h]
        exact (hv name).1 hvalue
    have h := ih hf (by simp [hd, hname]) hp' hrest
    simp only [Cut.ofPieces, Cut.behindText_behindText]
    simpa using h

theorem isLeftmost_ofPieces (template : List Char) :
    (Cut.ofPieces d (pieces d value? template)).IsLeftmost d isName := by
  obtain ⟨first, rest, rfl, hf, hr⟩ := exists_segments d template
  have h : ((Cut.ofPieces d (fill value? rest)).behindText (first ++ behind d [])).IsLeftmost
      d isName := isLeftmost_ofPieces_fill hn hv hf (by simp) (by simp) hr
  rw [pieces_behind hf hr, Cut.ofPieces]
  simpa using h

/-- The pieces of a template lead back to every cut of it that is leftmost. -/
theorem ofPieces_source {cut : Cut} (h : cut.IsLeftmost d isName) :
    Cut.ofPieces d (pieces d value? (cut.source d)) = cut := by
  obtain ⟨lead, fills⟩ := cut
  -- On the tokens of the cut, from the first one on: its lead is what has to be passed before it.
  induction fills generalizing lead with
  | nil =>
    obtain ⟨first, rest, rfl, hf, hr⟩ := exists_segments d lead
    simp only [Cut.IsLeftmost, Cut.Leftmost] at h
    rw [hasToken_behind_iff hn hf hr] at h
    simp only [Cut.source, List.flatMap_nil, List.append_nil]
    rcases List.eq_nil_or_concat rest with rfl | ⟨passed, last, rfl⟩
    · rw [pieces_behind hf hr]
      simp [fill, Cut.ofPieces, Cut.behindText]
    · rw [List.concat_eq_append] at h hr ⊢
      have hp : ∀ name ∈ passed, value? name = none := fun name hm =>
        (hv name).2 fun hname => h ⟨name, by simpa using hm, hname⟩
      rw [pieces_of_passed hf hr hp, Cut.ofPieces, Cut.ofPieces_kept]
      simp [Cut.ofPieces, Cut.behindText]
  | cons fill fills ih =>
    obtain ⟨name, next⟩ := fill
    obtain ⟨htoken, hname, hnext⟩ := h
    obtain ⟨first, passed, rfl, hf, hd⟩ := exists_segments d lead
    rw [hasToken_behind_concat_iff hn hf hd] at htoken
    have hp : ∀ other ∈ passed, value? other = none := fun other hm =>
      (hv other).2 fun hother => htoken ⟨other, hm, hother⟩
    obtain ⟨value, hvalue⟩ : ∃ value, value? name = some value :=
      Option.ne_none_iff_exists'.1 fun h => (hv name).1 h hname
    rw [Cut.source_cons, pieces_token hf hd hp (hn name hname) hvalue, Cut.ofPieces,
      Cut.ofPieces_kept, Cut.ofPieces, ih next hnext]
    simp [Cut.behindText]

end Names

def valueIn (vars : Mapping) (name : List Char) : List Char :=
  ((vars.value? (String.ofList name)).getD "").toList

theorem valueIn_of_lookup {vars : Mapping} {name value : List Char}
    (h : lookup vars name = some value) : valueIn vars name = value := by
  obtain ⟨text, ht, rfl⟩ := Option.map_eq_some_iff.1 h
  simp [valueIn, ht]

def cutAt (delimiter : Char) (vars : Mapping) (template : String) : Cut :=
  .ofPieces delimiter (pieces delimiter (lookup vars) template.toList)

section Usable

variable {d : Char} {vars : Mapping} (usable : Usable d vars)
include usable

theorem render_eq_filled_cutAt (template : String) :
    ∃ rendered, render d vars template = .ok rendered ∧
      rendered.text.toList = (cutAt d vars template).filled (valueIn vars) ∧
      rendered.substitutions = (cutAt d vars template).fills.length := by
  refine ⟨_, render_of_usable usable template, ?_, ?_⟩
  · have hv : ∀ name value, .filled name value ∈ pieces d (lookup vars) template.toList →
        valueIn vars name = value := by
      intro name value h
      obtain ⟨first, rest, ht, hf, hr⟩ := exists_segments d template.toList
      rw [ht, pieces_behind hf hr] at h
      exact valueIn_of_lookup (value?_of_mem_fill (by simpa using h))
    simp [assemble, cutAt, Cut.filled_ofPieces hv]
  · simp [assemble, cutAt, Cut.length_fills_ofPieces]

theorem isLeftmost_cutAt (template : String) :
    (cutAt d vars template).IsLeftmost d (IsName vars) :=
  isLeftmost_ofPieces (fun _ h => usable.not_mem_of_isName h) usable.lookup_eq_none_iff _

theorem eq_cutAt {cut : Cut} {template : String} (hs : cut.source d = template.toList)
    (hl : cut.IsLeftmost d (IsName vars)) : cut = cutAt d vars template := by
  have h := ofPieces_source (fun _ h => usable.not_mem_of_isName h) usable.lookup_eq_none_iff hl
  rw [hs] at h
  exact h.symm

theorem fills_cutAt_eq_nil_iff (template : String) :
    (cutAt d vars template).fills = [] ↔ ¬HasToken d (IsName vars) template.toList := by
  constructor
  · intro h
    have hl := isLeftmost_cutAt usable template
    have hs : (cutAt d vars template).source d = template.toList := source_ofPieces _
    simp only [Cut.IsLeftmost, h, Cut.Leftmost] at hl
    simp only [Cut.source, h, List.flatMap_nil, List.append_nil] at hs
    rwa [hs] at hl
  · intro h
    have hc : (⟨template.toList, []⟩ : Cut) = cutAt d vars template :=
      eq_cutAt usable (by simp [Cut.source]) (by simpa [Cut.IsLeftmost, Cut.Leftmost] using h)
    rw [← hc]

end Usable

/--
Every template has one leftmost cut at the names of a mapping, and rendering puts the values into
it. Only the names decide where the template is cut.
-/
theorem render_is_leftmost_substitution {d : Char} {vars : Mapping} (usable : Usable d vars)
    (template : String) :
    ∃ cut : Cut,
      (cut.source d = template.toList ∧ cut.IsLeftmost d (IsName vars)) ∧
      (∀ other : Cut, other.source d = template.toList → other.IsLeftmost d (IsName vars) →
        other = cut) ∧
      (∃ rendered, render d vars template = .ok rendered ∧
        rendered.text.toList = cut.filled (valueIn vars) ∧
        rendered.substitutions = cut.fills.length ∧
        (rendered.substitutions = 0 ↔ ¬HasToken d (IsName vars) template.toList) ∧
        (rendered.substitutions = 0 → rendered.text = template)) ∧
      ∀ others : Mapping, Usable d others → (∀ key, others.contains key = vars.contains key) →
        ∃ rendered, render d others template = .ok rendered ∧
          rendered.text.toList = cut.filled (valueIn others) ∧
          rendered.substitutions = cut.fills.length := by
  have hsource : (cutAt d vars template).source d = template.toList := source_ofPieces _
  have hleft := isLeftmost_cutAt usable template
  refine ⟨cutAt d vars template, ⟨hsource, hleft⟩, fun other hs hl => eq_cutAt usable hs hl, ?_, ?_⟩
  · obtain ⟨rendered, hr, ht, hn⟩ := render_eq_filled_cutAt usable template
    have hzero : rendered.substitutions = 0 ↔ (cutAt d vars template).fills = [] := by
      rw [hn, List.length_eq_zero_iff]
    refine ⟨rendered, hr, ht, hn, hzero.trans (fills_cutAt_eq_nil_iff usable template), ?_⟩
    intro h
    have hnil := hzero.1 h
    simp only [Cut.filled, hnil, List.flatMap_nil] at ht
    simp only [Cut.source, hnil, List.flatMap_nil] at hsource
    exact String.toList_injective (ht.trans hsource)
  · intro others husable hnames
    -- The names are the same under other values, so both cuts are leftmost at the same names.
    have hsame : cutAt d others template = cutAt d vars template := by
      have hiff : IsName others = IsName vars := by
        funext name
        simp [IsName, hnames]
      have hl := isLeftmost_cutAt husable template
      rw [hiff] at hl
      exact eq_cutAt usable (source_ofPieces _) hl
    obtain ⟨rendered, hr, ht, hn⟩ := render_eq_filled_cutAt husable template
    rw [hsame] at ht hn
    exact ⟨rendered, hr, ht, hn⟩

/-- The delimiter behind a name without a value opens the token of the next name. -/
theorem leftmost_cut_at_shared_delimiter :
    Usable '@' (.ofList [("b", some "X")]) ∧
      ∃ cut : Cut, cut.source '@' = "@a@b@".toList ∧
        cut.IsLeftmost '@' (IsName (.ofList [("b", some "X")])) ∧
        render '@' (.ofList [("b", some "X")]) "@a@b@" = .ok ⟨"@aX", 1, ["a"]⟩ ∧
        cut.filled (valueIn (.ofList [("b", some "X")])) = "@aX".toList ∧
        cut.fills.length = 1 := by
  have usable : Usable '@' (.ofList [("b", some "X")]) := by decide
  have hrendered : render '@' (.ofList [("b", some "X")]) "@a@b@" = .ok ⟨"@aX", 1, ["a"]⟩ := rfl
  obtain ⟨cut, ⟨hs, hl⟩, _, ⟨rendered, hr, ht, hn, _⟩, _⟩ :=
    render_is_leftmost_substitution usable "@a@b@"
  obtain rfl := Except.ok.inj (hr.symm.trans hrendered)
  exact ⟨usable, cut, hs, hl, hrendered, ht.symm, hn.symm⟩

end BuildHeader.Template
