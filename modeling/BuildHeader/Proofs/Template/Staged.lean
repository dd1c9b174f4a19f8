import BuildHeader.Proofs.Mapping
import BuildHeader.Proofs.Template.Unfilled

/-!
Rendering in stages. A well-formed template can be filled from one mapping now and from another one
later, and the text is that of one rendering with both. After the first stage a smaller cut is left,
of the names that had no value yet; the texts between them have grown by the values put in.
-/

set_option autoImplicit false

namespace BuildHeader

namespace Mapping

variable {first second both : Mapping}

theorem exists_union
    (disjoint : ∀ key, first.contains key = true → second.contains key = false) :
    ∃ both : Mapping, both.entries = first.entries ++ second.entries := by
  have known : ∀ (m : Mapping) (entry : String × Option String), entry ∈ m.entries →
      m.contains entry.1 = true := fun m entry hm => by
    simp [contains, (m.mem_entries_iff entry.1 entry.2).1 hm]
  have hd : (Entries.keys (first.entries ++ second.entries)).Nodup := by
    rw [Entries.keys, List.map_append]
    refine List.nodup_append.2 ⟨first.distinct, second.distinct, fun key hf other hs same => ?_⟩
    obtain ⟨entry, he, rfl⟩ := List.mem_map.1 hf
    obtain ⟨entry', he', rfl⟩ := List.mem_map.1 hs
    have hnot := disjoint entry.1 (known first entry he)
    rw [same, known second entry' he'] at hnot
    cases hnot
  exact ⟨⟨_, hd⟩, rfl⟩

theorem get?_union (h : both.entries.Perm (first.entries ++ second.entries)) (key : String) :
    both.get? key = (first.get? key).or (second.get? key) := by
  have hd := (Entries.nodup_keys_of_perm h).1 both.distinct
  rw [get?, Entries.lookup_of_perm h hd, List.lookup_append]
  rfl

end Mapping

namespace Template

def valueOrToken (delimiter : Char) (value? : List Char → Option (List Char)) (name : List Char) :
    List Char :=
  (value? name).getD (token delimiter name)

namespace Cut

structure Clear (delimiter : Char) (cut : Cut) : Prop where
  lead : delimiter ∉ cut.lead
  fills : ∀ fill ∈ cut.fills, delimiter ∉ fill.1 ∧ delimiter ∉ fill.2

/--
Behind a name without a value the text before the next name has none either. Else that text would
be taken for a name, and the next name for a text.
-/
def InStep (value? : List Char → Option (List Char)) (fills : List (List Char × List Char)) :
    Prop :=
  ∀ fill ∈ fills.dropLast, value? fill.1 = none → value? fill.2 = none

def segments (fills : List (List Char × List Char)) : List (List Char) :=
  fills.flatMap fun fill => [fill.1, fill.2]

theorem source_eq_behind (d : Char) (cut : Cut) :
    cut.source d = cut.lead ++ behind d (segments cut.fills) := by
  obtain ⟨lead, fills⟩ := cut
  have htokens : (fills.flatMap fun fill => token d fill.1 ++ fill.2) =
      behind d (segments fills) := by
    induction fills with
    | nil => rfl
    | cons fill fills ih =>
      have hs : segments (fill :: fills) = fill.1 :: fill.2 :: segments fills := rfl
      rw [List.flatMap_cons, ih, hs]
      simp [token]
  exact congrArg (lead ++ ·) htokens

theorem Clear.free_segments {d : Char} {cut : Cut} (h : cut.Clear d) :
    Free d (segments cut.fills) := by
  intro segment hm
  obtain ⟨fill, hfill, hs⟩ := List.mem_flatMap.1 hm
  obtain ⟨hname, htext⟩ := h.fills fill hfill
  rcases List.mem_cons.1 hs with rfl | hs
  · exact hname
  · exact List.mem_singleton.1 hs ▸ htext

def leftOver (value? : List Char → Option (List Char)) : List (List Char × List Char) → Cut
  | [] => ⟨[], []⟩
  | (name, next) :: rest =>
    match value? name with
    | some value => (leftOver value? rest).behindText (value ++ next)
    | none => ((leftOver value? rest).behindText next).behindToken name

def afterStage (value? : List Char → Option (List Char)) (cut : Cut) : Cut :=
  (leftOver value? cut.fills).behindText cut.lead

section LeftOver

variable {value? : List Char → Option (List Char)}

theorem names_afterStage (cut : Cut) :
    (cut.afterStage value?).fills.map Prod.fst =
      (cut.fills.map Prod.fst).filter fun name => (value? name).isNone := by
  obtain ⟨lead, fills⟩ := cut
  show (leftOver value? fills).fills.map Prod.fst = _
  induction fills with
  | nil => rfl
  | cons fill fills ih =>
    obtain ⟨name, next⟩ := fill
    cases hv : value? name <;> simp [leftOver, hv, behindText, behindToken, ih]

theorem of_mem_fills_afterStage {cut : Cut} {fill : List Char × List Char}
    (h : fill ∈ (cut.afterStage value?).fills) :
    (∃ known ∈ cut.fills, known.1 = fill.1) ∧ value? fill.1 = none := by
  have hname : fill.1 ∈ (cut.fills.map Prod.fst).filter fun name => (value? name).isNone :=
    names_afterStage cut ▸ List.mem_map_of_mem h
  obtain ⟨hm, hnone⟩ := List.mem_filter.1 hname
  exact ⟨List.mem_map.1 hm, Option.isNone_iff_eq_none.1 hnone⟩

theorem length_fills_afterStage (cut : Cut) :
    (cut.afterStage value?).fills.length =
      cut.fills.countP fun fill => ¬(value? fill.1).isSome = true := by
  have hnames : (cut.afterStage value?).fills.map Prod.fst =
      (cut.fills.map Prod.fst).filter fun name => (value? name).isNone := names_afterStage cut
  have hlength := congrArg List.length hnames
  rw [List.length_map, ← List.countP_eq_length_filter, List.countP_map] at hlength
  rw [hlength]
  congr 1
  funext fill
  cases hv : value? fill.1 <;> simp [hv]

theorem inStep_of_isSome {fills : List (List Char × List Char)}
    (h : ∀ fill ∈ fills, (value? fill.1).isSome = true) : InStep value? fills := by
  intro fill hm hnone
  have hsome := h fill (List.dropLast_subset _ hm)
  simp [hnone] at hsome

theorem filled_afterStage (value : List Char → List Char) (cut : Cut) :
    (cut.afterStage value?).filled value =
      cut.filled fun name => (value? name).getD (value name) := by
  obtain ⟨lead, fills⟩ := cut
  have hrest : (leftOver value? fills).filled value =
      fills.flatMap fun fill => (value? fill.1).getD (value fill.1) ++ fill.2 := by
    induction fills with
    | nil => rfl
    | cons fill fills ih =>
      obtain ⟨name, next⟩ := fill
      cases hv : value? name with
      | some filled => simp [leftOver, hv, ih]
      | none =>
        simp only [filled] at ih
        simp [leftOver, hv, filled, behindText, behindToken, ih]
  simp only [afterStage, filled_behindText, hrest]
  rfl

theorem clear_afterStage {d : Char} {cut : Cut} (h : cut.Clear d)
    (hv : ∀ name value, value? name = some value → d ∉ value) :
    (cut.afterStage value?).Clear d := by
  obtain ⟨lead, fills⟩ := cut
  have hrest : (leftOver value? fills).Clear d := by
    have hfills : ∀ fill ∈ fills, d ∉ fill.1 ∧ d ∉ fill.2 := h.fills
    clear h
    induction fills with
    | nil => exact ⟨by simp [leftOver], by simp [leftOver]⟩
    | cons fill fills ih =>
      obtain ⟨name, next⟩ := fill
      obtain ⟨⟨hname, hnext⟩, hlater⟩ := List.forall_mem_cons.1 hfills
      obtain ⟨hlead, hinner⟩ := ih hlater
      cases hvalue : value? name with
      | some value =>
        have hfree : d ∉ value := hv name value hvalue
        simp only [leftOver, hvalue]
        exact ⟨by simp [behindText, hfree, hnext, hlead], hinner⟩
      | none =>
        simp only [leftOver, hvalue]
        refine ⟨by simp [behindToken], List.forall_mem_cons.2 ⟨⟨hname, ?_⟩, hinner⟩⟩
        simp [behindText, hnext, hlead]
  have hlead : d ∉ lead := h.lead
  exact ⟨by simp [afterStage, behindText, hlead, hrest.lead], hrest.fills⟩

end LeftOver

end Cut

section InStep

variable {d : Char} {value? : List Char → Option (List Char)}

/-- In step, every name is taken for a name: it is filled, or else its whole token stays. -/
theorem fill_segments {fills : List (List Char × List Char)} (h : Cut.InStep value? fills) :
    (fill value? (Cut.segments fills)).flatMap (Piece.chars d) =
        fills.flatMap (fun fill => valueOrToken d value? fill.1 ++ fill.2) ∧
      (fill value? (Cut.segments fills)).countP Piece.isFilled =
        fills.countP fun fill => (value? fill.1).isSome := by
  induction fills with
  | nil => exact ⟨rfl, rfl⟩
  | cons first rest ih =>
    obtain ⟨name, next⟩ := first
    have hrest : Cut.InStep value? rest := by
      intro later hm
      cases rest with
      | nil => simp at hm
      | cons second rest => exact h later (by simp [hm])
    obtain ⟨hchars, hcount⟩ := ih hrest
    have hs : Cut.segments ((name, next) :: rest) = name :: next :: Cut.segments rest := rfl
    -- A filled name uses up the text behind it. Behind a name without a value that text is looked
    -- up, and being in step says that nothing comes of it.
    cases hv : value? name with
    | some value =>
      have hfill : fill value? (name :: next :: Cut.segments rest) =
          .filled name value :: .text next :: fill value? (Cut.segments rest) := by simp [fill, hv]
      rw [hs, hfill]
      exact ⟨by simp [hchars, Piece.chars, valueOrToken, hv],
        by simp [List.countP_cons, hcount, Piece.isFilled, hv]⟩
    | none =>
      cases rest with
      | nil => simp [Cut.segments, fill, hv, Piece.chars, Piece.isFilled, valueOrToken, token]
      | cons second rest =>
        have hpassed : ∀ segment ∈ [name, next], value? segment = none :=
          List.forall_mem_cons.2 ⟨hv, List.forall_mem_singleton.2 (h (name, next) (by simp) hv)⟩
        have hfill : fill value? ([name, next] ++ Cut.segments (second :: rest)) =
            [.kept name, .kept next] ++ fill value? (Cut.segments (second :: rest)) :=
          fill_append hpassed (by simp [Cut.segments])
        rw [List.cons_append, List.cons_append, List.nil_append] at hfill
        rw [hs, hfill]
        exact ⟨by simp [hchars, Piece.chars, valueOrToken, hv, token],
          by simp [List.countP_cons, hcount, Piece.isFilled, hv]⟩

end InStep

theorem render_in_step {d : Char} {vars : Mapping} (usable : Usable d vars) {cut : Cut}
    (hclear : cut.Clear d) (hstep : Cut.InStep (lookup vars) cut.fills) {template : String}
    (hs : template.toList = cut.source d) :
    ∃ rendered, render d vars template = .ok rendered ∧
      rendered.text.toList = cut.filled (valueOrToken d (lookup vars)) ∧
      rendered.substitutions = cut.fills.countP fun fill => (lookup vars fill.1).isSome := by
  obtain ⟨hchars, hcount⟩ := fill_segments (d := d) hstep
  refine ⟨_, render_of_usable usable template, ?_, ?_⟩
  all_goals
    rw [hs, Cut.source_eq_behind, pieces_behind hclear.lead hclear.free_segments]
  · simp [assemble, hchars, Piece.chars, Cut.filled]
  · simp [assemble, hcount, Piece.isFilled]

theorem render_of_names {d : Char} {vars : Mapping} (usable : Usable d vars) {cut : Cut}
    (hclear : cut.Clear d) (hnames : ∀ fill ∈ cut.fills, IsName vars fill.1) {template : String}
    (hs : template.toList = cut.source d) :
    ∃ rendered, render d vars template = .ok rendered ∧
      rendered.text.toList = cut.filled (valueOrToken d (lookup vars)) ∧
      rendered.substitutions = cut.fills.length := by
  have hsome : ∀ fill ∈ cut.fills, (lookup vars fill.1).isSome = true := fun fill hm =>
    (usable.lookup_isSome_iff _).2 (hnames fill hm)
  obtain ⟨rendered, hr, htext, hcount⟩ :=
    render_in_step usable hclear (Cut.inStep_of_isSome hsome) hs
  exact ⟨rendered, hr, htext, hcount.trans (List.countP_eq_length.2 hsome)⟩

section Union

variable {d : Char} {first second both : Mapping}

theorem isName_union_iff (h : both.entries.Perm (first.entries ++ second.entries))
    (name : List Char) : IsName both name ↔ IsName first name ∨ IsName second name := by
  simp [IsName, Mapping.contains, Mapping.get?_union h]

theorem usable_union (hfirst : Usable d first) (hsecond : Usable d second)
    (h : both.entries.Perm (first.entries ++ second.entries)) : Usable d both := by
  intro entry hm
  rcases List.mem_append.1 (h.mem_iff.1 hm) with hm | hm
  · exact hfirst entry hm
  · exact hsecond entry hm

theorem lookup_union (hfirst : Usable d first)
    (h : both.entries.Perm (first.entries ++ second.entries)) (name : List Char) :
    lookup both name = (lookup first name).or (lookup second name) := by
  unfold lookup Mapping.value?
  rw [Mapping.get?_union h]
  cases hget : first.get? (String.ofList name) with
  | none => simp
  | some value =>
    have hset := (hfirst _ ((first.mem_entries_iff _ _).2 hget)).2.2
    obtain ⟨text, rfl⟩ := Option.isSome_iff_exists.1 hset
    simp

end Union

/--
A template whose names belong to two mappings may be filled from the first one and what comes of it
from the second one. Text and number of the names filled are those of one rendering with both,
provided that no text between two names is itself a name of the first mapping and that no value of
it brings delimiters.
-/
theorem staged_rendering_is_one_rendering {d : Char} {first second : Mapping}
    (hfirst : Usable d first) (hsecond : Usable d second)
    (disjoint : ∀ key, first.contains key = true → second.contains key = false) {cut : Cut}
    (hclear : cut.Clear d)
    (hnames : ∀ fill ∈ cut.fills, IsName first fill.1 ∨ IsName second fill.1)
    (hbetween : ∀ fill ∈ cut.fills.dropLast, ¬IsName first fill.2)
    (hvalues : ∀ entry ∈ first.entries, ∀ value ∈ entry.2, d ∉ value.toList)
    {template : String} (hs : template.toList = cut.source d) :
    (∃ both : Mapping, both.entries = first.entries ++ second.entries) ∧
    ∀ both : Mapping, both.entries.Perm (first.entries ++ second.entries) →
      ∃ part final whole : Rendered,
        render d first template = .ok part ∧ render d second part.text = .ok final ∧
        render d both template = .ok whole ∧ final.text = whole.text ∧
        part.substitutions + final.substitutions = whole.substitutions := by
  refine ⟨Mapping.exists_union disjoint, fun both hboth => ?_⟩
  -- The first stage passes the names of the second, and the texts behind them are no names.
  have hpart : Cut.InStep (lookup first) cut.fills := fun fill hm _ =>
    (hfirst.lookup_eq_none_iff _).2 (hbetween fill hm)
  obtain ⟨part, hrpart, htpart, hnpart⟩ := render_in_step hfirst hclear hpart hs
  have hleft : part.text.toList = (cut.afterStage (lookup first)).source d :=
    htpart.trans (Cut.filled_afterStage (token d) cut).symm
  -- What is left for the second stage are names of the second mapping only.
  have hrest : ∀ fill ∈ (cut.afterStage (lookup first)).fills, IsName second fill.1 := by
    intro fill hm
    obtain ⟨⟨known, hknown, hname⟩, hnone⟩ := Cut.of_mem_fills_afterStage hm
    rw [← hname] at hnone ⊢
    exact (hnames known hknown).resolve_left ((hfirst.lookup_eq_none_iff _).1 hnone)
  have hclearRest : (cut.afterStage (lookup first)).Clear d :=
    Cut.clear_afterStage hclear fun _ _ => not_mem_of_lookup hvalues
  obtain ⟨final, hrfinal, htfinal, hnfinal⟩ := render_of_names hsecond hclearRest hrest hleft
  have hall : ∀ fill ∈ cut.fills, IsName both fill.1 := fun fill hm =>
    (isName_union_iff hboth _).2 (hnames fill hm)
  obtain ⟨whole, hrwhole, htwhole, hnwhole⟩ :=
    render_of_names (usable_union hfirst hsecond hboth) hclear hall hs
  have htext : (fun name => (lookup first name).getD (valueOrToken d (lookup second) name)) =
      valueOrToken d (lookup both) := by
    funext name
    rw [valueOrToken, valueOrToken, lookup_union hfirst hboth]
    cases lookup first name <;> simp
  refine ⟨part, final, whole, hrpart, hrfinal, hrwhole, String.toList_injective ?_, ?_⟩
  · rw [htfinal, htwhole, Cut.filled_afterStage, htext]
  · rw [hnpart, hnfinal, hnwhole, Cut.length_fills_afterStage]
    exact (List.length_eq_countP_add_countP _).symm

/-- The name of the second stage comes first, and the text behind it is another one of its names. -/
theorem staged_rendering_past_a_waiting_name :
    (Usable '@' (.ofList [("a", some "1")]) ∧
      Usable '@' (.ofList [("b", some "2"), ("y", some "3")])) ∧
      render '@' (.ofList [("a", some "1")]) "x@b@y@a@" = .ok ⟨"x@b@y1", 1, ["b", "y"]⟩ ∧
      render '@' (.ofList [("b", some "2"), ("y", some "3")]) "x@b@y1" = .ok ⟨"x2y1", 1, []⟩ ∧
      render '@' (.ofList [("a", some "1"), ("b", some "2"), ("y", some "3")]) "x@b@y@a@" =
        .ok ⟨"x2y1", 2, []⟩ := by
  have hfirst : Usable '@' (.ofList [("a", some "1")]) := by decide
  have hsecond : Usable '@' (.ofList [("b", some "2"), ("y", some "3")]) := by decide
  have disjoint : ∀ key, (Mapping.ofList [("a", some "1")]).contains key = true →
      (Mapping.ofList [("b", some "2"), ("y", some "3")]).contains key = false := by
    intro key hk
    obtain ⟨value, hv⟩ := Option.isSome_iff_exists.1 hk
    rw [← Mapping.mem_entries_iff, Mapping.entries_ofList (by decide), List.mem_singleton] at hv
    obtain ⟨rfl, _⟩ := Prod.mk.inj hv
    decide
  have hclear : Cut.Clear '@' ⟨['x'], [(['b'], ['y']), (['a'], [])]⟩ := ⟨by decide, by decide⟩
  have hs : "x@b@y@a@".toList = Cut.source '@' ⟨['x'], [(['b'], ['y']), (['a'], [])]⟩ := by decide
  obtain ⟨_, hstaged⟩ := staged_rendering_is_one_rendering hfirst hsecond disjoint hclear
    (by decide) (by decide) (by decide) hs
  obtain ⟨part, final, whole, hpart, hfinal, hwhole, _⟩ :=
    hstaged (.ofList [("a", some "1"), ("b", some "2"), ("y", some "3")]) (by decide)
  have hone : render '@' (.ofList [("a", some "1")]) "x@b@y@a@" =
      .ok ⟨"x@b@y1", 1, ["b", "y"]⟩ := rfl
  obtain rfl := Except.ok.inj (hpart.symm.trans hone)
  have htwo : render '@' (.ofList [("b", some "2"), ("y", some "3")]) "x@b@y1" =
      .ok ⟨"x2y1", 1, []⟩ := rfl
  obtain rfl := Except.ok.inj (hfinal.symm.trans htwo)
  have hall : render '@' (.ofList [("a", some "1"), ("b", some "2"), ("y", some "3")]) "x@b@y@a@" =
      .ok ⟨"x2y1", 2, []⟩ := rfl
  obtain rfl := Except.ok.inj (hwhole.symm.trans hall)
  exact ⟨⟨hfirst, hsecond⟩, hpart, hfinal, hwhole⟩

end Template

end BuildHeader
