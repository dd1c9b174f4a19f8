import BuildHeader.Proofs.Mapping
import BuildHeader.Proofs.Template.Segments
import BuildHeader.Proofs.Template.Usable

set_option autoImplicit false

namespace BuildHeader

namespace Mapping

theorem get?_eq_of_entries {first second : Mapping} {key : String}
    (h : ∀ value, (key, value) ∈ first.entries ↔ (key, value) ∈ second.entries) :
    first.get? key = second.get? key := by
  refine Option.ext fun value => ?_
  rw [← first.mem_entries_iff, ← second.mem_entries_iff]
  exact h value

end Mapping

namespace Template

/-- The last segment is no name, so nobody looks it up. -/
theorem fill_congr {first second : List Char → Option (List Char)} {segments : List (List Char)}
    (h : ∀ name ∈ segments.dropLast, first name = second name) :
    fill first segments = fill second segments := by
  fun_induction fill first segments with
  | case1 => rfl
  | case2 chars => rfl
  | case3 name next rest value hvalue ih =>
    have hname : second name = some value := by rw [← h name (by simp), hvalue]
    have hrest : ∀ other ∈ rest.dropLast, first other = second other := by
      intro other hm
      cases rest with
      | nil => simp at hm
      | cons after rest => exact h other (by simp [hm])
    simp only [fill, hname, ih hrest]
  | case4 name next rest hvalue ih =>
    have hname : second name = none := by rw [← h name (by simp), hvalue]
    have hrest : ∀ other ∈ (next :: rest).dropLast, first other = second other :=
      fun other hm => h other (by simp [hm])
    simp only [fill, hname, ih hrest]

theorem pieces_congr {d : Char} {first second : List Char → Option (List Char)}
    {template : List Char}
    (h : ∀ name, token d name <:+: template → first name = second name) :
    pieces d first template = pieces d second template := by
  obtain ⟨lead, rest, rfl, hl, hr⟩ := exists_segments d template
  have hnames : ∀ name ∈ rest.dropLast, first name = second name := by
    intro name hm
    have hd : d ∉ name := hr name (List.dropLast_subset _ hm)
    exact h name ((token_infix_iff hl hr hd).2 hm)
  rw [pieces_behind hl hr, pieces_behind hl hr, fill_congr hnames]

def AgreeOnTokens (delimiter : Char) (template : String) (first second : Mapping) : Prop :=
  ∀ name : String, token delimiter name.toList <:+: template.toList →
    first.get? name = second.get? name

section Agree

variable {d : Char} {template : String} {first second : Mapping}

theorem AgreeOnTokens.pieces_eq (h : AgreeOnTokens d template first second) :
    pieces d (lookup first) template.toList = pieces d (lookup second) template.toList := by
  refine pieces_congr fun name ht => ?_
  have hget : first.get? (String.ofList name) = second.get? (String.ofList name) :=
    h _ (by simpa using ht)
  simp only [lookup, Mapping.value?, hget]

theorem render_eq_of_agree (hf : Usable d first) (hs : Usable d second)
    (h : AgreeOnTokens d template first second) :
    render d first template = render d second template := by
  rw [render_of_usable hf, render_of_usable hs, h.pieces_eq]

theorem agreeOnTokens_of_entries
    (h : ∀ entry, token d entry.1.toList <:+: template.toList →
      (entry ∈ first.entries ↔ entry ∈ second.entries)) :
    AgreeOnTokens d template first second :=
  fun name ht => Mapping.get?_eq_of_entries fun value => h (name, value) ht

theorem Usable.of_subset (hs : Usable d second) (h : first.entries ⊆ second.entries) :
    Usable d first :=
  fun entry hm => hs entry (h hm)

end Agree

/--
A rendering depends only on what the mapping answers for the names between two delimiters of the
template. So the order of the entries makes no difference, nor do entries that come or go without
having their token in the template.
-/
theorem render_depends_on_tokens_only {d : Char} {vars : Mapping} (usable : Usable d vars)
    (template : String) :
    ∃ rendered : Rendered, render d vars template = .ok rendered ∧
      (∀ others : Mapping, Usable d others →
        (∀ name : String, token d name.toList <:+: template.toList →
          others.get? name = vars.get? name) →
        render d others template = .ok rendered) ∧
      (∀ others : Mapping, others.entries.Perm vars.entries →
        render d others template = .ok rendered) ∧
      (∀ others : Mapping, Usable d others → vars.entries ⊆ others.entries →
        (∀ entry ∈ others.entries, entry ∉ vars.entries →
          ¬token d entry.1.toList <:+: template.toList) →
        render d others template = .ok rendered) ∧
      ∀ others : Mapping, others.entries ⊆ vars.entries →
        (∀ entry ∈ vars.entries, entry ∉ others.entries →
          ¬token d entry.1.toList <:+: template.toList) →
        render d others template = .ok rendered := by
  have hr := render_of_usable usable template
  have hagree : ∀ others, Usable d others → AgreeOnTokens d template others vars →
      render d others template = .ok (assemble d (pieces d (lookup vars) template.toList)) :=
    fun others hu h => (render_eq_of_agree hu usable h).trans hr
  refine ⟨_, hr, hagree, fun others hp => ?_, fun others hu hsub hnew => ?_,
    fun others hsub hgone => ?_⟩
  · exact hagree others (usable.of_subset hp.subset)
      (agreeOnTokens_of_entries fun entry _ => hp.mem_iff)
  · refine hagree others hu
      (agreeOnTokens_of_entries fun entry ht => ⟨fun hm => ?_, fun hm => hsub hm⟩)
    exact Classical.byContradiction fun hnot => hnew entry hm hnot ht
  · refine hagree others (usable.of_subset hsub)
      (agreeOnTokens_of_entries fun entry ht => ⟨fun hm => hsub hm, fun hm => ?_⟩)
    exact Classical.byContradiction fun hnot => hgone entry hm hnot ht

/-- The value of one variable looks like the token of another, which the template does not have. -/
theorem render_depends_on_one_token :
    (Usable '@' (.ofList [("a", some "@b@"), ("b", some "2")]) ∧
      Usable '@' (.ofList [("c", some "3"), ("a", some "@b@")])) ∧
      render '@' (.ofList [("a", some "@b@"), ("b", some "2")]) "@a@ @x@" =
        .ok ⟨"@b@ @x@", 1, ["x"]⟩ ∧
      render '@' (.ofList [("c", some "3"), ("a", some "@b@")]) "@a@ @x@" =
        .ok ⟨"@b@ @x@", 1, ["x"]⟩ := by
  have usable : Usable '@' (.ofList [("a", some "@b@"), ("b", some "2")]) := by decide
  have hothers : Usable '@' (.ofList [("c", some "3"), ("a", some "@b@")]) := by decide
  obtain ⟨rendered, hr, hagree, _⟩ := render_depends_on_tokens_only usable "@a@ @x@"
  have hentries : ∀ entry : String × Option String,
      token '@' entry.1.toList <:+: "@a@ @x@".toList →
      (entry ∈ (Mapping.ofList [("c", some "3"), ("a", some "@b@")]).entries ↔
        entry ∈ (Mapping.ofList [("a", some "@b@"), ("b", some "2")]).entries) := by
    have hc : ¬token '@' "c".toList <:+: "@a@ @x@".toList := by decide +kernel
    have hb : ¬token '@' "b".toList <:+: "@a@ @x@".toList := by decide +kernel
    rintro ⟨key, value⟩ ht
    rw [Mapping.entries_ofList (by decide), Mapping.entries_ofList (by decide)]
    have hkc : key ≠ "c" := fun same => hc (same ▸ ht)
    have hkb : key ≠ "b" := fun same => hb (same ▸ ht)
    simp [hkc, hkb]
  have hrendered : render '@' (.ofList [("a", some "@b@"), ("b", some "2")]) "@a@ @x@" =
      .ok ⟨"@b@ @x@", 1, ["x"]⟩ := rfl
  obtain rfl := Except.ok.inj (hr.symm.trans hrendered)
  exact ⟨⟨usable, hothers⟩, hr, hagree _ hothers (agreeOnTokens_of_entries hentries)⟩

end Template

end BuildHeader

namespace BuildHeader.Template

section Rejection

variable {d : Char} {vars others : Mapping}

theorem not_usable_iff :
    ¬Usable d vars ↔
      ∃ entry ∈ vars.entries, entry.1 = "" ∨ d ∈ entry.1.toList ∨ entry.2 = none := by
  constructor
  · intro h
    refine Classical.byContradiction fun hnone => h fun entry hm => ?_
    have hsound : ¬(entry.1 = "" ∨ d ∈ entry.1.toList ∨ entry.2 = none) :=
      fun hbad => hnone ⟨entry, hm, hbad⟩
    obtain ⟨hname, hrest⟩ := not_or.1 hsound
    obtain ⟨hd, hset⟩ := not_or.1 hrest
    exact ⟨hname, hd, Option.isSome_iff_ne_none.2 hset⟩
  · rintro ⟨entry, hm, hbad⟩ usable
    obtain ⟨hname, hd, hset⟩ := usable entry hm
    rcases hbad with hempty | hin | hunset
    · exact hname hempty
    · exact hd hin
    · simp [hunset] at hset

theorem exists_error_iff (template : String) :
    (∃ e, render d vars template = .error e) ↔ ¬Usable d vars := by
  rw [usable_iff_exists_render d vars template]
  cases render d vars template <;> simp

theorem usable_of_perm (h : others.entries.Perm vars.entries) : Usable d others ↔ Usable d vars :=
  ⟨fun usable => usable.of_subset h.symm.subset, fun usable => usable.of_subset h.subset⟩

theorem offends_iff (entry : String × Option String) (e : Error) :
    Offends d entry e ↔
      (entry.1 = "" ∨ d ∈ entry.1.toList) ∧ e = .invalidKey entry.1 d ∨
        entry.1 ≠ "" ∧ d ∉ entry.1.toList ∧ entry.2 = none ∧ e = .missingValue entry.1 := by
  obtain ⟨key, value⟩ := entry
  constructor
  · intro h
    cases h with
    | name misfit =>
      refine .inl ⟨?_, rfl⟩
      by_cases hempty : key = ""
      · exact .inl hempty
      · exact .inr (Classical.byContradiction fun hd => misfit ⟨hempty, hd⟩)
    | value fits => exact .inr ⟨fits.1, fits.2, rfl, rfl⟩
  · rintro (⟨hbad, rfl⟩ | ⟨hname, hd, hunset, rfl⟩)
    · exact .name fun fits => hbad.elim fits.1 fits.2
    · obtain rfl : value = none := hunset
      exact .value ⟨hname, hd⟩

end Rejection

/--
A mapping is rejected just when an entry has an unfit name or no value. The first such entry is the
error under every template, and a mapping without one is rejected by no template. Another order of
the entries can change the error, but not that there is one.
-/
theorem rejection_is_the_first_offence (d : Char) (vars : Mapping) :
    (∀ template, (∃ e, render d vars template = .error e) ↔
      ∃ entry ∈ vars.entries, entry.1 = "" ∨ d ∈ entry.1.toList ∨ entry.2 = none) ∧
    (∀ template e, render d vars template = .error e ↔
      ∃ before entry after, vars.entries = before ++ entry :: after ∧
        (∀ sound ∈ before, sound.1 ≠ "" ∧ d ∉ sound.1.toList ∧ sound.2 ≠ none) ∧
        ((entry.1 = "" ∨ d ∈ entry.1.toList) ∧ e = .invalidKey entry.1 d ∨
          entry.1 ≠ "" ∧ d ∉ entry.1.toList ∧ entry.2 = none ∧ e = .missingValue entry.1)) ∧
    (∀ first second e, render d vars first = .error e → render d vars second = .error e) ∧
    ((¬∃ entry ∈ vars.entries, entry.1 = "" ∨ d ∈ entry.1.toList ∨ entry.2 = none) →
      ∀ template, ∃ rendered, render d vars template = .ok rendered) ∧
    ∀ others : Mapping, others.entries.Perm vars.entries → ∀ first second,
      (∃ e, render d others first = .error e) ↔ ∃ e, render d vars second = .error e := by
  refine ⟨fun template => ?_, fun template e => ?_, fun first second e he => ?_,
    fun hnone template => ?_, fun others hp first second => ?_⟩
  · rw [exists_error_iff, not_usable_iff]
  · rw [render_eq_error_iff]
    simp only [FirstOffence, offends_iff, Fits, and_assoc, Option.isSome_iff_ne_none]
  · rw [render_eq_error_iff] at he ⊢
    exact he
  · have usable : Usable d vars :=
      Classical.byContradiction fun h => hnone (not_usable_iff.1 h)
    exact ⟨_, render_of_usable usable template⟩
  · rw [exists_error_iff, exists_error_iff, usable_of_perm hp]

theorem rejected_in_both_orders :
    (Mapping.ofList [("x@y", none), ("a", none)]).entries.Perm
        (Mapping.ofList [("a", none), ("x@y", none)]).entries ∧
      render '@' (.ofList [("a", none), ("x@y", none)]) "text" = .error (.missingValue "a") ∧
      ∃ e, render '@' (.ofList [("x@y", none), ("a", none)]) "@a@" = .error e := by
  have hperm : (Mapping.ofList [("x@y", none), ("a", none)]).entries.Perm
      (Mapping.ofList [("a", none), ("x@y", none)]).entries := by decide
  obtain ⟨_, hfirst, _, _, horder⟩ :=
    rejection_is_the_first_offence '@' (.ofList [("a", none), ("x@y", none)])
  have herror : render '@' (.ofList [("a", none), ("x@y", none)]) "text" =
      .error (.missingValue "a") :=
    (hfirst _ _).2 ⟨[], ("a", none), [("x@y", none)], by decide, by decide, by decide⟩
  exact ⟨hperm, herror, (horder _ hperm "@a@" "text").2 ⟨_, herror⟩⟩

end BuildHeader.Template
