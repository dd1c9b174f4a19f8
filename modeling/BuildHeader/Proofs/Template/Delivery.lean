import BuildHeader.Proofs.File.Writing
import BuildHeader.Proofs.Template.Effect
import BuildHeader.Proofs.Template.Leftmost

set_option autoImplicit false

namespace BuildHeader.Template

def delivery (delimiter : Char) (input output : String) (vars : Mapping) (files : File.Tree) :
    Script.Transcript Error Outcome :=
  (renderFile delimiter input output vars).actOn files

/-- Why nothing is delivered: the first of three stages that does not come through. -/
inductive Undelivered (delimiter : Char) (input output : String) (vars : Mapping)
    (files : File.Tree) : Error → Prop where
  | unreadable {e : Error} (fault : Unreadable input (files.read input) e) :
    Undelivered delimiter input output vars files e
  | unusable {text : String} {e : Error} (template : HoldsText files input text)
    (offence : render delimiter vars text = .error e) :
    Undelivered delimiter input output vars files e
  | unwritable {text : String} {rendered : Rendered} {fault : File.Fault}
    (template : HoldsText files input text) (ready : render delimiter vars text = .ok rendered)
    (refused : files.writable output = .error fault) :
    Undelivered delimiter input output vars files (.writeFailed output fault)

section Ends

variable {d : Char} {input output : String} {vars : Mapping} {files : File.Tree}

theorem delivery_of_rendering_error {e : Error} (h : rendering d vars input files = .error e) :
    (delivery d input output vars files).result = .error e ∧
      (delivery d input output vars files).files = files := by
  have hq := quietOn_renderFile_of_error output h
  exact ⟨congrArg Script.Transcript.result hq, congrArg Script.Transcript.files hq⟩

theorem delivery_of_unwritable {rendered : Rendered} {fault : File.Fault}
    (h : rendering d vars input files = .ok rendered)
    (hw : files.writable output = .error fault) :
    (delivery d input output vars files).result = .error (.writeFailed output fault) ∧
      (delivery d input output vars files).files = files := by
  have hq := quietOn_renderFile_of_ok output h
  rw [(File.Tree.write_eq_error_iff files output _ fault).2 hw] at hq
  exact ⟨congrArg Script.Transcript.result hq, congrArg Script.Transcript.files hq⟩

theorem delivery_of_writable {rendered : Rendered} {place : File.Location}
    (h : rendering d vars input files = .ok rendered) (hw : files.writable output = .ok place) :
    (delivery d input output vars files).result =
        .ok ⟨output, rendered.text.utf8ByteSize, rendered.substitutions, rendered.unresolved⟩ ∧
      (delivery d input output vars files).files =
        files.put place (.file rendered.text.toUTF8) := by
  have hq := quietOn_renderFile_of_ok output h
  rw [(File.Tree.write_eq_ok_iff files _ output _).2 ⟨place, hw, rfl⟩] at hq
  exact ⟨congrArg Script.Transcript.result hq, congrArg Script.Transcript.files hq⟩

theorem rendering_eq_ok_iff (rendered : Rendered) :
    rendering d vars input files = .ok rendered ↔
      ∃ text, HoldsText files input text ∧ render d vars text = .ok rendered := by
  simp only [rendering, Except.bind_eq_ok_iff, decode_eq_ok_iff, HoldsText]

theorem undelivered_of_rendering_error {e : Error}
    (h : rendering d vars input files = .error e) : Undelivered d input output vars files e := by
  rcases (rendering_eq_error_iff d vars input files e).1 h with hr | ⟨⟨text, ht⟩, ho⟩
  · exact .unreadable hr
  · exact .unusable ht ((render_eq_error_iff d vars text e).2 ho)

theorem delivery_ends (d : Char) (input output : String) (vars : Mapping) (files : File.Tree) :
    (∃ e, Undelivered d input output vars files e ∧
      (delivery d input output vars files).result = .error e ∧
      (delivery d input output vars files).files = files) ∨
    ∃ text rendered place, HoldsText files input text ∧ render d vars text = .ok rendered ∧
      files.writable output = .ok place ∧
      (delivery d input output vars files).result =
        .ok ⟨output, rendered.text.utf8ByteSize, rendered.substitutions, rendered.unresolved⟩ ∧
      (delivery d input output vars files).files =
        files.put place (.file rendered.text.toUTF8) := by
  cases h : rendering d vars input files with
  | error e => exact .inl ⟨e, undelivered_of_rendering_error h, delivery_of_rendering_error h⟩
  | ok rendered =>
    obtain ⟨text, ht, hr⟩ := (rendering_eq_ok_iff rendered).1 h
    cases hw : files.writable output with
    | error fault => exact .inl ⟨_, .unwritable ht hr hw, delivery_of_unwritable h hw⟩
    | ok place => exact .inr ⟨text, rendered, place, ht, hr, rfl, delivery_of_writable h hw⟩

theorem result_of_undelivered {e : Error} (h : Undelivered d input output vars files e) :
    (delivery d input output vars files).result = .error e := by
  cases h with
  | unreadable fault =>
    exact (delivery_of_rendering_error ((rendering_eq_error_iff ..).2 (.inl fault))).1
  | unusable template offence =>
    have ho := (render_eq_error_iff ..).1 offence
    exact (delivery_of_rendering_error
      ((rendering_eq_error_iff ..).2 (.inr ⟨⟨_, template⟩, ho⟩))).1
  | unwritable template ready refused =>
    exact (delivery_of_unwritable ((rendering_eq_ok_iff _).2 ⟨_, template, ready⟩) refused).1

theorem result_delivery_eq_error_iff (e : Error) :
    (delivery d input output vars files).result = .error e ↔
      Undelivered d input output vars files e := by
  refine ⟨fun he => ?_, result_of_undelivered⟩
  rcases delivery_ends d input output vars files with
    ⟨e', hu, he', _⟩ | ⟨text, rendered, place, _, _, _, hok, _⟩
  · obtain rfl := Except.error.inj (he'.symm.trans he)
    exact hu
  · simp [hok] at he

theorem undelivered_notFound_iff :
    Undelivered d input output vars files (.notFound input) ↔
      files.read input = .error .notFound := by
  constructor
  · intro h
    cases h with
    | unreadable fault =>
      generalize files.read input = answer at fault
      cases fault
      rfl
    | unusable template offence => simpa using eq_invalidKey_or_missingValue offence
  · intro h
    exact .unreadable (h ▸ .absent)

theorem undelivered_readFailed_iff (fault : File.Fault) :
    Undelivered d input output vars files (.readFailed input fault) ↔
      files.read input = .error fault ∧ fault ≠ .notFound ∨
        fault = .invalidUtf8 ∧
          ∃ content, files.read input = .ok content ∧ String.fromUTF8? content = none := by
  constructor
  · intro h
    cases h with
    | unreadable hf =>
      generalize files.read input = answer at hf
      cases hf with
      | faulty there => exact .inl ⟨rfl, there⟩
      | noText undecoded => exact .inr ⟨rfl, _, rfl, undecoded⟩
    | unusable template offence => simpa using eq_invalidKey_or_missingValue offence
  · rintro (⟨h, there⟩ | ⟨rfl, content, h, undecoded⟩)
    · exact .unreadable (h ▸ .faulty there)
    · exact .unreadable (h ▸ .noText undecoded)

theorem undelivered_writeFailed_iff (fault : File.Fault) :
    Undelivered d input output vars files (.writeFailed output fault) ↔
      (∃ text rendered, HoldsText files input text ∧ render d vars text = .ok rendered) ∧
        files.writable output = .error fault := by
  constructor
  · intro h
    cases h with
    | unreadable hf =>
      generalize files.read input = answer at hf
      cases hf
    | unusable template offence => simpa using eq_invalidKey_or_missingValue offence
    | unwritable template ready refused => exact ⟨⟨_, _, template, ready⟩, refused⟩
  · rintro ⟨⟨text, rendered, template, ready⟩, refused⟩
    exact .unwritable template ready refused

end Ends

theorem toUTF8_of_fromUTF8? {content : ByteArray} {text : String}
    (h : String.fromUTF8? content = some text) : text.toUTF8 = content := by
  unfold String.fromUTF8? at h
  split at h
  · obtain rfl := Option.some.inj h
    rfl
  · cases h

def octets (chars : List Char) : List UInt8 := (String.ofList chars).toUTF8.data.toList

theorem octets_append (first second : List Char) :
    octets (first ++ second) = octets first ++ octets second := by
  simp [octets]

theorem octets_flatMap {α : Type} (items : List α) (chars : α → List Char) :
    octets (items.flatMap chars) = items.flatMap fun item => octets (chars item) := by
  induction items with
  | nil => rfl
  | cons item items ih => simp [octets_append, ih]

/-- Outside of the tokens a template and what it renders to have the same octets. -/
theorem octets_of_cut (d : Char) (vars : Mapping) (cut : Cut) :
    octets (cut.source d) = octets cut.lead ++
        cut.fills.flatMap (fun fill => octets (token d fill.1) ++ octets fill.2) ∧
      octets (cut.filled (valueIn vars)) = octets cut.lead ++
        cut.fills.flatMap fun fill => octets (valueIn vars fill.1) ++ octets fill.2 := by
  simp only [Cut.source, Cut.filled, octets_append, octets_flatMap, and_self]

structure Delivered (delimiter : Char) (input output : String) (vars : Mapping)
    (files : File.Tree) (rendered : Rendered) (place : File.Location) (after : File.Tree) :
    Prop where
  ready : ∃ text, files.read input = .ok text.toUTF8 ∧
    render delimiter vars text = .ok rendered ∧
    ∃ cut : Cut, cut.IsLeftmost delimiter (IsName vars) ∧
      text.toUTF8.data.toList = octets cut.lead ++
        cut.fills.flatMap (fun fill => octets (token delimiter fill.1) ++ octets fill.2) ∧
      rendered.text.toUTF8.data.toList = octets cut.lead ++
        cut.fills.flatMap fun fill => octets (valueIn vars fill.1) ++ octets fill.2
  writable : files.writable output = .ok place
  written : after.lookup place = some (.file rendered.text.toUTF8)
  reads : after.read output = .ok rendered.text.toUTF8
  elsewhere : ∀ other, other ≠ place → after.lookup other = files.lookup other
  workingDirectory : after.workingDirectory = files.workingDirectory

theorem delivered_of_put {d : Char} {input output text : String} {vars : Mapping}
    {files : File.Tree} {rendered : Rendered} {place : File.Location}
    (ht : HoldsText files input text) (hr : render d vars text = .ok rendered)
    (hw : files.writable output = .ok place) :
    Delivered d input output vars files rendered place
      (files.put place (.file rendered.text.toUTF8)) where
  ready := by
    obtain ⟨content, hread, hcontent⟩ := ht
    have usable : Usable d vars := (usable_iff_exists_render d vars text).2 ⟨rendered, hr⟩
    obtain ⟨_, hr', htext, _⟩ := render_eq_filled_cutAt usable text
    obtain rfl := Except.ok.inj (hr.symm.trans hr')
    have hsource : (cutAt d vars text).source d = text.toList := source_ofPieces _
    obtain ⟨hbefore, hafter⟩ := octets_of_cut d vars (cutAt d vars text)
    rw [hsource] at hbefore
    rw [← htext] at hafter
    refine ⟨text, ?_, hr, cutAt d vars text, isLeftmost_cutAt usable text, ?_, ?_⟩
    · rw [hread, toUTF8_of_fromUTF8? hcontent]
    · simpa [octets] using hbefore
    · simpa [octets] using hafter
  writable := hw
  written := File.Tree.lookup_put_self _
    (File.Tree.isPrefixOf_workingDirectory (File.Tree.writable_eq_ok hw).2.2.2)
  reads := File.Tree.read_put_of_writable hw _
  elsewhere := fun _ hne => File.Tree.lookup_put_of_ne files _ hne
  workingDirectory := rfl

/--
A delivery fails at the first stage that does not come through, the reading, the rendering or the
writing, and then all files are as they were. Otherwise one place has changed: it holds the octets
of the rendering, and the outcome counts them.
-/
theorem delivery_is_all_or_nothing (d : Char) (input output : String) (vars : Mapping)
    (files : File.Tree) :
    ((delivery d input output vars files).result = .error (.notFound input) ↔
      files.read input = .error .notFound) ∧
    (∀ fault, (delivery d input output vars files).result = .error (.readFailed input fault) ↔
      files.read input = .error fault ∧ fault ≠ .notFound ∨
        fault = .invalidUtf8 ∧
          ∃ content, files.read input = .ok content ∧ String.fromUTF8? content = none) ∧
    (∀ text e, HoldsText files input text → render d vars text = .error e →
      (delivery d input output vars files).result = .error e) ∧
    (∀ text rendered, HoldsText files input text → render d vars text = .ok rendered → ∀ fault,
      (delivery d input output vars files).result = .error (.writeFailed output fault) ↔
        files.writable output = .error fault) ∧
    (∀ e, (delivery d input output vars files).result = .error e →
      Undelivered d input output vars files e ∧
        (delivery d input output vars files).files = files) ∧
    ∀ outcome, (delivery d input output vars files).result = .ok outcome →
      ∃ rendered place,
        outcome = ⟨output, rendered.text.toUTF8.size, rendered.substitutions,
          rendered.unresolved⟩ ∧
        Delivered d input output vars files rendered place
          (delivery d input output vars files).files := by
  refine ⟨?_, fun fault => ?_, fun text e ht he => ?_, fun text rendered ht hr fault => ?_,
    fun e he => ?_, fun outcome ho => ?_⟩
  · rw [result_delivery_eq_error_iff, undelivered_notFound_iff]
  · rw [result_delivery_eq_error_iff, undelivered_readFailed_iff]
  · exact result_of_undelivered (.unusable ht he)
  · rw [result_delivery_eq_error_iff, undelivered_writeFailed_iff]
    exact ⟨fun h => h.2, fun h => ⟨⟨text, rendered, ht, hr⟩, h⟩⟩
  · refine ⟨(result_delivery_eq_error_iff e).1 he, ?_⟩
    rcases delivery_ends d input output vars files with
      ⟨_, _, _, hfiles⟩ | ⟨_, _, _, _, _, _, hok, _⟩
    · exact hfiles
    · simp [hok] at he
  · rcases delivery_ends d input output vars files with
      ⟨e, _, he, _⟩ | ⟨text, rendered, place, ht, hr, hw, hok, hfiles⟩
    · simp [he] at ho
    · obtain rfl := Except.ok.inj (hok.symm.trans ho)
      rw [hfiles]
      exact ⟨rendered, place, rfl, delivered_of_put ht hr hw⟩

def markedFiles : File.Tree where
  workingDirectory := ["work"]
  entries := [(["work", "mode.h"], .file "\uFEFF#define MODE @mode@\r\n".toUTF8)]

/-- Both marks are still there when the template has been written over, with fewer octets. -/
theorem delivery_over_own_template :
    (delivery '@' "mode.h" "./mode.h" (.ofList [("mode", some "x")]) markedFiles).result =
        .ok ⟨"./mode.h", 19, 1, []⟩ ∧
      (delivery '@' "mode.h" "./mode.h" (.ofList [("mode", some "x")]) markedFiles).files.read
        "mode.h" = .ok "\uFEFF#define MODE x\r\n".toUTF8 ∧
      ∃ rendered place, Delivered '@' "mode.h" "./mode.h" (.ofList [("mode", some "x")])
        markedFiles rendered place
        (delivery '@' "mode.h" "./mode.h" (.ofList [("mode", some "x")]) markedFiles).files := by
  have hok : (delivery '@' "mode.h" "./mode.h" (.ofList [("mode", some "x")])
      markedFiles).result = .ok ⟨"./mode.h", 19, 1, []⟩ :=
    Except.eq_ok_of_toOption (by decide +kernel)
  obtain ⟨rendered, place, _, hdelivered⟩ :=
    (delivery_is_all_or_nothing _ _ _ _ _).2.2.2.2.2 _ hok
  exact ⟨hok, Except.eq_ok_of_toOption (by decide +kernel), rendered, place, hdelivered⟩

end BuildHeader.Template
