import BuildHeader.Proofs.Script
import BuildHeader.Proofs.Template.Usable
import BuildHeader.Template.Render

set_option autoImplicit false

namespace BuildHeader.Template

def rendering (delimiter : Char) (vars : Mapping) (path : String) (files : File.Tree) :
    Except Error Rendered :=
  (decode path (files.read path)).bind (render delimiter vars)

@[simp] theorem quietOn_load (path : String) (files : File.Tree) :
    (load path).quietOn files = ⟨decode path (files.read path), files, [], []⟩ := by
  simp [load]

theorem decode_eq_ok_iff (path : String) (answer : Except File.Fault ByteArray) (text : String) :
    decode path answer = .ok text ↔
      ∃ content, answer = .ok content ∧ String.fromUTF8? content = some text := by
  cases answer with
  | error fault => cases fault <;> simp [decode]
  | ok content => cases h : String.fromUTF8? content <;> simp [decode, h]

def HoldsText (files : File.Tree) (path text : String) : Prop :=
  ∃ content, files.read path = .ok content ∧ String.fromUTF8? content = some text

/-- Why a file is no template: nothing is there, it cannot be read, or it is no text. -/
inductive Unreadable (path : String) : Except File.Fault ByteArray → Error → Prop where
  | absent : Unreadable path (.error .notFound) (.notFound path)
  | faulty {fault : File.Fault} (there : fault ≠ .notFound) :
    Unreadable path (.error fault) (.readFailed path fault)
  | noText {content : ByteArray} (undecoded : String.fromUTF8? content = none) :
    Unreadable path (.ok content) (.readFailed path .invalidUtf8)

theorem decode_eq_error_iff (path : String) (answer : Except File.Fault ByteArray) (e : Error) :
    decode path answer = .error e ↔ Unreadable path answer e := by
  constructor
  · intro h
    unfold decode at h
    split at h
    · obtain rfl := Except.error.inj h
      exact .absent
    · rename_i fault hf
      obtain rfl := Except.error.inj h
      exact .faulty hf
    · split at h
      · cases h
      · rename_i hnone
        obtain rfl := Except.error.inj h
        exact .noText hnone
  · intro h
    cases h with
    | absent => rfl
    | faulty there => simp [decode]
    | noText undecoded => simp [decode, undecoded]

section Rendering

variable (d : Char) (vars : Mapping) (path : String) (files : File.Tree)

theorem exists_rendering_iff :
    (∃ rendered, rendering d vars path files = .ok rendered) ↔
      (∃ text, HoldsText files path text) ∧ Usable d vars := by
  constructor
  · rintro ⟨rendered, h⟩
    obtain ⟨text, ht, hr⟩ := Except.bind_eq_ok_iff.1 h
    refine ⟨⟨text, (decode_eq_ok_iff ..).1 ht⟩, ?_⟩
    exact (usable_iff_exists_render d vars text).2 ⟨rendered, hr⟩
  · rintro ⟨⟨text, ht⟩, husable⟩
    exact ⟨_, Except.bind_eq_ok_iff.2
      ⟨text, (decode_eq_ok_iff ..).2 ht, render_of_usable husable text⟩⟩

theorem rendering_eq_error_iff (e : Error) :
    rendering d vars path files = .error e ↔
      Unreadable path (files.read path) e ∨
      (∃ text, HoldsText files path text) ∧ FirstOffence d vars.entries e := by
  rw [rendering, Except.bind_eq_error_iff, decode_eq_error_iff]
  simp only [decode_eq_ok_iff, render_eq_error_iff, HoldsText, exists_and_right]

end Rendering

section File

variable {d : Char} {input : String} {vars : Mapping} {files : File.Tree}

theorem quietOn_renderFile_of_error (output : String) {e : Error}
    (h : rendering d vars input files = .error e) :
    (renderFile d input output vars).quietOn files = ⟨.error e, files, [], []⟩ := by
  rcases Except.bind_eq_error_iff.1 h with ht | ⟨template, ht, hr⟩
  · simp [renderFile, ht]
  · simp [renderFile, ht, hr]

theorem quietOn_renderFile_of_ok (output : String) {rendered : Rendered}
    (h : rendering d vars input files = .ok rendered) :
    (renderFile d input output vars).quietOn files =
      match files.write output rendered.text.toUTF8 with
      | .error fault => ⟨.error (.writeFailed output fault), files, [], []⟩
      | .ok files' =>
        ⟨.ok ⟨output, rendered.text.utf8ByteSize, rendered.substitutions, rendered.unresolved⟩,
          files', [], []⟩ := by
  obtain ⟨template, ht, hr⟩ := Except.bind_eq_ok_iff.1 h
  cases hw : files.write output rendered.text.toUTF8 with
  | error fault =>
    rw [String.toUTF8_eq_toByteArray] at hw
    simp [renderFile, ht, hr, hw, apply_ite (Script.quietOn files)]
  | ok files' =>
    rw [String.toUTF8_eq_toByteArray] at hw
    simp [renderFile, ht, hr, hw, apply_ite (Script.quietOn files), Except.map]

end File

end BuildHeader.Template
