import BuildHeader.Proofs.File.Ways
import BuildHeader.Proofs.Template.Delivery

set_option autoImplicit false

namespace BuildHeader.Template

structure Request where
  delimiter : Char := defaultDelimiter
  input : String
  output : String
  vars : Mapping

namespace Request

variable (r : Request) (files : File.Tree)

def deliver : Script.Transcript Error Outcome :=
  delivery r.delimiter r.input r.output r.vars files

def ready : Except Error Rendered := rendering r.delimiter r.vars r.input files

def answer : Except Error Outcome :=
  match r.ready files, files.writable r.output with
  | .error e, _ => .error e
  | .ok _, .error fault => .error (.writeFailed r.output fault)
  | .ok rendered, .ok _ =>
    .ok ⟨r.output, rendered.text.utf8ByteSize, rendered.substitutions, rendered.unresolved⟩

def change? : Option (File.Location × File.Entry) :=
  match r.ready files, files.writable r.output with
  | .ok rendered, .ok place => some (place, .file rendered.text.toUTF8)
  | _, _ => none

theorem deliver_eq :
    (r.deliver files).result = r.answer files ∧
      (r.deliver files).files = files.after (r.change? files) := by
  unfold answer change?
  cases hr : r.ready files with
  | error e => exact delivery_of_rendering_error hr
  | ok rendered =>
    cases hw : files.writable r.output with
    | error fault => exact delivery_of_unwritable hr hw
    | ok place => exact delivery_of_writable hr hw

theorem eq_destination_of_change {x : File.Location × File.Entry} (h : x ∈ r.change? files) :
    x.1 = files.destination r.output := by
  unfold change? at h
  split at h
  · rename_i hw
    cases h
    exact File.Tree.eq_destination_of_writable hw
  · cases h

/-- The other request has neither its input nor its output in the output of this one. -/
def ClearOf (other : Request) : Prop :=
  ¬files.Covers r.output other.input ∧ ¬files.Covers r.output other.output

def Apart (other : Request) : Prop := r.ClearOf files other ∧ other.ClearOf files r

section After

variable {r files} {write : Option (File.Location × File.Entry)}
  (h : ∀ x ∈ write, x.1 ∉ files.way r.input ∧ x.1 ∉ files.way r.output)
include h

theorem ready_and_writable_after :
    r.ready (files.after write) = r.ready files ∧
      (files.after write).writable r.output = files.writable r.output := by
  constructor
  · unfold ready rendering
    rw [File.Tree.read_after_of_not_mem fun x hx => (h x hx).1]
  · exact File.Tree.writable_after_of_not_mem fun x hx => (h x hx).2

theorem answer_after : r.answer (files.after write) = r.answer files := by
  obtain ⟨hready, hwritable⟩ := ready_and_writable_after h
  simp only [answer, hready, hwritable]

theorem change?_after : r.change? (files.after write) = r.change? files := by
  obtain ⟨hready, hwritable⟩ := ready_and_writable_after h
  simp only [change?, hready, hwritable]

end After

section Apart

variable {files} {first second : Request}

theorem ClearOf.not_mem_way (h : first.ClearOf files second) :
    ∀ x ∈ first.change? files, x.1 ∉ files.way second.input ∧ x.1 ∉ files.way second.output := by
  intro x hx
  rw [first.eq_destination_of_change files hx]
  exact h

theorem ClearOf.deliver_eq (h : first.ClearOf files second) :
    (second.deliver (first.deliver files).files).result = (second.deliver files).result ∧
      (second.deliver (first.deliver files).files).files =
        (files.after (first.change? files)).after (second.change? files) := by
  rw [(first.deliver_eq files).2]
  obtain ⟨hresult, hfiles⟩ := second.deliver_eq (files.after (first.change? files))
  rw [hresult, hfiles, answer_after h.not_mem_way, change?_after h.not_mem_way]
  exact ⟨(second.deliver_eq files).1.symm, rfl⟩

theorem ClearOf.ne_of_changes (h : first.ClearOf files second) :
    ∀ x ∈ first.change? files, ∀ y ∈ second.change? files, x.1 ≠ y.1 := by
  intro x hx y hy same
  refine (h.not_mem_way x hx).2 (same ▸ ?_)
  rw [second.eq_destination_of_change files hy]
  exact File.goal_mem_passed _ _

end Apart

end Request

/-- The input is another file than the one that is written for the output. -/
def DifferentFiles (files : File.Tree) (input output : String) : Prop :=
  ∀ place, files.writable output = .ok place → ∀ entry, files.find input ≠ .ok (place, entry)

theorem read_put_of_differentFiles {files : File.Tree} {input output : String}
    {place : File.Location} {content : ByteArray} (h : DifferentFiles files input output)
    (hw : files.writable output = .ok place) (hr : files.read input = .ok content)
    (entry : File.Entry) : (files.put place entry).read input = .ok content := by
  unfold File.Tree.read at hr ⊢
  cases hf : files.find input with
  | error fault => simp [hf] at hr
  | ok found =>
    obtain ⟨there, old⟩ := found
    have hne : there ≠ place := fun same => h place hw old (same ▸ hf)
    rw [File.Tree.find_put_of_ne entry (File.Tree.writable_eq_ok hw).2.2.2 hf hne]
    simpa only [hf] using hr

theorem Request.deliver_again {r : Request} {files : File.Tree} {outcome : Outcome}
    (h : (r.deliver files).result = .ok outcome)
    (different : DifferentFiles files r.input r.output) :
    (r.deliver (r.deliver files).files).result = .ok outcome ∧
      (r.deliver (r.deliver files).files).files = (r.deliver files).files := by
  rcases delivery_ends r.delimiter r.input r.output r.vars files with
    ⟨e, _, he, _⟩ | ⟨text, rendered, place, ⟨content, hread, htext⟩, hrender, hw, hok, hfiles⟩
  · simp [Request.deliver, he] at h
  have hfiles' : (r.deliver files).files = files.put place (.file rendered.text.toUTF8) := hfiles
  have hready : rendering r.delimiter r.vars r.input
      (files.put place (.file rendered.text.toUTF8)) = .ok rendered :=
    (rendering_eq_ok_iff rendered).2
      ⟨text, ⟨content, read_put_of_differentFiles different hw hread _, htext⟩, hrender⟩
  obtain ⟨hagain, hsame⟩ :=
    delivery_of_writable hready (File.Tree.writable_put_self hw rendered.text.toUTF8)
  rw [hfiles']
  refine ⟨hagain.trans (hok.symm.trans h), ?_⟩
  rw [File.Tree.put_put_self] at hsame
  exact hsame

/--
A delivery that has come through comes through again with the same outcome and changes nothing,
unless the output is its own template. Two deliveries end in either order as each would alone, and
leave the same files, if neither output is a place of the other's paths or one that these lead
through. A path without steps up leads through the places above its own.
-/
theorem deliveries_repeat_and_commute (files : File.Tree) :
    (∀ (r : Request) outcome, (r.deliver files).result = .ok outcome →
      DifferentFiles files r.input r.output →
      (r.deliver (r.deliver files).files).result = .ok outcome ∧
        (r.deliver (r.deliver files).files).files = (r.deliver files).files) ∧
    (∀ first second : Request, first.Apart files second →
      (second.deliver (first.deliver files).files).result = (second.deliver files).result ∧
      (first.deliver (second.deliver files).files).result = (first.deliver files).result ∧
      (second.deliver (first.deliver files).files).files.Alike
        (first.deliver (second.deliver files).files).files) ∧
    ∀ outer inner, ".." ∉ File.Path.steps inner → files.Covers outer inner →
      files.destination outer <+: files.destination inner := by
  refine ⟨fun r outcome => Request.deliver_again, fun first second h => ?_,
    fun outer inner => File.Tree.prefix_of_covers⟩
  obtain ⟨hsecond, hfiles⟩ := h.1.deliver_eq
  obtain ⟨hfirst, hfiles'⟩ := h.2.deliver_eq
  refine ⟨hsecond, hfirst, ?_⟩
  rw [hfiles, hfiles']
  exact files.alike_after_after h.1.ne_of_changes

def workshop : File.Tree where
  workingDirectory := ["work"]
  entries := [(["work", "src"], .directory), (["work", "build"], .directory),
    (["work", "src", "mode.in"], .file "%mode% @mode@\n".toUTF8)]

def modeRequest : Request where
  input := "src/mode.in"
  output := "build/mode.h"
  vars := .ofList [("mode", some "x")]

def percentRequest : Request where
  delimiter := '%'
  input := "src/../src/mode.in"
  output := "./build/mode.h.in"
  vars := .ofList [("mode", some "yz")]

theorem deliveries_of_one_template_commute :
    (modeRequest.deliver workshop).result = .ok ⟨"build/mode.h", 9, 1, []⟩ ∧
    DifferentFiles workshop modeRequest.input modeRequest.output ∧
    (modeRequest.deliver (modeRequest.deliver workshop).files).files =
      (modeRequest.deliver workshop).files ∧
    modeRequest.Apart workshop percentRequest ∧
    (percentRequest.deliver (modeRequest.deliver workshop).files).result =
      .ok ⟨"./build/mode.h.in", 10, 1, []⟩ ∧
    (percentRequest.deliver (modeRequest.deliver workshop).files).files.Alike
      (modeRequest.deliver (percentRequest.deliver workshop).files).files ∧
    workshop.Covers "./src" "src/mode.in" ∧
    workshop.destination "./src" <+: workshop.destination "src/mode.in" := by
  obtain ⟨again, commute, above⟩ := deliveries_repeat_and_commute workshop
  have hmode : (modeRequest.deliver workshop).result = .ok ⟨"build/mode.h", 9, 1, []⟩ :=
    Except.eq_ok_of_toOption (by decide +kernel)
  have hpercent : (percentRequest.deliver workshop).result =
      .ok ⟨"./build/mode.h.in", 10, 1, []⟩ :=
    Except.eq_ok_of_toOption (by decide +kernel)
  have hdifferent : DifferentFiles workshop modeRequest.input modeRequest.output := by
    intro place hw entry hf
    have hplace : (workshop.find modeRequest.input).toOption.map Prod.fst =
        some ["work", "src", "mode.in"] := by decide +kernel
    have houtput : workshop.destination modeRequest.output = ["work", "build", "mode.h"] := by
      decide +kernel
    rw [hf, File.Tree.eq_destination_of_writable hw, houtput] at hplace
    simp [Except.toOption] at hplace
  have hapart : modeRequest.Apart workshop percentRequest := by
    unfold Request.Apart Request.ClearOf
    decide +kernel
  have hcovers : workshop.Covers "./src" "src/mode.in" := by decide +kernel
  obtain ⟨hsecond, -, halike⟩ := commute _ _ hapart
  exact ⟨hmode, hdifferent, (again _ _ hmode hdifferent).2, hapart, hsecond.trans hpercent, halike,
    hcovers, above _ _ (by decide +kernel) hcovers⟩

end BuildHeader.Template
