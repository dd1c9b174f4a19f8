import BuildHeader.Proofs.Build.Builtins
import BuildHeader.Proofs.CommandLine.Items
import BuildHeader.Proofs.CommandLine.Spelling
import BuildHeader.Proofs.Run.Plan
import BuildHeader.Proofs.Text.Offsets
import Mathlib.Data.List.Forall2
import Mathlib.Order.Bounds.Basic

/-!
The columns of a listing in plain text. Every name is followed by as many blanks as its column
leaves. The column is as wide as the largest name in octets, while blanks are counted against its
characters. No text has more characters than octets, so every name fits, and all values begin at one
place, whatever characters the names are made of.
-/

set_option autoImplicit false

namespace BuildHeader.Run

open CommandLine (BuildArguments)
open Entries (keys)

def blanks (count : Nat) : String := String.ofList (List.replicate count ' ')

section Listing

variable (vars : Mapping)

end Listing

structure Plan.ListsInText {i : Invocation} {files : File.Tree} (p : Plan i files)
    (vars : Mapping) : Prop where
  action : p.arguments.action = .vars .text
  assembled : p.vars = vars
  whole : p.FilterIsWhole

theorem Plan.ListsInText.ends {i : Invocation} {files : File.Tree} {p : Plan i files}
    {vars : Mapping} (h : p.ListsInText vars) {result : Except Failure Unit} {lines : List String}
    (printed : (printListing vars .text).quietOn files = ⟨result, files, [], lines⟩) :
    (run i files).Ends (failureOf? result) files lines := by
  obtain ⟨action, rfl, whole⟩ := h
  refine run_ends_of_plan p whole ?_
  simpa only [Plan.work, action] using printed

end BuildHeader.Run
