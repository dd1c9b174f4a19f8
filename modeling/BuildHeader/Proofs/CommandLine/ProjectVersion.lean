import BuildHeader.Proofs.CommandLine.Spelling

/-!
The option with two meanings. Before the command it asks for the version of the tool, and behind it
it is the version of the project: no word behind a command is answered with the tool's version, and
a line that is read takes every version with its value attached as the one of the project.
-/

set_option autoImplicit false

namespace BuildHeader.CommandLine

variable {p : Progress}

theorem ne_toolVersion_of_complaint {e : UsageError} (h : e.complaint?.isSome) :
    e ≠ .toolVersion := by
  rintro rfl
  cases h

theorem accept_ne_toolVersion (p : Progress) (flag : Flag) (value : String) :
    p.accept flag value ≠ .error .toolVersion := fun h =>
  ne_toolVersion_of_complaint (isSome_complaint?_of_accept h) rfl

theorem settle_ne_toolVersion (p : Progress) : p.settle ≠ .error .toolVersion := fun h =>
  ne_toolVersion_of_complaint (isSome_complaint?_of_settle h) rfl

theorem takeValued_ne_toolVersion (p : Progress) (flag : Flag) (attached : Option String) :
    p.takeValued flag attached ≠ .error .toolVersion := by
  intro h
  rcases Except.bind_eq_error_iff.1 h with hsettle | ⟨p', -, htake⟩
  · exact settle_ne_toolVersion p hsettle
  · cases attached with
    | none => cases htake
    | some value => exact accept_ne_toolVersion p' flag value htake

theorem takeSwitch_ne_toolVersion {flag : Flag} (hflag : flag ≠ .toolVersion) (p : Progress)
    (scope : Scope) :
    p.takeSwitch scope flag ≠ .error .toolVersion := by
  intro h
  rcases Except.bind_eq_error_iff.1 h with hsettle | ⟨p', -, htake⟩
  · exact settle_ne_toolVersion p hsettle
  · cases flag with
    | help => cases htake
    | toolVersion => exact hflag rfl
    | _ => exact accept_ne_toolVersion p' _ "" htake

theorem ne_toolVersion_of_mem {command : Command} {flag : Flag}
    (h : flag ∈ (Scope.under command).flags) : flag ≠ .toolVersion := by
  rintro rfl
  cases command <;> exact absurd h (by decide)

theorem readLong_ne_toolVersion (command : Command) (p : Progress) (chars : List Char) :
    readLong (.under command) p chars ≠ .error .toolVersion := by
  simp only [readLong]
  cases hflag : (Scope.under command).long? (splitLong chars).1 with
  | none => simp
  | some flag =>
    have hne := ne_toolVersion_of_mem (List.mem_of_find?_eq_some hflag)
    simp only []
    split
    · exact takeValued_ne_toolVersion p flag _
    · split
      · simp
      · exact takeSwitch_ne_toolVersion hne p _

theorem readShort_ne_toolVersion (command : Command) (p : Progress) (letters : List Char) :
    readShort (.under command) p letters ≠ .error .toolVersion := by
  induction letters generalizing p with
  | nil => simp [readShort]
  | cons letter rest ih =>
    cases hflag : (Scope.under command).short? letter with
    | none => simp [readShort, hflag]
    | some flag =>
      have hne := ne_toolVersion_of_mem (List.mem_of_find?_eq_some hflag)
      cases hvalue : flag.takesValue with
      | true =>
        simp only [readShort, hflag, hvalue, if_true]
        exact takeValued_ne_toolVersion p flag _
      | false =>
        rw [readShort_cons hflag hvalue]
        intro h
        rcases Except.bind_eq_error_iff.1 h with htake | ⟨p', -, hrest⟩
        · exact takeSwitch_ne_toolVersion hne p _ htake
        · exact ih p' hrest

theorem readWord_ne_toolVersion (command : Command) (p : Progress) (word : String) :
    readWord (.under command) p word ≠ .error .toolVersion := by
  unfold readWord
  split
  · exact readLong_ne_toolVersion command p _
  · exact readShort_ne_toolVersion command p _
  · split <;> simp

theorem readUnder_ne_toolVersion (command : Command) (p : Progress) (words : List String) :
    readUnder command p words ≠ .error .toolVersion := by
  induction words generalizing p with
  | nil => exact settle_ne_toolVersion p
  | cons word rest ih =>
    by_cases hend : word = endOfOptions
    · rw [readUnder, if_pos hend]
      intro h
      rcases Except.bind_eq_error_iff.1 h with htrailing | ⟨-, -, hsettle⟩
      · cases rest with
        | nil => cases htrailing
        | cons next _ => simp [readTrailing] at htrailing
      · exact settle_ne_toolVersion p hsettle
    · rw [readUnder_cons hend]
      intro h
      rcases Except.bind_eq_error_iff.1 h with hword | ⟨p', -, hrest⟩
      · exact readWord_ne_toolVersion command p word hword
      · exact ih p' hrest

theorem readTop_ne_toolVersion {top : List Given} {before : List String}
    (hbefore : List.Forall₂ Spelled top before) (htop : ∀ g ∈ top, g.flag ∈ Scope.top.settings)
    (hheld : p.held = none) (command : Command) (rest : List String) :
    readTop p (before ++ command.name :: rest) ≠ .error .toolVersion := by
  induction hbefore generalizing p with
  | nil =>
    rw [List.nil_append, readTop_command hheld]
    exact fun h => readUnder_ne_toolVersion command {} rest (Except.map_eq_error_iff.1 h)
  | @cons g word _ _ hword _ ih =>
    obtain ⟨hflag, hrest⟩ := List.forall_mem_cons.1 htop
    rw [List.cons_append, readTop_cons_of_spelled hheld hword, readWord_of_spelled hword hflag,
      settle_of_held hheld]
    intro h
    rcases Except.bind_eq_error_iff.1 h with haccept | ⟨q, haccept, hnext⟩
    · exact accept_ne_toolVersion p g.flag g.value haccept
    · obtain rfl := eq_of_accept haccept
      exact ih hrest (p := { p with given := p.given ++ [g] }) hheld hnext

/-- A version that is attached is no question at the level of the tool. -/
theorem readWord_top_version (p : Progress) (version : String) :
    readWord .top p ("--version=" ++ version) = .error .unexpectedValue := by
  have hword : ("--version=" ++ version).toList =
      '-' :: '-' :: ("version".toList ++ '=' :: version.toList) := by simp
  have hlong : Scope.top.long? "version" = some .toolVersion := by decide
  have hname : '=' ∉ "version".toList := by decide
  simp only [readWord, hword, readLong, splitLong_valued hname, hlong]
  rfl

theorem version_eq_of_parse {words : List String} {a : Arguments} (h : parse words = .ok a)
    {version : String} (hmem : "--version=" ++ version ∈ words) : a.build.version = version := by
  obtain ⟨before, command, after, rfl, hbefore, top, under, hunder, rfl⟩ :=
    exists_command_of_readTop h
  have hword : Spelled ⟨.version, version⟩ ("--version=" ++ version) := .valued rfl version
  have hafter : "--version=" ++ version ∈ after := by
    rcases List.mem_append.1 hmem with hin | hin
    · obtain ⟨q, q', hread⟩ := hbefore _ hin
      rw [readWord_top_version] at hread
      cases hread
    · refine (List.mem_cons.1 hin).resolve_left ?_
      exact ne_of_spelled hword (by cases command <;> decide)
  have hflag : Flag.version ∈ (Scope.under command).settings := by cases command <;> decide
  have hgiven := mem_given_of_readUnder hunder hword hflag hafter
  have honce : (valuesOf under.given .version).length ≤ 1 :=
    (grows_of_readUnder hunder).once (fun _ _ => Nat.zero_le 1) .version rfl
  have hvalues := eq_singleton_of_mem honce (mem_valuesOf.2 hgiven)
  simp [arguments, buildArguments, valueOf?_eq_head?, hvalues]

end BuildHeader.CommandLine
