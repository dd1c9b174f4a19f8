import BuildHeader.Proofs.CommandLine.Switches
import Mathlib.Data.List.Forall2

set_option autoImplicit false

namespace BuildHeader.CommandLine

def Scope.settings (scope : Scope) : List Flag :=
  scope.flags.filter fun flag => flag ≠ .help && flag ≠ .toolVersion

/-- A word that writes an option: in long form, with the value attached if there is one. -/
inductive Spelled : Given → String → Prop where
  | valued {flag : Flag} (takes : flag.takesValue = true) (value : String) :
      Spelled ⟨flag, value⟩ ("--" ++ flag.long ++ "=" ++ value)
  | switch {flag : Flag} (takes : flag.takesValue = false) : Spelled ⟨flag, ""⟩ ("--" ++ flag.long)
  | short : Spelled ⟨.verbose, ""⟩ "-v"

def Once (given : List Given) : Prop :=
  ∀ flag : Flag, flag.isRepeatable = false → (valuesOf given flag).length ≤ 1

/-- Options that are all taken, one after the other. -/
structure Acceptable (given : List Given) : Prop where
  once : Once given
  checked : ∀ g ∈ given, checkValue g.flag g.value = .ok ()

theorem valuesOf_append (first second : List Given) (flag : Flag) :
    valuesOf (first ++ second) flag = valuesOf first flag ++ valuesOf second flag := by
  simp [valuesOf]

theorem mem_valuesOf {given : List Given} {flag : Flag} {value : String} :
    value ∈ valuesOf given flag ↔ (⟨flag, value⟩ : Given) ∈ given := by
  simp only [valuesOf, List.mem_map, List.mem_filter, decide_eq_true_eq]
  constructor
  · rintro ⟨g, ⟨hg, rfl⟩, rfl⟩
    exact hg
  · exact fun h => ⟨_, ⟨h, rfl⟩, rfl⟩

theorem valueOf?_eq_head? (given : List Given) (flag : Flag) :
    valueOf? given flag = (valuesOf given flag).head? := by
  rw [valueOf?, valuesOf, List.head?_map, List.head?_filter]

theorem isGiven_eq_false_iff {p : Progress} {flag : Flag} :
    p.isGiven flag = false ↔ valuesOf p.given flag = [] := by
  simp [Progress.isGiven, valuesOf]

theorem eq_singleton_of_mem {values : List String} (hlength : values.length ≤ 1) {value : String}
    (h : value ∈ values) : values = [value] := by
  match values, hlength with
  | [other], _ => rw [List.mem_singleton.1 h]

theorem Acceptable.sublist {given part : List Given} (h : Acceptable given)
    (hpart : part.Sublist given) : Acceptable part where
  once := by
    intro flag hflag
    have hvalues : (valuesOf part flag).Sublist (valuesOf given flag) := (hpart.filter _).map _
    exact Nat.le_trans hvalues.length_le (h.once flag hflag)
  checked := fun g hg => h.checked g (hpart.subset hg)

section Words

variable {g : Given} {word : String}

theorem takeWhile_name {name : String} (h : '=' ∉ name.toList) (rest : List Char) :
    (name.toList ++ rest).takeWhile (· != '=') = name.toList ++ rest.takeWhile (· != '=') :=
  List.takeWhile_append_of_pos fun _ hc => bne_iff_ne.2 fun same => h (same ▸ hc)

theorem splitLong_valued {name : String} (h : '=' ∉ name.toList) (value : String) :
    splitLong (name.toList ++ '=' :: value.toList) = (name, some value) := by
  have hname : (name.toList ++ '=' :: value.toList).takeWhile (· != '=') = name.toList := by
    rw [takeWhile_name h]
    simp
  simp [splitLong, hname]

theorem splitLong_name {name : String} (h : '=' ∉ name.toList) :
    splitLong name.toList = (name, none) := by
  have hname : name.toList.takeWhile (· != '=') = name.toList := by
    simpa using takeWhile_name h []
  simp [splitLong, hname]

theorem not_mem_long (flag : Flag) : '=' ∉ flag.long.toList := by
  cases flag <;> decide

theorem long?_of_mem_settings {scope : Scope} {flag : Flag} (h : flag ∈ scope.settings) :
    scope.long? flag.long = some flag := by
  have hall : ∀ flag ∈ scope.settings, scope.long? flag.long = some flag := by
    cases scope with
    | top => decide +kernel
    | under command => cases command <;> decide +kernel
  exact hall flag h

theorem takeSwitch_eq {flag : Flag} (hhelp : flag ≠ .help) (htool : flag ≠ .toolVersion)
    (p : Progress) (scope : Scope) :
    p.takeSwitch scope flag = p.settle.bind (·.accept flag "") := by
  cases flag with
  | help => exact absurd rfl hhelp
  | toolVersion => exact absurd rfl htool
  | _ => rfl

theorem toList_valued (flag : Flag) (value : String) :
    ("--" ++ flag.long ++ "=" ++ value).toList =
      '-' :: '-' :: (flag.long.toList ++ '=' :: value.toList) := by
  simp

/-- What was held back is settled, and then the word is exactly its option. -/
theorem readWord_of_spelled (h : Spelled g word) {scope : Scope} (hflag : g.flag ∈ scope.settings)
    (p : Progress) : readWord scope p word = p.settle.bind (·.accept g.flag g.value) := by
  obtain ⟨-, hplain⟩ := List.mem_filter.1 hflag
  have hne : g.flag ≠ .help ∧ g.flag ≠ .toolVersion := by simpa using hplain
  cases h with
  | @valued flag takes value =>
    have hlong : scope.long? flag.long = some flag := long?_of_mem_settings hflag
    simp only [readWord, toList_valued, readLong, splitLong_valued (not_mem_long flag), hlong,
      takes, if_true]
    rfl
  | @switch flag takes =>
    have hlong : scope.long? flag.long = some flag := long?_of_mem_settings hflag
    have hword : ("--" ++ flag.long).toList = '-' :: '-' :: flag.long.toList := by simp
    simp only [readWord, hword, readLong, splitLong_name (not_mem_long flag), hlong, takes,
      Option.isSome_none, Bool.false_eq_true, if_false]
    exact takeSwitch_eq hne.1 hne.2 p scope
  | short =>
    have hswitch : logSwitch? "-v" = some .verbose := by decide
    exact (readWord_of_logSwitch hswitch scope p).2

theorem head?_of_spelled (h : Spelled g word) : word.toList.head? = some '-' := by
  cases h with
  | valued takes value => rw [toList_valued]; rfl
  | switch takes => simp
  | short => decide

theorem ne_endOfOptions_of_spelled (h : Spelled g word) : word ≠ endOfOptions := by
  have hlong : ∀ flag : Flag, flag.long.toList ≠ [] := by
    intro flag
    cases flag <;> decide
  intro hword
  have hend : word.toList = ['-', '-'] := by
    rw [hword]
    decide
  cases h with
  | valued takes value => simp at hend
  | @switch flag takes => exact hlong flag (by simpa using hend)
  | short => exact absurd hend (by decide)

theorem ne_of_spelled (h : Spelled g word) {other : String}
    (hother : other.toList.head? ≠ some '-') : word ≠ other :=
  fun same => hother (same ▸ head?_of_spelled h)

theorem command?_of_spelled (h : Spelled g word) : command? word = none := by
  have hcommand : ∀ command : Command, word ≠ command.name := fun command =>
    ne_of_spelled h (by cases command <;> decide)
  simp [command?, hcommand]

end Words

section Levels

variable {given : List Given} {words : List String}

theorem settle_of_held {p : Progress} (h : p.held = none) : p.settle = .ok p := by
  simp [Progress.settle, h]

theorem accept_of_acceptable {p : Progress} {g : Given} {rest : List Given}
    (h : Acceptable (p.given ++ g :: rest)) :
    p.accept g.flag g.value = .ok { p with given := p.given ++ [g] } := by
  have hnew : (!g.flag.isRepeatable && p.isGiven g.flag) = false := by
    cases hr : g.flag.isRepeatable with
    | true => rfl
    | false =>
      have hlength := h.once g.flag hr
      have hmem : g.value ∈ valuesOf (g :: rest) g.flag := mem_valuesOf.2 List.mem_cons_self
      have hpos := List.length_pos_of_mem hmem
      rw [valuesOf_append, List.length_append] at hlength
      have hnone : valuesOf p.given g.flag = [] := List.eq_nil_of_length_eq_zero (by omega)
      simp [isGiven_eq_false_iff.2 hnone]
  have hcheck : checkValue g.flag g.value = .ok () :=
    h.checked g (List.mem_append_right _ List.mem_cons_self)
  simp only [Progress.accept, hnew, hcheck, Bool.false_eq_true, if_false]
  rfl

theorem readWord_of_acceptable {p : Progress} {g : Given} {word : String} {rest : List Given}
    (hword : Spelled g word) {scope : Scope} (hflag : g.flag ∈ scope.settings)
    (hheld : p.held = none) (h : Acceptable (p.given ++ g :: rest)) :
    readWord scope p word = .ok { p with given := p.given ++ [g] } := by
  rw [readWord_of_spelled hword hflag, settle_of_held hheld]
  exact accept_of_acceptable h

theorem readUnder_of_spelled (hwords : List.Forall₂ Spelled given words) {command : Command}
    (hflags : ∀ g ∈ given, g.flag ∈ (Scope.under command).settings) {p : Progress}
    (hheld : p.held = none) (h : Acceptable (p.given ++ given)) :
    readUnder command p words = .ok { p with given := p.given ++ given } := by
  induction hwords generalizing p with
  | nil =>
    rw [List.append_nil]
    exact settle_of_held hheld
  | @cons g word rest words hword _ ih =>
    obtain ⟨hflag, hrest⟩ := List.forall_mem_cons.1 hflags
    rw [readUnder_cons (ne_endOfOptions_of_spelled hword),
      readWord_of_acceptable hword hflag hheld h]
    have hnext := ih hrest (p := { p with given := p.given ++ [g] }) hheld
      (by rwa [List.append_assoc])
    rwa [List.append_assoc] at hnext

theorem isAwaiting_of_held {p : Progress} (h : p.held = none) : p.isAwaiting = false := by
  simp [Progress.isAwaiting, h]

theorem readTop_cons_of_spelled {p : Progress} (hheld : p.held = none) {g : Given} {word : String}
    (hword : Spelled g word) (rest : List String) :
    readTop p (word :: rest) = (readWord .top p word).bind (readTop · rest) := by
  have hhelp : word ≠ helpWord := ne_of_spelled hword (by decide)
  rw [readTop_cons]
  simp [isAwaiting_of_held hheld, hhelp, command?_of_spelled hword,
    ne_endOfOptions_of_spelled hword]

theorem readTop_of_spelled (hwords : List.Forall₂ Spelled given words)
    (hflags : ∀ g ∈ given, g.flag ∈ Scope.top.settings) {p : Progress} (hheld : p.held = none)
    (h : Acceptable (p.given ++ given)) (rest : List String) :
    readTop p (words ++ rest) = readTop { p with given := p.given ++ given } rest := by
  induction hwords generalizing p with
  | nil => rw [List.append_nil, List.nil_append]
  | @cons g word rest' words hword _ ih =>
    obtain ⟨hflag, hrest⟩ := List.forall_mem_cons.1 hflags
    rw [List.cons_append, readTop_cons_of_spelled hheld hword,
      readWord_of_acceptable hword hflag hheld h]
    have hnext := ih hrest (p := { p with given := p.given ++ [g] }) hheld
      (by rwa [List.append_assoc])
    rwa [List.append_assoc] at hnext

theorem readTop_command {p : Progress} (hheld : p.held = none) (command : Command)
    (rest : List String) :
    readTop p (command.name :: rest) =
      (readUnder command {} rest).map fun under => arguments command p.given under.given := by
  have hname : command.name ≠ helpWord ∧ command? command.name = some command := by
    cases command <;> decide
  rw [readTop_cons]
  simp only [isAwaiting_of_held hheld, hname, settle_of_held hheld, decide_false, Bool.and_false,
    Bool.false_eq_true, if_false]
  cases readUnder command {} rest <;> rfl

theorem parse_of_spelled {top under : List Given} {before after : List String} {command : Command}
    (hbefore : List.Forall₂ Spelled top before) (hafter : List.Forall₂ Spelled under after)
    (htop : ∀ g ∈ top, g.flag ∈ Scope.top.settings)
    (hunder : ∀ g ∈ under, g.flag ∈ (Scope.under command).settings)
    (hfirst : Acceptable top) (hsecond : Acceptable under) :
    parse (before ++ command.name :: after) = .ok (arguments command top under) := by
  have hread : readTop {} (before ++ command.name :: after) =
      readTop { given := top } (command.name :: after) :=
    readTop_of_spelled hbefore htop (p := {}) rfl hfirst _
  have hrest : readUnder command {} after = .ok { given := under } :=
    readUnder_of_spelled hafter hunder (p := {}) rfl hsecond
  rw [parse, hread, readTop_command rfl, hrest]
  rfl

end Levels

structure Grows (p q : Progress) : Prop where
  mem : ∀ g ∈ p.given, g ∈ q.given
  once : Once p.given → Once q.given

namespace Grows

variable {p q : Progress}

theorem refl (p : Progress) : Grows p p := ⟨fun _ h => h, id⟩

theorem trans {r : Progress} (first : Grows p q) (second : Grows q r) : Grows p r where
  mem := fun g h => second.mem g (first.mem g h)
  once := second.once ∘ first.once

theorem of_accept {flag : Flag} {value : String} (h : p.accept flag value = .ok q) :
    Grows p q := by
  have hnew : ¬(!flag.isRepeatable && p.isGiven flag) = true := by
    intro hgiven
    rw [Progress.accept, if_pos hgiven] at h
    cases h
  obtain rfl := eq_of_accept h
  refine ⟨fun g hg => List.mem_append_left _ hg, fun honce other hother => ?_⟩
  have hvalues : valuesOf [⟨flag, value⟩] other = if flag = other then [value] else [] := by
    by_cases hsame : flag = other <;> simp [valuesOf, hsame]
  rw [valuesOf_append, hvalues, List.length_append]
  by_cases hsame : flag = other
  · subst hsame
    have hnone : valuesOf p.given flag = [] := isGiven_eq_false_iff.1 (by simpa [hother] using hnew)
    simp [hnone]
  · simpa [hsame] using honce other hother

theorem of_settle (h : p.settle = .ok q) : Grows p q := by
  unfold Progress.settle at h
  split at h
  · obtain rfl := Except.ok.inj h
    exact refl p
  · cases h
  · have hgrows := of_accept h
    exact ⟨hgrows.mem, hgrows.once⟩

theorem of_takeSwitch {scope : Scope} {flag : Flag} (h : p.takeSwitch scope flag = .ok q) :
    Grows p q := by
  obtain ⟨p', hsettle, htake⟩ := Except.bind_eq_ok_iff.1 h
  have haccept : p'.accept flag "" = .ok q := by
    cases flag with
    | help => cases htake
    | toolVersion => cases htake
    | _ => exact htake
  exact (of_settle hsettle).trans (of_accept haccept)

theorem of_takeValued {flag : Flag} {attached : Option String}
    (h : p.takeValued flag attached = .ok q) : Grows p q := by
  obtain ⟨p', hsettle, htake⟩ := Except.bind_eq_ok_iff.1 h
  cases attached with
  | some value => exact (of_settle hsettle).trans (of_accept htake)
  | none =>
    obtain rfl := Except.ok.inj htake
    exact (of_settle hsettle).trans ⟨fun _ hg => hg, id⟩

theorem of_readLong {scope : Scope} {chars : List Char} (h : readLong scope p chars = .ok q) :
    Grows p q := by
  simp only [readLong] at h
  split at h
  · cases h
  · split at h
    · exact of_takeValued h
    · split at h
      · cases h
      · exact of_takeSwitch h

theorem of_readShort {scope : Scope} {letters : List Char}
    (h : readShort scope p letters = .ok q) : Grows p q := by
  induction letters generalizing p with
  | nil =>
    obtain rfl := Except.ok.inj h
    exact refl p
  | cons letter rest ih =>
    simp only [readShort] at h
    split at h
    · cases h
    · split at h
      · exact of_takeValued h
      · split at h
        · cases h
        · exact (of_takeSwitch ‹_›).trans (ih h)

theorem of_readWord {scope : Scope} {word : String} (h : readWord scope p word = .ok q) :
    Grows p q := by
  unfold readWord at h
  split at h
  · exact of_readLong h
  · exact of_readShort h
  · split at h
    · obtain rfl := Except.ok.inj h
      exact ⟨fun _ hg => hg, id⟩
    · cases h

end Grows

theorem eq_nil_of_readTrailing {scope : Scope} {words : List String}
    (h : readTrailing scope words = .ok ()) : words = [] := by
  cases words with
  | nil => rfl
  | cons word rest =>
    simp only [readTrailing] at h
    split at h <;> cases h

theorem grows_of_readUnder {command : Command} {p q : Progress} {words : List String}
    (h : readUnder command p words = .ok q) : Grows p q := by
  induction words generalizing p with
  | nil => exact .of_settle h
  | cons word rest ih =>
    by_cases hend : word = endOfOptions
    · rw [readUnder, if_pos hend] at h
      obtain ⟨-, -, hsettle⟩ := Except.bind_eq_ok_iff.1 h
      exact .of_settle hsettle
    · rw [readUnder_cons hend] at h
      obtain ⟨p', hword, hrest⟩ := Except.bind_eq_ok_iff.1 h
      exact (Grows.of_readWord hword).trans (ih hrest)

theorem mem_given_of_readUnder {command : Command} {p q : Progress} {words : List String}
    (h : readUnder command p words = .ok q) {g : Given} {word : String} (hword : Spelled g word)
    (hflag : g.flag ∈ (Scope.under command).settings) (hmem : word ∈ words) : g ∈ q.given := by
  induction words generalizing p with
  | nil => cases hmem
  | cons first rest ih =>
    by_cases hend : first = endOfOptions
    · rw [readUnder, if_pos hend] at h
      obtain ⟨⟨⟩, htrailing, -⟩ := Except.bind_eq_ok_iff.1 h
      obtain rfl := eq_nil_of_readTrailing htrailing
      exact absurd ((List.mem_singleton.1 hmem).trans hend) (ne_endOfOptions_of_spelled hword)
    · rw [readUnder_cons hend] at h
      obtain ⟨p', hfirst, hrest⟩ := Except.bind_eq_ok_iff.1 h
      rcases List.mem_cons.1 hmem with rfl | hlater
      · rw [readWord_of_spelled hword hflag] at hfirst
        obtain ⟨settled, -, haccept⟩ := Except.bind_eq_ok_iff.1 hfirst
        obtain rfl := eq_of_accept haccept
        exact (grows_of_readUnder hrest).mem g (by simp)
      · exact ih hrest hlater

theorem eq_name_of_command? {word : String} {command : Command}
    (h : command? word = some command) : word = command.name := by
  unfold command? at h
  split at h
  · rename_i hword
    exact Option.some.inj h ▸ hword
  · split at h
    · rename_i hword
      exact Option.some.inj h ▸ hword
    · cases h

theorem exists_command_of_readTop {p : Progress} {words : List String} {a : Arguments}
    (h : readTop p words = .ok a) :
    ∃ before command after, words = before ++ Command.name command :: after ∧
      (∀ word ∈ before, ∃ q q', readWord .top q word = .ok q') ∧
      ∃ top under, readUnder command {} after = .ok under ∧
        a = arguments command top under.given := by
  induction words generalizing p with
  | nil =>
    simp only [readTop, withoutCommand] at h
    split at h <;> cases h
  | cons word rest ih =>
    rw [readTop_cons] at h
    split at h
    · cases h
    · split at h
      · rename_i command hcommand
        obtain ⟨under, hunder, hrest⟩ := Except.bind_eq_ok_iff.1 h
        obtain ⟨top, -, heq⟩ := Except.bind_eq_ok_iff.1 hrest
        have hname : word = command.name := by
          split at hcommand
          · cases hcommand
          · exact eq_name_of_command? hcommand
        exact ⟨[], command, rest, by rw [hname]; rfl, by simp, top.given, under, hunder,
          (Except.ok.inj heq).symm⟩
      · split at h
        · obtain ⟨-, -, hend⟩ := Except.bind_eq_ok_iff.1 h
          simp only [withoutCommand] at hend
          split at hend <;> cases hend
        · obtain ⟨q, hword, hrest⟩ := Except.bind_eq_ok_iff.1 h
          obtain ⟨before, command, after, rfl, hbefore, hresult⟩ := ih hrest
          exact ⟨word :: before, command, after, rfl,
            List.forall_mem_cons.2 ⟨⟨p, q, hword⟩, hbefore⟩, hresult⟩

end BuildHeader.CommandLine
