import BuildHeader.CommandLine.Parse
import BuildHeader.Proofs.Script

/-!
The switches that choose how a run is logged. A command line is read as it would be read without
them, unless they are what it is refused for: the line without them is simulated word by word, at
times one option behind, since a switch settles the option before it at once.
-/

set_option autoImplicit false

namespace BuildHeader.CommandLine

/-- The second reading agrees with the first one, unless that ends in a complaint. -/
def Follows {α β : Type} (R : α → β → Prop) :
    Except UsageError α → Except UsageError β → Prop
  | .ok a, y => ∃ b, y = .ok b ∧ R a b
  | .error e, y => e.complaint? = none → y = .error e

namespace Follows

variable {α β α' β' : Type} {R : α → β → Prop} {S : α' → β' → Prop}

theorem mono {R' : α → β → Prop} (h : ∀ a b, R a b → R' a b) {x : Except UsageError α}
    {y : Except UsageError β} (hf : Follows R x y) : Follows R' x y := by
  cases x with
  | error e => exact hf
  | ok a =>
    obtain ⟨b, rfl, hr⟩ := hf
    exact ⟨b, rfl, h a b hr⟩

theorem bind {x : Except UsageError α} {y : Except UsageError β} {f : α → Except UsageError α'}
    {g : β → Except UsageError β'} (h : Follows R x y)
    (hnext : ∀ a b, R a b → Follows S (f a) (g b)) : Follows S (x.bind f) (y.bind g) := by
  cases x with
  | error e =>
    intro hc
    rw [h hc]
    rfl
  | ok a =>
    obtain ⟨b, rfl, hr⟩ := h
    exact hnext a b hr

theorem of_complaint {e : UsageError} (h : e.complaint?.isSome) (y : Except UsageError β) :
    Follows R (.error e) y := by
  intro hnone
  simp [hnone] at h

theorem error (e : UsageError) : Follows R (.error e) (.error e) := fun _ => rfl

end Follows

def logFlags : List Flag := [.verbose, .noColor]

def logSwitch? (word : String) : Option Flag :=
  if word = "-v" ∨ word = "--verbose" then some .verbose
  else if word = "--no-color" then some .noColor
  else none

/-- The command line without those switches. -/
def withoutSwitches (words : List String) : List String :=
  words.filter fun word => (logSwitch? word).isNone

def Arguments.unlogged (a : Arguments) : Arguments := { a with verbose := false, noColor := false }

def SameUnlogged (a a' : Arguments) : Prop := a.unlogged = a'.unlogged

def unloggedOf (given : List Given) : List Given := given.filter fun g => !logFlags.contains g.flag

/-- The first options are the second ones with more switches among them. -/
structure Extends (given less : List Given) : Prop where
  mem : ∀ g ∈ less, g ∈ given
  unlogged : unloggedOf given = unloggedOf less

theorem Extends.refl (given : List Given) : Extends given given := ⟨fun _ h => h, rfl⟩

theorem Extends.append {given less : List Given} (h : Extends given less) (g : Given) :
    Extends (given ++ [g]) (less ++ [g]) where
  mem := by
    intro old hold
    rcases List.mem_append.1 hold with hm | hm
    · exact List.mem_append_left _ (h.mem old hm)
    · exact List.mem_append_right _ hm
  unlogged := by
    simp only [unloggedOf, List.filter_append]
    exact congrArg (· ++ _) h.unlogged

theorem Extends.append_switch {given less : List Given} (h : Extends given less) {flag : Flag}
    (hflag : flag ∈ logFlags) (value : String) : Extends (given ++ [⟨flag, value⟩]) less where
  mem := fun g hm => List.mem_append_left _ (h.mem g hm)
  unlogged := by
    have hgone : unloggedOf [⟨flag, value⟩] = [] := by simp [unloggedOf, hflag]
    rw [← h.unlogged, unloggedOf, List.filter_append]
    exact (congrArg (unloggedOf given ++ ·) hgone).trans (List.append_nil _)

theorem valueOf?_eq_of_extends {given less : List Given} (h : Extends given less) {flag : Flag}
    (hflag : flag ∉ logFlags) : valueOf? given flag = valueOf? less flag := by
  have hfind : ∀ l : List Given, l.find? (fun g => g.flag = flag) =
      (unloggedOf l).find? fun g => g.flag = flag := by
    intro l
    rw [unloggedOf, List.find?_filter]
    congr 1
    funext g
    by_cases hg : g.flag = flag <;> simp [hg, hflag]
  rw [valueOf?, valueOf?, hfind given, hfind less, h.unlogged]

theorem valuesOf_eq_of_extends {given less : List Given} (h : Extends given less) {flag : Flag}
    (hflag : flag ∉ logFlags) : valuesOf given flag = valuesOf less flag := by
  have hfilter : ∀ l : List Given, l.filter (fun g => g.flag = flag) =
      (unloggedOf l).filter fun g => g.flag = flag := by
    intro l
    rw [unloggedOf, List.filter_filter]
    congr 1
    funext g
    by_cases hg : g.flag = flag <;> simp [hg, hflag]
  rw [valuesOf, valuesOf, hfilter given, hfilter less, h.unlogged]

theorem arguments_unlogged_eq (command : Command) {top top' under under' : List Given}
    (htop : Extends top top') (hunder : Extends under under') :
    (arguments command top under).unlogged = (arguments command top' under').unlogged := by
  have haction : action command under = action command under' := by
    cases command <;> simp [action, valueOf?_eq_of_extends hunder, logFlags]
  have hbuild : buildArguments under = buildArguments under' := by
    simp [buildArguments, valueOf?_eq_of_extends hunder, valuesOf_eq_of_extends hunder, logFlags]
  simp [arguments, Arguments.unlogged, haction, hbuild, valueOf?_eq_of_extends htop,
    valueOf?_eq_of_extends hunder, logFlags]

structure Settled (p q : Progress) : Prop where
  first : p.held = none
  second : q.held = none
  more : Extends p.given q.given

/-- The readings hold the same option, or only the second one has still to settle what it holds. -/
inductive Ahead (p q : Progress) : Prop where
  | level (held : p.held = q.held) (more : Extends p.given q.given)
  | behind {q' : Progress} (settles : q.settle = .ok q') (settled : Settled p q')

theorem Settled.ahead {p q : Progress} (h : Settled p q) : Ahead p q :=
  .level (h.first.trans h.second.symm) h.more

theorem isGiven_of_extends {p q : Progress} (h : Extends p.given q.given) {flag : Flag}
    (hp : p.isGiven flag = false) : q.isGiven flag = false := by
  simp only [Progress.isGiven, List.any_eq_false] at hp ⊢
  exact fun g hm => hp g (h.mem g hm)

section Complaints

variable {p : Progress} {flag : Flag} {value : String} {e : UsageError}

theorem isSome_complaint?_of_ite {c : Prop} [Decidable c] {bad : UsageError}
    (hbad : bad.complaint?.isSome)
    (h : (if c then (.error bad : Except UsageError Unit) else .ok ()) = .error e) :
    e.complaint?.isSome := by
  by_cases hc : c
  · rw [if_pos hc] at h
    exact Except.error.inj h ▸ hbad
  · rw [if_neg hc] at h
    cases h

theorem isSome_complaint?_of_checkValue (h : checkValue flag value = .error e) :
    e.complaint?.isSome := by
  cases flag with
  | config | sourceDir | destDir | format =>
    exact isSome_complaint?_of_ite rfl h
  | debug =>
    cases hd : debugFlag value with
    | ok _ => simp [checkValue, hd] at h
    | error fault =>
      obtain rfl : UsageError.invalidDebugFlag fault = e := by simpa [checkValue, hd] using h
      rfl
  | _ => cases h

theorem isSome_complaint?_of_accept (h : p.accept flag value = .error e) :
    e.complaint?.isSome := by
  unfold Progress.accept at h
  split at h
  · cases h
    rfl
  · exact isSome_complaint?_of_checkValue (Except.map_eq_error_iff.1 h)

theorem isSome_complaint?_of_settle (h : p.settle = .error e) : e.complaint?.isSome := by
  unfold Progress.settle at h
  split at h
  · cases h
  · cases h
    rfl
  · exact isSome_complaint?_of_accept h

end Complaints

section Steps

variable {p q : Progress}

theorem eq_of_accept {flag : Flag} {value : String} (h : p.accept flag value = .ok q) :
    { p with given := p.given ++ [⟨flag, value⟩] } = q := by
  unfold Progress.accept at h
  split at h
  · cases h
  · obtain ⟨_, _, heq⟩ := Except.map_eq_ok_iff.1 h
    exact heq

theorem accept_follows (h : Settled p q) (flag : Flag) (value : String) :
    Follows Settled (p.accept flag value) (q.accept flag value) := by
  unfold Progress.accept
  by_cases hp : (!flag.isRepeatable && p.isGiven flag) = true
  · rw [if_pos hp]
    exact .of_complaint rfl _
  · have hq : ¬(!flag.isRepeatable && q.isGiven flag) = true := by
      cases hr : flag.isRepeatable with
      | true => simp
      | false =>
        have hgiven : p.isGiven flag = false := by simpa [hr] using hp
        simp [isGiven_of_extends h.more hgiven]
    rw [if_neg hp, if_neg hq]
    cases checkValue flag value with
    | error e => exact .error e
    | ok _ => exact ⟨_, rfl, h.first, h.second, h.more.append _⟩

theorem settle_follows (h : Ahead p q) : Follows Settled p.settle q.settle := by
  cases h with
  | level held more =>
    unfold Progress.settle
    rw [← held]
    split
    · rename_i hnone
      exact ⟨q, rfl, hnone, held ▸ hnone, more⟩
    · exact .error _
    · have hs : Settled { p with held := none } { q with held := none } := ⟨rfl, rfl, more⟩
      exact accept_follows hs _ _
  | behind settles settled =>
    have hp : p.settle = .ok p := by simp [Progress.settle, settled.first]
    rw [hp]
    exact ⟨_, settles, settled⟩

theorem takeSwitch_follows (h : Ahead p q) (scope : Scope) (flag : Flag) :
    Follows Settled (p.takeSwitch scope flag) (q.takeSwitch scope flag) := by
  refine (settle_follows h).bind fun p q hs => ?_
  cases flag with
  | help => exact .error _
  | toolVersion => exact .error _
  | _ => exact accept_follows hs _ _

theorem takeValued_follows (h : Ahead p q) (flag : Flag) (attached : Option String) :
    Follows Ahead (p.takeValued flag attached) (q.takeValued flag attached) := by
  refine (settle_follows h).bind fun p q hs => ?_
  cases attached with
  | none => exact ⟨_, rfl, .level rfl hs.more⟩
  | some value => exact (accept_follows hs flag value).mono fun _ _ => Settled.ahead

theorem readLong_follows (h : Ahead p q) (scope : Scope) (chars : List Char) :
    Follows Ahead (readLong scope p chars) (readLong scope q chars) := by
  simp only [readLong]
  cases scope.long? (splitLong chars).1 with
  | none => exact .error _
  | some flag =>
    simp only []
    split
    · exact takeValued_follows h flag _
    · split
      · exact .error _
      · exact (takeSwitch_follows h scope flag).mono fun _ _ => Settled.ahead

theorem readShort_cons {scope : Scope} {letter : Char} {flag : Flag}
    (hflag : scope.short? letter = some flag) (hvalue : flag.takesValue = false) (p : Progress)
    (rest : List Char) :
    readShort scope p (letter :: rest) =
      (p.takeSwitch scope flag).bind (readShort scope · rest) := by
  simp only [readShort, hflag, hvalue, Bool.false_eq_true, if_false]
  cases p.takeSwitch scope flag <;> rfl

theorem readShort_follows (h : Ahead p q) (scope : Scope) (letters : List Char) :
    Follows Ahead (readShort scope p letters) (readShort scope q letters) := by
  induction letters generalizing p q with
  | nil => exact ⟨q, rfl, h⟩
  | cons letter rest ih =>
    cases hflag : scope.short? letter with
    | none =>
      simp only [readShort, hflag]
      exact .error _
    | some flag =>
      cases hvalue : flag.takesValue with
      | true =>
        simp only [readShort, hflag, hvalue, if_true]
        exact takeValued_follows h flag _
      | false =>
        rw [readShort_cons hflag hvalue, readShort_cons hflag hvalue]
        exact (takeSwitch_follows h scope flag).bind fun _ _ hs => ih hs.ahead

theorem readWord_follows (h : Ahead p q) (scope : Scope) (word : String) :
    Follows Ahead (readWord scope p word) (readWord scope q word) := by
  unfold readWord
  split
  · exact readLong_follows h scope _
  · exact readShort_follows h scope _
  · cases hp : p.held with
    | none => exact .of_complaint (by split <;> rfl) _
    | some held =>
      obtain ⟨flag, value?⟩ := held
      cases value? with
      | some value => exact .of_complaint (by split <;> rfl) _
      | none =>
        cases h with
        | level same more =>
          rw [← same, hp]
          exact ⟨_, rfl, .level rfl more⟩
        | behind _ settled => simp [settled.first] at hp

theorem long?_of_logFlag (scope : Scope) {flag : Flag} (h : flag ∈ logFlags) :
    scope.long? flag.long = some flag := by
  simp only [logFlags, List.mem_cons, List.not_mem_nil, or_false] at h
  cases scope with
  | top => rcases h with rfl | rfl <;> rfl
  | under command => cases command <;> rcases h with rfl | rfl <;> rfl

theorem short?_verbose (scope : Scope) : scope.short? 'v' = some .verbose := by
  cases scope with
  | top => rfl
  | under command => cases command <;> rfl

theorem readLong_logFlag (scope : Scope) (p : Progress) {flag : Flag} (h : flag ∈ logFlags) :
    readLong scope p flag.long.toList = p.takeSwitch scope flag := by
  have hsplit : splitLong flag.long.toList = (flag.long, none) ∧ flag.takesValue = false := by
    simp only [logFlags, List.mem_cons, List.not_mem_nil, or_false] at h
    rcases h with rfl | rfl <;> decide
  simp [readLong, hsplit, long?_of_logFlag scope h]

theorem readShort_verbose (scope : Scope) (p : Progress) :
    readShort scope p ['v'] = p.takeSwitch scope .verbose := by
  rw [readShort_cons (short?_verbose scope) rfl]
  cases p.takeSwitch scope .verbose <;> rfl

theorem readWord_of_logSwitch {word : String} {flag : Flag} (h : logSwitch? word = some flag)
    (scope : Scope) (p : Progress) :
    flag ∈ logFlags ∧ readWord scope p word = p.takeSwitch scope flag := by
  have hlong : ∀ flag ∈ logFlags, word.toList = '-' :: '-' :: flag.long.toList →
      readWord scope p word = p.takeSwitch scope flag := by
    intro flag hflag hword
    simp only [readWord, hword, readLong_logFlag scope p hflag]
  unfold logSwitch? at h
  split at h
  · rename_i hword
    obtain rfl := Option.some.inj h
    refine ⟨by decide, ?_⟩
    rcases hword with rfl | rfl
    · have hshort : "-v".toList = ['-', 'v'] := by decide
      simp [readWord, hshort, readShort_verbose]
    · exact hlong _ (by decide) (by decide)
  · split at h
    · rename_i hword
      obtain rfl := Option.some.inj h
      subst hword
      exact ⟨by decide, hlong _ (by decide) (by decide)⟩
    · cases h

theorem switch_follows (h : Ahead p q) (scope : Scope) {word : String} {flag : Flag}
    (hword : logSwitch? word = some flag) : Follows Ahead (readWord scope p word) (.ok q) := by
  obtain ⟨hflag, hread⟩ := readWord_of_logSwitch hword scope p
  have htake : p.takeSwitch scope flag = p.settle.bind (·.accept flag "") := by
    simp only [logFlags, List.mem_cons, List.not_mem_nil, or_false] at hflag
    rcases hflag with rfl | rfl <;> rfl
  rw [hread, htake]
  have hs := settle_follows h
  cases hp : p.settle with
  | error e => exact .of_complaint (isSome_complaint?_of_settle hp) _
  | ok p' =>
    rw [hp] at hs
    obtain ⟨q', hq, hsettled⟩ := hs
    show Follows Ahead (p'.accept flag "") (.ok q)
    cases ha : p'.accept flag "" with
    | error e => exact .of_complaint (isSome_complaint?_of_accept ha) _
    | ok p'' =>
      obtain rfl := eq_of_accept ha
      exact ⟨q, rfl, .behind hq
        ⟨hsettled.first, hsettled.second, hsettled.more.append_switch hflag ""⟩⟩

end Steps

section Runs

variable {p q : Progress}

theorem withoutSwitches_cons_of_some {word : String} {flag : Flag}
    (h : logSwitch? word = some flag) (rest : List String) :
    withoutSwitches (word :: rest) = withoutSwitches rest := by
  simp [withoutSwitches, h]

theorem withoutSwitches_cons_of_none {word : String} (h : logSwitch? word = none)
    (rest : List String) : withoutSwitches (word :: rest) = word :: withoutSwitches rest := by
  simp [withoutSwitches, h]

theorem plain_of_logSwitch {word : String} {flag : Flag} (h : logSwitch? word = some flag) :
    word ≠ endOfOptions ∧ word ≠ helpWord ∧ command? word = none := by
  unfold logSwitch? at h
  split at h
  · rename_i hword
    rcases hword with rfl | rfl <;> decide
  · split at h
    · rename_i hword
      subst hword
      decide
    · cases h

theorem readTrailing_follows (scope : Scope) (words : List String) :
    Follows Eq (readTrailing scope words) (readTrailing scope (withoutSwitches words)) := by
  cases words with
  | nil => exact ⟨(), rfl, rfl⟩
  | cons word rest =>
    simp only [readTrailing]
    split
    · exact .of_complaint rfl _
    · exact .of_complaint rfl _

theorem readUnder_cons {word : String} (h : word ≠ endOfOptions) (command : Command) (p : Progress)
    (rest : List String) :
    readUnder command p (word :: rest) =
      (readWord (.under command) p word).bind (readUnder command · rest) := by
  rw [readUnder, if_neg h]
  cases readWord (.under command) p word <;> rfl

theorem readUnder_follows (h : Ahead p q) (command : Command) (words : List String) :
    Follows Settled (readUnder command p words) (readUnder command q (withoutSwitches words)) := by
  induction words generalizing p q with
  | nil => exact settle_follows h
  | cons word rest ih =>
    cases hs : logSwitch? word with
    | some flag =>
      rw [withoutSwitches_cons_of_some hs, readUnder_cons (plain_of_logSwitch hs).1]
      exact (switch_follows h _ hs).bind fun _ _ => ih
    | none =>
      rw [withoutSwitches_cons_of_none hs]
      by_cases hend : word = endOfOptions
      · simp only [readUnder, hend, if_true]
        exact (readTrailing_follows _ rest).bind fun _ _ _ => settle_follows h
      · rw [readUnder_cons hend, readUnder_cons hend]
        exact (readWord_follows h _ word).bind fun _ _ => ih

theorem isAwaiting_eq (h : Ahead p q) : p.isAwaiting = q.isAwaiting := by
  cases h with
  | level held => simp only [Progress.isAwaiting, held]
  | behind settles settled =>
    have hp : p.isAwaiting = false := by simp [Progress.isAwaiting, settled.first]
    rw [hp]
    unfold Progress.settle at settles
    split at settles
    · rename_i hnone
      simp [Progress.isAwaiting, hnone]
    · cases settles
    · rename_i hsome
      simp [Progress.isAwaiting, hsome]

theorem readHelp_follows (words : List String) :
    Follows SameUnlogged (.error (readHelp words)) (.error (readHelp (withoutSwitches words))) := by
  cases words with
  | nil => exact .error _
  | cons word rest =>
    cases rest with
    | cons => exact .of_complaint rfl _
    | nil =>
      cases hs : logSwitch? word with
      | none =>
        rw [withoutSwitches_cons_of_none hs]
        exact .error _
      | some flag =>
        have hplain := plain_of_logSwitch hs
        refine .of_complaint ?_ _
        simp [readHelp, topic?, hplain]
        rfl

theorem withoutCommand_follows (h : Ahead p q) :
    Follows SameUnlogged (withoutCommand p) (withoutCommand q) := by
  have hs := settle_follows h
  unfold withoutCommand
  cases hp : p.settle with
  | error e =>
    rw [hp] at hs
    intro hnone
    rw [hs hnone]
  | ok p' => exact .of_complaint (by split <;> rfl) _

theorem readTop_cons (p : Progress) (word : String) (rest : List String) :
    readTop p (word :: rest) =
      if !p.isAwaiting && word = helpWord then .error (readHelp rest)
      else
        match if p.isAwaiting then none else command? word with
        | some command =>
          (readUnder command {} rest).bind fun under =>
            p.settle.bind fun top => .ok (arguments command top.given under.given)
        | none =>
          if word = endOfOptions then (readTrailing .top rest).bind fun _ => withoutCommand p
          else (readWord .top p word).bind (readTop · rest) := by
  rw [readTop]
  cases readWord .top p word <;> rfl

theorem readTop_follows (h : Ahead p q) (words : List String) :
    Follows SameUnlogged (readTop p words) (readTop q (withoutSwitches words)) := by
  induction words generalizing p q with
  | nil => exact withoutCommand_follows h
  | cons word rest ih =>
    -- A switch is left out on the right, which may then still hold the option before it.
    cases hs : logSwitch? word with
    | some flag =>
      obtain ⟨hend, hhelp, hcommand⟩ := plain_of_logSwitch hs
      rw [withoutSwitches_cons_of_some hs, readTop_cons]
      simp only [hend, hhelp, hcommand, decide_false, Bool.and_false, Bool.false_eq_true, if_false,
        ite_self]
      exact (switch_follows h _ hs).bind fun _ _ => ih
    | none =>
      rw [withoutSwitches_cons_of_none hs, readTop_cons, readTop_cons, ← isAwaiting_eq h]
      split
      · exact readHelp_follows rest
      · split
        · have hempty : Ahead {} {} := .level rfl (.refl [])
          refine (readUnder_follows hempty _ rest).bind fun under under' hunder => ?_
          refine (settle_follows h).bind fun top top' htop => ?_
          exact ⟨_, rfl, arguments_unlogged_eq _ htop.more hunder.more⟩
        · split
          · exact (readTrailing_follows _ rest).bind fun _ _ _ => withoutCommand_follows h
          · exact (readWord_follows h _ word).bind fun _ _ => ih

/-- A command line that is no complaint is read alike without its switches. -/
theorem parse_follows (words : List String) :
    Follows SameUnlogged (parse words) (parse (withoutSwitches words)) :=
  readTop_follows (.level rfl (.refl [])) words

end Runs

end BuildHeader.CommandLine
