import BuildHeader.Build.Options
import BuildHeader.CommandLine.Arguments
import BuildHeader.CommandLine.Flag

/-!
Reading a command line word by word. The words before the command and those after it are two
levels with options of their own; an option that may stand on both counts where it stands last.
-/

set_option autoImplicit false

namespace BuildHeader.CommandLine

structure Given where
  flag : Flag
  value : String
  deriving DecidableEq, Repr

/--
The options of one level so far. The last one may still wait for its value (`some (flag, none)`);
with its value it is held back until the next option comes.
-/
structure Progress where
  given : List Given := []
  held : Option (Flag × Option String) := none

namespace Progress

def isAwaiting (p : Progress) : Bool := p.held.any fun held => held.2.isNone

def isGiven (p : Progress) (flag : Flag) : Bool := p.given.any fun given => given.flag = flag

end Progress

def checkValue (flag : Flag) (value : String) : Except UsageError Unit :=
  match flag with
  | .config | .sourceDir | .destDir => if value.isEmpty then .error .invalidValue else .ok ()
  | .format => if (format? value).isNone then .error .invalidValue else .ok ()
  | .debug =>
    match debugFlag value with
    | .ok _ => .ok ()
    | .error fault => .error (.invalidDebugFlag fault)
  | _ => .ok ()

/-- Takes an option; a second mention comes before a refused value. -/
def Progress.accept (p : Progress) (flag : Flag) (value : String) : Except UsageError Progress :=
  if !flag.isRepeatable && p.isGiven flag then .error .givenTwice
  else (checkValue flag value).map fun _ => { p with given := p.given ++ [⟨flag, value⟩] }

def Progress.settle (p : Progress) : Except UsageError Progress :=
  match p.held with
  | none => .ok p
  | some (_, none) => .error .invalidValue
  | some (flag, some value) => { p with held := none }.accept flag value

/-- Takes an option that has no value; two of them end the reading. -/
def Progress.takeSwitch (p : Progress) (scope : Scope) (flag : Flag) :
    Except UsageError Progress := do
  let p ← p.settle
  match flag with
  | .help => throw (.help scope.topic)
  | .toolVersion => throw .toolVersion
  | flag => p.accept flag ""

def Progress.takeValued (p : Progress) (flag : Flag) (attached : Option String) :
    Except UsageError Progress := do
  let p ← p.settle
  match attached with
  | some value => p.accept flag value
  | none => return { p with held := some (flag, none) }

def splitLong (chars : List Char) : String × Option String :=
  let name := chars.takeWhile (· != '=')
  (String.ofList name,
    match chars.drop name.length with
    | [] => none
    | _ :: value => some (String.ofList value))

def readLong (scope : Scope) (p : Progress) (chars : List Char) : Except UsageError Progress :=
  let (name, attached) := splitLong chars
  match scope.long? name with
  | none => .error .unknownArgument
  | some flag =>
    if flag.takesValue then p.takeValued flag attached
    else if attached.isSome then .error .unexpectedValue
    else p.takeSwitch scope flag

/-- The value in the rest of a word of short options; an equals sign before it is dropped. -/
def attachedShort : List Char → Option String
  | [] => none
  | '=' :: value => some (String.ofList value)
  | value => some (String.ofList value)

/-- A word of short options after its dash. The first one with a value takes the rest. -/
def readShort (scope : Scope) (p : Progress) : List Char → Except UsageError Progress
  | [] => .ok p
  | letter :: rest =>
    match scope.short? letter with
    | none => .error .unknownArgument
    | some flag =>
      if flag.takesValue then p.takeValued flag (attachedShort rest)
      else
        match p.takeSwitch scope flag with
        | .error e => .error e
        | .ok p => readShort scope p rest

def readWord (scope : Scope) (p : Progress) (word : String) : Except UsageError Progress :=
  match word.toList with
  | '-' :: '-' :: chars => readLong scope p chars
  | '-' :: letter :: rest => readShort scope p (letter :: rest)
  | _ =>
    match p.held with
    | some (flag, none) => .ok { p with held := some (flag, some word) }
    | _ => .error (if scope = .top then .invalidCommand else .unknownArgument)

def readTrailing (scope : Scope) (words : List String) : Except UsageError Unit :=
  match words with
  | [] => .ok ()
  | word :: _ =>
    if scope = .top ∧ (command? word).isNone ∧ word ≠ helpWord then .error .invalidCommand
    else .error .unknownArgument

def endOfOptions : String := "--"

def readUnder (command : Command) (p : Progress) : List String → Except UsageError Progress
  | [] => p.settle
  | word :: rest =>
    if word = endOfOptions then
      (readTrailing (.under command) rest).bind fun _ => p.settle
    else
      match readWord (.under command) p word with
      | .error e => .error e
      | .ok p => readUnder command p rest

def readHelp : List String → UsageError
  | [] => .help .tool
  | [word] => ((topic? word).map .help).getD .invalidCommand
  | _ => .invalidCommand

def valueOf? (given : List Given) (flag : Flag) : Option String :=
  (given.find? fun g => g.flag = flag).map Given.value

def valuesOf (given : List Given) (flag : Flag) : List String :=
  (given.filter fun g => g.flag = flag).map Given.value

def buildArguments (given : List Given) : BuildArguments :=
  let defaults : BuildArguments := {}
  { sourceDir := (valueOf? given .sourceDir).getD defaults.sourceDir
    destDir := (valueOf? given .destDir).getD defaults.destDir
    version := (valueOf? given .version).getD defaults.version
    buildVersion := (valueOf? given .buildVersion).getD defaults.buildVersion
    buildTime := valueOf? given .buildTime
    compiler := valueOf? given .compiler
    debug := valueOf? given .debug == some "y"
    author := valueOf? given .author
    template := valueOf? given .template
    output := valueOf? given .output
    vars := valuesOf given .var }

def action (command : Command) (given : List Given) : Action :=
  match command with
  | .generate => .generate (valueOf? given .dryRun).isSome
  | .vars => .vars (((valueOf? given .format).bind format?).getD .text)

/-- The options of both levels; the level of the command has the last word. -/
def arguments (command : Command) (top under : List Given) : Arguments :=
  { action := action command under
    build := buildArguments under
    verbose := ((valueOf? under .verbose).or (valueOf? top .verbose)).isSome
    noColor := ((valueOf? under .noColor).or (valueOf? top .noColor)).isSome
    config := (valueOf? under .config).or (valueOf? top .config) }

def withoutCommand (p : Progress) : Except UsageError Arguments :=
  match p.settle with
  | .error e => .error e
  | .ok p => .error (if p.given.isEmpty then .nothingGiven else .missingCommand)

def readTop (p : Progress) : List String → Except UsageError Arguments
  | [] => withoutCommand p
  | word :: rest =>
    if !p.isAwaiting && word = helpWord then .error (readHelp rest)
    else
      match if p.isAwaiting then none else command? word with
      | some command => do
        let under ← readUnder command {} rest
        let top ← p.settle
        return arguments command top.given under.given
      | none =>
        if word = endOfOptions then (readTrailing .top rest).bind fun _ => withoutCommand p
        else
          match readWord .top p word with
          | .error e => .error e
          | .ok p => readTop p rest

def parse (words : List String) : Except UsageError Arguments := readTop {} words

end BuildHeader.CommandLine
