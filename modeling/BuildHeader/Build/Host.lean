import BuildHeader.Text.Basic

set_option autoImplicit false

namespace BuildHeader

/-- The variables, and the home directory, which the system knows even if no variable names it. -/
structure Environment where
  entries : List (String × String) := []
  home? : Option String := none

/-- A variable set to no text at all is set. -/
def Environment.get? (env : Environment) (name : String) : Option String :=
  env.entries.lookup name

inductive BuildError where
  | invalidVersion (version reason : String)
  | invalidDebugFlag (flag : String)
  | platform (reason : String)
  deriving DecidableEq, Repr

def BuildError.message : BuildError → String
  | .invalidVersion version reason => "Invalid version '" ++ version ++ "': " ++ reason
  | .invalidDebugFlag flag => "Invalid debug flag '" ++ flag ++ "'. Expected 'y' or 'n'"
  | .platform reason => "Failed to collect platform information: " ++ reason

structure Machine where
  plat : String
  arch : String
  platVersion : String
  processor : String
  os : String
  host : String
  deriving DecidableEq, Repr

structure Host where
  machine : Machine
  releaseUser : String
  deriving DecidableEq, Repr

namespace Host

def unknownUser : String := "unknown"

def user (env : Environment) : String :=
  ((env.get? "USER").or (env.get? "USERNAME")).getD unknownUser

def collect (machine : Machine) (env : Environment) : Host := ⟨machine, user env⟩

def entries (h : Host) : List (String × String) :=
  [("plat", h.machine.plat),
   ("arch", h.machine.arch),
   ("plat_version", h.machine.platVersion),
   ("processor", h.machine.processor),
   ("os", h.machine.os),
   ("release_user", h.releaseUser),
   ("host", h.machine.host)]

end Host

/-- What the system publishes; a text that could not be read is absent. -/
structure SystemTexts where
  arch : Option String := none
  kernelRelease : Option String := none
  hostName : Option String := none
  /-- Lines `name : value` about the processors. -/
  processors : Option String := none
  /-- Lines `NAME=value` about the distribution. -/
  release : Option String := none

namespace Machine

def trimmed (text : String) : String := String.ofList (Text.trim text.toList)

/-- The value in the first line of the form `name mark value`. -/
def lineValue? (name : String) (mark : Char) (text : String) : Option String :=
  (text.toList.splitOn '\n').findSome? fun line =>
    let before := line.takeWhile (· != mark)
    if Text.trim before = name.toList ∧ before.length < line.length then
      some (String.ofList (Text.trim (line.drop (before.length + 1))))
    else none

def unquoted (text : String) : String :=
  String.ofList (text.toList.filter (· != '"'))

def unknown : String := "unknown"

def family : String := "linux"

def ofTexts (texts : SystemTexts) : Except BuildError Machine :=
  match texts.hostName with
  | none => .error (.platform "failed to get hostname")
  | some hostName =>
    let arch := (texts.arch.map trimmed).getD unknown
    let kernel := (texts.kernelRelease.map trimmed).getD unknown
    let processor :=
      ((texts.processors.bind (lineValue? "model name" ':')).filter (!·.isEmpty)).getD arch
    let os :=
      match texts.release with
      | none => family ++ "-" ++ kernel ++ "-" ++ arch
      | some release =>
        let value (name : String) := unquoted ((lineValue? name '=' release).getD "")
        "Linux " ++ value "VERSION_ID" ++ " " ++ value "NAME"
    .ok ⟨family, arch, kernel, processor, os, trimmed hostName⟩

/-- The home directory of a user, from lines `name:password:number:group:comment:home:shell`. -/
def homeOf? (number : String) (users : String) : Option String :=
  (users.toList.splitOn '\n').findSome? fun line =>
    match (line.splitOn ':').map String.ofList with
    | _ :: _ :: user :: _ :: _ :: home :: _ => if user = number then some home else none
    | _ => none

def home? (named? status? users? : Option String) : Option String :=
  (named?.filter (!·.isEmpty)).or do
    let numbers ← lineValue? "Uid" ':' (← status?)
    homeOf? (String.ofList (numbers.toList.takeWhile (· != '\t'))) (← users?)

end Machine

end BuildHeader
