import BuildHeader.Build.Host
import BuildHeader.Run.Session
import Std.Time.DateTime

set_option autoImplicit false

namespace BuildHeader.Main

def errorDetails : IO.Error → UInt32 × String
  | .noFileOrDirectory _ code text => (code, text)
  | .inappropriateType _ code text => (code, text)
  | .invalidArgument _ code text => (code, text)
  | .permissionDenied _ code text => (code, text)
  | .resourceExhausted _ code text => (code, text)
  | .noSuchThing _ code text => (code, text)
  | .alreadyExists _ code text => (code, text)
  | .otherError code text => (code, text)
  | e => (0, toString e)

/-- Some calls give the number of an error as its negative. -/
def errorNumber (code : UInt32) : Nat := min code.toNat (0 - code).toNat

def faultOf (e : IO.Error) : File.Fault :=
  let (code, text) := errorDetails e
  match errorNumber code with
  | 2 => .notFound
  | 20 => .notADirectory
  | 21 => .isADirectory
  | 36 => .nameTooLong
  | number => .other (text ++ " (os error " ++ toString number ++ ")")

def attempt {α : Type} (act : IO α) : IO (Except File.Fault α) := do
  try
    return .ok (← act)
  catch e =>
    return .error (faultOf e)

/-- A path that could not be opened for another reason than its absence is there all the same. -/
def isThere (path : String) : IO Bool := do
  match ← attempt (IO.FS.Handle.mk path .read) with
  | .ok _ => return true
  | .error fault => return !(fault == .notFound || fault == .notADirectory || fault == .nameTooLong)

def padded (width n : Nat) : String :=
  let digits := toString n
  String.ofList (List.replicate (width - digits.length) '0') ++ digits

def now : IO String := do
  let time := Std.Time.DateTime.ofTimestampWithZone (← Std.Time.Timestamp.now) .UTC
  let date := toString time.year.toInt ++ "-" ++ padded 2 time.month.toNat ++ "-" ++
    padded 2 time.day.toNat
  let clock := padded 2 time.hour.toNat ++ ":" ++ padded 2 time.minute.toNat ++ ":" ++
    padded 2 time.second.toNat
  return date ++ "T" ++ clock ++ "." ++ padded 6 (time.nanosecond.toNat / 1000) ++ "Z"

def perform {ε α : Type} (settings : Log.Settings) : Script ε α → IO (Except ε α)
  | .done result => return .ok result
  | .stop failure => return .error failure
  | .isThere path next => do perform settings (next (← isThere path))
  | .read path next => do perform settings (next (← attempt (IO.FS.readBinFile path)))
  | .write path content next => do
    perform settings (next (← attempt (IO.FS.writeBinFile path content)))
  | .log event next => do
    if settings.reading.filter.shows event then
      IO.eprintln (event.line settings.colored (← now))
    perform settings next
  | .print line next => do
    IO.println line
    perform settings next

def environmentNames : List String :=
  ["RUST_LOG", "CONFGEN_LOG_LEVEL", "CONFGEN_LOG_FORMAT", "CONFGEN_AUTHOR", "USER", "USERNAME"]

def textOf (path : String) : IO (Option String) := do
  return (← attempt (IO.FS.readFile path)).toOption

def environment : IO Environment := do
  let values ← environmentNames.mapM fun name => do
    return (← IO.getEnv name).map fun value => (name, value)
  let home? := Machine.home? (← IO.getEnv "HOME") (← textOf "/proc/self/status")
    (← textOf "/etc/passwd")
  return { entries := values.filterMap id, home? }

def machine : IO (Except BuildError Machine) := do
  return Machine.ofTexts
    { arch := ← textOf "/proc/sys/kernel/arch"
      kernelRelease := ← textOf "/proc/sys/kernel/osrelease"
      hostName := ← textOf "/proc/sys/kernel/hostname"
      processors := ← textOf "/proc/cpuinfo"
      release := ← textOf "/etc/os-release" }

def fail (failure : Run.Failure) : IO UInt32 := do
  (Run.answerLines failure).forM fun line => IO.println line
  failure.lines.forM fun line => IO.eprintln line
  return failure.exitStatus

def run (words : List String) : IO UInt32 := do
  let invocation : Run.Invocation := ⟨words, ← environment, ← machine⟩
  match ← perform Run.silent (Run.begin invocation) with
  | .error failure => fail failure
  | .ok session =>
    let settings := session.logSettings invocation.environment
    settings.reading.ignored.forM fun ignored => IO.eprintln ignored.line
    match ← perform settings (session.conduct invocation.environment invocation.host) with
    | .error failure => fail failure
    | .ok () => return 0

end BuildHeader.Main

def main (words : List String) : IO UInt32 := BuildHeader.Main.run words
