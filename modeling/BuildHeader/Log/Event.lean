set_option autoImplicit false

namespace BuildHeader.Log

inductive Level where
  | error
  | warn
  | info
  | debug
  | trace
  deriving DecidableEq, Repr

/-- The number of levels that are at least as severe. -/
def Level.rank : Level → Nat
  | .error => 1
  | .warn => 2
  | .info => 3
  | .debug => 4
  | .trace => 5

inductive Source where
  | session
  | command
  | options
  | template
  deriving DecidableEq, Repr

def Source.name : Source → String
  | .session => "confgen::cli::app"
  | .command => "confgen::cli::commands"
  | .options => "confgen::build::options"
  | .template => "confgen::template::engine"

structure Event where
  source : Source
  level : Level
  text : String
  deriving DecidableEq, Repr

def Event.field : String := "message"

def Level.label : Level → String
  | .error => "ERROR"
  | .warn => " WARN"
  | .info => " INFO"
  | .debug => "DEBUG"
  | .trace => "TRACE"

def Level.color : Level → String
  | .error => "31"
  | .warn => "33"
  | .info => "32"
  | .debug => "34"
  | .trace => "35"

/-- Characters that a terminal would act on are spelled out. -/
def spellOut (c : Char) : List Char :=
  let n := c.toNat
  if n = 0x07 ∨ n = 0x08 ∨ n = 0x0C ∨ n = 0x1B ∨ n = 0x7F then
    ['\\', 'x', Nat.digitChar (n / 16), Nat.digitChar (n % 16)]
  else if 0x80 ≤ n ∧ n ≤ 0x9F then
    '\\' :: 'u' :: '\x7b' :: (Nat.toDigits 16 n ++ ['\x7d'])
  else [c]

def harmless (text : String) : String := String.ofList (text.toList.flatMap spellOut)

def paint (code text : String) : String := "\x1b[" ++ code ++ "m" ++ text ++ "\x1b[0m"

def Event.line (event : Event) (colored : Bool) (time : String) : String :=
  if colored then
    paint "2" time ++ " " ++ paint event.level.color event.level.label ++ " " ++
      harmless event.text
  else time ++ " " ++ event.level.label ++ " " ++ harmless event.text

end BuildHeader.Log
