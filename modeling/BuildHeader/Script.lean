import BuildHeader.File.Tree
import BuildHeader.Log.Event

/-!
What a run asks of its surroundings, step by step: whether a path exists, the content of a file,
the writing of one, a log event, a line of output. A script can be acted out on a file tree, which
gives its transcript, or in the real world.
-/

set_option autoImplicit false

namespace BuildHeader

inductive Script (ε α : Type) where
  | done (result : α)
  | stop (failure : ε)
  | isThere (path : String) (next : Bool → Script ε α)
  | read (path : String) (next : Except File.Fault ByteArray → Script ε α)
  | write (path : String) (content : ByteArray) (next : Except File.Fault Unit → Script ε α)
  | log (event : Log.Event) (next : Script ε α)
  | print (line : String) (next : Script ε α)

namespace Script

variable {ε ε' α β : Type}

def bind : Script ε α → (α → Script ε β) → Script ε β
  | done result, f => f result
  | stop failure, _ => stop failure
  | isThere path next, f => isThere path fun answer => (next answer).bind f
  | read path next, f => read path fun answer => (next answer).bind f
  | write path content next, f => write path content fun answer => (next answer).bind f
  | log event next, f => log event (next.bind f)
  | print line next, f => print line (next.bind f)

instance : Monad (Script ε) where
  pure := done
  bind := bind

theorem bind_done (s : Script ε α) : s.bind done = s := by
  induction s with
  | done => rfl
  | stop => rfl
  | isThere path next ih => simp only [bind, ih]
  | read path next ih => simp only [bind, ih]
  | write path content next ih => simp only [bind, ih]
  | log event next ih => simp only [bind, ih]
  | print line next ih => simp only [bind, ih]

theorem bind_bind {γ : Type} (s : Script ε α) (f : α → Script ε β) (g : β → Script ε γ) :
    (s.bind f).bind g = s.bind fun result => (f result).bind g := by
  induction s with
  | done => rfl
  | stop => rfl
  | isThere path next ih => simp only [bind, ih]
  | read path next ih => simp only [bind, ih]
  | write path content next ih => simp only [bind, ih]
  | log event next ih => simp only [bind, ih]
  | print line next ih => simp only [bind, ih]

instance : LawfulMonad (Script ε) :=
  LawfulMonad.mk' (Script ε) bind_done (fun _ _ => rfl) bind_bind

def mapFailure (f : ε → ε') : Script ε α → Script ε' α
  | done result => done result
  | stop failure => stop (f failure)
  | isThere path next => isThere path fun answer => (next answer).mapFailure f
  | read path next => read path fun answer => (next answer).mapFailure f
  | write path content next => write path content fun answer => (next answer).mapFailure f
  | log event next => log event (next.mapFailure f)
  | print line next => print line (next.mapFailure f)

def ofExcept : Except ε α → Script ε α
  | .ok result => done result
  | .error failure => stop failure

def askIsThere (path : String) : Script ε Bool := isThere path done

def askRead (path : String) : Script ε (Except File.Fault ByteArray) := read path done

def askWrite (path : String) (content : ByteArray) : Script ε (Except File.Fault Unit) :=
  write path content done

def note (source : Log.Source) (level : Log.Level) (text : String) : Script ε Unit :=
  log ⟨source, level, text⟩ (done ())

def say (line : String) : Script ε Unit := print line (done ())

structure Transcript (ε α : Type) where
  result : Except ε α
  files : File.Tree
  events : List Log.Event
  lines : List String

def actOn (files : File.Tree) : Script ε α → Transcript ε α
  | done result => ⟨.ok result, files, [], []⟩
  | stop failure => ⟨.error failure, files, [], []⟩
  | isThere path next => (next (files.isThere path)).actOn files
  | read path next => (next (files.read path)).actOn files
  | write path content next =>
    match files.write path content with
    | .error fault => (next (.error fault)).actOn files
    | .ok files' => (next (.ok ())).actOn files'
  | log event next =>
    let rest := next.actOn files
    { rest with events := event :: rest.events }
  | print line next =>
    let rest := next.actOn files
    { rest with lines := line :: rest.lines }

/-- What a second script adds to the transcript of a first one that came to a result. -/
def Transcript.andThen (t : Transcript ε α) (next : α → File.Tree → Transcript ε β) :
    Transcript ε β :=
  match t.result with
  | .error failure => { t with result := .error failure }
  | .ok result =>
    let rest := next result t.files
    { rest with events := t.events ++ rest.events, lines := t.lines ++ rest.lines }

theorem actOn_bind (s : Script ε α) (f : α → Script ε β) (files : File.Tree) :
    (s >>= f).actOn files =
      (s.actOn files).andThen fun result files' => (f result).actOn files' := by
  show (s.bind f).actOn files = _
  induction s generalizing files with
  | done => rfl
  | stop => rfl
  | isThere path next ih => simp only [bind, actOn, ih]
  | read path next ih => simp only [bind, actOn, ih]
  | write path content next ih =>
    simp only [bind, actOn]
    split <;> simp only [ih]
  | log event next ih =>
    simp only [bind, actOn, ih, Transcript.andThen]
    split <;> rfl
  | print line next ih =>
    simp only [bind, actOn, ih, Transcript.andThen]
    split <;> rfl

end Script

end BuildHeader
