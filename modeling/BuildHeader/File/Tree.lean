import BuildHeader.Entries

/-!
A file system without links: directories and files below one root, a working directory, and the
lookup of paths in it. Reading and writing name their faults in the order in which a walk along
the path meets them.
-/

set_option autoImplicit false

namespace BuildHeader.File

/-- A rooted `name` stands for itself; otherwise one slash sets it apart from `base`. -/
def joinPath (base name : String) : String :=
  if name.toList.head? = some '/' then name
  else if base.isEmpty || base.toList.getLast? = some '/' then base ++ name
  else base ++ "/" ++ name

namespace Path

def isRooted (path : String) : Bool := path.toList.head? = some '/'

def endsInSlash (path : String) : Bool := path.toList.getLast? = some '/'

def steps (path : String) : List String :=
  ((path.toList.splitOn '/').filter (!·.isEmpty)).map String.ofList

end Path

inductive Fault where
  | notFound
  | notADirectory
  | isADirectory
  | nameTooLong
  | nulInPath
  | invalidUtf8
  | other (text : String)
  deriving DecidableEq, Repr

def Fault.message : Fault → String
  | .notFound => "No such file or directory (os error 2)"
  | .notADirectory => "Not a directory (os error 20)"
  | .isADirectory => "Is a directory (os error 21)"
  | .nameTooLong => "File name too long (os error 36)"
  | .nulInPath => "file name contained an unexpected NUL byte"
  | .invalidUtf8 => "stream did not contain valid UTF-8"
  | .other text => text

/-- A place in the file system: the names on the way down from the root. -/
abbrev Location := List String

inductive Entry where
  | directory
  | file (content : ByteArray)

instance : DecidableEq Entry
  | .directory, .directory => isTrue rfl
  | .directory, .file _ => isFalse Entry.noConfusion
  | .file _, .directory => isFalse Entry.noConfusion
  | .file ⟨first⟩, .file ⟨second⟩ =>
    if same : first = second then isTrue (same ▸ rfl)
    else isFalse fun h => same (congrArg ByteArray.data (Entry.file.inj h))

/-- The working directory and all directories above it always exist. -/
structure Tree where
  workingDirectory : Location
  entries : List (Location × Entry) := []

namespace Tree

def lookup (t : Tree) (place : Location) : Option Entry :=
  if place.isPrefixOf t.workingDirectory then some .directory else t.entries.lookup place

def put (t : Tree) (place : Location) (entry : Entry) : Tree :=
  { t with entries := Entries.upsert place entry t.entries }

theorem lookup_put_self {t : Tree} {place : Location} (entry : Entry)
    (h : place.isPrefixOf t.workingDirectory = false) :
    (t.put place entry).lookup place = some entry := by
  simp only [lookup, put, h]
  exact Entries.lookup_upsert_self place entry t.entries

theorem lookup_put_of_ne (t : Tree) {place other : Location} (entry : Entry)
    (h : other ≠ place) : (t.put place entry).lookup other = t.lookup other := by
  simp only [lookup, put, Entries.lookup_upsert_of_ne entry h]

def remove (t : Tree) (place : Location) : Tree :=
  { t with entries := t.entries.filter fun old => !place.isPrefixOf old.1 }

def addDirectories (t : Tree) (above : Location) : List String → Tree
  | [] => t
  | name :: rest =>
    let place := above ++ [name]
    addDirectories (if (t.lookup place).isSome then t else t.put place .directory) place rest

def addDirectory (t : Tree) (place : Location) : Tree := t.addDirectories [] place

def addFile (t : Tree) (place : Location) (content : ByteArray) : Tree :=
  (t.addDirectory place.dropLast).put place (.file content)

/-- The files of `after` that `before` does not have with this content. -/
def changes (before after : Tree) : List (Location × ByteArray) :=
  after.entries.filterMap fun (place, entry) =>
    match entry with
    | .directory => none
    | .file content => if before.lookup place = some entry then none else some (place, content)

def maxNameBytes : Nat := 255

def maxPathBytes : Nat := 4095

/-- Follows `steps` from `place`; each step but the first needs a directory to start from. -/
def walk (t : Tree) (place : Location) : List String → Except Fault Location
  | [] => .ok place
  | step :: rest =>
    match t.lookup place with
    | none => .error .notFound
    | some (.file _) => .error .notADirectory
    | some .directory =>
      if step = "." then walk t place rest
      else if step = ".." then walk t place.dropLast rest
      else if maxNameBytes < step.utf8ByteSize then .error .nameTooLong
      else walk t (place ++ [step]) rest

def start (t : Tree) (path : String) : Location :=
  if Path.isRooted path then [] else t.workingDirectory

def checkPath (path : String) : Except Fault Unit :=
  if path.toList.contains '\x00' then .error .nulInPath
  else if path.isEmpty then .error .notFound
  else if maxPathBytes < path.utf8ByteSize then .error .nameTooLong
  else .ok ()

/-- The entry that a path names; a slash at the end asks for a directory. -/
def find (t : Tree) (path : String) : Except Fault (Location × Entry) :=
  match checkPath path with
  | .error fault => .error fault
  | .ok () =>
    match t.walk (t.start path)
        (Path.steps path ++ if Path.endsInSlash path then ["."] else []) with
    | .error fault => .error fault
    | .ok place =>
      match t.lookup place with
      | none => .error .notFound
      | some entry => .ok (place, entry)

def isThere (t : Tree) (path : String) : Bool := (t.find path).isOk

def read (t : Tree) (path : String) : Except Fault ByteArray :=
  match t.find path with
  | .error fault => .error fault
  | .ok (_, .directory) => .error .isADirectory
  | .ok (_, .file content) => .ok content

/-- The last step of a path that is to be written, where it is a name, and the steps before it. -/
def writeTarget? (path : String) : Option (List String × String) :=
  match (Path.steps path).reverse with
  | [] => none
  | last :: before =>
    if last = "." ∨ last = ".." then none else some (before.reverse, last)

/--
Where a file of this path is written: an old file or a free name in a directory. A path that ends
in a slash or in a dot step can only be a directory.
-/
def writable (t : Tree) (path : String) : Except Fault Location :=
  match checkPath path with
  | .error fault => .error fault
  | .ok () =>
    match writeTarget? path with
    | none =>
      match t.walk (t.start path) (Path.steps path) with
      | .error fault => .error fault
      | .ok _ => .error .isADirectory
    | some (before, name) =>
      match t.walk (t.start path) (before ++ ["."]) with
      | .error fault => .error fault
      | .ok place =>
        if Path.endsInSlash path then .error .isADirectory
        else if maxNameBytes < name.utf8ByteSize then .error .nameTooLong
        else if t.lookup (place ++ [name]) = some .directory then .error .isADirectory
        else .ok (place ++ [name])

def write (t : Tree) (path : String) (content : ByteArray) : Except Fault Tree :=
  (t.writable path).map fun place => t.put place (.file content)

end Tree

end BuildHeader.File
