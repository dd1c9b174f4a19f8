import BuildHeader.Yaml.Basic
import BuildHeader.Yaml.Token

/-!
Documents from tokens, by descent along the collections. Every node takes at least one token, so
the number of tokens bounds the depth of the descent.
-/

set_option autoImplicit false

namespace BuildHeader.Yaml

structure Reading where
  tokens : List Token
  handles : List (List Char × List Char) := []
  /-- The number of every anchor name; a name defined again gets a new number. -/
  anchorNumbers : List (List Char × Nat) := []
  anchorsBegun : Nat := 0
  anchored : List Anchored := []

abbrev Reader := StateT Reading (Except Fault)

namespace Reader

def next? : Reader (Option Token) := return (← get).tokens.head?

def skip : Reader Unit := modify fun r => { r with tokens := r.tokens.drop 1 }

def takes (token : Token) : Reader Bool := do
  if (← next?) = some token then skip; return true
  return false

def expect (token : Token) : Reader Unit := do
  if !(← takes token) then throw .unexpectedToken

def sees (tokens : List Token) : Reader Bool := return (← next?).any tokens.contains

def takeAnchor? : Reader (Option (List Char)) := do
  match ← next? with
  | some (.anchor name) => skip; return some name
  | _ => return none

def takeTag? : Reader (Option TagName) := do
  match ← next? with
  | some (.tag name) => skip; return some name
  | _ => return none

def properties : Reader (Option (List Char) × Option TagName) := do
  match ← takeAnchor? with
  | some anchor => return (some anchor, ← takeTag?)
  | none =>
    match ← takeTag? with
    | none => return (none, none)
    | some tag => return (← takeAnchor?, some tag)

def standardHandles : List (List Char × List Char) :=
  [(['!'], ['!']), (['!', '!'], "tag:yaml.org,2002:".toList)]

def fullTag (name : TagName) : Reader (List Char) := do
  if name.handle.isEmpty then return name.suffix
  match ((← get).handles ++ standardHandles).lookup name.handle with
  | some expansion => return expansion ++ name.suffix
  | none => throw (.unknownTagHandle (String.ofList name.handle))

/-- Begins an anchored node. Its number is the count of the names known before. -/
def beginAnchor (name : List Char) : Reader (Nat × Nat) := do
  let r ← get
  let number := r.anchorNumbers.length
  let others := r.anchorNumbers.filter (·.1 != name)
  set { r with
    anchorNumbers := (name, number) :: others
    anchorsBegun := r.anchorsBegun + 1 }
  return (number, r.anchorsBegun)

def finishAnchor (number start : Nat) (node : Node) : Reader Unit :=
  modify fun r => { r with anchored := ⟨number, start, node⟩ :: r.anchored }

def aliasNode (name : List Char) : Reader Node := do
  match (← get).anchorNumbers.lookup name with
  | some number => return .alias number
  | none => throw (.unknownAnchor (String.ofList name))

def emptyScalar : Node := .scalar {}

structure Place where
  block : Bool
  indentless : Bool

def inFlowPlace : Place := ⟨false, false⟩
def inSequencePlace : Place := ⟨true, false⟩
def inMappingPlace : Place := ⟨true, true⟩

mutual

def node : Nat → Place → Reader Node
  | 0, _ => throw .unexpectedToken
  | fuel + 1, place => do
    match ← next? with
    | some (.alias name) => skip; aliasNode name
    | _ =>
      let (anchor?, tagName?) ← properties
      let tag? ← tagName?.mapM fullTag
      match anchor? with
      | none => content fuel place false tag?
      | some name =>
        let (number, start) ← beginAnchor name
        let result ← content fuel place true tag?
        finishAnchor number start result
        return result

def content : Nat → Place → Bool → Option (List Char) → Reader Node
  | 0, _, _, _ => throw .unexpectedToken
  | fuel + 1, place, anchored, tag? => do
    match ← next? with
    | some (.scalar plain text) => skip; return .scalar ⟨tag?, plain, text⟩
    | some .flowSequenceStart => skip; return .sequence (← flowItems fuel true)
    | some .flowMappingStart => skip; return .mapping (← flowFields fuel true)
    | some .blockEntry =>
      if place.indentless then return .sequence (← indentlessItems fuel)
      empty anchored tag?
    | some .blockSequenceStart =>
      if place.block then skip; return .sequence (← blockItems fuel)
      empty anchored tag?
    | some .blockMappingStart =>
      if place.block then skip; return .mapping (← blockFields fuel)
      empty anchored tag?
    | _ => empty anchored tag?

def empty (anchored : Bool) (tag? : Option (List Char)) : Reader Node := do
  if anchored || tag?.isSome then return .scalar { tag? }
  throw .unexpectedToken

def nodeUnless : Nat → List Token → Place → Reader Node
  | 0, _, _ => throw .unexpectedToken
  | fuel + 1, stops, place => do
    if ← sees stops then return emptyScalar
    node fuel place

def blockItems : Nat → Reader (List Node)
  | 0 => throw .unexpectedToken
  | fuel + 1 => do
    if ← takes .blockEntry then
      let item ← nodeUnless fuel [.blockEntry, .blockEnd] inSequencePlace
      return item :: (← blockItems fuel)
    expect .blockEnd
    return []

def indentlessItems : Nat → Reader (List Node)
  | 0 => throw .unexpectedToken
  | fuel + 1 => do
    if ← takes .blockEntry then
      let item ← nodeUnless fuel [.blockEntry, .key, .value, .blockEnd] inSequencePlace
      return item :: (← indentlessItems fuel)
    return []

def blockFields : Nat → Reader (List (Node × Node))
  | 0 => throw .unexpectedToken
  | fuel + 1 => do
    if ← takes .key then
      let key ← nodeUnless fuel [.key, .value, .blockEnd] inMappingPlace
      let value ←
        if ← takes .value then nodeUnless fuel [.key, .value, .blockEnd] inMappingPlace
        else pure emptyScalar
      return (key, value) :: (← blockFields fuel)
    expect .blockEnd
    return []

def flowItems : Nat → Bool → Reader (List Node)
  | 0, _ => throw .unexpectedToken
  | fuel + 1, first => do
    if ← takes .flowSequenceEnd then return []
    if !first then expect .flowEntry
    if ← takes .flowSequenceEnd then return []
    let item ← if ← takes .key then flowPair fuel else node fuel inFlowPlace
    return item :: (← flowItems fuel false)

/-- A single key with its value in a flow sequence. The token that leaves the key out is spent. -/
def flowPair : Nat → Reader Node
  | 0 => throw .unexpectedToken
  | fuel + 1 => do
    let key ←
      if ← sees [.value, .flowEntry, .flowSequenceEnd] then do skip; pure emptyScalar
      else node fuel inFlowPlace
    let value ←
      if ← takes .value then nodeUnless fuel [.flowEntry, .flowSequenceEnd] inFlowPlace
      else pure emptyScalar
    return .mapping [(key, value)]

def flowFields : Nat → Bool → Reader (List (Node × Node))
  | 0, _ => throw .unexpectedToken
  | fuel + 1, first => do
    if ← takes .flowMappingEnd then return []
    if !first then expect .flowEntry
    if ← takes .flowMappingEnd then return []
    let field ←
      if ← takes .key then do
        let key ← nodeUnless fuel [.value, .flowEntry, .flowMappingEnd] inFlowPlace
        let value ←
          if ← takes .value then nodeUnless fuel [.flowEntry, .flowMappingEnd] inFlowPlace
          else pure emptyScalar
        pure (key, value)
      else do
        let key ← node fuel inFlowPlace
        pure (key, emptyScalar)
    return field :: (← flowFields fuel false)

end

def directives : Nat → Bool → Reader Unit
  | 0, _ => throw .unexpectedToken
  | fuel + 1, hasVersion => do
    match ← next? with
    | some (.directive (.version major minor)) =>
      if hasVersion || major != 1 || !(minor == 1 || minor == 2) then throw .directive
      skip
      directives fuel true
    | some (.directive (.tagHandle handle expansion)) =>
      if ((← get).handles.lookup handle).isSome then throw .directive
      modify fun r => { r with handles := (handle, expansion) :: r.handles }
      skip
      directives fuel hasVersion
    | _ => return ()

def isDirective : Token → Bool
  | .directive _ => true
  | _ => false

def skipDocumentEnds : Nat → Reader Unit
  | 0 => return ()
  | fuel + 1 => do if ← takes .documentEnd then skipDocumentEnds fuel

def root? (fuel : Nat) : Reader (Option Node) := do
  match ← next? with
  | none => return none
  | some first =>
    if isDirective first || first == .documentStart then
      directives fuel false
      expect .documentStart
      let next ← next?
      if next.all (fun t => isDirective t || t == .documentStart || t == .documentEnd) then
        return some emptyScalar
    return some (← node fuel inSequencePlace)

end Reader

/-- The longest chain of calls between two tokens. -/
def callsPerToken : Nat := 4

/-- The one document of a text; anything after its end is too much. -/
def Document.ofText (text : List Char) : Except Fault Document := do
  let tokens ← Token.ofText text
  let fuel := callsPerToken * (tokens.length + 1)
  let (root?, rest) ← (Reader.root? fuel).run { tokens }
  let (_, last) ← (Reader.skipDocumentEnds fuel).run rest
  if !last.tokens.isEmpty then throw .severalDocuments
  return { root?, anchored := rest.anchored }

end BuildHeader.Yaml
