import GitDelivery.Yaml.Lexer

set_option autoImplicit false

/-! Documents as trees of nodes. Anchors are numbered by the count of different names before them, and
a later anchor with the same number replaces the earlier one for all references to it. -/

namespace GitDelivery.Yaml

inductive Node where
  | scalar (text : String) (isPlain : Bool) (tag : Option String)
  | sequence (items : List Node) (tag : Option String)
  | mapping (entries : List (Node × Node)) (tag : Option String)
  | reference (anchor : Nat)

/-- The tree of a document, if it has content, and its anchored nodes by number. -/
structure Document where
  root : Option Node
  anchors : List (Nat × Node)

/-- An anchored node, its number and how many anchors began before it. -/
structure Anchored where
  position : Nat
  number : Nat
  node : Node

structure Composer where
  tokens : List Token
  handles : List (String × String) := []
  names : List (String × Nat) := []
  begun : Nat := 0
  anchored : List Anchored := []

abbrev Compose := StateT Composer (Except Failure)

namespace Compose

def peek : Compose (Option Token) := do
  return (← get).tokens.head?

def advance : Compose Unit :=
  modify fun state => { state with tokens := state.tokens.drop 1 }

def seesOneOf (tokens : List Token) : Compose Bool := do
  match ← peek with
  | some token => return tokens.contains token
  | none => return false

def unexpected {α : Type} : Compose α := throw (.misplaced "a token")

def emptyNode : Node := .scalar "" true none

private def fullTag (handle suffix : String) : Compose String := do
  if handle.isEmpty then return suffix
  match (← get).handles.lookup handle with
  | some expansion => return expansion ++ suffix
  | none => throw .undefinedTagHandle

private def takeAnchor? : Compose (Option String) := do
  match ← peek with
  | some (.anchor name) => do
    advance
    return some name
  | _ => return none

private def takeTag? : Compose (Option String) := do
  match ← peek with
  | some (.tag handle suffix) => do
    advance
    return some (← fullTag handle suffix)
  | _ => return none

/-- An anchor and a tag in either order. -/
private def takeProperties : Compose (Option String × Option String) := do
  match ← takeAnchor? with
  | some name => return (some name, ← takeTag?)
  | none =>
    match ← takeTag? with
    | some tag => return (← takeAnchor?, some tag)
    | none => return (none, none)

/-- Numbers an anchor and says how many began before it. -/
private def beginAnchor (name : String) : Compose (Nat × Nat) := do
  let state ← get
  let number := state.names.length
  let names :=
    if state.names.any (·.1 = name) then
      state.names.map fun entry => if entry.1 = name then (name, number) else entry
    else (name, number) :: state.names
  set { state with names := names, begun := state.begun + 1 }
  return (state.begun, number)

private def resolve (name : String) : Compose Node := do
  match (← get).names.lookup name with
  | some number => return .reference number
  | none => throw (.unknownAnchor name)

mutual

/-- A node; `block` says whether blocks may begin here, and `indentless` whether list entries may
stand at the column of the key before them. -/
def node (block indentless : Bool) : Nat → Compose Node
  | 0 => unexpected
  | fuel + 1 => do
    match ← peek with
    | some (.reference name) => do
      advance
      resolve name
    | _ => do
      let (anchor, tag) ← takeProperties
      match anchor with
      | none => content block indentless tag tag.isSome fuel
      | some name => do
        let (position, number) ← beginAnchor name
        let found ← content block indentless tag true fuel
        modify fun state => { state with anchored := ⟨position, number, found⟩ :: state.anchored }
        return found

def content (block indentless : Bool) (tag : Option String) (mayBeEmpty : Bool) :
    Nat → Compose Node
  | 0 => unexpected
  | fuel + 1 => do
    match ← peek, block, indentless with
    | some (.scalar text isPlain), _, _ => do
      advance
      return .scalar text isPlain (if tag = some "!" then none else tag)
    | some .blockEntry, _, true => return .sequence (← indentlessItems fuel) tag
    | some .flowSequenceStart, _, _ => do
      advance
      return .sequence (← flowItems true fuel) tag
    | some .flowMappingStart, _, _ => do
      advance
      return .mapping (← flowEntries true fuel) tag
    | some .blockSequenceStart, true, _ => do
      advance
      return .sequence (← blockItems fuel) tag
    | some .blockMappingStart, true, _ => do
      advance
      return .mapping (← blockEntries fuel) tag
    | _, _, _ => if mayBeEmpty then return .scalar "" true tag else unexpected

def blockItems : Nat → Compose (List Node)
  | 0 => unexpected
  | fuel + 1 => do
    match ← peek with
    | some .blockEntry => do
      advance
      let item ←
        if ← seesOneOf [.blockEntry, .blockEnd] then pure emptyNode else node true false fuel
      return item :: (← blockItems fuel)
    | some .blockEnd => do
      advance
      return []
    | _ => unexpected

def indentlessItems : Nat → Compose (List Node)
  | 0 => unexpected
  | fuel + 1 => do
    match ← peek with
    | some .blockEntry => do
      advance
      let item ←
        if ← seesOneOf [.blockEntry, .key, .value, .blockEnd] then pure emptyNode
        else node true false fuel
      return item :: (← indentlessItems fuel)
    | _ => return []

def blockEntries : Nat → Compose (List (Node × Node))
  | 0 => unexpected
  | fuel + 1 => do
    match ← peek with
    | some .key => do
      advance
      let key ←
        if ← seesOneOf [.key, .value, .blockEnd] then pure emptyNode else node true true fuel
      let value ← blockValue fuel
      return (key, value) :: (← blockEntries fuel)
    | some .blockEnd => do
      advance
      return []
    | _ => unexpected

def blockValue : Nat → Compose Node
  | 0 => unexpected
  | fuel + 1 => do
    if ← seesOneOf [.value] then
      advance
      if ← seesOneOf [.key, .value, .blockEnd] then return emptyNode else node true true fuel
    else return emptyNode

/-- Items between brackets. A key with its value may stand for a mapping of one entry. -/
def flowItems (first : Bool) : Nat → Compose (List Node)
  | 0 => unexpected
  | fuel + 1 => do
    if !(← seesOneOf [.flowSequenceEnd]) && !first then
      if ← seesOneOf [.flowEntry] then advance else unexpected
    match ← peek with
    | some .flowSequenceEnd => do
      advance
      return []
    | some .key => do
      advance
      let key ←
        if ← seesOneOf [.value, .flowEntry, .flowSequenceEnd] then do
          advance
          pure emptyNode
        else node false false fuel
      let value ← flowValue [.flowEntry, .flowSequenceEnd] fuel
      return .mapping [(key, value)] none :: (← flowItems false fuel)
    | _ => do
      let item ← node false false fuel
      return item :: (← flowItems false fuel)

/-- Entries between braces. A node without a value is a key whose value is empty. -/
def flowEntries (first : Bool) : Nat → Compose (List (Node × Node))
  | 0 => unexpected
  | fuel + 1 => do
    if !(← seesOneOf [.flowMappingEnd]) && !first then
      if ← seesOneOf [.flowEntry] then advance else unexpected
    match ← peek with
    | some .flowMappingEnd => do
      advance
      return []
    | some .key => do
      advance
      let key ←
        if ← seesOneOf [.value, .flowEntry, .flowMappingEnd] then pure emptyNode
        else node false false fuel
      let value ← flowValue [.flowEntry, .flowMappingEnd] fuel
      return (key, value) :: (← flowEntries false fuel)
    | _ => do
      let key ← node false false fuel
      return (key, emptyNode) :: (← flowEntries false fuel)

def flowValue (ends : List Token) : Nat → Compose Node
  | 0 => unexpected
  | fuel + 1 => do
    if ← seesOneOf [.value] then
      advance
      if ← seesOneOf ends then return emptyNode else node false false fuel
    else return emptyNode

end

private def isDirective : Token → Bool
  | .versionDirective _ _ | .tagDirective _ _ => true
  | _ => false

def directives (seenVersion : Bool) : Nat → Compose Unit
  | 0 => unexpected
  | fuel + 1 => do
    match ← peek with
    | some (.versionDirective major minor) => do
      if seenVersion || major ≠ 1 || (minor ≠ 1 && minor ≠ 2) then throw (.invalid "version")
      advance
      directives true fuel
    | some (.tagDirective handle expansion) => do
      let state ← get
      if state.handles.any (·.1 = handle) then throw (.invalid "directive")
      set { state with
        tokens := state.tokens.drop 1, handles := (handle, expansion) :: state.handles }
      directives seenVersion fuel
    | _ =>
      modify fun state =>
        { state with handles := state.handles ++ [("!", "!"), ("!!", "tag:yaml.org,2002:")] }

/-- Documents after the first are refused. -/
def document (fuel : Nat) : Compose (Option Node) := do
  match ← peek with
  | none => return none
  | some first => do
    directives false fuel
    let root ←
      if isDirective first || first = .documentStart then
        if ← seesOneOf [.documentStart] then
          advance
          match ← peek with
          | none => pure emptyNode
          | some token =>
            if isDirective token || token = .documentStart || token = .documentEnd then
              pure emptyNode
            else node true false fuel
        else unexpected
      else node true false fuel
    let rest := (← get).tokens.dropWhile (· = .documentEnd)
    if rest.isEmpty then return some root else throw .severalDocuments

end Compose

namespace Document

/-- Of anchors with one number the last that began counts. -/
private def lastOf (anchored : List Anchored) (number : Nat) : Option Node :=
  (anchored.foldl (fun best entry =>
    if entry.number ≠ number then best
    else
      match best with
      | some kept => if kept.position < entry.position then some entry else best
      | none => some entry) (none : Option Anchored)).map (·.node)

/-- The document of a text, which must have no more than one. -/
def ofText (text : String) : Except Failure Document := do
  let tokens ← Yaml.tokens text
  let (root, state) ← (Compose.document (4 * tokens.length + 8)).run { tokens := tokens }
  let numbers := List.range state.begun
  return {
    root := root
    anchors := numbers.filterMap fun number =>
      (lastOf state.anchored number).map (number, ·) }

end Document

end GitDelivery.Yaml
