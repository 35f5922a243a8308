import GitDelivery.Text.Basic

set_option autoImplicit false

/-! File paths as texts whose components are separated by slashes. -/

namespace GitDelivery.FilePath

inductive Component where
  | root
  | here
  | up
  | name (text : String)
  deriving DecidableEq

def Component.text : Component → String
  | root => "/"
  | here => "."
  | up => ".."
  | name text => text

private def ofPiece? (piece : String) : Option Component :=
  if piece = "" || piece = "." then none
  else if piece = ".." then some .up
  else some (.name piece)

/-- The components of a path. Repeated slashes and inner points add nothing; a point at the start of
a relative path is a component. -/
def components (path : String) : List Component :=
  let pieces := Text.splitAll '/' path
  let leading : List Component :=
    if path.toList.head? = some '/' then [.root]
    else if pieces.head? = some "." then [.here]
    else []
  leading ++ pieces.filterMap ofPiece?

/-- Appends a path. An absolute one replaces what was there. -/
def push (base added : String) : String :=
  if added.toList.head? = some '/' then added
  else if base.isEmpty || base.toList.getLast? = some '/' then base ++ added
  else base ++ "/" ++ added

def pushAll (base : String) (names : List String) : String :=
  names.foldl push base

inductive JoinError where
  | containsNull (path : String)
  | escapes (path : String)
  deriving DecidableEq

def JoinError.message : JoinError → String
  | containsNull path => "path '" ++ path ++ "' cannot contain null bytes"
  | escapes path =>
    "path '" ++ path ++ "' must be relative and stay inside the repository"

/-- The names of a path that goes down only. -/
def descending? : List Component → Option (List String)
  | [] => some []
  | .name text :: rest => (descending? rest).map (text :: ·)
  | .here :: rest => descending? rest
  | .root :: _ => none
  | .up :: _ => none

/-- The names by which a path goes down from a root; none if the path is blank. -/
def relativeNames (path : String) : Except JoinError (List String) :=
  let trimmed := Text.trim path
  if trimmed.isEmpty then .ok []
  else if trimmed.toList.contains '\x00' then .error (.containsNull trimmed)
  else
    match descending? (components trimmed) with
    | some names => .ok names
    | none => .error (.escapes trimmed)

/-- A path below a root. Paths that could leave the root are refused. -/
def joinWithin (root : String) (path : Option String) : Except JoinError String := do
  let names ← relativeNames (path.getD "")
  return pushAll root names

/-- The rest of a list after the given beginning. -/
def dropLeading? : List Component → List Component → Option (List Component)
  | [], rest => some rest
  | _ :: _, [] => none
  | first :: leading, next :: rest => if first = next then dropLeading? leading rest else none

/-- A directory as seen from a root, or as it is if it does not lie below the root; its components
are joined by slashes. -/
def relativeTo (root directory : String) : String :=
  let inner := components directory
  let rest := (dropLeading? (components root) inner).getD inner
  "/".intercalate (rest.map Component.text)

end GitDelivery.FilePath
