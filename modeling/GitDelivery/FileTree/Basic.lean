import GitDelivery.Bytes.Utf8
import GitDelivery.FilePath
import GitDelivery.Table

set_option autoImplicit false

/-! File trees: directories, files and symbolic links. Relative paths start at the root of the tree.
Locations are paths without links, by the names that lead there. -/

namespace GitDelivery

/-- The children of a directory stand in ascending order of their names. -/
inductive FileTree where
  | file (content : Bytes)
  | link (target : String)
  | directory (children : List (String × FileTree))

namespace FileTree

def empty : FileTree := directory []

def child? (name : String) : FileTree → Option FileTree
  | directory children => Table.get? name children
  | _ => none

def at? : List String → FileTree → Option FileTree
  | [], tree => some tree
  | name :: location, tree => (tree.child? name).bind (at? location)

private def childrenOf : FileTree → List (String × FileTree)
  | directory children => children
  | _ => []

/-- Puts something at a location. Directories that are missing on the way are made. -/
def put (item : FileTree) : List String → FileTree → FileTree
  | [], _ => item
  | name :: location, tree =>
    let inner := (tree.child? name).getD empty
    directory (Table.insert name (put item location inner) (childrenOf tree))

def remove : List String → FileTree → FileTree
  | [], tree => tree
  | [name], tree =>
    match tree with
    | directory children => directory (Table.erase name children)
    | other => other
  | name :: next :: location, tree =>
    match tree, tree.child? name with
    | directory children, some inner =>
      directory (Table.insert name (remove (next :: location) inner) children)
    | other, _ => other

/-- Follows a path from a location, handing what is left of it to `onLink` at the first link. -/
def walkPath (tree : FileTree) (onLink : List String → List FilePath.Component → Option (List String)) :
    List String → List FilePath.Component → Option (List String)
  | location, [] => some location
  | _, .root :: rest => walkPath tree onLink [] rest
  | location, .here :: rest => walkPath tree onLink location rest
  | location, .up :: rest => walkPath tree onLink location.dropLast rest
  | location, .name name :: rest =>
    match (tree.at? location).bind (child? name) with
    | none => none
    | some (file _) => if rest.isEmpty then some (location ++ [name]) else none
    | some (directory _) => walkPath tree onLink (location ++ [name]) rest
    | some (link target) => onLink location (FilePath.components target ++ rest)

/-- The location a path leads to from another one, following at most so many links. -/
def resolveFrom (tree : FileTree) : Nat → List String → List FilePath.Component → Option (List String)
  | 0 => walkPath tree fun _ _ => none
  | links + 1 => walkPath tree (resolveFrom tree links)

/-- How many links one path may lead through. -/
def linkLimit : Nat := 40

/-- The location that a path leads to, if something is there. -/
def resolve (tree : FileTree) (path : String) : Option (List String) :=
  if path.isEmpty then none else tree.resolveFrom linkLimit [] (FilePath.components path)

/-- What a path leads to; never a link. -/
def find? (tree : FileTree) (path : String) : Option FileTree :=
  (tree.resolve path).bind fun location => tree.at? location

def isFile (tree : FileTree) (path : String) : Bool :=
  match tree.find? path with
  | some (file _) => true
  | _ => false

def isDirectory (tree : FileTree) (path : String) : Bool :=
  match tree.find? path with
  | some (directory _) => true
  | _ => false

inductive ReadError where
  | missing
  | isDirectory
  | notText
  deriving DecidableEq

def ReadError.message : ReadError → String
  | missing => "No such file or directory"
  | isDirectory => "Is a directory"
  | notText => "stream did not contain valid UTF-8"

def readBytes (tree : FileTree) (path : String) : Except ReadError Bytes :=
  match tree.find? path with
  | some (file content) => .ok content
  | some _ => .error .isDirectory
  | none => .error .missing

def readText (tree : FileTree) (path : String) : Except ReadError String := do
  match (← tree.readBytes path).text? with
  | some text => return text
  | none => throw .notText

/-- Writes a file that is there already, through links if need be. -/
def rewrite (path : String) (content : Bytes) (tree : FileTree) : FileTree :=
  match tree.resolve path with
  | some location => put (file content) location tree
  | none => tree

/-- The location of a path that goes down by names only. -/
def plainLocation (path : String) : List String :=
  (FilePath.components path).filterMap fun
    | .name name => some name
    | _ => none

end FileTree

end GitDelivery
