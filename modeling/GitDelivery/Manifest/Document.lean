import GitDelivery.Text.Basic

set_option autoImplicit false

/-! Streams of YAML documents. A separator is a line of three dashes, blanks and maybe a comment;
documents without content are left out. -/

namespace GitDelivery.Manifest

def isGap (c : Char) : Bool := c = ' ' || c = '\t'

/-- Three dashes, then blanks or tabs, then nothing or a comment. -/
def isSeparator : List Char → Bool
  | '-' :: '-' :: '-' :: rest =>
    match rest.dropWhile isGap with
    | [] => true
    | c :: _ => c = '#'
  | _ => false

/-- The groups of lines between separators. -/
def groups : List (List Char) → List (List (List Char))
  | [] => [[]]
  | line :: rest =>
    if isSeparator line then [] :: groups rest
    else
      match groups rest with
      | [] => [[line]]
      | group :: more => (line :: group) :: more

def hasContent (line : List Char) : Bool :=
  match line.dropWhile Text.isBlank with
  | [] => false
  | c :: _ => c ≠ '#'

def joinLines : List (List Char) → List Char
  | [] => []
  | [line] => line
  | line :: next :: rest => line ++ '\n' :: joinLines (next :: rest)

/-- The text of a document, without empty lines at its ends. -/
def documentText (lines : List (List Char)) : String :=
  Text.trimChar '\n' (String.ofList (joinLines lines))

def splitDocuments (stream : String) : List String :=
  ((groups (Text.pieces '\n' stream.toList)).filter fun lines => lines.any hasContent).map
    documentText

end GitDelivery.Manifest
