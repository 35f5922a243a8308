import GitDelivery.Yaml.Failure

set_option autoImplicit false

/-! The tokens of YAML text, and places in the text. -/

namespace GitDelivery.Yaml

/-- A scalar keeps whether it was written without quotes and not as a block, because only then may
it be something else than text. -/
inductive Token where
  | versionDirective (major minor : Nat)
  | tagDirective (handle expansion : String)
  | documentStart
  | documentEnd
  | blockSequenceStart
  | blockMappingStart
  | blockEnd
  | flowSequenceStart
  | flowSequenceEnd
  | flowMappingStart
  | flowMappingEnd
  | blockEntry
  | flowEntry
  | key
  | value
  | reference (name : String)
  | anchor (name : String)
  | tag (handle suffix : String)
  | scalar (text : String) (isPlain : Bool)
  deriving DecidableEq

def isBreak (c : Char) : Bool :=
  c = '\n' || c = '\r' || c = '\u0085' || c = '\u2028' || c = '\u2029'

def isSpaceOrTab (c : Char) : Bool :=
  c = ' ' || c = '\t'

/-- Letters, digits, dashes and underscores, all of them ASCII. -/
def isWordChar (c : Char) : Bool :=
  c.isAlphanum || c = '_' || c = '-'

/-- What is left of a text, and where that begins. -/
structure Cursor where
  rest : List Char
  index : Nat
  line : Nat
  column : Nat

namespace Cursor

def start (text : List Char) : Cursor := ⟨text, 0, 0, 0⟩

def atEnd (cursor : Cursor) : Bool := cursor.rest.isEmpty

def sees (c : Char) (cursor : Cursor) : Bool :=
  cursor.rest.head? = some c

def seesAt (offset : Nat) (test : Char → Bool) (cursor : Cursor) : Bool :=
  match cursor.rest[offset]? with
  | some c => test c
  | none => false

def seesBreak (cursor : Cursor) : Bool := cursor.seesAt 0 isBreak

def seesBlank (cursor : Cursor) : Bool := cursor.seesAt 0 isSpaceOrTab

def gapAt (offset : Nat) (cursor : Cursor) : Bool :=
  match cursor.rest[offset]? with
  | some c => isSpaceOrTab c || isBreak c
  | none => true

def lineEnds (cursor : Cursor) : Bool := cursor.atEnd || cursor.seesBreak

def skip (cursor : Cursor) : Cursor :=
  { cursor with
    rest := cursor.rest.drop 1, index := cursor.index + 1, column := cursor.column + 1 }

def skipMany (count : Nat) (cursor : Cursor) : Cursor :=
  { cursor with
    rest := cursor.rest.drop count, index := cursor.index + count, column := cursor.column + count }

/-- Takes a line break. It reads as a line feed, unless it separates lines or paragraphs by its own
nature. -/
def readBreak (cursor : Cursor) : List Char × Cursor :=
  let next (count : Nat) : Cursor :=
    ⟨cursor.rest.drop count, cursor.index + count, cursor.line + 1, 0⟩
  match cursor.rest with
  | '\r' :: '\n' :: _ => (['\n'], next 2)
  | '\u2028' :: _ => (['\u2028'], next 1)
  | '\u2029' :: _ => (['\u2029'], next 1)
  | c :: _ => if isBreak c then (['\n'], next 1) else ([], cursor)
  | [] => ([], cursor)

def skipBreak (cursor : Cursor) : Cursor := cursor.readBreak.2

def takeWhile (test : Char → Bool) (cursor : Cursor) : List Char × Cursor :=
  let taken := cursor.rest.takeWhile test
  (taken, cursor.skipMany taken.length)

def skipWhile (test : Char → Bool) (cursor : Cursor) : Cursor :=
  (cursor.takeWhile test).2

/-- Three dashes or three points alone at the start of a line. -/
def seesMarker (c : Char) (cursor : Cursor) : Bool :=
  cursor.column = 0 && cursor.rest.take 3 = [c, c, c] && cursor.gapAt 3

def seesDocumentMarker (cursor : Cursor) : Bool :=
  cursor.seesMarker '-' || cursor.seesMarker '.'

end Cursor

end GitDelivery.Yaml
