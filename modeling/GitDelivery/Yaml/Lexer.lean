import GitDelivery.Yaml.Scalar

set_option autoImplicit false

/-! The tokens of a text. Keys without a mark of their own are found out by the colon after them, so
the lexer keeps where a key could have begun, one place for each bracket that is open, and puts the
key token in there once a colon follows on the same line within 1024 characters. -/

namespace GitDelivery.Yaml

/-- A place where a key may have begun. In block style at the indentation of the block it must turn
out to be a key. -/
structure PossibleKey where
  required : Bool
  tokenCount : Nat
  place : Cursor

/-- Tokens are collected last first. The levels of indentation around the current one are kept for
the ends of their blocks. -/
structure Lexer where
  cursor : Cursor
  tokens : List Token := []
  tokenCount : Nat := 0
  flowLevel : Nat := 0
  indent : Int := -1
  outerIndents : List Int := []
  keyAllowed : Bool := true
  key : Option PossibleKey := none
  outerKeys : List (Option PossibleKey) := []

namespace Lexer

abbrev Step := Lexer → Except Failure Lexer

def inFlow (lexer : Lexer) : Bool := 0 < lexer.flowLevel

def emit (token : Token) (lexer : Lexer) : Lexer :=
  { lexer with tokens := token :: lexer.tokens, tokenCount := lexer.tokenCount + 1 }

/-- Puts a token before the one with the given number. -/
def emitAt (number : Nat) (token : Token) (lexer : Lexer) : Lexer :=
  let later := lexer.tokenCount - number
  { lexer with
    tokens := lexer.tokens.take later ++ token :: lexer.tokens.drop later
    tokenCount := lexer.tokenCount + 1 }

def setCursor (cursor : Cursor) (lexer : Lexer) : Lexer :=
  { lexer with cursor := cursor }

def allowKey (allowed : Bool) (lexer : Lexer) : Lexer :=
  { lexer with keyAllowed := allowed }

private def isStale (now : Cursor) (key : PossibleKey) : Bool :=
  key.place.line < now.line || key.place.index + 1024 < now.index

private def dropStale (now : Cursor) : Option PossibleKey → Except Failure (Option PossibleKey)
  | none => .ok none
  | some key =>
    if isStale now key then if key.required then .error .missingColon else .ok none
    else .ok (some key)

/-- Forgets the places from which no colon can be reached any more. -/
def dropStaleKeys : Step := fun lexer => do
  let key ← dropStale lexer.cursor lexer.key
  let outerKeys ← lexer.outerKeys.mapM (dropStale lexer.cursor)
  return { lexer with key := key, outerKeys := outerKeys }

def forgetKey : Step := fun lexer =>
  match lexer.key with
  | some key => if key.required then .error .missingColon else .ok { lexer with key := none }
  | none => .ok lexer

/-- Notes that a key may begin here. -/
def noteKey : Step := fun lexer =>
  if lexer.keyAllowed then do
    let required := !lexer.inFlow && lexer.indent = lexer.cursor.column
    let forgotten ← lexer.forgetKey
    return { forgotten with key := some ⟨required, lexer.tokenCount, lexer.cursor⟩ }
  else .ok lexer

/-- Ends the blocks that stand further right than a column. -/
def closeBlocks (column : Int) (lexer : Lexer) : Lexer :=
  if lexer.inFlow then lexer else go lexer.outerIndents lexer
where
  go : List Int → Lexer → Lexer
    | [], lexer => lexer
    | outer :: rest, lexer =>
      if column < lexer.indent then
        go rest { (lexer.emit .blockEnd) with indent := outer, outerIndents := rest }
      else lexer

/-- Begins a block at a column if it stands further right than the current one. -/
def openBlock (column : Nat) (number : Option Nat) (token : Token) (lexer : Lexer) : Lexer :=
  if !lexer.inFlow && lexer.indent < column then
    let opened :=
      { lexer with indent := column, outerIndents := lexer.indent :: lexer.outerIndents }
    match number with
    | none => opened.emit token
    | some number => opened.emitAt number token
  else lexer

/-- Skips blanks, comments and line breaks, and a byte order mark that starts a line, which takes up a
column of it. A tab is a blank only where no key may begin. -/
def skipGap : Nat → Lexer → Lexer
  | 0, lexer => lexer
  | fuel + 1, lexer =>
    let tabs := lexer.inFlow || !lexer.keyAllowed
    let start := lexer.cursor
    let cursor := if start.column = 0 && start.sees '\uFEFF' then start.skip else start
    let cursor := cursor.skipWhile fun c => c = ' ' || (tabs && c = '\t')
    let cursor := if cursor.sees '#' then cursor.skipWhile (fun c => !isBreak c) else cursor
    let lexer := lexer.setCursor cursor
    if cursor.seesBreak then
      let next := lexer.setCursor cursor.skipBreak
      skipGap fuel (if next.inFlow then next else next.allowKey true)
    else lexer

private def skipBlanks (cursor : Cursor) : Cursor := cursor.skipWhile isSpaceOrTab

/-- The bytes written by percent signs and two hexadecimal digits each. -/
private def percentBytes : Nat → List Char → Bytes
  | 0, _ => []
  | fuel + 1, '%' :: high :: low :: rest =>
    match Bytes.hexValue? high, Bytes.hexValue? low with
    | some h, some l => (16 * h + l).toUInt8 :: percentBytes fuel rest
    | _, _ => []
  | _ + 1, _ => []

private def percentChar (cursor : Cursor) : Except Failure (Char × Cursor) :=
  match percentBytes 4 cursor.rest with
  | byte :: rest =>
    match Bytes.firstChar byte rest with
    | (some c, size) => .ok (c, cursor.skipMany (3 * size))
    | (none, _) => .error (.invalid "tag")
  | [] => .error (.invalid "tag")

private def isTagChar (isVerbatim : Bool) (c : Char) : Bool :=
  isWordChar c || ";/?:@&=+$.!~*'()%".toList.contains c || (isVerbatim && (c = ',' || c = '[' || c = ']'))

private def tagChars (isVerbatim : Bool) : Nat → Cursor → Except Failure (List Char × Cursor)
  | 0, cursor => .ok ([], cursor)
  | fuel + 1, cursor =>
    match cursor.rest.head? with
    | some c =>
      if !isTagChar isVerbatim c then .ok ([], cursor)
      else do
        let (c, next) ← if c = '%' then percentChar cursor else pure (c, cursor.skip)
        let (more, last) ← tagChars isVerbatim fuel next
        return (c :: more, last)
    | none => .ok ([], cursor)

/-- An exclamation mark, a word, and another exclamation mark if there is one. -/
private def tagHandle (isDirective : Bool) (cursor : Cursor) : Except Failure (List Char × Cursor) :=
  if !cursor.sees '!' then .error (.invalid "tag")
  else
    let (word, next) := cursor.skip.takeWhile isWordChar
    if next.sees '!' then .ok ('!' :: word ++ ['!'], next.skip)
    else if isDirective && !word.isEmpty then .error (.invalid "tag")
    else .ok ('!' :: word, next)

/-- A tag is a full name between angle brackets, a suffix after a handle, or a name of its own after
one exclamation mark. -/
private def tag (inFlow : Bool) (cursor : Cursor) : Except Failure (Token × Cursor) := do
  let (token, next) ←
    if cursor.seesAt 1 (· = '<') then do
      let (name, next) ← tagChars true cursor.rest.length (cursor.skipMany 2)
      if name.isEmpty || !next.sees '>' then throw (.invalid "tag")
      pure (Token.tag "" (String.ofList name), next.skip)
    else do
      let (handle, next) ← tagHandle false cursor
      let (rest, next) ← tagChars false next.rest.length next
      if 2 ≤ handle.length && handle.getLast? = some '!' then
        if rest.isEmpty then throw (.invalid "tag")
        pure (Token.tag (String.ofList handle) (String.ofList rest), next)
      else
        let suffix := handle.drop 1 ++ rest
        pure (if suffix.isEmpty then Token.tag "" "!" else Token.tag "!" (String.ofList suffix), next)
  if next.gapAt 0 || (inFlow && next.sees ',') then return (token, next)
  else throw (.invalid "tag")

private def versionNumber (cursor : Cursor) : Except Failure (Nat × Cursor) :=
  let (digits, next) := cursor.takeWhile Char.isDigit
  if digits.isEmpty || 9 < digits.length then .error (.invalid "directive")
  else .ok (digits.foldl (fun total c => 10 * total + (c.toNat - '0'.toNat)) 0, next)

private def directive (cursor : Cursor) : Except Failure (Token × Cursor) := do
  let (name, afterName) := cursor.skip.takeWhile isWordChar
  if name.isEmpty || !afterName.gapAt 0 then throw (.invalid "directive")
  let (token, next) ←
    if name = "YAML".toList then do
      let (major, next) ← versionNumber (skipBlanks afterName)
      if !next.sees '.' then throw (.invalid "directive")
      let (minor, next) ← versionNumber next.skip
      pure (Token.versionDirective major minor, next)
    else if name = "TAG".toList then do
      let (handle, next) ← tagHandle true (skipBlanks afterName)
      if !next.seesBlank then throw (.invalid "directive")
      let (expansion, next) ← tagChars true next.rest.length (skipBlanks next)
      if expansion.isEmpty || !next.gapAt 0 then throw (.invalid "directive")
      pure (Token.tagDirective (String.ofList handle) (String.ofList expansion), next)
    else throw (.invalid "directive")
  let next := skipBlanks next
  let next := if next.sees '#' then next.skipWhile (fun c => !isBreak c) else next
  if next.lineEnds then return (token, next.skipBreak) else throw (.invalid "directive")

/-- The name of an anchor or of a reference to one. -/
private def anchorName (cursor : Cursor) : Except Failure (String × Cursor) :=
  let (name, next) := cursor.skip.takeWhile isWordChar
  let ends := next.gapAt 0 || next.seesAt 0 fun c => "?:,]\x7d%@".toList.contains c || c.toNat = 0x60
  if name.isEmpty || !ends then .error (.invalid "anchor") else .ok (String.ofList name, next)

private def leaveBlocks : Step := fun lexer => do
  let closed ← (lexer.closeBlocks (-1)).forgetKey
  return closed.allowKey false

private def scanDirective : Step := fun lexer => do
  let ready ← lexer.leaveBlocks
  let (token, next) ← directive ready.cursor
  return (ready.emit token).setCursor next

private def scanMarker (token : Token) : Step := fun lexer => do
  let ready ← lexer.leaveBlocks
  return (ready.emit token).setCursor (ready.cursor.skipMany 3)

private def openFlow (token : Token) : Step := fun lexer => do
  let noted ← lexer.noteKey
  let opened :=
    { noted with
      flowLevel := noted.flowLevel + 1, key := none, outerKeys := noted.key :: noted.outerKeys
      keyAllowed := true }
  return (opened.emit token).setCursor opened.cursor.skip

private def closeFlow (token : Token) : Step := fun lexer => do
  let ready ← lexer.forgetKey
  let closed :=
    if ready.inFlow then
      { ready with
        flowLevel := ready.flowLevel - 1, key := ready.outerKeys.headD none
        outerKeys := ready.outerKeys.drop 1 }
    else ready
  return ((closed.allowKey false).emit token).setCursor closed.cursor.skip

private def scanFlowEntry : Step := fun lexer => do
  let ready ← lexer.forgetKey
  return ((ready.allowKey true).emit .flowEntry).setCursor ready.cursor.skip

private def scanBlockEntry : Step := fun lexer => do
  if !lexer.inFlow && !lexer.keyAllowed then throw (.misplaced "a list entry")
  let ready ← (lexer.openBlock lexer.cursor.column none .blockSequenceStart).forgetKey
  return ((ready.allowKey true).emit .blockEntry).setCursor ready.cursor.skip

private def scanKey : Step := fun lexer => do
  if !lexer.inFlow && !lexer.keyAllowed then throw (.misplaced "a key")
  let ready ← (lexer.openBlock lexer.cursor.column none .blockMappingStart).forgetKey
  return ((ready.allowKey (!ready.inFlow)).emit .key).setCursor ready.cursor.skip

private def scanValue : Step := fun lexer => do
  let ready ←
    match lexer.key with
    | some key =>
      let marked := lexer.emitAt key.tokenCount .key
      let opened := marked.openBlock key.place.column (some key.tokenCount) .blockMappingStart
      pure { opened with key := none, keyAllowed := false }
    | none =>
      if !lexer.inFlow && !lexer.keyAllowed then throw (.misplaced "a value")
      let opened := lexer.openBlock lexer.cursor.column none .blockMappingStart
      pure (opened.allowKey (!opened.inFlow))
  return (ready.emit .value).setCursor ready.cursor.skip

private def scanAnchor (token : String → Token) : Step := fun lexer => do
  let noted ← lexer.noteKey
  let (name, next) ← anchorName noted.cursor
  return ((noted.allowKey false).emit (token name)).setCursor next

private def scanTag : Step := fun lexer => do
  let noted ← lexer.noteKey
  let (token, next) ← tag noted.inFlow noted.cursor
  return ((noted.allowKey false).emit token).setCursor next

private def scanBlockScalar (isLiteral : Bool) : Step := fun lexer => do
  let ready ← lexer.forgetKey
  let (text, next) ← Scalar.block isLiteral ready.indent ready.cursor.skip
  return ((ready.allowKey true).emit (.scalar text false)).setCursor next

private def scanQuoted (isSingle : Bool) : Step := fun lexer => do
  let noted ← lexer.noteKey
  let start := noted.cursor.skip
  let (text, next) ← Scalar.quoted isSingle (start.rest.length + 2) [] start
  return ((noted.allowKey false).emit (.scalar text false)).setCursor next

private def scanPlain : Step := fun lexer => do
  let noted ← lexer.noteKey
  let cursor := noted.cursor
  let (text, crossedLine, next) ←
    Scalar.plain noted.inFlow noted.indent (cursor.rest.length + 2) [] {} cursor
  return ((noted.allowKey crossedLine).emit (.scalar text true)).setCursor next

private def startsPlain (inFlow : Bool) (cursor : Cursor) : Bool :=
  match cursor.rest with
  | [] => false
  | c :: _ =>
    (!cursor.gapAt 0 && !("-?:,[]\x7b\x7d#&*!|>'\"%@".toList.contains c || c.toNat = 0x60)) ||
      (c = '-' && !cursor.seesAt 1 isSpaceOrTab) ||
      (!inFlow && (c = '?' || c = ':') && !cursor.gapAt 1)

def scanToken : Step := fun lexer =>
  let cursor := lexer.cursor
  let mark (c : Char) : Bool := cursor.sees c
  if cursor.column = 0 && mark '%' then scanDirective lexer
  else if cursor.seesMarker '-' then scanMarker .documentStart lexer
  else if cursor.seesMarker '.' then scanMarker .documentEnd lexer
  else if mark '[' then openFlow .flowSequenceStart lexer
  else if mark '\x7b' then openFlow .flowMappingStart lexer
  else if mark ']' then closeFlow .flowSequenceEnd lexer
  else if mark '\x7d' then closeFlow .flowMappingEnd lexer
  else if mark ',' then scanFlowEntry lexer
  else if mark '-' && cursor.gapAt 1 then scanBlockEntry lexer
  else if mark '?' && (lexer.inFlow || cursor.gapAt 1) then scanKey lexer
  else if mark ':' && (lexer.inFlow || cursor.gapAt 1) then scanValue lexer
  else if mark '*' then scanAnchor .reference lexer
  else if mark '&' then scanAnchor .anchor lexer
  else if mark '!' then scanTag lexer
  else if mark '|' && !lexer.inFlow then scanBlockScalar true lexer
  else if mark '>' && !lexer.inFlow then scanBlockScalar false lexer
  else if mark '\'' then scanQuoted true lexer
  else if mark '"' then scanQuoted false lexer
  else if startsPlain lexer.inFlow cursor then scanPlain lexer
  else .error (.misplaced "a character")

/-- Takes all tokens. Each step but the last takes at least one character. -/
def scanAll : Nat → Lexer → Except Failure (List Token)
  | 0, lexer => .ok lexer.tokens.reverse
  | fuel + 1, lexer => do
    let ready ← (lexer.skipGap (lexer.cursor.rest.length + 1)).dropStaleKeys
    let ready := ready.closeBlocks ready.cursor.column
    if ready.cursor.atEnd then
      let closed ← (ready.closeBlocks (-1)).forgetKey
      return closed.tokens.reverse
    let next ← ready.scanToken
    scanAll fuel next

end Lexer

/-- Tabs, line breaks and what can be printed. -/
def isAllowed (c : Char) : Bool :=
  let code := c.toNat
  code = 0x9 || code = 0xA || code = 0xD || (0x20 ≤ code && code ≤ 0x7E) || code = 0x85 ||
    (0xA0 ≤ code && code ≤ 0xD7FF) || (0xE000 ≤ code && code ≤ 0xFFFD) || 0x10000 ≤ code

def tokens (text : String) : Except Failure (List Token) :=
  let chars := text.toList
  if chars.all isAllowed then Lexer.scanAll (chars.length + 1) { cursor := Cursor.start chars }
  else .error .forbiddenCharacter

end GitDelivery.Yaml
