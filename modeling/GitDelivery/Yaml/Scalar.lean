import GitDelivery.Bytes.Hex
import GitDelivery.Yaml.Token

set_option autoImplicit false

/-! Reading scalars from text: plain ones, quoted ones with their escapes, and blocks. -/

namespace GitDelivery.Yaml.Scalar

/-- Blanks and line breaks inside a scalar, which are kept back until more text follows: blanks of
the line, its break, and the breaks after it. -/
structure Gap where
  blanks : List Char := []
  hasBreak : Bool := false
  firstBreak : List Char := []
  moreBreaks : List Char := []

/-- Blanks stay; a single line break becomes a space, and of several the first is dropped. -/
def Gap.folded (gap : Gap) : List Char :=
  if !gap.hasBreak then gap.blanks
  else if gap.firstBreak.head? = some '\n' then
    if gap.moreBreaks.isEmpty then [' '] else gap.moreBreaks
  else gap.firstBreak ++ gap.moreBreaks

/-- Takes blanks and line breaks. Plain scalars refuse a tab that stands for indentation, that is,
one before the given column. -/
def takeGap (tabLimit : Option Int) : Nat → Gap → Cursor → Except Failure (Gap × Cursor)
  | 0, gap, cursor => .ok (gap, cursor)
  | fuel + 1, gap, cursor =>
    if cursor.seesBlank then
      if gap.hasBreak && cursor.sees '\t' && tabLimit.any ((cursor.column : Int) < ·) then
        .error (.misplaced "a tab")
      else if gap.hasBreak then takeGap tabLimit fuel gap cursor.skip
      else
        takeGap tabLimit fuel { gap with blanks := gap.blanks ++ cursor.rest.take 1 } cursor.skip
    else if cursor.seesBreak then
      let (text, next) := cursor.readBreak
      if gap.hasBreak then
        takeGap tabLimit fuel { gap with moreBreaks := gap.moreBreaks ++ text } next
      else takeGap tabLimit fuel { gap with hasBreak := true, firstBreak := text } next
    else .ok (gap, cursor)

def isFlowMark (c : Char) : Bool :=
  c = ',' || c = '[' || c = ']' || c = '\x7b' || c = '\x7d'

def endsPlain (inFlow : Bool) (cursor : Cursor) : Bool :=
  cursor.gapAt 0 || (cursor.sees ':' && cursor.gapAt 1) || (inFlow && cursor.seesAt 0 isFlowMark)

/-- Takes characters of a plain scalar up to a blank or the end of the scalar. -/
def plainRun (inFlow : Bool) : Nat → List Char → Cursor → Except Failure (List Char × Cursor)
  | 0, run, cursor => .ok (run.reverse, cursor)
  | fuel + 1, run, cursor =>
    if inFlow && !cursor.gapAt 0 && cursor.sees ':'
        && cursor.seesAt 1 (fun c => isFlowMark c || c = '?') then
      .error (.misplaced "a colon")
    else if endsPlain inFlow cursor then .ok (run.reverse, cursor)
    else plainRun inFlow fuel (cursor.rest.take 1 ++ run) cursor.skip

/-- A plain scalar: its text, whether a line break followed it, and the place after it. -/
def plain (inFlow : Bool) (indent : Int) :
    Nat → List Char → Gap → Cursor → Except Failure (String × Bool × Cursor)
  | 0, text, gap, cursor => .ok (String.ofList text, gap.hasBreak, cursor)
  | fuel + 1, text, gap, cursor =>
    if cursor.seesDocumentMarker || cursor.sees '#' then
      .ok (String.ofList text, gap.hasBreak, cursor)
    else do
      let (run, afterRun) ← plainRun inFlow (cursor.rest.length + 1) [] cursor
      let text := if run.isEmpty then text else text ++ gap.folded ++ run
      let gap := if run.isEmpty then gap else {}
      if !(afterRun.seesBlank || afterRun.seesBreak) then
        return (String.ofList text, gap.hasBreak, afterRun)
      let (gap, next) ← takeGap (some (indent + 1)) (afterRun.rest.length + 1) gap afterRun
      if !inFlow && (next.column : Int) < indent + 1 then
        return (String.ofList text, gap.hasBreak, next)
      plain inFlow indent fuel text gap next

/-- The number that `count` hexadecimal digits at the front write. -/
def hexNumber? : Nat → Nat → List Char → Option Nat
  | 0, value, _ => some value
  | count + 1, value, c :: rest =>
    match Bytes.hexValue? c with
    | some digit => hexNumber? count (16 * value + digit) rest
    | none => none
  | _ + 1, _, [] => none

/-- The character that an escape letter stands for, or the number of digits that follow it. -/
def escape? : Char → Option (Char ⊕ Nat)
  | '0' => some (.inl '\x00')
  | 'a' => some (.inl '\x07')
  | 'b' => some (.inl '\x08')
  | 't' => some (.inl '\t')
  | '\t' => some (.inl '\t')
  | 'n' => some (.inl '\n')
  | 'v' => some (.inl '\x0b')
  | 'f' => some (.inl '\x0c')
  | 'r' => some (.inl '\r')
  | 'e' => some (.inl '\x1b')
  | ' ' => some (.inl ' ')
  | '"' => some (.inl '"')
  | '/' => some (.inl '/')
  | '\\' => some (.inl '\\')
  | 'N' => some (.inl '\u0085')
  | '_' => some (.inl '\u00a0')
  | 'L' => some (.inl '\u2028')
  | 'P' => some (.inl '\u2029')
  | 'x' => some (.inr 2)
  | 'u' => some (.inr 4)
  | 'U' => some (.inr 8)
  | _ => none

def escaped (cursor : Cursor) : Except Failure (Char × Cursor) :=
  match cursor.rest.head?.bind escape? with
  | some (.inl c) => .ok (c, cursor.skip)
  | some (.inr count) =>
    match hexNumber? count 0 (cursor.rest.drop 1) with
    | some code =>
      if code.isValidChar then .ok (Char.ofNat code, cursor.skipMany (count + 1))
      else .error (.invalid "escape")
    | none => .error (.invalid "escape")
  | none => .error (.invalid "escape")

/-- Takes characters of a quoted scalar up to a blank, a line break or the closing quote. An escaped
line break ends the run and begins the gap after it. -/
def quotedRun (isSingle : Bool) :
    Nat → List Char → Cursor → Except Failure (List Char × Bool × Cursor)
  | 0, run, cursor => .ok (run.reverse, false, cursor)
  | fuel + 1, run, cursor =>
    if cursor.gapAt 0 then .ok (run.reverse, false, cursor)
    else if isSingle && cursor.sees '\'' then
      if cursor.seesAt 1 (· = '\'') then quotedRun isSingle fuel ('\'' :: run) (cursor.skipMany 2)
      else .ok (run.reverse, false, cursor)
    else if !isSingle && cursor.sees '"' then .ok (run.reverse, false, cursor)
    else if !isSingle && cursor.sees '\\' then
      if cursor.seesAt 1 isBreak then .ok (run.reverse, true, cursor.skip.skipBreak)
      else
        match escaped cursor.skip with
        | .ok (c, next) => quotedRun isSingle fuel (c :: run) next
        | .error failure => .error failure
    else quotedRun isSingle fuel (cursor.rest.take 1 ++ run) cursor.skip

/-- A quoted scalar after its opening quote. -/
def quoted (isSingle : Bool) : Nat → List Char → Cursor → Except Failure (String × Cursor)
  | 0, _, _ => .error .unclosedScalar
  | fuel + 1, text, cursor =>
    if cursor.seesDocumentMarker then .error (.misplaced "a document marker")
    else if cursor.atEnd then .error .unclosedScalar
    else do
      let (run, joins, afterRun) ← quotedRun isSingle (cursor.rest.length + 1) [] cursor
      let text := text ++ run
      if afterRun.sees (if isSingle then '\'' else '"') then
        return (String.ofList text, afterRun.skip)
      let (gap, next) ← takeGap none (afterRun.rest.length + 1) { hasBreak := joins } afterRun
      quoted isSingle fuel (text ++ gap.folded) next

/-- What stands after the mark of a block: how line breaks at its end are kept (dropped for `-`, all
kept for `+`), and its indentation if it is given. -/
structure BlockHeader where
  dropsFinal : Bool := false
  keepsAll : Bool := false
  indent : Nat := 0

private def chomping (header : BlockHeader) (cursor : Cursor) : BlockHeader × Cursor :=
  if cursor.sees '+' then ({ header with keepsAll := true }, cursor.skip)
  else if cursor.sees '-' then ({ header with dropsFinal := true }, cursor.skip)
  else (header, cursor)

private def indentation (header : BlockHeader) (cursor : Cursor) :
    Except Failure (BlockHeader × Cursor) :=
  match cursor.rest.head? with
  | some c =>
    if c = '0' then .error (.invalid "indentation")
    else if c.isDigit then .ok ({ header with indent := c.toNat - '0'.toNat }, cursor.skip)
    else .ok (header, cursor)
  | none => .ok (header, cursor)

def blockHeader (cursor : Cursor) : Except Failure (BlockHeader × Cursor) := do
  let (header, next) ←
    if cursor.sees '+' || cursor.sees '-' then
      let (header, next) := chomping {} cursor
      indentation header next
    else do
      let (header, next) ← indentation {} cursor
      if header.indent = 0 then pure (header, next) else pure (chomping header next)
  let next := next.skipWhile isSpaceOrTab
  let next := if next.sees '#' then next.skipWhile (fun c => !isBreak c) else next
  if next.lineEnds then return (header, next.skipBreak) else throw (.invalid "block header")

/-- Takes empty lines and indentation before a line of a block, up to the given column or, if it is
zero, as far as blanks go. Returns the widest indentation and the line breaks. -/
def blockBreaks (indent : Nat) :
    Nat → Nat → List Char → Cursor → Except Failure (Nat × List Char × Cursor)
  | 0, widest, breaks, cursor => .ok (widest, breaks, cursor)
  | fuel + 1, widest, breaks, cursor =>
    let spaces := (cursor.rest.takeWhile (· = ' ')).length
    let taken := if indent = 0 then spaces else min spaces (indent - cursor.column)
    let next := cursor.skipMany taken
    let widest := max widest next.column
    if (indent = 0 || next.column < indent) && next.sees '\t' then .error (.misplaced "a tab")
    else if next.seesBreak then
      let (text, after) := next.readBreak
      blockBreaks indent fuel widest (breaks ++ text) after
    else .ok (widest, breaks, next)

/-- The lines of a block that stand at the given column. -/
def blockLines (isLiteral : Bool) (indent : Nat) :
    Nat → List Char → Gap → Bool → Cursor → Except Failure (List Char × Gap × Cursor)
  | 0, text, gap, _, cursor => .ok (text, gap, cursor)
  | fuel + 1, text, gap, afterBlank, cursor =>
    if cursor.column ≠ indent || cursor.atEnd then .ok (text, gap, cursor)
    else do
      let startsBlank := cursor.seesBlank
      let joins := !isLiteral && gap.firstBreak.head? = some '\n' && !afterBlank && !startsBlank
      let lead :=
        if joins then if gap.moreBreaks.isEmpty then [' '] else gap.moreBreaks
        else gap.firstBreak ++ gap.moreBreaks
      let (line, lineEnd) := cursor.takeWhile fun c => !isBreak c
      let (firstBreak, next) := lineEnd.readBreak
      let (_, moreBreaks, next) ← blockBreaks indent (next.rest.length + 1) 0 [] next
      blockLines isLiteral indent fuel (text ++ lead ++ line)
        { firstBreak := firstBreak, moreBreaks := moreBreaks } startsBlank next

/-- A block after its mark. Its text stands further right than the block around it. -/
def block (isLiteral : Bool) (parentIndent : Int) (cursor : Cursor) :
    Except Failure (String × Cursor) := do
  let (header, cursor) ← blockHeader cursor
  let given :=
    if header.indent = 0 then 0
    else if 0 ≤ parentIndent then parentIndent.toNat + header.indent else header.indent
  let (widest, breaks, cursor) ← blockBreaks given (cursor.rest.length + 1) 0 [] cursor
  let indent := if given = 0 then max (max widest (parentIndent + 1).toNat) 1 else given
  let (text, gap, cursor) ← blockLines isLiteral indent (cursor.rest.length + 1) []
    { moreBreaks := breaks } false cursor
  let text := if header.dropsFinal then text else text ++ gap.firstBreak
  let text := if header.keepsAll then text ++ gap.moreBreaks else text
  return (String.ofList text, cursor)

end GitDelivery.Yaml.Scalar
