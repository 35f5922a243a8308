import GitDelivery.Json.Printer

set_option autoImplicit false

/-! Structured values as block YAML. Texts and keys stand between double quotes, so that each of them
reads back as itself; empty collections stand in brackets. -/

namespace GitDelivery.Yaml

private def hex (width code : Nat) : List Char :=
  let digits := Nat.toDigits 16 code
  List.replicate (width - digits.length) '0' ++ digits

/-- What may stand for itself between double quotes: printable ASCII, and letters that no reader
takes for a mark or a line break. -/
private def standsForItself (code : Nat) : Bool :=
  (0x20 ≤ code && code ≤ 0x7E) || (0xA1 ≤ code && code ≤ 0x1FFF) ||
    (0x3001 ≤ code && code ≤ 0xD7FF) || 0x10000 ≤ code

private def quotedChar (c : Char) : List Char :=
  let code := c.toNat
  if c = '"' then ['\\', '"']
  else if c = '\\' then ['\\', '\\']
  else if c = '\n' then ['\\', 'n']
  else if c = '\t' then ['\\', 't']
  else if standsForItself code then [c]
  else if code < 0x100 then ['\\', 'x'] ++ hex 2 code
  else ['\\', 'u'] ++ hex 4 code

def quote (text : String) : String :=
  String.ofList ('"' :: text.toList.flatMap quotedChar ++ ['"'])

private def indentation (depth : Nat) : String :=
  String.ofList (List.replicate (2 * depth) ' ')

/-- Keys longer than a simple key may be need a mark of their own. -/
private def keyText (key : String) : String :=
  let written := quote key
  if written.length ≤ 500 then written ++ ":" else "? " ++ written ++ "\n"

mutual

/-- A value after its key or dash, with what separates them. -/
private def renderInner (depth : Nat) : Json → String
  | .array (item :: rest) => "\n" ++ renderItems depth (item :: rest)
  | .object (field :: rest) => "\n" ++ renderFields depth (field :: rest)
  | .array [] => " []\n"
  | .object [] => " \x7b\x7d\n"
  | .null => " null\n"
  | .bool true => " true\n"
  | .bool false => " false\n"
  | .number value => " " ++ value.render ++ "\n"
  | .text value => " " ++ quote value ++ "\n"

private def renderItems (depth : Nat) : List Json → String
  | [] => ""
  | item :: rest => indentation depth ++ "-" ++ renderInner (depth + 1) item ++ renderItems depth rest

private def renderFields (depth : Nat) : List (String × Json) → String
  | [] => ""
  | (key, value) :: rest =>
    let lead :=
      if (quote key).length ≤ 500 then indentation depth ++ keyText key
      else indentation depth ++ keyText key ++ indentation depth ++ ":"
    lead ++ renderInner (depth + 1) value ++ renderFields depth rest

end

def render : Json → String
  | .array (item :: rest) => renderItems 0 (item :: rest)
  | .object (field :: rest) => renderFields 0 (field :: rest)
  | value => String.ofList ((renderInner 0 value).toList.drop 1)

end GitDelivery.Yaml
