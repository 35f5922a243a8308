import GitDelivery.Text.Basic

set_option autoImplicit false

/-! Texts between double quotes for people to read: what cannot be seen is written by its number. -/

namespace GitDelivery.Text

/-- Control and format characters, blanks other than the space, marks that combine with the
character before them, and characters for private use. -/
def isHidden (c : Char) : Bool :=
  let code := c.toNat
  code < 0x20 || (0x7F ≤ code && code < 0xA0) || code == 0xAD ||
    (0x300 ≤ code && code < 0x370) || (0x600 ≤ code && code < 0x606) ||
    (0x200B ≤ code && code < 0x2010) || (0x202A ≤ code && code < 0x202F) ||
    (0x2060 ≤ code && code < 0x2070) || (0xE000 ≤ code && code < 0xF900) ||
    (0xFE00 ≤ code && code < 0xFE10) || code == 0xFEFF || (0xFFF0 ≤ code && code < 0xFFFC) ||
    0xE0000 ≤ code || (c != ' ' && isBlank c)

private def quotedChar (c : Char) : List Char :=
  if c = '"' then ['\\', '"']
  else if c = '\\' then ['\\', '\\']
  else if c = '\t' then ['\\', 't']
  else if c = '\n' then ['\\', 'n']
  else if c = '\r' then ['\\', 'r']
  else if c.toNat = 0 then ['\\', '0']
  else if isHidden c then ['\\', 'u', '\x7b'] ++ Nat.toDigits 16 c.toNat ++ ['\x7d']
  else [c]

def quoted (text : String) : String :=
  String.ofList ('"' :: text.toList.flatMap quotedChar ++ ['"'])

end GitDelivery.Text
