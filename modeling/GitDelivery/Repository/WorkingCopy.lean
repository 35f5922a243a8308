import GitDelivery.Bytes.Md5
import GitDelivery.FilePath
import GitDelivery.Resource.Key
import GitDelivery.Text.Alphanumeric

set_option autoImplicit false

/-! Where the working copy of a subscription's repository lies: below a root directory, by namespace,
name and a digest of both. -/

namespace GitDelivery.WorkingCopy

/-- Characters that a dash takes the place of. -/
def separates (c : Char) : Bool :=
  c = '@' || c = '/' || c = ':' || c = '\\' || c = ' ' || c = '\t' || c = '\n' || c = '\r'

/-- Two points in a row become one dash. -/
def joinPoints : List Char → List Char
  | '.' :: '.' :: rest => '-' :: joinPoints rest
  | c :: rest => c :: joinPoints rest
  | [] => []

def isKept (c : Char) : Bool :=
  Text.isAlphanumeric c || c = '-' || c = '_' || c = '.'

def componentOf (text : String) : String :=
  let dashed := text.toList.map fun c => if separates c then '-' else c
  String.ofList ((joinPoints dashed).filter isKept)

def directoryOf (root : String) (key : ObjectKey) : String :=
  FilePath.pushAll root
    [componentOf key.space, componentOf key.name, Bytes.md5 (Bytes.ofText key.text)]

end GitDelivery.WorkingCopy
