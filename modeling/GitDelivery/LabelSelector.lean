import GitDelivery.Table

set_option autoImplicit false

/-! Label selectors: labels that must be there, and requirements on single labels. Evaluation stops at
the first condition that fails, so a requirement with an unknown operator is reported only if
everything before it holds. -/

namespace GitDelivery

structure LabelRequirement where
  key : String
  operator : String
  values : List String
  deriving DecidableEq

structure LabelSelector where
  labels : Table String
  requirements : List LabelRequirement
  deriving DecidableEq

inductive SelectorError where
  | unsupportedOperator (operator key : String)
  deriving DecidableEq

def SelectorError.message : SelectorError → String
  | unsupportedOperator operator key =>
    "unsupported label selector operator '" ++ operator ++ "' for key '" ++ key ++ "'"

namespace LabelSelector

/-- Does a label with one of the values stand in the table? -/
def hasOneOf (key : String) (values : List String) (labels : Table String) : Bool :=
  match Table.get? key labels with
  | some value => values.contains value
  | none => false

def requirementHolds (labels : Table String) (requirement : LabelRequirement) :
    Except SelectorError Bool :=
  if requirement.operator = "In" then .ok (hasOneOf requirement.key requirement.values labels)
  else if requirement.operator = "NotIn" then
    .ok (!hasOneOf requirement.key requirement.values labels)
  else if requirement.operator = "Exists" then .ok (Table.get? requirement.key labels).isSome
  else if requirement.operator = "DoesNotExist" then .ok (Table.get? requirement.key labels).isNone
  else .error (.unsupportedOperator requirement.operator requirement.key)

def allHold (labels : Table String) : List LabelRequirement → Except SelectorError Bool
  | [] => .ok true
  | requirement :: rest => do
    if ← requirementHolds labels requirement then allHold labels rest else return false

/-- Does the selector select an object with these labels? An empty one selects everything. -/
def selects (selector : LabelSelector) (labels : Table String) : Except SelectorError Bool :=
  if selector.labels.all fun (key, value) => Table.get? key labels = some value then
    allHold labels selector.requirements
  else .ok false

end LabelSelector

end GitDelivery
