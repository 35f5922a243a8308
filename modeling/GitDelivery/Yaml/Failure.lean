set_option autoImplicit false

/-! Why a text is no YAML document, or its content is not what a reader wants. -/

namespace GitDelivery.Yaml

inductive Failure where
  | forbiddenCharacter
  | missingColon
  | misplaced (what : String)
  | invalid (what : String)
  | unclosedScalar
  | undefinedTagHandle
  | unknownAnchor (name : String)
  | tooDeep
  | tooManyAliases
  | severalDocuments
  | duplicateKey
  | typedScalar (expected : String)
  | shape (expected : String)
  deriving DecidableEq

def Failure.message : Failure → String
  | forbiddenCharacter => "control characters are not allowed"
  | missingColon => "a colon is missing after a key"
  | misplaced what => what ++ " is not allowed here"
  | invalid what => "invalid " ++ what
  | unclosedScalar => "a quoted text does not end"
  | undefinedTagHandle => "undefined tag handle"
  | unknownAnchor name => "unknown anchor " ++ name
  | tooDeep => "nested too deeply"
  | tooManyAliases => "aliases repeat too much"
  | severalDocuments => "more than one document"
  | duplicateKey => "duplicate key"
  | typedScalar expected => "expected " ++ expected
  | shape expected => "expected " ++ expected

end GitDelivery.Yaml
