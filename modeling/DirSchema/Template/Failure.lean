import DirSchema.Template.Tag
set_option autoImplicit false

namespace DirSchema.Template

inductive Reason where
  /-- There is no value, or none that the helper can use. The path is given if there is one. -/
  | missingVariable (path : Option String)
  | partialNotFound (name : String)
  | helperNotFound (name : String)
  | decoratorNotFound (name : String)
  | missingArgument (helper : String) (index : Nat)
  | missingParameter (helper parameter : String)
  | mistypedParameter (helper parameter type : String)
  | invalidType (expected : String)
  | invalidIndex (text : String)
  | invalidLevel (text : String)
  | contentRequired
  /-- Partials include each other too deeply. -/
  | tooDeep
deriving DecidableEq, Repr

def quotedChar (c : Char) : List Char :=
  match c with
  | '"' => ['\\', '"']
  | '\\' => ['\\', '\\']
  | '\n' => ['\\', 'n']
  | '\r' => ['\\', 'r']
  | '\t' => ['\\', 't']
  | '\x00' => ['\\', '0']
  | c =>
    if c.toNat < 0x20 || c.toNat == 0x7F then
      ['\\', 'u', '\x7b'] ++ Nat.toDigits 16 c.toNat ++ ['\x7d']
    else [c]

def quoted (s : String) : String := String.ofList (['"'] ++ s.toList.flatMap quotedChar ++ ['"'])

namespace Reason

def message : Reason → String
  | .missingVariable (some path) =>
    "Failed to access variable in strict mode Some(" ++ quoted path ++ ")"
  | .missingVariable none => "Failed to access variable in strict mode None"
  | .partialNotFound name => "Partial not found " ++ name
  | .helperNotFound name => "Helper not found " ++ name
  | .decoratorNotFound name => "Decorator not found " ++ name
  | .missingArgument helper index =>
    "Helper/Decorator " ++ helper ++ " param at index " ++ Text.decimal index ++
      " required but not found"
  | .missingParameter helper parameter =>
    "Helper/Decorator " ++ helper ++ " param with name " ++ parameter ++ " required but not found"
  | .mistypedParameter helper parameter type =>
    "Helper/Decorator " ++ helper ++ " param with name " ++ parameter ++ " type mismatch for " ++
      type
  | .invalidType expected => "Invalid param type, " ++ expected ++ " expected"
  | .invalidIndex text => "Cannot access array/vector with string index, " ++ text
  | .invalidLevel text => "Invalid logging level: " ++ text
  | .contentRequired => "Block content required"
  | .tooDeep => "Partials are nested too deeply"

end Reason

/-- A failure: the reason, and the place of the innermost element that has one. -/
structure Failure where
  reason : Reason
  place : Option Place := none
deriving DecidableEq, Repr

namespace Failure

/-- The failure at a place, unless it has one already. -/
def located (place : Option Place) (failure : Failure) : Failure :=
  { failure with place := failure.place.or place }

def message (failure : Failure) : String :=
  match failure.place with
  | some place =>
    "Error rendering \"Unnamed template\" line " ++ Text.decimal place.line ++ ", col " ++
      Text.decimal place.column ++ ": " ++ failure.reason.message
  | none => failure.reason.message

end Failure
end DirSchema.Template
