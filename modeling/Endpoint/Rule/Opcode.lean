import Endpoint.Field.Kind

/-!
# Opcodes

The words that start the tokens of a rule, and the kinds of fields each may be applied to.
-/

namespace Endpoint

/-- What an operation of a rule does. -/
inductive Opcode where
  | required
  | oneOf
  | range
  | length
  | pattern
  | flag
  | stopField
  | stopAll
  | external
  deriving DecidableEq, Repr

namespace Opcode

def all : List Opcode :=
  [required, oneOf, range, length, pattern, flag, stopField, stopAll, external]

/-- The word for an opcode in a token. -/
def word : Opcode → String
  | required => "REQ"
  | oneOf => "IN"
  | range => "RANGE"
  | length => "LEN"
  | pattern => "REG"
  | flag => "IS"
  | stopField => "BREAK"
  | stopAll => "STOPALL"
  | external => "EXT"

def ofWord? (s : String) : Option Opcode := all.find? fun o => o.word == s

/-- Whether an opcode may be applied to fields of a kind.  Which kinds an external checker
    takes is for the checker to say. -/
def supports : Opcode → Kind → Bool
  | required, k => k != .bool
  | oneOf, k => !k.isBool
  | range, k => k.isNumeric
  | length, k | pattern, k => k.isString
  | flag, k => k.isBool
  | stopField, _ | stopAll, _ | external, _ => true

theorem ofWord?_word (o : Opcode) : ofWord? o.word = some o := by cases o <;> rfl

end Opcode

end Endpoint
