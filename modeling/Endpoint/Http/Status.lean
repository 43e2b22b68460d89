import Endpoint.Number.Reading

/-!
# HTTP statuses

A status is a number of three digits that does not start with a zero.
-/

namespace Endpoint

/-- An HTTP status. -/
structure Status where
  code : Nat
  least : 100 ≤ code := by decide
  greatest : code ≤ 999 := by decide
  deriving DecidableEq, Repr

namespace Status

def ok : Status := ⟨200, by decide, by decide⟩

def badRequest : Status := ⟨400, by decide, by decide⟩

def unauthorized : Status := ⟨401, by decide, by decide⟩

def forbidden : Status := ⟨403, by decide, by decide⟩

def conflict : Status := ⟨409, by decide, by decide⟩

def serverError : Status := ⟨500, by decide, by decide⟩

def ofNat? (n : Nat) : Option Status :=
  if h : 100 ≤ n ∧ n ≤ 999 then some ⟨n, h.1, h.2⟩ else none

/-- Reads a status from a number of at most 16 bits with an optional plus sign. -/
def ofText? (s : String) : Option Status := (readUnsigned? 16 s).bind ofNat?

/-- The decimal text of a status. -/
def text (s : Status) : String := toString s.code

theorem ofNat?_code (s : Status) : ofNat? s.code = some s := by
  simp [ofNat?, s.least, s.greatest]

end Status

end Endpoint
