import Endpoint.Text.Blank

/-!
# Error categories

Every service error belongs to one of five categories, which decides who is told about it
and which status a response gets.
-/

namespace Endpoint

/-- The category of a service error. -/
inductive Category where
  | unexpected
  | http
  | security
  | client
  | logic
  deriving DecidableEq, Repr

namespace Category

/-- All categories, the one that decides a response's status first. -/
def all : List Category := [unexpected, http, security, client, logic]

def name : Category → String
  | unexpected => "unexpected"
  | http => "http"
  | security => "security"
  | client => "client"
  | logic => "logic"

/-- The name of a category with a capital letter. -/
def title : Category → String
  | unexpected => "Unexpected"
  | http => "Http"
  | security => "Security"
  | client => "Client"
  | logic => "Logic"

/-- The letter that stands for a category in a displayed error code. -/
def letter : Category → Char
  | unexpected => 'U'
  | http => 'H'
  | security => 'S'
  | client => 'C'
  | logic => 'L'

/-- Reads a category from its name or letter, in any ASCII case and with white space
    around it. -/
def ofText? (text : String) : Option Category :=
  let word := asciiLower (trimText text)
  all.find? fun c => word == c.name || word == String.ofList [c.letter.toLower]

/-- What is said of a text that names no category. -/
def unknownMessage (text : String) : String := s!"unknown service error category '" ++ text ++ "'"

end Category

end Endpoint
