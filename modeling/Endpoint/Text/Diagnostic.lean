import Endpoint.Text.Quoted

/-!
# Diagnostic text of structured values

Records, lists, maps and tagged values are shown on one line, in the form
`Name \x7b field: value, .. \x7d`; two dots say that a record has more fields than are
shown.
-/

namespace Endpoint

/-- A value to be shown. -/
inductive Diagnostic where
  | word (s : String)
  | text (s : String)
  | tagged (name : String) (value : Diagnostic)
  | list (items : List Diagnostic)
  | map (entries : List (String × Diagnostic))
  | record (name : String) (fields : List (String × Diagnostic)) (more : Bool)

namespace Diagnostic

def flag (b : Bool) : Diagnostic := word (if b then "true" else "false")

def number (n : Nat) : Diagnostic := word (toString n)

def option : Option Diagnostic → Diagnostic
  | none => word "None"
  | some d => tagged "Some" d

def optionalText (s : Option String) : Diagnostic := option (s.map text)

mutual

/-- The text of a value. -/
def render : Diagnostic → String
  | word s => s
  | text s => quoted s
  | tagged name d => name ++ "(" ++ render d ++ ")"
  | list items => "[" ++ ", ".intercalate (renderItems items) ++ "]"
  | map entries => "\x7b" ++ ", ".intercalate (renderEntries entries) ++ "\x7d"
  | record name fields more =>
    let parts := renderFields fields ++ (if more then [".."] else [])
    if parts.isEmpty then name
    else name ++ " \x7b " ++ ", ".intercalate parts ++ " \x7d"

def renderItems : List Diagnostic → List String
  | [] => []
  | d :: rest => render d :: renderItems rest

def renderEntries : List (String × Diagnostic) → List String
  | [] => []
  | (key, d) :: rest => (quoted key ++ ": " ++ render d) :: renderEntries rest

def renderFields : List (String × Diagnostic) → List String
  | [] => []
  | (name, d) :: rest => (name ++ ": " ++ render d) :: renderFields rest

end

end Diagnostic

end Endpoint
