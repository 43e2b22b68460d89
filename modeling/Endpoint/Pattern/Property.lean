import Endpoint.Unicode.Age
import Endpoint.Unicode.Category
import Endpoint.Unicode.Property
import Endpoint.Unicode.ScriptExtension
import Endpoint.Unicode.Segmentation

/-!
# Named sets of characters

The sets that a pattern may name: properties with a yes or a no, general categories,
scripts, and the sets of characters whose property has a given value.  Names are compared in
a loose form.
-/

namespace Endpoint

/-- A set of characters as a pattern names it. -/
inductive PropertyName where
  | plain (name : String)
  /-- the characters whose property has a value, or has another value -/
  | valued (property : String) (unequal : Bool) (value : String)
  deriving DecidableEq, Repr

namespace PropertyName

open Unicode

/-- The name without the word `is` that it may begin with. -/
def stripIs : List Char → Bool × List Char
  | a :: b :: rest =>
    if (a == 'i' || a == 'I') && (b == 's' || b == 'S') then (true, rest)
    else (false, a :: b :: rest)
  | cs => (false, cs)

/-- The form in which names are compared: a leading `is`, blanks, hyphens, underscores and
    case make no difference.  What is left of `isc` alone is that name itself. -/
def loose (name : String) : String :=
  let (stripped, cs) := stripIs name.toList
  let cs := (cs.filter fun c =>
    !(c == ' ' || c == '_' || c == '-') && decide (c.toNat < 0x80)).map Char.toLower
  if stripped && cs == ['c'] then "isc" else String.ofList cs

/-- The row of a table that one of its names selects. -/
def row? (rows : List (List String × String)) (name : String) : Option (List String × CharSet) :=
  (rows.find? fun (names, _) => names.any fun n => loose n == name).map
    fun (names, ranges) => (names, .ofText ranges)

/-- The general category, or group of categories, of a name in loose form. -/
def generalCategory? (name : String) : Option CharSet :=
  if name == "any" then some .any
  else if name == "assigned" then some assigned
  else if name == "ascii" then some ⟨[(0, 0x7F)]⟩
  else if ["cn", "unassigned"].contains name then some unassigned
  else
    match categoryGroups.find? fun (short, long, _) =>
        loose short == name || loose long == name with
    | some (_, _, members) =>
      some (if name == "c" || name == "other" then (categories members).union unassigned
        else categories members)
    | none =>
      if name == "punct" then some (categories ["Pc", "Pd", "Ps", "Pe", "Pi", "Pf", "Po"])
      else if name == "combiningmark" then some (categories ["Mn", "Mc", "Me"])
      else
        match categorySets.find? fun (short, _) => loose short == name with
        | some (_, set) => some set
        | none =>
          (categoryAliases.find? fun (long, _) => loose long == name).map
            fun (_, short) => categories [short]

/-- The script of a name in loose form. -/
def script? (name : String) : Option CharSet := (row? scriptRows name).map Prod.snd

/-- The characters used with the script of a name in loose form. -/
def scriptExtension? (name : String) : Option CharSet :=
  (row? scriptRows name).map fun (names, own) => withExtensions (names.headD "") own

/-- The binary property of a name in loose form. -/
def binary? (name : String) : Option CharSet := (row? propertyRows name).map Prod.snd

/-- The characters assigned by the version that a name in loose form gives, as `6.1` or as
    `V6_1`. -/
def age? (name : String) : Option CharSet :=
  match ageRows.find? fun (version, _) =>
      version == name || "v" ++ String.ofList (version.toList.filter (· != '.')) == name with
  | some (version, _) => assignedBy? version
  | none => none

/-- The class for perceived characters of a name in loose form. -/
def graphemeBreak? (name : String) : Option CharSet :=
  if name == "lv" then some openSyllables
  else if name == "lvt" then some closedSyllables
  else (row? graphemeBreakRows name).map Prod.snd

/-- The set of a plain name.  A property precedes a category and a category a script, but
    for three short names of categories that are also names of other things. -/
def plainSet? (name : String) : Option CharSet :=
  let name := loose name
  (if ["cf", "sc", "lc"].contains name then none else binary? name)
    <|> generalCategory? name <|> script? name

/-- The set of characters whose property has a value. -/
def valueSet? (property value : String) : Option CharSet :=
  let value := loose value
  match loose property with
  | "gc" | "generalcategory" => generalCategory? value
  | "sc" | "script" => script? value
  | "scx" | "scriptextensions" => scriptExtension? value
  | "age" => age? value
  | "gcb" | "graphemeclusterbreak" => graphemeBreak? value
  | "wb" | "wordbreak" => (row? wordBreakRows value).map Prod.snd
  | "sb" | "sentencebreak" => (row? sentenceBreakRows value).map Prod.snd
  | _ => none

/-- The set of a name; for an unequal value that of the value itself. -/
def set? : PropertyName → Option CharSet
  | plain name => plainSet? name
  | valued property _ value => valueSet? property value

/-- Whether the set of a name is meant, or the characters outside it. -/
def isUnequal : PropertyName → Bool
  | plain _ => false
  | valued _ unequal _ => unequal

/-- Splits a text at the first place where a condition holds of what follows. -/
def cut? (here : List Char → Bool) : List Char → Option (List Char × List Char)
  | [] => none
  | c :: rest =>
    if here (c :: rest) then some ([], c :: rest)
    else (cut? here rest).map fun (before, after) => (c :: before, after)

/-- The name that stands between braces: `!=`, `:` and `=`, in this order of preference,
    separate a property from its value. -/
def ofChars (cs : List Char) : PropertyName :=
  let separated (mark : List Char) : Option PropertyName :=
    (cut? mark.isPrefixOf cs).map fun (before, after) =>
      .valued (String.ofList before) (mark == ['!', '='])
        (String.ofList (after.drop mark.length))
  ((separated ['!', '='] <|> separated [':']) <|> separated ['=']).getD (.plain (String.ofList cs))

end PropertyName

end Endpoint
