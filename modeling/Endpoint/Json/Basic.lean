import Endpoint.Number.Binary64

/-!
# JSON values

Numbers are integers or binary64 numbers, and the two are never equal.  The entries of an
object are kept in increasing order of their keys (by code point, which is also the order
of their UTF-8 bytes) with each key at most once; `Json.object` and `Entries.insert` keep
this form.
-/

namespace Endpoint

/-- A JSON value. -/
inductive Json where
  | null
  | bool (b : Bool)
  | int (i : Int)
  | float (x : Binary64)
  | str (s : String)
  | arr (items : List Json)
  | obj (entries : List (String × Json))

/-- Maps from text to values, as entries in increasing order of the keys. -/
abbrev Entries (α : Type) := List (String × α)

namespace Entries

variable {α β : Type}

/-- The value of a key. -/
def get? (key : String) : Entries α → Option α
  | [] => none
  | (k, v) :: rest => if k = key then some v else get? key rest

/-- Sets the value of a key, keeping the order. -/
def insert (key : String) (value : α) : Entries α → Entries α
  | [] => [(key, value)]
  | (k, v) :: rest =>
    if k = key then (key, value) :: rest
    else if key < k then (key, value) :: (k, v) :: rest
    else (k, v) :: insert key value rest

/-- The entries of a list of pairs; a later pair replaces an earlier one of its key. -/
def ofList (pairs : List (String × α)) : Entries α :=
  pairs.foldl (fun entries (k, v) => entries.insert k v) []

def keys (entries : Entries α) : List String := entries.map Prod.fst

def mapValues (f : α → β) (entries : Entries α) : Entries β :=
  entries.map fun (k, v) => (k, f v)

theorem get?_insert (key key' : String) (value : α) (entries : Entries α) :
    (entries.insert key value).get? key' =
      if key = key' then some value else entries.get? key' := by
  induction entries with
  | nil => simp [insert, get?]
  | cons head tail ih =>
    obtain ⟨k, v⟩ := head
    simp only [insert]
    by_cases hk : k = key
    · subst hk
      by_cases h : k = key' <;> simp [get?, h]
    · by_cases hlt : key < k
      · simp [hk, hlt, get?]
      · simp only [hk, hlt, if_false, get?, ih]
        by_cases h : k = key'
        · subst h
          simp [Ne.symm hk]
        · simp [h]

end Entries

namespace Json

/-- The object of a list of pairs; a later pair replaces an earlier one of its key. -/
def object (pairs : List (String × Json)) : Json := obj (Entries.ofList pairs)

/-- The value of a key of an object; other values have none. -/
def get? (key : String) : Json → Option Json
  | obj entries => Entries.get? key entries
  | _ => none

/-- Whether the value is an object. -/
def isObject : Json → Bool
  | obj _ => true
  | _ => false

def strings (items : List String) : Json := arr (items.map str)

/-- A missing value is null. -/
def ofOption (v : Option Json) : Json := v.getD null

end Json

end Endpoint
