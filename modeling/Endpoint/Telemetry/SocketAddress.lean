import Endpoint.Number.Hexadecimal
import Endpoint.Number.Reading

/-!
# Socket addresses

An address is that of a host and a port.  Hosts of the fourth version are four numbers
joined by points; those of the sixth version are eight groups of hexadecimal digits in
brackets, where one run of zero groups may be left out, the last two groups may be written
as four numbers, and a scope may follow a percent sign.

An address is written in one form only: the longest run of zero groups is left out, the first
of several.
-/

namespace Endpoint

/-- The address of a host. -/
inductive HostAddress where
  /-- four bytes -/
  | four (bytes : List Nat)
  /-- eight groups of 16 bits and a scope -/
  | six (groups : List Nat) (scope : Nat)
  deriving DecidableEq, Repr

/-- The address of a host and a port. -/
structure SocketAddress where
  host : HostAddress
  port : Nat
  deriving DecidableEq, Repr

namespace SocketAddress

/-- Reads the character `c`. -/
def readChar (c : Char) : List Char → Option (List Char)
  | d :: rest => if d = c then some rest else none
  | [] => none

/-- Reads a decimal number below `bound`. -/
def readDecimal (bound : Nat) (s : List Char) : Option (Nat × List Char) :=
  let ds := s.takeWhile Char.isDigit
  if ds.isEmpty ∨ bound ≤ digitsValue 0 ds then none
  else some (digitsValue 0 ds, s.drop ds.length)

/-- Reads a byte: at most three digits, of which the first is a zero only if it is alone. -/
def readByte (s : List Char) : Option (Nat × List Char) :=
  let ds := s.takeWhile Char.isDigit
  if 3 < ds.length ∨ (ds.head? = some '0' ∧ ds.length ≠ 1) then none else readDecimal 256 s

/-- Reads a point and a byte. -/
def readNextByte (s : List Char) : Option (Nat × List Char) := (readChar '.' s).bind readByte

/-- Reads four bytes joined by points. -/
def readFour (s : List Char) : Option (List Nat × List Char) := do
  let (a, s) ← readByte s
  let (b, s) ← readNextByte s
  let (c, s) ← readNextByte s
  let (d, s) ← readNextByte s
  some ([a, b, c, d], s)

/-- Reads a group: up to four hexadecimal digits. -/
def readGroup (s : List Char) : Option (Nat × List Char) :=
  let ds := s.takeWhile Hexadecimal.isDigit
  if 4 < ds.length then none else (Hexadecimal.number? ds).map fun n => (n, s.drop ds.length)

/-- Reads at most `room` groups joined by colons, of which the last two may be written as four
    bytes; tells whether they are. -/
def readGroups : Nat → Bool → List Char → List Nat × Bool × List Char
  | 0, _, s => ([], false, s)
  | room + 1, first, s =>
    let start := if first then some s else readChar ':' s
    match (if room = 0 then none else start.bind readFour), start.bind readGroup with
    | some ([a, b, c, d], rest), _ => ([256 * a + b, 256 * c + d], true, rest)
    | _, some (g, rest) =>
      let (gs, four, rest) := readGroups room false rest
      (g :: gs, four, rest)
    | _, none => ([], false, s)

/-- Reads eight groups, with zeros for those left out between two colons. -/
def readSix (s : List Char) : Option (List Nat × List Char) :=
  let (head, four, rest) := readGroups 8 true s
  if head.length = 8 then some (head, rest)
  else if four then none
  else do
    let rest ← readChar ':' rest
    let rest ← readChar ':' rest
    let (tail, _, rest) := readGroups (7 - head.length) true rest
    some (head ++ List.replicate (8 - head.length - tail.length) 0 ++ tail, rest)

/-- Reads a colon and a port up to the end. -/
def readPort (s : List Char) : Option Nat :=
  match (readChar ':' s).bind (readDecimal (1 <<< 16)) with
  | some (port, []) => some port
  | _ => none

/-- Reads a percent sign and a scope, if there is one. -/
def readScope (s : List Char) : Option (Nat × List Char) :=
  match s with
  | '%' :: rest => readDecimal (1 <<< 32) rest
  | s => some (0, s)

/-- Reads a host in brackets and a port. -/
def readBracketed (s : List Char) : Option SocketAddress := do
  let (groups, s) ← readSix (← readChar '[' s)
  let (scope, s) ← readScope s
  let port ← readPort (← readChar ']' s)
  some ⟨.six groups scope, port⟩

/-- Reads an address. -/
def ofText? (text : String) : Option SocketAddress :=
  match text.toList with
  | '[' :: rest => readBracketed ('[' :: rest)
  | s => do
    let (bytes, s) ← readFour s
    some ⟨.four bytes, ← readPort s⟩

/-- The text of four bytes. -/
def bytesText (bytes : List Nat) : String := ".".intercalate (bytes.map toString)

/-- The text of groups. -/
def groupsText (groups : List Nat) : String :=
  ":".intercalate (groups.map fun g => String.ofList (Nat.toDigits 16 g))

/-- How many zero groups stand at the front. -/
def zerosAt (groups : List Nat) : Nat := (groups.takeWhile (· == 0)).length

/-- The place and the length of the longest run of zero groups, the first of several. -/
def longestZeros (groups : List Nat) : Nat × Nat :=
  (List.range groups.length).foldl
    (fun best i => if best.2 < zerosAt (groups.drop i) then (i, zerosAt (groups.drop i)) else best)
    (0, 0)

/-- The text of eight groups. -/
def sixText (groups : List Nat) : String :=
  match groups with
  | [0, 0, 0, 0, 0, 0xFFFF, g, h] => "::ffff:" ++ bytesText [g / 256, g % 256, h / 256, h % 256]
  | _ =>
    let (start, count) := longestZeros groups
    if count < 2 then groupsText groups
    else groupsText (groups.take start) ++ "::" ++ groupsText (groups.drop (start + count))

/-- The text of an address. -/
def text (a : SocketAddress) : String :=
  match a.host with
  | .four bytes => bytesText bytes ++ ":" ++ toString a.port
  | .six groups scope =>
    "[" ++ sixText groups ++ (if scope = 0 then "" else "%" ++ toString scope) ++ "]:"
      ++ toString a.port

end SocketAddress

end Endpoint
