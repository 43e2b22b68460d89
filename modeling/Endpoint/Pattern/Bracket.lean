import Endpoint.Pattern.CharClass
import Endpoint.Pattern.Escape

/-!
# Sets in brackets

Reading a set from its opening to its closing bracket.  Sets may stand inside each other,
and the operators `&&`, `--` and `~~` combine the items before and after them from left to
right.  `BracketReading` holds the brackets that are open, the innermost first.
-/

namespace Endpoint

/-- A bracket that is still open: whether it is negated, the set before the last operator
    with that operator, and the items read since, the last one first. -/
structure OpenBracket where
  negated : Bool
  left : Option (Layered SetTree × SetOperator)
  items : List (Layered SetTree)

namespace OpenBracket

def add (b : OpenBracket) (item : Layered SetTree) : OpenBracket :=
  { b with items := item :: b.items }

/-- The set of an open bracket if nothing else followed. -/
def close? (b : OpenBracket) : Option (Layered SetTree) :=
  match Layered.join (.union []) .union b.items.reverse with
  | none => none
  | some right =>
    match b.left with
    | none => some right
    | some (left, op) =>
      let pair : Layered (SetTree × SetTree) :=
        ⟨(left.tree, right.tree), max left.depth right.depth⟩
      pair.wrap fun (l, r) => .combine op l r

/-- Goes on after an operator. -/
def operate? (b : OpenBracket) (op : SetOperator) : Option OpenBracket :=
  b.close?.map fun set => ⟨b.negated, some (set, op), []⟩

end OpenBracket

/-- The state of reading a bracketed set: the rest of the text and the open brackets. -/
structure BracketReading where
  rest : List Char
  current : OpenBracket
  outer : List OpenBracket

namespace BracketReading

/-- The item of a character that stands for itself. -/
def charItem (c : Char) : Layered SetTree := .leaf (.char ⟨c, false⟩)

/-- Reads the hyphens at the front of a set, which stand for themselves. -/
def readHyphens (spaced : Bool) (s : List Char) : List (Layered SetTree) × List Char :=
  let (hyphens, rest) := spanSpaced spaced (· == '-') s
  (hyphens.map charItem, rest)

/-- Reads the opening of a set from after its bracket.  A closing bracket directly after it
    stands for itself. -/
def readOpening (spaced : Bool) (s : List Char) : OpenBracket × List Char :=
  let s := skipSpace spaced s
  let (negated, s) : Bool × List Char :=
    match s with
    | '^' :: rest => (true, skipSpace spaced rest)
    | s => (false, s)
  match readHyphens spaced s with
  | ([], ']' :: rest) => (⟨negated, none, [charItem ']']⟩, skipSpace spaced rest)
  | (hyphens, rest) => (⟨negated, none, hyphens⟩, rest)

/-- Reads a named ASCII class such as `[:alpha:]` from after its first bracket. -/
def readNamed? (s : List Char) : Option (Layered SetTree × List Char) :=
  match s with
  | ':' :: rest =>
    let (negated, rest) : Bool × List Char :=
      match rest with
      | '^' :: rest => (true, rest)
      | rest => (false, rest)
    match rest.dropWhile (· != ':') with
    | ':' :: ']' :: after =>
      (CharClass.named.find? fun (n, _) => n == String.ofList (rest.takeWhile (· != ':'))).map
        fun (_, members) => (.leaf (.ascii negated members), after)
    | _ => none
  | _ => none

/-- Reads a character or an escape sequence inside brackets. -/
def readItem? (spaced : Bool) : List Char → Option (Escape × List Char)
  | [] => none
  | '\\' :: rest => Escape.read? spaced rest
  | c :: rest => some (.char ⟨c, false⟩, rest)

/-- The set of one item; conditions on a place are none. -/
def itemSet? : Escape → Option (Layered SetTree)
  | .char c => some (.leaf (.char c))
  | .set s => some (.leaf s)
  | .place _ => none

/-- Reads an item or a range.  A hyphen makes no range before a closing bracket or another
    hyphen. -/
def readRange? (spaced : Bool) (s : List Char) : Option (Layered SetTree × List Char) :=
  match readItem? spaced s with
  | none => none
  | some (first, rest) =>
    match skipSpace spaced rest with
    | [] => none
    | '-' :: after =>
      let next := peekAfter spaced after
      if next == some ']' || next == some '-' then
        (itemSet? first).map fun item => (item, '-' :: after)
      else
        match first, readItem? spaced (skipSpace spaced after) with
        | .char lo, some (.char hi, after) =>
          if lo.char ≤ hi.char then some (.leaf (.range lo hi), after) else none
        | _, _ => none
    | rest => (itemSet? first).map fun item => (item, rest)

/-- Reads on from a place inside the current bracket.  The result is the state after what
    stands there, or the whole set with what follows it. -/
def step? (spaced : Bool) (r : BracketReading) :
    Option (BracketReading ⊕ (Layered SetTree × List Char)) :=
  let operate (op : SetOperator) (rest : List Char) :
      Option (BracketReading ⊕ (Layered SetTree × List Char)) :=
    (r.current.operate? op).map fun b => .inl { r with rest := rest, current := b }
  match skipSpace spaced r.rest with
  | [] => none
  | '[' :: rest =>
    match readNamed? rest with
    | some (item, after) => some (.inl { r with rest := after, current := r.current.add item })
    | none =>
      let (b, after) := readOpening spaced rest
      some (.inl ⟨after, b, r.current :: r.outer⟩)
  | ']' :: rest =>
    match r.current.close?.bind (Layered.wrap (.bracket r.current.negated)) with
    | none => none
    | some set =>
      match r.outer with
      | [] => some (.inr (set, rest))
      | b :: outer => some (.inl ⟨rest, b.add set, outer⟩)
  | '&' :: '&' :: rest => operate .inter rest
  | '-' :: '-' :: rest => operate .diff rest
  | '~' :: '~' :: rest => operate .symmDiff rest
  | s =>
    (readRange? spaced s).map fun (item, after) =>
      .inl { r with rest := after, current := r.current.add item }

/-- Reads up to the end of the outermost set.  Every step consumes a character, so that
    `fuel` is enough when it exceeds the length of the text. -/
def run? (spaced : Bool) : Nat → BracketReading → Option (Layered SetTree × List Char)
  | 0, _ => none
  | fuel + 1, r =>
    match r.step? spaced with
    | none => none
    | some (.inr result) => some result
    | some (.inl r) => run? spaced fuel r

/-- Reads a set from after its opening bracket. -/
def read? (spaced : Bool) (s : List Char) : Option (Layered SetTree × List Char) :=
  let (b, rest) := readOpening spaced s
  run? spaced (s.length + 1) ⟨rest, b, []⟩

end BracketReading

end Endpoint
