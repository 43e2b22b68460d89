import Endpoint.Number.Reading
import Endpoint.Pattern.Bracket
import Endpoint.Unicode.Alphanumeric

/-!
# Reading patterns

The tree of a pattern's text: characters stand for themselves, the usual signs for sets,
repetition, choice, groups and conditions.  There are no conditions on the text around a
place beyond word and line boundaries, and no references back to a group.
`PatternReading` holds the groups that are open, the innermost first.
-/

namespace Endpoint

/-- What the parentheses around a part of a pattern are for. -/
inductive GroupKind where
  | capture (index : Nat)
  | plain (changes : FlagChanges)

/-- A sequence or choice that is not complete: the items of the last sequence and the
    sequences before it, both in reverse order. -/
structure OpenPattern where
  items : List (Layered PatternTree)
  branches : List (Layered PatternTree)

namespace OpenPattern

def start : OpenPattern := ⟨[], []⟩

def add (p : OpenPattern) (item : Layered PatternTree) : OpenPattern :=
  { p with items := item :: p.items }

/-- Ends a sequence; another one follows. -/
def branch? (p : OpenPattern) : Option OpenPattern :=
  (Layered.join .empty .concat p.items.reverse).map fun t => ⟨[], t :: p.branches⟩

/-- The pattern if nothing else follows. -/
def close? (p : OpenPattern) : Option (Layered PatternTree) :=
  (Layered.join .empty .concat p.items.reverse).bind fun t =>
    Layered.join .empty .alt (t :: p.branches).reverse

/-- Repeats the last item.  Flags, or nothing, cannot be repeated. -/
def repeat? (p : OpenPattern) (least : Nat) (most : Option Nat) (lazy : Bool) :
    Option OpenPattern :=
  match p.items with
  | [] => none
  | ⟨.flags _, _⟩ :: _ => none
  | t :: before =>
    (t.wrap (.repeat least most lazy)).map fun t => { p with items := t :: before }

end OpenPattern

/-- A group that is still open: its kind, the pattern around it, and whether space counted
    there. -/
structure OpenGroup where
  kind : GroupKind
  around : OpenPattern
  spaced : Bool

/-- The state of reading a pattern: the rest of the text, whether space in it does not
    count, what is open, how many groups have begun and which names they have. -/
structure PatternReading where
  rest : List Char
  spaced : Bool
  current : OpenPattern
  outer : List OpenGroup
  groups : Nat
  names : List (List Char)

namespace PatternReading

/-- Reads flag letters up to a colon or a closing parenthesis: each letter once, and one
    minus sign that must not be the last. -/
def readFlags? (seen : List Char) (negated : Bool) : List Char →
    Option (FlagChanges × List Char)
  | [] => none
  | c :: rest =>
    if c = ':' ∨ c = ')' then
      if seen.head? = some '-' then none else some ([], c :: rest)
    else if seen.contains c then none
    else if c = '-' then readFlags? (c :: seen) true rest
    else
      (Flag.ofChar? c).bind fun flag =>
        (readFlags? (c :: seen) negated rest).map fun (changes, after) =>
          ((flag, !negated) :: changes, after)

/-- Whether a character may start the name of a group. -/
def isNameStart (c : Char) : Bool := c == '_' || Unicode.isLetter c

def isNameRest (c : Char) : Bool :=
  c == '_' || c == '.' || c == '[' || c == ']' || Unicode.isAlphanumeric c

/-- Reads the name of a group up to its closing angle bracket. -/
def readName? (s : List Char) : Option (List Char × List Char) :=
  let name := s.takeWhile (· != '>')
  match s.dropWhile (· != '>'), name with
  | '>' :: rest, c :: cs => if isNameStart c && cs.all isNameRest then some (name, rest) else none
  | _, _ => none

/-- Opens a group. -/
def openGroup (r : PatternReading) (kind : GroupKind) (rest : List Char) : PatternReading :=
  let spaced := match kind with
    | .capture _ => r.spaced
    | .plain changes => (changes.value? .spaced).getD r.spaced
  { r with
    rest := rest
    spaced := spaced
    current := .start
    outer := ⟨kind, r.current, r.spaced⟩ :: r.outer }

/-- Opens a group that captures, under a name that no other group has. -/
def openCapture? (r : PatternReading) (name : Option (List Char)) (rest : List Char) :
    Option PatternReading :=
  if name.any r.names.contains then none
  else
    let index := r.groups + 1
    some { r.openGroup (.capture index) rest with
      groups := index
      names := name.toList ++ r.names }

/-- Reads what follows an opening parenthesis: conditions on the text around a place do not
    exist, flags alone hold for the rest of the group around them. -/
def openParen? (r : PatternReading) (rest : List Char) : Option PatternReading :=
  match skipSpace r.spaced rest with
  | '?' :: '=' :: _ | '?' :: '!' :: _ | '?' :: '<' :: '=' :: _ | '?' :: '<' :: '!' :: _ => none
  | '?' :: 'P' :: '<' :: rest | '?' :: '<' :: rest =>
    (readName? rest).bind fun (name, rest) => r.openCapture? (some name) rest
  | '?' :: rest =>
    match readFlags? [] false rest with
    | some (changes, ':' :: rest) => some (r.openGroup (.plain changes) rest)
    | some (changes, ')' :: rest) =>
      if changes.isEmpty then none
      else
        some { r with
          rest := rest
          spaced := (changes.value? .spaced).getD r.spaced
          current := r.current.add (.leaf (.flags changes)) }
    | _ => none
  | rest => r.openCapture? none rest

/-- Closes the innermost group. -/
def closeParen? (r : PatternReading) (rest : List Char) : Option PatternReading :=
  match r.outer with
  | [] => none
  | g :: outer =>
    let wrapper : PatternTree → PatternTree :=
      match g.kind with
      | .capture index => .capture index
      | .plain changes => .group changes
    (r.current.close?.bind (Layered.wrap wrapper)).map fun t =>
      { r with rest := rest, spaced := g.spaced, current := g.around.add t, outer := outer }

/-- Splits off the sign that makes a repetition lazy. -/
def splitLazy : List Char → Bool × List Char
  | '?' :: rest => (true, rest)
  | rest => (false, rest)

/-- Reads a number inside a repetition, with blanks around it. -/
def readCount? (spaced : Bool) (s : List Char) : Option (Nat × List Char) :=
  let (ds, rest) := spanSpaced spaced Char.isDigit (s.dropWhile isBlank)
  (digits? ds).bind fun n =>
    if n < 1 <<< 32 then some (n, (spanSpaced spaced isBlank rest).2) else none

/-- Reads the numbers of a repetition from after its opening brace. -/
def readCounts? (spaced : Bool) (s : List Char) : Option (Nat × Option Nat × List Char) :=
  match readCount? spaced (skipSpace spaced s) with
  | some (least, '\x7d' :: rest) => some (least, some least, skipSpace spaced rest)
  | some (least, ',' :: rest) =>
    match skipSpace spaced rest with
    | '\x7d' :: rest => some (least, none, skipSpace spaced rest)
    | rest =>
      match readCount? spaced rest with
      | some (most, '\x7d' :: rest) =>
        if least ≤ most then some (least, some most, skipSpace spaced rest) else none
      | _ => none
  | _ => none

/-- The tree of an escape sequence. -/
def escapeTree : Escape → PatternTree
  | .char c => .char c
  | .set s => .set s
  | .place sign => .place sign

/-- Reads on from a character that does not count as space. -/
def step? (r : PatternReading) (c : Char) (rest : List Char) : Option PatternReading :=
  let item (t : PatternTree) (rest : List Char) : PatternReading :=
    { r with rest := rest, current := r.current.add (.leaf t) }
  let repeated (least : Nat) (most : Option Nat) (rest : List Char) : Option PatternReading :=
    let (lazy, rest) := splitLazy rest
    (r.current.repeat? least most lazy).map fun p => { r with rest := rest, current := p }
  match c with
  | '(' => r.openParen? rest
  | ')' => r.closeParen? rest
  | '|' => r.current.branch?.map fun p => { r with rest := rest, current := p }
  | '[' =>
    (BracketReading.read? r.spaced rest).map fun (set, rest) =>
      { r with rest := rest, current := r.current.add ⟨.set set.tree, set.depth⟩ }
  | '?' => repeated 0 (some 1) rest
  | '*' => repeated 0 none rest
  | '+' => repeated 1 none rest
  | '\x7b' => (readCounts? r.spaced rest).bind fun (least, most, rest) => repeated least most rest
  | '.' => some (item .dot rest)
  | '^' => some (item (.place .caret) rest)
  | '$' => some (item (.place .dollar) rest)
  | '\\' => (Escape.read? r.spaced rest).map fun (e, rest) => item (escapeTree e) rest
  | c => some (item (.char ⟨c, false⟩) rest)

/-- Reads up to the end of the text.  Every step consumes a character, so that `fuel` is
    enough when it exceeds the length of the text. -/
def run? : Nat → PatternReading → Option PatternReading
  | 0, _ => none
  | fuel + 1, r =>
    match skipSpace r.spaced r.rest with
    | [] => some r
    | c :: rest =>
      match r.step? c rest with
      | none => none
      | some r => run? fuel r

end PatternReading

/-- The tree of a pattern's text, if the text is well formed. -/
def PatternTree.ofText? (text : String) : Option PatternTree :=
  let s := text.toList
  match PatternReading.run? (s.length + 1) ⟨s, false, .start, [], 0, []⟩ with
  | some ⟨_, _, current, [], _, _⟩ => current.close?.map Layered.tree
  | _ => none

end Endpoint
