import Endpoint.Unicode.CharSet

/-!
# Patterns

A pattern describes texts: fixed texts, sets of characters, conditions on a place in the
text, and sequences, choices, repetitions and capture groups of patterns.  Patterns are put
together by `sequence`, `choice`, `repeated` and `ofSet`, which keep them in a simple form:
no sequence stands directly in a sequence and no choice in a choice, neighbouring texts are
one text, and a choice of characters is a set.
-/

namespace Endpoint

/-- A condition on the place between two characters. -/
inductive Look where
  | textStart
  | textEnd
  | lineStart
  | lineEnd
  | crlfLineStart
  | crlfLineEnd
  | word (unicode : Bool)
  | notWord (unicode : Bool)
  | wordStart (unicode : Bool)
  | wordEnd (unicode : Bool)
  | wordStartHalf (unicode : Bool)
  | wordEndHalf (unicode : Bool)
  deriving DecidableEq, Repr

/-- Whether a condition asks for words of all scripts. -/
def Look.isUnicodeWord : Look → Bool
  | word u | notWord u | wordStart u | wordEnd u | wordStartHalf u | wordEndHalf u => u
  | _ => false

/-- A pattern for texts. -/
inductive Pattern where
  | empty
  | text (cs : List Char)
  | oneOf (s : Unicode.CharSet)
  | look (l : Look)
  | concat (ps : List Pattern)
  | alt (ps : List Pattern)
  | repeat (least : Nat) (most : Option Nat) (greedy : Bool) (p : Pattern)
  | group (index : Nat) (p : Pattern)

namespace Pattern

open Unicode

/-- The pattern that no text matches. -/
def never : Pattern := .oneOf .empty

/-- The pattern of the characters in a set. -/
def ofSet (s : CharSet) : Pattern :=
  match s.characters with
  | ⟨[(lo, hi)]⟩ => if lo = hi then .text [Char.ofNat lo] else .oneOf ⟨[(lo, hi)]⟩
  | s => .oneOf s

mutual

/-- Whether two patterns are put together in the same way. -/
def same : Pattern → Pattern → Bool
  | .empty, .empty => true
  | .text cs, .text ds => cs == ds
  | .oneOf s, .oneOf t => s == t
  | .look l, .look k => l == k
  | .concat ps, .concat qs => sameAll ps qs
  | .alt ps, .alt qs => sameAll ps qs
  | .repeat least most greedy p, .repeat least' most' greedy' q =>
    least == least' && most == most' && greedy == greedy' && same p q
  | .group i p, .group j q => i == j && same p q
  | _, _ => false

def sameAll : List Pattern → List Pattern → Bool
  | [], [] => true
  | p :: ps, q :: qs => same p q && sameAll ps qs
  | _, _ => false

end

/-- Puts a part in front of a sequence, joining texts that meet. -/
def consPart (p : Pattern) (rest : List Pattern) : List Pattern :=
  match p, rest with
  | .empty, rest => rest
  | .text cs, .text ds :: rest => .text (cs ++ ds) :: rest
  | p, rest => p :: rest

/-- The parts of a pattern that is a sequence. -/
def parts : Pattern → List Pattern
  | .concat ps => ps
  | p => [p]

/-- Patterns one after the other. -/
def sequence (ps : List Pattern) : Pattern :=
  match (ps.flatMap parts).foldr consPart [] with
  | [] => .empty
  | [p] => p
  | ps => .concat ps

/-- The branches of a pattern that is a choice. -/
def branches : Pattern → List Pattern
  | .alt ps => ps
  | p => [p]

/-- The set of a pattern that is one. -/
def set? : Pattern → Option CharSet
  | .oneOf s => some s
  | _ => none

/-- The character of a pattern that is one. -/
def char? : Pattern → Option Char
  | .text [c] => some c
  | _ => none

/-- The parts of a pattern that is written as a sequence. -/
def concatParts? : Pattern → Option (List Pattern)
  | .concat ps => some ps
  | _ => none

/-- How many parts two sequences begin with in common. -/
def commonLength : List Pattern → List Pattern → Nat
  | p :: ps, q :: qs => if same p q then commonLength ps qs + 1 else 0
  | _, _ => 0

/-- How many parts all of some sequences begin with in common. -/
def commonCount : List (List Pattern) → Nat
  | [] => 0
  | first :: others => others.foldl (fun n ps => min n (commonLength first ps)) first.length

/-- A choice of branches that are no choices themselves.  Single characters and sets become
    one set, and what all branches begin with is put in front of the choice.  `fuel` bounds
    how often that happens; it exceeds the length of the first branch. -/
def choiceOf : Nat → List Pattern → Pattern
  | _, [] => never
  | _, [p] => p
  | fuel, ps =>
    match ps.mapM char?, ps.mapM set?, ps.mapM concatParts?, fuel with
    | some cs, _, _, _ => ofSet (.ofRanges (cs.map fun c => (c.toNat, c.toNat)))
    | none, some sets, _, _ => ofSet (.ofRanges (sets.flatMap (·.ranges)))
    | none, none, some sequences, fuel + 1 =>
      match commonCount sequences with
      | 0 => .alt ps
      | n =>
        let endings := sequences.map fun ps => sequence (ps.drop n)
        sequence ((sequences.headD []).take n ++ [choiceOf fuel (endings.flatMap branches)])
    | _, _, _, _ => .alt ps

/-- A choice between patterns, the first being preferred. -/
def choice (ps : List Pattern) : Pattern :=
  let ps := ps.flatMap branches
  choiceOf ((ps.headD .empty).parts.length + 1) ps

mutual

/-- Whether a pattern matches the empty text only. -/
def matchesOnlyEmpty : Pattern → Bool
  | .empty | .look _ => true
  | .text cs => cs.isEmpty
  | .oneOf _ => false
  | .concat ps | .alt ps => matchOnlyEmpty ps
  | .repeat _ most _ p => most.isSome && matchesOnlyEmpty p
  | .group _ p => matchesOnlyEmpty p

def matchOnlyEmpty : List Pattern → Bool
  | [] => true
  | p :: rest => matchesOnlyEmpty p && matchOnlyEmpty rest

end

/-- A pattern repeated.  To repeat what matches the empty text only is to have it once or
    not at all. -/
def repeated (least : Nat) (most : Option Nat) (greedy : Bool) (p : Pattern) : Pattern :=
  let (least, most) : Nat × Option Nat :=
    if p.matchesOnlyEmpty then (min least 1, some ((most.map (min 1)).getD 1)) else (least, most)
  if least = 0 ∧ most = some 0 then .empty
  else if least = 1 ∧ most = some 1 then p
  else .repeat least most greedy p

mutual

/-- Whether a pattern has a condition of some kind on a place. -/
def uses (kind : Look → Bool) : Pattern → Bool
  | .empty | .text _ | .oneOf _ => false
  | .look l => kind l
  | .concat ps | .alt ps => anyUses kind ps
  | .repeat _ _ _ p | .group _ p => uses kind p

def anyUses (kind : Look → Bool) : List Pattern → Bool
  | [] => false
  | p :: rest => uses kind p || anyUses kind rest

end

mutual

/-- The greatest number of a capture group, 0 if there is none. -/
def lastGroup : Pattern → Nat
  | .empty | .text _ | .oneOf _ | .look _ => 0
  | .concat ps | .alt ps => lastGroupOf ps
  | .repeat _ _ _ p => lastGroup p
  | .group index p => max index (lastGroup p)

def lastGroupOf : List Pattern → Nat
  | [] => 0
  | p :: rest => max (lastGroup p) (lastGroupOf rest)

end

end Pattern

end Endpoint
