import Endpoint.Pattern.Basic
import Endpoint.Pattern.ByteSequence
import Std.Data.HashMap

/-!
# The size of patterns

A pattern is refused when the state machine for it would be too large.  The machine reads
bytes, and there are two of it, one that reads forward and one that reads backward; each has
its limit.  The size of a machine is what its states and the ways out of them take.  States
are numbered in the order in which they are added, since equal states of a set of characters
are found again through a table in which a newer state may displace an older one.
-/

namespace Endpoint

/-- The states of a machine that is being built and the bytes that they take. -/
structure MachineSize where
  states : Nat
  bytes : Nat
  deriving DecidableEq, Repr

namespace MachineSize

/-- How many bytes a machine may take. -/
def limit : Nat := 10485760

def stateBytes : Nat := 32

/-- What one way out takes in a state with ways by byte range. -/
def wayBytes : Nat := 8

/-- What one way out takes in a state with several ways that read nothing. -/
def forkBytes : Nat := 4

/-- Adds bytes, within the limit. -/
def grow (extra : Nat) (m : MachineSize) : Option MachineSize :=
  if m.bytes + extra ≤ limit then some { m with bytes := m.bytes + extra } else none

/-- Adds states, and bytes beside theirs, within the limit. -/
def add (count extra : Nat) (m : MachineSize) : Option MachineSize :=
  grow (count * stateBytes + extra) { m with states := m.states + count }

/-- The hash of some numbers, in 64 bits. -/
def hashNumbers (ns : List Nat) : Nat :=
  (ns.foldl (fun h n => (h ^^^ n.toUInt64) * 1099511628211) (14695981039346656037 : UInt64)).toNat

/-- States that have been added, by their place in a table of limited size. -/
abbrev StateTable := Std.HashMap Nat (List Nat × Nat)

/-- The state with some ways out, if the table still holds it. -/
def known? (place : Nat) (ways : List Nat) (table : StateTable) : Option Nat :=
  match table[place]? with
  | some (held, state) => if held == ways then some state else none
  | none => none

/-- The state with some ways out: one that the table still holds, or a new one. -/
def shared (tableSize extra : Nat) (ways : List Nat) (table : StateTable) (m : MachineSize) :
    Option (Nat × StateTable × MachineSize) :=
  let place := hashNumbers ways % tableSize
  match known? place ways table with
  | some state => some (state, table, m)
  | none => (add 1 extra m).map fun m' => (m.states, table.insert place (ways, m.states), m')

/-- Adds the states that read some byte sequences and end in the state `last`, none of the
    sequences being the beginning of another.  Sequences that begin with the same range
    share its state.  The last number is the state where they start. -/
def addForward (last : Nat) : Nat → List ByteSequence → StateTable → MachineSize →
    Option (Nat × StateTable × MachineSize)
  | 0, _, table, m => some (last, table, m)
  | length + 1, sequences, table, m =>
    if sequences.all List.isEmpty then some (last, table, m)
    else
      let families := sequences.splitBy fun s t => s.head? == t.head?
      let rec ways : List (List ByteSequence) → StateTable → MachineSize →
          Option (List Nat × StateTable × MachineSize)
        | [], table, m => some ([], table, m)
        | family :: rest, table, m =>
          match addForward last length (family.map (·.drop 1)) table m with
          | none => none
          | some (next, table, m) =>
            let (lo, hi) := (family.headD []).headD (0, 0)
            (ways rest table m).map fun (ns, table, m) => (lo :: hi :: next :: ns, table, m)
      match ways families table m with
      | none => none
      | some (ns, table, m) => shared 10000 (families.length * wayBytes) ns table m

/-- Adds the states that read a byte sequence backward, ending in the state `next`. -/
def addBackward (next : Nat) : ByteSequence → StateTable → MachineSize →
    Option (StateTable × MachineSize)
  | [], table, m => some (table, m)
  | (lo, hi) :: rest, table, m =>
    match shared 1000 0 [next, lo, hi] table m with
    | none => none
    | some (state, table, m) => addBackward state rest table m

/-- Adds the states that read byte sequences backward, after a fork between them. -/
def addAllBackward (last : Nat) : List ByteSequence → StateTable → MachineSize →
    Option MachineSize
  | [], _, m => some m
  | s :: rest, table, m =>
    match addBackward last s table m with
    | none => none
    | some (table, m) => (grow forkBytes m).bind (addAllBackward last rest table)

/-- Adds the states for one character of a set. -/
def addSet (backward : Bool) (s : Unicode.CharSet) (m : MachineSize) : Option MachineSize :=
  if s.isAscii then add 2 (s.ranges.length * wayBytes) m
  else if backward then
    (add 2 0 m).bind (addAllBackward (m.states + 1) (ByteSequence.ofSet s) ∅)
  else
    ((add 1 0 m).bind (addForward m.states 4 (ByteSequence.ofSet s) ∅)).map fun (_, _, m) => m

end MachineSize

/-- Texts that begin alike share the states for their beginning.  A node has its ways out in
    groups, one for each time that a text ended there and one for later texts; `later` is
    the last group, the others come latest first. -/
inductive TextTree where
  | node (ended : List (List (Nat × TextTree))) (later : List (Nat × TextTree))

namespace TextTree

def leaf : TextTree := .node [] []

/-- Puts a way out in its place among others, in the order of their bytes. -/
def insertWay (byte : Nat) (t : TextTree) : List (Nat × TextTree) → List (Nat × TextTree)
  | [] => [(byte, t)]
  | (b, u) :: rest =>
    if byte < b then (byte, t) :: (b, u) :: rest
    else if byte = b then (byte, t) :: rest
    else (b, u) :: insertWay byte t rest

/-- Adds a text, given by its bytes. -/
def insert : List Nat → TextTree → TextTree
  | [], .node ended later =>
    if later.isEmpty && !ended.isEmpty then .node ended later else .node (later :: ended) []
  | b :: bs, .node ended later =>
    let next := ((later.find? fun (c, _) => c == b).map Prod.snd).getD leaf
    .node ended (insertWay b (insert bs next) later)

/-- Whether a node has no ways out. -/
def isLeaf : TextTree → Bool
  | .node ended later => later.isEmpty && ended.all List.isEmpty

mutual

/-- The states for a node and what is below it, and the bytes beside theirs.  A node forks
    to its groups and, where a text has ended, to the end. -/
def size : TextTree → Nat × Nat
  | .node ended later =>
    let (states, bytes) := sizeOfGroups ended
    let (lastStates, lastBytes) := sizeOfGroup later
    let groups := (later :: ended).countP fun g => !g.isEmpty
    (states + lastStates + 1,
      bytes + lastBytes + (groups + ended.length) * MachineSize.forkBytes)

def sizeOfGroups : List (List (Nat × TextTree)) → Nat × Nat
  | [] => (0, 0)
  | g :: rest =>
    let (states, bytes) := sizeOfGroup g
    let (moreStates, moreBytes) := sizeOfGroups rest
    (states + moreStates, bytes + moreBytes)

/-- A group of ways is one state. -/
def sizeOfGroup : List (Nat × TextTree) → Nat × Nat
  | [] => (0, 0)
  | ways =>
    let (states, bytes) := sizeOfWays ways
    (states + 1, bytes + if ways.length = 1 then 0 else ways.length * MachineSize.wayBytes)

def sizeOfWays : List (Nat × TextTree) → Nat × Nat
  | [] => (0, 0)
  | (_, t) :: rest =>
    let (states, bytes) := if t.isLeaf then (0, 0) else size t
    let (moreStates, moreBytes) := sizeOfWays rest
    (states + moreStates, bytes + moreBytes)

end

end TextTree

namespace Pattern

mutual

/-- The least number of characters in a text that a pattern matches; none when it has a part
    that matches nothing. -/
def minLength? : Pattern → Option Nat
  | .empty | .look _ => some 0
  | .text cs => some cs.length
  | .oneOf s => if s.isEmpty then none else some 1
  | .concat ps => totalMinLength? ps
  | .alt ps => leastMinLength? ps
  | .repeat least _ _ p => (minLength? p).map (least * ·)
  | .group _ p => minLength? p

def totalMinLength? : List Pattern → Option Nat
  | [] => some 0
  | p :: rest =>
    match minLength? p, totalMinLength? rest with
    | some n, some total => some (n + total)
    | _, _ => none

def leastMinLength? : List Pattern → Option Nat
  | [] => none
  | [p] => minLength? p
  | p :: rest =>
    match minLength? p, leastMinLength? rest with
    | some n, some least => some (min n least)
    | _, _ => none

end

mutual

/-- Whether a condition has to hold where a match begins, or where it ends. -/
def requires (atEnd : Bool) (l : Look) : Pattern → Bool
  | .empty | .text _ | .oneOf _ => false
  | .look k => k == l
  | .concat ps => if atEnd then requiresLast l ps else requiresFirst l ps
  | .alt ps => requiresAll atEnd l ps
  | .repeat least _ _ p => decide (0 < least) && requires atEnd l p
  | .group _ p => requires atEnd l p

/-- The condition holds at the first part of a sequence that may consume a character, or
    before it. -/
def requiresFirst (l : Look) : List Pattern → Bool
  | [] => false
  | p :: rest => requires false l p || (p.matchesOnlyEmpty && requiresFirst l rest)

def requiresLast (l : Look) : List Pattern → Bool
  | [] => false
  | p :: rest =>
    requiresLast l rest || (rest.all matchesOnlyEmpty && requires true l p)

def requiresAll (atEnd : Bool) (l : Look) : List Pattern → Bool
  | [] => true
  | p :: rest => requires atEnd l p && requiresAll atEnd l rest

end

/-- The bytes of a pattern that is a text. -/
def textBytes? : Pattern → Option (List Nat)
  | .text cs => some (cs.flatMap fun c => utf8Bytes c.toNat)
  | _ => none

end Pattern

namespace MachineSize

/-- The result of adding a part: whether it ends in a fork, which the next part extends. -/
abbrev Added := Option (Bool × MachineSize)

/-- Continues from the end of a part. -/
def link (fork : Bool) (m : MachineSize) : Option MachineSize :=
  if fork then grow forkBytes m else some m

/-- Adds states that do not end in a fork. -/
def addPlain (count extra : Nat) (m : MachineSize) : Added :=
  (add count extra m).map fun m => (false, m)

/-- Adds further copies of a part after one that ends in a fork or not. -/
def addCopies (one : MachineSize → Added) : Nat → Bool → MachineSize → Added
  | 0, fork, m => some (fork, m)
  | count + 1, fork, m =>
    match (link fork m).bind one with
    | none => none
    | some (fork, m) => addCopies one count fork m

/-- Adds exactly so many copies of a part. -/
def addExactly (one : MachineSize → Added) (count : Nat) (m : MachineSize) : Added :=
  match count with
  | 0 => addPlain 1 0 m
  | count => addCopies one count false m

/-- Adds copies each of which may be left out together with those after it. -/
def addOptional (one : MachineSize → Added) : Nat → Bool → MachineSize → Added
  | 0, fork, m => (link fork m).map fun m => (false, m)
  | count + 1, fork, m =>
    match ((link fork m).bind (add 1 (2 * forkBytes))).bind one with
    | none => none
    | some (fork, m) => addOptional one count fork m

/-- Adds a part that is repeated without an upper bound. -/
def addRounds (one : MachineSize → Added) (consumes : Bool) (least : Nat) (m : MachineSize) :
    Added :=
  match least with
  | 0 =>
    if consumes then
      match (add 1 forkBytes m).bind one with
      | none => none
      | some (fork, m) => (link fork m).map fun m => (true, m)
    else
      match one m with
      | none => none
      | some (fork, m) => (link fork m).bind (addPlain 3 (4 * forkBytes))
  | least =>
    match addCopies one least false m with
    | none => none
    | some (fork, m) => ((link fork m).bind (add 1 forkBytes)).map fun m => (true, m)

/-- Adds a repeated part. -/
def addRepeated (one : MachineSize → Added) (consumes : Bool) (least : Nat)
    (most : Option Nat) (m : MachineSize) : Added :=
  match most with
  | none => addRounds one consumes least m
  | some most =>
    if least = 0 ∧ most = 1 then
      match (add 1 (2 * forkBytes) m).bind one with
      | none => none
      | some (fork, m) => (link fork m).bind (addPlain 1 0)
    else
      match addExactly one least m with
      | none => none
      | some (fork, m) =>
        if least = most then some (fork, m)
        else (add 1 0 m).bind (addOptional one (most - least) fork)

/-- Adds texts of which one is read. -/
def addTexts (backward : Bool) (texts : List (List Nat)) (m : MachineSize) : Added :=
  let tree := texts.foldl
    (fun t bytes => t.insert (if backward then bytes.reverse else bytes)) TextTree.leaf
  let (states, bytes) := tree.size
  addPlain (states + 1) bytes m

mutual

/-- Adds the states of a pattern. -/
def addPattern (backward : Bool) : Pattern → MachineSize → Added
  | .empty, m | .look _, m => addPlain 1 0 m
  | .text cs, m => addPlain (max 1 (cs.flatMap fun c => utf8Bytes c.toNat).length) 0 m
  | .oneOf s, m => (addSet backward s m).map fun m => (false, m)
  | .concat ps, m => addSequence backward ps m
  | .alt ps, m =>
    match ps.mapM Pattern.textBytes? with
    | some texts => addTexts backward texts m
    | none => addChoice backward ps m
  | .repeat least most _ p, m =>
    addRepeated (addPattern backward p) (p.minLength?.any (0 < ·)) least most m
  | .group _ p, m =>
    if backward then addPattern backward p m
    else
      match (add 1 0 m).bind (addPattern backward p) with
      | none => none
      | some (fork, m) => (link fork m).bind (addPlain 1 0)

/-- Adds patterns in sequence. -/
def addSequence (backward : Bool) : List Pattern → MachineSize → Added
  | [], m => addPlain 1 0 m
  | [p], m => addPattern backward p m
  | p :: rest, m =>
    let (first, second) : (MachineSize → Added) × (MachineSize → Added) :=
      if backward then (addSequence backward rest, addPattern backward p)
      else (addPattern backward p, addSequence backward rest)
    match first m with
    | none => none
    | some (fork, m) => (link fork m).bind second

/-- Adds a choice; the states where it forks and where it joins come after the second
    branch. -/
def addChoice (backward : Bool) : List Pattern → MachineSize → Added
  | [], m => addPlain 1 0 m
  | [p], m => addPattern backward p m
  | p :: q :: rest, m =>
    match addBranch backward p m with
    | none => none
    | some m =>
      match addBranch backward q m with
      | none => none
      | some m => ((add 2 0 m).bind (addBranches backward rest)).map fun m => (false, m)

/-- Adds the branches of a choice that come after the second. -/
def addBranches (backward : Bool) : List Pattern → MachineSize → Option MachineSize
  | [], m => some m
  | p :: rest, m =>
    match addBranch backward p m with
    | none => none
    | some m => addBranches backward rest m

/-- Adds a branch and the ways to and from it. -/
def addBranch (backward : Bool) (p : Pattern) (m : MachineSize) : Option MachineSize :=
  match addPattern backward p m with
  | none => none
  | some (fork, m) => (grow forkBytes m).bind (link fork)

end

/-- The size of the machine for a whole pattern, if it is within the limit.  A machine tries
    every place of the text, unless it can begin at one end only. -/
def ofPattern? (backward : Bool) (p : Pattern) : Option MachineSize :=
  let anchored := p.requires backward (if backward then .textEnd else .textStart)
  let before : Option MachineSize :=
    if anchored then add 1 0 ⟨0, 0⟩ else add 3 (wayBytes + 2 * forkBytes) ⟨0, 0⟩
  match before.bind (addPattern backward (if backward then p else .group 0 p)) with
  | none => none
  | some (fork, m) => (link fork m).bind (add 1 0)

end MachineSize

/-- Whether both machines for a pattern stay within their limit. -/
def Pattern.isCompact (p : Pattern) : Bool :=
  (MachineSize.ofPattern? false p).isSome && (MachineSize.ofPattern? true p).isSome

end Endpoint
