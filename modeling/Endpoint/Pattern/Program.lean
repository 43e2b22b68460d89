import Endpoint.Pattern.Meaning
import Endpoint.Pattern.Reader
import Endpoint.Pattern.Size

/-!
# Matching patterns

A pattern is compiled to a program of steps, and a program is run on a text by following
all its threads at once, one character at a time.  Threads are kept in order of preference:
the first alternative of a choice before the others, another round of a greedy repetition
before leaving it, and an earlier start before a later one.  The match reported is the one
of the most preferred thread that reaches the end of the program, with the places where its
groups begin and end.
-/

namespace Endpoint

/-- One step of a program; numbers are places in the program. -/
inductive Step where
  /-- consume a character of a set -/
  | char (s : Unicode.CharSet) (next : Nat)
  /-- continue at both places, the first being preferred -/
  | fork (first second : Nat)
  /-- continue if the place in the text meets a condition -/
  | look (l : Look) (next : Nat)
  /-- note the place in the text under a number -/
  | mark (slot : Nat) (next : Nat)
  | jump (next : Nat)
  | done

/-- A compiled pattern. -/
structure Program where
  steps : Array Step
  start : Nat
  groups : Nat

namespace Program

/-- Appends a step and gives its place. -/
def push (step : Step) (steps : Array Step) : Nat × Array Step := (steps.size, steps.push step)

/-- A fork between another round and the way on. -/
def forkStep (greedy : Bool) (again on : Nat) : Step :=
  if greedy then .fork again on else .fork on again

/-- Compiles `count` copies of something one after the other; the last continues at `next`. -/
def copies (compileOne : Nat → Array Step → Nat × Array Step) :
    Nat → Nat → Array Step → Nat × Array Step
  | 0, next, steps => (next, steps)
  | count + 1, next, steps =>
    let (start, steps) := compileOne next steps
    copies compileOne count start steps

/-- Compiles up to `count` optional copies, each inside the one before it. -/
def optionals (greedy : Bool) (compileOne : Nat → Array Step → Nat × Array Step) (out : Nat) :
    Nat → Nat → Array Step → Nat × Array Step
  | 0, next, steps => (next, steps)
  | count + 1, next, steps =>
    let (start, steps) := compileOne next steps
    let (here, steps) := push (forkStep greedy start out) steps
    optionals greedy compileOne out count here steps

/-- Compiles one or more rounds of something. -/
def rounds (greedy : Bool) (compileOne : Nat → Array Step → Nat × Array Step) (next : Nat)
    (steps : Array Step) : Nat × Array Step :=
  let (here, steps) := push (.jump next) steps
  let (start, steps) := compileOne here steps
  (start, steps.setIfInBounds here (forkStep greedy start next))

/-- Appends the steps that consume a text. -/
def compileText (cs : List Char) (next : Nat) (steps : Array Step) : Nat × Array Step :=
  cs.foldr (fun c (next, steps) => push (.char (.single c.toNat) next) steps) (next, steps)

mutual

/-- Appends the steps of a pattern that continue at `next`; gives where they start. -/
def compile : Pattern → Nat → Array Step → Nat × Array Step
  | .empty, next, steps => (next, steps)
  | .text cs, next, steps => compileText cs next steps
  | .oneOf s, next, steps => push (.char s next) steps
  | .look l, next, steps => push (.look l next) steps
  | .concat ps, next, steps => compileAll ps next steps
  | .alt ps, next, steps => compileAny ps next steps
  | .group index p, next, steps =>
    let (closing, steps) := push (.mark (2 * index + 1) next) steps
    let (start, steps) := compile p closing steps
    push (.mark (2 * index) start) steps
  | .repeat least most greedy p, next, steps =>
    let one := compile p
    match most with
    | some most =>
      let (start, steps) := optionals greedy one next (most - least) next steps
      copies one least start steps
    | none =>
      if least = 0 then
        let (start, steps) := rounds greedy one next steps
        push (forkStep greedy start next) steps
      else
        let (start, steps) := rounds greedy one next steps
        copies one (least - 1) start steps

/-- Appends the steps of patterns in sequence. -/
def compileAll : List Pattern → Nat → Array Step → Nat × Array Step
  | [], next, steps => (next, steps)
  | p :: rest, next, steps =>
    let (start, steps) := compileAll rest next steps
    compile p start steps

/-- Appends the steps of a choice, the first pattern being preferred. -/
def compileAny : List Pattern → Nat → Array Step → Nat × Array Step
  | [], next, steps => (next, steps)
  | [p], next, steps => compile p next steps
  | p :: rest, next, steps =>
    let (second, steps) := compileAny rest next steps
    let (first, steps) := compile p next steps
    push (.fork first second) steps

end

/-- Reads and compiles a pattern; none when it is not well formed or too large. -/
def ofText? (text : String) : Option Program :=
  match (PatternTree.ofText? text).bind PatternTree.toPattern? with
  | none => none
  | some p =>
    if p.isCompact then
      let (start, steps) := compile (.group 0 p) 0 #[.done]
      some ⟨steps, start, p.lastGroup⟩
    else none

/-- A place in a text: the characters before and after it, and its number. -/
structure Place where
  before : Option Char
  after : Option Char
  index : Nat

/-- Whether a place meets a condition. -/
def Place.meets (p : Place) : Look → Bool
  | .textStart => p.before.isNone
  | .textEnd => p.after.isNone
  | .lineStart => p.before.isNone || p.before == some '\n'
  | .lineEnd => p.after.isNone || p.after == some '\n'
  | .crlfLineStart =>
    p.before.isNone || p.before == some '\n' || (p.before == some '\r' && p.after != some '\n')
  | .crlfLineEnd =>
    p.after.isNone || p.after == some '\r' || (p.after == some '\n' && p.before != some '\r')
  | .word u => wordBefore u != wordAfter u
  | .notWord u => wordBefore u == wordAfter u
  | .wordStart u => !wordBefore u && wordAfter u
  | .wordEnd u => wordBefore u && !wordAfter u
  | .wordStartHalf u => !wordBefore u
  | .wordEndHalf u => !wordAfter u
where
  wordBefore (u : Bool) : Bool := p.before.any (CharClass.isWord u)
  wordAfter (u : Bool) : Bool := p.after.any (CharClass.isWord u)

/-- The places noted so far, by number. -/
abbrev Marks := Array (Option Nat)

/-- A thread waiting at a step that consumes a character or ends the match. -/
structure Thread where
  step : Nat
  marks : Marks

/-- Follows threads to the steps where they wait, most preferred first.  A step is visited
    once; `fuel` exceeds the number of visits. -/
def follow (p : Program) (place : Place) : Nat → List Thread → Array Bool → Array Thread →
    Array Bool × Array Thread
  | 0, _, seen, waiting => (seen, waiting)
  | _, [], seen, waiting => (seen, waiting)
  | fuel + 1, t :: rest, seen, waiting =>
    if seen.getD t.step true then follow p place fuel rest seen waiting
    else
      let seen := seen.setIfInBounds t.step true
      match p.steps[t.step]? with
      | none => follow p place fuel rest seen waiting
      | some (.char _ _) | some .done => follow p place fuel rest seen (waiting.push t)
      | some (.jump next) => follow p place fuel (⟨next, t.marks⟩ :: rest) seen waiting
      | some (.fork first second) =>
        follow p place fuel (⟨first, t.marks⟩ :: ⟨second, t.marks⟩ :: rest) seen waiting
      | some (.look l next) =>
        if place.meets l then follow p place fuel (⟨next, t.marks⟩ :: rest) seen waiting
        else follow p place fuel rest seen waiting
      | some (.mark slot next) =>
        follow p place fuel (⟨next, t.marks.setIfInBounds slot (some place.index)⟩ :: rest) seen
          waiting

/-- The waiting threads before the first that ended the match, and that one's marks. -/
def untilDone (p : Program) : List Thread → List Thread × Option Marks
  | [] => ([], none)
  | t :: rest =>
    match p.steps[t.step]? with
    | some .done => ([], some t.marks)
    | _ =>
      let (ts, found) := untilDone p rest
      (t :: ts, found)

/-- The threads that go on after consuming a character. -/
def consume (p : Program) (c : Char) (threads : List Thread) : List Thread :=
  threads.filterMap fun (t : Thread) =>
    match (p.steps[t.step]? : Option Step) with
    | some (.char s next) => if s.contains c.toNat then some ⟨next, t.marks⟩ else none
    | _ => none

/-- The threads that go on from a place, and the marks of the one that ended there. -/
def arrive (p : Program) (place : Place) (threads : List Thread) : List Thread × Option Marks :=
  let (_, waiting) := p.follow place (3 * (p.steps.size + threads.length + 1)) threads
    (Array.replicate p.steps.size false) #[]
  p.untilDone waiting.toList

/-- A new thread. -/
def thread (p : Program) : Thread := ⟨p.start, Array.replicate (2 * (p.groups + 1)) none⟩

/-- Runs threads over the rest of a text.  New threads start at every place until a match
    has been found. -/
def run (p : Program) (before : Option Char) (index : Nat) (threads : List Thread)
    (found : Option Marks) : List Char → Option Marks
  | [] =>
    let (_, hit) := p.arrive ⟨before, none, index⟩ (withNew threads)
    hit <|> found
  | c :: rest =>
    let (threads, hit) := p.arrive ⟨before, some c, index⟩ (withNew threads)
    let found := hit <|> found
    match threads, found with
    | [], some marks => some marks
    | threads, found => run p (some c) (index + 1) (p.consume c threads) found rest
where
  withNew (threads : List Thread) : List Thread :=
    if found.isNone then threads ++ [p.thread] else threads

/-- Runs threads over the rest of a text; whether one of them ends with it. -/
def runWhole (p : Program) (before : Option Char) (index : Nat) (threads : List Thread) :
    List Char → Bool
  | [] => (p.arrive ⟨before, none, index⟩ threads).2.isSome
  | c :: rest =>
    match (p.arrive ⟨before, some c, index⟩ threads).1 with
    | [] => false
    | threads => runWhole p (some c) (index + 1) (p.consume c threads) rest

/-- Whether the preferred match of a pattern from the beginning of a text on, or one
    preferred to it, takes the whole text. -/
def matchesWhole (p : Program) (text : String) : Bool := p.runWhole none 0 [p.thread] text.toList

/-- Where the first match and its groups begin and end. -/
def search (p : Program) (text : List Char) : Option Marks := p.run none 0 [] none text

/-- Whether a pattern matches somewhere in a text. -/
def isMatch (p : Program) (text : String) : Bool := (p.search text.toList).isSome

/-- The texts of the capture groups of the first match; none for a group without part in
    it. -/
def captures? (p : Program) (text : String) : Option (List (Option String)) :=
  let cs := text.toList
  (p.search cs).map fun marks =>
    (List.range p.groups).map fun i =>
      match marks[2 * (i + 1)]?.join, marks[2 * (i + 1) + 1]?.join with
      | some a, some b => some (String.ofList ((cs.drop a).take (b - a)))
      | _, _ => none

end Program

end Endpoint
