import Endpoint.Pattern.Basic
import Endpoint.Pattern.CharClass
import Endpoint.Pattern.Tree

/-!
# The meaning of written patterns

What the tree of a pattern's text describes, given the flags in force.  Flags hold from
where they stand to the end of the group around them, across its choices.  Without the
Unicode flag a set must lie within ASCII, since it would describe bytes that are no text
otherwise; a tree with such a set has no meaning.
-/

namespace Endpoint

/-- The flags in force at a place of a pattern. -/
structure Flags where
  ignoreCase : Bool
  multiLine : Bool
  dotAll : Bool
  swapGreed : Bool
  unicode : Bool
  crlf : Bool
  deriving DecidableEq, Repr

namespace Flags

def initial : Flags := ⟨false, false, false, false, true, false⟩

/-- Sets one flag.  Spacing has done its work when the text has been read. -/
def set (f : Flags) (flag : Flag) (on : Bool) : Flags :=
  match flag with
  | .ignoreCase => { f with ignoreCase := on }
  | .multiLine => { f with multiLine := on }
  | .dotAll => { f with dotAll := on }
  | .swapGreed => { f with swapGreed := on }
  | .unicode => { f with unicode := on }
  | .crlf => { f with crlf := on }
  | .spaced => f

/-- Applies changes in the order in which they are written. -/
def apply (f : Flags) (changes : FlagChanges) : Flags :=
  changes.foldl (fun f (flag, on) => f.set flag on) f

end Flags

namespace SetTree

open Unicode

/-- Adds the characters that differ by case only, if case is ignored. -/
def foldUnder (f : Flags) (s : CharSet) : CharSet :=
  if f.ignoreCase then (if f.unicode then CharClass.fold s else CharClass.foldAscii s) else s

/-- The complement of a set; it has no meaning without the Unicode flag, as it always goes
    beyond ASCII then. -/
def negateUnder (f : Flags) (negated : Bool) (s : CharSet) : Option CharSet :=
  let s := if negated then s.complement else s
  if f.unicode || s.isAscii then some s else none

/-- The set of the characters from one to another. -/
def rangeSet (f : Flags) (first last : WrittenChar) : Option CharSet :=
  negateUnder f false ⟨[(first.char.toNat, last.char.toNat)]⟩

/-- The set of a class letter. -/
def letterSet (f : Flags) : ClassLetter → CharSet
  | .digit => if f.unicode then CharClass.digits else CharClass.asciiDigits
  | .space => if f.unicode then CharClass.spaces else CharClass.asciiSpaces
  | .word => if f.unicode then CharClass.words else CharClass.asciiWords

/-- The set of a property, which has a meaning under the Unicode flag only. -/
def propertySet (f : Flags) (negated : Bool) (name : PropertyName) : Option CharSet :=
  if f.unicode then
    name.set?.bind fun s => negateUnder f (negated != name.isUnequal) (foldUnder f s)
  else none

/-- Applies an operator between sets. -/
def combineSets : SetOperator → CharSet → CharSet → CharSet
  | .inter, s, t => s.inter t
  | .diff, s, t => s.diff t
  | .symmDiff, s, t => s.symmDiff t

mutual

/-- The characters that a written set describes.  Case is folded before a set is negated
    and before operators are applied. -/
def meaning? (f : Flags) : SetTree → Option CharSet
  | .char c => rangeSet f c c
  | .range first last => rangeSet f first last
  | .ascii negated members => negateUnder f negated (foldUnder f members)
  | .letter negated kind => negateUnder f negated (letterSet f kind)
  | .property negated name => propertySet f negated name
  | .bracket negated inner =>
    (meaning? f inner).bind fun s => negateUnder f negated (foldUnder f s)
  | .union items => (meanings? f items).map fun sets => .ofRanges (sets.flatMap (·.ranges))
  | .combine op left right =>
    match meaning? f left, meaning? f right with
    | some s, some t => some (combineSets op (foldUnder f s) (foldUnder f t))
    | _, _ => none

def meanings? (f : Flags) : List SetTree → Option (List CharSet)
  | [] => some []
  | s :: rest =>
    match meaning? f s, meanings? f rest with
    | some s, some sets => some (s :: sets)
    | _, _ => none

end

end SetTree

namespace PatternTree

open Unicode

/-- The pattern of a character.  Two hexadecimal digits beyond ASCII stand for a byte
    without the Unicode flag, which is no text. -/
def charPattern? (f : Flags) (c : WrittenChar) : Option Pattern :=
  let n := c.char.toNat
  if f.unicode then
    some (.ofSet (if f.ignoreCase then CharClass.foldChar n else .single n))
  else if n < 0x80 then
    some (.ofSet (if f.ignoreCase then CharClass.foldAscii (.single n) else .single n))
  else if c.twoDigits then none
  else some (.ofSet (.single n))

/-- The pattern of a dot: any character, but for line ends unless the flags include
    them. -/
def dotPattern? (f : Flags) : Option Pattern :=
  if f.unicode then
    some (.ofSet (if f.dotAll then .any
      else if f.crlf then (CharSet.mk [(0x0A, 0x0A), (0x0D, 0x0D)]).complement
      else (CharSet.single 0x0A).complement))
  else none

/-- The condition of a sign under the flags. -/
def placeLook (f : Flags) : PlaceSign → Look
  | .caret => if !f.multiLine then .textStart else if f.crlf then .crlfLineStart else .lineStart
  | .dollar => if !f.multiLine then .textEnd else if f.crlf then .crlfLineEnd else .lineEnd
  | .textStart => .textStart
  | .textEnd => .textEnd
  | .word => .word f.unicode
  | .notWord => .notWord f.unicode
  | .wordStart => .wordStart f.unicode
  | .wordEnd => .wordEnd f.unicode
  | .wordStartHalf => .wordStartHalf f.unicode
  | .wordEndHalf => .wordEndHalf f.unicode

mutual

/-- What a tree describes under the flags at its place, and the flags after it. -/
def meaning? (f : Flags) : PatternTree → Option (Pattern × Flags)
  | .empty => some (.empty, f)
  | .flags changes => some (.empty, f.apply changes)
  | .char c => (charPattern? f c).map fun p => (p, f)
  | .dot => (dotPattern? f).map fun p => (p, f)
  | .place sign => some (.look (placeLook f sign), f)
  | .set s => (s.meaning? f).map fun set => (.ofSet set, f)
  | .repeat least most lazy t =>
    (meaning? f t).map fun (p, _) => (p.repeated least most (lazy == f.swapGreed), f)
  | .capture index t => (meaning? f t).map fun (p, _) => (.group index p, f)
  | .group changes t => (meaning? (f.apply changes) t).map fun (p, _) => (p, f)
  | .concat ts => (meanings? f ts).map fun (ps, after) => (.sequence ps, after)
  | .alt ts => (meanings? f ts).map fun (ps, after) => (.choice ps, after)

/-- What trees describe, the flags after one being those before the next. -/
def meanings? (f : Flags) : List PatternTree → Option (List Pattern × Flags)
  | [] => some ([], f)
  | t :: rest =>
    match meaning? f t with
    | none => none
    | some (p, after) => (meanings? after rest).map fun (ps, last) => (p :: ps, last)

end

end PatternTree

/-- The pattern of a text, if the text is well formed. -/
def PatternTree.toPattern? (t : PatternTree) : Option Pattern := (t.meaning? .initial).map Prod.fst

end Endpoint
