import Endpoint.Field.Path
import Endpoint.Pattern.Program
import Endpoint.Telemetry.LogSettings

/-!
# Log filters

A filter is a list of directives joined by commas.  A directive has a level, and may be
restricted to components whose names start with a text, to spans of a name, and to events or
spans that have certain fields:

    level    component    component=level    component[span\x7bfield=value\x7d]=level

A directive without a level lets everything through.  Of the directives about neither spans
nor field values, the most specific one that applies to an event or a span decides.  A
directive about spans lets all spans of its name and fields through, and everything up to
its level that happens inside those whose fields have the values it asks for.
-/

namespace Endpoint

/-- What the value of a field has to be: a number or truth value, or a text that a pattern
    describes as a whole. -/
inductive FieldValue where
  | scalar (text : String)
  | pattern (source : String)
  deriving DecidableEq, Repr

namespace FieldValue

/-- Whether a text is a number or a truth value. -/
def isScalar (text : String) : Bool :=
  text == "true" || text == "false" || (readUnsigned? 64 text).isSome
    || (readSigned? 64 text).isSome || (Binary64.ofText? .double text).isSome

/-- Reads the value in a condition.  Patterns for values know no Unicode word
    boundaries. -/
def ofText? (text : String) : Option FieldValue :=
  if isScalar text then some (.scalar text)
  else
    match (PatternTree.ofText? text).bind PatternTree.toPattern? with
    | some p => if p.uses Look.isUnicodeWord then none else some (.pattern text)
    | none => none

/-- Whether the text of a field is the value.  Numbers and truth values are no texts. -/
def isText (text : String) : FieldValue → Bool
  | scalar _ => false
  | pattern source => ((Program.ofText? source).map (·.matchesWhole text)).getD false

end FieldValue

/-- A condition on a field: that it is there, and perhaps has a value. -/
structure FieldCondition where
  name : String
  value : Option FieldValue
  deriving DecidableEq, Repr

/-- One directive of a filter. -/
structure Directive where
  level : LevelFilter
  component : Option String
  span : Option String
  fields : List FieldCondition
  deriving DecidableEq, Repr

namespace Directive

/-- Everything is let through. -/
def everything : Directive := ⟨.upTo .trace, none, none, []⟩

/-- Whether a character may start a directive, apart from a bracket. -/
def startsDirective (c : Char) : Bool :=
  c == '-' || c == ':' || c == '_' || Unicode.isAlphanumeric c

/-- Reads one field condition. -/
def readField (s : List Char) : Option FieldCondition :=
  if s.isEmpty then none
  else
    match FieldPath.splitAt '=' s with
    | name :: value :: _ =>
      (FieldValue.ofText? (String.ofList value)).map fun v => ⟨String.ofList name, some v⟩
    | _ => some ⟨String.ofList s, none⟩

/-- Reads the level after an equals sign; without one everything is let through. -/
def readLevel (s : List Char) : Option LevelFilter :=
  if s.isEmpty then some everything.level else LevelFilter.ofText? (String.ofList s)

/-- How far the reading of a directive has come, with the place where the text that is read
    next begins. -/
inductive Progress where
  | start
  | component (place : Nat)
  | span (place : Nat)
  | field (place : Nat)
  | fieldsClosed
  | spanClosed
  | level (place : Nat)

/-- What is left of a text after some bytes, if they end with a character. -/
def dropBytes? : Nat → List Char → Option (List Char)
  | 0, s => some s
  | _, [] => none
  | n, c :: rest => if c.utf8Size ≤ n then dropBytes? (n - c.utf8Size) rest else none

/-- The characters of a text that some bytes take, if they end with a character. -/
def takeBytes? : Nat → List Char → Option (List Char)
  | 0, _ => some []
  | _, [] => none
  | n, c :: rest =>
    if c.utf8Size ≤ n then (takeBytes? (n - c.utf8Size) rest).map (c :: ·) else none

/-- The text between two places. -/
def between? (s : List Char) (first last : Nat) : Option (List Char) :=
  (dropBytes? first s).bind (takeBytes? (last - first))

/-- Reads a directive on from the character at a place. -/
def step? (s : List Char) (place : Nat) (c : Char) (d : Directive) :
    Progress → Option (Directive × Progress)
  | .start =>
    if c = '[' then some (d, .span (place + 1))
    else if startsDirective c then some (d, .component place) else none
  | .component first =>
    let named (p : Progress) : Option (Directive × Progress) :=
      (between? s first place).map fun name => ({ d with component := some (.ofList name) }, p)
    if c = '=' then named (.level (place + 1))
    else if c = '[' then named (.span (place + 1))
    else some (d, .component first)
  | .span first =>
    if c = ']' then
      (between? s first place).map fun name => ({ d with span := some (.ofList name) }, .spanClosed)
    else if c = '\x7b' then
      (between? s first place).map fun name =>
        ({ d with span := if name.isEmpty then none else some (.ofList name) }, .field (place + 1))
    else some (d, .span first)
  | .field first =>
    if c = '\x7d' then
      ((between? s first place).bind readField).map fun f =>
        ({ d with fields := d.fields ++ [f] }, .fieldsClosed)
    else some (d, .field first)
  | .fieldsClosed => if c = ']' then some (d, .spanClosed) else none
  | .spanClosed => if c = '=' then some (d, .level (place + 1)) else none
  | .level first => some (d, .level first)

/-- Reads a directive through some characters, the first of which stands at a place. -/
def run? (s : List Char) (place : Nat) (d : Directive) (p : Progress) :
    List Char → Option (Directive × Progress)
  | [] => some (d, p)
  | c :: rest => (step? s place c d p).bind fun (d, p) => run? s (place + c.utf8Size) d p rest

/-- Reads one directive.  Places are counted from its first character that is no white
    space, but texts are taken from its very beginning: white space before a component
    counts as a part of it, and leaves no place for a level. -/
def ofChars? (s : List Char) : Option Directive :=
  match run? s 0 everything .start (trimChars s) with
  | some (d, .component first) =>
    (dropBytes? first s).map fun name =>
      match LevelFilter.ofText? (.ofList name) with
      | some f => { d with level := f }
      | none => { d with component := some (.ofList name) }
  | some (d, .level first) =>
    ((dropBytes? first s).bind readLevel).map fun f => { d with level := f }
  | some (d, .spanClosed) => some d
  | _ => none

/-- Whether a directive is about spans or about the fields of spans. -/
def isScoped (d : Directive) : Bool := d.span.isSome || !d.fields.isEmpty

/-- Whether a directive can be decided for an event by itself. -/
def isPlain (d : Directive) : Bool := d.span.isNone && d.fields.all fun f => f.value.isNone

/-- Whether a directive is about a component. -/
def coversTarget (d : Directive) (target : String) : Bool :=
  (d.component.map fun c => target.startsWith c).getD true

/-- Whether all fields of the conditions are among some fields. -/
def coversFields (d : Directive) (fields : List String) : Bool :=
  d.fields.all fun f => fields.contains f.name

/-- Whether the name of a span and its fields are those of a directive. -/
def coversSpan (d : Directive) (s : Span) : Bool :=
  d.isScoped && (d.span.map fun n => n == s.name).getD true && d.coversTarget s.target
    && d.coversFields (s.fields.map Prod.fst)

/-- Whether the fields of a span have the values of a directive. -/
def meetsValues (d : Directive) (s : Span) : Bool :=
  d.fields.all fun f =>
    match f.value, s.fields.lookup f.name with
    | none, _ => true
    | some v, some (.text t) => v.isText t
    | some _, _ => false

/-- Whether two directives are about the same components, spans and fields. -/
def sameScope (d e : Directive) : Bool :=
  d.component == e.component && d.span == e.span && d.fields == e.fields

/-- The names of the fields in conditions. -/
def fieldNames (d : Directive) : List String := d.fields.map FieldCondition.name

/-- Whether a directive is more specific than another: it has a longer component, or one as
    long and more fields, or as many that come later in the alphabet. -/
def moreSpecific (d e : Directive) : Bool :=
  let size (d : Directive) : Nat := (d.component.map fun c => c.utf8ByteSize + 1).getD 0
  decide (size e < size d)
    || (size e == size d && (decide (e.fields.length < d.fields.length)
      || (d.fields.length == e.fields.length && decide (e.fieldNames < d.fieldNames))))

end Directive

/-- A filter: its directives in the order they were written. -/
structure LogFilter where
  directives : List Directive
  deriving DecidableEq, Repr

namespace LogFilter

/-- Reads a filter; pieces without any text are skipped. -/
def ofText? (text : String) : Option LogFilter :=
  (((FieldPath.splitAt ',' text.toList).filter fun piece => !piece.isEmpty).mapM fun piece =>
    Directive.ofChars? piece).map LogFilter.mk

/-- The directives, or the one that lets errors through where there are none. -/
def effective (f : LogFilter) : List Directive :=
  if f.directives.isEmpty then [{ Directive.everything with level := .upTo .error }]
  else f.directives

/-- Whether any directive lets a level through at all.  For the sake of values that spans
    are not known by, conditions on values make this true of every level. -/
def reaches (f : LogFilter) (level : Level) : Bool :=
  f.effective.any fun d => d.level.allows level || d.fields.any fun c => c.value.isSome

/-- The directives that are decided for an event by itself. -/
def plain (f : LogFilter) : List Directive := f.effective.filter Directive.isPlain

/-- The most specific of some directives, the last of those that are equally specific. -/
def mostSpecific? (ds : List Directive) : Option Directive :=
  ds.foldl
    (fun best d =>
      match best with
      | some b => if b.moreSpecific d then some b else some d
      | none => some d)
    none

/-- Whether the most specific of some directives lets a level through. -/
def allowsBy (ds : List Directive) (level : Level) : Bool :=
  match mostSpecific? ds with
  | some d => d.level.allows level
  | none => false

/-- The directives about a span, the last of those about the same. -/
def scopedFor (f : LogFilter) (s : Span) : List Directive :=
  (f.directives.foldr (fun d later => if later.any d.sameScope then later else d :: later)
    []).filter fun d => d.coversSpan s

/-- Whether a span is let through.  Field conditions without values are not looked at where
    a span is decided for by itself. -/
def allowsSpan (f : LogFilter) (s : Span) : Bool :=
  f.reaches s.level
    && (!(f.scopedFor s).isEmpty
      || allowsBy (f.plain.filter fun d => d.coversTarget s.target) s.level)

/-- Whether an event inside some spans is let through.  Its message counts as a field. -/
def allowsEvent (f : LogFilter) (spans : List Span) (e : Event) : Bool :=
  ((spans.filter f.allowsSpan).any fun s =>
      (f.scopedFor s).any fun d => d.level.allows e.level && d.meetsValues s)
    || allowsBy
      (f.plain.filter fun d =>
        d.coversTarget e.target && d.coversFields ("message" :: e.fields.map Prod.fst))
      e.level

end LogFilter

end Endpoint
