import OutboxProvisioning.Log
import OutboxProvisioning.Log.Filter.Value
import OutboxProvisioning.Text.Blank
import OutboxProvisioning.Text.Utf8

/-!
# Filter directives

A directive says down to which level something is reported:
`target[span\x7bfield=value\x7d]=level`, where every part may be left out. Places in a directive
are counted without the white space before it, but its parts are cut out of the text with that
white space. So a directive that starts with a blank gets other parts than it seems to have, and
a cut may fall inside a character.

* `Directive.ofString`: the directive that a text stands for.
* `Directive.text`: how a directive is shown.
-/

namespace OutboxProvisioning.Log.Filter

/-- The least important level that is reported; nothing is below the first. -/
inductive Threshold
  | off
  | from (level : Level)
deriving DecidableEq, Repr

namespace Threshold

/-- The name of a threshold. -/
def name : Threshold → String
  | .off => "off"
  | .from level => level.name.toLower

/-- The thresholds in the order of their numbers. -/
def all : List Threshold :=
  [.off, .from .error, .from .warn, .from .info, .from .debug, .from .trace]

/-- The threshold with a number or a name in any case of letters. -/
def ofString? (s : String) : Option Threshold :=
  match Text.natural? (Nat.pow 2 64) s.toList with
  | some n => all[n]?
  | none =>
    if s.isEmpty then some (.from .error)
    else all.find? fun t => t.name = String.ofList (s.toList.map Char.toLower)

/-- Whether a level is reported. -/
def admits (t : Threshold) (level : Level) : Bool :=
  match t with
  | .off => false
  | .from least => least.ctorIdx ≤ level.ctorIdx

end Threshold

/-- Why a text is no directive. -/
inductive Flaw
  | malformed
  | level
  | pattern (f : Pattern.Flaw)
  /-- A part would begin or end inside a character. -/
  | splitCharacter
deriving DecidableEq, Repr

/-- The words for a flaw. -/
def Flaw.message : Flaw → String
  | .malformed => "invalid filter directive"
  | .level =>
    "error parsing level filter: expected one of \"off\", \"error\", \"warn\", \"info\", " ++
      "\"debug\", \"trace\", or a number 0-5"
  | .pattern f => "invalid field filter: " ++ f.message
  | .splitCharacter => "byte index is not a char boundary"

/-- A field that has to be there, perhaps with a value. -/
structure FieldMatch where
  name : String
  value : Option Value

namespace FieldMatch

/-- The parts of a text between equals signs. -/
def ofString (s : String) : Except Pattern.Flaw FieldMatch :=
  match s.splitOn "=" with
  | name :: value :: _ => (Value.ofString value).map fun v => ⟨name, some v⟩
  | _ => .ok ⟨s, none⟩

/-- A field as it is shown. -/
def text (f : FieldMatch) : String :=
  match f.value with
  | some v => f.name ++ "=" ++ v.text
  | none => f.name

/-- The order of two things that may be absent: absent ones come first. -/
def optionOrder (order : α → α → Ordering) : Option α → Option α → Ordering
  | none, none => .eq
  | none, some _ => .lt
  | some _, none => .gt
  | some a, some b => order a b

/-- The order of fields: those without a value first, then by name, then by value. -/
def order (a b : FieldMatch) : Ordering :=
  (compare a.value.isSome b.value.isSome).then
    ((compare a.name b.name).then (optionOrder Value.order a.value b.value))

end FieldMatch

/-- What is reported down to which level. -/
structure Directive where
  target : Option String
  span : Option String
  field : Option FieldMatch
  threshold : Threshold

namespace Directive

/-- Where the reading of a directive stands, with the octet at which the current part begins. -/
inductive State
  | start
  | levelOrTarget (start : Nat)
  | span (start : Nat)
  | field (start : Nat)
  /-- After the field, before the closing bracket. -/
  | fields
  /-- After the closing bracket. -/
  | target
  | level (start : Nat)

/-- A part of a text, by the octets before its begin and its end. -/
def cut (text : Bytes) (first last : Nat) : Except Flaw String :=
  if last < first then .error .splitCharacter
  else
    match Utf8.decode ((text.take last).drop first) with
    | .ok s => .ok s
    | .error _ => .error .splitCharacter

/-- The threshold in a directive: everything when it is left out. -/
def readThreshold (s : String) : Except Flaw Threshold :=
  if s.isEmpty then .ok (.from .trace)
  else
    match Threshold.ofString? s with
    | some t => .ok t
    | none => .error .level

/-- Takes the character `c`, which `i` octets come before. -/
def advance (text : Bytes) (d : Directive) (state : State) (i : Nat) (c : Char) :
    Except Flaw (Directive × State) :=
  match state with
  | .start =>
    if c = '[' then .ok (d, .span (i + 1))
    else if c = '-' || c = ':' || c = '_' || Text.isAlphanumeric c then .ok (d, .levelOrTarget i)
    else .error .malformed
  | .levelOrTarget first =>
    if c = '=' then (cut text first i).map fun t => ({ d with target := some t }, .level (i + 1))
    else if c = '[' then
      (cut text first i).map fun t => ({ d with target := some t }, .span (i + 1))
    else .ok (d, state)
  | .span first =>
    if c = ']' then (cut text first i).map fun s => ({ d with span := some s }, .target)
    else if c = '\x7b' then
      (cut text first i).map fun s =>
        ({ d with span := if s.isEmpty then none else some s }, .field (i + 1))
    else .ok (d, state)
  | .field first =>
    if c = '\x7d' then
      match cut text first i with
      | .error f => .error f
      | .ok s =>
        if s.isEmpty then .error .malformed
        else
          match FieldMatch.ofString s with
          | .ok m => .ok ({ d with field := some m }, .fields)
          | .error f => .error (.pattern f)
    else .ok (d, state)
  | .fields => if c = ']' then .ok (d, .target) else .error .malformed
  | .target => if c = '=' then .ok (d, .level (i + 1)) else .error .malformed
  | .level _ => .ok (d, state)

/-- Takes all characters, the first of which `i` octets come before. -/
def advanceAll (text : Bytes) (d : Directive) (state : State) (i : Nat) :
    List Char → Except Flaw (Directive × State)
  | [] => .ok (d, state)
  | c :: cs =>
    match advance text d state i c with
    | .error f => .error f
    | .ok (d, state) => advanceAll text d state (i + c.utf8Size) cs

/-- What the end of a text makes of a directive. -/
def finish (text : Bytes) (d : Directive) : State → Except Flaw Directive
  | .levelOrTarget first =>
    match cut text first text.length with
    | .error f => .error f
    | .ok s =>
      if s.isEmpty then .ok { d with threshold := .from .trace, target := none }
      else
        match Threshold.ofString? s with
        | some t => .ok { d with threshold := t, target := none }
        | none => .ok { d with threshold := .from .trace, target := some s }
  | .level first =>
    match cut text first text.length with
    | .error f => .error f
    | .ok s => (readThreshold s).map fun t => { d with threshold := t }
  | .target => .ok d
  | .start | .span _ | .field _ | .fields => .error .malformed

/-- The directive that a text stands for. -/
def ofString (s : String) : Except Flaw Directive :=
  let text := Utf8.encode s
  match advanceAll text ⟨none, none, none, .from .trace⟩ .start 0 (Text.trim s).toList with
  | .error f => .error f
  | .ok (d, state) => finish text d state

/-- A directive as it is shown. -/
def text (d : Directive) : String :=
  let scope :=
    if d.span.isNone && d.field.isNone then ""
    else "[" ++ d.span.getD "" ++
      (match d.field with
        | some f => "\x7b" ++ f.text ++ "\x7d"
        | none => "") ++ "]"
  let subject := d.target.getD "" ++ scope
  (if d.target.isNone && scope.isEmpty then "" else subject ++ "=") ++ d.threshold.name

/-- Whether a directive is about spans or fields. -/
def isDynamic (d : Directive) : Bool := d.span.isSome || d.field.isSome

/-- Whether a directive can be decided without values: it names no span and no value. -/
def isStatic (d : Directive) : Bool := d.span.isNone && !(d.field.any fun f => f.value.isSome)

/-- The size of a target in octets. -/
def targetSize (d : Directive) : Option Nat := d.target.map String.utf8ByteSize

/-- The order of directives: the more they say about what is reported, the earlier they come. -/
def order (a b : Directive) : Ordering :=
  let text := FieldMatch.optionOrder (compare : String → String → Ordering)
  ((FieldMatch.optionOrder (compare : Nat → Nat → Ordering) b.targetSize a.targetSize).then
    (compare b.span.isSome a.span.isSome)).then
  ((compare b.field.isSome a.field.isSome).then
    ((text b.target a.target).then
      ((text b.span a.span).then (FieldMatch.optionOrder FieldMatch.order b.field a.field))))

end Directive

end OutboxProvisioning.Log.Filter
