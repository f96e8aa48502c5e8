import WireLedger.Log.Pattern
import WireLedger.Log.Threshold
import WireLedger.Text.Blank
import WireLedger.Text.Bytes
import WireLedger.Text.Letter
/-!
# Directives

A directive sets a threshold for the targets that start with its own, or for all. It is written as a
threshold, as a target, or as both with a sign of equality between them; a target without a
threshold lets everything through. Anything that is no threshold is a target.

Between target and threshold there may be brackets with the name of a span, with a field in braces,
or with both. A directive with a field is about the events that have it. One that names a span, or a
value for its field, is about what happens inside spans and lets no other event pass.

Blanks around a directive count towards its parts, but not towards their places: these are counted
in the directive without the blanks.
-/
namespace WireLedger.Log

/-- A field that is asked for, perhaps with a value. -/
structure FieldTest where
  name : List Char
  value : Option (List Char)
deriving DecidableEq, Repr

/-- A threshold for the targets that start with a text, or for every target. -/
structure Directive where
  target : Option (List Char)
  /-- The name of the span; the empty one is a name too. -/
  span : Option (List Char)
  field : Option FieldTest
  threshold : Threshold
deriving DecidableEq, Repr

/-- Why a text is no list of directives. -/
inductive DirectiveError where
  /-- A directive has not the form of one. -/
  | invalid
  /-- What follows the sign of equality is no threshold. -/
  | invalidThreshold
  /-- The value of a field is no pattern that can be used. -/
  | invalidValue (fault : PatternFault)
deriving DecidableEq, Repr

/-- The error in one sentence. -/
def DirectiveError.message : DirectiveError → String
  | invalid => "invalid filter directive"
  | invalidThreshold =>
    "error parsing level filter: expected one of " ++
      "\"off\", \"error\", \"warn\", \"info\", \"debug\", \"trace\", or a number 0-5"
  | invalidValue fault => "invalid field filter: " ++ fault.message

namespace FieldTest

/-- Whether a text is a number without a sign. -/
def isNumber (cs : List Char) : Bool :=
  let mantissa := cs.takeWhile fun c => c ≠ 'e' ∧ c ≠ 'E'
  let exponent := (cs.drop mantissa.length).drop 1
  let exponent := if exponent.head?.any (fun c => c = '-' ∨ c = '+') then exponent.drop 1
    else exponent
  let digits := mantissa.filter (· ≠ '.')
  ["inf", "infinity", "nan"].contains (String.ofList (cs.map Char.toLower)) ||
    (digits ≠ [] && digits.all Char.isDigit && mantissa.count '.' ≤ 1 &&
      (mantissa = cs || (exponent ≠ [] && exponent.all Char.isDigit)))

/-- Why a text cannot be the value of a field, if so: it is neither a number nor a pattern. -/
def valueFault? (cs : List Char) : Option PatternFault :=
  match cs with
  | '+' :: digits => if isNumber digits then none else Pattern.fault? cs
  | _ => Pattern.fault? cs

/-- Reads a field: its name, and its value up to another sign of equality. -/
def read (cs : List Char) : Except DirectiveError FieldTest :=
  match cs.splitOn '=' with
  | name :: value :: _ =>
    match valueFault? value with
    | some fault => .error (.invalidValue fault)
    | none => .ok ⟨name, some value⟩
  | _ => if cs = [] then .error .invalid else .ok ⟨cs, none⟩

end FieldTest

namespace Directive

/-- The threshold of a target that names none. -/
def unbounded : Threshold := .upTo .trace

/-- Whether a directive without brackets in front can start so. -/
def isStart (c : Char) : Bool := c = '-' || c = ':' || c = '_' || Text.isAlphanumeric c

/-- Whether a target goes on with a character. -/
def isInTarget (c : Char) : Bool := c ≠ '=' && c ≠ '['

/-! ## Reading -/

/-- What is left of a directive without the blanks around it, and the bytes in front of that. -/
structure Rest where
  place : Nat
  chars : List Char

/-- Reads a part of a directive. -/
abbrev Reader := StateT Rest (Except DirectiveError)

/-- Takes the next character, if there is one. -/
def next : Reader (Option Char) := do
  match (← get).chars with
  | [] => return none
  | c :: cs =>
    modify fun rest => ⟨rest.place + c.utf8Size, cs⟩
    return some c

/-- Takes the characters that pass a test, and gives the part of the directive `cs` in their
place. -/
def part (cs : List Char) (p : Char → Bool) : Reader (List Char) := do
  let rest ← get
  let stop := rest.place + Text.byteLength (rest.chars.takeWhile p)
  set (⟨stop, rest.chars.dropWhile p⟩ : Rest)
  match Text.slice? rest.place stop cs with
  | some found => return found
  | none => throw .invalid

/-- Takes one certain character. -/
def require (c : Char) : Reader Unit := do
  if (← next) ≠ some c then throw .invalid

/-- Takes a span and a field, behind the bracket that opens them. -/
def brackets (cs : List Char) : Reader (Option (List Char) × Option FieldTest) := do
  let span ← part cs fun c => c ≠ ']' && c ≠ '\x7b'
  match ← next with
  | some ']' => return (some span, none)
  | some '\x7b' =>
    let field ← part cs (· ≠ '\x7d')
    require '\x7d'
    let field ← FieldTest.read field
    require ']'
    return (if span = [] then none else some span, some field)
  | _ => throw .invalid

/-- Takes the threshold, which is all that is left of the directive `cs`. -/
def takeThreshold (cs : List Char) : Reader Threshold := do
  match Text.cut? (← get).place cs with
  | some (_, []) => return unbounded
  | some (_, written) =>
    match Threshold.read? written with
    | some threshold => return threshold
    | none => throw .invalidThreshold
  | none => throw .invalid

/-- What a directive `cs` without signs is: a threshold for all targets, or a target. -/
def bare (cs : List Char) : Directive :=
  match Threshold.read? cs with
  | some threshold => ⟨none, none, none, threshold⟩
  | none => ⟨some cs, none, none, unbounded⟩

/-- Takes what follows a span and a field, behind their closing bracket. -/
def tail (cs : List Char) : Reader Threshold := do
  match ← next with
  | none => return unbounded
  | some '=' => takeThreshold cs
  | some _ => throw .invalid

/-- Takes a directive `cs`. -/
def whole (cs : List Char) : Reader Directive := do
  let chars := (← get).chars
  if chars.head? = some '[' then
    let _ ← next
    let (span, field) ← brackets cs
    return ⟨none, span, field, ← tail cs⟩
  else if !chars.head?.any isStart then throw .invalid
  else if chars.all isInTarget then return bare cs
  else
    let target ← part cs isInTarget
    if (← next) = some '[' then
      let (span, field) ← brackets cs
      return ⟨some target, span, field, ← tail cs⟩
    else return ⟨some target, none, none, ← takeThreshold cs⟩

/-- Reads one directive. -/
def read (cs : List Char) : Except DirectiveError Directive :=
  (whole cs).run' ⟨0, Text.trimChars cs⟩

/-- Reads a list of directives with commas between them; empty ones do not count. -/
def readAll (text : String) : Except DirectiveError (List Directive) :=
  ((text.toList.splitOn ',').filter (· ≠ [])).mapM read

/-! ## Meaning -/

/-- Whether the directive asks for the value of a field. -/
def asksForValue (d : Directive) : Bool := d.field.any (·.value.isSome)

/-- Whether the directive is about events outside of spans too. -/
def isAboutEvents (d : Directive) : Bool := d.span.isNone && !d.asksForValue

/-- Whether the directive is about the event. -/
def covers (d : Directive) (event : Event) : Bool :=
  d.target.all (·.isPrefixOf event.target.toList) &&
    d.field.all fun field => event.names.contains (String.ofList field.name)

/-- How special a directive is, to be compared from the left: the longer its target the more; of
those with equally long targets one with a field more than one without, and of two with a field the
one whose name is later in order. -/
def specificity (d : Directive) : List Nat :=
  (match d.target with
    | some target => Text.byteLength target + 1
    | none => 0) ::
  match d.field with
    | some field => 1 :: field.name.map Char.toNat
    | none => [0]

/-- The most that the directive may let through. The value of a field is only known inside its
span, so that a directive that asks for one may let everything through. -/
def loudest (d : Directive) : Threshold := if d.asksForValue then unbounded else d.threshold

end Directive

end WireLedger.Log
