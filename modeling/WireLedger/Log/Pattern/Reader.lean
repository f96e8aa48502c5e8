import WireLedger.Numeral
import WireLedger.Text.Blank
/-!
# Reading patterns

A reader takes something off the front of what is left of a pattern, or fails. What is allowed in a
pattern depends on its mode, since the letters of all scripts are not known here: neither their
digits, blanks and words, nor which of them are the same but for capitals. Among ASCII characters
all this is known, but nothing may describe a part of another character.

Results:
* `dropFiller_head`: what is left does not start with a blank.
* `atom_of_ne`: a character that is no backslash stands for itself.
-/
namespace WireLedger.Log.Pattern

/-- How what follows in a pattern is meant. -/
structure Mode where
  /-- Blanks and comments do not count. -/
  extended : Bool
  /-- Capitals do not matter. -/
  caseless : Bool
  /-- Characters are those of all scripts, else ASCII. -/
  unicode : Bool
deriving DecidableEq, Repr

namespace Mode

/-- The mode at the start of a pattern. -/
def initial : Mode := ⟨false, false, true⟩

/-- Whether a character may stand for itself; as a byte it may be a part of another. -/
def allowsLiteral (m : Mode) (c : Char) (byte : Bool) : Bool :=
  if m.unicode then !m.caseless else !byte || c.toNat < 0x80

/-- Whether a character may stand in a class. -/
def allowsMember (m : Mode) (c : Char) : Bool :=
  if m.unicode then !m.caseless else c.toNat < 0x80

/-- Whether the characters that are no digits, blanks or parts of words may be asked for, or those
that are. -/
def allowsShorthand (m : Mode) (negated : Bool) : Bool := !m.unicode && !negated

/-- Whether the ASCII characters of a named class may be asked for, or all others. -/
def allowsNamed (m : Mode) (negated : Bool) : Bool :=
  if m.unicode then !m.caseless else !negated

/-- Whether the characters in brackets may be asked for, or all others. -/
def allowsBrackets (m : Mode) (negated : Bool) : Bool := m.unicode || !negated

end Mode

/-- What is left of a pattern, and what has been read. -/
structure Reading where
  rest : List Char
  mode : Mode
  /-- The names of the groups. -/
  names : List (List Char)
  /-- Whether ends of words are asked for, in all scripts. -/
  wordEdges : Bool
deriving DecidableEq, Repr

/-- Takes something off the front of what is left, or fails. -/
abbrev Reader := StateT Reading Option

/-- What is left without blanks and comments in front, or without the rest of a comment. A comment
ends with its line. -/
def dropFiller (inComment : Bool) : List Char → List Char
  | [] => []
  | c :: cs =>
    if inComment then dropFiller (c ≠ '\n') cs
    else if Text.isBlank c then dropFiller false cs
    else if c = '#' then dropFiller true cs
    else c :: cs

/-- The next character, which is not taken. -/
def next? : Reader (Option Char) := return (← get).rest.head?

/-- Takes so many characters. -/
def skip (n : Nat) : Reader Unit := modify fun r => { r with rest := r.rest.drop n }

/-- Takes blanks and comments that do not count. -/
def skipFiller : Reader Unit := modify fun r =>
  if r.mode.extended then { r with rest := dropFiller false r.rest } else r

/-- Goes on to the next character that counts; there must be one. -/
def advance : Reader Char := do
  skip 1
  skipFiller
  match ← next? with
  | some c => return c
  | none => failure

theorem bind_apply {α β : Type} (x : Reader α) (f : α → Reader β) (r : Reading) :
    (x >>= f) r = (x r).bind fun y => f y.1 y.2 := rfl

theorem get_apply (r : Reading) : (get : Reader Reading) r = some (r, r) := rfl

/-! ## Atoms -/

/-- What a character, or a backslash with what follows it, stands for. -/
inductive Atom where
  | literal (c : Char) (byte : Bool)
  /-- A place between characters, perhaps the end of a word. -/
  | edge (ofWord : Bool)
  /-- The digits, the blanks or the parts of words, or all but those. -/
  | shorthand (negated : Bool)
deriving DecidableEq, Repr

/-- Takes so many hexadecimal digits. -/
def hexDigits : (count : Nat) → Reader (List Char)
  | 0 => return []
  | count + 1 => do
    match ← next? with
    | some c =>
      guard (Numeral.digit? c).isSome
      skip 1
      skipFiller
      return c :: (← hexDigits count)
    | none => failure

/-- Takes a character that is given by so many hexadecimal digits, behind the letter that says
so. -/
def hexLiteral (count : Nat) : Reader Atom := do
  let _ ← advance
  match Numeral.read? 16 (← hexDigits count) with
  | some n =>
    guard n.isValidChar
    return .literal (Char.ofNat n) (count = 2)
  | none => failure

/-- What one character behind a backslash stands for. -/
def escaped? (c : Char) : Option Atom :=
  if c = 'a' then some (.literal '\x07' false)
  else if c = 'f' then some (.literal '\x0c' false)
  else if c = 't' then some (.literal '\t' false)
  else if c = 'n' then some (.literal '\n' false)
  else if c = 'r' then some (.literal '\r' false)
  else if c = 'v' then some (.literal '\x0b' false)
  else if c = 'A' ∨ c = 'z' then some (.edge false)
  else if c = 'b' ∨ c = 'B' ∨ c = '<' ∨ c = '>' then some (.edge true)
  else if c = 'd' ∨ c = 's' ∨ c = 'w' then some (.shorthand false)
  else if c = 'D' ∨ c = 'S' ∨ c = 'W' then some (.shorthand true)
  else if c.toNat < 0x80 ∧ !c.isAlphanum then some (.literal c false)
  else none

/-- Takes an atom. -/
def atom : Reader Atom := do
  match (← get).rest with
  | [] => failure
  | ['\\'] => failure
  | '\\' :: c :: _ =>
    skip 1
    if c = 'x' then hexLiteral 2
    else if c = 'u' then hexLiteral 4
    else if c = 'U' then hexLiteral 8
    else
      skip 1
      match escaped? c with
      | some atom => return atom
      | none => failure
  | c :: _ =>
    skip 1
    return .literal c false

theorem atom_of_ne {c : Char} (cs : List Char) (m : Mode) (names : List (List Char)) (edges : Bool)
    (hc : c ≠ '\\') :
    atom ⟨c :: cs, m, names, edges⟩ = some (.literal c false, ⟨cs, m, names, edges⟩) := by
  rw [atom, bind_apply, get_apply, Option.bind_some]
  cases cs with
  | nil => simp [hc]; rfl
  | cons d cs => simp [hc]; rfl

theorem dropFiller_head (inComment : Bool) (cs : List Char) :
    ∀ c ∈ (dropFiller inComment cs).head?, Text.isBlank c = false := by
  fun_induction dropFiller inComment cs <;> simp_all

end WireLedger.Log.Pattern
