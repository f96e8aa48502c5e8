/-!
# Terminal escapes

A terminal does not show an escape character, nor what follows it as a command: a control sequence
up to its final character, a text for the terminal up to the sign that ends it, or any one other
character. A sequence without an end takes all that follows.

Results:
* `map_fst_marked`: every character is told to be shown or not.
* `shown_eq_self`: without an escape character all are shown.
-/
namespace WireLedger.Text

/-- The character that starts a sequence. -/
def escape : Char := '\x1b'

/-- Where a terminal is that reads a text. -/
inductive EscapeState where
  | outside
  /-- Behind an escape character. -/
  | begun
  /-- In a control sequence. -/
  | control
  /-- In a text for the terminal, behind its character `last`. -/
  | command (last : Char)
deriving DecidableEq, Repr

namespace EscapeState

/-- Whether a terminal shows the next character. -/
def shows (s : EscapeState) (c : Char) : Bool := s = outside && c ≠ escape

/-- The state behind one more character. -/
def next : EscapeState → Char → EscapeState
  | outside, c => if c = escape then begun else outside
  | begun, c => if c = '[' then control else if c = ']' then command c else outside
  | control, c => if '\x40' ≤ c ∧ c ≤ '\x7e' then outside else control
  | command last, c => if c = '\x07' ∨ c = '\\' ∧ last = escape then outside else command c

/-- The characters with whether each is shown. -/
def marked (s : EscapeState) : List Char → List (Char × Bool)
  | [] => []
  | c :: cs => (c, s.shows c) :: marked (s.next c) cs

end EscapeState

/-- What a terminal shows of a text. -/
def shown (cs : List Char) : List Char :=
  ((EscapeState.outside.marked cs).filter Prod.snd).map Prod.fst

theorem map_fst_marked (s : EscapeState) (cs : List Char) : (s.marked cs).map Prod.fst = cs := by
  induction cs generalizing s with
  | nil => rfl
  | cons c cs ih => simp [EscapeState.marked, ih]

theorem shown_eq_self {cs : List Char} (h : escape ∉ cs) : shown cs = cs := by
  unfold shown
  induction cs with
  | nil => rfl
  | cons c cs ih =>
    have hc : c ≠ escape := fun e => h (e ▸ List.mem_cons_self)
    have hcs : escape ∉ cs := fun e => h (List.mem_cons_of_mem c e)
    simpa [EscapeState.marked, EscapeState.shows, EscapeState.next, hc] using ih hcs

end WireLedger.Text
