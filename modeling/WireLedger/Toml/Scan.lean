import WireLedger.Text.Bytes
import WireLedger.Text.Span
import WireLedger.Toml.Failure
/-!
# Scanners

A scanner takes something off the front of what is left of a document, or fails. A failure keeps the
place where the scanner stood. While it is not committed another way of reading may be tried from
the place where the scanner began.

Results:
* `many_of_error`: reading nothing where the first item fails is no failure.
* `orElse_of_committed`: a committed failure is final.
-/
namespace WireLedger.Toml

/-- What is left of a document, and the number of bytes in front of it. -/
structure Input where
  offset : Nat
  rest : List Char
deriving DecidableEq, Repr

/-- Takes something off the front of what is left. -/
abbrev Scanner (α : Type) := StateT Input (Except Failure) α

namespace Scanner

variable {α β : Type}

/-- Fails at the present place. -/
def fail : Scanner α := fun input => .error ⟨input.offset, none, [], none, false⟩

/-- Fails at the present place because of a fault. -/
def failWith (fault : Fault) : Scanner α :=
  fun input => .error ⟨input.offset, none, [], some fault, false⟩

/-- A scanner with its failures changed. -/
def mapFailure (f : Failure → Failure) (scan : Scanner α) : Scanner α :=
  fun input => (scan input).mapError f

/-- Makes failures final. -/
def commit (scan : Scanner α) : Scanner α := scan.mapFailure ({ · with committed := true })

/-- Says what is being read, unless a scanner further inside has said so. -/
def labelled (label : String) (scan : Scanner α) : Scanner α :=
  scan.mapFailure fun f => { f with label := f.label.or (some label) }

/-- Says what is wanted. -/
def wanting (wanted : List Wanted) (scan : Scanner α) : Scanner α :=
  scan.mapFailure fun f => { f with wanted := f.wanted ++ wanted }

/-- Tries another scanner if the first fails without being final. -/
def orElse (first second : Scanner α) : Scanner α := fun input =>
  match first input with
  | .ok result => .ok result
  | .error f => if f.committed then .error f else second input

/-- Tries scanners in turn; the failure of the last one counts. -/
def firstOf : List (Scanner α) → Scanner α
  | [] => fail
  | [scan] => scan
  | scan :: rest => scan.orElse (firstOf rest)

/-- Reads something or nothing. -/
def optional (scan : Scanner α) : Scanner (Option α) := orElse (some <$> scan) (return none)

/-- Gives what was read a meaning; if it has none, fails where it begins. -/
def check (scan : Scanner α) (f : α → Except Fault β) : Scanner β := fun input =>
  match scan input with
  | .error failure => .error failure
  | .ok (a, rest) =>
    match f a with
    | .ok b => .ok (b, rest)
    | .error fault => .error ⟨input.offset, none, [], some fault, false⟩

/-- Fails where the scanner begins if what was read is not wanted. -/
def filter (p : α → Bool) (scan : Scanner α) : Scanner α := fun input =>
  match scan input with
  | .error failure => .error failure
  | .ok (a, rest) => if p a then .ok (a, rest) else .error ⟨input.offset, none, [], none, false⟩

/-- Reads something without taking it. -/
def peek (scan : Scanner α) : Scanner α := fun input =>
  match scan input with
  | .error failure => .error failure
  | .ok (a, _) => .ok (a, input)

/-- The next character, which is not taken. -/
def next? : Scanner (Option Char) := fun input => .ok (input.rest.head?, input)

/-- Takes one character that satisfies a test. -/
def satisfying (p : Char → Bool) : Scanner Char := fun input =>
  match input.rest with
  | [] => fail input
  | c :: rest => if p c then .ok (c, ⟨input.offset + c.utf8Size, rest⟩) else fail input

/-- Takes any character. -/
def any : Scanner Char := satisfying fun _ => true

/-- Takes one certain character. -/
def char (c : Char) : Scanner Char := satisfying (· = c)

/-- Takes a text, all of it or nothing. -/
def text (s : String) : Scanner Unit := fun input =>
  if s.toList.isPrefixOf input.rest then
    .ok ((), ⟨input.offset + s.utf8ByteSize, input.rest.drop s.length⟩)
  else fail input

/-- Takes certain characters that are next. -/
def taking (taken : List Char) : Scanner (List Char) := fun input =>
  .ok (taken, ⟨input.offset + Text.byteLength taken, input.rest.drop taken.length⟩)

/-- Takes characters up to the first one that fails a test. -/
def takeWhile (p : Char → Bool) : Scanner (List Char) := fun input =>
  taking (input.rest.takeWhile p) input

/-- Takes characters up to the first one that fails a test, or at most so many. -/
def takeUpTo (most : Nat) (p : Char → Bool) : Scanner (List Char) := fun input =>
  taking ((input.rest.take most).takeWhile p) input

/-- Takes one character or more. -/
def takeSome (p : Char → Bool) : Scanner (List Char) := (takeWhile p).filter (· ≠ [])

/-- Succeeds at the end of the document. -/
def atEnd : Scanner Unit := fun input => if input.rest = [] then .ok ((), input) else fail input

/-- Reads items while they can be read, at most one for each of the given characters. -/
def upTo (scan : Scanner α) : List Char → Scanner (List α)
  | [] => return []
  | _ :: more => optional scan >>= fun
    | some a => (a :: ·) <$> upTo scan more
    | none => return []

/-- Reads items while they can be read. An item takes at least one character, so there are no more
of them than characters are left. -/
def many (scan : Scanner α) : Scanner (List α) := fun input => upTo scan input.rest input

/-- Reads items with separators between them: the first one and the others. A separator with no item
behind it is left. -/
def separated (scan : Scanner α) (separator : Scanner β) : Scanner (α × List α) := do
  let first ← scan
  return (first, ← many (separator *> scan))

/-- Reads items with separators between them, or nothing. -/
def separatedOrNone (scan : Scanner α) (separator : Scanner β) : Scanner (List α) := do
  match ← optional (separated scan separator) with
  | some (first, rest) => return first :: rest
  | none => return []

/-- Reads something and the span that it takes up. -/
def spanned (scan : Scanner α) : Scanner (α × Span) := fun input =>
  match scan input with
  | .error failure => .error failure
  | .ok (a, rest) => .ok ((a, ⟨input.offset, rest.offset⟩), rest)

theorem orElse_of_committed {first second : Scanner α} {input : Input} {f : Failure}
    (h : first input = .error f) (hf : f.committed = true) :
    first.orElse second input = .error f := by simp [orElse, h, hf]

theorem optional_of_error {scan : Scanner α} {input : Input} {f : Failure}
    (h : scan input = .error f) (hf : f.committed = false) :
    optional scan input = .ok (none, input) := by
  have hmap : (some <$> scan) input = .error f := by
    show (scan input >>= fun y => pure (some y.1, y.2)) = _
    rw [h]
    rfl
  unfold optional orElse
  rw [hmap]
  show (if f.committed then _ else _) = _
  rw [if_neg (by simp [hf])]
  rfl

theorem many_of_error {scan : Scanner α} {input : Input} {f : Failure}
    (h : scan input = .error f) (hf : f.committed = false) : many scan input = .ok ([], input) := by
  unfold many
  cases input.rest with
  | nil => rfl
  | cons c cs =>
    show (optional scan input >>= fun y => _) = _
    rw [optional_of_error h hf]
    rfl

end Scanner

end WireLedger.Toml
