import WireLedger.Toml.Scan
/-!
# Blanks, comments and line ends

What may stand between the parts of a document without a meaning of its own.
-/
namespace WireLedger.Toml.Scanner

/-- Blanks within a line. -/
def isSpace (c : Char) : Bool := c = ' ' || c = '\t'

/-- Characters of a comment. -/
def isComment (c : Char) : Bool := c = '\t' || (0x20 ≤ c.toNat && c.toNat ≠ 0x7F)

/-- Takes blanks, if there are any. -/
def spaces : Scanner Unit := do let _ ← takeWhile isSpace

/-- Takes a line end: a line feed, perhaps with a carriage return in front. Another character is
refused at its end. -/
def newline : Scanner Unit := do
  match ← any with
  | '\n' => return ()
  | '\r' => do let _ ← char '\n'
  | _ => fail

/-- Takes a line end, unless the document ends. -/
def lineEnd : Scanner Unit := orElse newline atEnd

/-- Takes a comment up to the end of its line. -/
def comment : Scanner Unit := do
  let _ ← char '#'
  let _ ← takeWhile isComment

/-- Takes what may follow on a line: blanks and a comment. -/
def lineRest : Scanner Unit := do
  spaces
  let _ ← optional comment
  lineEnd

/-- Takes blanks, comments and line ends, at most one for each of the given characters. -/
def gapUpTo : List Char → Scanner Unit
  | [] => spaces
  | _ :: more => do
    spaces
    match ← next? with
    | some '#' => do comment; newline; gapUpTo more
    | some '\n' | some '\r' => do newline; gapUpTo more
    | _ => return ()

/-- Takes blanks, comments and line ends. -/
def gap : Scanner Unit := fun input => gapUpTo input.rest input

end WireLedger.Toml.Scanner
