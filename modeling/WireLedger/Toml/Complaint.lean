import WireLedger.Text.Bytes
import WireLedger.Toml.Document
/-!
# Complaints about a document

A complaint shows the line of a document that it is about, with carets under the place, and what is
wrong there. A syntax error is about one character. A column counts characters, but bytes in front
of a character beyond ASCII; carets count bytes and stay within the line, though there is always
one.
-/
namespace WireLedger.Toml

/-- What is wrong with a stretch of a document. -/
structure Complaint where
  source : String
  span : Span
  message : String
deriving DecidableEq, Repr

/-- A line and a column, both from zero. -/
structure Position where
  line : Nat
  column : Nat
deriving DecidableEq, Repr

/-- The place behind some characters of a document and in front of others. The end of a document
belongs to its last line, even if that has ended. -/
def Position.between (before behind : List Char) : Position :=
  let count (text : List Char) : Nat := (text.filter (· = '\n')).length
  let lineOf (text : List Char) : List Char := (text.reverse.takeWhile (· ≠ '\n')).reverse
  match behind with
  | [] =>
    if before = [] then ⟨0, 0⟩
    else ⟨count before.dropLast, (lineOf before.dropLast).length + 1⟩
  | c :: _ =>
    let line := lineOf before
    ⟨count before, if c.utf8Size = 1 then line.length else Text.byteLength line⟩

namespace Complaint

/-- The complaint about the character at which a scanner stopped. -/
def ofFailure (source : String) (f : Failure) : Complaint :=
  let width := match Text.cut? f.offset source.toList with
    | some (_, c :: _) => c.utf8Size
    | _ => 0
  ⟨source, ⟨f.offset, f.offset + width⟩, f.message⟩

/-- The complaint as text. -/
def render (c : Complaint) : String :=
  let (before, behind) := (Text.cut? c.span.start c.source.toList).getD (c.source.toList, [])
  let place := Position.between before behind
  let content := (c.source.splitOn "\n").getD place.line ""
  let number := Numeral.decimal (place.line + 1)
  let spaces (n : Nat) : String := String.ofList (List.replicate n ' ')
  let margin := spaces (number.length + 1) ++ "|"
  let carets := max 1 (min c.span.length (content.utf8ByteSize - place.column))
  "TOML parse error at line " ++ number ++ ", column " ++ Numeral.decimal (place.column + 1) ++
    "\n" ++
    margin ++ "\n" ++
    number ++ " | " ++ content ++ "\n" ++
    margin ++ spaces (place.column + 1) ++ String.ofList (List.replicate carets '^') ++ "\n" ++
    c.message ++ "\n"

end Complaint

end WireLedger.Toml
