import WireLedger.Text.Bytes
import WireLedger.Toml.Draft
/-!
# Documents

A document has lines with a key and its value, headers of tables, and comments.
-/
namespace WireLedger.Toml

namespace Scanner

/-- Takes what may follow a header or a value on its line. -/
def closing : Scanner Unit := wanting [.newline, .text "#"] lineRest

/-- Takes the key of a header between brackets, and the rest of its line. -/
def headerBetween (left right : String) : Scanner (DottedKey × Span) := do
  let header ← spanned do
    text left
    commit do
      let key ← key
      wanting [.text ".", .text right] (text right)
      return key
  commit closing
  return header

/-- Takes a header and opens its table. -/
def header (d : Draft) : Scanner Draft := labelled "table header" do
  match ← peek ((takeUpTo 2 fun _ => true).filter (·.length = 2)) with
  | ['[', '['] =>
    (headerBetween "[[" "]]").check fun (key, span) => d.openElement key span
  | _ => (headerBetween "[" "]").check fun (key, span) => d.openTable key span

/-- Takes a key and its value, and puts them into the open table. -/
def entry (d : Draft) : Scanner Draft :=
  (keyValue (value depthLimit) closing).check fun (key, item) => d.put key item

/-- Takes what a line starts with, if anything is left. -/
def line (d : Draft) : Scanner Draft := do
  match ← next? with
  | none => fail
  | some '#' => commit do comment; lineEnd; return d
  | some '[' => commit (header d)
  | some '\n' | some '\r' => do newline; return d
  | some _ => commit (entry d)

/-- Takes lines while there are any, at most one for each of the given characters. -/
def linesUpTo (d : Draft) : List Char → Scanner Draft
  | [] => return d
  | _ :: more => do
    match ← optional (do let d ← line d; spaces; return d) with
    | some d => linesUpTo d more
    | none => return d

/-- Takes a whole document, perhaps behind the mark of its byte order. -/
def document : Scanner Draft := do
  let _ ← optional (char '\uFEFF')
  spaces
  let d ← fun input => linesUpTo .empty input.rest input
  atEnd
  return d

end Scanner

/-- The failure that a fault without a place leads to. -/
def Failure.ofFault (fault : Fault) : Failure := ⟨0, none, [], some fault, true⟩

/-- The table that a document describes, or where and why it is refused. -/
def Table.ofText (text : String) : Except Failure Table := do
  let (d, _) ← Scanner.document ⟨0, text.toList⟩
  d.close.mapError .ofFault

end WireLedger.Toml
