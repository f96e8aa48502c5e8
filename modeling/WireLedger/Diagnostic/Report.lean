import WireLedger.Diagnostic.Basic
import WireLedger.Diagnostic.Window
import WireLedger.Text.Wrap
/-!
# Drawing a diagnostic

A report shows the message, cut into lines where it is too wide, then a window of the source with
one line of context on either side and the label drawn under its stretch, then the help text. A
stretch within one line is underlined; one that runs over several lines is followed by an arrow in
the margin. A label beyond the source takes one line that says so.
-/
namespace WireLedger.Diagnostic

/-- A run of one character. -/
def run (n : Nat) (c : Char) : String := String.ofList (List.replicate n c)

/-- The columns of a page for reports that are asked for. -/
def pageWidth : Nat := 200

/-- The columns of a terminal for reports that are printed. -/
def terminalWidth : Nat := 80

/-- The lines of the message, each behind its mark, with two columns left free. -/
def messageLines (width : Nat) (message : String) : List String :=
  ((message.splitOn "\n").flatMap (Text.wrap (width - 6) ·.toList)).zipIdx.map fun (line, k) =>
    (if k = 0 then "  × " else "  │ ") ++ String.ofList line

namespace Line

/-- Where the line ends. -/
def stop (line : Line) : Nat := line.offset + line.length

end Line

namespace Label

/-- The length that decides which lines a label touches: an empty label touches one byte. -/
def reach (label : Label) : Nat := label.offset + max label.length 1

/-- Where the label ends. -/
def stop (label : Label) : Nat := label.offset + label.length

/-- Whether the label lies within the line. -/
def single (label : Label) (line : Line) : Bool :=
  line.offset ≤ label.offset && label.stop ≤ line.stop

/-- Whether the label starts in the line. -/
def startsIn (label : Label) (line : Line) : Bool :=
  line.offset ≤ label.offset && label.offset < line.stop

/-- Whether the label ends in the line. -/
def endsIn (label : Label) (line : Line) : Bool :=
  line.offset < label.reach && label.reach ≤ line.stop

/-- Whether the label touches the line. -/
def applies (label : Label) (line : Line) : Bool :=
  label.startsIn line || (label.offset < line.offset && line.stop < label.reach) ||
    label.endsIn line

/-- Whether the line has a mark in the margin. -/
def inMargin (label : Label) (line : Line) : Bool :=
  label.applies line && !(label.startsIn line && label.endsIn line)

/-- Whether no line before this one is touched. -/
def isFirst (label : Label) (line : Line) : Bool := line.offset ≤ label.offset

/-- Whether the label ends in the line or at its end. -/
def isLast (label : Label) (line : Line) : Bool :=
  line.offset ≤ label.stop && label.stop ≤ line.stop

/-- The margin of a line. -/
def margin (label : Label) (line : Line) : String :=
  if !label.inMargin line then "    "
  else if label.isFirst line then "╭─▶ "
  else if label.isLast line then "├─▶ "
  else if label.offset < line.offset && line.stop < label.stop then "│   "
  else "    "

/-- The columns that the label takes of a line, from the first to the one after the last. -/
def columns (label : Label) (line : Line) : Nat × Nat :=
  let first := columnAt .start {} (label.offset - line.offset) line.text
  if label.length = 0 then (first, first + 1)
  else (first, max (columnAt .stop {} (label.stop - line.offset) line.text) (first + 1))

/-- The stroke under a label within one line, and the text below its middle. -/
def underline (label : Label) (line : Line) : List String :=
  let (first, stop) := label.columns line
  let middle := (first + stop) / 2
  let mark := if label.length = 0 then "▲" else "┬"
  [run first ' ' ++ run (middle - first) '─' ++ mark ++ run (stop - middle - 1) '─',
    run middle ' ' ++ "╰── " ++ label.text]

/-- What stands under a line. -/
def below (label : Label) (line : Line) : List String :=
  if label.applies line && label.single line then label.underline line
  else if label.applies line && label.isLast line && !label.isFirst line then
    ["╰──── " ++ label.text]
  else []

end Label

/-- The window with its frame, its numbered lines and the label. -/
def snippetLines (path : String) (label : Label) (place window : Window) : List String :=
  let lines := window.lines
  let width := (lines.getLast?.map fun line => (toString line.number).length).getD 1
  let wide := lines.any fun line => label.inMargin line && !label.single line
  let draw (line : Line) : List String :=
    let number := toString line.number
    let indent := if wide && label.single line then label.margin line else ""
    (" " ++ run (width - number.length) ' ' ++ number ++ " │ " ++
      (if wide then label.margin line else "") ++ String.ofList (expandTabs {} line.text)) ::
      (label.below line).map fun drawn => " " ++ run width ' ' ++ " · " ++ indent ++ drawn
  let header := run (width + 2) ' ' ++ "╭─[" ++ path ++ ":" ++ toString (place.line + 1) ++ ":" ++
    toString (place.column + 1) ++ "]"
  header :: lines.flatMap draw ++ [run (width + 2) ' ' ++ "╰────"]

/-- What is said of a label that lies beyond the source. -/
def outOfBounds (label : Label) : String :=
  "  [Failed to read contents for label `" ++ label.text ++ "` (offset: " ++
    toString label.offset ++ ", length: " ++ toString label.length ++ "): OutOfBounds]"

/-- The lines of a report on so many columns. -/
def reportLines (width : Nat) (d : Diagnostic) : List String :=
  let bytes := d.source.toUTF8.toList
  let frame : Frame := ⟨d.label.offset, d.label.length, 0, 0⟩
  let snippet :=
    match Window.of? bytes frame, Window.of? bytes { frame with before := 1, after := 1 } with
    | some place, some window => snippetLines d.path d.label place window
    | _, _ => [outOfBounds d.label]
  messageLines width d.message ++ snippet ++ (d.help?.map ("  help: " ++ ·)).toList

/-- The report on so many columns, each line with a newline. -/
def renderAt (width : Nat) (d : Diagnostic) : String :=
  String.join ((reportLines width d).map (· ++ "\n"))

/-- The report on a page (`render_symbol_error`). -/
def render (d : Diagnostic) : String := renderAt pageWidth d

/-- What is printed of several refusals in one source: the report of each with an empty line after
it, or nothing if there are none (`emit_symbol_errors`). -/
def emit? (path source : String) (errors : List LocatedError) : Option String :=
  if errors.isEmpty then none
  else some (String.join (errors.map fun located =>
    (ofLocated path source located).renderAt terminalWidth ++ "\n"))

end WireLedger.Diagnostic
