import WireLedger.Text.Width
/-!
# A window of lines around a stretch of bytes

A window is cut from the bytes of a source around a stretch of it: so many lines before the stretch,
the lines it touches, and so many lines after. The source is read byte by byte up to the end of the
window, and a stretch that goes on beyond the end of the source has no window.

A line ends at a line feed, at a carriage return, or at both together.
-/
namespace WireLedger.Diagnostic

/-- The stretch of the source that a window is cut around, and the lines to keep on either side. -/
structure Frame where
  offset : Nat
  length : Nat
  before : Nat
  after : Nat
deriving DecidableEq, Repr

/-- What is known while the source is read up to the end of a window. -/
structure Scan where
  /-- The bytes read. -/
  offset : Nat := 0
  /-- The lines that ended before the window. -/
  line : Nat := 0
  /-- The bytes of the line of the stretch that stand before it. -/
  column : Nat := 0
  /-- Where the lines kept before the stretch start, the first of them first. -/
  starts : List Nat := []
  /-- Where the present line starts. -/
  lineStart : Nat := 0
  /-- The lines that ended after the stretch and after its own line. -/
  linesAfter : Nat := 0
  /-- Whether the stretch has been read. -/
  past : Bool := false
  /-- Whether the line in which the stretch ends has ended. -/
  lineEnded : Bool := false
deriving DecidableEq, Repr

namespace Frame

/-- The last byte of the stretch; of an empty one the byte before it. -/
def last (frame : Frame) : Nat := frame.offset + frame.length - 1

/-- The reading after a byte that does not end the window. -/
def pass (frame : Frame) (scan : Scan) : Scan × Bool :=
  if frame.last ≤ scan.offset then
    let scan := { scan with past := true, offset := scan.offset + 1 }
    (scan, frame.after ≤ scan.linesAfter)
  else ({ scan with offset := scan.offset + 1 }, false)

/-- The reading after the last byte of a line, and whether the window ends there. -/
def endLine (frame : Frame) (scan : Scan) : Scan × Bool :=
  if scan.offset < frame.offset then
    let starts := scan.starts ++ [scan.lineStart]
    let scan := { scan with column := 0, lineStart := scan.offset + 1 }
    if frame.before < starts.length then
      frame.pass { scan with line := scan.line + 1, starts := starts.drop 1 }
    else frame.pass { scan with starts }
  else if frame.offset + (frame.length - 1) ≤ scan.offset ∧ scan.past then
    let linesAfter := if scan.lineEnded then scan.linesAfter + 1 else scan.linesAfter
    let scan := { scan with column := 0, lineEnded := true, linesAfter }
    if frame.after ≤ linesAfter then ({ scan with offset := scan.offset + 1 }, true)
    else frame.pass { scan with lineStart := scan.offset + 1 }
  else frame.pass { scan with lineStart := scan.offset + 1 }

/-- The reading after a byte inside a line, and whether the window ends there. -/
def inLine (frame : Frame) (scan : Scan) : Scan × Bool :=
  if scan.offset < frame.offset then frame.pass { scan with column := scan.column + 1 }
  else frame.pass scan

/-- Reads on to the end of the window or of the source. -/
def scanFrom (frame : Frame) (scan : Scan) : List UInt8 → Scan
  | [] => scan
  | 13 :: 10 :: rest =>
    match frame.endLine { scan with offset := scan.offset + 1 } with
    | (scan, true) => scan
    | (scan, false) => scanFrom frame scan rest
  | byte :: rest =>
    match if byte = 10 ∨ byte = 13 then frame.endLine scan else frame.inLine scan with
    | (scan, true) => scan
    | (scan, false) => scanFrom frame scan rest

end Frame

/-- The bytes of a window, where they start, and the line and column of that place, from zero. A
window with lines before its stretch starts with a line. -/
structure Window where
  start : Nat
  line : Nat
  column : Nat
  bytes : List UInt8
deriving DecidableEq, Repr

/-- The window of a source, if the stretch lies inside it. -/
def Window.of? (source : List UInt8) (frame : Frame) : Option Window :=
  let scan := frame.scanFrom {} source
  if scan.offset < frame.last then none
  else
    let start := scan.starts.head?.getD (if frame.before = 0 then frame.offset else 0)
    some {
      start
      line := scan.line
      column := if frame.before = 0 then scan.column else 0
      bytes := (source.take scan.offset).drop start }

/-! ## Lines of a window -/

/-- A line with its number, from one, the place of its first byte, its length in bytes including
what ends it, and its text without that. -/
structure Line where
  number : Nat
  offset : Nat
  length : Nat
  text : List Char
deriving DecidableEq, Repr

/-- The characters of bytes in UTF-8. -/
def charsOf (bytes : List UInt8) : List Char :=
  ((String.fromUTF8? ⟨bytes.toArray⟩).getD "").toList

/-- A line whose bytes are given in reverse, without the line feed. -/
def Line.ofReversed (number offset : Nat) (ended : Bool) (bytes : List UInt8) : Line :=
  let text := match ended, bytes with
    | true, 13 :: rest => rest
    | _, _ => bytes
  ⟨number, offset, bytes.length + (if ended then 1 else 0), charsOf text.reverse⟩

/-- The lines of bytes, after the bytes `read`, given in reverse, of a line that starts at
`offset`. If a carriage return is the last of the bytes, its line is not counted and has the number
of the line before. -/
def Line.splitFrom (number offset : Nat) (read : List UInt8) : List UInt8 → List Line
  | [] =>
    match read with
    | [] => []
    | 13 :: _ => [.ofReversed (number - 1) offset false read]
    | _ => [.ofReversed number offset false read]
  | 10 :: rest =>
    let line := Line.ofReversed number offset true read
    line :: splitFrom (number + 1) (offset + line.length) [] rest
  | byte :: rest => splitFrom number offset (byte :: read) rest

/-- The lines of a window. Here a carriage return ends a line only together with a line feed. -/
def Window.lines (window : Window) : List Line :=
  Line.splitFrom (window.line + 1) window.start [] window.bytes

/-! ## Columns of a line -/

/-- The column reached in a line, and whether it is inside a control sequence, which runs from an
escape character to the letter `m` and takes no column. -/
structure Cursor where
  column : Nat := 0
  escaped : Bool := false
deriving DecidableEq, Repr

/-- The columns that the next character takes; a tab goes on to the next multiple of four. -/
def Cursor.columnsOf (cursor : Cursor) (c : Char) : Nat :=
  if cursor.escaped then 0
  else if c = '\t' then 4 - cursor.column % 4
  else if c = '\x1b' then 0
  else Text.columns c

/-- The cursor after the next character. -/
def Cursor.next (cursor : Cursor) (c : Char) : Cursor where
  column := cursor.column + cursor.columnsOf c
  escaped := if cursor.escaped then c ≠ 'm' else c = '\x1b'

/-- The text with each tab replaced by the blanks it stands for. -/
def expandTabs (cursor : Cursor) : List Char → List Char
  | [] => []
  | c :: rest =>
    (if c = '\t' then List.replicate (cursor.columnsOf c) ' ' else [c]) ++
      expandTabs (cursor.next c) rest

/-- Which end of a stretch a column is asked for. -/
inductive Edge where
  | start
  | stop
deriving DecidableEq, Repr

/-- The column of the byte `index` of a text. Inside a character it is the first column of the
character for the start of a stretch and the one after it for its end; beyond the text it is one
past the text. -/
def columnAt (edge : Edge) (cursor : Cursor) (index : Nat) : List Char → Nat
  | [] => if index = 0 then cursor.column else cursor.column + 1
  | c :: rest =>
    if index = 0 then cursor.column
    else if index < c.utf8Size then
      match edge with
      | .start => cursor.column
      | .stop => (cursor.next c).column
    else columnAt edge (cursor.next c) (index - c.utf8Size) rest

end WireLedger.Diagnostic
