import WireLedger.Text.Escape
import WireLedger.Text.Letter
import WireLedger.Text.LineBreak.Rule
import WireLedger.Text.Width
/-!
# Filling lines

A line that is too wide is cut into lines of at most a width. A cut is made where a line may end, or
behind a hyphen between two letters or digits; a word that is wider than a line is cut anywhere.
Each line takes as many words as fit. Blanks at the end of a line are dropped. What a terminal does
not show takes no column, and no line ends in it but at a hyphen.

Results:
* `flatten_pieces`, `map_fst_placeCuts`: cutting into words loses nothing.
* `flatten_cutAnywhere`: nor does cutting a word.
* `flatten_fill`: filling keeps every word, in order.
* `fits_of_mem_fill`: a line with more than one word fits.
-/
namespace WireLedger.Text

/-- A word with the blanks behind it. -/
structure Word where
  text : List Char
  blanks : Nat
deriving DecidableEq, Repr

namespace Word

/-- The characters as a word. -/
def ofChars (cs : List Char) : Word :=
  let text := (cs.reverse.dropWhile (· = ' ')).reverse
  ⟨text, cs.length - text.length⟩

/-- The columns of the word without its blanks. -/
def width (word : Word) : Nat := (shown word.text).foldl (fun n piece => n + messageColumns piece) 0

/-- The word with its blanks. -/
def chars (word : Word) : List Char := word.text ++ List.replicate word.blanks ' '

end Word

/-! ## Words -/

/-- Cuts a text behind each character that is marked, after the characters `read`, given in
reverse. -/
def pieces (read : List Char) : List (Char × Bool) → List (List Char)
  | [] => [read.reverse]
  | (c, true) :: rest => (c :: read).reverse :: pieces [] rest
  | (c, false) :: rest => pieces (c :: read) rest

/-- Whether no line ends behind a character, wherever it stands: hyphens are seen to when words are
cut, and soft hyphens are not shown. -/
def holdsOn (c : Char) : Bool := c = '-' || c = '\u00ad'

/-- Whether a word may end behind each of the characters that are shown; not behind the last one. If
that is a hyphen, it takes the place of the last cut. -/
def cutsBehind (cs : List Char) : List Bool :=
  let may := (opportunities (cs.map LineClass.of)).drop 1
  let cuts := (cs.zip may).map fun (c, here) => here && !holdsOn c
  if cs.getLast?.any holdsOn then clearLast cuts else cuts
where
  /-- The marks without the last one that is set. -/
  clearLast (marks : List Bool) : List Bool :=
    let after := (marks.reverse.takeWhile (!·)).length
    marks.zipIdx.map fun (mark, k) => mark && k + after + 1 ≠ marks.length

/-- Gives the cuts to the characters that are shown. -/
def placeCuts : List (Char × Bool) → List Bool → List (Char × Bool)
  | [], _ => []
  | (c, true) :: rest, cut :: cuts => (c, cut) :: placeCuts rest cuts
  | (c, _) :: rest, cuts => (c, false) :: placeCuts rest cuts

/-- The words of a line. -/
def words (line : List Char) : List Word :=
  let cuts := placeCuts (EscapeState.outside.marked line) (cutsBehind (shown line))
  ((pieces [] cuts).filter (· ≠ [])).map Word.ofChars

/-- Cuts a word behind each hyphen between two letters or digits. -/
def cutAtHyphens (word : Word) : List Word :=
  let before := none :: word.text.map some
  let behind := (word.text.drop 1).map some ++ [none]
  let cuts := (before.zip (word.text.zip behind)).map fun (l, c, r) =>
    (c, c = '-' && l.any isAlphanumeric && r.any isAlphanumeric)
  keepBlanks word.blanks (pieces [] cuts)
where
  /-- Words without blanks, but for the last one. -/
  keepBlanks (blanks : Nat) : List (List Char) → List Word
    | [] => []
    | [last] => [⟨last, blanks⟩]
    | first :: rest => ⟨first, 0⟩ :: keepBlanks blanks rest

/-- Cuts a word into parts that are no wider than a line, after the characters `read`, given in
reverse, and their columns. -/
def cutAnywhere (width blanks : Nat) (state : EscapeState) (read : List Char) (used : Nat) :
    List Char → List Word
  | [] => [⟨read.reverse, blanks⟩]
  | c :: cs =>
    let more := if state.shows c then messageColumns c else 0
    if 0 < used ∧ width < used + more then
      ⟨read.reverse, 0⟩ :: cutAnywhere width blanks (state.next c) [c] more cs
    else cutAnywhere width blanks (state.next c) (c :: read) (used + more) cs

/-! ## Lines -/

/-- The columns of a line, without the blanks behind its last word. -/
def lineWidth : List Word → Nat
  | [] => 0
  | [last] => last.width
  | word :: rest => word.width + word.blanks + lineWidth rest

/-- Fills lines with words, after the words `line`. -/
def fill (width : Nat) (line : List Word) : List Word → List (List Word)
  | [] => [line]
  | word :: rest =>
    if line ≠ [] ∧ width < lineWidth (line ++ [word]) then line :: fill width [word] rest
    else fill width (line ++ [word]) rest

/-- The characters of a line, without the blanks behind its last word. -/
def lineChars : List Word → List Char
  | [] => []
  | [last] => last.text
  | word :: rest => word.chars ++ lineChars rest

/-- The lines that a line is cut into. -/
def wrap (width : Nat) (line : List Char) : List (List Char) :=
  let parts := ((words line).flatMap cutAtHyphens).flatMap fun word =>
    if word.width ≤ width then [word] else cutAnywhere width word.blanks .outside [] 0 word.text
  (fill width [] parts).map lineChars

theorem flatten_pieces (read : List Char) (marked : List (Char × Bool)) :
    (pieces read marked).flatten = read.reverse ++ marked.map Prod.fst := by
  induction marked generalizing read with
  | nil => simp [pieces]
  | cons m rest ih =>
    obtain ⟨c, b⟩ := m
    cases b <;> simp [pieces, ih]

theorem map_fst_placeCuts (marked : List (Char × Bool)) (cuts : List Bool) :
    (placeCuts marked cuts).map Prod.fst = marked.map Prod.fst := by
  fun_induction placeCuts marked cuts <;> simp_all

theorem flatten_cutAnywhere (width blanks : Nat) (state : EscapeState) (read : List Char)
    (used : Nat) (cs : List Char) :
    (cutAnywhere width blanks state read used cs).flatMap (·.text) = read.reverse ++ cs := by
  fun_induction cutAnywhere width blanks state read used cs <;> simp_all

theorem flatten_fill (width : Nat) (line rest : List Word) :
    (fill width line rest).flatten = line ++ rest := by
  induction rest generalizing line with
  | nil => simp [fill]
  | cons word rest ih =>
    unfold fill
    split <;> simp [ih]

/-- A line that holds more than one word is no wider than it may be. -/
theorem fits_of_mem_fill {width : Nat} {line rest : List Word}
    (h : line.length ≤ 1 ∨ lineWidth line ≤ width) {filled : List Word}
    (hf : filled ∈ fill width line rest) : filled.length ≤ 1 ∨ lineWidth filled ≤ width := by
  induction rest generalizing line with
  | nil => exact List.mem_singleton.mp hf ▸ h
  | cons word rest ih =>
    unfold fill at hf
    split at hf
    · rcases List.mem_cons.mp hf with rfl | hf
      · exact h
      · have hone : [word].length ≤ 1 ∨ lineWidth [word] ≤ width := .inl (Nat.le_refl 1)
        exact ih hone hf
    · rename_i hcut
      refine ih ?_ hf
      by_cases hnil : line = []
      · exact .inl (by simp [hnil])
      · exact .inr (Nat.le_of_not_lt fun hw => hcut ⟨hnil, hw⟩)

end WireLedger.Text
