import WireLedger.Numeral
import WireLedger.Toml.Trivia
/-!
# Texts in quotes

A text stands in double quotes, where a backslash escapes, or in single quotes, where nothing does.
Three quotes of a kind open a text of several lines, which drops a line end right behind them.
-/
namespace WireLedger.Toml.Scanner

/-- Characters beyond ASCII. -/
def isWide (c : Char) : Bool := 0x80 ≤ c.toNat

/-- Characters that double quotes hold as they are. -/
def isPlain (c : Char) : Bool :=
  isWide c || c = '\t' || (0x20 ≤ c.toNat && c.toNat ≤ 0x7E && c ≠ '"' && c ≠ '\\')

/-- Characters that single quotes hold. -/
def isLiteral (c : Char) : Bool :=
  isWide c || c = '\t' || (0x20 ≤ c.toNat && c.toNat ≤ 0x7E && c ≠ '\'')

/-! ## Escapes -/

/-- The character of a code point. -/
def charOf (n : Nat) : Except Fault Char :=
  if n.isValidChar then .ok (Char.ofNat n) else .error .outOfRange

/-- Takes the character whose code point so many hexadecimal digits give. -/
def codePoint (digits : Nat) : Scanner Char :=
  ((takeUpTo digits fun c => (Numeral.digit? c).isSome).filter (·.length = digits)).check fun cs =>
    match Numeral.read? 16 cs with
    | some n => charOf n
    | none => .error .outOfRange

/-- Takes the character that follows a backslash and gives the one that both stand for. -/
def escaped : Scanner Char := do
  match ← any with
  | 'b' => return '\x08'
  | 'f' => return '\x0c'
  | 'n' => return '\n'
  | 'r' => return '\r'
  | 't' => return '\t'
  | '\\' => return '\\'
  | '"' => return '"'
  | 'u' => ((codePoint 4).commit).labelled "unicode 4-digit hex code"
  | 'U' => ((codePoint 8).commit).labelled "unicode 8-digit hex code"
  | c => unknown c
where
  /-- Refuses a character, at its end; in front of it if it has several bytes. -/
  unknown (c : Char) : Scanner Char := fun input =>
    let back := if c.utf8Size = 1 then 0 else c.utf8Size
    .error ⟨input.offset - back, some "escape sequence",
      ["b", "f", "n", "r", "t", "u", "U", "\\", "\""].map Wanted.text, none, true⟩

/-- Takes a backslash and what it escapes. -/
def escape : Scanner Char := char '\\' *> escaped

/-! ## One line -/

/-- Takes a text in double quotes. -/
def basicText : Scanner (List Char) := do
  let _ ← char '"'
  let parts ← many (orElse (takeSome isPlain) ((fun c => [c]) <$> escape))
  let _ ← ((char '"').commit).labelled "basic string"
  return parts.flatten

/-- Takes a text in single quotes. -/
def literalText : Scanner (List Char) := labelled "literal string" do
  let _ ← char '\''
  let cs ← takeWhile isLiteral
  let _ ← (char '\'').commit
  return cs

/-! ## Several lines -/

/-- Takes a line end that a backslash drops, with the blanks around it. -/
def droppedLineEnd : Scanner Unit := do
  let _ ← char '\\'
  spaces
  newline
  let _ ← many (orElse newline (do let _ ← takeSome isSpace))

/-- Takes a part of a text of several lines in double quotes. -/
def basicPart : Scanner (List Char) :=
  firstOf [takeSome isPlain,
    do droppedLineEnd; return [],
    (fun c => [c]) <$> escape,
    do newline; return ['\n']]

/-- Takes a part of a text of several lines in single quotes. -/
def literalPart : Scanner (List Char) :=
  orElse ((fun c => [c]) <$> satisfying isLiteral) (do newline; return ['\n'])

/-- Takes one or two quotes in front of something. -/
def quotesBefore (quote : Char) (what : Scanner Unit) : Scanner (List Char) :=
  let quotes (n : Nat) : Scanner (List Char) := do
    let cs := List.replicate n quote
    text (String.ofList cs)
    peek what
    return cs
  orElse (quotes 2) (quotes 1)

/-- Takes a text between three quotes on either side. One or two quotes may stand in it, in front of
parts that are taken by `behind`, and at its end. -/
def multilineText (label : String) (quote : Char) (part : Scanner (List Char))
    (behind : Scanner (List (List Char))) : Scanner (List Char) := labelled label do
  let quotes := text (String.ofList (List.replicate 3 quote))
  quotes
  let _ ← optional newline
  commit do
    let first ← many part
    let more ← many do
      let held ← quotesBefore quote (do let _ ← satisfying (· ≠ quote))
      return held :: (← behind)
    let held ← optional (quotesBefore quote quotes)
    quotes
    return first.flatten ++ more.flatten.flatten ++ held.getD []

/-- Takes a text of several lines in double quotes. Quotes in front of what it cannot hold are
taken. -/
def multilineBasicText : Scanner (List Char) :=
  multilineText "multiline basic string" '"' basicPart (many basicPart)

/-- Takes a text of several lines in single quotes. Quotes in front of what it cannot hold are
left. -/
def multilineLiteralText : Scanner (List Char) :=
  multilineText "multiline literal string" '\'' literalPart ((many literalPart).filter (· ≠ []))

/-- Takes a text in quotes of any kind. -/
def quotedText : Scanner String :=
  String.ofList <$> firstOf [multilineBasicText, basicText, multilineLiteralText, literalText]

end WireLedger.Toml.Scanner
