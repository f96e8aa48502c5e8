import WireLedger.Text.LineBreak.Class
/-!
# Where a line may end

Whether a line may end between two characters depends on their classes, on blanks between them, on
the class of the character behind them, and on a little of what stands further to the left. Marks go
with the character they follow. The rules are those of the Unicode line breaking algorithm, in their
order.

Results:
* `length_opportunities`: there is an answer for the place in front of each character.
* `opportunities_head`: none in front of the first.
-/
namespace WireLedger.Text

namespace LineClass

/-- Whether it is a letter of any script but those written in aksaras. -/
def isLetter (c : LineClass) : Bool := c matches .letter | .dottedCircle | .hebrewLetter

/-- Whether it takes the place of an ideograph. -/
def isIdeograph (c : LineClass) : Bool :=
  c matches .ideograph | .pictograph | .emoji | .emojiModifier

/-- Whether it is a Hangul syllable or a part of one. -/
def isHangul (c : LineClass) : Bool :=
  c matches .leadingJamo | .vowelJamo | .trailingJamo | .openSyllable | .closedSyllable

/-- Whether it is a syllable of an Indic script. -/
def isAksara (c : LineClass) : Bool := c matches .aksara | .aksaraStart | .dottedCircle

/-- Whether it is a quotation mark. -/
def isQuote (c : LineClass) : Bool := c matches .quotation | .openingQuote | .closingQuote

/-- Whether it is put on the character before it. -/
def isMark (c : LineClass) : Bool := c matches .mark | .joiner

/-- Whether a character ends its line. -/
def endsLine (c : LineClass) : Bool :=
  c matches .mandatory | .carriageReturn | .lineFeed | .nextLine

/-- Whether a character never starts a line, not even behind blanks. -/
def neverStarts (c : LineClass) : Bool :=
  c matches .wordJoiner | .closing | .closingBracket | .exclamation | .separator | .slash

/-- Whether a quotation mark behind the character opens a quotation. -/
def precedesQuotation (c : LineClass) : Bool :=
  c.endsLine || c.isQuote || (c matches .opening | .openingWide | .glue | .space | .zeroSpace)

/-- Whether a quotation mark in front of the character closes a quotation. -/
def followsQuotation (c : LineClass) : Bool :=
  c.endsLine || c.isQuote || c.neverStarts || (c matches .space | .glue | .zeroSpace)

/-- Whether two characters stay together with blanks between them. -/
def togetherAcross (left right : LineClass) : Bool :=
  match left, right with
  | .opening, _ | .openingWide, _ => true
  | .closing, .nonstarter | .closingBracket, .nonstarter => true
  | .dash, .dash => true
  | _, _ => false

/-- Whether a number goes on from one character to the next. -/
def togetherInNumber (left right : LineClass) : Bool :=
  match left, right with
  | .closing, .unit | .closingBracket, .unit | .closing, .currency | .closingBracket, .currency
  | .digit, .unit | .digit, .currency | .unit, .opening | .unit, .openingWide | .unit, .digit
  | .currency, .opening | .currency, .openingWide | .currency, .digit | .hyphen, .digit
  | .separator, .digit | .digit, .digit | .slash, .digit => true
  | _, _ => false

/-- Whether a Hangul syllable goes on from one character to the next. -/
def togetherInSyllable (left right : LineClass) : Bool :=
  match left, right with
  | .leadingJamo, .leadingJamo | .leadingJamo, .vowelJamo | .leadingJamo, .openSyllable
  | .leadingJamo, .closedSyllable | .vowelJamo, .vowelJamo | .vowelJamo, .trailingJamo
  | .openSyllable, .vowelJamo | .openSyllable, .trailingJamo | .trailingJamo, .trailingJamo
  | .closedSyllable, .trailingJamo => true
  | _, _ => false

/-- Whether an aksara goes on from one character to the next, which `following` follows. -/
def togetherInAksara (left right : LineClass) (following : Option LineClass) : Bool :=
  left = .aksaraPrefix && right.isAksara ||
  left.isAksara && (right matches .finalVirama | .virama) ||
  left.isAksara && right.isAksara && following = some .finalVirama

/-- Whether two neighbours stay together in front of `following`. -/
def together (left right : LineClass) (following : Option LineClass) : Bool :=
  if left = .wordJoiner ∨ left = .glue then true
  else if right = .glue ∧ left ≠ .breakAfter ∧ left ≠ .hyphen then true
  else if togetherAcross left right then true
  else if left.isQuote ∨ right.isQuote then true
  else if left = .object ∨ right = .object then false
  else
    (right matches .breakAfter | .hyphen | .nonstarter | .leader) ||
    left = .breakBefore ||
    left = .slash && right = .hebrewLetter ||
    left.isLetter && (right.isLetter || (right matches .digit | .currency | .unit)) ||
    right.isLetter && (left matches .digit | .currency | .unit | .separator) ||
    left = .currency && (right.isIdeograph || right.isHangul) ||
    right = .unit && (left.isIdeograph || left.isHangul) ||
    togetherInNumber left right ||
    togetherInSyllable left right ||
    togetherInAksara left right following ||
    right = .opening && (left.isLetter || left = .digit) ||
    left = .closingBracket && (right.isLetter || right = .digit) ||
    right = .emojiModifier && (left matches .emoji | .pictograph)

end LineClass

/-- What decides, of the text on the left, whether a line may end. -/
structure BreakState where
  /-- The class of the last character that is neither a blank nor a mark on another. -/
  last : LineClass
  /-- Whether blanks follow it. -/
  spaced : Bool
  /-- Whether a joiner is the very last character. -/
  joined : Bool
  /-- Whether the last character is a hyphen behind a Hebrew letter. -/
  hebrewHyphen : Bool
  /-- Whether the last character opens a quotation. -/
  inQuotation : Bool
  /-- Whether the last character stacks the next syllable on the one before it. -/
  stacking : Bool
  /-- Whether an odd number of regional indicators stands at the end. -/
  oddIndicators : Bool
deriving DecidableEq, Repr

namespace BreakState

/-- Whether a character is a mark on the one before it. -/
def attaches (s : BreakState) (c : LineClass) : Bool :=
  c.isMark && !s.spaced && !s.last.endsLine && !(s.last matches .space | .zeroSpace)

/-- The class of a character that is a mark on none. -/
def resolve (c : LineClass) : LineClass := if c.isMark then .letter else c

/-- The state behind the first character. -/
def start (c : LineClass) : BreakState where
  last := resolve c
  spaced := c = .space
  joined := c = .joiner
  hebrewHyphen := false
  inQuotation := c = .openingQuote
  stacking := false
  oddIndicators := c = .regionalIndicator

/-- The state behind one more character. -/
def next (s : BreakState) (c : LineClass) : BreakState :=
  if c = .space then { s with spaced := true, joined := false }
  else if s.attaches c then { s with joined := c = .joiner }
  else
    { start c with
      hebrewHyphen := s.last = .hebrewLetter && !s.spaced && (c matches .hyphen | .breakAfter)
      inQuotation := c = .openingQuote && (s.spaced || s.last.precedesQuotation)
      stacking := c = .virama && !s.spaced && s.last.isAksara
      oddIndicators := c = .regionalIndicator && !(s.oddIndicators && !s.spaced) }

/-- Whether a line may end in front of the next character, which `following` follows. -/
def mayBreak (s : BreakState) (c : LineClass) (following : Option LineClass) : Bool :=
  let right := resolve c
  if s.last.endsLine ∧ ¬ s.spaced then !(s.last = .carriageReturn && c = .lineFeed)
  else if c.endsLine ∨ c = .space ∨ c = .zeroSpace then false
  else if s.last = .zeroSpace then true
  else if s.joined ∨ s.attaches c then false
  else if right.neverStarts then false
  else if s.inQuotation then false
  else if right = .closingQuote ∧ following.all LineClass.followsQuotation then false
  else if s.spaced then !s.last.togetherAcross right
  else if s.hebrewHyphen ∧ c ≠ .object then false
  else if s.last = .regionalIndicator ∧ c = .regionalIndicator then !s.oddIndicators
  else if s.stacking ∧ (right = .aksara ∨ right = .dottedCircle) then false
  else !s.last.together right following

end BreakState

/-- The class of the first character that is no mark. -/
def following? (cs : List LineClass) : Option LineClass := cs.find? (!·.isMark)

/-- Whether a line may end in front of each of the next characters. -/
def opportunitiesFrom (s : BreakState) : List LineClass → List Bool
  | [] => []
  | c :: cs => s.mayBreak c (following? cs) :: opportunitiesFrom (s.next c) cs

/-- Whether a line may end in front of each character. -/
def opportunities : List LineClass → List Bool
  | [] => []
  | c :: cs => false :: opportunitiesFrom (.start c) cs

theorem length_opportunitiesFrom (s : BreakState) (cs : List LineClass) :
    (opportunitiesFrom s cs).length = cs.length := by
  induction cs generalizing s with
  | nil => rfl
  | cons c cs ih => simp [opportunitiesFrom, ih]

theorem length_opportunities (cs : List LineClass) : (opportunities cs).length = cs.length := by
  cases cs with
  | nil => rfl
  | cons c cs => simp [opportunities, length_opportunitiesFrom]

theorem opportunities_head (c : LineClass) (cs : List LineClass) :
    (opportunities (c :: cs)).head? = some false := rfl

end WireLedger.Text
