import WireLedger.Log.Pattern.Reader
/-!
# Classes of characters

A class in brackets stands for any one of its members: characters, ranges, classes with a name or a
shorthand, and further classes. Two signs in a row between members take those of both sides, of the
left side only, or of one side only. A sign in front turns the class round.

A class is as deep as what it holds and one more. Several members side by side are one deeper than
the deepest of them, and so are the two sides of an operation.
-/
namespace WireLedger.Log.Pattern

/-- The depth of several parts side by side. -/
def depthOfAll : List Nat → Nat
  | [] => 0
  | [depth] => depth
  | depths => depths.foldl max 0 + 1

/-- The names of classes of ASCII characters. -/
def classNames : List String :=
  ["alnum", "alpha", "ascii", "blank", "cntrl", "digit", "graph", "lower", "print", "punct",
    "space", "upper", "word", "xdigit"]

/-- Whether what is left starts with a class that has a name: whether it is turned round, and its
length. -/
def named? (cs : List Char) : Option (Bool × Nat) :=
  (classNames.flatMap fun name => [(false, "[:" ++ name ++ ":]"), (true, "[:^" ++ name ++ ":]")])
    |>.find? (·.2.toList.isPrefixOf cs) |>.map fun (negated, text) => (negated, text.length)

/-- The character that follows a hyphen, to tell a range from a hyphen of its own. Of a comment only
the sign is passed over; at the end of the pattern it is the very next character. -/
def behindHyphen (m : Mode) (cs : List Char) : Option Char :=
  if m.extended then
    let rest := cs.dropWhile Text.isBlank
    let rest := if rest.head? = some '#' then (rest.drop 1).dropWhile Text.isBlank else rest
    rest.head?.or cs.head?
  else cs.head?

/-- Takes a member, or a range of them. -/
def member : Reader Unit := do
  let first ← atom
  skipFiller
  let reading ← get
  let alone := match reading.rest with
    | '-' :: cs =>
      let behind := behindHyphen reading.mode cs
      behind = some ']' || behind = some '-'
    | _ => true
  guard (reading.rest ≠ [])
  if alone then
    match first with
    | .literal c _ => guard (reading.mode.allowsMember c)
    | .shorthand negated => guard (reading.mode.allowsShorthand negated)
    | .edge _ => failure
  else
    let _ ← advance
    match first, ← atom with
    | .literal first _, .literal last _ =>
      guard (first ≤ last ∧ reading.mode.allowsMember first ∧ reading.mode.allowsMember last)
    | _, _ => failure

/-- Takes the hyphens that stand for themselves at the front of a class, at most so many. -/
def hyphens : (most : Nat) → Reader Nat
  | 0 => return 0
  | most + 1 => do
    if (← next?) = some '-' then
      guard ((← get).mode.allowsMember '-')
      let _ ← advance
      return (← hyphens most) + 1
    else return 0

/-- Takes the opening bracket and what stands for itself behind it, and counts that. -/
def opening : Reader Nat := do
  let negated := (← advance) = '^'
  if negated then let _ ← advance
  guard ((← get).mode.allowsBrackets negated)
  let count ← hyphens (← get).rest.length
  if count = 0 ∧ (← next?) = some ']' then
    guard ((← get).mode.allowsMember ']')
    let _ ← advance
    return 1
  else return count

/-- The depth of an operation with what stands on its left side, if there is one. -/
def operate (left : Option Nat) (right : Nat) : Nat :=
  match left with
  | some left => max left right + 1
  | none => right

/-- Takes what is in brackets, up to the one that closes, behind members of depths `members` and a
left side. Takes at most so many members. -/
def members : (most : Nat) → (left : Option Nat) → (members : List Nat) → Reader Nat
  | 0, _, _ => failure
  | most + 1, left, depths => do
    skipFiller
    match (← get).rest with
    | [] => failure
    | c :: cs =>
      if c = ']' then
        skip 1
        return operate left (depthOfAll depths)
      else if c = '[' then
        match named? (c :: cs) with
        | some (negated, length) =>
          guard ((← get).mode.allowsNamed negated)
          skip length
          members most left (0 :: depths)
        | none =>
          let count ← opening
          let depth ← members most none (List.replicate count 0)
          members most left ((depth + 1) :: depths)
      else if (c = '&' ∨ c = '-' ∨ c = '~') ∧ cs.head? = some c then
        skip 2
        members most (some (operate left (depthOfAll depths))) []
      else
        member
        members most left (0 :: depths)

/-- Takes a class in brackets. -/
def brackets : Reader Nat := do
  let most := (← get).rest.length
  let count ← opening
  return (← members most none (List.replicate count 0)) + 1

end WireLedger.Log.Pattern
