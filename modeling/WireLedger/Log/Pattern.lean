import WireLedger.Log.Pattern.Class
import WireLedger.Text.Letter
/-!
# Patterns

A pattern describes texts: characters stand for themselves, a point for any one; parts may be
repeated, put into groups and given as alternatives, and a class in brackets stands for any one of
its characters. Flags say how what follows is meant, up to the end of the group. Here only the form
of a pattern matters, not what it describes.

Results:
* `fault?_of_alphanum`: ASCII letters and digits are a pattern.
-/
namespace WireLedger.Log

/-- Why a pattern cannot be used. -/
inductive PatternFault where
  /-- It has not the form of a pattern, or asks for what is not known. -/
  | malformed
  /-- It asks for the ends of words in all scripts. -/
  | wordEdges
deriving DecidableEq, Repr

/-- The fault in one sentence. -/
def PatternFault.message : PatternFault → String
  | malformed => "error building NFA"
  | wordEdges =>
    "unsupported regex feature for DFAs: " ++
      "cannot build DFAs for regexes with Unicode word boundaries; " ++
      "switch to ASCII word boundaries, or heuristically enable Unicode word boundaries " ++
      "or use a different regex engine"

namespace Pattern

/-- How deep a pattern may be. -/
def depthLimit : Nat := 250

/-! ## Groups -/

/-- The mode with some flags set, and those behind a hyphen taken away. -/
def Mode.set (m : Mode) (flags : List Char) : Mode :=
  let on := flags.takeWhile (· ≠ '-')
  let off := flags.drop on.length
  let flag (c : Char) (old : Bool) : Bool := on.contains c || (old && !off.contains c)
  ⟨flag 'x' m.extended, flag 'i' m.caseless, flag 'u' m.unicode⟩

/-- Whether flags are given rightly: none twice, and one behind a hyphen. -/
def areFlags (flags : List Char) : Bool :=
  flags.all ("imsURux-".toList.contains ·) && flags.Nodup && flags.getLast? ≠ some '-'

/-- Whether a text names a group. -/
def isName : List Char → Bool
  | [] => false
  | c :: cs =>
    (c = '_' || Text.isAlphabetic c) &&
      cs.all fun c => Text.isAlphanumeric c || "_.[]".toList.contains c

/-- Takes the name of a group, which no other group has, and the sign behind it. -/
def groupName : Reader Unit := do
  let reading ← get
  let name := reading.rest.takeWhile (· ≠ '>')
  guard (isName name ∧ name ∉ reading.names ∧ name.length < reading.rest.length)
  set { reading with rest := reading.rest.drop (name.length + 1), names := name :: reading.names }

/-- Takes what stands behind an opening bracket, and sets the mode. Says whether a group follows,
and not only flags. -/
def groupStart : Reader Bool := do
  match (← get).rest with
  | '?' :: 'P' :: '<' :: _ => skip 3; groupName; return true
  | '?' :: '<' :: _ => skip 2; groupName; return true
  | '?' :: cs =>
    let flags := cs.takeWhile fun c => c ≠ ':' && c ≠ ')'
    guard (areFlags flags)
    let mode := (← get).mode.set flags
    modify fun r => { r with mode, rest := cs.drop (flags.length + 1) }
    match cs.drop flags.length with
    | ':' :: _ => return true
    | _ :: _ => guard (flags ≠ []); return false
    | [] => failure
  | _ => return true

/-! ## Whole patterns -/

/-- A part of a pattern that has been read. -/
structure Part where
  depth : Nat
  repeatable : Bool
deriving DecidableEq, Repr

namespace Part

/-- A part that holds no others. -/
def plain : Part := ⟨0, true⟩

/-- Flags, which nothing can repeat. -/
def flags : Part := ⟨0, false⟩

/-- A part around another. -/
def around (depth : Nat) : Part := ⟨depth + 1, true⟩

/-- The depth of parts side by side. -/
def depthOf (parts : List Part) : Nat := depthOfAll (parts.map depth)

end Part

/-- Takes an atom outside of classes. -/
def single : Reader Part := do
  let mode := (← get).mode
  match ← atom with
  | .literal c byte => guard (mode.allowsLiteral c byte)
  | .shorthand negated => guard (mode.allowsShorthand negated)
  | .edge ofWord => if ofWord ∧ mode.unicode then modify fun r => { r with wordEdges := true }
  return .plain

/-- Takes alternatives up to a closing bracket or the end, behind others with depths `others` and
the parts of one, the last in front. Takes at most so many parts. -/
def alternatives : (most : Nat) → (others : List Nat) → (parts : List Part) → Reader Nat
  | 0, _, _ => failure
  | most + 1, others, parts => do
    skipFiller
    match (← get).rest with
    | [] => return depthOfAll (Part.depthOf parts :: others)
    | c :: _ =>
      if c = ')' then return depthOfAll (Part.depthOf parts :: others)
      else if c = '|' then
        skip 1
        alternatives most (Part.depthOf parts :: others) []
      else if c = '(' then
        skip 1
        skipFiller
        let outside := (← get).mode
        if ← groupStart then
          let depth ← alternatives most [] []
          guard ((← next?) = some ')')
          skip 1
          modify fun r => { r with mode := outside }
          alternatives most others (.around depth :: parts)
        else alternatives most others (.flags :: parts)
      else if c = '[' then
        alternatives most others (⟨← brackets, true⟩ :: parts)
      else if c = '*' ∨ c = '+' ∨ c = '?' then
        match parts with
        | last :: before =>
          guard last.repeatable
          skip 1
          if (← next?) = some '?' then skip 1
          alternatives most others (.around last.depth :: before)
        | [] => failure
      else if c = '\x7b' then failure
      else if c = '.' then
        guard (← get).mode.unicode
        skip 1
        alternatives most others (.plain :: parts)
      else if c = '^' ∨ c = '$' then
        skip 1
        alternatives most others (.plain :: parts)
      else
        alternatives most others ((← single) :: parts)

/-- Why a text cannot be used as a pattern, if so. -/
def fault? (cs : List Char) : Option PatternFault :=
  match alternatives (cs.length + 1) [] [] ⟨cs, .initial, [], false⟩ with
  | some (depth, reading) =>
    if reading.rest ≠ [] ∨ depthLimit < depth then some .malformed
    else if reading.wordEdges then some .wordEdges
    else none
  | none => some .malformed

/-! ## Plain texts -/

theorem single_of_alphanum {c : Char} (cs : List Char) (hc : c.isAlphanum = true) :
    single ⟨c :: cs, .initial, [], false⟩ = some (.plain, ⟨cs, .initial, [], false⟩) := by
  have hne : c ≠ '\\' := by rintro rfl; simp at hc
  rw [single, bind_apply, get_apply, Option.bind_some, bind_apply,
    atom_of_ne cs .initial [] false hne]
  rfl

theorem depthOf_le_one {parts : List Part} (h : ∀ p ∈ parts, p.depth = 0) :
    Part.depthOf parts ≤ 1 := by
  have max_zero (ds : List Nat) (hd : ∀ d ∈ ds, d = 0) : ds.foldl max 0 = 0 := by
    induction ds with
    | nil => rfl
    | cons d ds ih => simp_all
  unfold Part.depthOf depthOfAll
  split
  · simp
  · rename_i d hd
    have hmem : d ∈ parts.map Part.depth := by simp [hd]
    obtain ⟨p, hp, rfl⟩ := List.mem_map.1 hmem
    simp [h p hp]
  · simp [max_zero (parts.map Part.depth) (by simpa using h)]

theorem alternatives_alphanum {c : Char} (hc : c.isAlphanum = true) (cs : List Char) (most : Nat)
    (others : List Nat) (parts : List Part) :
    alternatives (most + 1) others parts ⟨c :: cs, .initial, [], false⟩ =
      alternatives most others (.plain :: parts) ⟨cs, .initial, [], false⟩ := by
  have hne (d : Char) (hd : d.isAlphanum = false) : c ≠ d := by
    rintro rfl
    simp [hc] at hd
  show (if c = ')' then _ else if c = '|' then _ else if c = '(' then _ else if c = '[' then _ else
    if c = '*' ∨ c = '+' ∨ c = '?' then _ else if c = '\x7b' then _ else if c = '.' then _ else
    if c = '^' ∨ c = '$' then _ else
    single >>= fun part => alternatives most others (part :: parts) : Reader Nat)
      ⟨c :: cs, .initial, [], false⟩ = _
  rw [if_neg (hne ')' rfl), if_neg (hne '|' rfl), if_neg (hne '(' rfl), if_neg (hne '[' rfl),
    if_neg (by simp [hne '*' rfl, hne '+' rfl, hne '?' rfl]), if_neg (hne '\x7b' rfl),
    if_neg (hne '.' rfl), if_neg (by simp [hne '^' rfl, hne '$' rfl]), bind_apply,
    single_of_alphanum cs hc]
  rfl

theorem alternatives_of_alphanum (cs : List Char) (hcs : ∀ c ∈ cs, c.isAlphanum = true)
    (most : Nat) (hm : cs.length < most) (parts : List Part) (hp : ∀ p ∈ parts, p.depth = 0) :
    ∃ depth ≤ 1, alternatives most [] parts ⟨cs, .initial, [], false⟩ =
      some (depth, ⟨[], .initial, [], false⟩) := by
  induction cs generalizing most parts with
  | nil =>
    obtain ⟨most, rfl⟩ : ∃ k, most = k + 1 := ⟨most - 1, by simp at hm; omega⟩
    exact ⟨_, depthOf_le_one hp, rfl⟩
  | cons c cs ih =>
    obtain ⟨most, rfl⟩ : ∃ k, most = k + 1 := ⟨most - 1, by simp at hm; omega⟩
    rw [alternatives_alphanum (hcs c (by simp))]
    exact ih (fun c h => hcs c (by simp [h])) most (by simpa using hm) (.plain :: parts)
      (by simpa [Part.plain] using hp)

theorem fault?_of_alphanum {cs : List Char} (hcs : ∀ c ∈ cs, c.isAlphanum = true) :
    fault? cs = none := by
  obtain ⟨depth, hd, h⟩ :=
    alternatives_of_alphanum cs hcs (cs.length + 1) (by omega) [] (by simp)
  have : ¬ depthLimit < depth := by unfold depthLimit; omega
  simp [fault?, h, this]

end Pattern

end WireLedger.Log
