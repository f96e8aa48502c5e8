import WireLedger.Text.Quoted
/-!
# Why a document is refused

A scanner that stops says where it stood, what it was reading, what it wanted to find next, and what
is wrong with a text that could be read but has no meaning. The innermost scanner names what was
being read; what was wanted is gathered from the inside out.
-/
namespace WireLedger.Toml

/-- What is wrong with a text that could be read. -/
inductive Fault where
  | outOfRange
  | tooLarge
  | tooSmall
  /-- Values or keys are nested too deep. -/
  | tooDeep
  /-- A key is given twice, where a table is known in that one: its path. -/
  | duplicateKey (key : String) (table? : Option (List String))
  /-- A path leads through a value that has no keys. -/
  | notATable (path : List String) (kind : String)
deriving DecidableEq, Repr

/-- The names of a path with dots between them. -/
def dotted (path : List String) : String := ".".intercalate path

/-- The fault in one sentence. -/
def Fault.message : Fault → String
  | outOfRange => "value is out of range"
  | tooLarge => "number too large to fit in target type"
  | tooSmall => "number too small to fit in target type"
  | tooDeep => "recursion limit exceeded"
  | duplicateKey key none => "duplicate key `" ++ key ++ "`"
  | duplicateKey key (some []) => "duplicate key `" ++ key ++ "` in document root"
  | duplicateKey key (some table) =>
    "duplicate key `" ++ key ++ "` in table `" ++ dotted table ++ "`"
  | notATable path kind =>
    "dotted key `" ++ dotted path ++ "` attempted to extend non-table type (" ++ kind ++ ")"

/-- Something that a scanner wanted to find. -/
inductive Wanted where
  | text (text : String)
  | newline
  | digit
  | leadingDigit
deriving DecidableEq, Repr

/-- How a wish is named. -/
def Wanted.name : Wanted → String
  | text shown => "`" ++ shown ++ "`"
  | newline => "newline"
  | digit => "digit"
  | leadingDigit => "leading digit"

/-- Where and why a scanner stopped. -/
structure Failure where
  /-- The bytes in front of the place. -/
  offset : Nat
  label : Option String
  wanted : List Wanted
  fault : Option Fault
  /-- Whether no other way of reading is to be tried. -/
  committed : Bool
deriving DecidableEq, Repr

/-- What was being read, what was wanted and what is wrong, as far as each is known, on a line
each. -/
def Failure.message (f : Failure) : String :=
  let label := f.label.map ("invalid " ++ ·)
  let wanted := if f.wanted = [] then none
    else some ("expected " ++ ", ".intercalate (f.wanted.map Wanted.name))
  "\n".intercalate ([label, wanted, f.fault.map Fault.message].filterMap id)

end WireLedger.Toml
