import WireLedger.Journal.Event
import WireLedger.Numeral
/-!
# Thresholds

How much is let through: nothing, or every event up to a level. A threshold is written as a word, in
any case, or as the number of levels that it lets through.

Results:
* `read?_name`: a threshold is read back from its word.
-/
namespace WireLedger.Log

/-- How much is let through. -/
inductive Threshold where
  | off
  | upTo (level : Level)
deriving DecidableEq, Repr

namespace Threshold

/-- The number of levels that pass. -/
def rank : Threshold → Nat
  | off => 0
  | upTo level => level.rank

/-- The word for a threshold. -/
def name : Threshold → String
  | off => "off"
  | upTo .error => "error"
  | upTo .warn => "warn"
  | upTo .info => "info"
  | upTo .debug => "debug"
  | upTo .trace => "trace"

/-- Every threshold, in order of rank. -/
def all : List Threshold :=
  [off, upTo .error, upTo .warn, upTo .info, upTo .debug, upTo .trace]

/-- Reads a threshold: its number, after at most one plus sign, or its word in any case. -/
def read? (cs : List Char) : Option Threshold :=
  match Numeral.readBelow? all.length cs with
  | some n => all[n]?
  | none => all.find? fun threshold => threshold.name.toList = cs.map Char.toLower

/-- Whether an event of the level passes. -/
def admits (threshold : Threshold) (level : Level) : Bool := level.rank ≤ threshold.rank

/-- The threshold that lets through more. -/
def max (a b : Threshold) : Threshold := if a.rank < b.rank then b else a

theorem read?_name (threshold : Threshold) : read? threshold.name.toList = some threshold := by
  revert threshold
  rintro (_ | _ | _ | _ | _ | _) <;> decide

theorem rank_max (a b : Threshold) : (max a b).rank = Nat.max a.rank b.rank := by
  unfold max; split <;> simp [Nat.max_def] <;> omega

end Threshold

end WireLedger.Log
