/-!
# Settings

What can be set from outside: the seed of new generators and the directive of the log filter. Each
may be left open. Names in brackets are the program's own.
-/
namespace WireLedger

/-- The seed of new generators and the directive of the log filter, as far as they are set
(`RuntimeConfig`). -/
structure Settings where
  seed : Option UInt32
  logLevel : Option String
deriving DecidableEq, Repr

/-- The settings with nothing set (`default`). -/
def Settings.empty : Settings := ⟨none, none⟩

end WireLedger
