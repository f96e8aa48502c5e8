import WireLedger.Settings.Basic
import WireLedger.Settings.FileTree
import WireLedger.Toml.Complaint
/-!
# Why there are no settings

Settings fail because a file cannot be read, because of what it says, or because of a seed in the
environment.
-/
namespace WireLedger

/-- Why settings cannot be had (`ConfigError`). -/
inductive SettingsError where
  | unreadable (path : String) (cause : FileTree.ReadError)
  | malformed (path : String) (complaint : Toml.Complaint)
  | invalidSeed (value : String)
deriving DecidableEq, Repr

namespace SettingsError

/-- The error in words (`Display`). -/
def message : SettingsError → String
  | unreadable path cause => "Failed to read " ++ path ++ ": " ++ cause.message
  | malformed path complaint => "Failed to parse " ++ path ++ ": " ++ complaint.render
  | invalidSeed value =>
    "Invalid generator seed `" ++ value ++ "`; expected an unsigned 32-bit integer"

/-- The error behind this one, if there is one (`source`). -/
def source? : SettingsError → Option String
  | unreadable _ cause => some cause.message
  | malformed .. | invalidSeed _ => none

end SettingsError

end WireLedger
