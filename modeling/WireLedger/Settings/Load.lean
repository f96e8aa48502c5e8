import WireLedger.Settings.Error
import WireLedger.Settings.Schema
/-!
# Settings from a file
-/
namespace WireLedger.Settings

/-- The settings of the text of the file at a path (`parse`). -/
def parse (path text : String) : Except SettingsError Settings :=
  (ofText text).mapError (.malformed path)

/-- The settings of the file at a path (`load`). -/
def load (tree : FileTree) (path : String) : Except SettingsError Settings := do
  parse path (← (tree.readText path).mapError (.unreadable path))

end WireLedger.Settings
