import WireLedger.Log.Filter
import WireLedger.Settings.Environment
import WireLedger.Text.Quoted
/-!
# The output of the log

A process has one output, which the first attempt to set it up decides: from then on the events that
its filter lets through are written to it, a line each. An output that was put in place before
stays, and so it does when a later attempt is made. Names in brackets are the program's own.

Results:
* `setUp_setUp`: after one attempt another changes nothing and says nothing.
-/
namespace WireLedger

/-- An event on one line: its level, its target, its message, and its fields with texts in quotes.
-/
def Event.line (event : Event) : String :=
  let fields := event.fields.map fun (name, value) =>
    let shown := match value with
      | .text value => Text.quote value
      | .plain value => value
    " " ++ name ++ "=" ++ shown
  event.level.name ++ " " ++ event.target ++ ": " ++ event.message ++ String.join fields

namespace Log

/-- The filter for a directive, and a warning if the directive is replaced by the default
(`filter_for`). -/
def filterFor (directive : String) : Filter × Option String :=
  let (filter, error?) := Filter.ofText Settings.defaultDirective directive
  (filter, error?.map fun e =>
    "gash: ignoring log filter '" ++ directive ++ "' (" ++ e.message ++ "), using '" ++
      Settings.defaultDirective ++ "'\n")

/-- Where events go. -/
inductive Output where
  /-- Nobody has set it up. -/
  | unset
  /-- Another one was in place, which drops every event. -/
  | foreign
  | filtered (filter : Filter)
deriving DecidableEq, Repr

namespace Output

/-- What an attempt to set up the output leads to. -/
structure Attempt where
  output : Output
  installed : Bool
  warning : Option String
deriving DecidableEq, Repr

/-- Tries to set up the output with the directive for a level in an environment
(`init_with_level`). -/
def setUp (output : Output) (level : Option String) (env : Environment) : Attempt :=
  match output with
  | unset =>
    let (filter, warning) := filterFor (Settings.directive level env)
    ⟨filtered filter, true, warning⟩
  | foreign | filtered _ => ⟨output, false, none⟩

/-- The lines written for events. -/
def write (output : Output) (events : List Event) : List String :=
  match output with
  | filtered filter => (filter.pass events).map Event.line
  | unset | foreign => []

theorem setUp_setUp (output : Output) (level level' : Option String) (env env' : Environment) :
    (output.setUp level env).output.setUp level' env' =
      ⟨(output.setUp level env).output, false, none⟩ := by
  cases output <;> rfl

end Output

end Log

end WireLedger
