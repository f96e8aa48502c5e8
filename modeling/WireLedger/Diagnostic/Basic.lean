import WireLedger.Symbol.Error
import WireLedger.Text.Span
/-!
# Symbol errors in source text

A refusal with the place in the source that led to it, and the diagnostic made from both: a message,
perhaps a help text, and a label at a stretch of bytes. Names in brackets are the program's own.
-/
namespace WireLedger

/-- A refusal at a place of the source (`LocatedSymbolError`). -/
structure LocatedError where
  error : SymbolError
  span : Span
deriving DecidableEq, Repr

/-- A text at a stretch of the source. -/
structure Diagnostic.Label where
  text : String
  offset : Nat
  length : Nat
  primary : Bool
deriving DecidableEq, Repr

/-- What is reported of a refusal at a place of a named source (`SymbolDiagnostic`). -/
structure Diagnostic where
  path : String
  source : String
  message : String
  code? : Option String
  help? : Option String
  label : Diagnostic.Label
deriving DecidableEq, Repr

/-- The diagnostic of a refusal (`from_error`). It carries no code of its own. -/
def Diagnostic.ofLocated (path source : String) (located : LocatedError) : Diagnostic where
  path := path
  source := source
  message := located.error.message
  code? := none
  help? := located.error.help?
  label := ⟨located.error.label, located.span.start, located.span.length, false⟩

end WireLedger
