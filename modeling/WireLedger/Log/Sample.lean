import WireLedger.Generator.Basic
import WireLedger.Store.Action
/-!
# Sample events

A short run that emits an event of every kind, to see what an output lets through.
-/
namespace WireLedger.Log

/-- A name that is bound twice and whose newest version is then put back to a first one. -/
def sampleActions : List Store.Action :=
  [.bind "x" "num" [], .bind "x" "num" [], .replace "x" (.declare "x" .array)]

/-- The events of a seeding, a draw, the sample actions and a check of their store. -/
def sampleEvents : List Event :=
  (Generator.seeded 1 >>= Generator.next).events ++ Store.empty.runEvents sampleActions ++
    (Store.empty.run sampleActions).check.events

theorem map_level_sampleEvents :
    sampleEvents.map Event.level = [.debug, .trace, .debug, .debug, .warn] := by decide

end WireLedger.Log
