import WireLedger.Log.Directive
/-!
# Filters

A filter has directives, the most special first; the first one that covers an event decides whether
the event passes, and an event that none covers does not. Two directives never have the same target
and the same field: the later one takes the place of the earlier.

Directives about spans take no part in this. They only count for the most that any directive lets
through.

Results:
* `mem_insert`: adding a directive brings in no other.
-/
namespace WireLedger.Log

/-- The directives about events, the most special first, and the most that any directive given to
the filter lets through. -/
structure Filter where
  directives : List Directive
  loudest : Threshold
deriving DecidableEq, Repr

namespace Filter

/-- The filter without directives. -/
def empty : Filter := ⟨[], .off⟩

/-- Puts a directive in its place in a list, or in the place of the one with its target and its
field. -/
def insert (d : Directive) : List Directive → List Directive
  | [] => [d]
  | e :: es =>
    if d.target = e.target ∧ d.field = e.field then d :: es
    else if e.specificity < d.specificity then d :: e :: es
    else e :: insert d es

/-- The filter with one more directive. -/
def add (filter : Filter) (d : Directive) : Filter :=
  ⟨if d.isAboutEvents then insert d filter.directives else filter.directives,
    filter.loudest.max d.loudest⟩

/-- The filter of a list of directives. Without any, nothing passes. -/
def ofDirectives (directives : List Directive) : Filter := directives.foldl add empty

/-- Whether an event passes. -/
def admits (filter : Filter) (event : Event) : Bool :=
  (filter.directives.find? (·.covers event)).any (·.threshold.admits event.level)

/-- The events that pass. -/
def pass (filter : Filter) (events : List Event) : List Event := events.filter filter.admits

/-- The filter of a text and, if the text is not a list of directives, the error. The filter is then
that of the given default. -/
def ofText (default text : String) : Filter × Option DirectiveError :=
  match Directive.readAll text with
  | .ok directives => (ofDirectives directives, none)
  | .error e => (ofDirectives ((Directive.readAll default).toOption.getD []), some e)

theorem mem_insert {d e : Directive} {es : List Directive} (h : e ∈ insert d es) :
    e = d ∨ e ∈ es := by
  induction es with
  | nil => exact .inl (List.mem_singleton.mp h)
  | cons a es ih =>
    unfold insert at h
    split at h
    · rcases List.mem_cons.mp h with h | h
      · exact .inl h
      · exact .inr (List.mem_cons_of_mem _ h)
    · split at h
      · exact List.mem_cons.mp h
      · rcases List.mem_cons.mp h with h | h
        · exact .inr (h ▸ List.mem_cons_self)
        · exact (ih h).imp id (List.mem_cons_of_mem _)

end Filter

end WireLedger.Log
