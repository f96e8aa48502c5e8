import WireLedger.Toml.Value
/-!
# A document under construction

A document is read line by line. Its draft has the table that the last header opened, which is put
in its place when the next header comes or the document ends; before the first header that is the
root.

A header may open a table that is only implicit, which keeps its keys, but none that is there in its
own right or was made by dotted keys. A header in double brackets adds one more table to the others
of its name.
-/
namespace WireLedger.Toml

/-- What a document has said so far. -/
structure Draft where
  /-- The tables that are in their place. -/
  root : Table
  /-- The open table. -/
  current : Table
  /-- The header of the open table; the root has none. -/
  header? : Option DottedKey
  /-- Whether the header stood in double brackets. -/
  isElement : Bool

namespace Draft

/-- The draft of an empty document. -/
def empty : Draft := ⟨.empty, .empty, none, false⟩

/-- The path of the open table. -/
def path (d : Draft) : List String := (d.header?.map DottedKey.names).getD []

/-- The document with the open table put in its place. -/
def close (d : Draft) : Except Fault Table := do
  match d.header? with
  | none => return d.current
  | some header =>
    let ((), root) ← Table.changeAt false (fun parent =>
      match d.isElement, parent.find? header.key.name with
      | true, some (.tables earlier last) =>
        return ((), parent.set header.key.name (.tables (earlier ++ [last]) d.current))
      | true, none => return ((), parent.push header.key (.tables [] d.current))
      | false, none => return ((), parent.push header.key (.table d.current))
      | _, some _ => throw (duplicate header)) [] header.path d.root
    return root
where
  /-- The fault of a header whose name is taken. -/
  duplicate (header : DottedKey) : Fault :=
    .duplicateKey (Key.written header.key.name) (some (header.path.map Key.name))

/-- Puts the open table in its place and opens that of a header. -/
def openTable (d : Draft) (header : DottedKey) (span : Span) : Except Fault Draft := do
  let (kept, root) ← Table.changeAt false (fun parent =>
    match parent.find? header.key.name with
    | none => return (.empty, parent)
    | some (.table t) =>
      if t.implicit && !t.dotted then return (t, parent.erase header.key.name)
      else throw (close.duplicate header)
    | some _ => throw (close.duplicate header)) [] header.path (← d.close)
  return ⟨root, { kept with implicit := false, dotted := false, span? := some span }, some header,
    false⟩

/-- Puts the open table in its place and opens one more table of a header. -/
def openElement (d : Draft) (header : DottedKey) (span : Span) : Except Fault Draft := do
  let ((), root) ← Table.changeAt false (fun parent =>
    match parent.find? header.key.name with
    | none | some (.tables ..) => return ((), parent)
    | some _ => throw (close.duplicate header)) [] header.path (← d.close)
  return ⟨root, { TableOf.empty with span? := some span }, some header, true⟩

/-- Gives a key of the open table its item. The table reaches to its last value. -/
def put (d : Draft) (key : DottedKey) (item : Item) : Except Fault Draft := do
  let span? := match d.current.span?, item.span? with
    | some first, some last => some (first.through last)
    | _, _ => d.current.span?
  let current ← Table.put (some d.path) key.path key.key item { d.current with span? }
  return { d with current }

end Draft

end WireLedger.Toml
