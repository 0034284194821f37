import HostRouting.Toml.Basic

/-!
# Tables and how they grow

A document grows by headers and by keys with values. A key is set once. A table has at
most one header, and what a dotted key has made only dotted keys extend; a header may
still open tables below it. Nothing extends a value, and a table in braces is a value.
-/
namespace HostRouting.Toml

abbrev Entries := List (Text × Toml)

/-- The entries with the value of a key replaced. -/
def setEntry (key : Text) (value : Toml) (es : Entries) : Entries :=
  es.map fun e => if e.1 = key then (key, value) else e

/-- Changes the table under a path. Missing tables on the way come to be with the given
origin; a table with a header of its own is closed to dotted keys. -/
def changeUnder (missing : TableOrigin) (change : TableOrigin → Entries → Option Entries) :
    List Text → TableOrigin → Entries → Option Entries
  | [], origin, es => change origin es
  | key :: path, _, es =>
    match es.lookup key with
    | none =>
      (changeUnder missing change path missing []).map fun inner =>
        es ++ [(key, .table missing inner)]
    | some (.table origin inner) =>
      if origin = .inline || (missing = .dotted && origin = .header) then none
      else
        (changeUnder missing change path origin inner).map fun inner =>
          setEntry key (.table origin inner) es
    | some (.tables closed last) =>
      (changeUnder missing change path .header last).map fun last =>
        setEntry key (.tables closed last) es
    | some _ => none

/-- A key that is not there yet, with its value. -/
def addEntry (key : Text) (value : Toml) (es : Entries) : Option Entries :=
  if (es.lookup key).isNone then some (es ++ [(key, value)]) else none

/-- Sets a key, given by its path and its last part, below a table. Only a table that dotted
keys have made takes a key with dots. -/
def assign (path : List Text) (key : Text) (value : Toml) (es : Entries) : Option Entries :=
  changeUnder .dotted
    (fun origin es =>
      if origin = .dotted ∨ path = [] then addEntry key value es else none)
    path .header es

/-- A document that is being read: its entries, and the path of the last header. -/
structure Growth where
  entries : Entries := []
  current : List Text := []

namespace Growth

/-- Changes the table under a path of headers. -/
def change (g : Growth) (path : List Text) (f : Entries → Option Entries) : Option Entries :=
  changeUnder .parent (fun _ es => f es) path .header g.entries

def assign (g : Growth) (path : List Text) (key : Text) (value : Toml) : Option Growth :=
  (g.change g.current (Toml.assign path key value)).map fun es => { g with entries := es }

/-- Opens the table of a header. -/
def openTable (g : Growth) (path : List Text) (key : Text) : Option Growth :=
  (g.change path fun es =>
    match es.lookup key with
    | none => some (es ++ [(key, .table .header [])])
    | some (.table .parent inner) => some (setEntry key (.table .header inner) es)
    | some _ => none).map fun es => ⟨es, path ++ [key]⟩

/-- Opens the next table of an array of tables. -/
def openElement (g : Growth) (path : List Text) (key : Text) : Option Growth :=
  (g.change path fun es =>
    match es.lookup key with
    | none => some (es ++ [(key, .tables [] [])])
    | some (.tables closed last) =>
      some (setEntry key (.tables (closed ++ [.table .header last]) []) es)
    | some _ => none).map fun es => ⟨es, path ++ [key]⟩

end Growth

/-- The table in braces that the given keys and values make. -/
def inlineTable? (members : List (List Text × Text × Toml)) : Option Toml :=
  (members.foldlM (fun es m => assign m.1 m.2.1 m.2.2 es) []).map (.table .inline)

end HostRouting.Toml
