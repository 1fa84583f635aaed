import LiveSelector.Toml.Basic

namespace LiveSelector.Toml

/-!
Building tables.  A key is given once.  A header may name a table that other headers have passed
through, but none that has been written otherwise; a dotted key may extend only tables that dotted
keys have made.  A path that passes an array of tables means its last table.
-/

abbrev Members := List (List Char × Toml)

/-- The value of a key. -/
def find? (key : List Char) (members : Members) : Option Toml :=
  (members.find? (·.1 = key)).map (·.2)

/-- Members with the value of a key replaced where it stands. -/
def replace (key : List Char) (value : Toml) (members : Members) : Members :=
  members.map fun member => if member.1 = key then (key, value) else member

/-- Members without a key. -/
def remove (key : List Char) (members : Members) : Members :=
  members.filter (·.1 ≠ key)

/-- Tables with a change made to the members of the last one. -/
def changeLast (change : Members → Option Members) : List Toml → Option (List Toml)
  | [] => none
  | [.table origin members] =>
    match change members with
    | some changed => some [.table origin changed]
    | none => none
  | [_] => none
  | item :: rest =>
    match changeLast change rest with
    | some changed => some (item :: changed)
    | none => none

/-- Members with a value put under a dotted key.  `extensible` says whether the last key of the
path may be put into this table. -/
def putDotted (value : Toml) : Bool → List (List Char) → Members → Option Members
  | _, [], _ => none
  | extensible, [key], members =>
    if extensible && (find? key members).isNone then some (members ++ [(key, value)]) else none
  | _, key :: rest, members =>
    match find? key members with
    | none =>
      (putDotted value true rest []).map fun inner => members ++ [(key, .table .dotted inner)]
    | some (.table .dotted inner) =>
      (putDotted value true rest inner).map fun changed =>
        replace key (.table .dotted changed) members
    | some (.table .implied inner) =>
      (putDotted value false rest inner).map fun changed =>
        replace key (.table .implied changed) members
    | some (.tables items) =>
      (changeLast (putDotted value false rest) items).map fun changed =>
        replace key (.tables changed) members
    | some _ => none

/-- Members with a change made to those of the table at the end of a path, the tables on the way
made where they are missing. -/
def descend (change : Members → Option Members) : List (List Char) → Members → Option Members
  | [], members => change members
  | key :: rest, members =>
    match find? key members with
    | none =>
      (descend change rest []).map fun inner => members ++ [(key, .table .implied inner)]
    | some (.table .inline _) => none
    | some (.table origin inner) =>
      (descend change rest inner).map fun changed => replace key (.table origin changed) members
    | some (.tables items) =>
      (changeLast (descend change rest) items).map fun changed =>
        replace key (.tables changed) members
    | some _ => none

/-- Members with a table that a header names; it moves behind the others. -/
def openTable (key : List Char) (members : Members) : Option Members :=
  match find? key members with
  | none => some (members ++ [(key, .table .header [])])
  | some (.table .implied inner) => some (remove key members ++ [(key, .table .header inner)])
  | some _ => none

/-- Members with one more table in an array of tables. -/
def addTable (key : List Char) (members : Members) : Option Members :=
  match find? key members with
  | none => some (members ++ [(key, .tables [.table .header []])])
  | some (.tables items) => some (replace key (.tables (items ++ [.table .header []])) members)
  | some _ => none

/-- A path cut into the way to a table and the last key. -/
def cutPath? (path : List (List Char)) : Option (List (List Char) × List Char) :=
  path.getLast?.map fun key => (path.dropLast, key)

inductive Statement where
  | table (path : List (List Char))
  | tables (path : List (List Char))
  | entry (path : List (List Char)) (value : Toml)

/-- A document as far as it is built: its members and the table that entries go to. -/
structure Draft where
  members : Members
  current : List (List Char)

/-- A draft after one more statement. -/
def Draft.add (draft : Draft) : Statement → Option Draft
  | .table path =>
    match cutPath? path with
    | some (way, key) =>
      (descend (openTable key) way draft.members).map fun members => ⟨members, path⟩
    | none => none
  | .tables path =>
    match cutPath? path with
    | some (way, key) =>
      (descend (addTable key) way draft.members).map fun members => ⟨members, path⟩
    | none => none
  | .entry path value =>
    (descend (putDotted value true path) draft.current draft.members).map fun members =>
      ⟨members, draft.current⟩

def ofStatements? (statements : List Statement) : Option Members :=
  (statements.foldlM Draft.add ⟨[], []⟩).map (·.members)

/-- The table that entries between braces give, if they fit together. -/
def inlineTable? (entries : List (List (List Char) × Toml)) : Option Toml :=
  (entries.foldlM (fun members entry => putDotted entry.2 true entry.1 members) []).map
    (.table .inline)

end LiveSelector.Toml
