namespace LiveSelector

/-!
Values of a TOML document.  Floats, dates and times are told apart from the other kinds, but what
they stand for is not kept: no setting takes one.  The members of a table stand in the order in
which the document brings them in.
-/

namespace Toml

/-- How a table came to be, which decides what may still be added to it. -/
inductive Origin where
  /-- Written between braces: complete. -/
  | inline
  /-- Named by a header of its own. -/
  | header
  /-- Passed through by another table's header. -/
  | implied
  /-- Passed through by a dotted key. -/
  | dotted
  deriving DecidableEq

end Toml

inductive Toml where
  | string (value : List Char)
  | integer (value : Int)
  | float
  | boolean (value : Bool)
  | moment
  | array (items : List Toml)
  | tables (items : List Toml)
  | table (origin : Toml.Origin) (members : List (List Char × Toml))

namespace Toml

/-- The members of a table or of any other value, which has none. -/
def members : Toml → List (List Char × Toml)
  | .table _ members => members
  | _ => []

end Toml

end LiveSelector
