namespace LiveSelector

/-!
Places in a text.  Editors count lines and characters from zero, the selector grammar counts lines
and columns from one.
-/

/-- A place as editors count, from zero. -/
structure Position where
  line : Nat
  character : Nat
  deriving DecidableEq

/-- A part of a text; its end is not in it. -/
structure Range where
  start : Position
  stop : Position
  deriving DecidableEq

/-- A part of one line. -/
def Range.onLine (line start stop : Nat) : Range :=
  ⟨⟨line, start⟩, ⟨line, stop⟩⟩

/-- A place as the selector grammar counts, from one. -/
structure SourcePoint where
  line : Nat
  column : Nat
  deriving DecidableEq

structure SourceRange where
  start : SourcePoint
  stop : SourcePoint
  deriving DecidableEq

end LiveSelector
