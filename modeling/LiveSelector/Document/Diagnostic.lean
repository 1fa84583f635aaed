import LiveSelector.Document.Basic
import LiveSelector.Document.Position

namespace LiveSelector

/-!
Diagnostics: errors marked in a document.  A fault of the grammar is marked from where it begins
to the end of the line it ends on, both lines being brought into the document; a fault without a
place marks the first line.
-/

/-- A fault found in a selector, with its place if it is known. -/
structure GrammarError where
  message : String
  range : Option SourceRange
  deriving DecidableEq

/-- An error marked in a document. -/
structure Diagnostic where
  range : Range
  message : String
  deriving DecidableEq

namespace Document

def wholeLine (document : Document) (line : Nat) : Range :=
  .onLine line 0 (document.lineLength line)

/-- A line of the document: the given one or, past the end, the last. -/
def clampLine (document : Document) (line : Nat) : Nat :=
  min line document.lastLine

def rangeOf (document : Document) (source : SourceRange) : Range :=
  let stopLine := document.clampLine (source.stop.line - 1)
  ⟨⟨document.clampLine (source.start.line - 1), source.start.column - 1⟩,
    ⟨stopLine, document.lineLength stopLine⟩⟩

def diagnosticOf (document : Document) (fault : GrammarError) : Diagnostic :=
  match fault.range with
  | some source => ⟨document.rangeOf source, fault.message⟩
  | none => ⟨document.wholeLine 0, fault.message⟩

def lineDiagnostic (document : Document) (line : Nat) (message : String) : Diagnostic :=
  ⟨document.wholeLine (document.clampLine line), message⟩

end Document

end LiveSelector
