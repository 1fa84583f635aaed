import LiveSelector.Document.Change

namespace LiveSelector

/-!
What an editor announces, and which of it a listener wants to hear.
-/

inductive EditorEvent where
  /-- The text of a document changed. -/
  | changed (document : DocumentId) (changes : List TextChange)
  | closed (document : DocumentId)
  /-- Other documents are visible than before. -/
  | visibleChanged
  /-- Another document has the focus, or none. -/
  | activeChanged (document : Option DocumentId)
  deriving DecidableEq

/-- Changes of a text and everything else that may happen to a document. -/
inductive EventKind where
  | change
  | lifecycle
  deriving DecidableEq

namespace EditorEvent

def kind : EditorEvent → EventKind
  | .changed _ _ => .change
  | .closed _ | .visibleChanged | .activeChanged _ => .lifecycle

def document? : EditorEvent → Option DocumentId
  | .changed document _ | .closed document => some document
  | .activeChanged document => document
  | .visibleChanged => none

/-- The line on which the first change begins; a change event without changes counts as one of
the first line. -/
def changedLine? : EditorEvent → Option Nat
  | .changed _ (first :: _) => some first.range.start.line
  | .changed _ [] => some 0
  | _ => none

end EditorEvent

/-- What a listener wants to hear: events of one kind, of one document or of all. -/
structure Interest where
  kind : EventKind
  document : Option DocumentId
  deriving DecidableEq

namespace Interest

def changesOf (document : DocumentId) : Interest := ⟨.change, some document⟩

def lifecycle : Interest := ⟨.lifecycle, none⟩

/-- Whether an event is of interest. -/
def covers (interest : Interest) (event : EditorEvent) : Bool :=
  interest.kind = event.kind &&
    (interest.document.isNone || event.document? = interest.document)

end Interest

end LiveSelector
