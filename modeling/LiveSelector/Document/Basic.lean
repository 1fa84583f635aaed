import LiveSelector.FilePath
import LiveSelector.Text.Lines

namespace LiveSelector

/-!
Documents as the editor shows them.  Lines are counted from zero, the empty document having one
empty line; a carriage return at the end of a line does not belong to it.
-/

/-- What tells one document from another; for a document in a file, the path as written. -/
structure DocumentId where
  text : String
  deriving DecidableEq

def FilePath.documentId (path : FilePath) : DocumentId :=
  ⟨path.text⟩

structure Document where
  id : DocumentId
  path : Option FilePath
  languageId : String
  text : String
  deriving DecidableEq

/-- The lines of a text with the carriage returns that end them. -/
def rawLines (text : String) : List (List Char) :=
  Text.pieces '\n' text.toList

namespace Document

def lineCount (document : Document) : Nat :=
  (rawLines document.text).length

def lastLine (document : Document) : Nat :=
  document.lineCount - 1

def line? (document : Document) (line : Nat) : Option (List Char) :=
  (rawLines document.text)[line]?.map Text.dropReturn

/-- The number of characters of a line; lines that are not there have none. -/
def lineLength (document : Document) (line : Nat) : Nat :=
  match document.line? line with
  | some chars => chars.length
  | none => 0

def directory? (document : Document) : Option FilePath :=
  document.path.bind FilePath.parent?

theorem lineCount_pos (document : Document) : 0 < document.lineCount :=
  List.length_pos_iff.mpr (Text.pieces_ne_nil '\n' document.text.toList)

end Document

end LiveSelector
