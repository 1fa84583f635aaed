import LiveSelector.Document.Basic

namespace LiveSelector

/-!
The output of a selector: a document beside it, named after it with a suffix added.
-/

structure Output where
  id : DocumentId
  path : FilePath
  deriving DecidableEq

/-- The path of the same directory whose name has a suffix added. -/
def FilePath.companion (path : FilePath) (suffix : String) : FilePath :=
  path.withFileName ((path.fileName?).getD [] ++ suffix.toList)

/-- Where the output of a document goes.  A document without a file counts as one whose path is
its name. -/
def Document.outputPath (document : Document) (suffix : String) : FilePath :=
  (document.path.getD (.ofText document.id.text)).companion suffix

end LiveSelector
