import LiveSelector.Command
import LiveSelector.Document.Basic
import LiveSelector.Link.Tagged

namespace LiveSelector

/-!
Code actions: on a line with a tagged link an editor offers to run the selector with that link
and to watch it.
-/

structure CodeAction where
  title : String
  command : Command
  link : Link
  deriving DecidableEq

/-- What the command gets to work on. -/
def CodeAction.argument (action : CodeAction) : String :=
  action.link.target

/-- The two actions for a link. -/
def CodeAction.forLink (link : Link) : List CodeAction :=
  let tag := link.tag.getD ""
  [⟨"Run selector " ++ tag, .runSelector, link⟩, ⟨"Start watching " ++ tag, .startWatch, link⟩]

/-- The actions on a line of a document, which has to be in the language of selectors. -/
def Document.codeActions (document : Document) (line : Nat) (languageId : String) :
    List CodeAction :=
  if document.languageId = languageId then
    match (document.line? line).bind Link.tagged? with
    | some link => CodeAction.forLink link
    | none => []
  else []

end LiveSelector
