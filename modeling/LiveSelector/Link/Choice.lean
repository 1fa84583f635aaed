import LiveSelector.Link.Scan

namespace LiveSelector

/-!
The choice of the one link to use with a text: the only link there is, or the one that the user
picks among several.
-/

/-- A question put to the user. -/
structure Prompt where
  options : List String
  placeholder : String
  deriving DecidableEq

/-- What became of the search for a link. -/
inductive LinkChoice where
  | resolved (link : Link)
  | noLinkFound
  | noLinkChosen
  deriving DecidableEq

namespace Link

/-- What the user is asked. -/
def placeholder : String := "Choose an url:"

/-- The question about several links. -/
def promptFor (links : List Link) : Prompt :=
  ⟨links.map label, placeholder⟩

/-- The link that an answer names. -/
def chosen (links : List Link) (answer : Option Nat) : LinkChoice :=
  match answer.bind fun index => links[index]? with
  | some link => .resolved link
  | none => .noLinkChosen

/-- The one link to use with a text, and the question if one has to be asked; `answer` is what
the user says to it. -/
def choose (text : List Char) (limit : Nat) (answer : Prompt → Option Nat) :
    LinkChoice × Option Prompt :=
  match (extract text limit).links with
  | [] => (.noLinkFound, none)
  | [link] => (.resolved link, none)
  | links => (chosen links (answer (promptFor links)), some (promptFor links))

end Link

end LiveSelector
