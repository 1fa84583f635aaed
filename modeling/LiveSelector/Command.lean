namespace LiveSelector

/-!
The commands that a user can give.
-/

inductive Command where
  | runSelector
  | startWatch
  | stopWatch
  deriving DecidableEq

namespace Command

/-- The name under which an editor knows a command. -/
def id : Command → String
  | .runSelector => "temme.runSelector"
  | .startWatch => "temme.startWatch"
  | .stopWatch => "temme.stopWatch"

def all : List Command := [.runSelector, .startWatch, .stopWatch]

/-- The command of a name. -/
def ofId? (id : String) : Option Command :=
  all.find? (·.id = id)

end Command

end LiveSelector
