import LiveSelector.Command
import LiveSelector.Session.State

namespace LiveSelector

/-!
What the status bar shows.  While something is going on a spinner turns before the text, one frame
with each update, and the entry offers to stop it.
-/

structure Status where
  state : SessionState
  text : String
  busy : Bool
  cancel : Option Command
  deriving DecidableEq

namespace Status

def ofState (state : SessionState) : Status where
  state
  text := "temme: " ++ state.text
  busy := state.isBusy
  cancel := if state.isBusy then some .stopWatch else none

def spinnerFrames : List String :=
  ["⠋", "⠙", "⠹", "⠸", "⠼", "⠴", "⠦", "⠧", "⠇", "⠏"]

def spinner (turns : Nat) : String :=
  spinnerFrames.getD (turns % spinnerFrames.length) ""

/-- The entry as it is shown after a number of turns, and the number of turns after it. -/
def render (status : Status) (turns : Nat) : String × Nat :=
  if status.busy then (spinner turns ++ " " ++ status.text, turns + 1) else (status.text, turns)

/-- Entries as they are shown one after the other. -/
def renderAll (turns : Nat) : List Status → List String
  | [] => []
  | status :: rest =>
    let (text, next) := status.render turns
    text :: renderAll next rest

end Status

end LiveSelector
