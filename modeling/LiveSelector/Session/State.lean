namespace LiveSelector

/-!
What the session is doing: waiting, running a selector once, or watching one.
-/

inductive SessionState where
  | ready
  | running
  | watching
  deriving DecidableEq

namespace SessionState

def isReady (state : SessionState) : Bool := state = .ready

def isWatching (state : SessionState) : Bool := state = .watching

/-- Whether something is going on that can be stopped. -/
def isBusy (state : SessionState) : Bool := !state.isReady

def text : SessionState → String
  | .ready => "ready"
  | .running => "running"
  | .watching => "watching"

def ofText? (text : String) : Option SessionState :=
  [ready, running, watching].find? (·.text = text)

end SessionState

end LiveSelector
