import LiveSelector.Event.Basic

namespace LiveSelector

/-!
The hub: listeners in the order in which they came.  Each gets a token when it comes, and no token
is given twice.
-/

/-- What a listener gives back when it goes. -/
abbrev Token := Nat

structure Hub where
  /-- The last token given. -/
  lastToken : Token
  listeners : List (Token × Interest)
  deriving DecidableEq

namespace Hub

def empty : Hub := ⟨0, []⟩

instance : Inhabited Hub := ⟨empty⟩

/-- A hub with one more listener, and that listener's token. -/
def subscribe (hub : Hub) (interest : Interest) : Hub × Token :=
  (⟨hub.lastToken + 1, hub.listeners ++ [(hub.lastToken + 1, interest)]⟩, hub.lastToken + 1)

/-- A hub without a listener. -/
def unsubscribe (hub : Hub) (token : Token) : Hub :=
  { hub with listeners := hub.listeners.filter (·.1 ≠ token) }

/-- Whether a listener is there. -/
def isInstalled (hub : Hub) (token : Token) : Bool :=
  hub.listeners.any (·.1 = token)

/-- The tokens of the listeners that an event is of interest to. -/
def route (hub : Hub) (event : EditorEvent) : List Token :=
  (hub.listeners.filter (·.2.covers event)).map (·.1)

end Hub

/-- What may be asked of a hub. -/
inductive HubCall where
  | subscribe (interest : Interest)
  | unsubscribe (token : Token)
  | route (event : EditorEvent)
  deriving DecidableEq

inductive HubAnswer where
  | given (token : Token)
  /-- Whether a listener has gone. -/
  | removed (gone : Bool)
  | reached (tokens : List Token)
  deriving DecidableEq

namespace Hub

def call (hub : Hub) : HubCall → Hub × HubAnswer
  | .subscribe interest =>
    match hub.subscribe interest with
    | (after, token) => (after, .given token)
  | .unsubscribe token =>
    let after := hub.unsubscribe token
    (after, .removed (after.listeners.length ≠ hub.listeners.length))
  | .route event => (hub, .reached (hub.route event))

/-- A hub after one more call, with the answers to all calls so far. -/
def record (state : Hub × List (HubCall × HubAnswer)) (call : HubCall) :
    Hub × List (HubCall × HubAnswer) :=
  match state.1.call call with
  | (after, answer) => (after, state.2 ++ [(call, answer)])

/-- The hub that calls lead to from an empty one, and the calls with their answers. -/
def history (calls : List HubCall) : Hub × List (HubCall × HubAnswer) :=
  calls.foldl record (empty, [])

end Hub

end LiveSelector
