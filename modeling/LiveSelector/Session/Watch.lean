import LiveSelector.Event.Hub
import LiveSelector.Link.Basic
import LiveSelector.Output
import LiveSelector.Session.State

namespace LiveSelector

/-!
The session: its state, the watch if there is one, and the tickets by which evaluations are put
off.  Every watch begins under a generation of its own, and its tickets are numbered; only the last
ticket of the present watch is good.
-/

/-- A watch: a document, the page it is evaluated on, and where the results go. -/
structure Watch (Page : Type) where
  /-- The generation under which the watch began. -/
  generation : Nat
  document : DocumentId
  /-- The link that came with the page. -/
  link : Link
  html : String
  page : Page
  output : Output
  /-- The listener for changes of the document. -/
  change : Token
  /-- The listener for everything else. -/
  lifecycle : Token
  /-- The number of the last ticket. -/
  revision : Nat

/-- A ticket for one evaluation, with the line that was changed. -/
structure Ticket where
  generation : Nat
  revision : Nat
  changedLine : Nat
  deriving DecidableEq

inductive DiscardReason where
  /-- The watch of the ticket has ended. -/
  | stale
  /-- There is a later ticket. -/
  | superseded
  /-- The document is no longer open. -/
  | documentUnavailable
  deriving DecidableEq

structure Session (Page : Type) where
  state : SessionState
  /-- How often a watch has begun or ended. -/
  generation : Nat
  watch : Option (Watch Page)

namespace Session

variable {Page : Type}

def new : Session Page := ⟨.ready, 0, none⟩

instance : Inhabited (Session Page) := ⟨new⟩

def isWatching (session : Session Page) : Bool :=
  session.watch.isSome

/-- A session with a watch that begins now. -/
def install (session : Session Page) (watch : Watch Page) : Session Page :=
  { session with
    generation := session.generation + 1
    watch := some { watch with generation := session.generation + 1, revision := 0 } }

def withoutWatch (session : Session Page) : Session Page :=
  match session.watch with
  | some _ => { session with generation := session.generation + 1, watch := none }
  | none => session

/-- A session with one more ticket issued, and the ticket. -/
def issueTicket (session : Session Page) (changedLine : Nat) : Option (Session Page × Ticket) :=
  session.watch.map fun watch =>
    ({ session with watch := some { watch with revision := watch.revision + 1 } },
      ⟨watch.generation, watch.revision + 1, changedLine⟩)

/-- The watch that a ticket is good for. -/
def checkTicket (session : Session Page) (ticket : Ticket) : Except DiscardReason (Watch Page) :=
  match session.watch with
  | none => .error .stale
  | some watch =>
    if watch.generation ≠ ticket.generation then .error .stale
    else if watch.revision ≠ ticket.revision then .error .superseded
    else .ok watch

end Session

end LiveSelector
