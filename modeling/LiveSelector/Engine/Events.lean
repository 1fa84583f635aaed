import LiveSelector.Engine.Grammar
import LiveSelector.Engine.Watch

namespace LiveSelector.Engine

/-!
Events.  A change is checked and, in the watched document, evaluated; anything else ends the watch
if its output is no longer open.  Of several events taken together every change gets its ticket
before the first evaluation, so that only the last one is done.
-/

variable {Page : Type}

/-- An engine that has left its watch if the output is not open, and whether it has. -/
def stopIfOutputClosed (engine : Engine Page) : Engine Page × Bool :=
  match engine.session.watch with
  | none => (engine, false)
  | some watch =>
    if engine.workspace.isOpen watch.output.id then (engine, false)
    else (engine.stopWatch.1.notify .info outputClosed, true)

def checkChange (setup : Setup Page) (engine : Engine Page) (event : EditorEvent) :
    Engine Page × Option GrammarCheck :=
  match event with
  | .changed document _ => engine.detectGrammarErrors setup document
  | _ => (engine, none)

/-- An engine that has given an event to the listeners of its watch: the ticket for a change, and
whether the watch has ended. -/
def dispatch (engine : Engine Page) (event : EditorEvent) : Engine Page × Option Ticket × Bool :=
  match engine.session.watch with
  | none => (engine, none, false)
  | some watch =>
    let routed := engine.hub.route event
    let (begun, ticket) :=
      if routed.contains watch.change then
        engine.beginEvaluation (event.changedLine?.getD 0)
      else (engine, none)
    let (after, stopped) :=
      if routed.contains watch.lifecycle then begun.stopIfOutputClosed else (begun, false)
    (after, ticket, stopped)

/-- An engine that has taken an event, and the ticket for what is still to be done. -/
def accept (setup : Setup Page) (engine : Engine Page) (event : EditorEvent) :
    Engine Page × HandledEvent × Option Ticket :=
  match engine.checkChange setup event with
  | (checked, grammar) =>
    match checked.dispatch event with
    | (after, ticket, stopped) => (after, { grammar, stopped }, ticket)

def finish (setup : Setup Page) (engine : Engine Page) (handled : HandledEvent)
    (ticket : Option Ticket) : Engine Page × HandledEvent :=
  match ticket with
  | none => (engine, handled)
  | some ticket =>
    match engine.completeEvaluation setup ticket with
    | (after, report) => (after, { handled with evaluation := some report })

def handleEvent (setup : Setup Page) (engine : Engine Page) (event : EditorEvent) :
    Engine Page × HandledEvent :=
  match engine.accept setup event with
  | (accepted, handled, ticket) => accepted.finish setup handled ticket

def acceptAll (setup : Setup Page) (engine : Engine Page) :
    List EditorEvent → Engine Page × List (HandledEvent × Option Ticket)
  | [] => (engine, [])
  | event :: rest =>
    match engine.accept setup event with
    | (accepted, entry) =>
      match acceptAll setup accepted rest with
      | (after, entries) => (after, entry :: entries)

def finishAll (setup : Setup Page) (engine : Engine Page) :
    List (HandledEvent × Option Ticket) → Engine Page × List HandledEvent
  | [] => (engine, [])
  | (handled, ticket) :: rest =>
    match engine.finish setup handled ticket with
    | (finished, first) =>
      match finishAll setup finished rest with
      | (after, others) => (after, first :: others)

def handleEvents (setup : Setup Page) (engine : Engine Page) (events : List EditorEvent) :
    Engine Page × List HandledEvent :=
  match engine.acceptAll setup events with
  | (accepted, entries) => accepted.finishAll setup entries

end LiveSelector.Engine
