import LiveSelector.Document.Diagnostic
import LiveSelector.Json.Basic

namespace LiveSelector

/-!
Selector engines: what parses selectors and evaluates them on pages.  Their faults are told apart
by name into faults of syntax and all others, and a fault's place counts only if both its ends are
known.
-/

/-- Where an engine says that a fault is. -/
structure FaultLocation where
  start : Option SourcePoint
  stop : Option SourcePoint
  deriving DecidableEq

structure Fault where
  name : String
  message : String
  location : Option FaultLocation
  deriving DecidableEq

namespace Fault

def syntaxName : String := "SyntaxError"

def isSyntax (fault : Fault) : Bool :=
  fault.name = syntaxName

/-- The range of a location both of whose ends are known. -/
def wholeRange? (location : FaultLocation) : Option SourceRange :=
  match location.start, location.stop with
  | some start, some stop => some ⟨start, stop⟩
  | _, _ => none

/-- A fault as it is shown in a document. -/
def normalize (fault : Fault) : GrammarError :=
  ⟨fault.message, fault.location.bind wholeRange?⟩

end Fault

/-- What came of evaluating a selector. -/
inductive Outcome where
  | success (value : Json)
  | syntaxFailure (message : String) (range : Option SourceRange)
  | runtimeFailure (message : String) (range : Option SourceRange)

namespace Outcome

def isSuccess : Outcome → Bool
  | .success _ => true
  | _ => false

def failureMessage? : Outcome → Option String
  | .success _ => none
  | .syntaxFailure message _ | .runtimeFailure message _ => some message

end Outcome

/-- An engine: it finds the fault in a selector, loads pages, and evaluates selectors on them. -/
structure SelectorEngine (Page : Type) where
  parse : String → Option Fault
  load : String → Page
  evaluate : Page → String → Except Fault Json

namespace SelectorEngine

variable {Page : Type}

/-- The fault of a selector, as it is shown. -/
def check (engine : SelectorEngine Page) (selector : String) : Option GrammarError :=
  (engine.parse selector).map Fault.normalize

/-- What comes of evaluating a selector on a page. -/
def outcome (engine : SelectorEngine Page) (page : Page) (selector : String) : Outcome :=
  match engine.evaluate page selector with
  | .ok value => .success value
  | .error fault =>
    if fault.isSyntax then .syntaxFailure fault.normalize.message fault.normalize.range
    else .runtimeFailure fault.normalize.message fault.normalize.range

/-- An engine to which every selector is faulty. -/
def faulty (fault : Fault) : SelectorEngine Unit :=
  ⟨fun _ => some fault, fun _ => (), fun _ _ => .error fault⟩

end SelectorEngine

end LiveSelector
