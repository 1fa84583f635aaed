import LiveSelector.Selector.Basic
import LiveSelector.Text.Search

namespace LiveSelector

/-!
Engines given by rules.  A rule says what becomes of the selectors in which a text occurs, and the
first rule for a selector decides; a page is the text it was loaded from.
-/

/-- What becomes of a selector. -/
inductive Verdict where
  | fault (fault : Fault)
  | value (value : Json)

structure Rule where
  contains : String
  verdict : Verdict

def Rule.first? (rules : List Rule) (selector : String) : Option Verdict :=
  (rules.find? fun rule => Text.occursIn rule.contains.toList selector.toList).map (·.verdict)

/-- Rules for parsing and for evaluating. -/
structure RuleBook where
  parsing : List Rule
  evaluating : List Rule

namespace RuleBook

/-- What a selector gives where no rule decides: the page and the selector. -/
def echo (page selector : String) : Json :=
  .object [("html", .string page), ("selector", .string selector)]

def engine (book : RuleBook) : SelectorEngine String where
  parse selector :=
    match Rule.first? book.parsing selector with
    | some (.fault fault) => some fault
    | _ => none
  load page := page
  evaluate page selector :=
    match Rule.first? book.evaluating selector with
    | some (.fault fault) => .error fault
    | some (.value value) => .ok value
    | none => .ok (echo page selector)

end RuleBook

end LiveSelector
