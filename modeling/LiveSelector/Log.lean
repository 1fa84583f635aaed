import LiveSelector.Session.Status
import LiveSelector.Text.Blank

namespace LiveSelector

/-!
The log.  It takes entries up to a level, from the most urgent one on; the first setting of the
level holds for good, and before it nothing is written.
-/

/-- How urgent an entry is, the most urgent first. -/
inductive Level where
  | error
  | warn
  | info
  | debug
  | trace
  deriving DecidableEq

namespace Level

def text : Level → String
  | .error => "ERROR"
  | .warn => "WARN"
  | .info => "INFO"
  | .debug => "DEBUG"
  | .trace => "TRACE"

/-- The place in the order of urgency. -/
def rank : Level → Nat
  | .error => 0
  | .warn => 1
  | .info => 2
  | .debug => 3
  | .trace => 4

/-- The level of a name, blanks around it and capitals aside; any other name means `info`. -/
def ofName (name : String) : Level :=
  let word := String.ofList ((Text.trimChars name.toList).map Char.toLower)
  if word = "error" then .error
  else if word = "warn" || word = "warning" then .warn
  else if word = "debug" then .debug
  else if word = "trace" then .trace
  else .info

def takes (limit : Level) (entry : Level) : Bool :=
  entry.rank ≤ limit.rank

end Level

/-- A message to the user. -/
structure Notice where
  level : Level
  text : String
  deriving DecidableEq

inductive LogEntry where
  | notice (notice : Notice)
  | status (status : Status)
  deriving DecidableEq

namespace LogEntry

def level : LogEntry → Level
  | .notice message => message.level
  | .status _ => .info

/-- A character as it stands in the log.  Those that a terminal acts on are spelled out. -/
def shownChar (c : Char) : List Char :=
  if c ∈ ['\x07', '\x08', '\x0c', '\x1b', '\x7f'] then
    ['\\', 'x', Nat.digitChar (c.toNat / 16), Nat.digitChar (c.toNat % 16)]
  else if 0x80 ≤ c.toNat ∧ c.toNat ≤ 0x9F then
    '\\' :: 'u' :: '{' :: Nat.toDigits 16 c.toNat ++ ['}']
  else [c]

/-- A text as it stands in the log. -/
def shown (text : String) : String :=
  .ofList (text.toList.flatMap shownChar)

/-- The line of an entry after a number of turns of the spinner, and the number after it. -/
def line (turns : Nat) : LogEntry → String × Nat
  | .notice message => (message.level.text ++ " " ++ shown message.text, turns)
  | .status entry =>
    let (text, next) := entry.render turns
    let cancel :=
      match entry.cancel with
      | some command => " cancel=" ++ command.id
      | none => ""
    (Level.info.text ++ " " ++ text ++ cancel, next)

def lines (limit : Option Level) (turns : Nat) : List LogEntry → List String
  | [] => []
  | entry :: rest =>
    let (text, next) := entry.line turns
    if (limit.map fun level => level.takes entry.level).getD false then
      text :: lines limit next rest
    else lines limit next rest

end LogEntry

end LiveSelector
