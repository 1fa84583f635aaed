namespace LiveSelector.Toml

/-!
Quoted texts of TOML.  A text stands between single quotes as it is or between double quotes with
escapes, and between tripled quotes of either kind it may run over several lines.  The reader
takes one character at a time; a state says what the characters before ask for.
-/

/-- Characters that stand for themselves: no control characters but the tab. -/
def isPlain (c : Char) : Bool :=
  c == '\t' || (0x20 ≤ c.toNat && c.toNat != 0x7F)

def isBlank (c : Char) : Bool :=
  c == ' ' || c == '\t'

/-- A kind of quoted text. -/
structure Style where
  quote : Char
  escapes : Bool
  spanning : Bool
  deriving DecidableEq

/-- What the characters before ask for. -/
inductive QuoteState where
  | plain
  /-- Quotes that may end a spanning text. -/
  | quotes (count : Nat)
  | escape
  /-- Digits of an escape: how many are missing and the value so far. -/
  | digits (missing value : Nat)
  /-- An escaped line end, blanks before the line end. -/
  | beforeBreak
  /-- An escaped line end, blanks and line ends after it. -/
  | afterBreak
  deriving DecidableEq

/-- The value of a hexadecimal digit. -/
def hexValue? (c : Char) : Option Nat :=
  if '0' ≤ c && c ≤ '9' then some (c.toNat - 48)
  else if 'a' ≤ c && c ≤ 'f' then some (c.toNat - 87)
  else if 'A' ≤ c && c ≤ 'F' then some (c.toNat - 55)
  else none

def letterEscape? (c : Char) : Option Char :=
  if c = '"' || c = '\\' then some c
  else if c = 'b' then some '\x08'
  else if c = 'f' then some '\x0c'
  else if c = 'n' then some '\n'
  else if c = 'r' then some '\r'
  else if c = 't' then some '\t'
  else none

def charOfCode? (code : Nat) : Option Char :=
  if code.isValidChar then some (Char.ofNat code) else none

/-- A character read in the plain state: the characters it stands for and the next state. -/
def plainStep (style : Style) (c : Char) : Option (List Char × QuoteState) :=
  if c = style.quote then some ([], .quotes 1)
  else if c = '\\' && style.escapes then some ([], .escape)
  else if c = '\n' then (if style.spanning then some (['\n'], .plain) else none)
  else if isPlain c then some ([c], .plain)
  else none

/-- A character read in any state that does not end the text. -/
def quoteStep (style : Style) : QuoteState → Char → Option (List Char × QuoteState)
  | .plain, c => plainStep style c
  | .quotes count, c =>
    if c = style.quote then some ([], .quotes (count + 1))
    else
      (plainStep style c).map fun (text, next) => (List.replicate count style.quote ++ text, next)
  | .escape, c =>
    if c = 'u' then some ([], .digits 4 0)
    else if c = 'U' then some ([], .digits 8 0)
    else if style.spanning && c = '\n' then some ([], .afterBreak)
    else if style.spanning && isBlank c then some ([], .beforeBreak)
    else (letterEscape? c).map fun plain => ([plain], .plain)
  | .digits missing value, c =>
    match hexValue? c with
    | none => none
    | some digit =>
      if missing ≤ 1 then (charOfCode? (value * 16 + digit)).map fun plain => ([plain], .plain)
      else some ([], .digits (missing - 1) (value * 16 + digit))
  | .beforeBreak, c =>
    if c = '\n' then some ([], .afterBreak) else if isBlank c then some ([], .beforeBreak) else none
  | .afterBreak, c =>
    if c = '\n' || isBlank c then some ([], .afterBreak) else plainStep style c

/-- The quotes at the end of a text of a style: how many close it at least and at most. -/
def Style.closing (style : Style) : Nat × Nat :=
  if style.spanning then (3, 5) else (1, 1)

/-- The text up to its closing quotes, and what follows them.  Quotes beyond those needed belong
to the text. -/
def readQuoted? (style : Style) : QuoteState → List Char → Option (List Char × List Char)
  | .quotes count, [] =>
    if style.closing.1 ≤ count then
      some (List.replicate (count - style.closing.1) style.quote, [])
    else none
  | _, [] => none
  | state, c :: rest =>
    let closed :=
      match state with
      | .quotes count =>
        if style.closing.1 ≤ count && (c != style.quote || style.closing.2 ≤ count) then some count
        else none
      | _ => none
    match closed with
    | some count => some (List.replicate (count - style.closing.1) style.quote, c :: rest)
    | none =>
      match quoteStep style state c with
      | none => none
      | some (text, next) =>
        match readQuoted? style next rest with
        | some (more, after) => some (text ++ more, after)
        | none => none

/-- The text after opening quotes; a line end right after them is no part of it. -/
def readSpanning? (quote : Char) (escapes : Bool) : List Char → Option (List Char × List Char)
  | '\n' :: rest => readQuoted? ⟨quote, escapes, true⟩ .plain rest
  | rest => readQuoted? ⟨quote, escapes, true⟩ .plain rest

/-- A quoted text at the start of a text. -/
def readText? : List Char → Option (List Char × List Char)
  | '"' :: '"' :: '"' :: rest => readSpanning? '"' true rest
  | '"' :: rest => readQuoted? ⟨'"', true, false⟩ .plain rest
  | '\'' :: '\'' :: '\'' :: rest => readSpanning? '\'' false rest
  | '\'' :: rest => readQuoted? ⟨'\'', false, false⟩ .plain rest
  | _ => none

end LiveSelector.Toml
