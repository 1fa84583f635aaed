import LiveSelector.Toml.Quoted
import LiveSelector.Toml.Scalar
import LiveSelector.Toml.Table

namespace LiveSelector.Toml

/-!
Reading a document: statements on lines of their own, each a header or an entry, with blank lines
and comments between them.
-/

def skipBlanks (text : List Char) : List Char :=
  text.dropWhile isBlank

/-- Bare keys hold ASCII letters, digits, underscores and hyphens. -/
def isKeyChar (c : Char) : Bool :=
  c.isAlphanum || c == '_' || c == '-'

/-- One part of a key. -/
def readKeyPart? : List Char → Option (List Char × List Char)
  | '"' :: rest => readQuoted? ⟨'"', true, false⟩ .plain rest
  | '\'' :: rest => readQuoted? ⟨'\'', false, false⟩ .plain rest
  | text =>
    match text.takeWhile isKeyChar with
    | [] => none
    | key => some (key, text.dropWhile isKeyChar)

/-- Keys have fewer parts than this, and values fewer levels. -/
def depthLimit : Nat := 80

/-- The parts of a key with dots and blanks between them, at most `count`, and what follows them
and the blanks after them. -/
def readKeyWithin? : Nat → List Char → Option (List (List Char) × List Char)
  | 0, _ => none
  | count + 1, text =>
    match readKeyPart? (skipBlanks text) with
    | none => none
    | some (part, after) =>
      match skipBlanks after with
      | '.' :: rest =>
        match readKeyWithin? count rest with
        | some (parts, last) => some (part :: parts, last)
        | none => none
      | last => some ([part], last)

/-- A key. -/
def readKey? (text : List Char) : Option (List (List Char) × List Char) :=
  readKeyWithin? (depthLimit - 1) text

/-- What follows a comment, from its line end on; no control character stands in it. -/
def dropComment? : List Char → Option (List Char)
  | [] => some []
  | c :: rest =>
    if c = '\n' then some (c :: rest) else if isPlain c then dropComment? rest else none

/-- What follows blanks, line ends and comments between the items of an array; at most `count`
comments. -/
def skipSpaceWithin? : Nat → List Char → Option (List Char)
  | 0, text => some text
  | count + 1, text =>
    match text.dropWhile fun c => isBlank c || c == '\n' with
    | '#' :: rest =>
      match dropComment? rest with
      | some after => skipSpaceWithin? count after
      | none => none
    | rest => some rest

def skipSpace? (text : List Char) : Option (List Char) :=
  skipSpaceWithin? (text.length + 1) text

mutual

/-- A value at the start of a text, with at most `depth` levels, in at most `fuel` nested steps. -/
def readValue? : Nat → Nat → List Char → Option (Toml × List Char)
  | 0, _, _ => none
  | fuel + 1, depth, text =>
    match text with
    | '"' :: _ | '\'' :: _ => (readText? text).map fun (value, after) => (.string value, after)
    | '[' :: rest =>
      if depth ≤ 1 then none
      else (readItems? fuel (depth - 1) rest).map fun (items, after) => (.array items, after)
    | '{' :: rest =>
      if depth ≤ 1 then none
      else
        match skipBlanks rest with
        | '}' :: after => some (.table .inline [], after)
        | inner =>
          match readEntries? fuel (depth - 1) inner with
          | some (entries, after) => (inlineTable? entries).map fun table => (table, after)
          | none => none
    | 't' :: 'r' :: 'u' :: 'e' :: after => some (.boolean true, after)
    | 'f' :: 'a' :: 'l' :: 's' :: 'e' :: after => some (.boolean false, after)
    | _ => readNumeral? text

/-- The items of an array and what follows its bracket; a comma may stand after the last one. -/
def readItems? : Nat → Nat → List Char → Option (List Toml × List Char)
  | 0, _, _ => none
  | fuel + 1, depth, text =>
    match skipSpace? text with
    | none => none
    | some (']' :: after) => some ([], after)
    | some inner =>
      match readValue? fuel depth inner with
      | none => none
      | some (item, afterItem) =>
        match skipSpace? afterItem with
        | some (',' :: rest) =>
          match readItems? fuel depth rest with
          | some (items, after) => some (item :: items, after)
          | none => none
        | some (']' :: after) => some ([item], after)
        | _ => none

/-- The entries of a table between braces and what follows its closing brace. -/
def readEntries? : Nat → Nat → List Char → Option (List (List (List Char) × Toml) × List Char)
  | 0, _, _ => none
  | fuel + 1, depth, text =>
    match readKey? text with
    | some (key, '=' :: rest) =>
      match readValue? fuel depth (skipBlanks rest) with
      | none => none
      | some (value, afterValue) =>
        match skipBlanks afterValue with
        | ',' :: more =>
          match readEntries? fuel depth more with
          | some (entries, after) => some ((key, value) :: entries, after)
          | none => none
        | '}' :: after => some ([(key, value)], after)
        | _ => none
    | _ => none

end

def endLine? (text : List Char) : Option (List Char) :=
  let rest :=
    match skipBlanks text with
    | '#' :: comment => dropComment? comment
    | other => some other
  match rest with
  | some [] => some []
  | some ('\n' :: after) => some after
  | _ => none

/-- One statement, its line end still to come. -/
def readStatement? (text : List Char) : Option (Statement × List Char) :=
  match text with
  | '[' :: '[' :: rest =>
    match readKey? rest with
    | some (path, ']' :: ']' :: after) => some (.tables path, after)
    | _ => none
  | '[' :: rest =>
    match readKey? rest with
    | some (path, ']' :: after) => some (.table path, after)
    | _ => none
  | _ =>
    match readKey? text with
    | some (path, '=' :: rest) =>
      (readValue? (2 * rest.length + 1) depthLimit (skipBlanks rest)).map fun (value, after) =>
        (.entry path value, after)
    | _ => none

/-- The statements of a text, at most `count` lines of them. -/
def readStatements? : Nat → List Char → Option (List Statement)
  | 0, _ => none
  | count + 1, text =>
    match skipBlanks text with
    | [] => some []
    | '\n' :: rest => readStatements? count rest
    | '#' :: rest =>
      match dropComment? rest with
      | some after => readStatements? count after
      | none => none
    | line =>
      match readStatement? line with
      | none => none
      | some (statement, afterStatement) =>
        match endLine? afterStatement with
        | none => none
        | some after => (readStatements? count after).map (statement :: ·)

/-- A text with each carriage return and newline made one newline. -/
def unifyBreaks : List Char → List Char
  | [] => []
  | '\r' :: '\n' :: rest => '\n' :: unifyBreaks rest
  | c :: rest => c :: unifyBreaks rest

/-- A text without a mark of its byte order. -/
def dropByteOrder : List Char → List Char
  | '\uFEFF' :: rest => rest
  | rest => rest

/-- The members of the document that a text spells, if it spells one. -/
def read? (text : List Char) : Option Members :=
  let chars := unifyBreaks (dropByteOrder text)
  match readStatements? (chars.length + 1) chars with
  | some statements => ofStatements? statements
  | none => none

end LiveSelector.Toml
