import LiveSelector.Url.Basic

namespace LiveSelector.Url

/-!
Reading URLs.  Control characters and spaces around a URL are ignored, and so are gaps in it, tabs
and line breaks, except that a gap may set off the drive letter of a file.  The reader takes the
parts from left to right, each as the text up to the next separator; a backslash separates like a
slash in URLs of special schemes and of files.
-/

/-- A text without control characters and spaces at either end. -/
def trimControls (text : List Char) : List Char :=
  ((text.dropWhile (·.toNat ≤ 0x20)).reverse.dropWhile (·.toNat ≤ 0x20)).reverse

def isGap (c : Char) : Bool :=
  c ∈ ['\t', '\n', '\r']

def withoutGaps (text : List Char) : List Char :=
  text.filter fun c => !isGap c

def isSchemeChar (c : Char) : Bool :=
  c.isAlphanum || c ∈ ['+', '-', '.']

def scheme? (text : List Char) : Option (String × List Char) :=
  match text with
  | first :: _ =>
    if first.isAlpha then
      match text.dropWhile isSchemeChar with
      | ':' :: rest => some (.ofList ((text.takeWhile isSchemeChar).map Char.toLower), rest)
      | _ => none
    else none
  | [] => none

/-- Whether a character separates the parts of a path. -/
def isSlash (kind : SchemeKind) (c : Char) : Bool :=
  c == '/' || (kind != .other && c == '\\')

def endsAuthority (kind : SchemeKind) (c : Char) : Bool :=
  isSlash kind c || c == '?' || c == '#'

/-- The longest start of a text without an end of its authority, and the rest. -/
def splitAuthority (kind : SchemeKind) (text : List Char) : List Char × List Char :=
  text.span fun c => !endsAuthority kind c

/-- A text cut at its last at sign. -/
def cutLogin? (authority : List Char) : Option (List Char × List Char) :=
  match authority.reverse.span (· ≠ '@') with
  | (_, []) => none
  | (after, _ :: before) => some (before.reverse, after.reverse)

/-- User name and password, cut at the first colon and escaped. -/
def loginParts (login : List Char) : List Char × List Char :=
  let (name, rest) := login.span (· ≠ ':')
  (encodeReserved reservedInUserinfo name, encodeReserved reservedInUserinfo rest.tail)

/-- The host part of an authority and what follows: a host ends at a colon outside brackets. -/
def splitHost (bracketed : Bool) : List Char → List Char × List Char
  | [] => ([], [])
  | c :: rest =>
    if c == ':' && !bracketed then ([], c :: rest)
    else
      let inside := if c == '[' then true else if c == ']' then false else bracketed
      let (host, after) := splitHost inside rest
      (c :: host, after)

/-- Ports have sixteen bits. -/
def portLimit : Nat := 65536

/-- The port that digits spell; no digits stand for no port. -/
def port? (scheme : String) (digits : List Char) : Option (Option Nat) :=
  if digits = [] then some none
  else
    match numberIn? 10 digits with
    | some port =>
      if port < portLimit then some (if defaultPort? scheme = some port then none else some port)
      else none
    | none => none

/-- Login, host and port of a URL. -/
structure Authority where
  username : List Char
  password : List Char
  host : Option Host
  port : Option Nat

def host? (kind : SchemeKind) (text : List Char) : Option (Option Host) :=
  match kind with
  | .other =>
    match plainHost? text with
    | some (.domain []) => some none
    | some host => some (some host)
    | none => none
  | _ => (specialHost? text).map some

/-- An authority that begins after two slashes and the rest of the text.  A login without a
host is refused, and so is a port without one.  The digits of a port also end at a backslash. -/
def authority? (scheme : String) (text : List Char) : Option (Authority × List Char) := do
  let kind := schemeKind scheme
  let (whole, rest) := splitAuthority kind text
  let (login, place) ←
    match cutLogin? whole with
    | none => some ([], whole)
    | some ([], place) => if place = [] && rest ≠ [] then none else some ([], place)
    | some (login, place) => some (login, place)
  let (username, password) := loginParts login
  let (hostText, after) := splitHost false place
  let host ← host? kind hostText
  if host.isNone && (!after.isEmpty || !username.isEmpty || !password.isEmpty) then none
  let (digits, behind) := after.tail.span (· ≠ '\\')
  let port ← port? scheme digits
  some (⟨username, password, host, port⟩, behind ++ rest)

/-- Segments between slashes; there is at least one. -/
def rawSegments (kind : SchemeKind) : List Char → List (List Char)
  | [] => [[]]
  | c :: rest =>
    if isSlash kind c then [] :: rawSegments kind rest
    else
      match rawSegments kind rest with
      | [] => [[c]]
      | first :: others => (c :: first) :: others

/-- A segment that stays where it is, dots written as escapes included. -/
def isSingleDot (segment : List Char) : Bool :=
  let lowered := segment.map Char.toLower
  lowered = ['.'] || lowered = ['%', '2', 'e']

/-- A segment that goes one up, dots written as escapes included. -/
def isDoubleDot (segment : List Char) : Bool :=
  let lowered := segment.map Char.toLower
  lowered = ['.', '.'] || lowered = ['.', '%', '2', 'e'] || lowered = ['%', '2', 'e', '.'] ||
    lowered = ['%', '2', 'e', '%', '2', 'e']

/-- Segments without the last one; a drive letter is never left. -/
def goUp (before : List (List Char)) : List (List Char) :=
  match before.getLast? with
  | some last => if isDriveLetter last then before else before.dropLast
  | none => []

/-- A drive letter with a colon that a gap sets off from the rest of its segment. -/
def splitDrive? (segment : List Char) : Option (List Char × List Char) :=
  match segment.dropWhile isGap with
  | letter :: rest =>
    match rest.dropWhile isGap with
    | ':' :: gap :: more =>
      if letter.isAlpha && isGap gap then some ([letter, ':'], withoutGaps more) else none
    | _ => none
  | [] => none

/-- The segments of a path after those before, and whether a drive letter came first.  In a file
URL a first drive letter is a segment of its own, written with a colon.  What a gap sets off from
it is an ordinary segment, dots included. -/
def pathFrom (file : Bool) (before : List (List Char)) : List (List Char) → List (List Char) × Bool
  | [] => (before, false)
  | raw :: rest =>
    let segment := encodeReserved reservedInPath (withoutGaps raw)
    if isDoubleDot segment then
      if rest.isEmpty then (goUp before ++ [[]], false) else pathFrom file (goUp before) rest
    else if isSingleDot segment then
      if rest.isEmpty then (before ++ [[]], false) else pathFrom file before rest
    else if file && before.isEmpty && isDriveLetter segment then
      let drive := segment.take 1 ++ [':']
      if rest.isEmpty then ([drive], true) else ((pathFrom file [drive] rest).1, true)
    else if file && before.isEmpty then
      match splitDrive? raw with
      | some (drive, behind) =>
        let more := encodeReserved reservedInPath behind
        if rest.isEmpty then ([drive, more], false) else pathFrom file [drive, more] rest
      | none => if rest.isEmpty then ([segment], false) else pathFrom file [segment] rest
    else if rest.isEmpty then (before ++ [segment], false)
    else pathFrom file (before ++ [segment]) rest

/-- A file path has no empty segments in front. -/
def dropEmptyFront : List (List Char) → List (List Char)
  | [] :: next :: rest => dropEmptyFront (next :: rest)
  | segments => segments

/-- The path, the query and the fragment in the rest of a URL, each still to be escaped. -/
def splitRest (text : List Char) : List Char × Option (List Char) × Option (List Char) :=
  let (front, fragment) := text.span (· ≠ '#')
  let (path, query) := front.span (· ≠ '?')
  (path, if query.isEmpty then none else some query.tail,
    if fragment.isEmpty then none else some fragment.tail)

/-- The query as written in a URL of a kind. -/
def queryText (kind : SchemeKind) (query : List Char) : List Char :=
  encodeReserved (if kind = .other then reservedInQuery else reservedInSpecialQuery) query

/-- A URL from its authority and its read path, query and fragment being taken from the rest. -/
def assemble (scheme : String) (authority : Authority) (path : Path)
    (query fragment : Option (List Char)) : Url :=
  { scheme
    username := authority.username
    password := authority.password
    host := authority.host
    port := authority.port
    path
    query := query.map (queryText (schemeKind scheme))
    fragment := fragment.map (encodeReserved reservedInFragment) }

/-- No login, host or port. -/
def noAuthority : Authority := ⟨[], [], none, none⟩

/-- A text without the slash at its start. -/
def dropSlash (kind : SchemeKind) (text : List Char) : List Char :=
  if (text.head?.map (isSlash kind)).getD false then text.tail else text

/-- A special URL, its text after the scheme.  Any number of slashes may stand before the
authority. -/
def special? (scheme : String) (text : List Char) : Option Url := do
  let (authority, rest) ← authority? scheme (text.dropWhile (isSlash .special))
  let (path, query, fragment) := splitRest rest
  let (segments, _) := pathFrom false [] (rawSegments .special (dropSlash .special path))
  some (assemble scheme authority (.segments segments) query fragment)

/-- The host of a file URL, its own machine being none. -/
def fileHost? (text : List Char) : Option (Option Host) :=
  if text = [] then some none
  else
    match specialHost? text with
    | some (.domain name) =>
      if name = "localhost".toList then some none else some (some (.domain name))
    | some host => some (some host)
    | none => none

/-- The file URL with a host, its path, query and fragment being taken from the rest.  A drive
letter takes the place of the host. -/
def fileUrl (host : Option Host) (rest : List Char) : Url :=
  let (path, query, fragment) := splitRest rest
  let (segments, drive) := pathFrom true [] (rawSegments .file path)
  assemble "file" { noAuthority with host := if drive then none else host }
    (.segments (dropEmptyFront segments)) (query.map withoutGaps) (fragment.map withoutGaps)

/-- A file URL whose text after two slashes is given.  A drive letter is no host. -/
def fileWithHost? (text : List Char) : Option Url :=
  let (front, rest) := splitAuthority .file text
  let name := withoutGaps front
  if isDriveLetter name then some (fileUrl none text)
  else
    match fileHost? name with
    | none => none
    | some none => some (fileUrl none rest)
    | some host => some (fileUrl host (dropSlash .file rest))

/-- A file URL, its text after the scheme, gaps included. -/
def file? (text : List Char) : Option Url :=
  match text.dropWhile isGap with
  | first :: rest =>
    if isSlash .file first then
      match rest.dropWhile isGap with
      | second :: after =>
        if isSlash .file second then fileWithHost? after else some (fileUrl none rest)
      | [] => some (fileUrl none [])
    else some (fileUrl none text)
  | [] => some (fileUrl none [])

/-- A URL of any other scheme, its text after the scheme. -/
def other? (scheme : String) (text : List Char) : Option Url :=
  match text with
  | '/' :: '/' :: rest => do
    let (authority, after) ← authority? scheme rest
    let (path, query, fragment) := splitRest after
    let segments :=
      match path with
      | [] => []
      | '/' :: inner => (pathFrom false [] (rawSegments .other inner)).1
      | inner => (pathFrom false [] (rawSegments .other inner)).1
    some (assemble scheme authority (.segments segments) query fragment)
  | '/' :: rest =>
    let (path, query, fragment) := splitRest rest
    some (assemble scheme noAuthority
      (.segments (pathFrom false [] (rawSegments .other path)).1) query fragment)
  | _ =>
    let (path, query, fragment) := splitRest text
    some (assemble scheme noAuthority (.plain (encodeReserved isControl path)) query fragment)

/-- The URL that a text spells, if it spells one. -/
def parse? (text : String) : Option Url :=
  let inner := trimControls text.toList
  match scheme? (withoutGaps inner) with
  | none => none
  | some (scheme, rest) =>
    match schemeKind scheme with
    | .file => file? ((inner.dropWhile (· ≠ ':')).drop 1)
    | .special => special? scheme rest
    | .other => other? scheme rest

end LiveSelector.Url
