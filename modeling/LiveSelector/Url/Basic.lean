import LiveSelector.Url.Host

namespace LiveSelector

/-!
URLs and their written form.  The parts of a URL are kept as they are written, escapes included,
and an absent part differs from an empty one.
-/

namespace Url

/-- The path of a URL: segments, each written after a slash, or a text without structure. -/
inductive Path where
  | segments (parts : List (List Char))
  | plain (text : List Char)
  deriving DecidableEq

def Path.text : Path → List Char
  | .segments parts => parts.flatMap fun part => '/' :: part
  | .plain text => text

/-- How a scheme's URLs are read. -/
inductive SchemeKind where
  | file
  | special
  | other
  deriving DecidableEq

def schemeKind (scheme : String) : SchemeKind :=
  if scheme = "file" then .file
  else if scheme ∈ ["http", "https", "ws", "wss", "ftp"] then .special
  else .other

/-- The port that a scheme's URLs leave out. -/
def defaultPort? (scheme : String) : Option Nat :=
  if scheme = "http" || scheme = "ws" then some 80
  else if scheme = "https" || scheme = "wss" then some 443
  else if scheme = "ftp" then some 21
  else none

end Url

structure Url where
  scheme : String
  username : List Char
  password : List Char
  host : Option Url.Host
  port : Option Nat
  path : Url.Path
  query : Option (List Char)
  fragment : Option (List Char)
  deriving DecidableEq

namespace Url

/-- The part of a URL between its scheme and its path. -/
def authorityText (url : Url) : List Char :=
  let login :=
    if url.username = [] && url.password = [] then []
    else if url.password = [] then url.username ++ ['@']
    else url.username ++ ':' :: url.password ++ ['@']
  let host :=
    match url.host with
    | some host => host.text
    | none => []
  let port :=
    match url.port with
    | some port => ':' :: Nat.toDigits 10 port
    | none => []
  login ++ host ++ port

/-- A part that stands after a mark, if it is there. -/
def markedPart (mark : Char) : Option (List Char) → List Char
  | some text => mark :: text
  | none => []

/-- The written form of a URL.  A special URL always shows its authority. -/
def text (url : Url) : String :=
  let authority :=
    if schemeKind url.scheme = .other && url.host.isNone then
      (if (['/', '/'] : List Char).isPrefixOf url.path.text then ['/', '.'] else [])
    else '/' :: '/' :: url.authorityText
  .ofList (url.scheme.toList ++ ':' :: authority ++ url.path.text ++
    markedPart '?' url.query ++ markedPart '#' url.fragment)

/-- Whether two characters are a letter and a colon or bar. -/
def isDriveLetter : List Char → Bool
  | [letter, mark] => letter.isAlpha && (mark == ':' || mark == '|')
  | _ => false

/-- A drive letter at the end of a path's bytes has a slash put after it. -/
def endsInDriveLetter (bytes : List UInt8) : Bool :=
  match bytes.reverse with
  | mark :: letter :: _ :: _ => (Char.ofNat letter.toNat).isAlpha && (mark = 58 || mark = 124)
  | _ => false

/-- The bytes of the local path that a file URL names; a URL with a host names none. -/
def localPath? (url : Url) : Option (List UInt8) :=
  match url.host, url.path with
  | none, .segments parts =>
    let bytes := parts.flatMap fun part => 47 :: decodeEscapes (Text.encode part)
    some (if endsInDriveLetter bytes then bytes ++ [47] else bytes)
  | _, _ => none

end Url

end LiveSelector
