import LiveSelector.Url.Domain
import LiveSelector.Url.Percent

namespace LiveSelector.Url

/-!
Hosts.  The host of a special URL is an address or a domain name, written in ASCII; any name whose
last label is a number is an IPv4 address or no host at all.  The host of another URL is an IPv6
address or any text without separators.
-/

inductive Host where
  | domain (name : List Char)
  | ipv4 (address : Nat)
  | ipv6 (groups : List Nat)
  deriving DecidableEq

/-- The digit's value in a base up to sixteen. -/
def digitIn? (base : Nat) (c : Char) : Option Nat :=
  match hexValue? c.toNat with
  | some value => if value < base then some value else none
  | none => none

def numberIn? (base : Nat) (digits : List Char) : Option Nat :=
  digits.foldl (fun total c =>
    match total, digitIn? base c with
    | some total, some digit => some (total * base + digit)
    | _, _ => none) (some 0)

/-- The number that a label of an IPv4 address spells: hexadecimal after `0x`, octal after any
other leading zero, decimal otherwise. -/
def ipv4Number? (label : List Char) : Option Nat :=
  match label with
  | [] => none
  | ['0'] => some 0
  | '0' :: 'x' :: digits | '0' :: 'X' :: digits => numberIn? 16 digits
  | '0' :: digits => numberIn? 8 digits
  | digits => numberIn? 10 digits

/-- Labels of a name, a dot at the end aside. -/
def labels (name : List Char) : List (List Char) :=
  match (Text.pieces '.' name).reverse with
  | [] :: last :: before => (last :: before).reverse
  | all => all.reverse

/-- Whether the last label of a name is a number. -/
def endsInNumber (name : List Char) : Bool :=
  match (labels name).getLast? with
  | some last => (!last.isEmpty && last.all Char.isDigit) || (ipv4Number? last).isSome
  | none => false

/-- The address that the numbers of an IPv4 address give: the last number fills the bytes that
the others leave. -/
def ipv4OfNumbers? (numbers : List Nat) : Option Nat :=
  match numbers.reverse with
  | [] => none
  | last :: before =>
    if last < Nat.pow 256 (4 - before.length) && before.all (· < 256) then
      some (before.reverse.zipIdx.foldl (fun total (n, i) => total + n * Nat.pow 256 (3 - i)) last)
    else none

def ipv4? (name : List Char) : Option Nat :=
  let parts := labels name
  if parts.length > 4 then none
  else
    match parts.mapM ipv4Number? with
    | some numbers => ipv4OfNumbers? numbers
    | none => none

/-- The four decimal numbers at the end of an IPv6 address, as two groups.  `seen` numbers come
before and `part` is the one being read. -/
def dottedGroups? (numbers : List Nat) (part : Option Nat) : List Char → Option (List Nat)
  | [] =>
    match part, numbers with
    | some d, [c, b, a] => some [a * 256 + b, c * 256 + d]
    | _, _ => none
  | '.' :: rest =>
    match part with
    | some value => if numbers.length < 3 then dottedGroups? (value :: numbers) none rest else none
    | none => none
  | c :: rest =>
    match digitIn? 10 c, part with
    | some digit, none => dottedGroups? numbers (some digit) rest
    | some _, some 0 => none
    | some digit, some value =>
      if value * 10 + digit ≤ 255 then dottedGroups? numbers (some (value * 10 + digit)) rest
      else none
    | none, _ => none

/-- Up to four hexadecimal digits and what follows them. -/
def hexGroup : Nat → List Char → List Char × List Char
  | 0, text => ([], text)
  | _ + 1, [] => ([], [])
  | count + 1, c :: rest =>
    if (digitIn? 16 c).isSome then
      let (digits, after) := hexGroup count rest
      (c :: digits, after)
    else ([], c :: rest)

/-- The groups of an IPv6 address and the number of groups before its gap, read from a text of
at most `fuel` characters with the groups before it known. -/
def groupsFrom? : Nat → List Nat → Option Nat → List Char → Option (List Nat × Option Nat)
  | _, groups, gap, [] => some (groups, gap)
  | 0, _, _, _ => none
  | fuel + 1, groups, gap, text =>
    if groups.length = 8 then none
    else
      match text with
      | ':' :: rest =>
        if gap.isSome then none
        else groupsFrom? fuel (groups ++ [0]) (some (groups.length + 1)) rest
      | _ =>
        let (digits, after) := hexGroup 4 text
        let value := (numberIn? 16 digits).getD 0
        match after with
        | [] => some (groups ++ [value], gap)
        | '.' :: _ =>
          if digits.isEmpty || groups.length > 6 then none
          else
            match dottedGroups? [] none text with
            | some pair => some (groups ++ pair, gap)
            | none => none
        | ':' :: rest =>
          if rest.isEmpty then none else groupsFrom? fuel (groups ++ [value]) gap rest
        | _ => none

/-- The eight groups of an IPv6 address; a gap stands for as many zeros as are missing. -/
def ipv6? (text : List Char) : Option (List Nat) :=
  let read :=
    match text with
    | ':' :: ':' :: rest => groupsFrom? text.length [0] (some 1) rest
    | ':' :: _ => none
    | [] | [_] => none
    | _ => groupsFrom? text.length [] none text
  match read with
  | some (groups, some gap) =>
    if groups.length ≤ 8 then
      some (groups.take gap ++ List.replicate (8 - groups.length) 0 ++ groups.drop gap)
    else none
  | some (groups, none) => if groups.length = 8 then some groups else none
  | none => none

/-- Characters that no domain name holds. -/
def forbiddenInDomain (c : Char) : Bool :=
  c.toNat ≤ 0x20 || c.toNat == 0x7F ||
    c ∈ ['%', '#', '/', ':', '<', '>', '?', '@', '[', '\\', ']', '^', '|']

/-- The domain name that a text spells, written in ASCII, if its labels are fit for names. -/
def domain? (text : List Char) : Option (List Char) :=
  match (Text.decode? (decodeEscapes (Text.encode text))).bind (nameLabels? ·.toList) with
  | none => none
  | some labels =>
    let name := Text.joinPieces '.' (labels.map writtenLabel)
    if name.isEmpty || name.any forbiddenInDomain || !labelsFit labels then none else some name

/-- The text between square brackets, if the text stands in them. -/
def bracketed? (text : List Char) : Option (List Char) :=
  if text.getLast? = some ']' then some text.tail.dropLast else none

def specialHost? (text : List Char) : Option Host :=
  match text with
  | '[' :: _ => (bracketed? text).bind ipv6? |>.map .ipv6
  | _ =>
    match domain? text with
    | none => none
    | some name => if endsInNumber name then (ipv4? name).map .ipv4 else some (.domain name)

/-- Characters that no host holds. -/
def forbiddenInHost (c : Char) : Bool :=
  c ∈ ['\x00', '\t', '\n', '\r', ' ', '#', '/', ':', '<', '>', '?', '@', '[', '\\', ']', '^', '|']

/-- The host of a URL of any other scheme. -/
def plainHost? (text : List Char) : Option Host :=
  match text with
  | '[' :: _ => (bracketed? text).bind ipv6? |>.map .ipv6
  | _ =>
    if text.any forbiddenInHost then none else some (.domain (encodeReserved isControl text))

/-- The first longest run of at least two zero groups: where it starts and how long it is. -/
def longestGap (groups : List Nat) : Option (Nat × Nat) :=
  let runs := (List.range groups.length).map fun start =>
    (start, ((groups.drop start).takeWhile (· = 0)).length)
  runs.foldl (fun best run =>
    match best with
    | some (_, length) => if run.2 > length then some run else best
    | none => if run.2 ≥ 2 then some run else none) none

/-- Groups in hexadecimal with colons between them. -/
def groupsText (groups : List Nat) : List Char :=
  Text.joinPieces ':' (groups.map (Nat.toDigits 16))

def Host.text : Host → List Char
  | .domain name => name
  | .ipv4 address =>
    Text.joinPieces '.' ([3, 2, 1, 0].map fun i => Nat.toDigits 10 (address / Nat.pow 256 i % 256))
  | .ipv6 groups =>
    let inner :=
      match longestGap groups with
      | some (start, length) =>
        groupsText (groups.take start) ++ [':', ':'] ++ groupsText (groups.drop (start + length))
      | none => groupsText groups
    '[' :: inner ++ [']']

end LiveSelector.Url
