import MetricRelay.Url.Host

namespace MetricRelay.Url

-- Blanks and controls around a URL do not count, nor do tabs and newlines inside.
def strip (cs : List Char) : List Char :=
  let outer (c : Char) : Bool := c.toNat ≤ 0x20
  let inner := ((cs.dropWhile outer).reverse.dropWhile outer).reverse
  inner.filter fun c => c != '\t' && c != '\n' && c != '\r'

-- Schemes with a host of a known form, in which a backslash is a slash.
def isSpecial (scheme : String) : Bool :=
  ["http", "https", "ws", "wss", "ftp", "file"].contains scheme

def defaultPort? (scheme : String) : Option Nat :=
  match scheme with
  | "http" | "ws" => some 80
  | "https" | "wss" => some 443
  | "ftp" => some 21
  | _ => none

def percent (b : UInt8) : List Char :=
  ['%', Char.toUpper (Nat.digitChar (b.toNat / 16)), Char.toUpper (Nat.digitChar (b.toNat % 16))]

-- Controls, everything outside ASCII, and the characters given are written byte by byte.
def encode (reserved : List Char) (cs : List Char) : String :=
  String.ofList (cs.flatMap fun c =>
    if c.toNat < 0x20 || 0x7E < c.toNat || reserved.contains c then
      (String.singleton c).toUTF8.toList.flatMap percent
    else [c])

def reservedInFragment : List Char := [' ', '"', '<', '>', Char.ofNat 0x60]

def reservedInPath : List Char := reservedInFragment ++ ['#', '?', '\x7b', '\x7d']

def reservedInUser : List Char :=
  reservedInPath ++ ['/', ':', ';', '=', '@', '[', '\\', ']', '^', '|']

def reservedInQuery (special : Bool) : List Char :=
  [' ', '"', '#', '<', '>'] ++ if special then ['\''] else []

def isSchemeChar (c : Char) : Bool := c.isAlphanum || c == '+' || c == '-' || c == '.'

def splitScheme? (cs : List Char) : Option (String × List Char) :=
  match cs with
  | [] => none
  | c :: _ =>
    if !c.isAlpha then none
    else
      match cs.dropWhile isSchemeChar with
      | ':' :: rest => some (String.ofList ((cs.takeWhile isSchemeChar).map Char.toLower), rest)
      | _ => none

def isSlash (special : Bool) (c : Char) : Bool := c == '/' || (special && c == '\\')

-- The parts of a text that ends in a query and a fragment.
def splitTail (cs : List Char) : List Char × Option (List Char) × Option (List Char) :=
  let beforeFragment := cs.takeWhile (· != '#')
  let fragment := match cs.dropWhile (· != '#') with
    | [] => none
    | _ :: rest => some rest
  let query := match beforeFragment.dropWhile (· != '?') with
    | [] => none
    | _ :: rest => some rest
  (beforeFragment.takeWhile (· != '?'), query, fragment)

def isSingleDot (piece : List Char) : Bool :=
  [".", "%2e"].contains (String.ofList (piece.map Char.toLower))

def isDoubleDot (piece : List Char) : Bool :=
  ["..", ".%2e", "%2e.", "%2e%2e"].contains (String.ofList (piece.map Char.toLower))

def splitSlashes (special : Bool) : List Char → List (List Char)
  | [] => [[]]
  | c :: rest =>
    if isSlash special c then [] :: splitSlashes special rest
    else match splitSlashes special rest with
      | [] => [[c]]
      | piece :: pieces => (c :: piece) :: pieces

-- Goes on from the segments before: one dot stays where it is, two go back.
def follow (segments : List String) : List (List Char) → List String
  | [] => segments
  | piece :: rest =>
    if isDoubleDot piece then
      let back := segments.dropLast
      if rest.isEmpty then back ++ [""] else follow back rest
    else if isSingleDot piece then
      if rest.isEmpty then segments ++ [""] else follow segments rest
    else follow (segments ++ [encode reservedInPath piece]) rest

-- Puts path, query and fragment in place; the path goes on from the segments before.
def complete (u : Url) (segments : List String) (cs : List Char) : Url :=
  let special := isSpecial u.scheme
  let (path, query, fragment) := splitTail cs
  { u with
    path := .segments (follow segments (splitSlashes special path))
    query := query.map (encode (reservedInQuery special))
    fragment := fragment.map (encode reservedInFragment) }

-- The path after a host.
def completeRoot (u : Url) (cs : List Char) : Url :=
  match cs with
  | [] => if isSpecial u.scheme then u.complete [] [] else { u with path := .segments [] }
  | c :: rest =>
    if isSlash (isSpecial u.scheme) c then u.complete [] rest
    else if isSpecial u.scheme then u.complete [] cs
    else { u.complete [] cs with path := .segments [] }

def bare (scheme : String) : Url := ⟨scheme, "", "", none, none, .segments [], none, none⟩

-- The text before the first colon that is not inside brackets.
def splitPort (inside : Bool) : List Char → List Char × Option (List Char)
  | [] => ([], none)
  | c :: rest =>
    if c = ':' ∧ inside = false then ([], some rest)
    else
      let (host, port) := splitPort (if c = '[' then true else if c = ']' then false else inside) rest
      (c :: host, port)

def readPort (scheme : String) (cs : List Char) : Except Fault (Option Nat) :=
  if !cs.all Char.isDigit then .error .invalidPort
  else
    let n := Decimal.readDigits cs
    if UInt16.size ≤ n then .error .invalidPort
    else if cs.isEmpty || defaultPort? scheme = some n then .ok none
    else .ok (some n)

-- Host and port. A special scheme needs a host, and so do credentials and a port.
def readHost (u : Url) (cs : List Char) : Except Fault Url := do
  let (host, port) := splitPort false cs
  if host.isEmpty then
    if isSpecial u.scheme || port.isSome || u.credentials ≠ "" then .error .emptyHost else .ok u
  else
    let host ← if isSpecial u.scheme then Host.read host else Host.readElsewhere host
    let port ← match port with
      | some port => readPort u.scheme port
      | none => .ok none
    return { u with host := some host, port := port }

-- The last sign separates the credentials from the host.
def splitCredentials (cs : List Char) : Option (List Char) × List Char :=
  let host := (cs.reverse.takeWhile (· != '@')).reverse
  if cs.contains '@' then (some (cs.take (cs.length - host.length - 1)), host) else (none, host)

def withCredentials (u : Url) (cs : List Char) : Url :=
  let password := match cs.dropWhile (· != ':') with
    | [] => []
    | _ :: rest => rest
  { u with username := encode reservedInUser (cs.takeWhile (· != ':'))
           password := encode reservedInUser password }

-- What follows two slashes.
def readAuthority (scheme : String) (cs : List Char) : Except Fault Url := do
  let ends (c : Char) : Bool := isSlash (isSpecial scheme) c || c == '?' || c == '#'
  let authority := cs.takeWhile fun c => !ends c
  let rest := cs.dropWhile fun c => !ends c
  let (credentials, host) := splitCredentials authority
  if credentials = some [] ∧ host = [] ∧ rest ≠ [] then .error .emptyHost
  else
    let u := match credentials with
      | some cs => (bare scheme).withCredentials cs
      | none => bare scheme
    return (← u.readHost host).completeRoot rest

-- A file has a host only after two slashes, and the machine itself is no host.
def readFile (cs : List Char) : Except Fault Url := do
  match cs with
  | a :: b :: rest =>
    if isSlash true a && isSlash true b then
      let ends (c : Char) : Bool := isSlash true c || c == '?' || c == '#'
      let name := rest.takeWhile fun c => !ends c
      let rest := rest.dropWhile fun c => !ends c
      let host ← if name.isEmpty then .ok none else (Host.read name).map some
      let host := if host = some (.domain "localhost") then none else host
      return { bare "file" with host := host }.completeRoot rest
    else return (bare "file").completeRoot cs
  | cs => return (bare "file").completeRoot cs

-- A text without a scheme, seen from `base`.
def readRelative (base : Url) (cs : List Char) : Except Fault Url :=
  let special := isSpecial base.scheme
  let before := match base.path with
    | .segments l => l
    | .whole _ => []
  let whole : Url := { base with fragment := none }
  match cs with
  | [] => .ok whole
  | '?' :: _ =>
    let (_, query, fragment) := splitTail cs
    .ok { base with query := query.map (encode (reservedInQuery special))
                    fragment := fragment.map (encode reservedInFragment) }
  | '#' :: rest => .ok { base with fragment := some (encode reservedInFragment rest) }
  | c :: rest =>
    if isSlash special c then
      match rest with
      | d :: tail =>
        if isSlash special d then
          if base.scheme = "file" then readFile cs
          else if c = '/' ∧ d = '/' then readAuthority base.scheme tail
          else readAuthority base.scheme (cs.dropWhile (isSlash special))
        else .ok (whole.complete [] rest)
      | [] => .ok (whole.complete [] rest)
    else .ok (whole.complete before.dropLast cs)

def isRigid (u : Url) : Bool :=
  match u.path with
  | .whole _ => true
  | .segments _ => false

-- A text with a scheme.
def readScheme (base : Option Url) (scheme : String) (cs : List Char) : Except Fault Url :=
  if scheme = "file" then
    match base with
    | some b => if b.scheme = "file" then readRelative b cs else readFile cs
    | none => readFile cs
  else if isSpecial scheme then
    let slashes := (cs.takeWhile (isSlash true)).length
    match base with
    | some b =>
      if slashes < 2 ∧ b.scheme = scheme then readRelative b cs
      else readAuthority scheme (cs.drop slashes)
    | none => readAuthority scheme (cs.drop slashes)
  else
    match cs with
    | '/' :: '/' :: rest => readAuthority scheme rest
    | '/' :: rest => .ok ((bare scheme).complete [] rest)
    | cs =>
      let (path, query, fragment) := splitTail cs
      .ok { bare scheme with path := .whole (encode [] path)
                             query := query.map (encode (reservedInQuery false))
                             fragment := fragment.map (encode reservedInFragment) }

def read (base : Option Url) (text : String) : Except Fault Url :=
  let cs := strip text.toList
  match splitScheme? cs, base with
  | some (scheme, rest), base => readScheme base scheme rest
  | none, none => .error .withoutBase
  | none, some b =>
    if b.isRigid && cs.head? != some '#' then .error .rigidBase else readRelative b cs

def parse (text : String) : Except Fault Url := read none text

-- What a text means where it stands at a URL.
def join (u : Url) (text : String) : Except Fault Url := read (some u) text

-- The same URL as a directory, against which names can be resolved.
def asDirectory (u : Url) : Url :=
  match u.path with
  | .whole text => if text.endsWith "/" then u else { u with path := .whole (text ++ "/") }
  | .segments l => if l.getLast? = some "" then u else { u with path := .segments (l ++ [""]) }

end MetricRelay.Url
