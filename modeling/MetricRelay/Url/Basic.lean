import MetricRelay.Text.Blank

namespace MetricRelay

inductive Host
  | domain (name : String)
  | ipv4 (address : Nat)
  -- eight pieces of sixteen bits
  | ipv6 (pieces : List Nat)
deriving DecidableEq, Repr

namespace Url

inductive Path
  -- of a URL that nothing can be resolved against
  | whole (text : String)
  | segments (l : List String)
deriving DecidableEq, Repr

-- Why a text is no URL.
inductive Fault
  | emptyHost
  | invalidPort
  | invalidIpv4
  | invalidIpv6
  | invalidDomain
  | withoutBase
  -- relative to a URL that nothing can be resolved against
  | rigidBase
deriving DecidableEq, Repr

def Fault.message : Fault → String
  | .emptyHost => "empty host"
  | .invalidPort => "invalid port number"
  | .invalidIpv4 => "invalid IPv4 address"
  | .invalidIpv6 => "invalid IPv6 address"
  | .invalidDomain => "invalid domain character"
  | .withoutBase => "relative URL without a base"
  | .rigidBase => "relative URL with a cannot-be-a-base base"

end Url

structure Url where
  scheme : String
  username : String
  password : String
  host : Option Host
  -- unless it is the usual one of the scheme
  port : Option Nat
  path : Url.Path
  query : Option String
  fragment : Option String
deriving DecidableEq, Repr

namespace Host

def ipv4Text (address : Nat) : String :=
  Text.joinWith "." ([24, 16, 8, 0].map fun shift => toString (address / Nat.pow 2 shift % 256))

def hexText (n : Nat) : String := String.ofList (Nat.toDigits 16 n)

-- Length of the run of zeros at the front.
def zeros : List Nat → Nat
  | 0 :: rest => zeros rest + 1
  | _ => 0

-- Where the first of the longest runs of at least two zeros is, and its length.
def longestZeros : Nat → List Nat → Nat × Nat
  | _, [] => (0, 1)
  | i, p :: rest =>
    let later := longestZeros (i + 1) rest
    let here := zeros (p :: rest)
    if later.2 ≤ here ∧ 1 < here then (i, here) else later

def ipv6Text (pieces : List Nat) : String :=
  let (start, n) := longestZeros 0 pieces
  if n < 2 then Text.joinWith ":" (pieces.map hexText)
  else Text.joinWith ":" ((pieces.take start).map hexText) ++ "::" ++
    Text.joinWith ":" ((pieces.drop (start + n)).map hexText)

def text : Host → String
  | .domain name => name
  | .ipv4 address => ipv4Text address
  | .ipv6 pieces => "[" ++ ipv6Text pieces ++ "]"

end Host

namespace Url

def Path.text : Path → String
  | .whole text => text
  | .segments l => l.foldl (fun s segment => s ++ "/" ++ segment) ""

def hostAndPort (u : Url) : String :=
  (u.host.elim "" Host.text) ++ (u.port.elim "" fun port => ":" ++ toString port)

def credentials (u : Url) : String :=
  if u.username = "" ∧ u.password = "" then ""
  else if u.password = "" then u.username ++ "@"
  else u.username ++ ":" ++ u.password ++ "@"

-- What a request for the URL asks a server for.
def target (u : Url) : String := u.path.text ++ u.query.elim "" ("?" ++ ·)

def text (u : Url) : String :=
  u.scheme ++ ":" ++ (if u.host.isSome then "//" ++ u.credentials ++ u.hostAndPort else "") ++
    u.target ++ u.fragment.elim "" ("#" ++ ·)

end Url

end MetricRelay
