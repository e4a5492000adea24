import ArchiveDesk.Url.Address
import ArchiveDesk.Url.Percent

/-!
# URLs

A URL as its parts. Every part is kept as it is written, with what must not stand
in it percent-encoded; a special scheme has a default port, which is not kept.
-/

namespace ArchiveDesk

/-- Why a text is no URL. -/
inductive UrlFault where
  /-- A relative reference has nothing to refer to. -/
  | noBase
  /-- A relative reference refers to a URL without a hierarchy. -/
  | flatBase
  | emptyHost
  | badPort
  | badIpv4
  | badIpv6
  /-- The host of a special URL is no domain name. -/
  | badDomain
  /-- The host of another URL holds a character that is not allowed. -/
  | badHostCharacter
  deriving DecidableEq, Repr

/-- The fault in words. -/
def UrlFault.message : UrlFault → String
  | noBase => "relative URL without a base"
  | flatBase => "relative URL with a cannot-be-a-base base"
  | emptyHost => "empty host"
  | badPort => "invalid port number"
  | badIpv4 => "invalid IPv4 address"
  | badIpv6 => "invalid IPv6 address"
  | badDomain => "invalid international domain name"
  | badHostCharacter => "invalid domain character"

namespace Url

/-- The schemes with rules of their own. -/
inductive SchemeClass where
  /-- Files. -/
  | file
  /-- Schemes with an authority and a default port. -/
  | network (port : Nat)
  /-- All other schemes. -/
  | other
  deriving DecidableEq, Repr

namespace SchemeClass

/-- The class of a scheme in lower case. -/
def of (scheme : List Char) : SchemeClass :=
  if scheme = "file".toList then file
  else if scheme = "http".toList ∨ scheme = "ws".toList then network 80
  else if scheme = "https".toList ∨ scheme = "wss".toList then network 443
  else if scheme = "ftp".toList then network 21
  else other

/-- Files and network schemes are special. -/
def isSpecial : SchemeClass → Bool
  | other => false
  | _ => true

/-- Whether a character parts the segments of a path. -/
def isSlash (k : SchemeClass) (c : Char) : Bool := c == '/' || (k.isSpecial && c == '\\')

end SchemeClass

/-- The host of a URL. -/
inductive Host where
  /-- The host is the empty text. -/
  | empty
  /-- A domain name, or the host of a URL that is not special. -/
  | name (text : List Char)
  | ipv4 (address : Nat)
  | ipv6 (groups : List Nat)
  deriving DecidableEq, Repr

/-- The host as it is written. -/
def Host.chars : Host → List Char
  | empty => []
  | name text => text
  | ipv4 address => Ipv4.chars address
  | ipv6 groups => '[' :: Ipv6.chars groups ++ [']']

/-- The path of a URL. -/
inductive Path where
  /-- A text without a hierarchy. -/
  | flat (text : List Char)
  /-- Segments, each of them preceded by a slash. -/
  | segments (list : List (List Char))
  deriving DecidableEq, Repr

/-- The path as it is written. -/
def Path.chars : Path → List Char
  | flat text => text
  | segments list => list.flatMap ('/' :: ·)

end Url

/-- A URL. -/
structure Url where
  scheme : List Char
  username : List Char
  password : List Char
  /-- The host; `none` if the URL has no authority at all. -/
  host : Option Url.Host
  /-- The port, unless it is the default one. -/
  port : Option Nat
  path : Url.Path
  query : Option (List Char)
  fragment : Option (List Char)
  deriving DecidableEq, Repr

namespace Url

/-- The class of the URL's scheme. -/
def schemeClass (u : Url) : SchemeClass := SchemeClass.of u.scheme

/-- Whether the path has no hierarchy, so that relative references cannot refer to
the URL. -/
def isFlat (u : Url) : Bool :=
  match u.path with
  | .flat _ => true
  | .segments _ => false

/-- The user name and password before the host, with their signs. -/
def userinfoText (u : Url) : List Char :=
  if u.username.isEmpty && u.password.isEmpty then []
  else u.username ++ (if u.password.isEmpty then [] else ':' :: u.password) ++ ['@']

/-- What stands between the scheme and the path. Without an authority, a path that
begins with two slashes is set off by a dot. -/
def authorityText (u : Url) : List Char :=
  match u.host with
  | some host =>
    ['/', '/'] ++ u.userinfoText ++ host.chars ++
      (match u.port with
        | some port => ':' :: (toString port).toList
        | none => [])
  | none =>
    match u.path with
    | .segments ([] :: _ :: _) => ['/', '.']
    | _ => []

/-- The URL as it is written, character by character. -/
def chars (u : Url) : List Char :=
  u.scheme ++ [':'] ++ u.authorityText ++ u.path.chars ++
    ((u.query.map ('?' :: ·)).getD []) ++ ((u.fragment.map ('#' :: ·)).getD [])

/-- The URL as it is written. -/
def text (u : Url) : String := String.ofList u.chars

/-- The URL with a path that ends in a slash. -/
def asDirectory (u : Url) : Url :=
  match u.path with
  | .flat _ => u
  | .segments list =>
    if list.getLast? = some [] then u else { u with path := .segments (list ++ [[]]) }

end Url

end ArchiveDesk
