import ArchiveDesk.Url.Host

/-!
# Reading URLs

A text is read as a URL of its own, or as a reference relative to another URL.
The parts that end at a question mark or number sign are cut off first; what is
left is a path, or an authority and a path.
-/

namespace ArchiveDesk.Url

/-! ## Cutting a text -/

/-- The text as it is read: without controls and spaces at its ends, and without
tabs and line breaks anywhere. -/
def cleaned (cs : List Char) : List Char :=
  let isOuter (c : Char) : Bool := c.toNat ≤ 0x20
  let inner := ((cs.dropWhile isOuter).reverse.dropWhile isOuter).reverse
  inner.filter fun c => !(c == '\t' || c == '\n' || c == '\r')

/-- The scheme in lower case and the rest, if a scheme leads. -/
def cutScheme? (cs : List Char) : Option (List Char × List Char) :=
  let isSchemeChar (c : Char) : Bool := c.isAlphanum || c == '+' || c == '-' || c == '.'
  let scheme := cs.takeWhile isSchemeChar
  match scheme.head?, cs.drop scheme.length with
  | some first, ':' :: rest =>
    if first.isAlpha then some (scheme.map Char.toLower, rest) else none
  | _, _ => none

/-- A reference without its scheme, cut at its signs. -/
structure Cut where
  /-- What stands before the query and the fragment. -/
  main : List Char
  query : Option (List Char)
  fragment : Option (List Char)

/-- The text before the first sign, and the text after it. -/
def cutAt (sign : Char) (cs : List Char) : List Char × Option (List Char) :=
  match cs.dropWhile (· != sign) with
  | [] => (cs, none)
  | _ :: rest => (cs.takeWhile (· != sign), some rest)

/-- Cuts a reference. -/
def Cut.of (cs : List Char) : Cut :=
  let (front, fragment) := cutAt '#' cs
  let (main, query) := cutAt '?' front
  ⟨main, query, fragment⟩

/-- Whether something follows the main part. -/
def Cut.continues (c : Cut) : Bool := c.query.isSome || c.fragment.isSome

/-- The query as it is kept. -/
def Cut.keptQuery (c : Cut) (k : SchemeClass) : Option (List Char) :=
  c.query.map (encode (if k.isSpecial then EncodeSet.specialQuery else EncodeSet.query))

/-- The fragment as it is kept. -/
def Cut.keptFragment (c : Cut) : Option (List Char) := c.fragment.map (encode EncodeSet.fragment)

/-! ## Paths -/

/-- Whether a segment stands for its own place: a dot, or an encoded one. -/
def isDot (segment : List Char) : Bool :=
  segment == ['.'] || segment.map Char.toLower == ['%', '2', 'e']

/-- Whether a segment goes up: two dots, plain or encoded. -/
def isDoubleDot (segment : List Char) : Bool :=
  let s := segment.map Char.toLower
  s == ['.', '.'] || s == ['.', '%', '2', 'e'] || s == ['%', '2', 'e', '.'] ||
    s == ['%', '2', 'e', '%', '2', 'e']

/-- Whether a text is a letter and a colon or bar, which name a drive. -/
def isDrive : List Char → Bool
  | [letter, mark] => letter.isAlpha && (mark == ':' || mark == '|')
  | _ => false

/-- Whether a text is a letter and a colon. -/
def isPlainDrive (segment : List Char) : Bool :=
  isDrive segment && segment.getLast? == some ':'

/-- A path without its last segment. A drive is not left. -/
def goUp (path : List (List Char)) : List (List Char) :=
  match path.getLast? with
  | some last => if isDrive last then path else path.dropLast
  | none => path

/-- A segment as it is kept. The drive that leads the path of a file has a colon. -/
def keptSegment (k : SchemeClass) (path : List (List Char)) (segment : List Char) : List Char :=
  match k, path, segment with
  | .file, [], [letter, _] => if isDrive segment then [letter, ':'] else encode .path segment
  | _, _, _ => encode .path segment

/-- Follows the segments of a reference from a path. The last segment always
leaves a segment behind, which is empty if it was made of dots. -/
def follow (k : SchemeClass) (path : List (List Char)) :
    List (List Char) → List (List Char)
  | [] => path
  | [last] =>
    if isDoubleDot last then goUp path ++ [[]]
    else if isDot last then path ++ [[]]
    else path ++ [keptSegment k path last]
  | segment :: rest =>
    if isDoubleDot segment then follow k (goUp path) rest
    else if isDot segment then follow k path rest
    else follow k (path ++ [keptSegment k path segment]) rest

/-- The path of a file begins with a segment that is not empty, unless it has only
the one. -/
def withoutEmptyFront : List (List Char) → List (List Char)
  | [] => [[]]
  | [segment] => [segment]
  | [] :: rest => withoutEmptyFront rest
  | path => path

/-- Follows a relative path from a path. -/
def followText (k : SchemeClass) (path : List (List Char)) (cs : List Char) :
    List (List Char) :=
  let path := follow k path (Text.pieces k.isSlash cs)
  if k = .file then withoutEmptyFront path else path

/-- The path that follows an authority. -/
def pathAfterAuthority (k : SchemeClass) (cs : List Char) : List (List Char) :=
  match cs with
  | [] => if k.isSpecial then [[]] else []
  | c :: rest => if k.isSlash c then followText k [] rest else followText k [] cs

/-! ## Authorities -/

/-- A user name, a password, a host and a port. -/
structure Authority where
  username : List Char
  password : List Char
  host : Host
  port : Option Nat

/-- The part of an authority before the colon that precedes a port. Colons in
brackets belong to the host. -/
def hostPart (inBrackets : Bool) : List Char → List Char
  | [] => []
  | c :: cs =>
    if c == ':' && !inBrackets then []
    else c :: hostPart (if c == '[' then true else if c == ']' then false else inBrackets) cs

/-- Reads a port: a number below 2^16. The default port is not kept, nor is an
empty one. A backslash ends the port and begins the path. -/
def readPort (k : SchemeClass) (cs : List Char) :
    Except UrlFault (Option Nat × List Char) :=
  let digits := cs.takeWhile Char.isDigit
  let rest := cs.drop digits.length
  let value := digits.foldl (fun n c => 10 * n + (c.toNat - '0'.toNat)) 0
  if 65535 < value ∨ (rest.head?.any (· != '\\')) then .error .badPort
  else if digits.isEmpty ∨ k = .network value then .ok (none, rest)
  else .ok (some value, rest)

/-- Reads the host and the port of an authority. What is left over begins the
path. -/
def readHostAndPort (k : SchemeClass) (cs : List Char) :
    Except UrlFault (Host × Option Nat × List Char) := do
  let hostText := hostPart false cs
  let rest := cs.drop hostText.length
  if k.isSpecial && hostText.isEmpty then throw .emptyHost
  let host ← if k.isSpecial then Host.parseDomain hostText else Host.parseName hostText
  match rest with
  | [] => return (host, none, [])
  | _ :: portText =>
    if host = .empty then throw .emptyHost
    let (port, rest) ← readPort k portText
    return (host, port, rest)

/-- Reads an authority. The user name and password end at the last at sign; nothing
may go on after an at sign that has nothing around it. What is left over begins the
path. -/
def Authority.read (k : SchemeClass) (cs : List Char) (goesOn : Bool) :
    Except UrlFault (Authority × List Char) := do
  let hostText := (cs.reverse.takeWhile (· != '@')).reverse
  let userinfo := cs.take (cs.length - hostText.length - 1)
  let isBare := cs.length = hostText.length + 1
  if isBare && hostText.isEmpty && goesOn then throw .emptyHost
  let (username, password) := cutAt ':' userinfo
  let username := encode .userinfo username
  let password := encode .userinfo (password.getD [])
  let (host, port, rest) ← readHostAndPort k hostText
  if host = .empty && !(username.isEmpty && password.isEmpty) then throw .emptyHost
  return ({ username, password, host, port }, rest)

/-- Reads an authority and the path after it. -/
def readAuthority (scheme : List Char) (cut : Cut) : Except UrlFault Url := do
  let k := SchemeClass.of scheme
  let authorityText := cut.main.takeWhile (!k.isSlash ·)
  let pathText := cut.main.drop authorityText.length
  let (authority, rest) ←
    Authority.read k authorityText (!pathText.isEmpty || cut.continues)
  return {
    scheme
    username := authority.username
    password := authority.password
    host := some authority.host
    port := authority.port
    path := .segments (pathAfterAuthority k (rest ++ pathText))
    query := cut.keptQuery k
    fragment := cut.keptFragment }

/-! ## References -/

/-- The URL with the query and fragment of a reference to the same path. -/
def withTail (u : Url) (cut : Cut) : Url :=
  { u with
    query := cut.keptQuery u.schemeClass <|> u.query
    fragment := cut.keptFragment }

/-- The URL with another path, and the query and fragment of a reference. -/
def withPath (u : Url) (path : List (List Char)) (cut : Cut) : Url :=
  { u with
    path := .segments path
    query := cut.keptQuery u.schemeClass
    fragment := cut.keptFragment }

/-- The segments of a path. -/
def pathSegments (u : Url) : List (List Char) :=
  match u.path with
  | .flat _ => []
  | .segments list => list

/-- The path without its last segment, unless that is the drive of a file. -/
def parentSegments (u : Url) : List (List Char) :=
  match u.pathSegments.getLast? with
  | some last =>
    if u.schemeClass = .file && isPlainDrive last then u.pathSegments else u.pathSegments.dropLast
  | none => []

/-- Whether a character begins a reference to an absolute path, which a backslash
does for every scheme. -/
def isAnySlash (c : Char) : Bool := c == '/' || c == '\\'

/-- Reads a reference that is relative to a URL with a hierarchy, other than a
file. -/
def readRelative (base : Url) (cut : Cut) : Except UrlFault Url :=
  let k := base.schemeClass
  match cut.main with
  | [] => .ok (base.withTail cut)
  | '/' :: '/' :: rest => readAuthority base.scheme { cut with main := rest }
  | c :: rest =>
    if isAnySlash c then
      if rest.head?.any isAnySlash then
        readAuthority base.scheme { cut with main := rest.dropWhile isAnySlash }
      else .ok (base.withPath (followText k [] rest) cut)
    else .ok (base.withPath (followText k base.parentSegments cut.main) cut)

/-- The URL of a file. -/
def fileUrl (host : Host) (path : List (List Char)) (cut : Cut) : Url where
  scheme := "file".toList
  username := []
  password := []
  host := some host
  port := none
  path := .segments path
  query := cut.keptQuery .file
  fragment := cut.keptFragment

/-- Whether a text begins with a drive as a segment of its own. -/
def startsWithDrive (cs : List Char) : Bool := isDrive (cs.takeWhile (!isAnySlash ·))

/-- Reads the host and path of a file. The host `localhost` is the empty one, and a
drive in front of the path leaves no host. -/
def readFileHost (cut : Cut) : Except UrlFault Url := do
  let hostText := cut.main.takeWhile (!isAnySlash ·)
  if isDrive hostText then return fileUrl .empty (followText .file [] cut.main) cut
  let rest := cut.main.drop (hostText.length + 1)
  let path := followText .file [] rest
  if hostText.isEmpty then return fileUrl .empty path cut
  let host ← Host.parseDomain hostText
  if host = .name "localhost".toList || startsWithDrive rest then return fileUrl .empty path cut
  return fileUrl host path cut

/-- Reads a reference to a file, relative to another one if there is one. -/
def readFile (base : Option Url) (cut : Cut) : Except UrlFault Url :=
  match cut.main with
  | [] =>
    match base with
    | some base => .ok (base.withTail cut)
    | none => .ok (fileUrl .empty [[]] cut)
  | c :: rest =>
    if isAnySlash c then
      match rest with
      | d :: rest' =>
        if isAnySlash d then readFileHost { cut with main := rest' }
        else .ok (absolute rest)
      | [] => .ok (absolute rest)
    else
      match base with
      | some base =>
        if startsWithDrive cut.main then .ok (fileUrl .empty (followText .file [] cut.main) cut)
        else .ok (base.withPath (followText .file base.parentSegments cut.main) cut)
      | none => .ok (fileUrl .empty (followText .file [] cut.main) cut)
where
  /-- A path from the root: on the drive of the other file, or else on its host. -/
  absolute (rest : List Char) : Url :=
    if startsWithDrive rest then fileUrl .empty (followText .file [] rest) cut
    else
      match (base.map pathSegments).getD [] with
      | first :: _ =>
        if isPlainDrive first then fileUrl .empty (followText .file [first] rest) cut
        else fileUrl ((base.bind (·.host)).getD .empty) (followText .file [] rest) cut
      | [] => fileUrl .empty (followText .file [] rest) cut

/-- Reads what follows the scheme of a URL that is not special. -/
def readOther (scheme : List Char) (cut : Cut) : Except UrlFault Url :=
  let plain (path : Path) : Url :=
    { scheme, username := [], password := [], host := none, port := none, path
      query := cut.keptQuery .other, fragment := cut.keptFragment }
  match cut.main with
  | '/' :: '/' :: rest => readAuthority scheme { cut with main := rest }
  | '/' :: rest => .ok (plain (.segments (followText .other [] rest)))
  | main => .ok (plain (.flat (encode .control main)))

/-- Reads what follows a scheme. -/
def readAfterScheme (base : Option Url) (scheme rest : List Char) : Except UrlFault Url :=
  let cut := Cut.of rest
  let sibling := base.filter (·.scheme == scheme)
  match SchemeClass.of scheme with
  | .file => readFile sibling cut
  | .network _ =>
    match sibling with
    | some base =>
      if (cut.main.takeWhile isAnySlash).length < 2 then readRelative base cut
      else readAuthority scheme { cut with main := cut.main.dropWhile isAnySlash }
    | none => readAuthority scheme { cut with main := cut.main.dropWhile isAnySlash }
  | .other => readOther scheme cut

/-- Reads a reference, relative to a URL if there is one. -/
def read (base : Option Url) (s : String) : Except UrlFault Url :=
  let cs := cleaned s.toList
  match cutScheme? cs with
  | some (scheme, rest) => readAfterScheme base scheme rest
  | none =>
    match base with
    | none => .error .noBase
    | some base =>
      let cut := Cut.of cs
      if base.isFlat then
        if cut.main.isEmpty && cut.query.isNone && cut.fragment.isSome then .ok (base.withTail cut)
        else .error .flatBase
      else if base.schemeClass = .file then readFile (some base) cut
      else readRelative base cut

/-- Reads a URL. -/
def parse (s : String) : Except UrlFault Url := read none s

/-- Reads a reference relative to the URL. -/
def join (base : Url) (s : String) : Except UrlFault Url := read (some base) s

end Url

end ArchiveDesk
