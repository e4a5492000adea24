import ArchiveDesk.Failure
import ArchiveDesk.Lifecycle.Lookup
import ArchiveDesk.Text.Blank
import ArchiveDesk.Text.Quoted
import ArchiveDesk.Url.Parser

/-!
# Settings and endpoints

Where the server is, and the addresses below it: those of the format referential
and those of lifecycles. The addresses lie below the path of the server's own
URL, under a common stem.
-/

namespace ArchiveDesk

/-- What the desk can be told. -/
structure Settings where
  /-- The URL of the server. -/
  serverUrl : String
  /-- The stem of the addresses below the server's path. -/
  apiPrefix : String
  /-- The path of the file that chooses the lifecycle fields. -/
  lifecycleFields : Option String
  /-- The path of the file with labels. -/
  labels : Option String
  deriving DecidableEq, Repr

/-- The addresses of the format referential. -/
structure FormatEndpoints where
  check : Url
  upload : Url
  delete : Url

namespace Settings

/-- The settings where nothing is told. -/
def initial : Settings where
  serverUrl := "http://localhost:8082"
  apiPrefix := "/ihm-demo/v1/api"
  lifecycleFields := none
  labels := none

/-- The settings with those that the environment overrides. -/
def override (s : Settings) (environment : String → Option String) : Settings where
  serverUrl := (environment "CONSOLE_SERVER_URL").getD s.serverUrl
  apiPrefix := (environment "CONSOLE_API_PREFIX").getD s.apiPrefix
  lifecycleFields := environment "CONSOLE_LIFECYCLE_FIELDS" <|> s.lifecycleFields
  labels := environment "CONSOLE_TRANSLATIONS" <|> s.labels

/-- The URL of the server, which must have a hierarchy. -/
def baseUrl (s : Settings) : Except Failure Url :=
  match Url.parse s.serverUrl with
  | .error fault =>
    .error (.config ("server_url " ++ Text.quote s.serverUrl ++ ": " ++ fault.message))
  | .ok url =>
    if url.isFlat then
      .error (.config ("server_url " ++ Text.quote s.serverUrl ++ " cannot be used as a base"))
    else .ok url

/-- Whether the URL of the server can be used. -/
def validate (s : Settings) : Except Failure Unit := s.baseUrl.map fun _ => ()

/-- Whether a character is a slash. -/
def isSlash (c : Char) : Bool := c == '/'

/-- A path below the stem, relative to the server's directory. -/
def relativePath (s : Settings) (path : String) : String :=
  let stem := String.ofList (Text.stripChars isSlash s.apiPrefix.toList)
  let path := String.ofList (path.toList.dropWhile isSlash)
  if stem.isEmpty then path else stem ++ "/" ++ path

/-- The address of a path below the stem. -/
def endpoint (s : Settings) (path : String) : Except Failure Url := do
  let base ← s.baseUrl
  let path := s.relativePath path
  match base.asDirectory.join path with
  | .ok url => return url
  | .error fault => .error (.config ("endpoint " ++ Text.quote path ++ ": " ++ fault.message))

/-- The addresses of the format referential. -/
def formatEndpoints (s : Settings) : Except Failure FormatEndpoints := do
  return {
    check := ← s.endpoint "format/check"
    upload := ← s.endpoint "format/upload"
    delete := ← s.endpoint "format/delete" }

/-- The address of a lifecycle. -/
def lifecycleUrl (s : Settings) (kind : Lifecycle.Kind) (id : String) : Except Failure Url :=
  s.endpoint (kind.segment ++ "lifecycles/" ++ id)

end Settings

end ArchiveDesk
