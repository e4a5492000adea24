import ArchiveDesk.Json.Reader
import ArchiveDesk.Remote.Http
import ArchiveDesk.Settings
import ArchiveDesk.Upload.Workflow

/-!
# The archive server

The server checks, imports and deletes referentials and looks lifecycles up. It
may be reached by requests to the addresses of the settings.
-/

namespace ArchiveDesk

/-- How the archive server meets one command of the desk. -/
structure Remote where
  /-- The referential's side. -/
  service : Service
  /-- The lifecycles' side; `none` if it never answers. -/
  lookup : Lifecycle.Kind → String → Option (Except Failure Json)

namespace Remote

open Http

/-- The address that a file is sent to. -/
def address (e : FormatEndpoints) : Target → Url
  | .check => e.check
  | .commit => e.upload

/-- How the response to a file is taken: only success counts. -/
def fileReply : Delivery → Reply
  | .answered r => if r.isSuccess then .accepted else .failed r.failure
  | .broken => .failed unanswered
  | .silent => .silent

/-- How the response to a deletion is taken. The desk does not wait for it without
end. -/
def deletionReply : Delivery → Except Failure Unit
  | .answered r => if r.isSuccess then .ok () else .error r.failure
  | .broken | .silent => .error unanswered

/-- How the response to a lookup is taken: unless the status is an error, its content
is read, whatever the status. -/
def lookupReply : Delivery → Option (Except Failure Json)
  | .answered r =>
    if r.isError then some (.error r.failure)
    else match String.fromUTF8? r.body >>= Json.parse? with
      | some payload => some (.ok payload)
      | none => some (.error (.transport "the answer is no JSON text"))
  | .broken => some (.error unanswered)
  | .silent => none

/-- The server of the settings, reached over a network. -/
def ofNetwork (s : Settings) (e : FormatEndpoints) (network : Network) : Remote where
  service := {
    send item := fileReply (network (.deliver (address e item.target) item.content))
    delete := deletionReply (network (.plain .delete e.delete)) }
  lookup kind id :=
    match s.lifecycleUrl kind id with
    | .error f => some (.error f)
    | .ok url => lookupReply (network (.plain .get url))

end Remote

end ArchiveDesk
