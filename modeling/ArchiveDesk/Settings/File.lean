import ArchiveDesk.FileEntry
import ArchiveDesk.Settings
import ArchiveDesk.Toml.Document

/-!
# The settings file

Settings are read from a TOML document, in which unknown names do not matter, and
the environment then overrides them. Settings are used only if the URL of the
server can be used.
-/

namespace ArchiveDesk.Settings

/-- The name of the settings file. -/
def fileName : String := "referential-console.toml"

/-- The text of an entry, which nothing but a text may stand for. -/
private def entry? (entries : Toml.Entries) (name : String) : Option (Option String) :=
  match Toml.Entries.get? entries name with
  | none => some none
  | some (.text s) => some (some s)
  | some _ => none

/-- The settings of a document; those that it does not tell are the initial ones. -/
def parse? (s : String) : Option Settings := do
  let entries ← Toml.parse? s
  return {
    serverUrl := (← entry? entries "server_url").getD initial.serverUrl
    apiPrefix := (← entry? entries "api_prefix").getD initial.apiPrefix
    lifecycleFields := ← entry? entries "lifecycle_fields"
    labels := ← entry? entries "translations" }

/-- Reads settings from a file. Where there is none, they are the initial ones. -/
def ofFile (e : FileEntry) : Except Failure Settings :=
  match e with
  | .absent => .ok initial
  | e => do
    match parse? (← e.readText.mapError FileFault.failure) with
    | some s => .ok s
    | none => .error (.config (fileName ++ ": the settings are malformed"))

/-- The settings of a file and an environment, if they can be used. -/
def load (e : FileEntry) (environment : String → Option String) : Except Failure Settings := do
  let s := (← ofFile e).override environment
  s.validate
  return s

end ArchiveDesk.Settings
