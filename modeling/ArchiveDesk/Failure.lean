import ArchiveDesk.Upload.Phase

/-!
# Failures

Why an operation of the desk was refused or went wrong. Each failure has one
message for the log and one presentation for the operator; details of the
transport appear in the message only.
-/

namespace ArchiveDesk

/-- How a failure is shown to the operator. -/
structure Presentation where
  /-- A short heading. -/
  title : String
  /-- What happened, in one sentence. -/
  message : String
  /-- What the operator may do about it. -/
  action : Option String
  deriving DecidableEq, Repr

/-- The cause of a failure. -/
inductive Failure where
  /-- The server could not be reached or did not accept the request. -/
  | transport (detail : String)
  /-- The server's answer does not have the expected form. -/
  | responseShape (detail : String)
  /-- A file that is not yet settled occupies the upload slot. -/
  | slotTaken
  /-- The upload slot is empty. -/
  | noCandidate
  /-- The operation does not fit the phase of the upload. -/
  | outOfPhase (operation : String) (phase : Phase)
  /-- No dialog is open. -/
  | noPendingPrompt
  /-- A local file could not be read. -/
  | io (detail : String)
  /-- The configuration cannot be used. -/
  | config (detail : String)
  deriving DecidableEq, Repr

namespace Failure

/-- The failure in one line. -/
def message : Failure → String
  | transport detail => "Transport failure: " ++ detail
  | responseShape detail => "Invalid response shape: " ++ detail
  | slotTaken => "Upload slot already holds an unresolved file"
  | noCandidate => "No file selected"
  | outOfPhase operation phase =>
    operation ++ " is not allowed while the workflow is " ++ phase.name
  | noPendingPrompt => "No prompt is awaiting an answer"
  | io detail => "I/O error: " ++ detail
  | config detail => "Configuration error: " ++ detail

/-- What the operator is shown. -/
def presentation : Failure → Presentation
  | transport _ =>
    { title := "Server Unreachable"
      message := "The archive server did not accept the request."
      action := some "Check the connection and retry" }
  | responseShape _ =>
    { title := "No Result"
      message := "The server answer did not match a single entry."
      action := none }
  | slotTaken =>
    { title := "File Already Selected"
      message := "A file is already waiting to be checked or imported."
      action := some "Finish or reload before choosing another file" }
  | noCandidate =>
    { title := "No File"
      message := "Choose a referential file first."
      action := some "Select a file" }
  | outOfPhase operation _ =>
    { title := "Action Unavailable"
      message := "Cannot " ++ operation ++ " right now."
      action := some "Wait for the current step to finish" }
  | noPendingPrompt =>
    { title := "Nothing To Confirm"
      message := "There is no open dialog to answer."
      action := none }
  | io detail =>
    { title := "File Unreadable"
      message := "The selected file could not be read: " ++ detail
      action := some "Choose another file" }
  | config detail =>
    { title := "Configuration Error"
      message := detail
      action := some "Fix referential-console.toml and restart" }

end Failure

end ArchiveDesk
