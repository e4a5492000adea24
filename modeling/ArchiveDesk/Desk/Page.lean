import ArchiveDesk.ByteSize
import ArchiveDesk.Desk.Action
import ArchiveDesk.Lifecycle.Turn

/-!
# The page

The texts that the desk shows, in their order, and what a click on each of them
does. Labels and disabled buttons do nothing.
-/

namespace ArchiveDesk

/-- A field of the lookup form that texts are typed into. -/
inductive FormField where
  | id
  | title
  deriving DecidableEq, Repr

/-- A list that drops down. -/
inductive DropDown where
  /-- The kinds of entities. -/
  | kind
  /-- The page sizes. -/
  | pageSize
  deriving DecidableEq, Repr

/-- What a click does. -/
inductive Press where
  /-- Opens the dialog that chooses a file. -/
  | browse
  | act (action : Action)
  /-- Opens a list, or closes it. -/
  | dropDown (list : DropDown)
  /-- Chooses a kind for the form. -/
  | kind (kind : Lifecycle.Kind)
  /-- Turns to a field of the form. -/
  | field (field : FormField)
  /-- Switches a custom column. -/
  | column (id : String)
  /-- Uses the pager. -/
  | turn (turn : Lifecycle.Turn)
  /-- Shows or hides the activity log. -/
  | activity
  deriving DecidableEq, Repr

/-- A text on the page, and what a click on it does. -/
structure Widget where
  text : String
  press : Option Press
  deriving DecidableEq, Repr

namespace Widget

/-- A text that is only read. -/
def label (text : String) : Widget := ⟨text, none⟩

/-- A text that may be clicked, unless it is disabled. -/
def button (text : String) (press : Press) (enabled : Bool) : Widget :=
  ⟨text, if enabled then some press else none⟩

end Widget

namespace Panel

/-- The line about the selected file. -/
def selectedLine (p : Panel) : String :=
  match p.selected with
  | some file => "Selected: " ++ file.name ++ " (" ++ ByteSize.text file.size ++ ")"
  | none => "No file selected"

/-- The upload of a referential. -/
def uploadWidgets (p : Panel) : List Widget := [
  .label "Format Referential",
  .label "Check, import or delete the file format referential",
  .button "📁 Select File" .browse p.canChoose,
  .label p.selectedLine,
  .label "Status:",
  .label p.phase.status,
  .button "✔ Check File" (.act .submit) p.canSubmit,
  .button "🗑 Delete Referential" (.act .delete) p.canDelete,
  .button "🔄 Reload" (.act .reload) p.canReload]

/-- A field of the form, with a hint while it is empty. -/
def fieldWidget (field : FormField) (content hint : String) : Widget :=
  .button (if content.isEmpty then hint else content) (.field field) true

/-- The form of a lookup. -/
def formWidgets (p : Panel) : List Widget := [
  .label "Lifecycle",
  .button p.form.kind.label (.dropDown .kind) true,
  fieldWidget .id p.form.id "Identifier",
  fieldWidget .title p.form.title "Title",
  .button "🔍 Show" (.act .openLifecycle) p.canLookUp]

/-- The activity log, if there is anything in it. -/
def activityWidgets (p : Panel) : List Widget :=
  if p.activity.isEmpty then []
  else if p.showsActivity then
    .button "Hide Activity" .activity true :: p.activity.map .label
  else [.button "Show Activity" .activity true]

/-- The last error. -/
def errorWidgets (p : Panel) : List Widget :=
  match p.error with
  | none => []
  | some e => .label (e.title ++ ": " ++ e.message) :: (e.action.map .label).toList

/-- The open dialog. Its buttons stand before its title. -/
def promptWidgets (p : Panel) : List Widget :=
  match p.prompt with
  | none => []
  | some kind =>
    let decline (text : String) : Widget := .button text (.act (.answer .decline)) true
    .button kind.acceptLabel (.act (.answer .accept)) true ::
      (kind.declineLabel.map decline).toList ++ [.label kind.title]

end Panel

namespace Lifecycle.View

/-- The heading of the view. -/
def heading (v : View) : String :=
  v.kind.label ++ " " ++ v.id ++ " " ++ if v.title.isEmpty then "" else "– " ++ v.title

/-- The custom columns to switch on or off, if there are any. -/
def columnWidgets (v : View) : List Widget :=
  if v.custom.isEmpty then []
  else .label "Columns:" :: v.custom.map fun c => .button c.label (.column c.id) true

/-- The pager. -/
def pagerWidgets (v : View) : List Widget :=
  let turn (text : String) (t : Turn) : Widget := .button text (.turn t) (v.offers t)
  [.button (toString v.pager.size ++ " / page") (.dropDown .pageSize) true,
    turn "‹" .previous] ++
  (v.visiblePages.map fun n => turn (toString n) (.number n)) ++
  [turn "›" .next, .label (toString v.events.length ++ " events")]

/-- Whether the view shows its table: a valid result has come. -/
def showsTable (v : View) : Bool := v.isLoaded && v.showsResult

/-- The view. -/
def widgets (v : View) : List Widget :=
  .label v.heading ::
    if v.showsTable then
      v.columnWidgets ++ (v.displayed.map fun c => .label c.label) ++
        (v.cells.flatten.map .label) ++ v.pagerWidgets
    else if v.isLoaded then [.label "No lifecycle found for this identifier"]
    else []

end Lifecycle.View

namespace Panel

/-- Whether the page has the button of a list that drops down. -/
def hasDropDown (p : Panel) : DropDown → Bool
  | .kind => true
  | .pageSize => p.view.any (·.showsTable)

/-- The choices of a list that drops down. -/
def choices (p : Panel) (list : DropDown) : List Widget :=
  if p.hasDropDown list then
    match list with
    | .kind => [Lifecycle.Kind.unit, .objectGroup].map fun k => .button k.label (.kind k) true
    | .pageSize => Pager.offeredSizes.map fun n => .button (toString n) (.turn (.size n)) true
  else []

/-- The page, with the choices of the list that is open. Empty texts are not
shown. -/
def widgets (p : Panel) (openList : Option DropDown) : List Widget :=
  (p.uploadWidgets ++ p.formWidgets ++ ((p.view.map (·.widgets)).getD []) ++ p.activityWidgets ++
    p.errorWidgets ++ p.promptWidgets ++ ((openList.map p.choices).getD [])).filter
    fun w => !w.text.isEmpty

end Panel

end ArchiveDesk
