import ArchiveDesk.Desk.Page
import ArchiveDesk.Desk.Session

/-!
# The screen

A session as the operator uses it: by clicks on the texts of the page, and by
typing into the field that was clicked last.
-/

namespace ArchiveDesk

/-- A session, the field that is typed into, and the list that is open. -/
structure Screen where
  session : Session
  focus : Option FormField
  openList : Option DropDown

namespace Session

/-- Changes the panel alone. -/
def mapPanel (f : Panel → Panel) (s : Session) : Session := { s with panel := f s.panel }

/-- Changes the open view, if there is one. -/
def mapView (f : Lifecycle.View → Lifecycle.View) (s : Session) : Session :=
  s.mapPanel fun p => { p with view := p.view.map f }

/-- What a click does to the session. -/
def press (s : Session) : Press → Session
  | .act action => s.act action
  | .kind kind => s.mapPanel fun p => { p with form := { p.form with kind } }
  | .column id => s.mapView (·.toggle id)
  | .turn t => s.mapView (·.turn t)
  | .activity => s.mapPanel fun p => { p with showsActivity := !p.showsActivity }
  | .browse | .dropDown _ | .field _ => s

end Session

/-- The form with a text added to one of its fields. -/
def LookupForm.typed (form : LookupForm) (text : String) : FormField → LookupForm
  | .id => { form with id := form.id ++ text }
  | .title => { form with title := form.title ++ text }

namespace Screen

/-- The screen of a session that nobody has touched. -/
def ofSession (s : Session) : Screen := ⟨s, none, none⟩

/-- The page. -/
def widgets (s : Screen) : List Widget := s.session.panel.widgets s.openList

/-- The list that is open after a click on something else. A list whose button has
gone from the page stays open for its return. -/
def listAfter (s : Screen) (p : Panel) : Option DropDown :=
  s.openList.filter fun list => !p.hasDropDown list

/-- A click on a widget: whatever it does, the operator leaves the field and the
list that were in use. -/
def press (s : Screen) (p : Option Press) : Screen :=
  let session := (p.map s.session.press).getD s.session
  let focus := match p with
    | some (.field field) => some field
    | _ => none
  let openList := match p with
    | some (.dropDown list) => if s.openList = some list then none else some list
    | _ => s.listAfter session.panel
  ⟨session, focus, openList⟩

/-- A click on one of the widgets with a text, counted from zero, if there is such
a widget. -/
def click? (s : Screen) (text : String) (nth : Nat) : Option Screen :=
  ((s.widgets.filter (·.text == text))[nth]?).map fun w => s.press w.press

/-- Whether a text is a line break alone, which is not typed. -/
def isLineBreak (text : String) : Bool := text == "\n" || text == "\r"

/-- Types a text into the field that was clicked last. -/
def type (s : Screen) (text : String) : Screen :=
  match s.focus with
  | none => s
  | some field =>
    if isLineBreak text then s
    else { s with session := s.session.mapPanel fun p =>
      { p with form := p.form.typed text field } }

end Screen

end ArchiveDesk
