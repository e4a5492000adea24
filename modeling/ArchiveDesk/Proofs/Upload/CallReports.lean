import ArchiveDesk.Proofs.Upload.History
import Mathlib.Data.List.Basic

/-!
# Reports of the calls

A file that is sent is reported as dispatched, and the answer to a call is reported by a
dialog. This file writes down what each call has to be reported as, with the answer that it
got, and proves that the reports of a run which speak of calls are these and no others, in
the order of the calls.
-/

namespace ArchiveDesk

/-- A call together with the service's answer to it. -/
inductive Exchange where
  | sent (item : Item) (reply : Reply)
  | deleted (answer : Except Failure Unit)

/-- A call as the service answers it. -/
def Service.exchange (service : Service) : Call → Exchange
  | .send item => .sent item (service.send item)
  | .delete => .deleted service.delete

/-- The dialog that the answer to a file raises, if there is an answer. -/
def Target.dialog? : Target → Reply → Option PromptKind
  | .check, .accepted => some .confirmImport
  | .check, .failed _ => some .invalidFile
  | .commit, .accepted => some .imported
  | .commit, .failed _ => some .alreadyExists
  | _, .silent => none

/-- What a call is reported as, when it is answered like this. -/
def Exchange.reports : Exchange → List Notice
  | .sent item reply =>
    .dispatched item.target item.fileName :: ((item.target.dialog? reply).map .prompt).toList
  | .deleted (.ok _) => [.prompt .referentialEmpty]
  | .deleted (.error _) => []

/-- The notice speaks of a call: of a file that was sent, or of an answer. -/
def Notice.speaksOfCall : Notice → Bool
  | .dispatched _ _ | .prompt _ => true
  | _ => false

/-- The calls of an entry with their answers. -/
def Entry.exchanges (e : Entry) : List Exchange := e.2.calls.map e.1.service.exchange

/-- What an entry reports of its calls. -/
def Entry.callReports (e : Entry) : List Notice := e.2.notices.filter Notice.speaksOfCall

/-- The calls of a run with their answers, oldest first. -/
def Run.exchanges (r : Run) : List Exchange := r.history.flatMap Entry.exchanges

/-- Entering a phase reports nothing of a call. -/
@[simp] theorem filter_speaksOfCall_entering (origin target : Phase) :
    (origin.entering target).filter Notice.speaksOfCall = [] := by
  unfold Phase.entering
  split <;> rfl

namespace Workflow.Effect

variable {w : Workflow} {service : Service} {op : Operation} {step : Step}

/-- An effect reports of calls what its own calls are reported as. -/
theorem callReports_eq (heffect : w.Effect service op step) :
    Entry.callReports (⟨op, service⟩, step) =
      (Entry.exchanges (⟨op, service⟩, step)).flatMap Exchange.reports := by
  cases heffect with
  | refused | closed | cancelled => rfl
  | selected | reloaded | acknowledged =>
    rw [Entry.callReports, Progress.notices_holding, List.filter_append,
      filter_speaksOfCall_entering]
    rfl
  | passed _ _ _ hreply | rejected _ _ _ hreply | unchecked _ _ _ hreply
  | imported _ _ _ _ hreply | conflicted _ _ _ _ hreply | unimported _ _ _ _ hreply
  | deleted hreply | undeleted hreply =>
    -- The one call of the operation is answered as the effect says.
    simp only [Entry.exchanges, Service.exchange, List.map_cons, List.map_nil, hreply]
    rfl

/-- A file is in flight when it is sent. -/
theorem status_of_send (heffect : w.Effect service op step) {item : Item}
    (hsend : .send item ∈ step.calls) : item.status = .inFlight := by
  cases heffect with
  | passed | rejected | unchecked | imported | conflicted | unimported =>
    cases List.mem_singleton.mp hsend
    rfl
  | refused => exact absurd hsend List.not_mem_nil
  | _ => simp at hsend

end Workflow.Effect

namespace Run

/-- What a run reports of calls is what its entries report of their calls. -/
theorem filter_notices (r : Run) :
    r.notices.filter Notice.speaksOfCall = r.history.flatMap Entry.callReports :=
  List.filter_flatMap

/-- **Audit.** Of calls, a run reports exactly what its calls are to be reported as, in their
order and with the answers that they got. This holds of each operation by itself, so nothing
is reported of a call that the operation has not made. And every file is in flight when it is
sent. -/
theorem ofDeeds_callReports (deeds : List Deed) :
    let r := ofDeeds deeds
    r.notices.filter Notice.speaksOfCall = r.exchanges.flatMap Exchange.reports ∧
    (∀ e : Entry, e ∈ r.history → e.callReports = e.exchanges.flatMap Exchange.reports) ∧
    ∀ item, .send item ∈ r.calls → item.status = .inFlight := by
  intro r
  have hentries : ∀ e : Entry, e ∈ r.history →
      e.callReports = e.exchanges.flatMap Exchange.reports := by
    intro e he
    obtain ⟨w, -, heffect⟩ := effect_of_mem_history deeds he
    exact heffect.callReports_eq
  refine ⟨?_, hentries, ?_⟩
  · calc r.notices.filter Notice.speaksOfCall
      _ = r.history.flatMap Entry.callReports := r.filter_notices
      _ = r.history.flatMap fun e : Entry => e.exchanges.flatMap Exchange.reports :=
        List.flatMap_congr hentries
      _ = r.exchanges.flatMap Exchange.reports := List.flatMap_assoc.symm
  · intro item hitem
    obtain ⟨e, he, hsend⟩ := List.mem_flatMap.mp hitem
    obtain ⟨w, -, heffect⟩ := effect_of_mem_history deeds he
    exact heffect.status_of_send hsend

end Run

end ArchiveDesk
