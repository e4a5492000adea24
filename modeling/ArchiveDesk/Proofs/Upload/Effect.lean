import ArchiveDesk.Upload.Workflow

/-!
# What an operation does to the workflow

A workflow that is reached by operations is coherent: its phase decides what the
slot, the dialog and the import flag hold. On a coherent workflow every operation
has one of fourteen effects, and each of them is written out here as a whole step.
All that is proved about runs goes back to this list, and coherence is the first
property that every effect keeps.
-/

namespace ArchiveDesk

/-- A file as it is held for a target and with a status. -/
def Item.marked (i : Item) (target : Target) (status : Status) : Item := { i with target, status }

/-- What entering a phase from another one reports. -/
def Phase.entering (origin target : Phase) : List Notice :=
  if origin = target then [] else [.phaseChanged origin target]

namespace Workflow

/-- The slot holds a file for this target, with this status. -/
def Holds (w : Workflow) (target : Target) (status : Status) : Prop :=
  ∃ item, w.slot = some item ∧ item.target = target ∧ item.status = status

/-- The dialog that is left when the confirmation of an import is dropped. -/
def withoutConfirmation (w : Workflow) : Option PromptKind :=
  w.pending.filter (· ≠ .confirmImport)

/-- The phase agrees with the slot, the dialog and the import flag. -/
structure Coherent (w : Workflow) : Prop where
  idle : w.phase = .idle → w.slot = none ∨ w.Holds .check .queued
  checking : w.phase = .checking → w.Holds .check .inFlight
  awaiting : w.phase = .awaitingConfirmation → w.Holds .check .queued
  committing : w.phase = .committing →
    w.committed = true ∧ (w.Holds .commit .inFlight ∨ w.Holds .commit .failed)
  done : w.phase = .done → w.committed = true ∧ w.Holds .commit .succeeded
  rejected : w.phase = .rejected → w.Holds .check .failed ∧ w.pending = some .invalidFile
  /-- No operation ends while the referential is being deleted. -/
  settled : w.phase ≠ .deleting
  /-- The import waits for its confirmation in one phase, and only there. -/
  confirming : w.pending = some .confirmImport ↔ w.phase = .awaitingConfirmation

/-- What an operation needs of the workflow. -/
def Admits (w : Workflow) : Operation → Prop
  | .select _ => (w.phase = .idle ∨ w.phase = .done) ∧ w.slot.all (·.status.isResolved) = true
  | .submit => w.phase = .idle ∧ w.slot.isSome
  | .commit | .cancel => w.phase = .awaitingConfirmation
  | .answer _ => w.pending.isSome
  | .delete | .reload => True

/-- What an operation can do to a coherent workflow, each time with the service's
answer that leads to it. -/
inductive Effect (w : Workflow) (service : Service) : Operation → Step → Prop where
  | refused {op : Operation} (cause : Failure) (hop : ¬ w.Admits op) :
      Effect w service op (.refuse w cause)
  /-- A file is put into the slot. -/
  | selected (item : Item) (hphase : w.phase = .idle ∨ w.phase = .done)
      (hslot : w.slot.all (·.status.isResolved) = true) :
      Effect w service (.select item)
        { state := { w with phase := .idle, slot := some (item.marked .check .queued) }
          channel := .holding (w.phase.entering .idle ++ [.selected item.fileName item.size])
          calls := []
          outcome := .completed }
  /-- The check accepts the file, and the import has to be confirmed. -/
  | passed (item : Item) (hphase : w.phase = .idle) (hslot : w.slot = some item)
      (hreply : service.send (item.marked .check .inFlight) = .accepted) :
      Effect w service .submit
        { state := { w with
            phase := .awaitingConfirmation
            slot := some (item.marked .check .queued)
            pending := some .confirmImport }
          channel := .holding [.phaseChanged .idle .checking, .dispatched .check item.fileName,
            .phaseChanged .checking .awaitingConfirmation, .prompt .confirmImport]
          calls := [.send (item.marked .check .inFlight)]
          outcome := .completed }
  /-- The check does not accept the file. -/
  | rejected {cause : Failure} (item : Item) (hphase : w.phase = .idle) (hslot : w.slot = some item)
      (hreply : service.send (item.marked .check .inFlight) = .failed cause) :
      Effect w service .submit
        { state := { w with
            phase := .rejected
            slot := some (item.marked .check .failed)
            pending := some .invalidFile }
          channel := .holding [.phaseChanged .idle .checking, .dispatched .check item.fileName,
            .phaseChanged .checking .rejected, .prompt .invalidFile]
          calls := [.send (item.marked .check .inFlight)]
          outcome := .completed }
  /-- The check never answers. -/
  | unchecked (item : Item) (hphase : w.phase = .idle) (hslot : w.slot = some item)
      (hreply : service.send (item.marked .check .inFlight) = .silent) :
      Effect w service .submit
        { state := { w with phase := .checking, slot := some (item.marked .check .inFlight) }
          channel := .holding [.phaseChanged .idle .checking, .dispatched .check item.fileName]
          calls := [.send (item.marked .check .inFlight)]
          outcome := .abandoned }
  /-- The import succeeds. -/
  | imported {op : Operation} (item : Item) (hop : op = .commit ∨ op = .answer .accept)
      (hphase : w.phase = .awaitingConfirmation) (hslot : w.slot = some item)
      (hreply : service.send (item.marked .commit .inFlight) = .accepted) :
      Effect w service op
        { state := ⟨.done, some (item.marked .commit .succeeded), some .imported, true⟩
          channel := .holding [.phaseChanged .awaitingConfirmation .committing,
            .dispatched .commit item.fileName, .phaseChanged .committing .done, .prompt .imported]
          calls := [.send (item.marked .commit .inFlight)]
          outcome := .completed }
  /-- The import is refused by the server; the phase stays. -/
  | conflicted {op : Operation} {cause : Failure} (item : Item)
      (hop : op = .commit ∨ op = .answer .accept)
      (hphase : w.phase = .awaitingConfirmation) (hslot : w.slot = some item)
      (hreply : service.send (item.marked .commit .inFlight) = .failed cause) :
      Effect w service op
        { state := ⟨.committing, some (item.marked .commit .failed), some .alreadyExists, true⟩
          channel := .holding [.phaseChanged .awaitingConfirmation .committing,
            .dispatched .commit item.fileName, .prompt .alreadyExists]
          calls := [.send (item.marked .commit .inFlight)]
          outcome := .completed }
  /-- The import is never answered. -/
  | unimported {op : Operation} (item : Item) (hop : op = .commit ∨ op = .answer .accept)
      (hphase : w.phase = .awaitingConfirmation) (hslot : w.slot = some item)
      (hreply : service.send (item.marked .commit .inFlight) = .silent) :
      Effect w service op
        { state := ⟨.committing, some (item.marked .commit .inFlight), none, true⟩
          channel := .holding [.phaseChanged .awaitingConfirmation .committing,
            .dispatched .commit item.fileName]
          calls := [.send (item.marked .commit .inFlight)]
          outcome := .abandoned }
  /-- The checked file is dropped instead of being imported. -/
  | cancelled {op : Operation} (hop : op = .cancel ∨ op = .answer .decline)
      (hphase : w.phase = .awaitingConfirmation) :
      Effect w service op
        { state := ⟨.idle, none, none, false⟩
          channel := .holding [.phaseChanged .awaitingConfirmation .idle, .viewReloaded]
          calls := []
          outcome := .completed }
  | reloaded :
      Effect w service .reload
        { state := ⟨.idle, none, w.withoutConfirmation, false⟩
          channel := .holding (w.phase.entering .idle ++ [.viewReloaded])
          calls := []
          outcome := .completed }
  /-- A dialog is answered that ends in a reload. -/
  | acknowledged {kind : PromptKind} {choice : Choice} (hpending : w.pending = some kind)
      (hkind : kind = .invalidFile ∨ kind = .referentialEmpty) :
      Effect w service (.answer choice)
        { state := ⟨.idle, none, none, false⟩
          channel := .holding (w.phase.entering .idle ++ [.viewReloaded])
          calls := []
          outcome := .completed }
  /-- A dialog is answered that only closes. -/
  | closed {kind : PromptKind} {choice : Choice} (hpending : w.pending = some kind)
      (hkind : kind = .imported ∨ kind = .alreadyExists) :
      Effect w service (.answer choice)
        { state := { w with pending := none }
          channel := .holding []
          calls := []
          outcome := .completed }
  | deleted (hreply : service.delete = .ok ()) :
      Effect w service .delete
        { state := ⟨.idle, none, some .referentialEmpty, false⟩
          channel := .holding [.phaseChanged w.phase .deleting, .prompt .referentialEmpty,
            .phaseChanged .deleting .idle, .viewReloaded]
          calls := [.delete]
          outcome := .completed }
  | undeleted {cause : Failure} (hreply : service.delete = .error cause) :
      Effect w service .delete
        { state := ⟨.idle, none, w.withoutConfirmation, false⟩
          channel := .holding [.phaseChanged w.phase .deleting, .phaseChanged .deleting .idle,
            .viewReloaded]
          calls := [.delete]
          outcome := .completed }

/-! ## Every operation has an effect -/

private theorem send_holding (notices : List Notice) (notice : Notice) :
    (Channel.holding notices).send notice = (.ok (), .holding (notices ++ [notice])) :=
  rfl

private theorem enter_eq (w : Workflow) (notices : List Notice) (calls : List Call)
    (phase : Phase) :
    Progress.enter ⟨w, .holding notices, calls⟩ phase =
      ⟨{ w with phase }, .holding (notices ++ w.phase.entering phase), calls⟩ := by
  unfold Progress.enter Phase.entering
  by_cases h : w.phase = phase
  · subst h
    simp
  · simp [h, Progress.report, send_holding]

private theorem dismiss_eq (p : Progress) (kind : PromptKind) :
    p.dismiss kind =
      ⟨{ p.state with pending := p.state.pending.filter (· ≠ kind) }, p.channel, p.calls⟩ := by
  obtain ⟨⟨phase, slot, pending, committed⟩, channel, calls⟩ := p
  unfold Progress.dismiss
  cases pending with
  | none => rfl
  | some other => by_cases h : other = kind <;> simp [h, Option.filter_some]

private theorem reload_eq (w : Workflow) (notices : List Notice) (calls : List Call) :
    Progress.reload ⟨w, .holding notices, calls⟩ = ⟨⟨.idle, none, w.withoutConfirmation, false⟩,
      .holding (notices ++ w.phase.entering .idle ++ [.viewReloaded]), calls⟩ := by
  simp only [Progress.reload, dismiss_eq, enter_eq, Progress.report, send_holding,
    withoutConfirmation]

variable {w : Workflow} (service : Service)

/-- Choosing a file either fills the slot or is refused. -/
theorem select_effect (item : Item) : Effect w service (.select item) (w.select item) := by
  unfold select
  split
  · rename_i hphase
    split
    · rename_i hslot
      rw [Progress.start, Channel.fresh, enter_eq]
      exact .selected item hphase hslot
    · rename_i hslot
      exact .refused _ fun h => hslot h.2
  · rename_i hphase
    exact .refused _ fun h => hphase h.1

/-- Checking the file in the slot follows the answer of the check. -/
theorem submit_effect : Effect w service .submit (w.submit service) := by
  obtain ⟨phase, slot, pending, committed⟩ := w
  unfold submit
  split
  · rename_i hphase
    obtain rfl : phase = .idle := hphase
    cases slot with
    | none => exact .refused _ fun h => nomatch h.2
    | some item =>
      dsimp only
      split
      · rename_i hreply
        exact .passed item rfl rfl hreply
      · rename_i hreply
        exact .rejected item rfl rfl hreply
      · rename_i hreply
        exact .unchecked item rfl rfl hreply
  · rename_i hphase
    exact .refused _ fun h => hphase h.1

/-- Importing follows the answer of the import, whichever operation asks for it and
whether the confirmation is still open or was closed by its answer. -/
theorem commit_effect {item : Item} {op : Operation} {pending : Option PromptKind}
    (hop : op = .commit ∨ op = .answer .accept) (hphase : w.phase = .awaitingConfirmation)
    (hslot : w.slot = some item) (hpending : pending.filter (· ≠ .confirmImport) = none) :
    Effect w service op (commit { w with pending } service) := by
  obtain ⟨phase, slot, _, committed⟩ := w
  obtain rfl : phase = .awaitingConfirmation := hphase
  obtain rfl : slot = some item := hslot
  simp only [commit, dismiss_eq, Progress.start, Channel.fresh, hpending,
    if_true]
  split
  · rename_i hreply
    exact .imported item hop rfl rfl hreply
  · rename_i hreply
    exact .conflicted item hop rfl rfl hreply
  · rename_i hreply
    exact .unimported item hop rfl rfl hreply

/-- Cancelling an import that waits for its confirmation drops the file. -/
theorem cancel_effect {op : Operation} {pending : Option PromptKind}
    (hop : op = .cancel ∨ op = .answer .decline) (hphase : w.phase = .awaitingConfirmation)
    (hpending : pending.filter (· ≠ .confirmImport) = none) :
    Effect w service op (cancel { w with pending }) := by
  obtain ⟨phase, slot, _, committed⟩ := w
  obtain rfl : phase = .awaitingConfirmation := hphase
  simp only [cancel, dismiss_eq, reload_eq, Progress.start, Channel.fresh, hpending,
    if_true]
  exact .cancelled hop rfl

/-- Deleting the referential reloads the view, whatever the answer is. -/
theorem delete_effect (hw : w.phase ≠ .deleting) : Effect w service .delete (w.delete service) := by
  have hentering : w.phase.entering .deleting = [.phaseChanged w.phase .deleting] := by
    rw [Phase.entering, if_neg hw]
  unfold delete
  cases hreply : service.delete with
  | ok answer =>
    simp only [enter_eq, Progress.start, Channel.fresh, Progress.call, hentering]
    exact .deleted hreply
  | error cause =>
    simp only [enter_eq, reload_eq, Progress.start, Channel.fresh, Progress.call, hentering]
    exact .undeleted hreply

/-- Answering a dialog does what the dialog is about. -/
theorem answer_effect (hw : w.Coherent) (choice : Choice) :
    Effect w service (.answer choice) (w.answer service choice) := by
  unfold answer
  cases hpending : w.pending with
  | none => exact .refused _ (by simp [Admits, hpending])
  | some kind =>
    cases kind with
    | confirmImport =>
      have hphase := hw.confirming.mp hpending
      obtain ⟨item, hslot, -, -⟩ := hw.awaiting hphase
      cases choice with
      | accept => exact commit_effect service (.inr rfl) hphase hslot rfl
      | decline => exact cancel_effect service (.inr rfl) hphase rfl
    | invalidFile =>
      simp only [reload, reload_eq, Progress.start, Channel.fresh]
      exact .acknowledged hpending (.inl rfl)
    | referentialEmpty =>
      simp only [reload, reload_eq, Progress.start, Channel.fresh]
      exact .acknowledged hpending (.inr rfl)
    | imported => exact .closed hpending (.inl rfl)
    | alreadyExists => exact .closed hpending (.inr rfl)

/-- Every operation on a coherent workflow has one of the effects. -/
theorem perform_effect (hw : w.Coherent) (op : Operation) :
    Effect w service op (w.perform service op) := by
  have hconfirming (hphase : w.phase = .awaitingConfirmation) :
      w.pending.filter (· ≠ .confirmImport) = none := by
    rw [hw.confirming.mpr hphase]
    rfl
  cases op with
  | select item => exact select_effect service item
  | submit => exact submit_effect service
  | commit =>
    by_cases hphase : w.phase = .awaitingConfirmation
    · obtain ⟨item, hslot, -, -⟩ := hw.awaiting hphase
      exact commit_effect service (.inl rfl) hphase hslot (hconfirming hphase)
    · rw [perform, commit, if_neg hphase]
      exact .refused _ hphase
  | cancel =>
    by_cases hphase : w.phase = .awaitingConfirmation
    · exact cancel_effect service (.inl rfl) hphase (hconfirming hphase)
    · rw [perform, cancel, if_neg hphase]
      exact .refused _ hphase
  | delete => exact delete_effect service hw.settled
  | reload =>
    rw [perform, reload, Progress.start, Channel.fresh, reload_eq]
    exact .reloaded
  | answer choice => exact answer_effect service hw choice

/-! ## Every effect keeps coherence -/

omit service

/-- An idle workflow is coherent if its file waits for the check and no import waits
for its confirmation. -/
theorem Coherent.ofIdle {slot : Option Item} {pending : Option PromptKind} {committed : Bool}
    (hslot : ∀ item ∈ slot, item.target = .check ∧ item.status = .queued)
    (hpending : pending ≠ some .confirmImport) : Coherent ⟨.idle, slot, pending, committed⟩ := by
  constructor <;> simp only [reduceCtorEq, false_implies, ne_eq, not_false_eq_true, hpending,
    forall_const]
  cases slot with
  | none => exact .inl rfl
  | some item => exact .inr ⟨item, rfl, hslot item rfl⟩

/-- The initial workflow is coherent. -/
theorem coherent_initial : initial.Coherent := .ofIdle (by simp) (by simp)

/-- A confirmation that was dropped is not left. -/
theorem withoutConfirmation_ne : w.withoutConfirmation ≠ some .confirmImport := by
  simp [withoutConfirmation, Option.filter_eq_some_iff]

/-- A workflow whose phase is not the one of the confirmation has no such dialog. -/
theorem Coherent.pending_ne (hw : w.Coherent) (hphase : w.phase ≠ .awaitingConfirmation) :
    w.pending ≠ some .confirmImport :=
  fun hpending => hphase (hw.confirming.mp hpending)

/-- Every effect on a coherent workflow leaves a coherent workflow. -/
theorem Effect.coherent {service : Service} {op : Operation} {step : Step} (hw : w.Coherent)
    (heffect : w.Effect service op step) : step.state.Coherent := by
  cases heffect with
  | refused => exact hw
  | selected item hphase hslot =>
    refine .ofIdle (by simp [Item.marked]) (hw.pending_ne ?_)
    rcases hphase with hphase | hphase <;> simp [hphase]
  | passed item => constructor <;> simp [Holds, Item.marked]
  | rejected item => constructor <;> simp [Holds, Item.marked]
  | unchecked item hphase =>
    have hpending := hw.pending_ne (by simp [hphase])
    constructor <;> simp [Holds, Item.marked, hpending]
  | imported => constructor <;> simp [Holds, Item.marked]
  | conflicted => constructor <;> simp [Holds, Item.marked]
  | unimported => constructor <;> simp [Holds, Item.marked]
  | cancelled => exact .ofIdle (by simp) (by simp)
  | reloaded => exact .ofIdle (by simp) withoutConfirmation_ne
  | acknowledged => exact .ofIdle (by simp) (by simp)
  | closed hpending hkind =>
    have hconfirm : w.pending ≠ some .confirmImport := by
      rw [hpending]
      rcases hkind with rfl | rfl <;> simp
    have hinvalid : w.pending ≠ some .invalidFile := by
      rw [hpending]
      rcases hkind with rfl | rfl <;> simp
    exact { hw with
      rejected := fun hphase => absurd (hw.rejected hphase).2 hinvalid
      confirming := ⟨nofun, fun hphase => absurd (hw.confirming.mpr hphase) hconfirm⟩ }
  | deleted => exact .ofIdle (by simp) (by simp)
  | undeleted => exact .ofIdle (by simp) withoutConfirmation_ne

end Workflow

end ArchiveDesk
