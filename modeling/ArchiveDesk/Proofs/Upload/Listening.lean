import ArchiveDesk.Upload.Run

/-!
# Whether anyone listens

An operation sends its reports and drops what the channel answers. So it comes to the same
over any two channels, and keeps every relation between them that sending keeps. From this
follows what a receiver hears that goes away: the first reports, and nothing after them.
-/

namespace ArchiveDesk

/-! ## Relations that sending keeps -/

/-- Two channels that are so related stay so when the same report is sent over both. -/
def Channel.KeptBySending (R : Channel → Channel → Prop) : Prop :=
  ∀ c d notice, R c d → R (c.send notice).2 (d.send notice).2

/-- Two operations under way have come equally far, over channels that are so related. -/
structure Progress.Beside (R : Channel → Channel → Prop) (p q : Progress) : Prop where
  state : p.state = q.state
  calls : p.calls = q.calls
  channel : R p.channel q.channel

/-- Two operations have come to the same, over channels that are so related. -/
structure Step.Beside (R : Channel → Channel → Prop) (s t : Step) : Prop extends
    s.toProgress.Beside R t.toProgress where
  outcome : s.outcome = t.outcome

variable {R : Channel → Channel → Prop} {c d : Channel}

namespace Progress.Beside

variable {p q : Progress}

/-- A report is sent over both channels. -/
theorem report (h : p.Beside R q) (hR : Channel.KeptBySending R) (notice : Notice) :
    (p.report notice).Beside R (q.report notice) :=
  ⟨h.state, h.calls, hR _ _ notice h.channel⟩

/-- The state is changed in the same way by both. -/
theorem update (h : p.Beside R q) (f : Workflow → Workflow) :
    Progress.Beside R { p with state := f p.state } { q with state := f q.state } :=
  ⟨congrArg f h.state, h.calls, h.channel⟩

/-- A phase is entered, and reported, by both. -/
theorem enter (h : p.Beside R q) (hR : Channel.KeptBySending R) (phase : Phase) :
    (p.enter phase).Beside R (q.enter phase) := by
  have hreported := (h.update ({ · with phase })).report hR (.phaseChanged p.state.phase phase)
  have hphase : q.state.phase = p.state.phase := by rw [h.state]
  unfold Progress.enter
  rw [hphase]
  split
  · exact h
  · exact hreported

/-- A dialog is opened, and reported, by both. -/
theorem ask (h : p.Beside R q) (hR : Channel.KeptBySending R) (kind : PromptKind) :
    (p.ask kind).Beside R (q.ask kind) :=
  (h.update ({ · with pending := some kind })).report hR _

/-- A dialog is closed by both. -/
theorem dismiss (h : p.Beside R q) (kind : PromptKind) :
    (p.dismiss kind).Beside R (q.dismiss kind) := by
  have hclosed := h.update ({ · with pending := none })
  have hpending : q.state.pending = p.state.pending := by rw [h.state]
  unfold Progress.dismiss
  rw [hpending]
  split
  · exact hclosed
  · exact h

/-- A file is put into the slot by both. -/
theorem hold (h : p.Beside R q) (item : Item) : (p.hold item).Beside R (q.hold item) :=
  h.update ({ · with slot := some item })

/-- The service is called by both. -/
theorem call (h : p.Beside R q) (call : Call) : (p.call call).Beside R (q.call call) := by
  refine ⟨h.state, ?_, h.channel⟩
  simp only [Progress.call, h.calls]

/-- A file is sent, and reported, by both. -/
theorem send (h : p.Beside R q) (hR : Channel.KeptBySending R) (item : Item) :
    (p.send item).Beside R (q.send item) :=
  ((h.hold item).report hR _).call _

/-- The view is reloaded, and that is reported, by both. -/
theorem reload (h : p.Beside R q) (hR : Channel.KeptBySending R) :
    p.reload.Beside R q.reload :=
  (((h.dismiss .confirmImport).update ({ · with slot := none, committed := false })).enter
    hR .idle).report hR .viewReloaded

/-- The operation ends in the same way for both. -/
theorem finish (h : p.Beside R q) (outcome : Outcome) :
    (p.finish outcome).Beside R (q.finish outcome) :=
  ⟨h, rfl⟩

end Progress.Beside

/-! ## Operations keep them -/

namespace Workflow

/-- Before an operation nothing differs but the channels. -/
theorem start_beside (w : Workflow) (hcd : R c d) :
    (Progress.start w c).Beside R (Progress.start w d) :=
  ⟨rfl, rfl, hcd⟩

variable (w : Workflow) (service : Service)

/-- Choosing a file comes to the same over both channels. -/
theorem select_beside (hR : Channel.KeptBySending R) (hcd : R c d) (item : Item) :
    (w.select item c).Beside R (w.select item d) := by
  have hstart := w.start_beside hcd
  unfold select
  split
  · split
    · exact ((((hstart.enter hR _).report hR _).hold _).finish _)
    · exact hstart.finish _
  · exact hstart.finish _

/-- Checking a file comes to the same over both channels. -/
theorem submit_beside (hR : Channel.KeptBySending R) (hcd : R c d) :
    (w.submit service c).Beside R (w.submit service d) := by
  have hstart := w.start_beside hcd
  unfold submit
  split
  · cases w.slot with
    | none => exact hstart.finish _
    | some item =>
      have hsent := (hstart.enter hR .checking).send hR
        { item with target := .check, status := .inFlight }
      dsimp only
      split
      · exact (((hsent.hold _).enter hR _).ask hR _).finish _
      · exact (((hsent.hold _).enter hR _).ask hR _).finish _
      · exact hsent.finish _
  · exact hstart.finish _

/-- Importing a file comes to the same over both channels. -/
theorem commit_beside (hR : Channel.KeptBySending R) (hcd : R c d) :
    (w.commit service c).Beside R (w.commit service d) := by
  have hstart := w.start_beside hcd
  unfold commit
  split
  · cases w.slot with
    | none => exact hstart.finish _
    | some item =>
      have hdispatched := (hstart.dismiss .confirmImport).update ({ · with committed := true })
      have hsent := (hdispatched.enter hR .committing).send hR
        { item with target := .commit, status := .inFlight }
      dsimp only
      split
      · exact (((hsent.hold _).enter hR _).ask hR _).finish _
      · exact ((hsent.hold _).ask hR _).finish _
      · exact hsent.finish _
  · exact hstart.finish _

/-- Cancelling an import comes to the same over both channels. -/
theorem cancel_beside (hR : Channel.KeptBySending R) (hcd : R c d) :
    (w.cancel c).Beside R (w.cancel d) := by
  have hstart := w.start_beside hcd
  unfold cancel
  split
  · exact ((hstart.dismiss _).reload hR).finish _
  · exact hstart.finish _

/-- Deleting the referential comes to the same over both channels. -/
theorem delete_beside (hR : Channel.KeptBySending R) (hcd : R c d) :
    (w.delete service c).Beside R (w.delete service d) := by
  have hcalled := ((w.start_beside hcd).enter hR .deleting).call .delete
  unfold delete
  dsimp only
  split
  · exact ((hcalled.ask hR _).reload hR).finish _
  · exact (hcalled.reload hR).finish _

/-- Reloading the view comes to the same over both channels. -/
theorem reload_beside (hR : Channel.KeptBySending R) (hcd : R c d) :
    (w.reload c).Beside R (w.reload d) :=
  ((w.start_beside hcd).reload hR).finish _

/-- Answering a dialog comes to the same over both channels. -/
theorem answer_beside (hR : Channel.KeptBySending R) (hcd : R c d) (choice : Choice) :
    (w.answer service choice c).Beside R (w.answer service choice d) := by
  unfold answer
  cases w.pending with
  | none => exact (w.start_beside hcd).finish _
  | some kind =>
    cases kind with
    | confirmImport =>
      cases choice with
      | accept => exact commit_beside _ service hR hcd
      | decline => exact cancel_beside _ hR hcd
    | invalidFile | referentialEmpty => exact reload_beside _ hR hcd
    | imported | alreadyExists => exact (start_beside _ hcd).finish _

/-- An operation comes to the same over any two channels, and keeps every relation between
them that sending keeps. -/
theorem perform_beside (hR : Channel.KeptBySending R) (hcd : R c d) (op : Operation) :
    (w.perform service op c).Beside R (w.perform service op d) := by
  cases op with
  | select item => exact w.select_beside hR hcd item
  | submit => exact w.submit_beside service hR hcd
  | commit => exact w.commit_beside service hR hcd
  | cancel => exact w.cancel_beside hR hcd
  | delete => exact w.delete_beside service hR hcd
  | reload => exact w.reload_beside hR hcd
  | answer choice => exact w.answer_beside service hR hcd choice

end Workflow

/-! ## A receiver that stays -/

/-- Sending does not take the receiver away. -/
theorem Channel.keptBySending_room : KeptBySending fun c _ => c.room = none := by
  intro c _ notice hroom
  simp only [send, hroom]

/-- A channel with a receiver holds what has arrived, and nothing else is to be said of it. -/
theorem Channel.eq_holding (hroom : c.room = none) : c = .holding c.arrived := by
  obtain ⟨arrived, room⟩ := c
  obtain rfl : room = none := hroom
  rfl

/-- What is reported to a receiver that stays has arrived. -/
theorem Workflow.channel_perform (w : Workflow) (service : Service) (op : Operation) :
    (w.perform service op).channel = .holding (w.perform service op).notices :=
  Channel.eq_holding (w.perform_beside service Channel.keptBySending_room
    (c := .fresh) (d := .fresh) rfl op).channel

/-! ## A receiver that goes -/

/-- One receiver stays. The other has taken at most so many of the reports after the first
ones, and takes what is left of that number. -/
def Channel.Cut (earlier : List Notice) (room : Nat) (c d : Channel) : Prop :=
  ∃ later, c = .holding (earlier ++ later) ∧
    d = ⟨earlier ++ later.take room, some (room - later.length)⟩

/-- The next report arrives at the receiver that goes only while its number is not used up. -/
theorem Channel.keptBySending_cut (earlier : List Notice) (room : Nat) :
    KeptBySending (Cut earlier room) := by
  rintro _ _ notice ⟨later, rfl, rfl⟩
  refine ⟨later ++ [notice], by rw [← List.append_assoc]; rfl, ?_⟩
  rw [List.take_append, List.length_append, List.length_singleton]
  cases hleft : room - later.length with
  | zero =>
    have hused : room - (later.length + 1) = 0 := by omega
    simp [send, hused]
  | succ left =>
    have hrest : room - (later.length + 1) = left := by omega
    simp [send, hrest]

/-- What an operation comes to, but for its reports. -/
def Step.withoutReports (s : Step) : Step := { s with channel := .fresh }

/-- Steps that have come to the same differ in their reports alone. -/
theorem Step.Beside.withoutReports {s t : Step} (h : s.Beside R t) :
    s.withoutReports = t.withoutReports := by
  obtain ⟨⟨w, c, calls⟩, outcome⟩ := s
  obtain ⟨⟨w', d, calls'⟩, outcome'⟩ := t
  obtain ⟨⟨rfl, rfl, -⟩, rfl⟩ := h
  rfl

namespace Rehearsal

/-- Two rehearsals have come equally far, over channels that are so related. -/
structure Beside (R : Channel → Channel → Prop) (r r' : Rehearsal) : Prop where
  state : r.state = r'.state
  script : r.script = r'.script
  channel : R r.channel r'.channel

variable {r r' : Rehearsal}

/-- The next operation comes to the same in both rehearsals, which go on side by side. -/
theorem Beside.perform (h : r.Beside R r') (hR : Channel.KeptBySending R) (op : Operation) :
    (r.perform op).1.Beside R (r'.perform op).1 ∧ (r.perform op).2.Beside R (r'.perform op).2 := by
  obtain ⟨w, script, c⟩ := r
  obtain ⟨w', script', d⟩ := r'
  obtain ⟨rfl, rfl, hchannel⟩ := h
  have hstep := w.perform_beside script.service hR hchannel op
  exact ⟨hstep, hstep.state, congrArg (List.foldl Script.consume script) hstep.calls,
    hstep.channel⟩

/-- Rehearsals that begin side by side go on side by side. -/
theorem Beside.after (h : r.Beside R r') (hR : Channel.KeptBySending R) (ops : List Operation) :
    (r.after ops).Beside R (r'.after ops) := by
  induction ops generalizing r r' with
  | nil => exact h
  | cons op ops ih => exact ih (h.perform hR op).2

/-- The steps of rehearsals side by side differ in their reports alone. -/
theorem Beside.steps (h : r.Beside R r') (hR : Channel.KeptBySending R) (ops : List Operation) :
    (r.steps ops).map Step.withoutReports = (r'.steps ops).map Step.withoutReports := by
  induction ops generalizing r r' with
  | nil => rfl
  | cons op ops ih =>
    obtain ⟨hstep, hnext⟩ := h.perform hR op
    simp only [Rehearsal.steps, List.map_cons, hstep.withoutReports, ih hnext]

/-- The receiver of a rehearsal stays unless it leaves. -/
theorem room_after (hroom : r.channel.room = none) (ops : List Operation) :
    (r.after ops).channel.room = none := by
  have hself : r.Beside (fun c _ => c.room = none) r := ⟨rfl, rfl, hroom⟩
  exact (hself.after Channel.keptBySending_room ops).channel

/-- Nobody has to listen: the operations come to the same whenever the receiver goes. -/
theorem steps_leave (r : Rehearsal) (room : Nat) (ops : List Operation) :
    ((r.leave room).steps ops).map Step.withoutReports =
      (r.steps ops).map Step.withoutReports := by
  have hleave : (r.leave room).Beside (fun _ _ => True) r := ⟨rfl, rfl, trivial⟩
  exact hleave.steps (fun _ _ _ _ => trivial) ops

/-- A receiver that goes has heard the first of the reports that it would have heard. -/
theorem arrived_leave (hroom : r.channel.room = none) (room : Nat) (ops : List Operation) :
    ((r.leave room).after ops).channel.arrived =
      r.channel.arrived ++
        ((r.after ops).channel.arrived.drop r.channel.arrived.length).take room := by
  have hstart : r.Beside (Channel.Cut r.channel.arrived room) (r.leave room) := by
    refine ⟨rfl, rfl, [], ?_, ?_⟩
    · rw [List.append_nil]
      exact Channel.eq_holding hroom
    · simp [leave, Channel.leave, hroom]
  obtain ⟨later, hstays, hgoes⟩ :=
    (hstart.after (Channel.keptBySending_cut r.channel.arrived room) ops).channel
  rw [hstays, hgoes, Channel.holding, List.drop_left]

/-- A receiver that goes in the middle of a check has heard how it began. -/
example : (((start ⟨[], [], []⟩).leave 2).after
    [.select (.new "a" .empty), .submit]).channel.arrived =
      [.selected "a" 0, .phaseChanged .idle .checking] := by
  decide

end Rehearsal

end ArchiveDesk
