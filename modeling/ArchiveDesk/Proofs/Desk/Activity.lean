import ArchiveDesk.Proofs.Desk.Chronicle

/-!
# The activity log

A notice adds one line to the log, and nothing else touches it. At most one line goes for each
line that comes. This is enough, because the log is never longer than its limit: it always holds
the last lines of all that were added.
-/

namespace ArchiveDesk

namespace Panel

/-- The log holds as many of the last of these lines as it can keep. -/
structure Logs (p : Panel) (lines : List String) : Prop where
  suffix : p.activity <:+ lines
  length : p.activity.length = min activityLimit lines.length

/-- The log is empty at first. -/
theorem logs_initial : initial.Logs [] := ⟨List.nil_suffix, rfl⟩

/-- A panel with the same log keeps the same lines. -/
theorem Logs.congr {p q : Panel} {lines : List String} (h : p.Logs lines)
    (hactivity : q.activity = p.activity) : q.Logs lines :=
  ⟨hactivity ▸ h.suffix, hactivity ▸ h.length⟩

/-- One more line: a log that was full loses its oldest one. -/
theorem Logs.log {p : Panel} {lines : List String} (h : p.Logs lines) (line : String) :
    (p.log line).Logs (lines ++ [line]) := by
  have hlength := h.length
  have hlonger : p.activity ++ [line] <:+ lines ++ [line] := by
    obtain ⟨before, hbefore⟩ := h.suffix
    exact ⟨before, by rw [← List.append_assoc, hbefore]⟩
  have hlimit : 0 < activityLimit := by decide
  by_cases hfull : activityLimit < (p.activity ++ [line]).length
  · have htail : (p.log line).activity = (p.activity ++ [line]).tail := if_pos hfull
    rw [List.length_append, List.length_singleton] at hfull
    constructor
    · rw [htail]
      exact (List.tail_suffix _).trans hlonger
    · rw [htail, List.length_tail, List.length_append, List.length_append, List.length_singleton]
      omega
  · have hkept : (p.log line).activity = p.activity ++ [line] := if_neg hfull
    rw [List.length_append, List.length_singleton] at hfull
    constructor
    · rw [hkept]
      exact hlonger
    · rw [hkept, List.length_append, List.length_append, List.length_singleton]
      omega

/-! ## What touches the log -/

/-- Apart from its line a notice leaves the log alone. -/
theorem activity_reflect (p : Panel) (n : Notice) : (p.reflect n).activity = p.activity := by
  cases n <;> rfl

/-- A notice adds its line to the log. -/
theorem Logs.hear {p : Panel} {lines : List String} (h : p.Logs lines) (n : Notice) :
    (p.hear n).Logs (lines ++ [logLine n]) :=
  (h.congr (p.activity_reflect n)).log (logLine n)

/-- Several notices add their lines in their order. -/
theorem Logs.foldl_hear {p : Panel} {lines : List String} (h : p.Logs lines)
    (notices : List Notice) : (notices.foldl Panel.hear p).Logs (lines ++ notices.map logLine) := by
  induction notices generalizing p lines with
  | nil => simpa using h
  | cons n notices ih =>
    have hrest := ih (h.hear n)
    rwa [List.append_assoc] at hrest

/-- An update leaves the log alone. -/
theorem activity_accept (p : Panel) (u : Update) : (p.accept u).activity = p.activity := by
  cases u <;> rfl

/-- Any number of updates leave the log alone. -/
theorem activity_foldl_accept (p : Panel) (updates : List Update) :
    (updates.foldl accept p).activity = p.activity := by
  induction updates generalizing p with
  | nil => rfl
  | cons u updates ih => exact (ih (p.accept u)).trans (p.activity_accept u)

/-- An action leaves the log of the panel alone. -/
theorem activity_act (p : Panel) (c : Catalogue) (action : Action) :
    (p.act c action).1.activity = p.activity := by
  cases action with
  | openLifecycle =>
    simp only [act]
    split <;> rfl
  | _ => rfl

end Panel

namespace Session

/-- An action of the operator leaves the log alone. -/
theorem activity_act (s : Session) (action : Action) :
    (s.act action).panel.activity = s.panel.activity := by
  have hpanel := s.panel.activity_act s.catalogue action
  unfold act send
  dsimp only
  split
  · exact hpanel
  · split <;> exact hpanel

/-- No gesture touches the log, whether it is offered or not. -/
theorem activity_receive (s : Session) (g : Gesture) :
    (s.receive g).panel.activity = s.panel.activity := by
  cases g with
  | press press =>
    cases press with
    | act action => exact s.activity_act action
    | _ => rfl
  | choose path => exact s.activity_act (.chooseFile path)
  | fill form => rfl

/-- Of all that happens to a desk the notices alone add lines. -/
theorem logs_foldl_undergo {s : Session} {lines : List String} (h : s.panel.Logs lines)
    (happenings : List Happening) :
    (happenings.foldl undergo s).panel.Logs
      (lines ++ (happenings.filterMap Happening.notice?).map Panel.logLine) := by
  induction happenings generalizing s lines with
  | nil => simpa using h
  | cons happening happenings ih =>
    cases happening with
    | message m =>
      cases m with
      | notice n =>
        have hrest := ih (s := s.undergo (.message (.notice n))) (h.hear n)
        rwa [List.append_assoc] at hrest
      | update u => exact ih (h.congr (s.panel.activity_accept u))
    | gesture g => exact ih (h.congr (s.activity_receive g))

end Session

namespace Chronicle

/-- A beat adds the lines of the notices that it delivers. -/
theorem logs_after {r : Chronicle} (h : r.panel.Logs (r.heard.map Panel.logLine)) (b : Beat) :
    (r.after b).panel.Logs ((r.after b).heard.map Panel.logLine) := by
  cases b with
  | gesture g => exact h.congr (r.scene.session.activity_receive g)
  | take around =>
    refine h.congr ?_
    simp only [after, panel, Scene.after, Scene.take]
    split <;> rfl
  | pass passage =>
    cases passage with
    | tell =>
      refine h.congr ?_
      simp only [after, panel, Scene.after, Scene.pass]
      split
      · rfl
      · rename_i m _ _
        cases m <;> rfl
    | hear =>
      have hheard := h.foldl_hear r.scene.session.notices
      rwa [← List.map_append] at hheard
    | accept => exact h.congr (Panel.activity_foldl_accept _ _)

/-- The log of a chronicle keeps the lines of all notices that were heard. -/
theorem logs_ofBeats (c : Catalogue) (beats : List Beat) :
    (ofBeats c beats).panel.Logs ((ofBeats c beats).heard.map Panel.logLine) := by
  induction beats using List.reverseRecOn with
  | nil => exact Panel.logs_initial
  | append_singleton beats b ih =>
    rw [ofBeats_concat]
    exact logs_after ih b

end Chronicle

/-- **The log holds the last lines that the notices have said.** Whatever happens to a new desk,
its log has one line for each notice that has reached it, up to the limit, in their order. Where
the messages wait for polls, the notices that have reached it are the first of those that the
worker has sent. -/
theorem Session.activity_logged (c : Catalogue) :
    (∀ (s : Session) (happenings : List Happening),
      (happenings.foldl undergo { s with panel := .initial }).panel.Logs
        ((happenings.filterMap Happening.notice?).map Panel.logLine)) ∧
    ∀ beats, (Chronicle.ofBeats c beats).panel.Logs
        ((Chronicle.ofBeats c beats).heard.map Panel.logLine) ∧
      (Chronicle.ofBeats c beats).heard <+:
        (Chronicle.ofBeats c beats).told.filterMap Message.notice? := by
  constructor
  · intro s happenings
    have hnew : ({ s with panel := .initial } : Session).panel.Logs [] := Panel.logs_initial
    have hlogs := logs_foldl_undergo hnew happenings
    rwa [List.nil_append] at hlogs
  · intro beats
    have hsound := Chronicle.sound_ofBeats c beats
    exact ⟨Chronicle.logs_ofBeats c beats, hsound.notices ▸ List.prefix_append _ _⟩

end ArchiveDesk
