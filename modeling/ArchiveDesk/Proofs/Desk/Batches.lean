import ArchiveDesk.Proofs.Desk.Session
import ArchiveDesk.Proofs.Upload.History

/-!
# Errors in batches

An update puts an error on the panel, and a file that is selected or a reload removes it.
But these come as notices, and a poll delivers all notices before all updates. So when one
poll finds a whole batch of commands, it can leave an error that a later one of them should
have removed. This file says for which batches, and for which sequences of batches, the
error is the one that the commands would leave if they were delivered one by one.
-/

namespace ArchiveDesk

/-! ## What notices and updates do to the error -/

/-- The notice removes the error from the panel. -/
def Notice.clearsError : Notice → Bool
  | .selected _ _ | .viewReloaded => true
  | .phaseChanged _ _ | .dispatched _ _ | .prompt _ => false

/-- The error that the update puts on the panel. -/
def Update.error? : Update → Option Presentation
  | .failed cause => some cause.presentation
  | .busy _ | .lifecycle _ _ _ => none

namespace Panel

/-- Notices remove the error from the panel, or leave it. -/
theorem error_foldl_hear (p : Panel) (notices : List Notice) :
    (notices.foldl hear p).error = if notices.any Notice.clearsError then none else p.error := by
  induction notices generalizing p with
  | nil => rfl
  | cons n notices ih =>
    rw [List.foldl_cons, ih]
    cases n <;> simp [hear, reflect, log, Notice.clearsError]

/-- After some updates the panel shows the last of their errors. -/
theorem error_foldl_accept (p : Panel) (updates : List Update) :
    (updates.foldl accept p).error = (updates.filterMap Update.error?).getLast?.or p.error := by
  induction updates generalizing p with
  | nil => rfl
  | cons u updates ih =>
    rw [List.foldl_cons, ih, List.filterMap_cons]
    cases u with
    | failed cause =>
      rw [show (Update.failed cause).error? = some cause.presentation from rfl]
      simp [List.getLast?_cons, accept]
    | busy | lifecycle => rfl

end Panel

/-! ## Commands that come to the panel in one poll -/

namespace Handled

/-- The command puts an error on the panel. -/
def Fails (h : Handled) : Prop := ∃ cause, .failed cause ∈ h.updates

/-- The command removes the error from the panel. -/
def Clears (h : Handled) : Prop := ∃ n ∈ h.notices, n.clearsError = true

/-- No command does both. -/
def Decided (h : Handled) : Prop := h.Fails → ¬ h.Clears

end Handled

/-- Commands that one poll finds carried out, oldest first. -/
abbrev Batch := List Handled

namespace Batch

/-- The errors that the commands of a batch put on the panel. -/
def errors (batch : Batch) : List Presentation :=
  (batch.flatMap Handled.updates).filterMap Update.error?

/-- The error after a batch was delivered in one poll. -/
def errorAfter (e : Option Presentation) (batch : Batch) : Option Presentation :=
  batch.errors.getLast?.or
    (if (batch.flatMap Handled.notices).any Notice.clearsError then none else e)

/-- The error after the commands were delivered in a poll each. -/
def errorOneByOne (e : Option Presentation) (batch : Batch) : Option Presentation :=
  batch.foldl (fun e h => errorAfter e [h]) e

/-- No command of the batch concerns the error. -/
def Silent (batch : Batch) : Prop := ∀ h ∈ batch, ¬ h.Fails ∧ ¬ h.Clears

/-- A command removes the error of an earlier one, and no later command fails. -/
def Stale (batch : Batch) : Prop :=
  ∃ before h after, batch = before ++ h :: after ∧ (∃ f ∈ before, f.Fails) ∧ h.Clears ∧
    ∀ g ∈ after, ¬ g.Fails

variable {batch : Batch} {h : Handled} {e : Option Presentation}

/-- The errors of one batch follow those of the other. -/
theorem errors_append (batch batch' : Batch) :
    errors (batch ++ batch') = batch.errors ++ errors batch' := by
  simp [errors]

/-- A batch without errors is one in which no command fails. -/
theorem errors_eq_nil_iff : batch.errors = [] ↔ ∀ h ∈ batch, ¬ h.Fails := by
  have herror (u : Update) : u.error? = none ↔ ∀ cause, u ≠ .failed cause := by
    cases u <;> simp [Update.error?]
  simp only [errors, List.filterMap_eq_nil_iff, List.mem_flatMap, herror, Handled.Fails]
  constructor
  · rintro hnone h hh ⟨cause, hfailed⟩
    exact hnone _ ⟨h, hh, hfailed⟩ cause rfl
  · rintro hnone u ⟨h, hh, hu⟩ cause rfl
    exact hnone h hh ⟨cause, hu⟩

/-- The notices of a batch remove the error if those of one command do. -/
theorem any_clearsError_iff :
    (batch.flatMap Handled.notices).any Notice.clearsError = true ↔ ∃ h ∈ batch, h.Clears := by
  simp only [List.any_eq_true, List.mem_flatMap, Handled.Clears]
  constructor
  · rintro ⟨n, ⟨h, hh, hn⟩, hclears⟩
    exact ⟨h, hh, n, hn, hclears⟩
  · rintro ⟨h, hh, n, hn, hclears⟩
    exact ⟨n, ⟨h, hh, hn⟩, hclears⟩

/-- After a command that fails, its error is shown. -/
theorem errorAfter_concat_of_fails (hfails : h.Fails) (e e' : Option Presentation)
    (batch : Batch) : errorAfter e (batch ++ [h]) = errorAfter e' [h] := by
  have herrors : errors [h] ≠ [] := by
    rw [Ne, errors_eq_nil_iff]
    exact fun hnone => hnone h (List.mem_singleton_self h) hfails
  have hlast := List.getLast?_eq_some_getLast herrors
  simp only [errorAfter, errors_append, List.getLast?_append, hlast, Option.some_or]

/-- After a command that removes the error, an error is shown only if an earlier one failed. -/
theorem errorAfter_concat_of_clears (hfails : ¬ h.Fails) (hclears : h.Clears)
    (e : Option Presentation) (batch : Batch) :
    errorAfter e (batch ++ [h]) = batch.errors.getLast? := by
  have herrors : errors [h] = [] := errors_eq_nil_iff.mpr (by simpa using hfails)
  have hmem : h ∈ batch ++ [h] := List.mem_append_right batch (List.mem_singleton_self h)
  have hany := any_clearsError_iff.mpr ⟨h, hmem, hclears⟩
  rw [errorAfter, errors_append, herrors, hany, List.append_nil, if_pos rfl, Option.or_none]

/-- A command that does not concern the error makes no difference. -/
theorem errorAfter_concat_of_silent (hfails : ¬ h.Fails) (hclears : ¬ h.Clears)
    (e : Option Presentation) (batch : Batch) :
    errorAfter e (batch ++ [h]) = errorAfter e batch := by
  have herrors : errors [h] = [] := errors_eq_nil_iff.mpr (by simpa using hfails)
  have hany : (List.flatMap Handled.notices [h]).any Notice.clearsError = false := by
    rw [Bool.eq_false_iff, Ne, any_clearsError_iff]
    simpa using hclears
  simp only [errorAfter, errors_append, herrors, List.append_nil, List.flatMap_append,
    List.any_append, hany, Bool.or_false]

/-- The last command of a batch is delivered last. -/
theorem errorOneByOne_concat (e : Option Presentation) (batch : Batch) (h : Handled) :
    errorOneByOne e (batch ++ [h]) = errorAfter (errorOneByOne e batch) [h] := by
  simp [errorOneByOne]

/-- A batch is silent if its last command and all before it are. -/
theorem silent_concat : Silent (batch ++ [h]) ↔ batch.Silent ∧ ¬ h.Fails ∧ ¬ h.Clears := by
  simp only [Silent, List.forall_mem_append, List.forall_mem_singleton]

/-- A batch goes stale with a command that removes an error, and stays so until one fails. -/
theorem stale_concat : Stale (batch ++ [h]) ↔
    batch.Stale ∧ ¬ h.Fails ∨ (∃ f ∈ batch, f.Fails) ∧ h.Clears := by
  constructor
  · rintro ⟨before, x, after, hsplit, hbefore, hx, hafter⟩
    rcases split_concat hsplit with ⟨rfl, rfl, -⟩ | ⟨rest, rfl, rfl⟩
    · exact .inr ⟨hbefore, hx⟩
    · rw [List.forall_mem_append, List.forall_mem_singleton] at hafter
      exact .inl ⟨⟨before, x, rest, rfl, hbefore, hx, hafter.1⟩, hafter.2⟩
  · rintro (⟨⟨before, x, after, rfl, hbefore, hx, hafter⟩, hfails⟩ | ⟨hbatch, hclears⟩)
    · refine ⟨before, x, after ++ [h], by simp, hbefore, hx, ?_⟩
      rw [List.forall_mem_append, List.forall_mem_singleton]
      exact ⟨hafter, hfails⟩
    · exact ⟨batch, h, [], rfl, hbatch, hclears, by simp⟩

/-- A command that concerns the error settles it, whatever was shown before. -/
theorem errorOneByOne_congr (hbatch : ¬ batch.Silent) (e e' : Option Presentation) :
    errorOneByOne e batch = errorOneByOne e' batch := by
  induction batch using List.reverseRecOn with
  | nil => exact absurd (by simp [Silent]) hbatch
  | append_singleton batch h ih =>
    rw [errorOneByOne_concat, errorOneByOne_concat]
    by_cases hfails : h.Fails
    · exact errorAfter_concat_of_fails hfails _ _ []
    by_cases hclears : h.Clears
    · exact (errorAfter_concat_of_clears hfails hclears _ []).trans
        (errorAfter_concat_of_clears hfails hclears _ []).symm
    · rw [silent_concat] at hbatch
      rw [ih fun hsilent => hbatch ⟨hsilent, hfails, hclears⟩]

/-- Commands that do not concern the error leave it, however they are delivered. -/
theorem Silent.errorAfter_eq (hbatch : batch.Silent) (e : Option Presentation) :
    errorAfter e batch = e ∧ errorOneByOne e batch = e := by
  induction batch using List.reverseRecOn with
  | nil => exact ⟨rfl, rfl⟩
  | append_singleton batch h ih =>
    obtain ⟨hsilent, hfails, hclears⟩ := silent_concat.mp hbatch
    rw [errorOneByOne_concat, errorAfter_concat_of_silent hfails hclears, (ih hsilent).2]
    exact ⟨(ih hsilent).1, errorAfter_concat_of_silent hfails hclears e []⟩

/-- One poll for a whole batch shows what polls after each command would show, unless the
batch is stale. -/
theorem errorAfter_eq_iff (hdecided : ∀ h ∈ batch, h.Decided) (e : Option Presentation) :
    errorAfter e batch = errorOneByOne e batch ↔ ¬ batch.Stale := by
  induction batch using List.reverseRecOn with
  | nil => exact iff_of_true rfl (by simp [Stale])
  | append_singleton batch h ih =>
    rw [List.forall_mem_append, List.forall_mem_singleton] at hdecided
    rw [errorOneByOne_concat, stale_concat]
    by_cases hfails : h.Fails
    · refine iff_of_true (errorAfter_concat_of_fails hfails _ _ _) ?_
      rintro (⟨-, hnot⟩ | ⟨-, hclears⟩)
      · exact hnot hfails
      · exact hdecided.2 hfails hclears
    by_cases hclears : h.Clears
    · have hone := errorAfter_concat_of_clears hfails hclears (errorOneByOne e batch) []
      rw [List.nil_append] at hone
      rw [errorAfter_concat_of_clears hfails hclears, hone]
      rw [show errors [] = [] from rfl, List.getLast?_nil, List.getLast?_eq_none_iff,
        errors_eq_nil_iff]
      constructor
      · rintro hnone (⟨⟨before, x, after, rfl, ⟨f, hf, hfailed⟩, -⟩, -⟩ | ⟨⟨f, hf, hfailed⟩, -⟩)
        · exact hnone f (List.mem_append_left _ hf) hfailed
        · exact hnone f hf hfailed
      · intro hstale f hf hfailed
        exact hstale (.inr ⟨⟨f, hf, hfailed⟩, hclears⟩)
    · have hone := errorAfter_concat_of_silent hfails hclears (errorOneByOne e batch) []
      rw [List.nil_append] at hone
      rw [errorAfter_concat_of_silent hfails hclears, hone]
      simp only [hfails, hclears, not_false_eq_true, and_true, and_false, or_false]
      exact ih hdecided.1

end Batch

/-! ## Several polls -/

/-- The last batch that concerns the error is stale. -/
def EndsStale (batches : List Batch) : Prop :=
  ∃ earlier batch later, batches = earlier ++ batch :: later ∧ Batch.Stale batch ∧
    ∀ rest ∈ later, Batch.Silent rest

/-- The last batch decides, unless it is silent. -/
theorem endsStale_concat {batches : List Batch} {batch : Batch} :
    EndsStale (batches ++ [batch]) ↔ batch.Stale ∨ EndsStale batches ∧ batch.Silent := by
  constructor
  · rintro ⟨earlier, x, later, hsplit, hx, hlater⟩
    rcases split_concat hsplit with ⟨rfl, rfl, -⟩ | ⟨rest, rfl, rfl⟩
    · exact .inl hx
    · rw [List.forall_mem_append, List.forall_mem_singleton] at hlater
      exact .inr ⟨⟨earlier, x, rest, rfl, hx, hlater.1⟩, hlater.2⟩
  · rintro (hbatch | ⟨⟨earlier, x, later, rfl, hx, hlater⟩, hsilent⟩)
    · exact ⟨batches, batch, [], rfl, hbatch, by simp⟩
    · refine ⟨earlier, x, later ++ [batch], by simp, hx, ?_⟩
      rw [List.forall_mem_append, List.forall_mem_singleton]
      exact ⟨hlater, hsilent⟩

/-- A stale batch concerns the error. -/
theorem Batch.Stale.not_silent {batch : Batch} (hbatch : batch.Stale) : ¬ batch.Silent := by
  obtain ⟨before, h, after, rfl, -, hclears, -⟩ := hbatch
  exact fun hsilent => (hsilent h (by simp)).2 hclears

/-- Polls after some batches show what polls after each command would show, unless the last
batch that concerns the error is stale. -/
theorem foldl_errorAfter_eq_iff {batches : List Batch}
    (hdecided : ∀ batch ∈ batches, ∀ h ∈ batch, h.Decided) (e : Option Presentation) :
    batches.foldl Batch.errorAfter e = Batch.errorOneByOne e batches.flatten ↔
      ¬ EndsStale batches := by
  induction batches using List.reverseRecOn with
  | nil => exact iff_of_true rfl (by simp [EndsStale])
  | append_singleton batches batch ih =>
    rw [List.forall_mem_append, List.forall_mem_singleton] at hdecided
    have hpolls : (batches ++ [batch]).foldl Batch.errorAfter e =
        Batch.errorAfter (batches.foldl Batch.errorAfter e) batch := by
      rw [List.foldl_append]
      rfl
    have hcommands : Batch.errorOneByOne e (batches ++ [batch]).flatten =
        Batch.errorOneByOne (Batch.errorOneByOne e batches.flatten) batch := by
      simp [Batch.errorOneByOne]
    rw [hpolls, hcommands, endsStale_concat]
    by_cases hsilent : batch.Silent
    · rw [(hsilent.errorAfter_eq _).1, (hsilent.errorAfter_eq _).2, ih hdecided.1, not_or]
      simp only [hsilent, and_true]
      exact (and_iff_right fun hstale => hstale.not_silent hsilent).symm
    · rw [Batch.errorOneByOne_congr hsilent _ (batches.foldl Batch.errorAfter e),
        Batch.errorAfter_eq_iff hdecided.2, or_iff_left fun hboth => hsilent hboth.2]

end ArchiveDesk
