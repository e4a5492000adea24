import ArchiveDesk.Proofs.Desk.Chronicle

/-!
# Lookups and the open view

A view is opened while earlier lookups are still waited for, and perhaps of the same
entity. A result says only what it was found for, so an old one can well come into a new
view of the same. But lookups are carried out and delivered in the order in which they
were asked for, and so the result of the last one comes last, and stays.
-/

namespace ArchiveDesk

/-- What an update has found, and for what. -/
def Update.found? : Update → Option ((Lifecycle.Kind × String) × Lifecycle.Result)
  | .lifecycle kind id result => some ((kind, id), result)
  | _ => none

/-- What a command has found. -/
def Handled.found (h : Handled) : List ((Lifecycle.Kind × String) × Lifecycle.Result) :=
  h.updates.filterMap Update.found?

/-- Its updates show what a command has found. -/
theorem Handled.mem_found_iff {h : Handled} {kind : Lifecycle.Kind} {id : String}
    {result : Lifecycle.Result} :
    ((kind, id), result) ∈ h.found ↔ .lifecycle kind id result ∈ h.updates := by
  constructor
  · intro hmem
    obtain ⟨u, hu, hfound⟩ := List.mem_filterMap.mp hmem
    cases u with
    | lifecycle =>
      cases hfound
      exact hu
    | _ => cases hfound
  · intro hmem
    exact List.mem_filterMap.mpr ⟨_, hmem, rfl⟩

/-- The last lookup among some commands, and a result that it has found. -/
def LastFound (taken : List (Command × Handled)) (kind : Lifecycle.Kind) (id : String)
    (result : Lifecycle.Result) : Prop :=
  ∃ earlier h later, taken = earlier ++ (.fetch kind id, h) :: later ∧
    (∀ x ∈ later, x.1.lookup? = none) ∧ .lifecycle kind id result ∈ h.updates

/-! ## What the worker finds -/

namespace Worker

/-- The worker tells the results that it has found, and those only. -/
theorem found_handle (around : Surroundings) (w : Workflow) (c : Command) :
    (handle around w c).found = (found around c).filterMap Update.found? := by
  have hclosing (outcome : Outcome) : (closing outcome).filterMap Update.found? = [] := by
    cases outcome <;> rfl
  rw [Handled.found, updates_handle, List.filterMap_append, hclosing, List.append_nil]
  rfl

/-- A command that is no lookup finds nothing. -/
theorem found_of_lookup?_eq_none (around : Surroundings) (w : Workflow) {c : Command}
    (hc : c.lookup? = none) : (handle around w c).found = [] := by
  rw [found_handle]
  cases c with
  | fetch kind id => cases hc
  | _ => rfl

/-- A lookup finds one result for what it was asked for, or none at all. -/
theorem found_fetch (around : Surroundings) (w : Workflow) (kind : Lifecycle.Kind) (id : String) :
    (handle around w (.fetch kind id)).found =
      ((lookup? around.remote kind id).map fun result => ((kind, id), result)).toList := by
  rw [found_handle]
  cases hlookup : lookup? around.remote kind id with
  | none => simp [found, hlookup]
  | some result => simp [found, hlookup, Update.found?]

/-- A lookup that has ended has found a result. -/
theorem found_of_isEnded {around : Surroundings} {w : Workflow} {kind : Lifecycle.Kind}
    {id : String} (hended : (handle around w (.fetch kind id)).isEnded = true) :
    ∃ result, (handle around w (.fetch kind id)).found = [((kind, id), result)] := by
  rw [found_fetch]
  cases hlookup : lookup? around.remote kind id with
  | some result => exact ⟨result, rfl⟩
  | none => simp [handle, step, hlookup, Progress.finish] at hended

/-- What a command finds is for what it looks up. -/
theorem subjects_found_sublist (around : Surroundings) (w : Workflow) (c : Command) :
    ((handle around w c).found.map Prod.fst).Sublist c.lookup?.toList := by
  cases c with
  | fetch kind id =>
    rw [found_fetch]
    cases lookup? around.remote kind id with
    | none => exact List.nil_sublist _
    | some result => exact .refl _
  | _ =>
    rw [found_of_lookup?_eq_none around w rfl]
    exact List.nil_sublist _

/-- A command that tells the result of a lookup is this lookup. -/
theorem eq_fetch_of_mem_updates {around : Surroundings} {w : Workflow} {c : Command}
    {kind : Lifecycle.Kind} {id : String} {result : Lifecycle.Result}
    (hmem : .lifecycle kind id result ∈ (handle around w c).updates) : c = .fetch kind id := by
  have hfound := List.mem_map_of_mem (f := Prod.fst) (Handled.mem_found_iff.mpr hmem)
  have hsubject := (subjects_found_sublist around w c).subset hfound
  cases c with
  | fetch =>
    cases Option.mem_toList.mp hsubject
    rfl
  | _ => cases hsubject

end Worker

/-! ## The view follows the lookups -/

namespace Panel

variable {p q : Panel} {asked : List (Lifecycle.Kind × String)}
  {found : List ((Lifecycle.Kind × String) × Lifecycle.Result)}

/-- The view of a panel, after some lookups were asked for and some results have come. -/
structure Follows (p : Panel) (asked : List (Lifecycle.Kind × String))
    (found : List ((Lifecycle.Kind × String) × Lifecycle.Result)) : Prop where
  /-- The view of the last lookup is open. -/
  subject : p.subject? = asked.getLast?
  /-- The result in the view was found for it. -/
  result : ∀ result, p.result? = some result →
    ∃ subject, p.subject? = some subject ∧ (subject, result) ∈ found
  /-- Once there is a result for every lookup, the last result is in the view. -/
  last : found.map Prod.fst = asked → p.result? = found.getLast?.map Prod.snd

/-- At first no view is open, and no lookup was asked for. -/
theorem follows_initial : Follows .initial [] [] where
  subject := rfl
  result := by simp [result?, initial]
  last _ := rfl

/-- Only the view matters. -/
theorem Follows.congr (hp : p.Follows asked found) (hsame : q.SameLookup p) :
    q.Follows asked found where
  subject := hsame.subject.trans hp.subject
  result result hresult := by
    rw [hsame.subject]
    exact hp.result result (hsame.result ▸ hresult)
  last hall := hsame.result.trans (hp.last hall)

/-- A view that is opened waits for the result of its own lookup. -/
theorem follows_opened {view : Lifecycle.View} (hview : view.result = none)
    (hfound : found.length ≤ asked.length) :
    Follows { p with view := some view } (asked ++ [view.subject]) found where
  subject := by simp [subject?]
  result result hresult := by simp [result?, hview] at hresult
  last hall := by
    have hlength := congrArg List.length hall
    simp only [List.length_map, List.length_append, List.length_singleton] at hlength
    omega

/-- A notice does not concern the view. -/
theorem hear_sameLookup (p : Panel) (n : Notice) : (p.hear n).SameLookup p := by
  cases n <;> exact ⟨rfl, rfl⟩

/-- Notices leave the open view alone. -/
theorem foldl_hear_sameLookup (p : Panel) (notices : List Notice) :
    (notices.foldl hear p).SameLookup p := by
  induction notices generalizing p with
  | nil => exact .rfl
  | cons n notices ih =>
    have hn := p.hear_sameLookup n
    have hrest := ih (p.hear n)
    exact ⟨hrest.subject.trans hn.subject, hrest.result.trans hn.result⟩

/-- A result comes into the view that is open for it. -/
theorem showResult_of_subject?_eq {kind : Lifecycle.Kind} {id : String}
    (hsubject : p.subject? = some (kind, id)) (result : Lifecycle.Result) :
    (p.showResult kind id result).subject? = some (kind, id) ∧
      (p.showResult kind id result).result? = some result := by
  obtain ⟨view, hview, hkind⟩ := Option.map_eq_some_iff.mp hsubject
  obtain ⟨rfl, rfl⟩ := Prod.mk.inj hkind
  simp [showResult, subject?, result?, hview, Lifecycle.View.subject, Lifecycle.View.apply]

/-- A result for anything else is dropped. -/
theorem showResult_of_subject?_ne {kind : Lifecycle.Kind} {id : String}
    (hsubject : p.subject? ≠ some (kind, id)) (result : Lifecycle.Result) :
    p.showResult kind id result = p := by
  have hkept : (p.view.map fun v => if v.kind = kind ∧ v.id = id then v.apply result else v) =
      p.view := by
    cases hview : p.view with
    | none => rfl
    | some view =>
      have hother : ¬(view.kind = kind ∧ view.id = id) := by
        rintro ⟨rfl, rfl⟩
        exact hsubject (by simp [subject?, hview, Lifecycle.View.subject])
      simp [hother]
  rw [showResult, hkept]

/-- An update that has come: a result is in the view if it was found for it. -/
theorem Follows.accept (hp : p.Follows asked found) (u : Update) :
    (p.accept u).Follows asked (found ++ u.found?.toList) := by
  cases u with
  | busy | failed =>
    change Follows _ asked (found ++ [])
    rw [List.append_nil]
    exact hp.congr ⟨rfl, rfl⟩
  | lifecycle kind id result =>
    change (p.showResult kind id result).Follows asked (found ++ [((kind, id), result)])
    by_cases hsubject : p.subject? = some (kind, id)
    · obtain ⟨hsubject', hresult'⟩ := showResult_of_subject?_eq hsubject result
      refine ⟨?_, ?_, ?_⟩
      · rw [hsubject', ← hsubject, hp.subject]
      · intro shown hshown
        obtain rfl : result = shown := Option.some.inj (hresult'.symm.trans hshown)
        exact ⟨_, hsubject', by simp⟩
      · intro _
        rw [hresult', List.getLast?_concat]
        rfl
    · rw [showResult_of_subject?_ne hsubject]
      refine ⟨hp.subject, ?_, ?_⟩
      · intro shown hshown
        obtain ⟨subject, hopen, hmem⟩ := hp.result shown hshown
        exact ⟨subject, hopen, List.mem_append_left _ hmem⟩
      · -- The last lookup is the one whose view is open, so this result is not the last one.
        intro hall
        have hlast : asked.getLast? = some (kind, id) := by
          rw [← hall, List.map_append]
          exact List.getLast?_concat
        exact absurd (hp.subject.trans hlast) hsubject

/-- The view of a panel follows the results among some updates. -/
theorem Follows.foldl_accept (hp : p.Follows asked found) (updates : List Update) :
    (updates.foldl Panel.accept p).Follows asked (found ++ updates.filterMap Update.found?) := by
  induction updates generalizing p found with
  | nil => simpa using hp
  | cons u updates ih =>
    have hrest := ih (hp.accept u)
    rw [List.append_assoc] at hrest
    cases hu : u.found? with
    | none => simpa [List.filterMap_cons, hu] using hrest
    | some x => simpa [List.filterMap_cons, hu] using hrest

end Panel

/-! ## What the commands of a course look up and find -/

section Taken

variable {taken : List (Command × Handled)}

/-- There are no more results than lookups, and they come in the same order. -/
theorem subjects_found_taken_sublist
    (htaken : ∀ x ∈ taken, ∃ around w, x.2 = Worker.handle around w x.1) :
    ((taken.flatMap (·.2.found)).map Prod.fst).Sublist (taken.filterMap (·.1.lookup?)) := by
  induction taken with
  | nil => exact .refl _
  | cons x taken ih =>
    obtain ⟨⟨around, w, hx⟩, hrest⟩ := List.forall_mem_cons.mp htaken
    have hhead := Worker.subjects_found_sublist around w x.1
    have happend := hhead.append (ih hrest)
    rw [← hx] at happend
    rw [List.flatMap_cons, List.map_append]
    cases hlookup : x.1.lookup? with
    | none => simpa [hlookup] using happend
    | some subject => simpa [hlookup] using happend

/-- If all commands have ended, there is a result for every lookup. -/
theorem subjects_found_taken (htaken : ∀ x ∈ taken, ∃ around w, x.2 = Worker.handle around w x.1)
    (hended : ∀ x ∈ taken, x.2.isEnded = true) :
    (taken.flatMap (·.2.found)).map Prod.fst = taken.filterMap (·.1.lookup?) := by
  induction taken with
  | nil => rfl
  | cons x taken ih =>
    obtain ⟨c, h⟩ := x
    rw [List.forall_mem_cons] at htaken hended
    obtain ⟨around, w, hx⟩ := htaken.1
    obtain rfl : h = Worker.handle around w c := hx
    rw [List.flatMap_cons, List.map_append, ih htaken.2 hended.2]
    cases c with
    | fetch kind id =>
      obtain ⟨result, hfound⟩ := Worker.found_of_isEnded hended.1
      simp [hfound, Command.lookup?]
    | _ =>
      rw [Worker.found_of_lookup?_eq_none around w rfl]
      rfl

/-- The last result is the one of the last lookup, if all commands have ended. -/
theorem lastFound_of_getLast? (htaken : ∀ x ∈ taken, ∃ around w, x.2 = Worker.handle around w x.1)
    (hended : ∀ x ∈ taken, x.2.isEnded = true) {kind : Lifecycle.Kind} {id : String}
    {result : Lifecycle.Result}
    (hresult : (taken.flatMap (·.2.found)).getLast? = some ((kind, id), result)) :
    LastFound taken kind id result := by
  induction taken using List.reverseRecOn with
  | nil => cases hresult
  | append_singleton taken x ih =>
    obtain ⟨c, h⟩ := x
    rw [List.forall_mem_append, List.forall_mem_singleton] at htaken hended
    rw [List.flatMap_append, List.flatMap_singleton] at hresult
    obtain ⟨around, w, hx⟩ := htaken.2
    obtain rfl : h = Worker.handle around w c := hx
    cases hc : c.lookup? with
    | none =>
      rw [Worker.found_of_lookup?_eq_none around w hc, List.append_nil] at hresult
      obtain ⟨earlier, h, later, rfl, hlater, hmem⟩ := ih htaken.1 hended.1 hresult
      refine ⟨earlier, h, later ++ [(c, Worker.handle around w c)], by simp, ?_, hmem⟩
      rw [List.forall_mem_append, List.forall_mem_singleton]
      exact ⟨hlater, hc⟩
    | some subject =>
      cases c with
      | fetch =>
        obtain ⟨found, hfound⟩ := Worker.found_of_isEnded hended.2
        rw [hfound, List.getLast?_concat] at hresult
        cases hresult
        refine ⟨taken, _, [], rfl, by simp, Handled.mem_found_iff.mp ?_⟩
        rw [hfound]
        exact List.mem_singleton_self _
      | _ => cases hc

end Taken

namespace Chronicle

variable {r r' : Chronicle}

/-- What was looked up. -/
def lookups (r : Chronicle) : List (Lifecycle.Kind × String) := r.sent.filterMap Command.lookup?

/-- The results that were delivered, and what each was found for. -/
def found (r : Chronicle) : List ((Lifecycle.Kind × String) × Lifecycle.Result) :=
  r.accepted.filterMap Update.found?

/-- What the worker has found, by where it is: the first results were delivered. -/
theorem Sound.found_taken (hr : r.Sound) : r.taken.flatMap (·.2.found) =
    r.found ++ (r.scene.session.updates ++
      r.scene.unsent.filterMap Message.update?).filterMap Update.found? := by
  calc r.taken.flatMap (·.2.found)
      = (r.taken.flatMap (·.2.updates)).filterMap Update.found? := by
        rw [List.filterMap_flatMap]
        rfl
    _ = _ := by
        rw [hr.updates_taken, List.filterMap_append]
        rfl

/-- No more results are delivered than were asked for. -/
theorem Sound.length_found_le (hr : r.Sound) : r.found.length ≤ r.lookups.length := by
  have hsubjects := (subjects_found_taken_sublist hr.handled).length_le
  have hlookups : r.lookups =
      r.taken.filterMap (·.1.lookup?) ++ r.scene.session.commands.filterMap Command.lookup? := by
    rw [lookups, hr.sent, List.filterMap_append, List.filterMap_map]
    rfl
  rw [List.length_map, hr.found_taken, List.length_append] at hsubjects
  rw [hlookups, List.length_append]
  omega

/-- Commands that are sent are looked up after all others. -/
theorem lookups_sent (r : Chronicle) (scene : Scene) (commands : List Command) :
    lookups { r with scene, sent := r.sent ++ commands } =
      r.lookups ++ commands.filterMap Command.lookup? :=
  List.filterMap_append

/-- Every change of a chronicle keeps the view with the lookups. -/
theorem Sound.follows_change (hr : r.Sound) (hchange : Change r r')
    (hpanel : r.panel.Follows r.lookups r.found) : r'.panel.Follows r'.lookups r'.found := by
  cases hchange with
  | idle => exact hpanel
  | took => exact hpanel
  | @told m => cases m <;> exact hpanel
  | heard => exact hpanel.congr (r.panel.foldl_hear_sameLookup _)
  | accepted =>
    have haccepted := hpanel.foldl_accept r.scene.session.updates
    rw [found, ← List.filterMap_append] at haccepted
    exact haccepted
  | asked hasks =>
    rw [lookups_sent]
    cases hasks with
    | other hlookup hcommands =>
      rw [hcommands, List.append_nil]
      exact hpanel.congr hlookup
    | opened view hview => exact Panel.follows_opened hview hr.length_found_le

/-- The view follows the lookups through every course. -/
theorem follows_ofBeats (c : Catalogue) (beats : List Beat) :
    (ofBeats c beats).panel.Follows (ofBeats c beats).lookups (ofBeats c beats).found :=
  ofBeats_induction c Panel.follows_initial
    (fun _ _ hr hchange hpanel => hr.follows_change hchange hpanel) beats

/-- All commands were taken and have ended, and all that was sent has been delivered. -/
structure Settled (r : Chronicle) : Prop where
  commands : r.scene.session.commands = []
  ended : ∀ x ∈ r.taken, x.2.isEnded = true
  unsent : r.scene.unsent = []
  quiet : r.scene.session.Quiet

/-- In the end all commands that were sent were taken, in this order. -/
theorem Settled.taken (hsettled : r.Settled) (hr : r.Sound) : r.taken.map Prod.fst = r.sent := by
  rw [hr.sent, hsettled.commands, List.append_nil]

/-- In the end all results were delivered. -/
theorem Settled.found (hsettled : r.Settled) (hr : r.Sound) :
    r.taken.flatMap (·.2.found) = r.found := by
  rw [hr.found_taken, hsettled.quiet.updates, hsettled.unsent]
  exact List.append_nil _

/-- The result in the open view was found for it. -/
theorem Sound.found_of_view (hr : r.Sound) (hpanel : r.panel.Follows r.lookups r.found)
    {view : Lifecycle.View} {result : Lifecycle.Result} (hview : r.panel.view = some view)
    (hresult : view.result = some result) :
    ∃ h, (.fetch view.kind view.id, h) ∈ r.taken ∧
      .lifecycle view.kind view.id result ∈ h.updates := by
  have hshown : r.panel.result? = some result := by simp [Panel.result?, hview, hresult]
  obtain ⟨subject, hsubject, hmem⟩ := hpanel.result result hshown
  obtain rfl : view.subject = subject := by simpa [Panel.subject?, hview] using hsubject
  have htaken : (view.subject, result) ∈ r.taken.flatMap (·.2.found) := by
    rw [hr.found_taken]
    exact List.mem_append_left _ hmem
  obtain ⟨⟨c, h⟩, hx, hfound⟩ := List.mem_flatMap.mp htaken
  obtain ⟨around, w, hhandle⟩ := hr.handled _ hx
  obtain rfl : h = Worker.handle around w c := hhandle
  have hupdate := Handled.mem_found_iff.mp hfound
  obtain rfl := Worker.eq_fetch_of_mem_updates hupdate
  exact ⟨_, hx, hupdate⟩

/-- In the end the open view has the result of the last lookup. -/
theorem Settled.lastFound (hsettled : r.Settled) (hr : r.Sound)
    (hpanel : r.panel.Follows r.lookups r.found) {view : Lifecycle.View}
    (hview : r.panel.view = some view) :
    ∃ result, view.result = some result ∧ LastFound r.taken view.kind view.id result := by
  have hfound := hsettled.found hr
  have hsubjects : r.found.map Prod.fst = r.lookups := by
    rw [← hfound, subjects_found_taken hr.handled hsettled.ended, lookups, ← hsettled.taken hr,
      List.filterMap_map]
    rfl
  have hopen : (r.found.map Prod.fst).getLast? = some view.subject := by
    rw [hsubjects, ← hpanel.subject, Panel.subject?, hview]
    rfl
  rw [List.getLast?_map] at hopen
  obtain ⟨⟨subject, result⟩, hlast, rfl⟩ := Option.map_eq_some_iff.mp hopen
  have hresult : r.panel.result? = some result := by
    rw [hpanel.last hsubjects, hlast]
    rfl
  refine ⟨result, ?_, lastFound_of_getLast? hr.handled hsettled.ended (by rw [hfound, hlast]; rfl)⟩
  simpa [Panel.result?, hview] using hresult

/-- **A result comes into the view that it was found for, and the last one stays.** In
every course, the result in the open view was found by a lookup of just this kind and
identifier. And when all commands have ended and everything has been delivered, the open
view has the result of the last lookup that was sent; and a view is open unless no lookup
was ever sent. -/
theorem ofBeats_lookups (c : Catalogue) (beats : List Beat) :
    let r := ofBeats c beats
    (∀ view result, r.panel.view = some view → view.result = some result →
      ∃ h, (.fetch view.kind view.id, h) ∈ r.taken ∧
        .lifecycle view.kind view.id result ∈ h.updates) ∧
    (r.Settled → r.taken.map Prod.fst = r.sent ∧
      (r.panel.view = none → r.lookups = []) ∧
      ∀ view, r.panel.view = some view →
        ∃ result, view.result = some result ∧ LastFound r.taken view.kind view.id result) := by
  intro r
  have hr : r.Sound := sound_ofBeats c beats
  have hpanel : r.panel.Follows r.lookups r.found := follows_ofBeats c beats
  refine ⟨fun _ _ hview => hr.found_of_view hpanel hview,
    fun hsettled => ⟨hsettled.taken hr, ?_, fun _ hview => hsettled.lastFound hr hpanel hview⟩⟩
  intro hview
  have hnone : r.panel.subject? = none := by rw [Panel.subject?, hview]; rfl
  exact List.getLast?_eq_none_iff.mp (hpanel.subject.symm.trans hnone)

end Chronicle

/-- A server that reports the same number of hits for everything that is looked up. -/
def Surroundings.counting (hits : Int) : Surroundings where
  files := Surroundings.willing.files
  remote := {
    service := Surroundings.willing.remote.service
    lookup _ _ := some (.ok (.object [("hits", .object [("total", .integer hits)])])) }

/-- The operator looks a unit up. -/
def lookUpBeats (id : String) : List Beat :=
  [.gesture (.fill ⟨.unit, id, ""⟩), .gesture (.press (.act .openLifecycle))]

/-- The worker takes a lookup and tells what it has found. -/
def findBeats (hits : Int) : List Beat :=
  [.take (.counting hits), .pass .tell, .pass .tell, .pass .tell]

/-- A unit is looked up, then another one, and the first one again, before the worker has
begun. The first result is delivered at once, the others in the end. -/
def repeatedLookups : List Beat :=
  lookUpBeats "a" ++ lookUpBeats "b" ++ lookUpBeats "a" ++
    findBeats 2 ++ [.pass .hear, .pass .accept] ++
    findBeats 3 ++ findBeats 4 ++ [.pass .hear, .pass .accept]

/-- The view that was opened last has the result of the third lookup in the end. -/
theorem Chronicle.ofBeats_lookups_repeatedLookups :
    (ofBeats .bare repeatedLookups).Settled ∧
      ∃ view result, (ofBeats .bare repeatedLookups).panel.view = some view ∧
        view.result = some result ∧ result.totalHits = 4 ∧
        LastFound (ofBeats .bare repeatedLookups).taken view.kind view.id result := by
  have hsettled : (ofBeats .bare repeatedLookups).Settled := by
    refine ⟨?_, ?_, ?_, ?_, ?_⟩ <;> decide +kernel
  have hhits : (ofBeats .bare repeatedLookups).panel.result?.map (·.totalHits) = some 4 := by
    decide +kernel
  obtain ⟨result, hresult, hcount⟩ := Option.map_eq_some_iff.mp hhits
  obtain ⟨view, hview, hshown⟩ := Option.bind_eq_some_iff.mp hresult
  obtain ⟨last, hlast, hfound⟩ :=
    ((ofBeats_lookups .bare repeatedLookups).2 hsettled).2.2 view hview
  obtain rfl : result = last := Option.some.inj (hshown.symm.trans hlast)
  exact ⟨hsettled, view, result, hview, hshown, hcount, hfound⟩

end ArchiveDesk
