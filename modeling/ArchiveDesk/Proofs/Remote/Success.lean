import ArchiveDesk.Desk.Worker
import ArchiveDesk.Json.Writer
import ArchiveDesk.Proofs.Url.Below

/-!
# What counts as success

A file and a deletion succeed by the status of the response alone. A lookup refuses a response
only if its status is an error, and otherwise believes its content. The two agree on every
status that reports success or an error; the file says exactly on which responses with another
status they do not.
-/

namespace ArchiveDesk

open Http

namespace Lifecycle.Result

/-- The lookup has come to nothing. -/
structure IsVoid (result : Result) : Prop where
  not_valid : result.isValid = false
  totalHits : result.totalHits = 0
  events : result.events = []

/-- A result is void if and only if it counts no hits. -/
theorem isVoid_iff {result : Result} : result.IsVoid ↔ result.totalHits = 0 := by
  refine ⟨IsVoid.totalHits, fun hzero => ?_⟩
  cases result with
  | entry events => cases hzero
  | mismatch hits => exact ⟨rfl, hzero, rfl⟩

/-- A result counts the hits that its payload reports. -/
theorem totalHits_ofPayload (payload : Json) :
    (ofPayload payload).totalHits = reported payload := by
  unfold ofPayload
  dsimp only
  split
  · exact Eq.symm ‹_›
  · rfl

end Lifecycle.Result

open Lifecycle (Result)

namespace Http.Response

/-- The statuses of success are those from 200 on, below 300. -/
theorem isSuccess_iff (r : Response) : r.isSuccess = true ↔ 200 ≤ r.status ∧ r.status < 300 := by
  simp [isSuccess]

/-- The statuses of errors are those from 400 on, below 600. -/
theorem isError_iff (r : Response) : r.isError = true ↔ 400 ≤ r.status ∧ r.status < 600 := by
  simp [isError]

/-- The value that the content of a response is the text of. -/
def payload? (r : Response) : Option Json := String.fromUTF8? r.body >>= Json.parse?

/-- The count of hits that the content of a response reports; none if it is no JSON text. -/
def hits (r : Response) : Int := (r.payload?.map Result.reported).getD 0

/-- What a lookup makes of a response. -/
def found (r : Response) : Result :=
  if r.isError then .mismatch 0 else (r.payload?.map Result.ofPayload).getD (.mismatch 0)

/-- What a lookup makes of a response is the result that is found in it. -/
theorem lookupReply_answered (r : Response) :
    (Remote.lookupReply (.answered r)).map Result.ofAnswer = some r.found := by
  unfold Remote.lookupReply found payload?
  dsimp only
  split
  · rfl
  · cases String.fromUTF8? r.body >>= Json.parse? <;> rfl

/-- A response yields a void result exactly if it is an error or reports no hits. -/
theorem found_isVoid_iff {r : Response} : r.found.IsVoid ↔ r.isError = true ∨ r.hits = 0 := by
  rw [Result.isVoid_iff, found, hits]
  by_cases herror : r.isError = true
  · rw [if_pos herror]
    exact iff_of_true rfl (.inl herror)
  · rw [if_neg herror, or_iff_right herror]
    cases r.payload? with
    | none => exact iff_of_true rfl rfl
    | some payload => exact Iff.of_eq (congrArg (· = 0) (Result.totalHits_ofPayload payload))

end Http.Response

namespace Remote

/-- A file is accepted by a response of success only. -/
theorem fileReply_eq_accepted_iff {r : Response} :
    fileReply (.answered r) = .accepted ↔ r.isSuccess = true := by
  unfold fileReply
  dsimp only
  split <;> simp [*]

/-- A deletion is confirmed by a response of success only. -/
theorem deletionReply_eq_ok_iff {r : Response} :
    deletionReply (.answered r) = .ok () ↔ r.isSuccess = true := by
  unfold deletionReply
  dsimp only
  split <;> simp [*]

/-- A worker makes of a lookup what its response says. -/
theorem lookup?_ofNetwork {s : Settings} {e : FormatEndpoints} {network : Network}
    {kind : Lifecycle.Kind} {id : String} {url : Url} {r : Response}
    (hurl : s.lifecycleUrl kind id = .ok url)
    (hanswer : network (.plain .get url) = .answered r) :
    Worker.lookup? (ofNetwork s e network) kind id = some r.found := by
  have hlookup : (ofNetwork s e network).lookup kind id = lookupReply (.answered r) := by
    simp only [ofNetwork, hurl, hanswer]
  rw [Worker.lookup?, hlookup]
  exact r.lookupReply_answered

/-! ## Responses that are neither -/

/-- A content that reports one hit, with one event. -/
def oneHit : ByteArray :=
  (Json.object [("hits", .object [("total", .integer 1)]),
    ("result", .object [("events", .array [.object [("outcome", .text "OK")]])])]).write.toUTF8

/-- The body with one hit reports it, whatever the status. -/
theorem hits_oneHit (status : Nat) : (Response.mk status oneHit).hits = 1 := by
  have hhits : (Response.mk 300 oneHit).hits = 1 := by decide +kernel
  exact hhits

/-- A status makes up for every content if it reports success or an error. -/
theorem found_isVoid_of_status_iff (status : Nat) :
    (∀ body, (Response.mk status body).isSuccess = false → (Response.mk status body).found.IsVoid) ↔
      (200 ≤ status ∧ status < 300) ∨ (400 ≤ status ∧ status < 600) := by
  have hsuccess (body : ByteArray) := (Response.mk status body).isSuccess_iff
  have herror (body : ByteArray) := (Response.mk status body).isError_iff
  constructor
  · intro hvoid
    by_cases h : 200 ≤ status ∧ status < 300
    · exact .inl h
    · have hfailed : (Response.mk status oneHit).isSuccess = false :=
        Bool.eq_false_iff.mpr (mt (hsuccess oneHit).mp h)
      obtain hstatus | hnone := Response.found_isVoid_iff.mp (hvoid oneHit hfailed)
      · exact .inr ((herror oneHit).mp hstatus)
      · exact absurd ((hits_oneHit status).symm.trans hnone) (by decide)
  · rintro (h | h) body hfailed
    · exact absurd ((hsuccess body).mpr h) (Bool.eq_false_iff.mp hfailed)
    · exact Response.found_isVoid_iff.mpr (.inl ((herror body).mpr h))

/-- Files and deletions succeed exactly if the status of the response reports success. A lookup
comes to what is found in the response. That this is nothing unless the status reports success
holds of exactly the responses whose status reports success or an error, or whose content reports
no hits; so it holds of a status, whatever the content, exactly if the status reports success or
an error. -/
theorem void_unless_success_iff (s : Settings) (e : FormatEndpoints) (network : Network) :
    (∀ item r, network (.deliver (address e item.target) item.content) = .answered r →
      ((ofNetwork s e network).service.send item = .accepted ↔ r.isSuccess = true)) ∧
    (∀ r, network (.plain .delete e.delete) = .answered r →
      ((ofNetwork s e network).service.delete = .ok () ↔ r.isSuccess = true)) ∧
    (∀ kind id url r, s.lifecycleUrl kind id = .ok url →
      network (.plain .get url) = .answered r →
      Worker.lookup? (ofNetwork s e network) kind id = some r.found) ∧
    (∀ r : Response, (r.isSuccess = false → r.found.IsVoid) ↔
      r.isSuccess = true ∨ r.isError = true ∨ r.hits = 0) ∧
    ∀ status, (∀ body, (Response.mk status body).isSuccess = false →
        (Response.mk status body).found.IsVoid) ↔
      (200 ≤ status ∧ status < 300) ∨ (400 ≤ status ∧ status < 600) := by
  refine ⟨fun item r hanswer => ?_, fun r hanswer => ?_,
    fun kind id url r => lookup?_ofNetwork, fun r => ?_, found_isVoid_of_status_iff⟩
  · have hsend : (ofNetwork s e network).service.send item = fileReply (.answered r) :=
      congrArg fileReply hanswer
    rw [hsend, fileReply_eq_accepted_iff]
  · have hdelete : (ofNetwork s e network).service.delete = deletionReply (.answered r) :=
      congrArg deletionReply hanswer
    rw [hdelete, deletionReply_eq_ok_iff]
  · rw [Response.found_isVoid_iff]
    cases r.isSuccess <;> simp

/-- A response with several choices counts as a lifecycle, although it is no success for a file
or a deletion. -/
theorem exists_lookup_not_void :
    ∃ (e : FormatEndpoints) (network : Network) (url : Url) (r : Response) (result : Result),
      Settings.initial.formatEndpoints = .ok e ∧
      Settings.initial.lifecycleUrl .unit "aeaq" = .ok url ∧
      network (.plain .get url) = .answered r ∧ r.isSuccess = false ∧
      (ofNetwork .initial e network).service.delete ≠ .ok () ∧
      Worker.lookup? (ofNetwork .initial e network) .unit "aeaq" = some result ∧
      ¬ result.IsVoid ∧ result.isValid = true ∧ result.events.length = 1 := by
  have hendpoints : Settings.initial.formatEndpoints.toOption.isSome = true := by decide +kernel
  have haddress : (Settings.initial.lifecycleUrl .unit "aeaq").toOption.isSome = true := by
    decide +kernel
  obtain ⟨e, he⟩ := Option.isSome_iff_exists.mp hendpoints
  obtain ⟨url, hurl⟩ := Option.isSome_iff_exists.mp haddress
  have hvalid : (Response.mk 300 oneHit).found.isValid = true := by decide +kernel
  have hevents : (Response.mk 300 oneHit).found.events.length = 1 := by decide +kernel
  refine ⟨e, fun _ => .answered ⟨300, oneHit⟩, url, ⟨300, oneHit⟩, _, Url.eq_ok_of_toOption he,
    Url.eq_ok_of_toOption hurl, rfl, by decide, fun hdeleted => ?_,
    lookup?_ofNetwork (Url.eq_ok_of_toOption hurl) rfl, fun hvoid => ?_, hvalid, hevents⟩
  · have hreply : deletionReply (.answered ⟨300, oneHit⟩) = .ok () := hdeleted
    exact absurd (deletionReply_eq_ok_iff.mp hreply) (by decide)
  · exact absurd hvalid (Bool.eq_false_iff.mp hvoid.not_valid)

end Remote

end ArchiveDesk
