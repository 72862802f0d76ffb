import DepGraph.Proofs.Ingestion.Report
import DepGraph.Server

/-!
# How a server answers what fails

A server answers a failure with an object of two fields, a status that says that there was an error
and a detail (`DepGraph.Http.Response.IsUniform`), whatever the fault is
(`DepGraph.Http.Failure.isUniform_ofFault`). But not every failure is a fault of an endpoint: some
requests are **answered plainly** (`DepGraph.Server.AnsweredPlainly`), in another form, and
`DepGraph.Server.isUniform_respond_iff` says that these are the only ones.

| who answers plainly | the body |
|---|---|
| the answer to a page of another origin that asks before it sends | a text |
| the routing, where no route fits | an object with a detail alone |
| the reading of a body that cannot be read | an object with a detail alone |
| any of them, where only the headers are asked for | an empty text |

A failed ingestion is meant to be answered **coarsely** (`DepGraph.Http.Response.IsCoarse`): that it
failed, and nothing else. This holds of the faults of the family of ingestions and of no others
(`DepGraph.Http.Failure.isCoarse_ofFault_iff`), as every other fault is answered after a label. So
an ingestion that failed is answered coarsely exactly when no fault escaped from it
(`DepGraph.Server.isCoarse_respond_iff`).
-/

namespace DepGraph

open Http

namespace Http

/-! ### Uniform and coarse responses -/

/-- A response is **uniform** if its body is an object with two fields: a status, which says that
there was an error, and a detail, which is a text. -/
def Response.IsUniform (r : Response) : Prop :=
  ∃ fields, r.content = .json (.obj fields) ∧
    (fields.map (·.1)).Perm [Text.ofString "status", Text.ofString "detail"] ∧
    Json.field? (.obj fields) "status" = some (.ofString "error") ∧
    ∃ detail, Json.field? (.obj fields) "detail" = some (.str detail)

/-- A response is **coarse** if it only says that an ingestion failed. -/
structure Response.IsCoarse (r : Response) : Prop where
  /-- Its status is that of a fault of the server. -/
  status : r.status = 500
  /-- Its body says that there was an error, and that it was an ingestion that failed. -/
  content : r.content = .json (.obj [(Text.ofString "status", .ofString "error"),
    (Text.ofString "detail", .ofString "Ingestion failed")])

/-- A response is **plain** if its body is a text, or an object with a detail alone. -/
def Response.IsPlain (r : Response) : Prop :=
  (∃ text, r.content = .text text) ∨
    ∃ detail, r.content = .json (.obj [(Text.ofString "detail", .ofString detail)])

/-- **A plain response is not uniform.** -/
theorem Response.IsPlain.not_isUniform {r : Response} (h : r.IsPlain) : ¬r.IsUniform := by
  rintro ⟨fields, content, names, -⟩
  rcases h with ⟨text, plain⟩ | ⟨detail, plain⟩
  · cases content.symm.trans plain
  · obtain rfl : fields = [(Text.ofString "detail", .ofString detail)] := by
      simpa [content] using plain
    -- it has one field, and a uniform one has two
    exact absurd names.length_eq (by simp)

namespace Failure

/-- **An answer to a failure is uniform**, whatever its status and its detail. -/
theorem isUniform_respond (status : Nat) (detail : String) (headers : Headers) :
    (respond status detail headers).IsUniform := by
  refine ⟨_, rfl, List.Perm.refl _, ?_, Text.ofString detail, ?_⟩
  · simp [Json.field?, Json.Fields.get?]
  · simp [Json.field?, Json.Fields.get?, Json.ofString]

/-- **Every fault is answered uniformly.** -/
theorem isUniform_ofFault (f : Fault) : (ofFault f).IsUniform := by
  unfold ofFault
  split
  · exact isUniform_respond _ _ _
  · exact isUniform_respond _ _ _
  · split
    · exact isUniform_respond _ _ _
    · exact isUniform_respond _ _ _

/-- A text after a label starts as the label does. -/
theorem head?_labelled {label context : String} {c : Char} (h : label.toList.head? = some c) :
    (labelled label context).toList.head? = some c := by
  unfold labelled
  split
  · rw [String.toList_append, String.toList_append, List.append_assoc, List.head?_append, h]
    rfl
  · exact h

/-- The label of a fault of the store starts with its name. -/
theorem head?_label (kind : StoreKind) (message : String) :
    (label (.store kind message)).toList.head? = some 'N' := by
  -- the label depends on the kind alone
  have same : label (.store kind message) = label (.store kind "") := rfl
  rw [same]
  cases kind <;> decide

/-- An answer whose detail starts in another way is not coarse. -/
theorem not_isCoarse_respond {status : Nat} {detail : String} {headers : Headers} {c : Char}
    (h : detail.toList.head? = some c) (hc : c ≠ 'I') :
    ¬(respond status detail headers).IsCoarse := by
  rintro ⟨-, content⟩
  obtain rfl : detail = "Ingestion failed" := by
    simpa [respond, body, Response.json] using content
  exact hc (Option.some.inj h).symm

/-- **A fault is answered coarsely** exactly if it is one of the family of ingestions. -/
theorem isCoarse_ofFault_iff {f : Fault} : (ofFault f).IsCoarse ↔ f.isIngestion = true := by
  constructor
  · intro coarse
    cases f with
    | answer status detail headers =>
      exact absurd coarse (not_isCoarse_respond (head?_labelled rfl) (by decide))
    | store kind message =>
      exact absurd coarse
        (not_isCoarse_respond (head?_labelled (head?_label kind message)) (by decide))
    | ingestion | acquisition | tooManyFiles | unwalkable | rolledBack | unreachable => rfl
    | _ => exact absurd coarse (not_isCoarse_respond (head?_labelled rfl) (by decide))
  · intro family
    rw [ofFault_of_isIngestion family]
    exact ⟨rfl, rfl⟩

end Failure

end Http

namespace Server

variable {s : Server} {failures : Failures} {clone : CloneOutcome} {r : Request}

/-! ### From an endpoint to the response -/

/-- The **answer** to a request before it is shared and sent: that of the routing, or of the
endpoint that it leads to, or of the fault of this endpoint. -/
def unsent (failures : Failures) (clone : CloneOutcome) (r : Request) (s : Server) : Response :=
  match Route.lead s.routes r with
  | .inr response => response
  | .inl endpoint =>
    match (s.answerAt failures clone r endpoint).2 with
    | .ok response => response
    | .error f => Failure.ofFault f

/-- The answer to a page of another origin that asks before it sends, if this is what a request
does. -/
def preflight? (s : Server) (r : Request) : Option Response :=
  if s.isShared then Sharing.answer? r else none

/-- Sharing a response changes neither its status nor its body. -/
theorem shareIf_eq (response : Response) :
    (s.shareIf r response).status = response.status ∧
      (s.shareIf r response).content = response.content := by
  unfold shareIf
  split
  · exact ⟨rfl, rfl⟩
  · exact ⟨rfl, rfl⟩

/-- A response that is dispatched has the status and the body of the answer. -/
theorem dispatch_eq (s : Server) (failures : Failures) (clone : CloneOutcome) (r : Request) :
    (s.dispatch failures clone r).2.status = (s.unsent failures clone r).status ∧
      (s.dispatch failures clone r).2.content = (s.unsent failures clone r).content := by
  unfold dispatch unsent
  cases Route.lead s.routes r with
  | inr response => exact shareIf_eq response
  | inl endpoint =>
    dsimp only
    generalize s.answerAt failures clone r endpoint = answered
    obtain ⟨after, f | response⟩ := answered
    · -- what is not expected is answered outside of sharing, and all else within
      dsimp only
      split
      · exact ⟨rfl, rfl⟩
      · exact shareIf_eq _
    · exact shareIf_eq _

/-- **A request that does not ask first** is answered with the status of its answer, and with the
body too unless only the headers are asked for. -/
theorem respond_of_not_asked (failures : Failures) (clone : CloneOutcome)
    (unasked : s.preflight? r = none) :
    (s.respond failures clone r).2.status = (s.unsent failures clone r).status ∧
      (s.respond failures clone r).2.content =
        if r.method == "HEAD" then .text "" else (s.unsent failures clone r).content := by
  have silent : (if s.isShared then Sharing.answer? r else none) = none := unasked
  obtain ⟨status, content⟩ := dispatch_eq s failures clone r
  simp only [respond, silent, Response.sent]
  split
  · exact ⟨status, rfl⟩
  · exact ⟨status, content⟩

/-- **A request that asks first** is answered with a text. -/
theorem exists_text_of_asked {response : Response} (failures : Failures) (clone : CloneOutcome)
    (asked : s.preflight? r = some response) :
    (s.respond failures clone r).2 = response ∧ ∃ text, response.content = .text text := by
  have answered : (if s.isShared then Sharing.answer? r else none) = some response := asked
  refine ⟨by simp only [respond, answered], ?_⟩
  have told : Sharing.answer? r = some response := by
    split at answered
    · exact answered
    · cases answered
  unfold Sharing.answer? at told
  split at told
  · split at told
    · dsimp only at told
      split at told
      · obtain rfl := Option.some.inj told
        exact ⟨_, rfl⟩
      · obtain rfl := Option.some.inj told
        exact ⟨_, rfl⟩
    · cases told
  · cases told

/-! ### Plain answers -/

/-- A response of the routing is plain: a redirection, or a refusal. -/
theorem isPlain_of_lead {routes : List Route} {response : Response}
    (led : Route.lead routes r = .inr response) : response.IsPlain := by
  unfold Route.lead at led
  split at led
  · dsimp only at led
    split at led
    · obtain rfl := Sum.inr.inj led
      exact Or.inl ⟨_, rfl⟩
    · obtain rfl := Sum.inr.inj led
      exact Or.inr ⟨_, rfl⟩
  · split at led
    · cases led
    · obtain rfl := Sum.inr.inj led
      exact Or.inr ⟨_, rfl⟩

/-- **What an endpoint returns** is a success, or says that the request does not have the form it
needs, or that its body cannot be read. -/
theorem answerAt_eq_ok {endpoint : Endpoint} {response : Response}
    (h : (s.answerAt failures clone r endpoint).2 = .ok response) :
    response.status = 200 ∨ response = Failure.ofForm ∨
      endpoint = .ingest ∧ r.payload = .unreadable ∧ response.IsPlain := by
  cases endpoint with
  | health =>
    obtain rfl := Except.ok.inj h
    exact Or.inl rfl
  | storeHealth =>
    simp only [answerAt, Except.map] at h
    split at h
    · cases h
    · obtain rfl := Except.ok.inj h
      exact Or.inl rfl
  | graph =>
    simp only [answerAt, Except.map] at h
    split at h
    · cases h
    · obtain rfl := Except.ok.inj h
      exact Or.inl rfl
  | ingest =>
    simp only [answerAt, answerIngest] at h
    split at h
    · rename_i unreadable
      obtain rfl := Except.ok.inj h
      exact Or.inr (Or.inr ⟨rfl, unreadable, Or.inr ⟨_, rfl⟩⟩)
    · split at h
      · simp only [ingestRepository, Except.map] at h
        split at h
        · cases h
        · obtain rfl := Except.ok.inj h
          exact Or.inl rfl
      · exact Or.inr (Or.inl (Except.ok.inj h).symm)
    · exact Or.inr (Or.inl (Except.ok.inj h).symm)

/-- A body that cannot be read is answered plainly. -/
theorem isPlain_of_unreadable (led : Route.lead s.routes r = .inl .ingest)
    (unreadable : r.payload = .unreadable) : (s.unsent failures clone r).IsPlain := by
  simp only [unsent, led, answerAt, answerIngest, unreadable]
  exact Or.inr ⟨_, rfl⟩

/-- The requests that are **answered plainly**, by something else than an endpoint. -/
inductive AnsweredPlainly (s : Server) (r : Request) : Prop
  /-- A page of another origin asks before it sends. -/
  | asked (response : Response) (asked : s.preflight? r = some response)
  /-- No route leads to an endpoint. -/
  | unrouted (response : Response) (led : Route.lead s.routes r = .inr response)
  /-- The body cannot be read. -/
  | unreadable (led : Route.lead s.routes r = .inl .ingest) (unreadable : r.payload = .unreadable)
  /-- Only the headers are asked for. -/
  | bodiless (method : r.method = "HEAD")

/-- Such a request has a plain response. -/
theorem AnsweredPlainly.isPlain (h : s.AnsweredPlainly r) :
    (s.respond failures clone r).2.IsPlain := by
  cases asked : s.preflight? r with
  | some response =>
    obtain ⟨same, text⟩ := exists_text_of_asked failures clone asked
    exact Or.inl (same ▸ text)
  | none =>
    have content := (respond_of_not_asked failures clone asked).2
    by_cases head : r.method = "HEAD"
    · rw [if_pos (beq_iff_eq.mpr head)] at content
      exact Or.inl ⟨_, content⟩
    · rw [if_neg (by simpa using head)] at content
      unfold Response.IsPlain
      rw [content]
      cases h with
      | asked response asked' => cases asked.symm.trans asked'
      | unrouted response led =>
        have answer : s.unsent failures clone r = response := by simp only [unsent, led]
        exact answer ▸ isPlain_of_lead led
      | unreadable led unreadable => exact isPlain_of_unreadable led unreadable
      | bodiless method => exact absurd method head

/-- Any other request whose answer is no success has a uniform response. -/
theorem isUniform_of_not_answeredPlainly (h : ¬s.AnsweredPlainly r)
    (failed : 400 ≤ (s.respond failures clone r).2.status) :
    (s.respond failures clone r).2.IsUniform := by
  have asked : s.preflight? r = none := by
    cases asked : s.preflight? r with
    | none => rfl
    | some response => exact absurd (.asked response asked) h
  have head : ¬r.method = "HEAD" := fun head => h (.bodiless head)
  obtain ⟨status, content⟩ := respond_of_not_asked failures clone asked
  rw [if_neg (by simpa using head)] at content
  rw [status] at failed
  unfold Response.IsUniform
  rw [content]
  change (s.unsent failures clone r).IsUniform
  cases led : Route.lead s.routes r with
  | inr response => exact absurd (.unrouted response led) h
  | inl endpoint =>
    simp only [unsent, led] at failed ⊢
    cases answered : (s.answerAt failures clone r endpoint).2 with
    | error f => exact Failure.isUniform_ofFault f
    | ok response =>
      simp only [answered] at failed ⊢
      rcases answerAt_eq_ok answered with success | form | ⟨rfl, unreadable, -⟩
      · omega
      · exact form ▸ Failure.isUniform_respond _ _ _
      · exact absurd (.unreadable led unreadable) h

/-- **A failure is answered uniformly exactly when it is not answered plainly**, and no response is
both. -/
theorem isUniform_respond_iff (s : Server) (failures : Failures) (clone : CloneOutcome)
    (r : Request) (failed : 400 ≤ (s.respond failures clone r).2.status) :
    ((s.respond failures clone r).2.IsUniform ↔ ¬s.AnsweredPlainly r) ∧
      (s.AnsweredPlainly r → (s.respond failures clone r).2.IsPlain) := by
  refine ⟨⟨fun uniform plainly => ?_, fun h => ?_⟩, AnsweredPlainly.isPlain⟩
  · exact plainly.isPlain.not_isUniform uniform
  · exact isUniform_of_not_answeredPlainly h failed

/-! ### The whole service -/

/-- The routes of the whole service. The pages on which it describes itself (`/docs`,
`/docs/oauth2-redirect`, `/redoc` and `/openapi.json`) are left out: they are only read, and they
lead to no ingestion. -/
def wholeRoutes : List Route := Route.base ++ Route.ofStore ++ Route.ofService

/-- A request that asks to post to the address for ingestions is led there. -/
theorem lead_wholeRoutes_ingest (method : r.method = "POST") (path : r.path = "/ingest") :
    Route.lead wholeRoutes r = .inl .ingest := by
  have fits : wholeRoutes.filter (·.path == "/ingest") = [⟨"POST", "/ingest", .ingest⟩] := by decide
  simp [Route.lead, path, fits, method]

/-- A server of the whole service with nothing set. -/
def quietServer : Server where
  routes := wholeRoutes
  service := Ingestion.quietService
  directories := { root := "ws" }

/-- A request to ingest that does not say what. -/
def formlessRequest : Request := { method := "POST", target := "/ingest" }

/-- A request that does not have the form it needs is answered uniformly. -/
theorem isUniform_respond_iff_formless :
    400 ≤ (quietServer.respond {} .nothing formlessRequest).2.status ∧
      ¬quietServer.AnsweredPlainly formlessRequest ∧
      (quietServer.respond {} .nothing formlessRequest).2.IsUniform := by
  have unasked : quietServer.preflight? formlessRequest = none := rfl
  have led : Route.lead quietServer.routes formlessRequest = .inl .ingest :=
    lead_wholeRoutes_ingest rfl (by decide +kernel)
  have payload : formlessRequest.payload = .nothing := rfl
  have failed : 400 ≤ (quietServer.respond {} .nothing formlessRequest).2.status := by
    rw [(respond_of_not_asked _ _ unasked).1]
    simp only [unsent, led, answerAt, answerIngest, payload]
    decide
  have served : ¬quietServer.AnsweredPlainly formlessRequest := by
    rintro (⟨response, asked⟩ | ⟨response, led'⟩ | ⟨-, unreadable⟩ | method)
    · cases unasked.symm.trans asked
    · cases led.symm.trans led'
    · cases payload.symm.trans unreadable
    · exact absurd method (by decide)
  exact ⟨failed, served, (isUniform_respond_iff _ _ _ _ failed).1.mpr served⟩

/-- A request that leads nowhere. -/
def strayRequest : Request := { method := "GET", target := "/nowhere" }

/-- A request that leads nowhere is not found. -/
theorem lead_strayRequest :
    Route.lead wholeRoutes strayRequest = .inr (Failure.plainDetail 404 "Not Found" []) := by
  have path : strayRequest.path = "/nowhere" := by decide +kernel
  have unfit : wholeRoutes.filter (·.path == "/nowhere") = [] := by decide
  have other : wholeRoutes.any (·.path == Route.otherPath "/nowhere") = false := by decide
  simp [Route.lead, path, unfit, other]

/-- **Not every failure is answered uniformly**: where no route leads to an endpoint it is not. -/
theorem not_forall_isUniform_respond :
    ¬∀ (s : Server) (failures : Failures) (clone : CloneOutcome) (r : Request),
      s.routes = wholeRoutes → 400 ≤ (s.respond failures clone r).2.status →
        (s.respond failures clone r).2.IsUniform := by
  intro uniform
  have led : Route.lead quietServer.routes strayRequest =
      .inr (Failure.plainDetail 404 "Not Found" []) := lead_strayRequest
  have unasked : quietServer.preflight? strayRequest = none := rfl
  have failed : 400 ≤ (quietServer.respond {} .nothing strayRequest).2.status := by
    rw [(respond_of_not_asked _ _ unasked).1]
    simp only [unsent, led]
    decide
  have plain : (quietServer.respond {} .nothing strayRequest).2.IsPlain :=
    AnsweredPlainly.isPlain (.unrouted _ led)
  exact plain.not_isUniform (uniform quietServer {} .nothing strayRequest rfl failed)

/-! ### Failed ingestions -/

/-- The repository that a request asks to ingest, if its body has the form it needs. -/
def requested? (r : Request) : Option String :=
  match r.payload with
  | .value j => repository? j
  | _ => none

/-- A request **asks to ingest** a repository if it posts that to the address for ingestions. -/
structure AsksToIngest (r : Request) (repoUrl : String) : Prop where
  /-- It posts. -/
  method : r.method = "POST"
  /-- It is for the address for ingestions. -/
  path : r.path = "/ingest"
  /-- Its body has the form it needs, and names the repository. -/
  requested : requested? r = some repoUrl

/-- What the endpoint for ingestions answers where the body has the form it needs. -/
theorem answerIngest_of_requested {repoUrl : String} (requested : requested? r = some repoUrl) :
    s.answerIngest failures clone r = s.ingestRepository failures clone repoUrl := by
  unfold requested? at requested
  split at requested
  · rename_i j payload
    simp only [answerIngest, payload, requested]
  · cases requested

/-- **An ingestion that failed** is answered with the answer to its fault. -/
theorem respond_of_failed {repoUrl : String} {f : Fault} (routes : s.routes = wholeRoutes)
    (asks : AsksToIngest r repoUrl)
    (failed : (ingest s.service failures clone repoUrl s.directories s.store).outcome =
      .error f) :
    (s.respond failures clone r).2.status = (Failure.ofFault f).status ∧
      (s.respond failures clone r).2.content = (Failure.ofFault f).content := by
  have unasked : s.preflight? r = none := by
    have options : ¬r.method = "OPTIONS" := by
      rw [asks.method]
      decide
    unfold preflight? Sharing.answer?
    split
    · split
      · rw [if_neg (by simpa using options)]
      · rfl
    · rfl
  have led : Route.lead s.routes r = .inl .ingest := by
    rw [routes]
    exact lead_wholeRoutes_ingest asks.method asks.path
  have answer : s.unsent failures clone r = Failure.ofFault f := by
    simp only [unsent, led, answerAt, answerIngest_of_requested asks.requested, ingestRepository,
      failed, Except.map]
  obtain ⟨status, content⟩ := respond_of_not_asked failures clone unasked
  rw [asks.method, if_neg (by decide), answer] at content
  rw [answer] at status
  exact ⟨status, content⟩

/-- An ingestion that failed is answered coarsely if its fault would be. -/
theorem isCoarse_respond {repoUrl : String} {f : Fault} (routes : s.routes = wholeRoutes)
    (asks : AsksToIngest r repoUrl)
    (failed : (ingest s.service failures clone repoUrl s.directories s.store).outcome =
      .error f) :
    (s.respond failures clone r).2.IsCoarse ↔ f.isIngestion = true := by
  obtain ⟨status, content⟩ := respond_of_failed routes asks failed
  rw [← Failure.isCoarse_ofFault_iff]
  constructor
  · rintro ⟨status', content'⟩
    exact ⟨status.symm.trans status', content.symm.trans content'⟩
  · rintro ⟨status', content'⟩
    exact ⟨status.trans status', content.trans content'⟩

/-- **An ingestion that failed is answered coarsely exactly when no fault escaped from it.** One
that escaped is answered as it is: with the status of its answer, and with its body. -/
theorem isCoarse_respond_iff (s : Server) (failures : Failures) (clone : CloneOutcome)
    (r : Request) (repoUrl : String) (f : Fault) (routes : s.routes = wholeRoutes)
    (asks : AsksToIngest r repoUrl)
    (failed : (ingest s.service failures clone repoUrl s.directories s.store).outcome =
      .error f) :
    ((s.respond failures clone r).2.IsCoarse ↔
      ¬∃ g, Ingestion.Escapes s.service failures clone s.directories g) ∧
    ∀ g, Ingestion.Escapes s.service failures clone s.directories g →
      (s.respond failures clone r).2.status = (Failure.ofFault g).status ∧
        (s.respond failures clone r).2.content = (Failure.ofFault g).content := by
  have only (g : Fault) (escapes : Ingestion.Escapes s.service failures clone s.directories g) :
      g = f :=
    Except.error.inj ((Ingestion.outcome_of_escapes escapes).symm.trans failed)
  refine ⟨?_, fun g escapes => only g escapes ▸ respond_of_failed routes asks failed⟩
  rw [isCoarse_respond routes asks failed]
  constructor
  · rintro family ⟨g, escapes⟩
    obtain rfl := only g escapes
    cases escapes.isIngestion_eq_false.symm.trans family
  · intro guarded
    cases inside : f.isIngestion with
    | true => rfl
    | false => exact absurd ⟨f, Ingestion.escapes_of_outcome failed inside⟩ guarded

/-- A request to ingest a repository. -/
def ingestRequest : Request where
  method := "POST"
  target := "/ingest"
  headers := [("content-type", "application/json")]
  body := "\x7b\"repoUrl\":\"r\"\x7d".toUTF8.toList

/-- It asks for that. -/
theorem asksToIngest_ingestRequest : AsksToIngest ingestRequest "r" where
  method := rfl
  path := by decide +kernel
  requested := by decide +kernel

/-- An ingestion that cannot be cloned is answered coarsely. -/
theorem isCoarse_respond_iff_nothing :
    quietServer.routes = wholeRoutes ∧ AsksToIngest ingestRequest "r" ∧
      (∃ f, (ingest quietServer.service {} .nothing "r" quietServer.directories
        quietServer.store).outcome = .error f) ∧
      (quietServer.respond {} .nothing ingestRequest).2.IsCoarse := by
  have failed : (ingest quietServer.service {} .nothing "r" quietServer.directories
      quietServer.store).outcome = .error _ := rfl
  refine ⟨rfl, asksToIngest_ingestRequest, ⟨_, failed⟩, ?_⟩
  refine (isCoarse_respond_iff _ _ _ _ "r" _ rfl asksToIngest_ingestRequest failed).1.mpr ?_
  -- what escapes has been cloned
  rintro ⟨g, escapes⟩
  cases escapes with
  | noRepository _ _ cloned => cases cloned
  | pattern _ _ _ _ cloned => cases cloned
  | rebuild _ _ _ _ _ cloned => cases cloned

/-- **Not every failed ingestion is answered coarsely**: one that finds no repository in what was
cloned is answered with what it found. -/
theorem not_forall_isCoarse_respond :
    ¬∀ (s : Server) (failures : Failures) (clone : CloneOutcome) (r : Request) (repoUrl : String)
      (f : Fault), s.routes = wholeRoutes → AsksToIngest r repoUrl →
        (ingest s.service failures clone repoUrl s.directories s.store).outcome = .error f →
        (s.respond failures clone r).2.IsCoarse := by
  intro coarse
  have escapes : Ingestion.Escapes quietServer.service {} (.bare (.directory []))
      quietServer.directories
      (.noRepository (Ingestion.placeFor quietServer.service quietServer.directories)) :=
    .noRepository _ rfl rfl
  have failed : (ingest quietServer.service {} (.bare (.directory [])) "r" quietServer.directories
      quietServer.store).outcome = .error _ := Ingestion.outcome_of_escapes escapes
  have inside := (isCoarse_respond rfl asksToIngest_ingestRequest failed).mp
    (coarse _ _ _ _ _ _ rfl asksToIngest_ingestRequest failed)
  cases inside

end Server

end DepGraph
