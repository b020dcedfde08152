import Accounts.Proofs.Http.Shielding
import Accounts.Proofs.Settings.Origins
import Accounts.World.Start

/-!
# Access from other sites

The text of the settings decides alone which sites may use a response.  Both ways to a response, the
answer to a question and what an endpoint or a refusal gives, name the origin of the request when it
is granted access, and no other; the text for what nothing was made for names none.

    granted = [origin]   when the text lists the origin of the request, or a star
    granted = []         otherwise
-/

namespace Accounts

namespace Http

open Settings (Lists)

variable {site : Site} {r : Request} {response : Response} {w : World} {origins : List String}
  {text : String}

/-- The origins that a response grants access to. -/
def Response.granted (response : Response) : List String :=
  fieldValues "access-control-allow-origin" response.headers

/-- The origin of a request, if it is granted access. -/
def grantedOrigins (origins : List String) (r : Request) : List String :=
  (r.header? "origin").toList.filter (grants origins)

/-! ## Fields -/

theorem fieldValues_grantFields (origins : List String) (origin : String) :
    fieldValues "access-control-allow-origin" (grantFields origins origin) =
      [origin].filter (grants origins) := by
  unfold grantFields
  rw [List.filter_singleton]
  cases grants origins origin <;> rfl

theorem fieldValues_originFields (origins : List String) (r : Request) :
    fieldValues "access-control-allow-origin" (originFields origins r) =
      grantedOrigins origins r := by
  unfold originFields grantedOrigins
  cases r.header? "origin" with
  | none => rfl
  | some origin => exact fieldValues_grantFields origins origin

theorem granted_toMethod (method : String) (response : Response) :
    (response.toMethod method).granted = response.granted := by
  unfold Response.granted
  rw [headers_toMethod]

/-- What an endpoint or a refusal gives is dressed with the grant, which it has not itself. -/
theorem granted_dress (h : response.IsUndressed) (site : Site) (r : Request) :
    (site.dress r response).granted = grantedOrigins site.origins r := by
  have hown : Avoids ["access-control-allow-origin"] (response.headers ++ securityFields) :=
    .append (h.avoids (by decide)) (by unfold Avoids; decide)
  show fieldValues _ (response.headers ++ securityFields ++ originFields site.origins r) = _
  rw [fieldValues_append, hown.fieldValues (List.mem_singleton_self _), List.nil_append,
    fieldValues_originFields]

theorem granted_answerQuestion (origins : List String) (origin method : String) (r : Request) :
    (answerQuestion origins origin method r).granted = [origin].filter (grants origins) := by
  obtain ⟨status, -, s, heq⟩ := answerQuestion_eq origins origin method r
  have hrest : Avoids ["access-control-allow-origin"] (answerFields r) :=
    (named_answerFields r).avoids (by decide)
  rw [heq]
  show fieldValues _ ([_] ++ (grantFields origins origin ++ answerFields r)) = _
  rw [fieldValues_append, fieldValues_append, fieldValues_grantFields,
    hrest.fieldValues (List.mem_singleton_self _), List.append_nil]
  rfl

theorem granted_of_question (h : questionResponse? origins r = some response) :
    response.granted = grantedOrigins origins r := by
  unfold questionResponse? at h
  split at h
  case h_1 origin method horigin _ =>
    split at h
    · rw [← Option.some.inj h, granted_answerQuestion, grantedOrigins, horigin]
      rfl
    · cases h
  case h_2 => cases h

theorem granted_unforeseen (method : String) :
    ((Refusal.response .unforeseen).toMethod method).granted = [] := by
  rw [granted_toMethod]
  rfl

/-! ## Responses -/

/-- Every response grants access to the origin of its request as the list has it, but the text for
what nothing was made for. -/
theorem granted_serve (site : Site) (r : Request) (w : World) :
    ((serve site r).run w).1 = (Refusal.response .unforeseen).toMethod r.method ∨
      ((serve site r).run w).1.granted = grantedOrigins site.origins r := by
  rcases serve_outcomes site r w with hq | ⟨-, hunforeseen | ⟨inner, hinner, hdressed⟩⟩
  · exact .inr (granted_of_question hq)
  · exact .inl hunforeseen
  · right
    rw [hdressed, granted_toMethod, granted_dress hinner]

/-- A list that is read from a text grants access to what the text lists, and to all for a star. -/
theorem grants_originsOf_iff (text origin : String) :
    grants (Settings.originsOf text) origin = true ↔ Lists text origin ∨ Lists text "*" := by
  unfold grants
  rw [Bool.or_eq_true, List.contains_iff_mem, List.contains_iff_mem, Settings.mem_originsOf_iff,
    Settings.mem_originsOf_iff, or_comm]

/-- Which sites a response grants access to, when a text lists the origins. -/
structure Sharing (text : String) (r : Request) (response : Response) : Prop where
  /-- The origin of the request is granted access if and only if the text lists it or a star, but
  not by the text for what nothing was made for. -/
  listed : response ≠ (Refusal.response .unforeseen).toMethod r.method →
    ∀ origin, r.header? "origin" = some origin →
      (response.granted ≠ [] ↔ Lists text origin ∨ Lists text "*")
  /-- No other origin is, and it is told once. -/
  own : response.granted = [] ∨
    ∃ origin, r.header? "origin" = some origin ∧ response.granted = [origin]
  /-- The text for what nothing was made for grants no access. -/
  unforeseen : response = (Refusal.response .unforeseen).toMethod r.method → response.granted = []

theorem grantedOrigins_cases (origins : List String) (r : Request) : grantedOrigins origins r = [] ∨
    ∃ origin, r.header? "origin" = some origin ∧ grantedOrigins origins r = [origin] := by
  unfold grantedOrigins
  cases r.header? "origin" with
  | none => exact .inl rfl
  | some origin =>
    rw [Option.toList_some, List.filter_singleton]
    cases grants origins origin with
    | true => exact .inr ⟨origin, rfl, rfl⟩
    | false => exact .inl rfl

theorem grantedOrigins_ne_nil_iff {origin : String} (h : r.header? "origin" = some origin) :
    grantedOrigins origins r ≠ [] ↔ grants origins origin = true := by
  unfold grantedOrigins
  rw [h, Option.toList_some, List.filter_singleton]
  cases grants origins origin <;> simp

theorem serve_sharing (horigins : site.origins = Settings.originsOf text) (r : Request)
    (w : World) : Sharing text r ((serve site r).run w).1 := by
  have hserve := granted_serve site r w
  rw [horigins] at hserve
  constructor
  case listed =>
    intro hforeseen origin horigin
    rw [hserve.resolve_left hforeseen, grantedOrigins_ne_nil_iff horigin, grants_originsOf_iff]
  case own =>
    rcases hserve with hunforeseen | hgranted
    · left
      rw [hunforeseen, granted_unforeseen]
    · rw [hgranted]
      exact grantedOrigins_cases _ r
  case unforeseen =>
    intro hunforeseen
    rw [hunforeseen, granted_unforeseen]

end Http

open Settings

/-- **Only listed origins are granted access.**  In every world, and whatever faults it meets,
a request gets a response that grants access to its origin if the text of the settings lists the
origin or a star, and to no other.  Texts are read without loss: joined by a comma they are read one
after the other, what is read is neither empty nor has a comma or blanks around it, and with commas
between it is read back. -/
theorem only_listed_origins_are_granted :
    (∀ (settings : Settings) (room : Nat) (pages : Http.Page → String) (faults : Faults)
        (r : Http.Request) (w : World),
      ∃ response, (Move.record (.ofSettings settings room pages) ⟨.http r, faults⟩ w).answer =
          .ok (.response response) ∧ Http.Sharing settings.corsOriginsText r response) ∧
      (∀ s t, originsOf (s ++ "," ++ t) = originsOf s ++ originsOf t) ∧
      (∀ s, ∀ origin ∈ originsOf s, Listable origin) ∧
      ∀ s, originsOf (String.intercalate "," (originsOf s)) = originsOf s := by
  have hlistable (s : String) : ∀ origin ∈ originsOf s, Listable origin :=
    fun origin horigin => (mem_originsOf_iff.1 horigin).listable
  refine ⟨?_, originsOf_comma, hlistable, fun s => originsOf_intercalate (hlistable s)⟩
  intro settings room pages faults r w
  exact ⟨_, congrArg Prod.fst (Step.run_http (.ofSettings settings room pages) r (w.facing faults)),
    Http.serve_sharing rfl r (w.facing faults)⟩

/-- Settings that list two sites, with blanks between them. -/
def sampleSettings : Settings where
  databaseUrl := "sqlite+aiosqlite:///accounts.db"
  dbPoolSize := 10
  dbMaxOverflow := 20
  redisUrl := "redis://localhost:6379"
  redisEnabled := true
  redisPoolSize := 20
  redisSocketTimeout := .ofInt 2
  accountCacheTtl := 3600
  jwtSecretKey := "test-secret-key-long-enough-for-hs256-signing"
  jwtExpireMinutes := 60
  cookieName := "jwt-token"
  cookieMaxAge := 3600
  cookieSecure := false
  cookieHttpOnly := true
  requestTimeoutSeconds := .ofInt 15
  corsOriginsText := "https://app.example , https://admin.example,"

/-- A call from the second site, to a path that leads nowhere. -/
def sampleCall : Http.Request where
  method := "GET"
  target := ⟨"/accounts".toList, []⟩
  headers := [("Host", "test"), ("Origin", "https://admin.example")]
  body := ""

theorem only_listed_origins_are_granted_sampleCall :
    sampleCall.header? "origin" = some "https://admin.example" ∧
    Lists sampleSettings.corsOriginsText "https://admin.example" ∧
    ∃ response, (Move.record (.ofSettings sampleSettings 900 fun _ => "") ⟨.http sampleCall, {}⟩
        (World.fresh 0 "")).answer = .ok (.response response) ∧
      response ≠ (Http.Refusal.response .unforeseen).toMethod sampleCall.method ∧
      response.granted = ["https://admin.example"] := by
  have horigin : sampleCall.header? "origin" = some "https://admin.example" := by decide +kernel
  have hlists : Lists sampleSettings.corsOriginsText "https://admin.example" :=
    mem_originsOf_iff.1 (by decide +kernel)
  obtain ⟨response, hanswer, hsharing⟩ :=
    only_listed_origins_are_granted.1 sampleSettings 900 (fun _ => "") {} sampleCall
      (World.fresh 0 "")
  have hserved : response = ((Http.serve (Setup.ofSettings sampleSettings 900 fun _ => "").site
      sampleCall).run ((World.fresh 0 "").facing {})).1 := by
    rw [Move.record_answer, Step.run_http] at hanswer
    exact (Answer.response.inj (Except.ok.inj hanswer)).symm
  have hforeseen :
      response ≠ (Http.Refusal.response .unforeseen).toMethod sampleCall.method := by
    intro hunforeseen
    have hstatus : response.status = 404 := by
      rw [hserved]
      decide +kernel
    rw [hunforeseen] at hstatus
    exact absurd hstatus (by decide)
  refine ⟨horigin, hlists, response, hanswer, hforeseen, ?_⟩
  rcases hsharing.own with hnone | ⟨origin, heq, hgranted⟩
  · exact absurd hnone ((hsharing.listed hforeseen _ horigin).2 (.inl hlists))
  · rw [hgranted, Option.some.inj (heq.symm.trans horigin)]

end Accounts
