import Accounts.Proofs.Http.Calls
import Accounts.Proofs.Token.Undated
import Accounts.Proofs.Uuid.Text

/-!
# Tokens that are not accepted

Whatever is wrong with the token of a request, the response is the same.  There are two exceptions,
for which nothing was made: a token that is signed and in force, and whose expiry is no date; and a
token whose JSON is nested deeper than there is room for.

    no token, or a refused one             ->  unauthorized, however it is refused
    expiry without a date, JSON too deep   ->  the text for what nothing was made for
-/

namespace Accounts.Http

open Handler Text

variable {room : Nat} {secret name : String} {r : Request} {w : World}

/-- What is done with the token that a request carries. -/
theorem run_claims_of_carries {token : String} (h : r.Carries name token) (w : World) :
    (Http.claims room secret name r).run w = Handler.run (match Token.read room w.now secret token with
      | .ok claims => pure claims
      | .error fault =>
        match rejection? fault with
        | some reason => do
          Handler.request (.log (.tokenRejected reason))
          throw .unauthorized
        | none => throw .unforeseen) w := by
  unfold Http.claims
  rw [carries_iff.1 h]
  rfl

/-- A fault that is not translated: an expiry without a date, or JSON that is nested too deep. -/
inductive Escapes : Token.Fault → Prop where
  | badExpiry (fault : Token.ExpiryFault) : Escapes (.badExpiry fault)
  | tooDeep : Escapes .tooDeep

/-- What a request says about who sends it: it carries an accepted token, or it is refused as every
other one is, or the fault of its token escapes. -/
theorem claims_verdict (room : Nat) (secret name : String) (r : Request) (w : World) :
    (∃ token claims, r.Carries name token ∧ Token.read room w.now secret token = .ok claims) ∨
    (∃ events, (Http.claims room secret name r).run w =
      (.error .unauthorized, { w with events := events })) ∨
    (∃ token fault, r.Carries name token ∧ Token.read room w.now secret token = .error fault ∧
      Escapes fault) ∧ (Http.claims room secret name r).run w = (.error .unforeseen, w) := by
  cases htoken : token? name r with
  | none =>
    refine .inr (.inl ⟨w.events, ?_⟩)
    unfold Http.claims
    rw [htoken]
    rfl
  | some token =>
    have hcarries : r.Carries name token := carries_iff.2 htoken
    have hescapes {fault : Token.Fault} (hread : Token.read room w.now secret token = .error fault)
        (h : Escapes fault) : (Http.claims room secret name r).run w = (.error .unforeseen, w) := by
      rw [run_claims_of_carries hcarries, hread]
      cases h <;> rfl
    rcases Token.read_cases room w.now secret token with ⟨claims, hread⟩ | ⟨fault, hfault, hread⟩ |
      ⟨⟨fault, hread⟩, -⟩ | ⟨hread, -⟩
    · exact .inl ⟨token, claims, hcarries, hread⟩
    · refine .inr (.inl ?_)
      rw [run_claims_of_carries hcarries, hread]
      simp only [Token.refusals, List.mem_cons, List.not_mem_nil, or_false] at hfault
      rcases hfault with rfl | rfl | rfl | rfl <;> exact ⟨_, rfl⟩
    · exact .inr (.inr ⟨⟨token, _, hcarries, hread, .badExpiry fault⟩,
        hescapes hread (.badExpiry fault)⟩)
    · exact .inr (.inr ⟨⟨token, _, hcarries, hread, .tooDeep⟩, hescapes hread .tooDeep⟩)

/-- A request for the own account whose sender is not known gets the response of the refusal. -/
theorem record_of_refused {setup : Setup} {faults : Faults} {refusal : Refusal}
    {events : List Event} (h : r.At .me [])
    (hrun : (setup.site.claims r).run (w.facing faults) =
      (.error refusal, { w.facing faults with events := events })) :
    (Move.record setup ⟨.http r, faults⟩ w).answer =
      .ok (.response (setup.site.responseOf r (.error refusal))) := by
  have hmethod : r.method = "GET" := h.method.symm
  have hquestion : questionResponse? setup.site.origins r = none := by
    refine questionResponse?_of_method ?_ _
    rw [hmethod]
    decide
  have hrespond : (respond setup.site r).run (w.facing faults) =
      (.error refusal, { w.facing faults with events := events }) := by
    unfold respond
    rw [(destination_of_path rfl h).2]
    exact run_bind_error _ hrun
  obtain ⟨events', hserve⟩ := run_serve hquestion (w.facing faults)
  rw [Move.record_answer, Step.run_http, hserve, hrespond]
  unfold Response.toMethod
  rw [if_neg (by rw [hmethod]; decide)]

/-- **Bad tokens are refused.**  Decoding a token gives claims or one of four refusals, unless the
token is signed, passes every check, and has an expiry that is no date; or its header, or under a good
signature its payload, is nested deeper than there is room for; or it has no bytes.  A request for the
own account is answered by the service when its token is accepted; in all other cases but the first two
of those it gets the same response, with the status 401. -/
theorem bad_tokens_are_refused (setup : Setup) :
    (∀ room now secret (token : LooseText),
      (∃ claims, Token.decode room now secret token = .ok claims) ∨
      (∃ fault ∈ Token.refusals, Token.decode room now secret token = .error fault) ∨
      (∃ fault, Token.decode room now secret token = .error (.badExpiry fault)) ∧
        Token.EndsUndated now secret token.chars ∨
      Token.decode room now secret token = .error .tooDeep ∧
        Token.EndsTooDeep room secret token.chars ∨
      (∃ fault, Token.decode room now secret token = .error (.encoding fault)) ∧
        token.isWhole = false) ∧
    ∀ (faults : Faults) (r : Request) (w : World), r.At .me [] →
      (∃ token claims, r.Carries setup.site.cookie.name token ∧
        Token.read setup.site.room w.now setup.identity.secret token = .ok claims ∧
        (Move.record setup ⟨.http r, faults⟩ w).answer = .ok (.response (setup.site.responseOf r
          (setup.site.outcome w.now (.find claims.accountId)
            (Move.record setup ⟨.find claims.accountId, faults⟩ w).answer)))) ∨
      (Move.record setup ⟨.http r, faults⟩ w).answer =
        .ok (.response (setup.site.dress r (Refusal.response .unauthorized))) ∨
      (∃ token fault, r.Carries setup.site.cookie.name token ∧
        Token.read setup.site.room w.now setup.identity.secret token = .error fault ∧
        Escapes fault) ∧
        (Move.record setup ⟨.http r, faults⟩ w).answer =
          .ok (.response (Refusal.response .unforeseen)) := by
  refine ⟨Token.decode_cases, fun faults r w h => ?_⟩
  rcases claims_verdict setup.site.room setup.identity.secret setup.site.cookie.name r
      (w.facing faults) with ⟨token, claims, hcarries, hread⟩ | ⟨events, hrun⟩ | ⟨hbad, hrun⟩
  · have hcall : r.StandsFor setup.site w.now (.find claims.accountId) := .me h hcarries hread
    exact .inl ⟨token, claims, hcarries, hread, (record_of_standsFor hcall faults).2⟩
  · exact .inr (.inl (record_of_refused h hrun))
  · exact .inr (.inr ⟨hbad, record_of_refused h hrun⟩)

/-! ## Samples -/

/-- A request for the own account with a credential. -/
def bearing (token : String) : Request where
  method := "GET"
  target := ⟨"/auth/me".toList, []⟩
  headers := [("Authorization", "Bearer " ++ token)]
  body := ""

theorem at_bearing (token : String) : (bearing token).At .me [] := ⟨rfl, rfl⟩

/-- A text without blanks is carried as it is. -/
theorem carries_bearing {token : String} (hne : token ≠ "")
    (hblank : ∀ c ∈ token.toList, isBlank c = false) (name : String) :
    (bearing token).Carries name token := by
  have hheader : (bearing token).header? "authorization" = some ("Bearer " ++ token) := by
    have hname : "Authorization".toLower = "authorization" := by decide +kernel
    simp only [Request.header?, Request.values, bearing, List.filterMap_cons, hname, if_true,
      List.head?_cons]
  have hcut : cut? ' ' ("Bearer " ++ token).toList = some ("Bearer".toList, token.toList) := by
    rw [cut?_eq_some_iff, String.toList_append]
    exact ⟨rfl, by decide⟩
  have hscheme : (String.ofList "Bearer".toList).toLower = "bearer" := by decide +kernel
  have hstrip : strip (String.ofList token.toList) = token := by
    rw [strip, String.toList_ofList, Uuid.trimList_of_none hblank, String.ofList_toList]
  left
  unfold bearerToken?
  rw [hheader, Option.bind_some, hcut]
  dsimp only
  rw [hstrip, if_pos ⟨hscheme, hne⟩]

theorem bad_tokens_are_refused_sample :
    (bearing "a.b.c").At .me [] ∧
    (Move.record .sample ⟨.http (bearing "a.b.c"), {}⟩ (World.fresh 0 "")).answer =
      .ok (.response (Setup.sample.site.dress (bearing "a.b.c") (Refusal.response .unauthorized))) := by
  have hread : Token.read Setup.sample.site.room (World.fresh 0 "").now
      Setup.sample.identity.secret "a.b.c" = .error .malformed := by decide +kernel
  have hblank : "a.b.c".toList.all (fun c => !isBlank c) = true := by decide
  have hcarries {token : String}
      (h : (bearing "a.b.c").Carries Setup.sample.site.cookie.name token) : token = "a.b.c" := by
    have hown : (bearing "a.b.c").Carries Setup.sample.site.cookie.name "a.b.c" :=
      carries_bearing (by decide) (fun c hc => by simpa using List.all_eq_true.1 hblank c hc) _
    rw [carries_iff] at h hown
    exact Option.some.inj (h.symm.trans hown)
  refine ⟨at_bearing _, ?_⟩
  rcases (bad_tokens_are_refused .sample).2 {} (bearing "a.b.c") (World.fresh 0 "") (at_bearing _) with
    ⟨token, claims, h, hok, -⟩ | h | ⟨⟨token, fault, h, hbad, hescapes⟩, -⟩
  · obtain rfl := hcarries h
    rw [hread] at hok
    cases hok
  · exact h
  · obtain rfl := hcarries h
    rw [hread] at hbad
    cases hbad
    cases hescapes

/-- The members of a payload whose expiry is a text. -/
def textMembers : List (String × Json) :=
  [("id", .str "11111111-1111-1111-1111-111111111111"), ("email", .str "a@x.com"),
    ("iat", .int 1700000000), ("exp", .str "1700003600")]

/-- A token of that payload. -/
def textToken : String :=
  String.ofList (Token.sign Token.plainSecret
    (Token.segment (Token.header.chars .ascii) ++ '.' :: Token.segment ((Json.obj textMembers).chars .ascii)))

theorem read_textToken (room : Nat) : Token.read room Token.looseNow Token.plainSecret
    textToken = .error (.badExpiry .notANumber) := by
  have hkey : Token.keyFault? Token.plainSecret = none := by decide +kernel
  have hexact : (Json.obj textMembers).Exact :=
    ⟨by decide, trivial, trivial, Token.length_digits_of_lt (by decide), trivial, trivial⟩
  have hmembers : Token.objectOfBytes room (utf8 ((Json.obj textMembers).chars .ascii)) =
      .ok textMembers := Token.objectOfBytes_chars hexact (by decide)
  have hclaims : Token.checkClaims Token.looseNow textMembers = .error (.badExpiry .notANumber) := by
    decide +kernel
  exact (Token.read_sign hkey hmembers Token.looseNow).trans hclaims

theorem carries_textToken (name : String) : (bearing textToken).Carries name textToken := by
  have hpoint : isBlank '.' = false := by decide
  have hencode (bytes : Digest.Bytes) : ∀ c ∈ Base64Url.encode bytes, isBlank c = false := by
    have hsix : ∀ n < 64, isBlank (Base64Url.encodeSix n) = false := by decide
    intro c hc
    rw [Base64Url.encode_eq_map] at hc
    obtain ⟨n, hn, rfl⟩ := List.mem_map.1 hc
    exact hsix n (Base64Url.sixes_lt bytes n hn)
  refine carries_bearing ?_ (fun c hc => ?_) name
  · intro hempty
    have hlength := congrArg String.toList hempty
    rw [textToken, String.toList_ofList] at hlength
    cases (List.append_eq_nil_iff.1 hlength).2
  · rw [textToken, String.toList_ofList] at hc
    simp only [Token.sign, Token.segment, List.mem_append, List.mem_cons] at hc
    rcases hc with (hc | rfl | hc) | rfl | hc
    · exact hencode _ c hc
    · exact hpoint
    · exact hencode _ c hc
    · exact hpoint
    · exact hencode _ c hc

/-- A token that is signed and in force, and whose expiry is a text, is neither accepted nor refused,
and the response is the one for what nothing was made for. -/
theorem text_expiry_escapes :
    (∀ room, Token.read room Token.looseNow Token.plainSecret textToken =
      .error (.badExpiry .notANumber)) ∧
    (Move.record .sample ⟨.http (bearing textToken), {}⟩ (World.fresh Token.looseNow "")).answer =
      .ok (.response (Refusal.response .unforeseen)) ∧
    (Refusal.response .unforeseen).status = 500 := by
  have hrun : (Setup.sample.site.claims (bearing textToken)).run
      ((World.fresh Token.looseNow "").facing {}) =
        (.error .unforeseen, { (World.fresh Token.looseNow "").facing {} with events := [] }) := by
    rw [Site.claims, run_claims_of_carries (carries_textToken _)]
    rw [show Token.read Setup.sample.site.room ((World.fresh Token.looseNow "").facing {}).now
      Setup.sample.site.identity.secret textToken = _ from read_textToken _]
    rfl
  exact ⟨read_textToken, record_of_refused (at_bearing _) hrun, rfl⟩

end Accounts.Http
