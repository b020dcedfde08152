import Accounts.Proofs.Json.Depth
import Accounts.Proofs.Number.Binary64
import Accounts.Proofs.Token.RoundTrip

/-!
# What an accepted token is

A token is accepted only when it was signed with the secret, by the digest that its own header names,
and when its payload grants what is read from it:

    read room now secret token = .ok claims
      ->  token = header "." payload "." signature
          header writes an object whose alg names a digest
          signature = hmac of header "." payload with the secret and that digest
          payload writes an object that grants claims at this time
-/

namespace Accounts

/-- The value of a JSON number; a truth value counts as one or zero. -/
def Json.number? : Json → Option ℚ
  | .int n => some n
  | .bool b => some (if b then 1 else 0)
  | .float x => x.value?
  | _ => none

namespace Token

open Calendar Digest Number Text

variable {room : Nat} {now : Instant} {secret token : String} {claims : Claims}
  {header payload members : List (String × Json)}

/-! ## Steps -/

theorem bind_eq_ok {x : Except ε α} {f : α → Except ε β} {b : β} (h : (x >>= f) = .ok b) :
    ∃ a, x = .ok a ∧ f a = .ok b := by
  cases x with
  | error fault => cases h
  | ok a => exact ⟨a, rfl, h⟩

theorem demand_eq_ok {fault : ε} {o : Option α} {a : α} (h : demand fault o = .ok a) :
    o = some a := by
  cases o with
  | none => cases h
  | some b => rw [Except.ok.inj h]

theorem require_eq_ok {fault : ε} {holds : Bool} {u : Unit} (h : require fault holds = .ok u) :
    holds = true := by
  cases holds with
  | false => cases h
  | true => rfl

/-- The faults that a token is refused for. -/
def refusals : List Fault := [.malformed, .badSignature, .unsupportedAlgorithm, .expired]

/-- A result that is no refusal. -/
def Unrefused (result : Except Fault α) : Prop := ∀ fault ∈ refusals, result ≠ .error fault

/-- A check that fails with a refusal, if it fails. -/
def Refusing (x : Except Fault α) : Prop := ∀ fault, x = .error fault → fault ∈ refusals

theorem unrefused_ok (a : α) : Unrefused (.ok a) := fun _ _ => nofun

theorem unrefused_error {fault : Fault} (α : Type) (h : fault ∉ refusals) :
    Unrefused (.error fault : Except Fault α) := by
  intro other hother heq
  cases heq
  exact h hother

theorem not_mem_refusals {fault : Fault} (h : Unrefused (.error fault : Except Fault α)) :
    fault ∉ refusals := fun hfault => h fault hfault rfl

theorem refusing_demand {fault : Fault} (h : fault ∈ refusals) (o : Option α) :
    Refusing (demand fault o) := by
  intro other hother
  cases o with
  | none =>
    cases hother
    exact h
  | some a => cases hother

theorem refusing_require {fault : Fault} (h : fault ∈ refusals) (holds : Bool) :
    Refusing (require fault holds) := by
  intro other hother
  cases holds with
  | false =>
    cases hother
    exact h
  | true => cases hother

theorem Refusing.bind {x : Except Fault α} {f : α → Except Fault β} (hx : Refusing x)
    (hf : ∀ a, Refusing (f a)) : Refusing (x >>= f) := by
  intro fault h
  cases x with
  | error other =>
    cases h
    exact hx fault rfl
  | ok a => exact hf a fault h

/-- Before a result that is no refusal every check went through. -/
theorem Refusing.passed {x : Except Fault α} {f : α → Except Fault β} {result : Except Fault β}
    (hx : Refusing x) (h : (x >>= f) = result) (hr : Unrefused result) :
    ∃ a, x = .ok a ∧ f a = result := by
  cases x with
  | error fault => exact absurd h.symm (hr fault (hx fault rfl))
  | ok a => exact ⟨a, rfl, h⟩

/-! ## Segments -/

/-- The three segments of a token.  Only the payload can have further points in it. -/
structure Segments (token : String) where
  header : List Char
  payload : List Char
  signature : List Char
  toList_eq : token.toList = header ++ '.' :: payload ++ '.' :: signature
  header_whole : '.' ∉ header
  signature_whole : '.' ∉ signature

/-- The text that the signature is for. -/
def Segments.signed (s : Segments token) : List Char := s.header ++ '.' :: s.payload

/-- A segment writes a JSON object in base 64, which is read where there is room for it. -/
def Writes (segment : List Char) (members : List (String × Json)) : Prop :=
  ∃ bytes cs room, Base64Url.decode? segment = some bytes ∧ Json.decodeText? bytes = some cs ∧
    Json.read (.within room) cs = .ok (.obj members)

theorem Writes.unique {segment : List Char} (h : Writes segment members)
    (h' : Writes segment payload) : members = payload := by
  obtain ⟨bytes, cs, room, hbytes, hcs, hmembers⟩ := h
  obtain ⟨bytes', cs', room', hbytes', hcs', hpayload⟩ := h'
  obtain rfl : bytes = bytes' := Option.some.inj (hbytes.symm.trans hbytes')
  obtain rfl : cs = cs' := Option.some.inj (hcs.symm.trans hcs')
  exact Json.obj.inj (Json.read_unique hmembers hpayload)

/-- A segment writes JSON that is nested too deep for the room there is. -/
def NestedTooDeep (room : Nat) (segment : List Char) : Prop :=
  ∃ bytes cs, Base64Url.decode? segment = some bytes ∧ Json.decodeText? bytes = some cs ∧
    Json.read (.within room) cs = .error .tooDeep

theorem objectOfBytes_eq_ok {bytes : Bytes} (h : objectOfBytes room bytes = .ok members) :
    ∃ cs, Json.decodeText? bytes = some cs ∧ Json.read (.within room) cs = .ok (.obj members) := by
  unfold objectOfBytes at h
  split at h
  · rename_i hobject
    rw [← Except.ok.inj h]
    exact Option.map_eq_some_iff.1 hobject
  · cases h
  · cases h

/-- The bytes of an object are read wherever there is more room for it. -/
theorem objectOfBytes_of_le {more : Nat} {bytes : Bytes} (h : objectOfBytes room bytes = .ok members)
    (hle : room ≤ more) : objectOfBytes more bytes = .ok members := by
  obtain ⟨cs, hcs, hread⟩ := objectOfBytes_eq_ok h
  have hmore : Json.read (.within more) cs = Json.read (.within room) cs :=
    Json.read_of_le (hread ▸ nofun) (Nat.succ_le_succ hle)
  unfold objectOfBytes
  rw [hcs, Option.map_some, hmore, hread]

/-- The bytes of an object are read, unless they are refused or there is no room for them. -/
theorem object_or_tooDeep {bytes : Bytes} {f : List (String × Json) → Except Fault α}
    {result : Except Fault α} (h : (objectOfBytes room bytes >>= f) = result)
    (hr : Unrefused result) :
    (result = .error .tooDeep ∧ ∃ cs, Json.decodeText? bytes = some cs ∧
      Json.read (.within room) cs = .error .tooDeep) ∨
    ∃ members, (∃ cs, Json.decodeText? bytes = some cs ∧
      Json.read (.within room) cs = .ok (.obj members)) ∧ f members = result := by
  unfold objectOfBytes at h
  split at h
  · rename_i members hobject
    exact .inr ⟨members, Option.map_eq_some_iff.1 hobject, h⟩
  · rename_i hdeep
    exact .inl ⟨h.symm, Option.map_eq_some_iff.1 hdeep⟩
  · exact absurd h.symm (hr .malformed (by decide))

/-- A token is taken apart into three segments, unless it is refused or its header has no room. -/
theorem segments_of_ofChars {result : Except Fault Parts}
    (h : Parts.ofChars room token.toList = result) (hr : Unrefused result) :
    (result = .error .tooDeep ∧ ∃ s : Segments token, NestedTooDeep room s.header) ∨
    ∃ parts, result = .ok parts ∧ ∃ s : Segments token, parts.signed = s.signed ∧
      Writes s.header parts.header ∧ Base64Url.decode? s.payload = some parts.payload ∧
      Base64Url.decode? s.signature = some parts.signature := by
  unfold Parts.ofChars at h
  obtain ⟨⟨signed, signature⟩, hlast, h⟩ := (refusing_demand (by decide) _).passed h hr
  obtain ⟨⟨header, payload⟩, hfirst, h⟩ := (refusing_demand (by decide) _).passed h hr
  obtain ⟨bytes, hheader, h⟩ := (refusing_demand (by decide) _).passed h hr
  obtain ⟨htoken, hsignature⟩ := cutLast?_eq_some_iff.1 (demand_eq_ok hlast)
  obtain ⟨rfl, hwhole⟩ := cut?_eq_some_iff.1 (demand_eq_ok hfirst)
  rcases object_or_tooDeep h hr with ⟨hdeep, cs, hcs, hread⟩ | ⟨object, ⟨cs, hcs, hread⟩, h⟩
  · exact .inl ⟨hdeep, ⟨header, payload, signature, htoken, hwhole, hsignature⟩, bytes, cs,
      demand_eq_ok hheader, hcs, hread⟩
  · obtain ⟨body, hbody, h⟩ := (refusing_demand (by decide) _).passed h hr
    obtain ⟨code, hcode, h⟩ := (refusing_demand (by decide) _).passed h hr
    exact .inr ⟨_, h.symm, ⟨header, payload, signature, htoken, hwhole, hsignature⟩, rfl,
      ⟨bytes, cs, room, demand_eq_ok hheader, hcs, hread⟩, demand_eq_ok hbody, demand_eq_ok hcode⟩

/-- A token has its segments in one way. -/
theorem Segments.unique (s s' : Segments token) : s = s' := by
  have hlast : cutLast? '.' token.toList = some (s.signed, s.signature) :=
    cutLast?_eq_some_iff.2 ⟨s.toList_eq, s.signature_whole⟩
  have hlast' : cutLast? '.' token.toList = some (s'.signed, s'.signature) :=
    cutLast?_eq_some_iff.2 ⟨s'.toList_eq, s'.signature_whole⟩
  obtain ⟨hsigned, hsignature⟩ := Prod.mk.inj (Option.some.inj (hlast.symm.trans hlast'))
  have hfirst : cut? '.' s.signed = some (s.header, s.payload) :=
    cut?_eq_some_iff.2 ⟨rfl, s.header_whole⟩
  have hfirst' : cut? '.' s.signed = some (s'.header, s'.payload) :=
    cut?_eq_some_iff.2 ⟨hsigned, s'.header_whole⟩
  obtain ⟨hheader, hpayload⟩ := Prod.mk.inj (Option.some.inj (hfirst.symm.trans hfirst'))
  cases s
  cases s'
  cases hheader
  cases hpayload
  cases hsignature
  rfl

/-! ## Header -/

/-- The name of the digest of a signature. -/
def hashName : Hash → String
  | .sha256 => "HS256"
  | .sha384 => "HS384"
  | .sha512 => "HS512"

/-- A header that names a digest names it by its name. -/
theorem algorithm?_eq_some {hash : Hash} (h : algorithm? header = some hash) :
    Json.member? "alg" header = some (.str (hashName hash)) := by
  unfold algorithm? at h
  split at h
  all_goals first
    | cases h
      assumption
    | cases h

/-! ## Claims -/

/-- A claim counts as a whole number of seconds: a number by its integer part, a text by the integer
that it writes. -/
inductive CountsAs : Json → Int → Prop
  | number {j : Json} {x : ℚ} (h : j.number? = some x) : CountsAs j (truncated x)
  | text {s : String} {n : Int} (h : readInteger? 10 s = some n) : CountsAs (.str s) n

/-- What a payload has to say at a time for claims to be read from it. -/
structure Grants (now : Instant) (payload : List (String × Json)) (claims : Claims) : Prop where
  /-- The expiry is a number of seconds in the future, and stands in the claims to the microsecond. -/
  expiry : ∃ j x, Json.member? "exp" payload = some j ∧ j.number? = some x ∧
    now < truncated x * second ∧ |(claims.expiresAt.instant : ℚ) - x * second| < 1 ∧
    claims.expiresAt.offset = some .utc
  /-- The payload was issued and is in force, as far as it says when. -/
  started : ∀ name ∈ ["iat", "nbf"], ∀ j, Json.member? name payload = some j →
    ∃ n, CountsAs j n ∧ n * second ≤ now
  /-- The account is named by a text, or by an integer whose digits are the text. -/
  account : ∃ s, (Json.member? "id" payload = some (.str s) ∨
      ∃ n, Json.member? "id" payload = some (.int n) ∧ s = intText n) ∧
    Uuid.readLoose s = .ok claims.accountId
  email : Json.member? "email" payload = some (.str claims.email) ∨
    Json.member? "email" payload = some (.brokenStr claims.email)

/-- The value of a number is its integer part. -/
theorem integerClaim?_of_number? {j : Json} {x : ℚ} (h : j.number? = some x) :
    integerClaim? j = some (truncated x) := by
  cases j with
  | int n =>
    cases h
    rw [truncated_intCast]
    rfl
  | bool b =>
    cases h
    cases b with
    | false => exact congrArg some (truncated_intCast 0).symm
    | true => exact congrArg some (truncated_intCast 1).symm
  | float y =>
    have hvalue : y.value? = some x := h
    show y.truncate? = _
    rw [Binary64.truncate?_eq, hvalue]
    rfl
  | null | str _ | brokenStr _ | arr _ | obj _ => cases h

theorem countsAs_of_integerClaim? {j : Json} {n : Int} (h : integerClaim? j = some n) :
    CountsAs j n := by
  have hnumber {x : ℚ} (hx : j.number? = some x) : CountsAs j n := by
    rw [integerClaim?_of_number? hx] at h
    rw [← Option.some.inj h]
    exact .number hx
  cases j with
  | int i => exact hnumber rfl
  | bool b => exact hnumber rfl
  | float y =>
    have hfloat : y.truncate? = some n := h
    rw [Binary64.truncate?_eq, Option.map_eq_some_iff] at hfloat
    obtain ⟨x, hx, -⟩ := hfloat
    exact hnumber hx
  | str s => exact .text h
  | null | brokenStr _ | arr _ | obj _ => cases h

/-- What a date and time that was read from an expiry says. -/
theorem expiryOf_eq_ok {j : Json} {d : DateTime} (h : expiryOf j = .ok d) :
    ∃ t, instantOf j = .ok t ∧ d.instant = t ∧ d.offset = some .utc := by
  unfold expiryOf at h
  cases hinstant : instantOf j with
  | error fault =>
    rw [hinstant] at h
    cases h
  | ok t =>
    rw [hinstant] at h
    refine ⟨t, rfl, ?_⟩
    by_cases hword : (wordMax 64 + 1) * second ≤ t
    · cases (if_pos hword).symm.trans h
    · replace h := (if_neg hword).symm.trans h
      dsimp only at h
      split at h
      · rename_i hdate
        cases h
        exact DateTime.instant_of_ofInstant? rfl hdate
      · split at h <;> cases h

/-- The date and time of an expiry is that of its value, to the microsecond. -/
theorem near_of_expiryOf {j : Json} {d : DateTime} (h : expiryOf j = .ok d) :
    ∃ x, j.number? = some x ∧ |(d.instant : ℚ) - x * second| < 1 ∧ d.offset = some .utc := by
  obtain ⟨t, ht, hd, hoffset⟩ := expiryOf_eq_ok h
  have hexact {n : Int} (hn : t = n * second) : |(d.instant : ℚ) - (n : ℚ) * second| < 1 := by
    rw [hd, hn, Int.cast_mul, sub_self, abs_zero]
    exact one_pos
  cases j with
  | int n =>
    exact ⟨n, rfl, hexact (Except.ok.inj ht).symm, hoffset⟩
  | bool b =>
    cases b with
    | false => exact ⟨0, rfl, by simpa using hexact (n := 0) (Except.ok.inj ht).symm, hoffset⟩
    | true => exact ⟨1, rfl, by simpa using hexact (n := 1) (Except.ok.inj ht).symm, hoffset⟩
  | float y =>
    have hfloat : instantOfFloat? y = some t := by
      unfold instantOf demand at ht
      dsimp only at ht
      split at ht
      · cases ht
        assumption
      · cases ht
    obtain ⟨x, hx, hnear⟩ := instantOfFloat?_near hfloat
    exact ⟨x, hx, hd ▸ hnear, hoffset⟩
  | null | str _ | brokenStr _ | arr _ | obj _ => cases ht

/-! ## Checks -/

theorem claim_eq_ok {name : String} {j : Json} (h : claim name members = .ok j) :
    Json.member? name members = some j := by
  unfold claim at h
  split at h
  · cases h
  · cases h
  · rename_i hj
    rw [hj, Except.ok.inj h]

theorem notAfter_eq_ok {name : String} {u : Unit} (h : notAfter now name members = .ok u) {j : Json}
    (hj : Json.member? name members = some j) : ∃ n, CountsAs j n ∧ n * second ≤ now := by
  unfold notAfter at h
  rw [hj] at h
  obtain ⟨n, hn, hstart⟩ := bind_eq_ok h
  exact ⟨n, countsAs_of_integerClaim? (demand_eq_ok hn), of_decide_eq_true (require_eq_ok hstart)⟩

theorem accountOf?_eq_some {j : Json} {id : Uuid} (h : accountOf? j = some id) :
    ∃ s, (j = .str s ∨ ∃ n, j = .int n ∧ s = intText n) ∧ Uuid.readLoose s = .ok id := by
  have hloose (s : String) (hs : (some s).bind (fun s => (Uuid.readLoose s).toOption) = some id) :
      Uuid.readLoose s = .ok id := by
    rw [Option.bind_some] at hs
    cases hread : Uuid.readLoose s with
    | error fault =>
      rw [hread] at hs
      cases hs
    | ok other =>
      rw [hread] at hs
      rw [Option.some.inj hs]
  unfold accountOf? at h
  cases j with
  | str s => exact ⟨s, .inl rfl, hloose s h⟩
  | int n => exact ⟨intText n, .inr ⟨n, rfl, rfl⟩, hloose (intText n) h⟩
  | null | bool _ | float _ | brokenStr _ | arr _ | obj _ => cases h

theorem textOf?_eq_some {j : Json} {s : String} (h : textOf? j = some s) :
    j = .str s ∨ j = .brokenStr s := by
  cases j with
  | str t => exact .inl (congrArg Json.str (Option.some.inj h))
  | brokenStr t => exact .inr (congrArg Json.brokenStr (Option.some.inj h))
  | null | bool _ | int _ | float _ | arr _ | obj _ => cases h

theorem refusing_claim (name : String) (members : List (String × Json)) :
    Refusing (claim name members) := by
  intro fault h
  unfold claim at h
  split at h
  · cases h
    decide
  · cases h
    decide
  · cases h

theorem refusing_notAfter (now : Instant) (name : String) (members : List (String × Json)) :
    Refusing (notAfter now name members) := by
  unfold notAfter
  split
  · exact fun _ => nofun
  · exact (refusing_demand (by decide) _).bind fun _ => refusing_require (by decide) _

/-! ## Payloads that pass -/

/-- What a payload that passes the checks says, up to the date of its expiry. -/
structure Passes (now : Instant) (payload : List (String × Json)) (exp : Json) (id : Uuid)
    (email : String) : Prop where
  /-- The expiry counts as a number of seconds in the future. -/
  expiry : Json.member? "exp" payload = some exp ∧
    ∃ n, integerClaim? exp = some n ∧ now < n * second
  /-- The payload was issued and is in force, as far as it says when. -/
  started : ∀ name ∈ ["iat", "nbf"], ∀ j, Json.member? name payload = some j →
    ∃ n, CountsAs j n ∧ n * second ≤ now
  /-- The account is named by a text, or by an integer whose digits are the text. -/
  account : ∃ s, (Json.member? "id" payload = some (.str s) ∨
      ∃ n, Json.member? "id" payload = some (.int n) ∧ s = intText n) ∧
    Uuid.readLoose s = .ok id
  email : Json.member? "email" payload = some (.str email) ∨
    Json.member? "email" payload = some (.brokenStr email)

/-- The claims of a payload that passes the checks, when its expiry is a date. -/
def dated (exp : Json) (id : Uuid) (email : String) : Except Fault Claims :=
  match expiryOf exp with
  | .ok expiresAt => .ok ⟨id, email, expiresAt⟩
  | .error fault => .error (.badExpiry fault)

/-- A payload that is not refused passes the checks, and its expiry decides. -/
theorem passes_of_checkClaims {result : Except Fault Claims} (h : checkClaims now payload = result)
    (hr : Unrefused result) : ∃ exp id email, Passes now payload exp id email ∧
      dated exp id email = result := by
  unfold checkClaims at h
  obtain ⟨exp, hexp, h⟩ := (refusing_claim _ _).passed h hr
  obtain ⟨id, hid, h⟩ := (refusing_claim _ _).passed h hr
  obtain ⟨email, hemail, h⟩ := (refusing_claim _ _).passed h hr
  obtain ⟨_, hissued, h⟩ := (refusing_notAfter _ _ _).passed h hr
  obtain ⟨_, hforce, h⟩ := (refusing_notAfter _ _ _).passed h hr
  obtain ⟨expires, hexpires, h⟩ := (refusing_demand (by decide) _).passed h hr
  obtain ⟨_, hlive, h⟩ := (refusing_require (by decide) _).passed h hr
  obtain ⟨_, -, h⟩ := (refusing_require (by decide) _).passed h hr
  obtain ⟨_, -, h⟩ := (refusing_require (by decide) _).passed h hr
  obtain ⟨accountId, haccount, h⟩ := (refusing_demand (by decide) _).passed h hr
  obtain ⟨address, haddress, h⟩ := (refusing_demand (by decide) _).passed h hr
  refine ⟨exp, accountId, address, ⟨⟨claim_eq_ok hexp, expires, demand_eq_ok hexpires,
    of_decide_eq_true (require_eq_ok hlive)⟩, ?_, ?_, ?_⟩, h⟩
  · intro name hname j hj
    simp only [List.mem_cons, List.not_mem_nil, or_false] at hname
    rcases hname with rfl | rfl
    · exact notAfter_eq_ok hissued hj
    · exact notAfter_eq_ok hforce hj
  · obtain ⟨s, hs, hread⟩ := accountOf?_eq_some (demand_eq_ok haccount)
    refine ⟨s, ?_, hread⟩
    rw [claim_eq_ok hid]
    rcases hs with rfl | ⟨n, rfl, hn⟩
    · exact .inl rfl
    · exact .inr ⟨n, rfl, hn⟩
  · rw [claim_eq_ok hemail]
    rcases textOf?_eq_some (demand_eq_ok haddress) with rfl | rfl
    · exact .inl rfl
    · exact .inr rfl

/-- A payload that passes the checks and whose expiry is a date grants its claims. -/
theorem grants_of_checkClaims (h : checkClaims now payload = .ok claims) :
    Grants now payload claims := by
  obtain ⟨exp, id, email, hpasses, hdated⟩ := passes_of_checkClaims h (unrefused_ok _)
  unfold dated at hdated
  cases hdate : expiryOf exp with
  | error fault =>
    rw [hdate] at hdated
    cases hdated
  | ok expiresAt =>
    rw [hdate] at hdated
    cases hdated
    obtain ⟨x, hx, hnear, hoffset⟩ := near_of_expiryOf hdate
    obtain ⟨hexp, n, hn, hlive⟩ := hpasses.expiry
    obtain rfl : truncated x = n := Option.some.inj ((integerClaim?_of_number? hx).symm.trans hn)
    exact ⟨⟨exp, x, hexp, hx, hlive, hnear, hoffset⟩, hpasses.started, hpasses.account, hpasses.email⟩

/-! ## Tokens -/

/-- A token has a header for which there is no room, or a signature of the secret and a payload for
which there is none. -/
def EndsTooDeep (room : Nat) (secret token : String) : Prop :=
  ∃ s : Segments token, NestedTooDeep room s.header ∨
    ∃ (hash : Hash) (header : List (String × Json)),
      Writes s.header header ∧ Json.member? "alg" header = some (.str (hashName hash)) ∧
      Base64Url.decode? s.signature = some (hash.hmac (bytesOf secret) (utf8 s.signed)) ∧
      NestedTooDeep room s.payload

/-- A token that is not refused is signed under the digest of its header, and its payload decides,
unless there is no room for one of them. -/
theorem opened_of_read {result : Except Fault Claims} (h : read room now secret token = result)
    (hr : Unrefused result) :
    (result = .error .tooDeep ∧ EndsTooDeep room secret token) ∨
    ∃ (s : Segments token) (hash : Hash) (header payload : List (String × Json)),
      Writes s.header header ∧ Json.member? "alg" header = some (.str (hashName hash)) ∧
      Base64Url.decode? s.signature = some (hash.hmac (bytesOf secret) (utf8 s.signed)) ∧
      Writes s.payload payload ∧ checkClaims now payload = result := by
  unfold read at h
  rcases hparts : Parts.ofChars room token.toList with fault | parts
  · rw [hparts] at h
    obtain rfl : .error fault = result := h
    rcases segments_of_ofChars hparts (unrefused_error _ (not_mem_refusals hr)) with
      ⟨hdeep, s, hs⟩ | ⟨parts, hok, -⟩
    · cases hdeep
      exact .inl ⟨rfl, s, .inl hs⟩
    · cases hok
  rw [hparts] at h
  rcases segments_of_ofChars hparts (unrefused_ok parts) with
    ⟨hdeep, -⟩ | ⟨parts', hok, s, hsigned, hheader, hbody, hcode⟩
  · cases hdeep
  cases hok
  obtain ⟨_, -, h⟩ := (refusing_require (by decide) _).passed h hr
  obtain ⟨hash, hhash, h⟩ := (refusing_demand (by decide) _).passed h hr
  obtain ⟨_, -, h⟩ := (refusing_require (by decide) _).passed h hr
  obtain ⟨_, hsignature, h⟩ := (refusing_require (by decide) _).passed h hr
  have halg := algorithm?_eq_some (demand_eq_ok hhash)
  have hmac : Base64Url.decode? s.signature = some (hash.hmac (bytesOf secret) (utf8 s.signed)) := by
    rw [hcode, ← hsigned, eq_of_beq (require_eq_ok hsignature)]
  rcases object_or_tooDeep h hr with ⟨hdeep, cs, hcs, hread⟩ | ⟨payload, ⟨cs, hcs, hread⟩, h⟩
  · exact .inl ⟨hdeep, s, .inr ⟨hash, parts.header, hheader, halg, hmac, _, cs, hbody, hcs, hread⟩⟩
  · exact .inr ⟨s, hash, parts.header, payload, hheader, halg, hmac,
      ⟨_, cs, room, hbody, hcs, hread⟩, h⟩

/-- An accepted token is signed under the digest of its header, and its payload grants the claims. -/
theorem signed_of_read (h : read room now secret token = .ok claims) :
    ∃ (s : Segments token) (hash : Hash) (header payload : List (String × Json)),
      Writes s.header header ∧ Json.member? "alg" header = some (.str (hashName hash)) ∧
      Base64Url.decode? s.signature = some (hash.hmac (bytesOf secret) (utf8 s.signed)) ∧
      Writes s.payload payload ∧ Grants now payload claims := by
  rcases opened_of_read h (unrefused_ok _) with
    ⟨hdeep, -⟩ | ⟨s, hash, header, payload, hheader, halg, hcode, hpayload, hclaims⟩
  · cases hdeep
  exact ⟨s, hash, header, payload, hheader, halg, hcode, hpayload, grants_of_checkClaims hclaims⟩

/-- **Accepted tokens are signed.**  Only tokens with a signature of the secret are accepted, and
they say what is read from them.  A header that names none of the digests is never accepted. -/
theorem accepted_token_is_signed (room : Nat) (now : Instant) (secret token : String) :
    (∀ claims, read room now secret token = .ok claims →
      ∃ (s : Segments token) (hash : Hash) (header payload : List (String × Json)),
        Writes s.header header ∧ Json.member? "alg" header = some (.str (hashName hash)) ∧
        Base64Url.decode? s.signature = some (hash.hmac (bytesOf secret) (utf8 s.signed)) ∧
        Writes s.payload payload ∧ Grants now payload claims) ∧
    (∀ (s : Segments token) (header : List (String × Json)), Writes s.header header →
      (∀ hash, Json.member? "alg" header ≠ some (.str (hashName hash))) →
      ∀ claims, read room now secret token ≠ .ok claims) := by
  constructor
  · intro claims h
    exact signed_of_read h
  · intro s header hheader halg claims h
    obtain ⟨s', hash, header', -, hheader', halg', -⟩ := signed_of_read h
    rw [Segments.unique s' s] at hheader'
    obtain rfl := hheader'.unique hheader
    exact halg hash halg'

/-! ## A loose token -/

/-- A secret that can sign. -/
def plainSecret : String := "test-secret-key-long-enough-for-hs256-signing"

/-- A payload with an integer for the account, which was issued half a second from now, and whose
expiry is no whole number of microseconds. -/
def loosePayload : List Char :=
  "\x7b\"id\":11111111111111111111111111111111,\"email\":\"a@x.com\",\"iat\":1700000000.5,\"exp\":1700003600.0000003\x7d".toList

/-- The segments of a token of that payload. -/
def looseInput : List Char := segment (Token.header.chars .ascii) ++ '.' :: segment loosePayload

/-- The token of that payload. -/
def looseToken : String := String.ofList (sign plainSecret looseInput)

/-- The time at which the token is read. -/
def looseNow : Instant := 1700000000 * second

/-- What is read from the token. -/
def looseClaims : Claims where
  accountId := ⟨0x11111111111111111111111111111111#128⟩
  email := "a@x.com"
  expiresAt :=
    { date := ⟨2023, 11, 14, by decide, by decide, by decide⟩
      time := ⟨23, 13, 20, 0, by decide, by decide, by decide, TimeOfDay.midnight.micro_lt⟩
      offset := some .utc }

/-- The members of a payload of an integer, a text and two numbers with fractions. -/
def mixedMembers (id : Int) (email : String) (issued expires : Binary64) : List (String × Json) :=
  [("id", .int id), ("email", .str email), ("iat", .float issued), ("exp", .float expires)]

/-- What such members hold. -/
def mixed? : Option (List (String × Json)) → Option (Int × String × Binary64 × Binary64)
  | some [("id", .int id), ("email", .str email), ("iat", .float issued), ("exp", .float expires)] =>
    some (id, email, issued, expires)
  | _ => none

theorem eq_mixedMembers_of_mixed? {o : Option (List (String × Json))} {id : Int} {email : String}
    {issued expires : Binary64} (h : mixed? o = some (id, email, issued, expires)) :
    o = some (mixedMembers id email issued expires) := by
  unfold mixed? at h
  split at h
  · cases h
    rfl
  · cases h

/-- The members of the loose payload. -/
def looseMembers : List (String × Json) :=
  mixedMembers 11111111111111111111111111111111 "a@x.com" (.finite false 7130316802097152 (-22))
    (.finite false 7130331899494401 (-22))

theorem objectOfBytes_loosePayload (room : Nat) :
    objectOfBytes room (utf8 loosePayload) = .ok looseMembers := by
  have hleast : (objectOfBytes 0 (utf8 loosePayload)).toOption = some looseMembers :=
    eq_mixedMembers_of_mixed? (by decide +kernel)
  cases hread : objectOfBytes 0 (utf8 loosePayload) with
  | error fault =>
    rw [hread] at hleast
    cases hleast
  | ok members =>
    rw [hread] at hleast
    rw [objectOfBytes_of_le hread (Nat.zero_le room), Option.some.inj hleast]

theorem read_looseToken (room : Nat) :
    read room looseNow plainSecret looseToken = .ok looseClaims := by
  have hkey : keyFault? plainSecret = none := by decide +kernel
  have hclaims : checkClaims looseNow looseMembers = .ok looseClaims := by decide +kernel
  exact (read_sign hkey (objectOfBytes_loosePayload room) looseNow).trans hclaims

/-- The segments of a token that was signed. -/
def signedSegments (secret : String) (text : List Char) :
    Segments (String.ofList (sign secret (segment (Token.header.chars .ascii) ++ '.' :: segment text)))
    where
  header := segment (Token.header.chars .ascii)
  payload := segment text
  signature := Base64Url.encode
    (Hash.sha256.hmac (bytesOf secret) (utf8 (segment (Token.header.chars .ascii) ++ '.' :: segment text)))
  toList_eq := String.toList_ofList
  header_whole := point_not_mem_encode _
  signature_whole := point_not_mem_encode _

/-- The loose token is accepted, although its account is no text, it was issued later than now, and
its expiry is not exactly the one that is read. -/
theorem looseToken_accepted : ∃ s : Segments looseToken, ∃ payload id issued expires,
    (∀ room, read room looseNow plainSecret looseToken = .ok looseClaims) ∧
    Writes s.payload payload ∧
    Json.member? "id" payload = some (.int id) ∧
    Json.member? "iat" payload = some (.float issued) ∧
    (∃ x, issued.value? = some x ∧ (looseNow : ℚ) < x * second) ∧
    Json.member? "exp" payload = some (.float expires) ∧
    (∃ x, expires.value? = some x ∧ (looseClaims.expiresAt.instant : ℚ) ≠ x * second) := by
  obtain ⟨cs, hcs, hread⟩ := objectOfBytes_eq_ok (objectOfBytes_loosePayload 0)
  have hwrites : Writes (signedSegments plainSecret loosePayload).payload looseMembers :=
    ⟨utf8 loosePayload, cs, 0, Base64Url.decode?_encode _, hcs, hread⟩
  have hinstant : looseClaims.expiresAt.instant = 1700003600000000 := by decide +kernel
  refine ⟨signedSegments plainSecret loosePayload, looseMembers, _, _, _, read_looseToken, hwrites,
    rfl, rfl, ⟨_, rfl, ?_⟩, rfl, ⟨_, rfl, ?_⟩⟩
  · norm_num [looseNow, second, Binary64.magnitude]
  · rw [hinstant]
    norm_num [second, Binary64.magnitude]

/-- The header of a token without a signature. -/
def unsignedHeader : Json := .obj [("alg", .str "none")]

/-- The segments of a token without a signature. -/
def unsignedSegments : Segments (String.ofList
    (segment (unsignedHeader.chars .ascii) ++ '.' :: segment loosePayload ++ '.' :: [])) where
  header := segment (unsignedHeader.chars .ascii)
  payload := segment loosePayload
  signature := []
  toList_eq := String.toList_ofList
  header_whole := point_not_mem_encode _
  signature_whole := List.not_mem_nil

theorem accepted_token_is_signed_loose :
    (∃ (s : Segments looseToken) (hash : Hash) (header payload : List (String × Json)),
      Writes s.header header ∧ Json.member? "alg" header = some (.str (hashName hash)) ∧
      Base64Url.decode? s.signature = some (hash.hmac (bytesOf plainSecret) (utf8 s.signed)) ∧
      Writes s.payload payload ∧ Grants looseNow payload looseClaims) ∧
    ∀ room claims, read room looseNow plainSecret (String.ofList (segment (unsignedHeader.chars .ascii) ++
      '.' :: segment loosePayload ++ '.' :: [])) ≠ .ok claims := by
  constructor
  · exact (accepted_token_is_signed 0 looseNow plainSecret looseToken).1 looseClaims
      (read_looseToken 0)
  · have hexact : unsignedHeader.Exact := ⟨by decide, trivial, trivial⟩
    have hheader : Writes unsignedSegments.header [("alg", .str "none")] :=
      ⟨_, _, 0, Base64Url.decode?_encode _, Json.decodeText?_chars .ascii _ _ _,
        Json.read_chars .ascii hexact (by decide)⟩
    intro room
    refine (accepted_token_is_signed room looseNow plainSecret _).2 unsignedSegments _ hheader ?_
    intro hash halg
    cases hash <;> exact absurd halg (by simp [Json.member?, Assoc.get?, hashName])

end Token

end Accounts
