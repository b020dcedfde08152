import Accounts.Proofs.Calendar.Instant
import Accounts.Proofs.Json.RoundTrip
import Accounts.Proofs.Text.Base64Url
import Accounts.Proofs.Uuid.Text
import Accounts.Token.Reader

/-!
# Tokens, issued and read back

A token that was issued is accepted under its secret from the second of its issue on, until it
expires, and names the account that it was issued for.  From then on it has expired:

    read room later secret token = .ok ⟨id, email, expiresAt⟩      before the expiry
    read room later secret token = .error .expired                 from the expiry on

An issued token is not nested, so there is always room for it.
-/

namespace Accounts

namespace Token

open Calendar Digest Number Text

variable {room : Nat} {now later : Instant} {secret email token : String} {minutes expires : Int}
  {id : Uuid}

/-! ## Expiry -/

/-- What an expiry that could be set says. -/
theorem expiry_eq_ok (h : expiry now minutes = .ok expires) :
    expires = Instant.seconds (now + minutes * (60 * second)) ∧
      (spanDays minutes).natAbs ≤ 999999999 ∧
      ∃ d, DateTime.ofInstant? none (now + minutes * (60 * second)) = some d := by
  unfold expiry at h
  dsimp only at h
  split at h
  · cases h
  split at h
  · cases h
  · rename_i hdays
    split at h
    · rename_i d hdate
      cases h
      exact ⟨rfl, by omega, d, hdate⟩
    · cases h

theorem length_digits_of_lt {i : Int} (h : i.natAbs < 10 ^ 30) :
    (digits i.natAbs).length ≤ Json.maxDigits :=
  Nat.le_trans (length_digits_le (by decide) h) (by decide)

/-- The seconds of the issue and of the expiry are not too long for JSON. -/
theorem lengths_of_expiry (h : expiry now minutes = .ok expires) :
    (digits (Instant.seconds now).natAbs).length ≤ Json.maxDigits ∧
      (digits expires.natAbs).length ≤ Json.maxDigits := by
  obtain ⟨rfl, hdays, hdate⟩ := expiry_eq_ok h
  have hrange := DateTime.exists_ofInstant?.1 hdate
  unfold spanDays at hdays
  unfold Instant.seconds
  rw [Int.fdiv_eq_ediv_of_nonneg _ (by decide)] at hdays
  rw [Int.fdiv_eq_ediv_of_nonneg _ (by decide), Int.fdiv_eq_ediv_of_nonneg _ (by decide)]
  unfold calendarStart calendarEnd at hrange
  unfold second at hrange ⊢
  exact ⟨length_digits_of_lt (by omega), length_digits_of_lt (by omega)⟩

/-- An expiry that could be set can be read as a date and time. -/
theorem expiryOf_expiry (h : expiry now minutes = .ok expires) :
    ∃ d, expiryOf (.int expires) = .ok d := by
  obtain ⟨rfl, -, hdate⟩ := expiry_eq_ok h
  have hrange := DateTime.exists_ofInstant?.1 hdate
  obtain ⟨n, hn⟩ : ∃ n, Instant.seconds (now + minutes * (60 * second)) = n := ⟨_, rfl⟩
  have hseconds : calendarStart ≤ n * second ∧ n * second < calendarEnd := by
    unfold Instant.seconds at hn
    rw [Int.fdiv_eq_ediv_of_nonneg _ (by decide)] at hn
    unfold calendarStart calendarEnd at hrange ⊢
    unfold second at hrange hn ⊢
    omega
  obtain ⟨d, hd⟩ : ∃ d, DateTime.ofInstant? (some .utc) (n * second) = some d :=
    DateTime.exists_ofInstant?.2 hseconds
  have hword : ¬ (wordMax 64 + 1) * second ≤ n * second := by
    rw [show wordMax 64 = 9223372036854775807 from rfl]
    unfold calendarEnd at hseconds
    unfold second at hseconds ⊢
    omega
  have hinstant : instantOf (.int n) = .ok (n * second) := rfl
  refine ⟨d, ?_⟩
  rw [hn]
  unfold expiryOf
  rw [hinstant]
  refine (if_neg hword).trans ?_
  dsimp only
  rw [hd]

/-! ## Taking apart -/

theorem point_not_mem_encode (bytes : List UInt8) : '.' ∉ Base64Url.encode bytes :=
  Base64Url.not_mem_encode (by decide) bytes

theorem exact_header : header.Exact := by
  refine ⟨?_, trivial, trivial, trivial⟩
  decide

theorem exact_payload (id : Uuid) (email : String) (h : expiry now minutes = .ok expires) :
    (payload id email (Instant.seconds now) expires).Exact := by
  obtain ⟨hissued, hexpires⟩ := lengths_of_expiry h
  refine ⟨?_, trivial, trivial, hissued, hexpires, trivial⟩
  show ["id", "email", "iat", "exp"].Nodup
  decide

/-- The members of the header of a token. -/
def headerMembers : List (String × Json) := [("alg", .str "HS256"), ("typ", .str "JWT")]

/-- The members of the claims of a token. -/
def payloadMembers (id : Uuid) (email : String) (issued expires : Int) : List (String × Json) :=
  [("id", .str id.text), ("email", .str email), ("iat", .int issued), ("exp", .int expires)]

theorem depth_header : header.depth = 1 := by decide

theorem depth_payload (id : Uuid) (email : String) (issued expires : Int) :
    (payload id email issued expires).depth = 1 := rfl

/-- The members of an object that fits are read back from its bytes. -/
theorem objectOfBytes_chars {name : String} {j : Json} {ms : List (String × Json)}
    (hexact : (Json.obj ((name, j) :: ms)).Exact) (hdepth : (Json.obj ((name, j) :: ms)).depth = 1) :
    objectOfBytes room (utf8 ((Json.obj ((name, j) :: ms)).chars .ascii)) = .ok ((name, j) :: ms) := by
  have hfits : (Json.obj ((name, j) :: ms)).depth ≤ (Json.Limits.within room).depth :=
    hdepth.trans_le (Nat.le_add_left 1 room)
  unfold objectOfBytes
  rw [Json.decodeText?_chars, Option.map_some, Json.read_chars .ascii hexact hfits]

theorem objectOfBytes_header :
    objectOfBytes room (utf8 (header.chars .ascii)) = .ok headerMembers :=
  objectOfBytes_chars exact_header depth_header

theorem objectOfBytes_payload (id : Uuid) (email : String) (h : expiry now minutes = .ok expires) :
    objectOfBytes room (utf8 ((payload id email (Instant.seconds now) expires).chars .ascii)) =
      .ok (payloadMembers id email (Instant.seconds now) expires) :=
  objectOfBytes_chars (exact_payload id email h) (depth_payload id email _ _)

/-- A signed token is taken apart into what was signed. -/
theorem ofChars_sign (secret : String) (text : List Char) :
    Parts.ofChars room (sign secret (segment (header.chars .ascii) ++ '.' :: segment text)) = .ok
      ⟨segment (header.chars .ascii) ++ '.' :: segment text, headerMembers, utf8 text,
        Hash.sha256.hmac (bytesOf secret)
          (utf8 (segment (header.chars .ascii) ++ '.' :: segment text))⟩ := by
  obtain ⟨input, hinput⟩ : ∃ input, segment (header.chars .ascii) ++ '.' :: segment text = input :=
    ⟨_, rfl⟩
  have hlast : cutLast? '.' (sign secret input) =
      some (input, Base64Url.encode (Hash.sha256.hmac (bytesOf secret) (utf8 input))) :=
    cutLast?_eq_some_iff.2 ⟨rfl, point_not_mem_encode _⟩
  have hfirst : cut? '.' input = some (segment (header.chars .ascii), segment text) :=
    cut?_eq_some_iff.2 ⟨hinput.symm, point_not_mem_encode _⟩
  unfold Parts.ofChars
  rw [hinput, hlast]
  simp only [demand, bind, Except.bind]
  rw [hfirst]
  dsimp only
  unfold segment
  rw [Base64Url.decode?_encode, Base64Url.decode?_encode, Base64Url.decode?_encode]
  dsimp only
  rw [objectOfBytes_header]
  rfl

/-! ## Checking -/

theorem headerMembers_fit : (textOrAbsent "kid" headerMembers && criticalFits headerMembers
    && payloadEncoded headerMembers) = true := by decide

theorem algorithm?_headerMembers : algorithm? headerMembers = some .sha256 := by
  unfold algorithm? Json.member? Assoc.get? headerMembers
  simp only [List.find?_cons, decide_true, Option.map_some]

/-- The claims of a token are in order from its issue until its expiry. -/
theorem checkClaims_payload {issued : Int} {d : DateTime} (hissued : issued * second ≤ later)
    (hd : expiryOf (.int expires) = .ok d) :
    checkClaims later (payloadMembers id email issued expires) =
      if later < expires * second then .ok ⟨id, email, d⟩ else .error .expired := by
  have haccount : accountOf? (.str id.text) = some id := by
    unfold accountOf?
    dsimp only
    rw [Option.bind_some, Uuid.readLoose_text]
    rfl
  unfold checkClaims claim notAfter textOrAbsent Json.member? Assoc.get? payloadMembers
  simp only [List.find?_cons, List.find?_nil, String.reduceEq, decide_true, decide_false,
    Option.map_some, Option.map_none, bind, Except.bind]
  rw [haccount, show integerClaim? (.int issued) = some issued from rfl,
    show integerClaim? (.int expires) = some expires from rfl]
  simp only [demand, require, hissued, decide_true, if_true]
  by_cases h : later < expires * second
  · simp only [h, decide_true, if_true, textOf?, hd]
    rfl
  · simp only [h, decide_false, if_false]
    rfl

/-! ## Tokens -/

/-- A token that was signed with a usable secret is accepted when its claims are. -/
theorem read_sign {text : List Char} {members : List (String × Json)} (hkey : keyFault? secret = none)
    (hmembers : objectOfBytes room (utf8 text) = .ok members) (now : Instant) :
    read room now secret (String.ofList
        (sign secret (segment (header.chars .ascii) ++ '.' :: segment text))) =
      checkClaims now members := by
  unfold read
  rw [String.toList_ofList, ofChars_sign, hkey]
  simp only [demand, bind, Except.bind]
  rw [hmembers, headerMembers_fit, algorithm?_headerMembers]
  simp only [require, Option.isNone_none, beq_self_eq_true, if_true]

/-- What there is to an issued token. -/
theorem issue_eq_ok (h : issue now secret minutes id email = .ok token) :
    ∃ expires, expiry now minutes = .ok expires ∧ keyFault? secret = none ∧
      token = String.ofList (sign secret
        (signingInput header (payload id email (Instant.seconds now) expires))) := by
  unfold issue at h
  cases hexpiry : expiry now minutes with
  | error fault =>
    rw [hexpiry] at h
    cases h
  | ok expires =>
    rw [hexpiry] at h
    cases hkey : keyFault? secret with
    | some fault =>
      rw [hkey] at h
      cases h
    | none =>
      rw [hkey] at h
      exact ⟨expires, rfl, rfl, (Except.ok.inj h).symm⟩

/-- A token is issued when it can expire and the secret can sign. -/
theorem issue_of_expiry (hexpiry : expiry now minutes = .ok expires) (hkey : keyFault? secret = none)
    (id : Uuid) (email : String) : ∃ token, issue now secret minutes id email = .ok token := by
  unfold issue
  rw [hexpiry, hkey]
  exact ⟨_, rfl⟩

/-- A token that can expire is refused for its secret only. -/
theorem issue_error {fault : IssueFault} (hexpiry : expiry now minutes = .ok expires)
    (h : issue now secret minutes id email = .error fault) : ∃ key, fault = .unusableKey key := by
  unfold issue at h
  rw [hexpiry] at h
  cases hkey : keyFault? secret with
  | none =>
    rw [hkey] at h
    cases h
  | some key =>
    rw [hkey] at h
    exact ⟨key, (Except.error.inj h).symm⟩

/-- An issued token is read as the checks of its claims decide. -/
theorem read_of_issue (h : issue now secret minutes id email = .ok token) :
    ∃ expires, expiry now minutes = .ok expires ∧ ∀ room later, read room later secret token =
      checkClaims later (payloadMembers id email (Instant.seconds now) expires) := by
  obtain ⟨expires, hexpiry, hkey, rfl⟩ := issue_eq_ok h
  exact ⟨expires, hexpiry, fun _ => read_sign hkey (objectOfBytes_payload id email hexpiry)⟩

/-- An issued token is accepted from the second of its issue on, until it expires. -/
theorem read_issue (h : issue now secret minutes id email = .ok token) :
    ∃ d, ∀ room later, Instant.seconds now * second ≤ later → read room later secret token =
      if later < Instant.seconds (now + minutes * (60 * second)) * second then .ok ⟨id, email, d⟩
      else .error .expired := by
  obtain ⟨expires, hexpiry, hread⟩ := read_of_issue h
  obtain ⟨d, hd⟩ := expiryOf_expiry hexpiry
  refine ⟨d, fun room later hlater => ?_⟩
  rw [hread, ← (expiry_eq_ok hexpiry).1, checkClaims_payload hlater hd]

/-- The last whole second of an instant is not after it. -/
theorem seconds_le (now : Int) : Instant.seconds now * second ≤ now := by
  unfold Instant.seconds
  rw [Int.fdiv_eq_ediv_of_nonneg _ (by decide)]
  unfold second
  omega

/-- A token with a lifetime is accepted at once. -/
theorem accepted_at_once (now : Int) {minutes : Int} (h : 0 < minutes) :
    now < Instant.seconds (now + minutes * (60 * second)) * second := by
  unfold Instant.seconds
  rw [Int.fdiv_eq_ediv_of_nonneg _ (by decide)]
  unfold second
  omega

end Token

end Accounts
