import Accounts.Proofs.Token.Soundness

/-!
# Tokens that end otherwise

Reading a token ends with its claims or with one of four refusals, but for two things.  Its expiry may
lie in the future and be no date: a text that writes a number, or a number outside the years 1 to 9999.
Such a token has the signature of the secret and passes every check.  And its JSON may be nested so
deep that there is no room to read it:

    read room now secret token = accepted  |  refused  |  signed, and without a date  |  no room

A token that is no whole text has no bytes, and is not read at all.
-/

namespace Accounts.Token

open Calendar Digest Number Text

variable {room : Nat} {now : Instant} {secret token : String} {j : Json} {n : Int}

/-! ## Expiries -/

/-- An expiry for which there is no date and time. -/
inductive Undated : Json → Prop where
  | text (s : String) : Undated (.str s)
  | range {j : Json} {t : Instant} (instant : instantOf j = .ok t)
      (outside : ¬(calendarStart ≤ t ∧ t < calendarEnd)) : Undated j

/-- An expiry that counts as a number is a text, or has an instant. -/
theorem instantOf_cases (h : integerClaim? j = some n) :
    (∃ s, j = .str s) ∨ ∃ t, instantOf j = .ok t := by
  cases j with
  | int i => exact .inr ⟨_, rfl⟩
  | bool b => exact .inr ⟨_, rfl⟩
  | str s => exact .inl ⟨s, rfl⟩
  | float x =>
    cases x with
    | finite negative m e => exact .inr ⟨_, rfl⟩
    | nan | infinite => cases h
  | null | brokenStr _ | arr _ | obj _ => cases h

/-- The instants with a date and time are those of the calendar. -/
theorem expiryOf_of_instant {t : Instant} (h : instantOf j = .ok t) :
    (∃ fault, expiryOf j = .error fault) ↔ ¬(calendarStart ≤ t ∧ t < calendarEnd) := by
  have hrange : (∃ d, DateTime.ofInstant? (some .utc) t = some d) ↔
      calendarStart ≤ t ∧ t < calendarEnd := DateTime.exists_ofInstant?
  rw [← hrange]
  unfold expiryOf
  rw [h]
  show (∃ fault, (if (wordMax 64 + 1) * second ≤ t then (.error .tooLarge : Except ExpiryFault DateTime)
    else _) = .error fault) ↔ _
  by_cases hword : (wordMax 64 + 1) * second ≤ t
  · rw [if_pos hword, hrange]
    refine iff_of_true ⟨_, rfl⟩ fun hin => absurd hin.2 (Int.not_lt.2 ?_)
    have hend : calendarEnd ≤ (wordMax 64 + 1) * second := by decide
    exact hend.trans hword
  · rw [if_neg hword]
    dsimp only
    cases DateTime.ofInstant? (some .utc) t with
    | some d => exact iff_of_false nofun fun hnone => hnone ⟨d, rfl⟩
    | none =>
      dsimp only
      refine iff_of_true ?_ fun ⟨d, hd⟩ => nomatch hd
      split <;> exact ⟨_, rfl⟩

/-- There is no date and time for an expiry that counts as a number just when it is a text or its
instant is outside the calendar. -/
theorem expiryOf_eq_error_iff (h : integerClaim? j = some n) :
    (∃ fault, expiryOf j = .error fault) ↔ Undated j := by
  constructor
  · intro hfault
    rcases instantOf_cases h with ⟨s, rfl⟩ | ⟨t, ht⟩
    · exact .text s
    · exact .range ht ((expiryOf_of_instant ht).1 hfault)
  · rintro (⟨s⟩ | ⟨ht, houtside⟩)
    · exact ⟨.notANumber, rfl⟩
    · exact (expiryOf_of_instant ht).2 houtside

/-! ## Tokens -/

/-- A token has a signature of the secret and a payload that passes the checks, and there is no date
for its expiry. -/
def EndsUndated (now : Instant) (secret token : String) : Prop :=
  ∃ (s : Segments token) (hash : Hash) (header payload : List (String × Json)) (exp : Json)
    (id : Uuid) (email : String),
    Writes s.header header ∧ Json.member? "alg" header = some (.str (hashName hash)) ∧
    Base64Url.decode? s.signature = some (hash.hmac (bytesOf secret) (utf8 s.signed)) ∧
    Writes s.payload payload ∧ Passes now payload exp id email ∧ Undated exp

/-- A fault of the expiry is met only after everything else was checked. -/
theorem endsUndated_of_read {fault : ExpiryFault}
    (h : read room now secret token = .error (.badExpiry fault)) : EndsUndated now secret token := by
  have hr : Unrefused (.error (.badExpiry fault) : Except Fault Claims) :=
    unrefused_error _ (by simp [refusals])
  rcases opened_of_read h hr with
    ⟨hdeep, -⟩ | ⟨s, hash, header, payload, hheader, halg, hcode, hpayload, hclaims⟩
  · cases hdeep
  obtain ⟨exp, id, email, hpasses, hdated⟩ := passes_of_checkClaims hclaims hr
  refine ⟨s, hash, header, payload, exp, id, email, hheader, halg, hcode, hpayload, hpasses, ?_⟩
  obtain ⟨-, n, hn, -⟩ := hpasses.expiry
  rw [← expiryOf_eq_error_iff hn]
  unfold dated at hdated
  cases hexpiry : expiryOf exp with
  | ok d =>
    rw [hexpiry] at hdated
    cases hdated
  | error other => exact ⟨other, rfl⟩

/-- The checks of the claims need no room. -/
theorem endsTooDeep_of_read (h : read room now secret token = .error .tooDeep) :
    EndsTooDeep room secret token := by
  have hr : Unrefused (.error .tooDeep : Except Fault Claims) := unrefused_error _ (by decide)
  rcases opened_of_read h hr with ⟨-, hdeep⟩ | ⟨s, hash, header, payload, -, -, -, -, hclaims⟩
  · exact hdeep
  · obtain ⟨exp, id, email, -, hdated⟩ := passes_of_checkClaims hclaims hr
    unfold dated at hdated
    split at hdated <;> cases hdated

/-- A text that has bytes never stops a token. -/
theorem read_ne_encoding (room : Nat) (now : Instant) (secret token : String) (fault : EncodingFault) :
    read room now secret token ≠ .error (.encoding fault) := by
  intro h
  have hr : Unrefused (.error (.encoding fault) : Except Fault Claims) :=
    unrefused_error _ (by simp [refusals])
  rcases opened_of_read h hr with ⟨hdeep, -⟩ | ⟨s, hash, header, payload, -, -, -, -, hclaims⟩
  · cases hdeep
  · obtain ⟨exp, id, email, -, hdated⟩ := passes_of_checkClaims hclaims hr
    unfold dated at hdated
    split at hdated <;> cases hdated

/-- A token is accepted, or refused, or there is no date for its expiry, or no room for its JSON. -/
theorem read_cases (room : Nat) (now : Instant) (secret token : String) :
    (∃ claims, read room now secret token = .ok claims) ∨
    (∃ fault ∈ refusals, read room now secret token = .error fault) ∨
    (∃ fault, read room now secret token = .error (.badExpiry fault)) ∧
      EndsUndated now secret token ∨
    read room now secret token = .error .tooDeep ∧ EndsTooDeep room secret token := by
  rcases h : read room now secret token with fault | claims
  · right
    cases fault with
    | badExpiry fault => exact .inr (.inl ⟨⟨fault, rfl⟩, endsUndated_of_read h⟩)
    | tooDeep => exact .inr (.inr ⟨rfl, endsTooDeep_of_read h⟩)
    | encoding fault => exact absurd h (read_ne_encoding room now secret token fault)
    | malformed | badSignature | unsupportedAlgorithm | expired =>
      exact .inl ⟨_, by decide, rfl⟩
  · exact .inl ⟨claims, rfl⟩

/-- An array in an array is too deep where there is no room inside of a header. -/
example : read 0 0 "secret" "W1tdXQ.." = .error .tooDeep := by decide +kernel

/-- A token that may be broken is accepted or refused, or ends for one of three reasons: there is no
date for its expiry, there is no room for its JSON, or it has no bytes. -/
theorem decode_cases (room : Nat) (now : Instant) (secret : String) (token : LooseText) :
    (∃ claims, decode room now secret token = .ok claims) ∨
    (∃ fault ∈ refusals, decode room now secret token = .error fault) ∨
    (∃ fault, decode room now secret token = .error (.badExpiry fault)) ∧
      EndsUndated now secret token.chars ∨
    decode room now secret token = .error .tooDeep ∧ EndsTooDeep room secret token.chars ∨
    (∃ fault, decode room now secret token = .error (.encoding fault)) ∧ token.isWhole = false := by
  unfold decode LooseText.whole
  cases token.isWhole with
  | false => exact .inr (.inr (.inr (.inr ⟨⟨.surrogate, rfl⟩, rfl⟩)))
  | true =>
    rcases read_cases room now secret token.chars with h | h | h | h
    · exact .inl h
    · exact .inr (.inl h)
    · exact .inr (.inr (.inl h))
    · exact .inr (.inr (.inr (.inl h)))

end Accounts.Token
