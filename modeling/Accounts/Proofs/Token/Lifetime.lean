import Accounts.Proofs.Token.Soundness

/-!
# How long a token lives

An issued token lives from the whole second of its issue for its minutes, and at no other time.  While
it lives it is read as exactly the account, the address and the expiry that it was issued with:

    issue now secret minutes id email = .ok token,  start = seconds now,  end = start + 60 * minutes
      ->  read room later secret token = .error .malformed            later < start
          read room later secret token = .ok ⟨id, email, end⟩         start ≤ later < end
          read room later secret token = .error .expired              start ≤ later,  end ≤ later
-/

namespace Accounts.Token

open Calendar Digest Number Text

variable {now later : Instant} {secret email token : String} {minutes expires : Int} {id : Uuid}

/-- A whole number of minutes later, the last whole second is as many minutes later. -/
theorem seconds_add_minutes (now minutes : Int) :
    Instant.seconds (now + minutes * (60 * second)) = Instant.seconds now + 60 * minutes := by
  unfold Instant.seconds
  rw [Int.fdiv_eq_ediv_of_nonneg _ (by decide), Int.fdiv_eq_ediv_of_nonneg _ (by decide)]
  unfold second
  omega

/-- The expiry of a token that lives for some minutes stands for the end of those minutes. -/
theorem instant_of_expiry {d : DateTime} (h : expiry now minutes = .ok expires)
    (hd : expiryOf (.int expires) = .ok d) :
    d.instant = (Instant.seconds now + 60 * minutes) * second ∧ d.offset = some .utc := by
  obtain ⟨t, ht, hinstant, hoffset⟩ := expiryOf_eq_ok hd
  obtain rfl : expires * second = t := Except.ok.inj ht
  rw [(expiry_eq_ok h).1, seconds_add_minutes] at hinstant
  exact ⟨hinstant, hoffset⟩

/-- Before the second of its issue the claims of a token are refused. -/
theorem checkClaims_early {issued : Int} (h : later < issued * second) :
    checkClaims later (payloadMembers id email issued expires) = .error .malformed := by
  have hlate : ¬ issued * second ≤ later := Int.not_le.2 h
  have hissued : notAfter later "iat" (payloadMembers id email issued expires) =
      .error .malformed := by
    unfold notAfter
    rw [show Json.member? "iat" (payloadMembers id email issued expires) = some (.int issued) from
      rfl]
    unfold integerClaim? demand require
    simp only [bind, Except.bind, hlate, decide_false, Bool.false_eq_true, if_false]
  unfold checkClaims
  rw [hissued]
  rfl

/-- **Tokens live for their minutes.**  A token is accepted from the second of its issue until its
minutes are over, with what it was issued for, and never outside that time.  Without a positive
number of minutes it is never accepted. -/
theorem token_lives_for_its_minutes (h : issue now secret minutes id email = .ok token) :
    ∃ expiresAt : DateTime,
      (expiresAt.instant = (Instant.seconds now + 60 * minutes) * second ∧
        expiresAt.offset = some .utc) ∧
      (∀ room later, later < Instant.seconds now * second →
        read room later secret token = .error .malformed) ∧
      (∀ room later, Instant.seconds now * second ≤ later →
        later < (Instant.seconds now + 60 * minutes) * second →
        read room later secret token = .ok ⟨id, email, expiresAt⟩) ∧
      (∀ room later, Instant.seconds now * second ≤ later →
        (Instant.seconds now + 60 * minutes) * second ≤ later →
        read room later secret token = .error .expired) ∧
      (minutes ≤ 0 → ∀ room later claims, read room later secret token ≠ .ok claims) := by
  obtain ⟨expires, hexpiry, hread⟩ := read_of_issue h
  obtain ⟨d, hd⟩ := expiryOf_expiry hexpiry
  have hinstant := instant_of_expiry hexpiry hd
  obtain rfl : expires = Instant.seconds now + 60 * minutes :=
    (expiry_eq_ok hexpiry).1.trans (seconds_add_minutes now minutes)
  have hearly (room : Nat) (later : Instant) (hl : later < Instant.seconds now * second) :
      read room later secret token = .error .malformed :=
    (hread room later).trans (checkClaims_early hl)
  have hexpired (room : Nat) (later : Instant) (hl : Instant.seconds now * second ≤ later)
      (hover : (Instant.seconds now + 60 * minutes) * second ≤ later) :
      read room later secret token = .error .expired :=
    ((hread room later).trans (checkClaims_payload hl hd)).trans (if_neg (Int.not_lt.2 hover))
  refine ⟨d, hinstant, hearly, ?_, hexpired, ?_⟩
  · intro room later hl hlive
    exact ((hread room later).trans (checkClaims_payload hl hd)).trans (if_pos hlive)
  · intro hminutes room later claims haccepted
    by_cases hl : later < Instant.seconds now * second
    · rw [hearly room later hl] at haccepted
      cases haccepted
    · have hstart : Instant.seconds now * second ≤ later := Int.not_lt.1 hl
      have hover : (Instant.seconds now + 60 * minutes) * second ≤ later := by
        unfold second at hstart ⊢
        omega
      rw [hexpired room later hstart hover] at haccepted
      cases haccepted

/-- A token for an hour, issued in the middle of a second, and one that never lived. -/
theorem token_lives_for_its_minutes_sample :
    (∃ token, issue (looseNow + 250000) plainSecret 60 looseClaims.accountId "ada@example.com" =
        .ok token ∧
      (∃ expiresAt, ∀ room, read room looseNow plainSecret token =
        .ok ⟨looseClaims.accountId, "ada@example.com", expiresAt⟩) ∧
      ∀ room, read room (looseNow + 3600 * second) plainSecret token = .error .expired) ∧
    (∃ token, issue looseNow plainSecret 0 looseClaims.accountId "ada@example.com" = .ok token ∧
      ∀ room later claims, read room later plainSecret token ≠ .ok claims) := by
  have hkey : keyFault? plainSecret = none := by decide +kernel
  constructor
  · have hexpiry : expiry (looseNow + 250000) 60 = .ok 1700003600 := by decide +kernel
    obtain ⟨token, htoken⟩ := issue_of_expiry hexpiry hkey looseClaims.accountId "ada@example.com"
    obtain ⟨d, -, -, hlive, hover, -⟩ := token_lives_for_its_minutes htoken
    exact ⟨token, htoken, ⟨d, fun room => hlive room looseNow (by decide) (by decide)⟩,
      fun room => hover room (looseNow + 3600 * second) (by decide) (by decide)⟩
  · have hexpiry : expiry looseNow 0 = .ok 1700000000 := by decide +kernel
    obtain ⟨token, htoken⟩ := issue_of_expiry hexpiry hkey looseClaims.accountId "ada@example.com"
    obtain ⟨d, -, -, -, -, hnever⟩ := token_lives_for_its_minutes htoken
    exact ⟨token, htoken, hnever (by decide)⟩

end Accounts.Token
