import Accounts.Proofs.Account.Rules
import Accounts.Proofs.Password.Hash
import Accounts.Proofs.Program.Run
import Accounts.Proofs.Service.Secrecy

/-!
# Fresh salts, and which passwords verify

The salts that new hashes are made with are 16 bytes, written six bits at a time.  Such a text has
the settings of its bytes, so every password that the rules accept is hashed with it, and verifies
against the hash:

    saltNumber? (encode64 bytes) = some (beNat bytes)                   for 16 bytes
    hashWith? (freshSalt bytes) p = some hash,   verify hash p = accepted
-/

namespace Accounts

open Digest Number Text
open Accounts.Action

namespace Password

/-! ## Six bits at a time -/

theorem sixBits?_sixChar_of_lt : ∀ n < 64, sixBits? (sixChar n) = some n := by decide

theorem sixBits?_sixChar (n : Nat) : sixBits? (sixChar n) = some (n % 64) := by
  have hmod : sixChar n = sixChar (n % 64) := by
    unfold sixChar
    rw [Nat.mod_mod]
  rw [hmod]
  exact sixBits?_sixChar_of_lt _ (Nat.mod_lt _ (by decide))

/-- The value of the bits that the text of some bytes has at its end and no byte uses. -/
def spare (count : Nat) : Nat :=
  match count % 3 with
  | 0 => 1
  | 1 => 16
  | _ => 4

theorem foldlM_sixChar_cons (n k : Nat) (cs : List Char) :
    (sixChar k :: cs).foldlM (fun n c => (sixBits? c).map (64 * n + ·)) n =
      cs.foldlM (fun n c => (sixBits? c).map (64 * n + ·)) (64 * n + k % 64) := by
  rw [List.foldlM_cons, sixBits?_sixChar]
  rfl

/-- Reading the text of bytes behind a number appends the bytes and the unused bits to it. -/
theorem foldlM_encode64 (bytes : Bytes) (n : Nat) :
    (encode64 bytes).foldlM (fun n c => (sixBits? c).map (64 * n + ·)) n =
      some (bytes.foldl (fun n b => n * 256 + b.toNat) n * spare bytes.length) := by
  induction bytes using encode64.induct generalizing n with
  | case1 => exact congrArg some (Nat.mul_one n).symm
  | case2 a =>
    have ha := a.toNat_lt
    rw [encode64, foldlM_sixChar_cons, foldlM_sixChar_cons]
    refine congrArg some ?_
    show 64 * (64 * n + a.toNat / 4 % 64) + a.toNat % 4 * 16 % 64 = (n * 256 + a.toNat) * 16
    omega
  | case3 a b =>
    have ha := a.toNat_lt
    have hb := b.toNat_lt
    rw [encode64, foldlM_sixChar_cons, foldlM_sixChar_cons, foldlM_sixChar_cons]
    refine congrArg some ?_
    show 64 * (64 * (64 * n + a.toNat / 4 % 64) + (a.toNat % 4 * 16 + b.toNat / 16) % 64) +
      b.toNat % 16 * 4 % 64 = ((n * 256 + a.toNat) * 256 + b.toNat) * 4
    omega
  | case4 a b c rest ih =>
    have ha := a.toNat_lt
    have hb := b.toNat_lt
    have hc := c.toNat_lt
    have hgroup : 64 * (64 * (64 * (64 * n + a.toNat / 4 % 64) +
        (a.toNat % 4 * 16 + b.toNat / 16) % 64) + (b.toNat % 16 * 4 + c.toNat / 64) % 64) +
        c.toNat % 64 % 64 = ((n * 256 + a.toNat) * 256 + b.toNat) * 256 + c.toNat := by omega
    have hspare : spare (a :: b :: c :: rest).length = spare rest.length := by
      unfold spare
      rw [show (a :: b :: c :: rest).length = rest.length + 3 from rfl, Nat.add_mod_right]
    rw [encode64, foldlM_sixChar_cons, foldlM_sixChar_cons, foldlM_sixChar_cons,
      foldlM_sixChar_cons, hgroup, ih, hspare, List.foldl_cons, List.foldl_cons, List.foldl_cons]

/-- The text of 16 bytes writes the number that the bytes are. -/
theorem saltNumber?_encode64 {bytes : Bytes} (h : bytes.length = 16) :
    saltNumber? (encode64 bytes) = some (beNat bytes) := by
  have hfold : (encode64 bytes).foldlM (fun n c => (sixBits? c).map (64 * n + ·)) 0 =
      some (beNat bytes * 16) := by
    rw [foldlM_encode64, h]
    rfl
  unfold saltNumber?
  rw [hfold]
  show (if beNat bytes * 16 % 16 = 0 then some (beNat bytes * 16 / 16) else none) = _
  rw [if_pos (Nat.mul_mod_left _ _), Nat.mul_div_cancel _ (by decide)]

/-! ## Fresh salts -/

/-- The settings of 16 bytes at the least cost. -/
def freshSettings (bytes : Bytes) : Settings :=
  ⟨"2b".toList, 4, encode64 bytes, Salt.ofNat (beNat bytes)⟩

/-- The salt that new hashes are made with. -/
def freshSalt (bytes : Bytes) : String := String.ofList ("$2b$04$".toList ++ encode64 bytes)

theorem chars_freshSettings (bytes : Bytes) :
    (freshSettings bytes).chars = "$2b$04$".toList ++ encode64 bytes := by
  have hcost : padded 2 4 = ['0', '4'] := by decide +kernel
  unfold Settings.chars freshSettings
  rw [hcost]
  rfl

theorem valid_freshSettings {bytes : Bytes} (h : bytes.length = 16) :
    (freshSettings bytes).Valid where
  version := show "2b".toList ∈ versions by decide
  cost := ⟨Nat.le_refl 4, show 4 ≤ 31 by decide⟩
  length := by
    show (encode64 bytes).length = saltLength
    rw [length_encode64, h]
    rfl
  salt := ⟨_, saltNumber?_encode64 h, rfl⟩

theorem ofText?_freshSalt {bytes : Bytes} (h : bytes.length = 16) :
    Settings.ofText? (freshSalt bytes) = some (freshSettings bytes) := by
  have hread : Settings.ofText? (String.ofList ((freshSettings bytes).chars ++ [])) =
      some (freshSettings bytes) :=
    Settings.ofText?_chars (valid_freshSettings h) fun _ hc => nomatch hc
  rwa [List.append_nil, chars_freshSettings] at hread

/-- A password of acceptable length is hashed with every fresh salt. -/
theorem exists_hashWith?_freshSalt {bytes : Bytes} {p : String} (h : bytes.length = 16)
    (hp : p.utf8ByteSize ≤ maxBytes) : ∃ hash, hashWith? (freshSalt bytes) p = some hash := by
  rw [← Option.isSome_iff_exists, isSome_hashWith? _ hp, ofText?_freshSalt h]
  rfl

/-! ## Outcomes of a verification -/

/-- A password that is too long has no hash. -/
theorem hashWith?_of_long {p : String} (h : maxBytes < p.utf8ByteSize) (settings : String) :
    hashWith? settings p = none := by
  unfold hashWith?
  cases Settings.ofText? settings with
  | none => rfl
  | some s =>
    have hlong : ¬(bytesOf p).length ≤ maxBytes := by
      rw [length_bytesOf]
      omega
    show (Option.bind (guard ((bytesOf p).length ≤ maxBytes)) fun _ => some _) = none
    rw [show (guard ((bytesOf p).length ≤ maxBytes) : Option Unit) = none from if_neg hlong]
    rfl

/-- A password is accepted when the stored text is its hash, made with the salt in this text. -/
theorem verify_eq_accepted_iff {stored : Option String} {p : String} :
    verify stored p = .accepted ↔ ∃ hash, stored = some hash ∧ hashWith? hash p = some hash := by
  cases stored with
  | none => simp [verify]
  | some hash =>
    cases hempty : hash.isEmpty with
    | false => simpa using verify_eq_accepted hempty p
    | true =>
      rw [String.isEmpty_iff] at hempty
      subst hempty
      have hnone : hashWith? "" p = none := rfl
      simp [verify, hnone]

/-- A password that may be broken is accepted when the stored text is its hash. -/
theorem verifyLoose_eq_accepted_iff {stored : Option String} {p : LooseText} :
    verifyLoose stored p = .accepted ↔ ∃ hash, stored = some hash ∧ hashLoose? hash p = some hash := by
  cases hp : p.isWhole with
  | true =>
    simp only [verifyLoose_of_isWhole hp, hashLoose?_of_isWhole hp]
    exact verify_eq_accepted_iff
  | false =>
    unfold verifyLoose hashLoose? LooseText.whole
    rw [hp]
    cases (stored.getD "").isEmpty <;> simp

/-- A password that is too long has no hash, broken or not. -/
theorem hashLoose?_of_long {p : LooseText} (h : maxBytes < p.chars.utf8ByteSize) (settings : String) :
    hashLoose? settings p = none := by
  unfold hashLoose? LooseText.whole
  cases p.isWhole with
  | true => exact hashWith?_of_long h settings
  | false => rfl

end Password

/-! ## Passwords at the service -/

/-- The events of a verification: a stored text or password without use is recorded. -/
def Password.Verdict.events : Password.Verdict → List Event
  | .unusable => [.passwordUnusable]
  | .accepted | .refused => []

/-- A check of a password ends with its verdict, whatever is stored: it is passed or refused. -/
theorem Identity.run_checkPassword (account : Account) (p : LooseText) (w : World) :
    (Identity.checkPassword account p).run w =
      (if Password.verifyLoose account.password p = .accepted then .ok ()
        else .error (.failure { cause := .badCredentials }),
        { w with events := w.events ++ (Password.verifyLoose account.password p).events }) := by
  unfold Identity.checkPassword
  cases Password.verifyLoose account.password p with
  | accepted => simp [Password.Verdict.events]
  | refused => simp [Password.Verdict.events]
  | unusable => rfl

/-- The passwords that the rules accept. -/
theorem checkPassword_eq_none_iff {p : LooseText} :
    checkPassword (some p) = .ok none ↔ p.isWhole = true ∧
      minPasswordLength ≤ p.chars.length ∧ p.chars.utf8ByteSize ≤ maxPasswordBytes := by
  rw [checkPassword_eq_none_iff_allowed, Option.getD_some]
  constructor
  · rintro ⟨-, hlong, s, hwhole, hbytes⟩
    obtain ⟨hp, rfl⟩ := LooseText.whole_eq_ok_iff.1 hwhole
    exact ⟨hp, hlong, hbytes⟩
  · rintro ⟨hp, hlong, hbytes⟩
    refine ⟨fun hblank => ?_, hlong, p.chars, LooseText.whole_of_isWhole hp, hbytes⟩
    rw [hblank] at hlong
    exact absurd hlong (by decide)

/-- **Acceptable passwords verify.**  A password that the rules accept is hashed with every fresh
salt, and accepted for the hash.  A text of more than 72 bytes is hashed with no salt and accepted
for nothing that is stored.  And whatever is stored, a verification accepts the texts that hash to
it and no others, and the service answers it with success or with bad credentials. -/
theorem acceptable_passwords_verify (p : LooseText) :
    (checkPassword (some p) = .ok none → ∀ bytes : Bytes, bytes.length = 16 →
      ∃ hash, Password.hashLoose? (Password.freshSalt bytes) p = some hash ∧
        Password.verifyLoose (some hash) p = .accepted) ∧
    (maxPasswordBytes < p.chars.utf8ByteSize →
      (∀ salt, Password.hashLoose? salt p = none) ∧
      ∀ stored, Password.verifyLoose stored p ≠ .accepted) ∧
    ∀ stored,
      (Password.verifyLoose stored p = .accepted ↔
        ∃ hash, stored = some hash ∧ Password.hashLoose? hash p = some hash) ∧
      ∀ (account : Account) (w : World), account.password = stored →
        ((Identity.checkPassword account p).run w).1 =
          if Password.verifyLoose stored p = .accepted then .ok ()
          else .error (.failure { cause := .badCredentials }) := by
  refine ⟨fun hp bytes hbytes => ?_, fun hlong => ⟨Password.hashLoose?_of_long hlong, ?_⟩,
    fun stored => ⟨Password.verifyLoose_eq_accepted_iff, ?_⟩⟩
  · obtain ⟨hwhole, -, hsize⟩ := checkPassword_eq_none_iff.1 hp
    obtain ⟨hash, hhash⟩ := Password.exists_hashWith?_freshSalt hbytes hsize
    have hloose := Password.hashLoose?_eq_some.2 ⟨hwhole, hhash⟩
    exact ⟨hash, hloose, Password.verifyLoose_own hloose⟩
  · intro stored haccepted
    obtain ⟨hash, -, hhash⟩ := Password.verifyLoose_eq_accepted_iff.1 haccepted
    rw [Password.hashLoose?_of_long hlong] at hhash
    cases hhash
  · rintro account w rfl
    rw [Identity.run_checkPassword]

theorem acceptable_passwords_verify_sample :
    checkPassword (some "fünf Vögel") = .ok none ∧
    ∃ hash, Password.hashLoose? (Password.freshSalt (List.replicate 16 0)) "fünf Vögel" =
        some hash ∧ Password.verifyLoose (some hash) "fünf Vögel" = .accepted :=
  have hp : checkPassword (some "fünf Vögel") = .ok none := by decide
  ⟨hp, (acceptable_passwords_verify "fünf Vögel").1 hp (List.replicate 16 0) rfl⟩

end Accounts
