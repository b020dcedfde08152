import Accounts.Proofs.Password.Salt
import Accounts.Proofs.Text.Utf8

/-!
# Passwords with the same key

A key is the bytes of a password and a zero byte, over and over, up to 72 bytes.  A password that
fits has all its bytes at the front of its key, so two passwords share a key only when one of them
is the other with a zero byte behind it and goes on as that key does:

    keyMaterial a = keyMaterial b   ->   a = b,  or  a ++ [0] <+: b  and
                                         (b ++ [0]).take 72 <+: keyMaterial a  (or back)

Such passwords exist, since a zero byte is a character like any other:

    keyMaterial (b ++ [0] ++ b) = keyMaterial b
-/

namespace Accounts

open Digest Number Text

namespace Password

variable {salt hash p q : String} {a b : Bytes}

/-! ## Keys -/

theorem length_rounds (n : Nat) (b : Bytes) :
    (List.replicate n (b ++ [0])).flatten.length = n * (b.length + 1) := by
  rw [List.length_flatten, List.map_replicate, List.sum_replicate_nat, List.length_append,
    List.length_singleton]

theorem length_keyMaterial (b : Bytes) : (keyMaterial b).length = maxBytes := by
  unfold keyMaterial
  rw [List.length_take, length_rounds]
  exact Nat.min_eq_left (Nat.le_mul_of_pos_right _ (Nat.succ_pos _))

/-- More rounds than a key needs make the same key. -/
theorem keyMaterial_eq_take {n : Nat} (h : maxBytes ≤ n) (b : Bytes) :
    keyMaterial b = (List.replicate n (b ++ [0])).flatten.take maxBytes := by
  obtain ⟨k, rfl⟩ := Nat.exists_eq_add_of_le h
  have hlong : maxBytes ≤ (List.replicate maxBytes (b ++ [0])).flatten.length := by
    rw [length_rounds]
    exact Nat.le_mul_of_pos_right _ (Nat.succ_pos _)
  rw [← List.replicate_append_replicate, List.flatten_append, List.take_append_of_le_length hlong]
  rfl

/-- A password, a zero byte and the password again make the key of the password. -/
theorem keyMaterial_twice (b : Bytes) : keyMaterial (b ++ [0] ++ b) = keyMaterial b := by
  -- a round of the longer password is two rounds of the shorter one
  have hpairs (n : Nat) : (List.replicate n (b ++ [0] ++ b ++ [0])).flatten =
      (List.replicate (2 * n) (b ++ [0])).flatten := by
    induction n with
    | zero => rfl
    | succ n ih =>
      rw [Nat.mul_succ, List.replicate_succ, List.replicate_succ, List.replicate_succ,
        List.flatten_cons, List.flatten_cons, List.flatten_cons, ih]
      simp only [List.append_assoc]
  rw [keyMaterial_eq_take (show maxBytes ≤ 2 * maxBytes by decide) b, ← hpairs]
  rfl

/-- What stands at the front of the bytes and the zero byte stands at the front of the key. -/
theorem prefix_keyMaterial (h : a <+: b ++ [0]) (hlength : a.length ≤ maxBytes) :
    a <+: keyMaterial b := by
  have hfirst : b ++ [0] <+: (List.replicate maxBytes (b ++ [0])).flatten :=
    List.prefix_append _ (List.replicate 71 (b ++ [0])).flatten
  exact List.prefix_take_iff.2 ⟨h.trans hfirst, hlength⟩

/-- A shorter password that shares its key stands at the front of the longer one, with the zero byte
behind it, and the longer one at the front of the key, with as much of its zero byte as fits. -/
theorem prefix_of_keyMaterial_eq (h : keyMaterial a = keyMaterial b) (hlt : a.length < b.length)
    (hb : b.length ≤ maxBytes) :
    a ++ [0] <+: b ∧ (b ++ [0]).take maxBytes <+: keyMaterial a := by
  have hshort : (a ++ [0]).length ≤ b.length := by
    rw [List.length_append]
    exact hlt
  have hfront : b <+: keyMaterial a := h ▸ prefix_keyMaterial (List.prefix_append _ _) hb
  exact ⟨List.prefix_of_prefix_length_le
      (prefix_keyMaterial List.prefix_rfl (Nat.le_trans hshort hb)) hfront hshort,
    h ▸ prefix_keyMaterial (List.take_prefix _ _) (List.length_take_le _ _)⟩

/-- Passwords of the same length that fit share no key. -/
theorem eq_of_keyMaterial_eq (h : keyMaterial a = keyMaterial b) (heq : a.length = b.length)
    (hb : b.length ≤ maxBytes) : a = b := by
  have hfront : a <+: keyMaterial b :=
    h ▸ prefix_keyMaterial (List.prefix_append _ _) (heq ▸ hb)
  exact (List.prefix_of_prefix_length_le hfront
    (prefix_keyMaterial (List.prefix_append _ _) hb) (Nat.le_of_eq heq)).eq_of_length heq

/-- A password goes on after another as the key of that one does: it starts with the other and a zero
character, and its bytes, with as much of a zero byte as fits, are the first of that key. -/
def Repeats (p q : String) : Prop :=
  p.toList ++ ['\x00'] <+: q.toList ∧
    (bytesOf q ++ [0]).take maxBytes <+: keyMaterial (bytesOf p)

/-- Different passwords that fit share a key only when one of them goes on as the key of the other. -/
theorem repeats_of_keyMaterial_eq (hp : p.utf8ByteSize ≤ maxBytes) (hq : q.utf8ByteSize ≤ maxBytes)
    (hne : p ≠ q) (h : keyMaterial (bytesOf p) = keyMaterial (bytesOf q)) :
    Repeats p q ∨ Repeats q p := by
  have hterminated (s : String) : utf8 (s.toList ++ ['\x00']) = bytesOf s ++ [0] :=
    utf8_append s.toList ['\x00']
  rw [← length_bytesOf] at hp hq
  rcases Nat.lt_trichotomy (bytesOf p).length (bytesOf q).length with hlt | heq | hlt
  · obtain ⟨hstart, hkey⟩ := prefix_of_keyMaterial_eq h hlt hq
    rw [← hterminated] at hstart
    exact .inl ⟨prefix_of_utf8 hstart, hkey⟩
  · exact absurd (bytesOf_injective (eq_of_keyMaterial_eq h heq hq)) hne
  · obtain ⟨hstart, hkey⟩ := prefix_of_keyMaterial_eq h.symm hlt hp
    rw [← hterminated] at hstart
    exact .inr ⟨prefix_of_utf8 hstart, hkey⟩

/-! ## Digests as text -/

/-- Bytes of equal number that are the same number behind the bytes of two numbers are the same. -/
theorem foldl_be_inj : ∀ {a b : Bytes} {m n : Nat}, a.length = b.length →
    a.foldl (fun n b => n * 256 + b.toNat) m = b.foldl (fun n b => n * 256 + b.toNat) n →
    m = n ∧ a = b
  | [], [], _, _, _, h => ⟨h, rfl⟩
  | x :: xs, y :: ys, m, n, hlength, h => by
    have hx := x.toNat_lt
    have hy := y.toNat_lt
    obtain ⟨hstart, rfl⟩ := foldl_be_inj (Nat.succ.inj hlength) h
    dsimp only at hstart
    have hbyte : x.toNat = y.toNat := by omega
    exact ⟨by omega, congrArg (· :: xs) (UInt8.toNat_inj.1 hbyte)⟩

/-- The text of bytes determines them. -/
theorem encode64_injective : Function.Injective encode64 := by
  intro a b h
  have hlength : a.length = b.length := by
    have htext := congrArg List.length h
    rw [length_encode64, length_encode64] at htext
    omega
  have hpos (n : Nat) : 0 < spare n := by
    unfold spare
    split <;> decide
  have hfold : beNat a * spare a.length = beNat b * spare b.length := by
    have hread := congrArg (List.foldlM (fun n c => (sixBits? c).map (64 * n + ·)) 0) h
    rw [foldlM_encode64, foldlM_encode64] at hread
    exact Option.some.inj hread
  rw [hlength] at hfold
  exact (foldl_be_inj hlength (Nat.eq_of_mul_eq_mul_right (hpos _) hfold)).2

/-! ## Verifying with any digest -/

variable {core : Nat → Salt → Bytes → Bytes}

/-- Check a password against a hash with any map from a cost, a salt and a key to bytes as its
digest. -/
def verifyUnder (core : Nat → Salt → Bytes → Bytes) (hash : Option String) (password : String) :
    Verdict :=
  let stored := hash.getD ""
  if stored.isEmpty then .refused
  else
    match hashUnder? core stored password with
    | some h => if h = stored then .accepted else .refused
    | none => .unusable

theorem verifyUnder_digest : verifyUnder digest = verify := rfl

/-- A digest that tells keys apart: at every cost and with every salt, different keys have different
digests. -/
def TellsApart (core : Nat → Salt → Bytes → Bytes) : Prop :=
  ∀ (cost : Nat) (salt : Salt) (a b : Bytes), a.length = maxBytes → b.length = maxBytes →
    core cost salt a = core cost salt b → a = b

/-- A password that fits is hashed with every salt that has settings. -/
theorem exists_hashUnder? (core : Nat → Salt → Bytes → Bytes) (hp : p.utf8ByteSize ≤ maxBytes)
    (hsalt : (Settings.ofText? salt).isSome) : ∃ hash, hashUnder? core salt p = some hash := by
  obtain ⟨s, hs⟩ := Option.isSome_iff_exists.1 hsalt
  rw [← length_bytesOf] at hp
  exact ⟨_, hashUnder?_eq_some.2 ⟨s, hs, hp, rfl⟩⟩

/-- A password that fits is accepted for the hash of another exactly when the digests of their keys
agree, and refused otherwise. -/
theorem verifyUnder_hashUnder? (hq : q.utf8ByteSize ≤ maxBytes)
    (h : hashUnder? core salt p = some hash) :
    ∃ s, Settings.ofText? salt = some s ∧
      verifyUnder core (some hash) q =
        if core s.cost s.salt (keyMaterial (bytesOf p)) =
            core s.cost s.salt (keyMaterial (bytesOf q)) then .accepted
        else .refused := by
  obtain ⟨s, hs, -, hhash⟩ := hashUnder?_eq_some.1 h
  have hsettings : Settings.ofText? hash = some s := (ofText?_of_hashUnder? h).trans hs
  rw [← length_bytesOf] at hq
  have hagain : hashUnder? core hash q = some (String.ofList
      (s.chars ++ encode64 (core s.cost s.salt (keyMaterial (bytesOf q))))) :=
    hashUnder?_eq_some.2 ⟨s, hsettings, hq, rfl⟩
  have hsame : String.ofList (s.chars ++ encode64 (core s.cost s.salt (keyMaterial (bytesOf q)))) =
      hash ↔ core s.cost s.salt (keyMaterial (bytesOf p)) =
        core s.cost s.salt (keyMaterial (bytesOf q)) := by
    rw [hhash, String.ofList_inj, List.append_cancel_left_eq, encode64_injective.eq_iff, eq_comm]
  refine ⟨s, hs, ?_⟩
  unfold verifyUnder
  dsimp only [Option.getD_some]
  rw [isEmpty_of_ofText? hsettings, hagain, if_neg Bool.false_ne_true]
  exact if_congr hsame rfl rfl

/-- A digest that tells keys apart refuses just the passwords that do not share the key. -/
theorem refused_iff_of_tellsApart (hcore : TellsApart core) (hq : q.utf8ByteSize ≤ maxBytes)
    (h : hashUnder? core salt p = some hash) :
    verifyUnder core (some hash) q = .refused ↔
      keyMaterial (bytesOf p) ≠ keyMaterial (bytesOf q) := by
  obtain ⟨s, -, hverdict⟩ := verifyUnder_hashUnder? hq h
  have hsame : core s.cost s.salt (keyMaterial (bytesOf p)) =
      core s.cost s.salt (keyMaterial (bytesOf q)) ↔
        keyMaterial (bytesOf p) = keyMaterial (bytesOf q) :=
    ⟨hcore _ _ _ _ (length_keyMaterial _) (length_keyMaterial _), congrArg _⟩
  rw [hverdict, if_congr hsame rfl rfl]
  split
  case isTrue heq => exact iff_of_false nofun fun hne => hne heq
  case isFalse hne => exact iff_of_true rfl hne

/-- A password, a zero character and the password again are accepted for the hash of the password. -/
theorem verify_twice (h : hashWith? salt p = some hash)
    (hsize : (p ++ "\x00" ++ p).utf8ByteSize ≤ maxBytes) :
    verify (some hash) (p ++ "\x00" ++ p) = .accepted := by
  obtain ⟨s, -, hverdict⟩ := verifyUnder_hashUnder? hsize (hashUnder?_digest ▸ h)
  have hkey : keyMaterial (bytesOf (p ++ "\x00" ++ p)) = keyMaterial (bytesOf p) := by
    rw [bytesOf_append, bytesOf_append]
    exact keyMaterial_twice (bytesOf p)
  rw [← verifyUnder_digest, hverdict, hkey, if_pos rfl]

end Password

/-! ## Other passwords -/

/-- **Other passwords are refused.**  Two different passwords that the rules accept have different keys,
unless one of them goes on as the key of the other, so is the other with a zero character behind it.
With a digest that tells keys apart, and every salt, one of them has a hash, and the other is refused
for it exactly when their keys are different.  The digest in use refuses it as well, unless it takes the
same value at both keys. -/
theorem other_passwords_are_refused {p q : String} (hp : checkPassword (some p) = .ok none)
    (hq : checkPassword (some q) = .ok none) (hne : p ≠ q) :
    (¬Password.Repeats p q → ¬Password.Repeats q p →
      Password.keyMaterial (bytesOf p) ≠ Password.keyMaterial (bytesOf q)) ∧
    (∀ core, Password.TellsApart core → ∀ salt, (Password.Settings.ofText? salt).isSome →
      ∃ hash, Password.hashUnder? core salt p = some hash ∧
        (Password.verifyUnder core (some hash) q = .refused ↔
          Password.keyMaterial (bytesOf p) ≠ Password.keyMaterial (bytesOf q))) ∧
    ∀ salt hash, Password.hashWith? salt p = some hash →
      Password.verify (some hash) q = .refused ∨
      ∃ s, Password.Settings.ofText? salt = some s ∧
        Password.digest s.cost s.salt (Password.keyMaterial (bytesOf p)) =
          Password.digest s.cost s.salt (Password.keyMaterial (bytesOf q)) := by
  have hpsize : p.utf8ByteSize ≤ Password.maxBytes := (checkPassword_eq_none_iff.1 hp).2.2
  have hqsize : q.utf8ByteSize ≤ Password.maxBytes := (checkPassword_eq_none_iff.1 hq).2.2
  refine ⟨fun hpq hqp heq => ?_, fun core hcore salt hsalt => ?_, fun salt hash hhash => ?_⟩
  · exact (Password.repeats_of_keyMaterial_eq hpsize hqsize hne heq).elim hpq hqp
  · obtain ⟨hash, hhash⟩ := Password.exists_hashUnder? core hpsize hsalt
    exact ⟨hash, hhash, Password.refused_iff_of_tellsApart hcore hqsize hhash⟩
  · obtain ⟨s, hs, hverdict⟩ :=
      Password.verifyUnder_hashUnder? hqsize (Password.hashUnder?_digest ▸ hhash)
    rw [Password.verifyUnder_digest] at hverdict
    by_cases hcollision : Password.digest s.cost s.salt (Password.keyMaterial (bytesOf p)) =
        Password.digest s.cost s.salt (Password.keyMaterial (bytesOf q))
    · exact .inr ⟨s, hs, hcollision⟩
    · exact .inl (hverdict.trans (if_neg hcollision))

/-- The digest that keeps the whole key tells keys apart. -/
theorem Password.tellsApart_key : Password.TellsApart fun _ _ key => key := fun _ _ _ _ _ _ h => h

theorem other_passwords_are_refused_sample :
    checkPassword (some "secret1") = .ok none ∧ checkPassword (some "secret1!") = .ok none ∧
    ¬Password.Repeats "secret1" "secret1!" ∧ ¬Password.Repeats "secret1!" "secret1" ∧
    ∃ hash, Password.hashUnder? (fun _ _ key => key) (Password.freshSalt (List.replicate 16 0))
        "secret1" = some hash ∧
      Password.verifyUnder (fun _ _ key => key) (some hash) "secret1!" = .refused := by
  have hp : checkPassword (some "secret1") = .ok none := by decide
  have hq : checkPassword (some "secret1!") = .ok none := by decide
  have hpq : ¬Password.Repeats "secret1" "secret1!" := fun h => absurd h.1 (by decide)
  have hqp : ¬Password.Repeats "secret1!" "secret1" := fun h => absurd h.1 (by decide)
  have hsalt : (Password.Settings.ofText?
      (Password.freshSalt (List.replicate 16 0))).isSome := by
    rw [Password.ofText?_freshSalt rfl]
    rfl
  obtain ⟨hkeys, hverdicts, -⟩ := other_passwords_are_refused hp hq (by decide)
  obtain ⟨hash, hhash, hrefused⟩ := hverdicts _ Password.tellsApart_key _ hsalt
  exact ⟨hp, hq, hpq, hqp, hash, hhash, hrefused.2 (hkeys hpq hqp)⟩

/-- Two different passwords that the rules accept, of which the second is the first, a zero character
and the first again: they have one key, and the second is accepted for the hash of the first. -/
theorem repeated_password_accepted :
    checkPassword (some "secret") = .ok none ∧ checkPassword (some "secret\x00secret") = .ok none ∧
    "secret" ≠ "secret\x00secret" ∧
    Password.keyMaterial (bytesOf "secret") = Password.keyMaterial (bytesOf "secret\x00secret") ∧
    ∃ hash, Password.hashWith? (Password.freshSalt (List.replicate 16 0)) "secret" = some hash ∧
      Password.verify (some hash) "secret\x00secret" = .accepted := by
  have hp : checkPassword (some "secret") = .ok none := by decide
  have hlength : (List.replicate 16 0 : Bytes).length = 16 := rfl
  obtain ⟨hash, hhash⟩ := Password.exists_hashWith?_freshSalt hlength
    (checkPassword_eq_none_iff.1 hp).2.2
  have htwice : "secret" ++ "\x00" ++ "secret" = "secret\x00secret" := by decide
  have haccepted := Password.verify_twice hhash (by decide)
  rw [htwice] at haccepted
  exact ⟨hp, by decide, by decide, by decide, hash, hhash, haccepted⟩

end Accounts
