import Accounts.Password.Hash
import Accounts.Proofs.Number.Decimal
import Mathlib.Data.Option.Basic

/-!
# Hashes name their own settings

A hash is the text of its settings with a digest behind it, and reading it gives the settings again.
So hashing with the salt of a hash is hashing with the salt that the hash was made with:

    hashWith? salt p = some hash  ->  hashWith? hash q = hashWith? salt q
-/

namespace Accounts.Password

open Digest Number Text

variable {salt hash p : String} {s : Settings}

/-! ## Lengths of passwords -/

theorem length_bytesOf (s : String) : (bytesOf s).length = s.utf8ByteSize := by
  rw [← String.size_toByteArray, ← String.utf8Encode_toList, List.utf8Encode]
  exact (List.size_toByteArray).symm

/-- Whether hashing gives a result depends on the salt and the length of the password. -/
theorem isSome_hashWith? (salt : String) (h : p.utf8ByteSize ≤ maxBytes) :
    (hashWith? salt p).isSome = (Settings.ofText? salt).isSome := by
  unfold hashWith?
  cases Settings.ofText? salt with
  | none => rfl
  | some s =>
    have hlength : (bytesOf p).length ≤ maxBytes := by rwa [length_bytesOf]
    show (Option.bind (guard ((bytesOf p).length ≤ maxBytes)) fun _ => some _).isSome = true
    rw [(Option.guard_eq_some' ()).2 hlength]
    rfl

/-! ## Characters of hashes -/

theorem dollar_not_mem_alphabet : '$' ∉ alphabet := by decide

theorem sixChar_mem (n : Nat) : sixChar n ∈ alphabet := by
  have hlt : n % 64 < alphabet.length := Nat.mod_lt _ (by decide)
  unfold sixChar
  rw [List.getD_eq_getElem?_getD, List.getElem?_eq_getElem hlt]
  exact List.getElem_mem hlt

theorem encode64_subset (bytes : Bytes) : ∀ c ∈ encode64 bytes, c ∈ alphabet := by
  induction bytes using encode64.induct with
  | case1 => intro c hc; cases hc
  | case2 a =>
    intro c hc
    simp only [encode64, List.mem_cons, List.not_mem_nil, or_false] at hc
    rcases hc with rfl | rfl <;> exact sixChar_mem _
  | case3 a b =>
    intro c hc
    simp only [encode64, List.mem_cons, List.not_mem_nil, or_false] at hc
    rcases hc with rfl | rfl | rfl <;> exact sixChar_mem _
  | case4 a b c rest ih =>
    intro d hd
    simp only [encode64, List.mem_cons] at hd
    rcases hd with rfl | rfl | rfl | rfl | hd
    · exact sixChar_mem _
    · exact sixChar_mem _
    · exact sixChar_mem _
    · exact sixChar_mem _
    · exact ih d hd

theorem mem_alphabet_of_sixBits? {c : Char} {n : Nat} (h : sixBits? c = some n) :
    c ∈ alphabet := by
  rw [← List.isSome_idxOf?, show alphabet.idxOf? c = some n from h]
  rfl

/-- The characters of a salt that writes a number are those of the alphabet. -/
theorem mem_alphabet_of_saltNumber? {cs : List Char} {n : Nat} (h : saltNumber? cs = some n) :
    ∀ c ∈ cs, c ∈ alphabet := by
  have hfold : ∀ (cs : List Char) (n k : Nat),
      cs.foldlM (fun n c => (sixBits? c).map (64 * n + ·)) n = some k → ∀ c ∈ cs, c ∈ alphabet := by
    intro cs
    induction cs with
    | nil => intro n k _ c hc; cases hc
    | cons d ds ih =>
      intro n k hk c hc
      rw [List.foldlM_cons] at hk
      cases hd : sixBits? d with
      | none =>
        rw [hd] at hk
        cases hk
      | some m =>
        rw [hd] at hk
        rcases List.mem_cons.1 hc with rfl | hc
        · exact mem_alphabet_of_sixBits? hd
        · exact ih _ k hk c hc
  unfold saltNumber? at h
  obtain ⟨k, hk, -⟩ := Option.bind_eq_some_iff.1 h
  exact hfold cs 0 k hk

/-! ## Reading hashes -/

/-- The settings that a text may have. -/
structure Settings.Valid (s : Settings) : Prop where
  version : s.version ∈ versions
  cost : 4 ≤ s.cost ∧ s.cost ≤ 31
  length : s.saltText.length = saltLength
  salt : ∃ n, saltNumber? s.saltText = some n ∧ s.salt = Salt.ofNat n

theorem Settings.valid_of_ofText? (h : Settings.ofText? salt = some s) : s.Valid := by
  unfold ofText? at h
  split at h
  · rename_i version cost rest hparts
    obtain ⟨_, hversion, h⟩ := Option.bind_eq_some_iff.1 h
    obtain ⟨n, hn, h⟩ := Option.bind_eq_some_iff.1 h
    obtain ⟨_, hlength, h⟩ := Option.bind_eq_some_iff.1 h
    obtain ⟨k, hk, h⟩ := Option.bind_eq_some_iff.1 h
    cases h
    have hcost : 4 ≤ n ∧ n ≤ 31 := by simpa using (Option.filter_eq_some_iff.1 hn).2
    rw [Option.guard_eq_some'] at hversion hlength
    exact ⟨List.contains_iff_mem.1 hversion, hcost, hlength, k, hk, rfl⟩
  · cases h

theorem cost?_padded {n : Nat} (h : 4 ≤ n ∧ n ≤ 31) : cost? (padded 2 n) = some n := by
  have hplus : ∀ rest, padded 2 n ≠ '+' :: rest := by
    intro rest heq
    exact absurd (all_isDigit_padded 2 n '+' (heq ▸ List.mem_cons_self)) (by decide)
  have hread : ofDigits? (padded 2 n) = some n := by
    rw [ofDigits?_eq_readDigits (padded_ne_nil 2 n), readDigits_padded]
  have hfilter : (some n).filter (fun n => 4 ≤ n && n ≤ 31) = some n := by simp [h]
  unfold cost?
  split
  · rename_i rest heq
    exact absurd heq (hplus rest)
  · exact (congrArg (Option.filter _) hread).trans hfilter

/-- The text of valid settings with characters of the alphabet behind it has these settings. -/
theorem Settings.ofText?_chars (h : s.Valid) {digest : List Char} (hd : ∀ c ∈ digest, c ∈ alphabet) :
    Settings.ofText? (String.ofList (s.chars ++ digest)) = some s := by
  obtain ⟨hversion, hcost, hlength, k, hk, hsalt⟩ := h
  have hv : '$' ∉ s.version := by
    revert hversion
    generalize s.version = version
    revert version
    decide
  have hc : '$' ∉ padded 2 s.cost := by
    intro hmem
    exact absurd (all_isDigit_padded 2 s.cost _ hmem) (by decide)
  have hrest : '$' ∉ s.saltText ++ digest := by
    intro hmem
    rcases List.mem_append.1 hmem with hmem | hmem
    · exact dollar_not_mem_alphabet (mem_alphabet_of_saltNumber? hk _ hmem)
    · exact dollar_not_mem_alphabet (hd _ hmem)
  have hsplit : (s.chars ++ digest).splitOn '$' =
      [[], s.version, padded 2 s.cost, s.saltText ++ digest] := by
    rw [show s.chars ++ digest = [] ++ '$' :: (s.version ++ '$' :: (padded 2 s.cost ++
      '$' :: (s.saltText ++ digest))) by simp [chars]]
    rw [List.splitOn_append_cons_self_of_not_mem List.not_mem_nil,
      List.splitOn_append_cons_self_of_not_mem hv, List.splitOn_append_cons_self_of_not_mem hc,
      List.splitOn_eq_singleton hrest]
  have hparts : [[], s.version, padded 2 s.cost, s.saltText ++ digest].filter (· ≠ []) =
      [s.version, padded 2 s.cost, s.saltText ++ digest] := by
    have hversion' : s.version ≠ [] := by
      rintro heq
      rw [heq] at hversion
      exact absurd hversion (by decide)
    have hrest' : s.saltText ++ digest ≠ [] := by
      rintro heq
      rw [(List.append_eq_nil_iff.1 heq).1] at hlength
      cases hlength
    simp [hversion', hrest', padded_ne_nil]
  have htake : (s.saltText ++ digest).take saltLength = s.saltText := List.take_left' hlength
  unfold ofText?
  rw [String.toList_ofList, hsplit, hparts]
  dsimp only
  rw [cost?_padded hcost, htake, hk]
  rw [(Option.guard_eq_some' ()).2 (List.contains_iff_mem.2 hversion),
    (Option.guard_eq_some' ()).2 hlength]
  show some (Settings.mk s.version s.cost s.saltText (Salt.ofNat k)) = some s
  rw [← hsalt]

/-- The hash of a password with any map from a cost, a salt and a key to bytes as its digest. -/
def hashUnder? (core : Nat → Salt → Bytes → Bytes) (settings password : String) : Option String := do
  let s ← Settings.ofText? settings
  let bytes := bytesOf password
  guard (bytes.length ≤ maxBytes)
  return String.ofList (s.chars ++ encode64 (core s.cost s.salt (keyMaterial bytes)))

theorem hashUnder?_digest : hashUnder? digest = hashWith? := rfl

/-- A hash is the settings of its salt and the digest of the key of its password. -/
theorem hashUnder?_eq_some {core : Nat → Salt → Bytes → Bytes} :
    hashUnder? core salt p = some hash ↔
      ∃ s, Settings.ofText? salt = some s ∧ (bytesOf p).length ≤ maxBytes ∧
        hash = String.ofList (s.chars ++ encode64 (core s.cost s.salt (keyMaterial (bytesOf p)))) := by
  unfold hashUnder?
  constructor
  · intro h
    obtain ⟨s, hs, h⟩ := Option.bind_eq_some_iff.1 h
    obtain ⟨_, hlength, h⟩ := Option.bind_eq_some_iff.1 h
    cases h
    rw [Option.guard_eq_some'] at hlength
    exact ⟨s, hs, hlength, rfl⟩
  · rintro ⟨s, hs, hlength, rfl⟩
    exact Option.bind_eq_some_iff.2
      ⟨s, hs, Option.bind_eq_some_iff.2 ⟨(), (Option.guard_eq_some' ()).2 hlength, rfl⟩⟩

/-- A hash has the settings of the salt that it was made with, whatever its digest. -/
theorem ofText?_of_hashUnder? {core : Nat → Salt → Bytes → Bytes}
    (h : hashUnder? core salt p = some hash) :
    Settings.ofText? hash = Settings.ofText? salt := by
  obtain ⟨s, hs, -, rfl⟩ := hashUnder?_eq_some.1 h
  rw [hs]
  exact Settings.ofText?_chars (Settings.valid_of_ofText? hs) (encode64_subset _)

/-- A hash has the settings of the salt that it was made with. -/
theorem ofText?_of_hashWith? (h : hashWith? salt p = some hash) :
    Settings.ofText? hash = Settings.ofText? salt :=
  ofText?_of_hashUnder? (hashUnder?_digest ▸ h)

/-- Hashing with the salt of a hash is hashing with the salt that it was made with. -/
theorem hashWith?_of_hash (h : hashWith? salt p = some hash) (q : String) :
    hashWith? hash q = hashWith? salt q := by
  unfold hashWith?
  rw [ofText?_of_hashWith? h]

/-! ## Verifying -/

/-- A text with settings is not empty. -/
theorem isEmpty_of_ofText? (h : Settings.ofText? hash = some s) : hash.isEmpty = false := by
  cases hempty : hash.isEmpty with
  | false => rfl
  | true =>
    rw [String.isEmpty_iff] at hempty
    subst hempty
    cases h

theorem hash_ne_empty (h : hashWith? salt p = some hash) : hash.isEmpty = false := by
  obtain ⟨s, hs, -⟩ := hashUnder?_eq_some.1 (hashUnder?_digest ▸ h)
  exact isEmpty_of_ofText? ((ofText?_of_hashWith? h).trans hs)

/-- A password is accepted when hashing it with the salt of the hash gives the hash. -/
theorem verify_eq_accepted (hne : hash.isEmpty = false) (q : String) :
    verify (some hash) q = .accepted ↔ hashWith? hash q = some hash := by
  unfold verify
  dsimp only [Option.getD_some]
  rw [hne, if_neg (by simp)]
  rcases hashWith? hash q with _ | other
  · simp
  · by_cases hother : other = hash <;> simp [hother]

/-- The password that a hash was made from is accepted. -/
theorem verify_own (h : hashWith? salt p = some hash) : verify (some hash) p = .accepted :=
  (verify_eq_accepted (hash_ne_empty h) p).2 ((hashWith?_of_hash h p).trans h)

/-- Only whole passwords have a hash. -/
theorem hashLoose?_eq_some {p : LooseText} : hashLoose? salt p = some hash ↔
    p.isWhole = true ∧ hashWith? salt p.chars = some hash := by
  unfold hashLoose? LooseText.whole
  cases p.isWhole <;> simp

/-- The password that may be broken and that a hash was made from is accepted. -/
theorem verifyLoose_own {p : LooseText} (h : hashLoose? salt p = some hash) :
    verifyLoose (some hash) p = .accepted := by
  obtain ⟨hp, hhash⟩ := hashLoose?_eq_some.1 h
  rw [verifyLoose_of_isWhole hp]
  exact verify_own hhash

/-! ## The form of hashes -/

/-- A text of valid settings with the 31 characters of a digest behind them. -/
def IsHash (hash : String) : Prop :=
  ∃ (s : Settings) (digest : List Char), s.Valid ∧ digest.length = 31 ∧
    (∀ c ∈ digest, c ∈ alphabet) ∧ hash = String.ofList (s.chars ++ digest)

/-- Every hash has 60 characters. -/
theorem IsHash.length (h : IsHash hash) : hash.length = 60 := by
  obtain ⟨s, digest, hvalid, hdigest, -, rfl⟩ := h
  have hversion : s.version.length = 2 := by
    have hall : ∀ version ∈ versions, version.length = 2 := by decide
    exact hall _ hvalid.version
  have hcost : (padded 2 s.cost).length = 2 :=
    length_padded (by decide) (Nat.lt_of_le_of_lt hvalid.cost.2 (by decide))
  have hsalt : s.saltText.length = 22 := hvalid.length
  rw [String.length_ofList, List.length_append, hdigest]
  unfold Settings.chars
  simp only [List.length_cons, List.length_append, hversion, hcost, hsalt]

theorem length_encode64 (bytes : Bytes) : (encode64 bytes).length = (4 * bytes.length + 2) / 3 := by
  induction bytes using encode64.induct with
  | case1 => rfl
  | case2 a => simp [encode64]
  | case3 a b => simp [encode64]
  | case4 a b c rest ih =>
    simp only [encode64, List.length_cons, ih]
    omega

theorem length_beBytes (count n : Nat) : (beBytes count n).length = count := by
  induction count generalizing n with
  | zero => rfl
  | succ count ih => rw [beBytes, List.length_append, ih, List.length_singleton]

theorem length_digest (cost : Nat) (salt : Salt) (key : Bytes) : (digest cost salt key).length = 23 := by
  have hblock (b : Block) : b.bytes.length = 8 := by
    simp [Block.bytes, length_beBytes]
  have hmagic : magic.length = 3 := by decide +kernel
  have hblocks (f : Block → Block) : (magic.flatMap fun b => (f b).bytes).length = 24 := by
    simp only [List.length_flatMap, hblock, List.map_const', List.sum_replicate_nat, hmagic]
  unfold digest
  dsimp only
  rw [List.length_take, hblocks]
  rfl

/-- Hashing gives a hash of the right form. -/
theorem isHash_of_hashWith? (h : hashWith? salt p = some hash) : IsHash hash := by
  obtain ⟨s, hs, -, rfl⟩ := hashUnder?_eq_some.1 (hashUnder?_digest ▸ h)
  refine ⟨s, _, Settings.valid_of_ofText? hs, ?_, encode64_subset _, rfl⟩
  rw [length_encode64, length_digest]

end Accounts.Password
