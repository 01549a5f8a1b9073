import DeviceAdmission.Crypto.Rsa
import DeviceAdmission.Proofs.Results

/-!
# RSA signatures that are made

A signature is a number below the modulus whose power is the padded digest, written in as many bytes
as the modulus has. The main statement is that whatever a usable private key signs verifies under
every public key with the same modulus and exponent.
-/

namespace DeviceAdmission.Rsa

/-! ## Numbers as bytes -/

theorem foldl_natOfBytes (start : Nat) (bytes : Bytes) :
    bytes.foldl (fun n b => n * 256 + b.toNat) start =
      start * Nat.pow 256 bytes.length + natOfBytes bytes := by
  induction bytes generalizing start with
  | nil => simp [natOfBytes]
  | cons b bytes ih =>
      rw [natOfBytes, List.foldl_cons, List.foldl_cons, ih, ih (0 * 256 + b.toNat),
        List.length_cons, Nat.pow_eq, Nat.pow_eq, Nat.pow_succ]
      simp only [Nat.add_mul, Nat.zero_mul, Nat.zero_add, Nat.mul_assoc, Nat.add_assoc,
        Nat.mul_comm 256]

theorem natOfBytes_cons (b : UInt8) (bytes : Bytes) :
    natOfBytes (b :: bytes) = b.toNat * Nat.pow 256 bytes.length + natOfBytes bytes := by
  rw [natOfBytes, List.foldl_cons, foldl_natOfBytes, Nat.zero_mul, Nat.zero_add]

theorem natOfBytes_lt (bytes : Bytes) : natOfBytes bytes < Nat.pow 256 bytes.length := by
  induction bytes with
  | nil => decide
  | cons b bytes ih =>
      have most : (b.toNat + 1) * Nat.pow 256 bytes.length ≤ 256 * Nat.pow 256 bytes.length :=
        Nat.mul_le_mul_right _ b.toNat_lt
      rw [Nat.add_mul, Nat.one_mul] at most
      have grown : Nat.pow 256 (b :: bytes).length = 256 * Nat.pow 256 bytes.length :=
        Nat.mul_comm ..
      rw [natOfBytes_cons, grown]
      exact Nat.lt_of_lt_of_le (Nat.add_lt_add_left ih _) most

/-- Bytes of one number of them are different numbers. -/
theorem eq_of_natOfBytes {bytes bytes' : Bytes} (length : bytes.length = bytes'.length)
    (equal : natOfBytes bytes = natOfBytes bytes') : bytes = bytes' := by
  induction bytes generalizing bytes' with
  | nil => exact (List.eq_nil_of_length_eq_zero length.symm).symm
  | cons b bytes ih =>
      cases bytes' with
      | nil => cases length
      | cons b' bytes' =>
          have lengths : bytes.length = bytes'.length := Nat.succ.inj length
          have least := natOfBytes_lt bytes
          have least' := natOfBytes_lt bytes'
          rw [natOfBytes_cons, natOfBytes_cons, lengths] at equal
          rw [lengths] at least
          have pos := Nat.zero_lt_of_lt least
          have first : b.toNat = b'.toNat := by
            have quotient := congrArg (· / Nat.pow 256 bytes'.length) equal
            simpa only [Nat.mul_comm _ (Nat.pow 256 bytes'.length), Nat.mul_add_div pos,
              Nat.div_eq_of_lt least, Nat.div_eq_of_lt least', Nat.add_zero] using quotient
          rw [first] at equal
          rw [UInt8.toNat_inj.mp first, ih lengths (Nat.add_left_cancel equal)]

theorem bytesOfNat_succ (count n : Nat) :
    bytesOfNat (count + 1) n =
      UInt8.ofNat (n / Nat.pow 256 count % 256) :: bytesOfNat count n := by
  rw [bytesOfNat, List.range_succ, List.foldl_append]
  rfl

@[simp]
theorem length_bytesOfNat (count n : Nat) : (bytesOfNat count n).length = count := by
  induction count with
  | zero => rfl
  | succ count ih => rw [bytesOfNat_succ, List.length_cons, ih]

/-- A number is what its bytes stand for, as far as it fits in them. -/
theorem natOfBytes_bytesOfNat (count n : Nat) :
    natOfBytes (bytesOfNat count n) = n % Nat.pow 256 count := by
  induction count with
  | zero =>
      rw [Nat.pow_eq, Nat.pow_zero, Nat.mod_one]
      rfl
  | succ count ih =>
      have digit : (UInt8.ofNat (n / Nat.pow 256 count % 256)).toNat =
          n / Nat.pow 256 count % 256 := by
        rw [UInt8.toNat_ofNat']
        omega
      rw [bytesOfNat_succ, natOfBytes_cons, length_bytesOfNat, ih, digit, Nat.pow_eq, Nat.pow_eq,
        Nat.mod_pow_succ, Nat.add_comm, Nat.mul_comm]

/-- Bytes are those of the number that they stand for. -/
theorem bytesOfNat_natOfBytes {count : Nat} {bytes : Bytes} (length : bytes.length = count) :
    bytesOfNat count (natOfBytes bytes) = bytes := by
  apply eq_of_natOfBytes
  · rw [length_bytesOfNat, length]
  · rw [natOfBytes_bytesOfNat, ← length, Nat.mod_eq_of_lt (natOfBytes_lt bytes)]

/-- A number fits in its bytes. -/
theorem lt_pow_byteLength (n : Nat) : n < Nat.pow 256 (byteLength n) := by
  by_cases zero : n = 0
  · subst zero
    decide
  · have bits : n < 2 ^ bitLength n := by
      rw [bitLength, if_neg zero]
      exact Nat.lt_log2_self
    have filled : 2 ^ bitLength n ≤ 2 ^ (8 * byteLength n) :=
      Nat.pow_le_pow_right (by decide) (by rw [byteLength]; omega)
    rw [Nat.pow_mul] at filled
    exact Nat.lt_of_lt_of_le bits filled

/-! ## Powers -/

/-- Repeated squaring gives the power. -/
theorem powMod_eq (b e m : Nat) : powMod b e m = Nat.pow b e % m := by
  fun_induction powMod b e m with
  | case1 b => rfl
  | case2 b e nonzero half odd ih =>
      have squares : b ^ e = b * (b * b) ^ (e / 2) := by
        rw [← Nat.pow_two, ← Nat.pow_mul, ← Nat.pow_succ']
        congr 1
        omega
      have power : (b * b % m) ^ (e / 2) % m = (b * b) ^ (e / 2) % m := (Nat.pow_mod ..).symm
      simp only [half, ih, Nat.pow_eq, squares, power]
      rw [Nat.mul_mod, Nat.mod_mod, ← Nat.mul_mod]
  | case3 b e nonzero half even ih =>
      have squares : b ^ e = (b * b) ^ (e / 2) := by
        rw [← Nat.pow_two, ← Nat.pow_mul]
        congr 1
        omega
      simp only [half, ih, Nat.pow_eq, squares]
      exact (Nat.pow_mod ..).symm

/-! ## Padded digests -/

theorem length_paddedDigest {length : Nat} (long : 54 ≤ length) (message : Bytes) :
    (paddedDigest length message).length = length := by
  simp only [paddedDigest, digestMark, List.length_append, List.length_cons, List.length_nil,
    List.length_replicate, Sha256.length_digest]
  omega

theorem natOfBytes_paddedDigest_pos (length : Nat) (message : Bytes) :
    0 < natOfBytes (paddedDigest length message) := by
  rw [paddedDigest, List.cons_append, natOfBytes_cons, List.cons_append, natOfBytes_cons]
  exact Nat.add_pos_right _ (Nat.add_pos_left (Nat.mul_pos (by decide) (Nat.pow_pos (by decide))) _)

/-! ## Keys -/

/-- The bounds that the numbers of a usable public key keep to. -/
theorem PublicKey.rejection?_eq_none_iff {k : PublicKey} {maxBits minExponent : Nat} :
    k.rejection? maxBits minExponent = none ↔
      modulusRejection? k.modulus = none ∧ 2048 ≤ byteLength k.modulus * 8 ∧
        bitLength k.modulus ≤ maxBits ∧ byteLength k.exponent ≤ 5 ∧ k.exponent ≠ 0 ∧
        minExponent ≤ k.exponent ∧ k.exponent ≤ maxExponent ∧ k.exponent % 2 = 1 := by
  have passes {p : Prop} [Decidable p] {why : KeyRejection} {rest : Option KeyRejection} :
      (if p then some why else rest) = none ↔ ¬p ∧ rest = none := by
    split <;> simp [*]
  unfold PublicKey.rejection?
  cases modulusRejection? k.modulus with
  | some why => simp
  | none =>
      simp only [Option.orElse_none, passes, Nat.not_lt, Nat.mod_two_ne_zero, and_true, true_and,
        ne_eq]

/-- A private key that is read has nothing wrong with it. -/
theorem PrivateKey.rejection?_of_read {bytes : Bytes} {k : PrivateKey}
    (read : PrivateKey.read bytes = .ok k) : k.rejection? = none := by
  unfold PrivateKey.read at read
  rcases bind_eq_ok_iff.mp read with ⟨body, -, read⟩
  rcases bind_eq_ok_iff.mp read with ⟨⟨version, rest⟩, -, read⟩
  simp only at read
  split at read
  · split at read
    · cases read
    split at read
    · cases read
    rcases bind_eq_ok_iff.mp read with ⟨⟨numbers, rest⟩, -, read⟩
    simp only at read
    split at read
    · split at read
      · cases read
      · rename_i accepted
        split at read
        · cases read
          exact accepted
        · cases read
    · cases read
  · cases read

/-- The public part of a private key with nothing wrong keeps to the bounds of public keys, which
are wider. -/
theorem PrivateKey.publicKey_usable (k : PrivateKey) (usable : k.rejection? = none) :
    k.publicKey.rejection? 8192 3 = none := by
  have strict : k.publicKey.rejection? 4096 65537 = none :=
    List.findSome?_eq_none_iff.mp usable _ List.mem_cons_self
  rw [PublicKey.rejection?_eq_none_iff] at strict ⊢
  rcases strict with ⟨modulus, long, short, exponentShort, nonzero, least, most, odd⟩
  exact ⟨modulus, long, by omega, exponentShort, nonzero, by omega, most, odd⟩

/-! ## Signing and verifying -/

/-- The bytes of a root of the padded digest are a signature. -/
theorem PublicKey.verifies_bytesOfNat {k : PublicKey} {message : Bytes} {s : Nat}
    (long : 54 ≤ byteLength k.modulus) (pos : 0 < s) (below : s < k.modulus)
    (power : powMod s k.exponent k.modulus =
      natOfBytes (paddedDigest (byteLength k.modulus) message)) :
    k.verifies message (bytesOfNat (byteLength k.modulus) s) = true := by
  have value : natOfBytes (bytesOfNat (byteLength k.modulus) s) = s := by
    rw [natOfBytes_bytesOfNat, Nat.mod_eq_of_lt (Nat.lt_trans below (lt_pow_byteLength k.modulus))]
  have digest : bytesOfNat (byteLength k.modulus) (powMod s k.exponent k.modulus) =
      paddedDigest (byteLength k.modulus) message := by
    rw [power]
    exact bytesOfNat_natOfBytes (length_paddedDigest long message)
  simp only [PublicKey.verifies, value, length_bytesOfNat, pos, below, digest, decide_true,
    Bool.and_self]

theorem PrivateKey.root_lt {k : PrivateKey} (modulusPos : 0 < k.publicKey.modulus) (m : Nat) :
    k.root m < k.publicKey.modulus :=
  Nat.mod_lt _ modulusPos

/-- A signature that is given away is a root of the padded digest, written in as many bytes as the
modulus has. -/
theorem PrivateKey.exists_root_of_sign {k : PrivateKey} {message raw : Bytes}
    (modulusPos : 0 < k.publicKey.modulus) (exponentPos : 0 < k.publicKey.exponent)
    (signed : k.sign message = .ok raw) :
    ∃ s, raw = bytesOfNat (byteLength k.publicKey.modulus) s ∧ 0 < s ∧ s < k.publicKey.modulus ∧
      powMod s k.publicKey.exponent k.publicKey.modulus =
        natOfBytes (paddedDigest (byteLength k.publicKey.modulus) message) := by
  unfold PrivateKey.sign at signed
  simp only at signed
  split at signed
  · rename_i power
    cases signed
    refine ⟨_, rfl, ?_, root_lt modulusPos _, power⟩
    apply Nat.pos_of_ne_zero
    intro zero
    have digestPos := natOfBytes_paddedDigest_pos (byteLength k.publicKey.modulus) message
    rw [← power, zero, powMod_eq, Nat.pow_eq, Nat.zero_pow exponentPos, Nat.zero_mod] at digestPos
    cases digestPos
  · cases signed

/-- What a private key signs is no empty signature, and verifies under every public key with the
same modulus and exponent. -/
theorem verify_of_sign {privateBytes publicBytes message raw : Bytes} {k : PrivateKey}
    (isPrivate : PrivateKey.read privateBytes = .ok k)
    (isPublic : PublicKey.read? publicBytes = some k.publicKey)
    (signed : sign privateBytes message = .ok raw) :
    raw ≠ [] ∧ verify publicBytes message raw = true := by
  have usable := k.publicKey_usable (PrivateKey.rejection?_of_read isPrivate)
  rcases PublicKey.rejection?_eq_none_iff.mp usable with ⟨-, long, -, -, exponentNonzero, -⟩
  have modulusPos : 0 < k.publicKey.modulus := by
    apply Nat.pos_of_ne_zero
    intro zero
    rw [zero] at long
    revert long
    decide
  rw [sign, isPrivate] at signed
  rcases PrivateKey.exists_root_of_sign modulusPos (Nat.pos_of_ne_zero exponentNonzero) signed with
    ⟨s, rfl, pos, below, power⟩
  constructor
  · intro empty
    have length := congrArg List.length empty
    rw [length_bytesOfNat, List.length_nil] at length
    omega
  · rw [verify, isPublic]
    simp only [usable, Option.isNone_none, Bool.true_and]
    exact PublicKey.verifies_bytesOfNat (by omega) pos below power

end DeviceAdmission.Rsa
