import DeviceAdmission.Crypto.KeyFault
import DeviceAdmission.Crypto.Sha256

/-!
# RSA signatures

Signatures with RSA over SHA-256, padded as PKCS#1 version 1.5 lays down. Keys are DER sequences of
numbers in their one shortest form. A key to verify with has 2048 to 8192 bits and a small odd
exponent; a key to sign with has at most 4096 bits, and its numbers have to agree with each other.
-/

namespace DeviceAdmission.Rsa

/-! ## Numbers as bytes -/

/-- The number that bytes stand for, the greatest byte first. -/
def natOfBytes (bytes : Bytes) : Nat :=
  bytes.foldl (fun n b => n * 256 + b.toNat) 0

/-- The bytes of a number, the greatest first, in `count` bytes. -/
def bytesOfNat (count n : Nat) : Bytes :=
  (List.range count).foldl (fun bytes i => UInt8.ofNat (n / Nat.pow 256 i % 256) :: bytes) []

/-- The number of bits of a number. -/
def bitLength (n : Nat) : Nat :=
  if n = 0 then 0 else Nat.log2 n + 1

/-- The number of bytes of a number. -/
def byteLength (n : Nat) : Nat :=
  (bitLength n + 7) / 8

/-- `b ^ e` modulo `m`, by repeated squaring. -/
def powMod (b e m : Nat) : Nat :=
  if e = 0 then 1 % m
  else
    let half := powMod (b * b % m) (e / 2) m
    if e % 2 = 1 then b * half % m else half
termination_by e
decreasing_by omega

/-! ## Strict DER -/

/-- Read the length of a value: one byte, or the shortest form with one or two bytes more. -/
def readLength : Bytes → Option (Nat × Bytes)
  | [] => none
  | b :: rest =>
    if b < 0x80 then some (b.toNat, rest)
    else match b, rest with
      | 0x81, c :: rest => if c < 0x80 then none else some (c.toNat, rest)
      | 0x82, c :: d :: rest =>
        let n := c.toNat * 256 + d.toNat
        if n < 256 then none else some (n, rest)
      | _, _ => none

/-- Read the body of a value with the tag. -/
def readValue (tag : UInt8) : Bytes → Option (Bytes × Bytes)
  | [] => none
  | b :: rest =>
    if b = tag then do
      let (length, rest) ← readLength rest
      if rest.length < length then none else some (rest.take length, rest.drop length)
    else none

/-- The number of an integer's body, if it is not negative and in its shortest form. -/
def naturalOfBody : Bytes → Option Nat
  | [] => none
  | [b] => if b < 0x80 then some b.toNat else none
  | b :: c :: rest =>
    if b = 0 then (if c < 0x80 then none else some (natOfBytes (c :: rest)))
    else if b < 0x80 then some (natOfBytes (b :: c :: rest))
    else none

/-- Read an integer that is not negative. -/
def readNatural (bytes : Bytes) : Option (Nat × Bytes) := do
  let (body, rest) ← readValue 0x02 bytes
  let n ← naturalOfBody body
  pure (n, rest)

/-- Read `count` integers that are not negative. -/
def readNaturals : (count : Nat) → Bytes → Option (List Nat × Bytes)
  | 0, bytes => some ([], bytes)
  | count + 1, bytes => do
    let (n, rest) ← readNatural bytes
    let (ns, rest) ← readNaturals count rest
    pure (n :: ns, rest)

/-- The body of a sequence that is all of the bytes. -/
def sequenceBody (bytes : Bytes) : Option Bytes := do
  let (body, rest) ← readValue 0x30 bytes
  if rest.isEmpty then some body else none

/-! ## Padding -/

/-- What says in a padded digest that it is one of SHA-256. -/
def digestMark : Bytes :=
  [0x30, 0x31, 0x30, 0x0d, 0x06, 0x09, 0x60, 0x86, 0x48, 0x01, 0x65, 0x03, 0x04, 0x02, 0x01, 0x05,
    0x00, 0x04, 0x20]

/-- The digest of a message, padded to `length` bytes. -/
def paddedDigest (length : Nat) (message : Bytes) : Bytes :=
  let tail := digestMark ++ Sha256.digest message
  0 :: 1 :: List.replicate (length - 3 - tail.length) 0xff ++ 0 :: tail

/-! ## Verifying -/

structure PublicKey where
  modulus : Nat
  exponent : Nat
  deriving DecidableEq, Repr

/-- The greatest exponent of a public key. -/
def maxExponent : Nat := 8589934591

/-- What is wrong with a number to calculate modulo of, if anything: it is odd and has more than 192
and at most 8192 bits. -/
def modulusRejection? (n : Nat) : Option KeyRejection :=
  if bitLength n ≤ 192 then some .tooShort
  else if 8192 < bitLength n then some .tooLarge
  else if n % 2 = 0 then some .component
  else none

/-- What is wrong with the numbers of a public key, if anything. -/
def PublicKey.rejection? (k : PublicKey) (maxBits minExponent : Nat) : Option KeyRejection :=
  (modulusRejection? k.modulus).orElse fun _ =>
  if byteLength k.modulus * 8 < 2048 then some .tooSmall
  else if maxBits < bitLength k.modulus then some .tooLarge
  else if 5 < byteLength k.exponent then some .tooLarge
  else if k.exponent = 0 then some .encoding
  else if k.exponent < minExponent then some .tooSmall
  else if maxExponent < k.exponent then some .tooLarge
  else if k.exponent % 2 = 0 then some .component
  else none

/-- Read a public key. -/
def PublicKey.read? (bytes : Bytes) : Option PublicKey := do
  let body ← sequenceBody bytes
  let (n, rest) ← readNatural body
  let (e, rest) ← readNatural rest
  if rest.isEmpty then some ⟨n, e⟩ else none

/-- Whether a signature is the one of the message under a usable key. -/
def PublicKey.verifies (k : PublicKey) (message signature : Bytes) : Bool :=
  let s := natOfBytes signature
  signature.length = byteLength k.modulus && 0 < s && s < k.modulus &&
    bytesOfNat (byteLength k.modulus) (powMod s k.exponent k.modulus) =
      paddedDigest (byteLength k.modulus) message

/-- Whether a signature is the one of the message under the public key in these bytes. -/
def verify (keyBytes message signature : Bytes) : Bool :=
  match PublicKey.read? keyBytes with
  | none => false
  | some k => (k.rejection? 8192 3).isNone && k.verifies message signature

/-! ## Signing -/

structure PrivateKey where
  publicKey : PublicKey
  d : Nat
  p : Nat
  q : Nat
  dP : Nat
  dQ : Nat
  qInv : Nat
  deriving DecidableEq, Repr

/-- What is wrong with a prime of a modulus of `bits` bits, if anything. -/
def primeRejection? (p bits : Nat) : Option KeyRejection :=
  (modulusRejection? p).orElse fun _ =>
  if bitLength p ≠ (bits + 1) / 2 then some .inconsistent
  else if bitLength p % 512 ≠ 0 then some .unevenLength
  else none

/-- What is wrong with an exponent modulo a prime, if anything. -/
def exponentRejection? (d p : Nat) : Option KeyRejection :=
  if d < p ∧ d % 2 = 1 then none else some .inconsistent

/-- What is wrong where a rule does not hold. -/
def rejectedUnless (holds : Bool) (r : KeyRejection) : Option KeyRejection :=
  if holds then none else some r

/-- What is wrong with the numbers of a private key, if anything: the first rule that is broken. -/
def PrivateKey.rejection? (k : PrivateKey) : Option KeyRejection :=
  let n := k.publicKey.modulus
  let bits := bitLength n
  [ k.publicKey.rejection? 4096 65537,
    primeRejection? k.p bits,
    primeRejection? k.q bits,
    rejectedUnless (k.p * k.q % n = 0) .inconsistent,
    rejectedUnless (modulusRejection? k.d).isNone .component,
    rejectedUnless ((bits + 1) / 2 < bitLength k.d ∧ k.d < n) .inconsistent,
    rejectedUnless (k.qInv < k.p) .component,
    rejectedUnless (k.qInv * k.q % k.p = 1) .inconsistent,
    exponentRejection? k.dP k.p,
    exponentRejection? k.dQ k.q ].findSome? id

/-- Read a private key: a version, which has to be 0, and eight numbers. -/
def PrivateKey.read (bytes : Bytes) : Except KeyRejection PrivateKey := do
  let encoding {α : Type} (o : Option α) : Except KeyRejection α := o.elim (.error .encoding) .ok
  let body ← encoding (sequenceBody bytes)
  let (versionBody, rest) ← encoding (readValue 0x02 body)
  match versionBody with
  | [version] =>
    if 0x80 ≤ version then .error .encoding
    else if version ≠ 0 then .error .version
    else
      let (numbers, rest) ← encoding (readNaturals 8 rest)
      match numbers with
      | [n, e, d, p, q, dP, dQ, qInv] =>
        let key : PrivateKey := ⟨⟨n, e⟩, d, p, q, dP, dQ, qInv⟩
        match key.rejection? with
        | some why => .error why
        | none => if rest.isEmpty then .ok key else .error .encoding
      | _ => .error .encoding
  | _ => .error .encoding

/-- The root of a padded digest, found modulo each prime and put together below the modulus. -/
def PrivateKey.root (k : PrivateKey) (m : Nat) : Nat :=
  let mp := powMod (m % k.p) k.dP k.p
  let mq := powMod (m % k.q) k.dQ k.q
  let h := (mp + k.p - mq % k.p) * k.qInv % k.p
  (mq + h * k.q) % k.publicKey.modulus

/-- The signature of a message. It is tried under the public key before it is given away. -/
def PrivateKey.sign (k : PrivateKey) (message : Bytes) : Except SigningFault Bytes :=
  let length := byteLength k.publicKey.modulus
  let m := natOfBytes (paddedDigest length message)
  let s := k.root m
  if powMod s k.publicKey.exponent k.publicKey.modulus = m then .ok (bytesOfNat length s)
  else .error .signatureWrong

/-- The signature of a message with the private key in these bytes. -/
def sign (keyBytes message : Bytes) : Except SigningFault Bytes := do
  let key ← (PrivateKey.read keyBytes).mapError .keyRejected
  key.sign message

end DeviceAdmission.Rsa
