import DeviceAdmission.Crypto.RequestSignature
import DeviceAdmission.Proofs.Base64
import DeviceAdmission.Proofs.Crypto.Pem
import DeviceAdmission.Proofs.Crypto.Rsa

/-!
# Signature texts

A signature text goes through two alphabets, one with padding and one without, and neither way loses
or invents anything. The main statement is that exactly the padded text of a raw signature that
verifies is accepted, with nothing but blanks around it, and that this text is what signing gives:
what was signed with a private key is accepted under every public key that goes with it.
-/

namespace DeviceAdmission

/-! ## Blanks around a text -/

namespace Text

/-- Whether two texts differ in nothing but the blanks around them. -/
def DifferInBlanks (s t : String) : Prop :=
  ∃ core front back front' back' : List Char,
    (∀ c ∈ front ++ back ++ front' ++ back', isBlank c = true) ∧
      s.toList = front ++ core ++ back ∧ t.toList = front' ++ core ++ back'

/-- Blanks around a text make no difference to what is trimmed. -/
theorem trimChars_around {front back : List Char} (core : List Char)
    (blankFront : ∀ c ∈ front, isBlank c = true) (blankBack : ∀ c ∈ back, isBlank c = true) :
    trimChars (front ++ core ++ back) = trimChars core := by
  obtain ⟨left, right, blankLeft, blankRight, split⟩ := exists_around_trimChars core
  have whole : front ++ core ++ back = (front ++ left) ++ trimChars core ++ (right ++ back) := by
    conv => lhs; rw [split]
    simp only [List.append_assoc]
  rw [whole]
  refine trimChars_of_around ?_ ?_ (trimChars_trimChars core)
  · exact List.forall_mem_append.mpr ⟨blankFront, blankLeft⟩
  · exact List.forall_mem_append.mpr ⟨blankRight, blankBack⟩

/-- Two texts are trimmed to one text exactly if they differ in nothing but the blanks around
them. -/
theorem trim_eq_trim_iff {s t : String} : trim s = trim t ↔ DifferInBlanks s t := by
  simp only [trim, ← String.toList_inj, String.toList_ofList]
  constructor
  · intro same
    obtain ⟨front, back, blankFront, blankBack, split⟩ := exists_around_trimChars s.toList
    obtain ⟨front', back', blankFront', blankBack', split'⟩ := exists_around_trimChars t.toList
    refine ⟨trimChars s.toList, front, back, front', back', ?_, split, same ▸ split'⟩
    simp only [List.forall_mem_append]
    exact ⟨⟨⟨blankFront, blankBack⟩, blankFront'⟩, blankBack'⟩
  · rintro ⟨core, front, back, front', back', blank, split, split'⟩
    simp only [List.forall_mem_append] at blank
    rcases blank with ⟨⟨⟨blankFront, blankBack⟩, blankFront'⟩, blankBack'⟩
    rw [split, split', trimChars_around core blankFront blankBack,
      trimChars_around core blankFront' blankBack']

end Text

/-! ## Texts that are accepted -/

namespace SignatureScheme

variable {scheme : SignatureScheme} {body : Bytes} {key signature : String}

/-- The text that signed tokens carry is read as the raw signature again. -/
@[simp]
theorem verifiesText_encode (raw : Bytes) :
    scheme.verifiesText key body (Base64.encode .url raw) = scheme.verifies key body raw := by
  rw [verifiesText, Base64.decode?_encode]

/-- A signature is accepted exactly if the key is readable and the text between the blanks is the
one of a raw signature that is not empty and verifies. -/
theorem accepts_iff :
    scheme.accepts body key signature = true ↔
      scheme.isReadable key = true ∧
        ∃ raw, Text.trim signature = Base64.encode .standard raw ∧ raw ≠ [] ∧
          scheme.verifies key body raw = true := by
  simp only [accepts, Bool.and_eq_true, ← Base64.decode?_eq_some_iff]
  cases decoded : Base64.decode? .standard (Text.trim signature) with
  | none => simp
  | some raw => simp

/-- Texts of one raw signature are those that differ in nothing but the blanks around them. -/
theorem exists_raw_iff {s t : String} (accepted : scheme.accepts body key s = true) :
    (∃ raw, Text.trim s = Base64.encode .standard raw ∧
        Text.trim t = Base64.encode .standard raw) ↔
      Text.DifferInBlanks s t := by
  rw [← Text.trim_eq_trim_iff]
  constructor
  · rintro ⟨raw, first, second⟩
    rw [first, second]
  · intro same
    rcases accepts_iff.mp accepted with ⟨-, raw, textEq, -⟩
    exact ⟨raw, textEq, same ▸ textEq⟩

end SignatureScheme

/-! ## Texts that are made -/

/-- The signature text is the padded text of the raw signature, and fails only where that cannot be
made. -/
theorem RequestSigner.sign_eq (signer : RequestSigner) (body : Bytes) (key : String) :
    signer.sign body key = (signer key body).map (Base64.encode .standard) := by
  unfold sign text
  cases signer key body with
  | error fault => rfl
  | ok raw =>
      simp only [Except.map, bind, Except.bind, Base64.decode?_encode, Option.elim_some, pure,
        Except.pure]

namespace SignatureScheme

/-- Whether a public key can be read, and every raw signature that is made with a private key is one
of its message under the public key. -/
structure Matches (scheme : SignatureScheme) (signer : RequestSigner)
    (privateKey publicKey : String) : Prop where
  isReadable : scheme.isReadable publicKey = true
  verifies : ∀ message raw, signer privateKey message = .ok raw →
    raw ≠ [] ∧ scheme.verifies publicKey message raw = true

/-- What is signed with a private key is accepted under a public key that goes with it. -/
theorem Matches.accepts {scheme : SignatureScheme} {signer : RequestSigner}
    {privateKey publicKey text : String} {body : Bytes}
    (pair : scheme.Matches signer privateKey publicKey)
    (signed : signer.sign body privateKey = .ok text) :
    scheme.accepts body publicKey text = true := by
  rw [RequestSigner.sign_eq] at signed
  cases made : signer privateKey body with
  | error fault =>
      rw [made] at signed
      cases signed
  | ok raw =>
      rw [made] at signed
      cases signed
      rcases pair.verifies body raw made with ⟨nonempty, verifies⟩
      exact accepts_iff.mpr ⟨pair.isReadable, raw, Base64.trim_encode .standard raw, nonempty,
        verifies⟩

end SignatureScheme

/-! ## Keys in files -/

/-- Whether two key files hold a private key and the public key with its modulus and exponent. -/
def Rsa.IsPair (privateKey publicKey : String) : Prop :=
  ∃ privateBytes publicBytes k, rsaKeyContents privateKey = .ok privateBytes ∧
    rsaKeyContents publicKey = .ok publicBytes ∧ PrivateKey.read privateBytes = .ok k ∧
    PublicKey.read? publicBytes = some k.publicKey

/-- With the bytes of a key file, a raw signature is the one that is made with them. -/
theorem RequestSigner.rsa_of_read {key : String} {contents : Bytes}
    (read : rsaKeyContents key = .ok contents) (message : Bytes) :
    rsa key message = (Rsa.sign contents message).mapError .signing := by
  rw [rsa, read]
  rfl

/-- The keys of a pair go with each other. -/
theorem Rsa.IsPair.matches {privateKey publicKey : String} (pair : IsPair privateKey publicKey) :
    SignatureScheme.rsa.Matches RequestSigner.rsa privateKey publicKey := by
  rcases pair with ⟨privateBytes, publicBytes, k, privateEq, publicEq, isPrivate, isPublic⟩
  constructor
  case isReadable =>
    show (rsaKeyContents publicKey).toBool = true
    rw [publicEq]
    rfl
  case verifies =>
    intro message raw signed
    rw [RequestSigner.rsa_of_read privateEq] at signed
    have made : Rsa.sign privateBytes message = .ok raw := eq_ok_of_mapError signed
    have result := Rsa.verify_of_sign isPrivate isPublic made
    simpa only [SignatureScheme.rsa, publicEq] using result

/-! ## The main statement -/

/-- A signature is accepted exactly if the key is readable and the text between the blanks is the
padded text of a raw signature that is not empty and one of exactly this body. Accepted texts of one
raw signature differ in nothing but the blanks around them. Signing gives the padded text of the raw
signature and fails only where that cannot be made, and what it gives is accepted under every public
key that goes with the private key; with RSA such are all that have its modulus and exponent. -/
theorem SignatureScheme.texts_exact (scheme : SignatureScheme) (signer : RequestSigner)
    (body : Bytes) :
    (∀ key signature, scheme.accepts body key signature = true ↔
      scheme.isReadable key = true ∧
        ∃ raw, Text.trim signature = Base64.encode .standard raw ∧ raw ≠ [] ∧
          scheme.verifies key body raw = true) ∧
    (∀ key s t, scheme.accepts body key s = true → scheme.accepts body key t = true →
      ((∃ raw, Text.trim s = Base64.encode .standard raw ∧
          Text.trim t = Base64.encode .standard raw) ↔ Text.DifferInBlanks s t)) ∧
    (∀ privateKey, signer.sign body privateKey =
      (signer privateKey body).map (Base64.encode .standard)) ∧
    (∀ privateKey publicKey text, scheme.Matches signer privateKey publicKey →
      signer.sign body privateKey = .ok text → scheme.accepts body publicKey text = true) ∧
    (∀ privateKey publicKey text, Rsa.IsPair privateKey publicKey →
      signRequest body privateKey = .ok text → rsa.accepts body publicKey text = true) := by
  refine ⟨fun _ _ => accepts_iff, ?_, signer.sign_eq body, ?_, ?_⟩
  · exact fun _ _ _ accepted _ => exists_raw_iff accepted
  · exact fun _ _ _ pair signed => pair.accepts signed
  · exact fun _ _ _ pair signed => pair.matches.accepts signed

namespace Sample

/-- The contents of a private key, 44 bytes a number. -/
def privateWords : List Nat :=
  [ 0x308204a4,
    0x0201000282010100ae232d927ee467a3e2e059b4c029940beae5128321873c990cf20f5a872a50297a9d9455,
    0xa27d3c5bad04f97758fe998d5be5fc911e17edc64d65ef9d39840ec9aeb6de9bdc603cf38b3bf2cf08fc2814,
    0xefceb83abedd62f10c9088f98563e97fd6ea318f6f08564b1deed8827702abf617b1a5404009b64c1c86d23a,
    0xe51f766b1564ea08d464bf1b87d547c03de8da0a8099f08149b89f514b10189ebaef61472cb9ce1920b647eb,
    0x54c85596979d0d29924b62e90516128066b2b441991caaf73e40f000a904197980e7c51123bc9e810da1f4a5,
    0xae1c5891ae0121fd256234cf40cb35cba5460ceba899651f1cd3ef1fe67b6eacaeca0ffbeb566725512e0a1f,
    0x02030100010282010008df3bf429c8e34ae34540ecc79996b460bc590c1b4a33992ca2ac8b95355fae2d5417,
    0xf9a0f4b67d893c26a5a1001fbca700f9b43f0f430b06687a23cd895fe380a64a8330602adad1ae3539bd2073,
    0xbe555577e76e5003397ac566652819a60ce05b4039299408297d95ecac00fa3edea3e8661df6e547c76af0a7,
    0x875ea312ba5e6a8a6ff029f5f3201c8d3bd6bc430fddf974428089842f5dc1c6e9ee8cf35945ceb27b5ce7cd,
    0xfe744ef1fd01f1c28acc5ba6be5813150df83e6b76dc2475225711364f8b1db5b7f835987fe1cb3690307e7b,
    0x576d38a8483b13a15036673822cd4a8e0d4eb3ec32c644679806feaa46091484b47c0968cdf1de8d62e8bb1c,
    0x0902818100de5ffe30fa44b3a98011a39e04b2f54088bfb1762b890b8476bf039826b5d9898a92783558593c,
    0xaeef2cc140020b2bd6999d23ebb1f61da459bc4b549ec9bdf2d4dfbe6467dbf481b03dd2ffd5336de3ab5629,
    0x451799dac93c18cc419ed37f055100b1820615d2d311042d2f6edda559cdfee48e0c9f8509986c50850fee16,
    0xab02818100c877efdeb4cb78280a16cd1f3c58a3fe410c23e7dd8d49f9ea62f8ae24adec293060d0c960ec58,
    0xe1e74d5a886cb9056489526354d198dac9b426328ba333ee1b2ac65e67791b332d2ec556c660c6a6cefc1ee0,
    0xedb191539f8d71504d10fd6138762a677868bc3bbab6778ed8b5ce529d207e8ca6482a04abbc734eb67ae76a,
    0x5d028180115959e28653ffd4548a8bc2534986facef06daef37c90aa77fd351194cb913a3ad66c8c74e51967,
    0xe87f0c60ab0826166b0ba876c5fe969770ecd0cfbc47af0b17f290cf128f45872cb1d619618fce9df98b1253,
    0x32a12d418fefbb57cf455ede925044890962807d3911a358d50473d70acc3d169c0382049aa0b0b380e7a95b,
    0x0281810098ca40fa7ed5ad88e6d7a6132e8d68c07a97642e6ec02727e1aaf95ad0fdf647166653fb8871daf4,
    0xa2b46452227b8a4eac132d3e1259ec375ba4d95570583e1c5aa7c2801edfca4b9fa02c991a5d8df9a85368a0,
    0x017c803dd5320e400eb8f0067699af2f28b47ed9ba04b9cd16146106fd2336d3eda088dad3d116a722598ac9,
    0x02818100aa8dc764b5fc51fae1224bfb960f516de4c08f3b89f1c11bf73d6b18ca7bdbc4d297cd5e80039ea9,
    0xf7730deec5376753d9c9e2fbbe7afec7f2ba4efc6b38bafcbff5ba2419f4bf31400a0a0f59ac0d214aa67b42,
    0x406c0bec3a31172fe2f786e49ad67c59681631747d15588548f39be26621af941c91b9e982b9ab615591ecb6 ]

def privateContents : Bytes :=
  Rsa.bytesOfNat 1192 (privateWords.foldl (fun n word => n * Nat.pow 256 44 + word) 0)

/-- The modulus and the exponent of the private key. -/
def publicContents : Bytes :=
  0x30 :: 0x82 :: 0x01 :: 0x0a :: (privateContents.drop 7).take 266

def privateFile : String :=
  Pem.write "RSA PRIVATE KEY" privateContents

def publicFile : String :=
  Pem.write "RSA PUBLIC KEY" publicContents

set_option maxRecDepth 20000 in
theorem read_privateFile : rsaKeyContents privateFile = .ok privateContents :=
  Pem.rsaKeyContents_write (.inl rfl) (by decide +kernel)

set_option maxRecDepth 20000 in
theorem read_publicFile : rsaKeyContents publicFile = .ok publicContents :=
  Pem.rsaKeyContents_write (.inr rfl) (by decide +kernel)

set_option maxRecDepth 20000 in
/-- The public key is the one of the private key. -/
theorem isPair : Rsa.IsPair privateFile publicFile := by
  have readable : (Rsa.PrivateKey.read privateContents).toOption.isSome = true := by decide +kernel
  have same : (Rsa.PrivateKey.read privateContents).toOption.map (·.publicKey) =
      Rsa.PublicKey.read? publicContents := by decide +kernel
  cases read : Rsa.PrivateKey.read privateContents with
  | error why =>
      rw [read] at readable
      cases readable
  | ok k =>
      rw [read] at same
      exact ⟨privateContents, publicContents, k, read_privateFile, read_publicFile, read, same.symm⟩

/-- The bytes of `{}`. -/
def emptyObject : Bytes :=
  [0x7b, 0x7d]

set_option maxRecDepth 20000 in
theorem exists_signature : ∃ raw, RequestSigner.rsa privateFile emptyObject = .ok raw := by
  have made : (Rsa.sign privateContents emptyObject).toOption.isSome = true := by decide +kernel
  cases result : Rsa.sign privateContents emptyObject with
  | error why =>
      rw [result] at made
      cases made
  | ok raw =>
      refine ⟨raw, ?_⟩
      rw [RequestSigner.rsa_of_read read_privateFile, result]
      rfl

/-- A body is signed, and the text is accepted with and without blanks around it. -/
theorem accepts_signed :
    SignatureScheme.rsa.Matches RequestSigner.rsa privateFile publicFile ∧
      Rsa.IsPair privateFile publicFile ∧
        ∃ text, signRequest emptyObject privateFile = .ok text ∧
          SignatureScheme.rsa.accepts emptyObject publicFile text = true ∧
            SignatureScheme.rsa.accepts emptyObject publicFile (" " ++ text ++ "\n") = true := by
  rcases SignatureScheme.texts_exact .rsa .rsa emptyObject with
    ⟨acceptsIff, -, signEq, ofMatches, ofPair⟩
  rcases exists_signature with ⟨raw, made⟩
  have text : signRequest emptyObject privateFile = .ok (Base64.encode .standard raw) := by
    rw [signRequest, signEq, made]
    rfl
  have accepted := ofMatches privateFile publicFile _ isPair.matches text
  refine ⟨isPair.matches, isPair, _, text, ofPair privateFile publicFile _ isPair text, ?_⟩
  rcases (acceptsIff publicFile _).mp accepted with ⟨readable, raw', textEq, nonempty, verifies⟩
  refine (acceptsIff publicFile _).mpr ⟨readable, raw', ?_, nonempty, verifies⟩
  have blank : ∀ c ∈ [' '] ++ ['\n'] ++ [] ++ [], Text.isBlank c = true :=
    List.all_eq_true.mp (by decide)
  rw [← textEq, Text.trim_eq_trim_iff]
  refine ⟨(Base64.encode .standard raw).toList, [' '], ['\n'], [], [], blank, ?_, ?_⟩
  all_goals simp

end Sample

end DeviceAdmission
