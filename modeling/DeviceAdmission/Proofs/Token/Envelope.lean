import DeviceAdmission.Jws.Envelope
import DeviceAdmission.Proofs.Base64

/-!
# Opening signed tokens

A signed token is taken apart into the parts it was put together from. The main statement is that
the payload of a token made with a signature is given exactly when that signature verifies.
-/

namespace DeviceAdmission.Jws

/-- The last point is the one behind which there is no other. -/
theorem splitLast?_append {front back : List Char} (noPoint : '.' ∉ back) :
    splitLast? (front ++ '.' :: back) = some (front, back) := by
  have points : ∀ c ∈ back.reverse, decide (c ≠ '.') = true := by
    intro c member
    have ne : c ≠ '.' := fun equal => noPoint (equal ▸ List.mem_reverse.mp member)
    simp [ne]
  have behind : ((front ++ '.' :: back).reverse.takeWhile (· ≠ '.')).reverse = back := by
    rw [List.reverse_append, List.reverse_cons, List.append_assoc,
      List.takeWhile_append_of_pos points]
    simp
  have shorter : back.length ≠ (front ++ '.' :: back).length := by
    simp only [List.length_append, List.length_cons]
    omega
  have before : (front ++ '.' :: back).length - back.length - 1 = front.length := by
    simp only [List.length_append, List.length_cons]
    omega
  simp only [splitLast?, behind, if_neg shorter, before, List.take_left]

/-- A token of three parts is taken apart into them. -/
theorem ofChars?_append (header : List Char) {payload signature : List Char}
    (payloadPoint : '.' ∉ payload) (signaturePoint : '.' ∉ signature) :
    Parts.ofChars? ((header ++ '.' :: payload) ++ '.' :: signature) =
      some ⟨header ++ '.' :: payload, header, payload, signature⟩ := by
  unfold Parts.ofChars?
  rw [splitLast?_append signaturePoint]
  simp only [Option.bind_eq_bind, Option.bind_some, splitLast?_append payloadPoint,
    Option.pure_def]

/-- The header of the service's tokens names its algorithm. -/
theorem headerAlgorithm?_ownHeader : headerAlgorithm? ownHeader.write = some algorithm := by
  decide +kernel

/-- The token of a payload under a signature. -/
def tokenOf (payload signature : Bytes) : String :=
  String.ofList (signedChars payload ++ '.' :: Base64.encodeChars .url signature)

/-- What the signature of a payload signs. -/
def message (payload : Bytes) : Bytes :=
  Utf8.encode (String.ofList (signedChars payload))

/-- A token was signed exactly when it is the one of a signature that was made. -/
theorem sign_eq_ok_iff {ε : Type} {makes : Bytes → Except ε Bytes} {payload : Bytes}
    {raw : String} :
    sign makes payload = .ok raw ↔
      ∃ signature, makes (message payload) = .ok signature ∧ raw = tokenOf payload signature := by
  unfold sign message tokenOf
  cases made : makes (Utf8.encode (String.ofList (signedChars payload))) with
  | error e => simp [Bind.bind, Except.bind, made]
  | ok signature => simp [Bind.bind, Except.bind, made, Pure.pure, Except.pure, eq_comm]

/-- The payload of a token is given exactly when its signature verifies. -/
theorem payload?_tokenOf (verifies : (message signature : Bytes) → Bool)
    (payload signature : Bytes) :
    payload? verifies (tokenOf payload signature) =
      if verifies (message payload) signature then some payload else none := by
  have parts := ofChars?_append (Base64.encodeChars .url ownHeader.write)
    (Base64.point_notMem_encodeChars_url payload) (Base64.point_notMem_encodeChars_url signature)
  simp only [payload?, tokenOf, String.toList_ofList, signedChars, parts, Option.bind_eq_bind,
    Option.bind_some, Base64.decodeChars?_encodeChars, headerAlgorithm?_ownHeader, message,
    ne_eq, not_true_eq_false, if_false]
  rfl

end DeviceAdmission.Jws
