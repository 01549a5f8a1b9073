import DeviceAdmission.Text.Base64
import DeviceAdmission.Text.Blank

/-!
# Base64, exactly

Three bytes are four numbers below 64, and each such number is a letter. The main statement is that
in either alphabet a text is decoded to bytes exactly if it is the text that these bytes are encoded
as: padding, letters and unused bits can be in one way only.
-/

namespace DeviceAdmission.Base64

/-- The groups of six bits that bytes are written as. -/
def sextets : Bytes → List Nat
  | [] => []
  | [x] => [x.toNat / 4, x.toNat % 4 * 16]
  | [x, y] =>
    let n := x.toNat * 256 + y.toNat
    [n / 1024, n / 16 % 64, n % 16 * 4]
  | x :: y :: z :: rest =>
    let n := (x.toNat * 256 + y.toNat) * 256 + z.toNat
    n / 262144 :: n / 4096 % 64 :: n / 64 % 64 :: n % 64 :: sextets rest

/-- The text of bytes is the letters of their groups, with padding where it is asked for. -/
theorem encodeChars_eq (a : Alphabet) (bytes : Bytes) :
    encodeChars a bytes =
      (sextets bytes).map (letter a) ++ padding a ((3 - bytes.length % 3) % 3) := by
  induction bytes using sextets.induct with
  | case1 => cases a <;> rfl
  | case2 x => rfl
  | case3 x y => rfl
  | case4 x y z rest ih =>
      have length : (x :: y :: z :: rest).length % 3 = rest.length % 3 := by
        simp only [List.length_cons]
        omega
      rw [encodeChars, ih, length]
      rfl

theorem lt_of_mem_sextets {bytes : Bytes} {n : Nat} (member : n ∈ sextets bytes) : n < 64 := by
  induction bytes using sextets.induct with
  | case1 => cases member
  | case2 x =>
      have := x.toNat_lt
      simp only [sextets, List.mem_cons, List.not_mem_nil, or_false] at member
      omega
  | case3 x y =>
      have := x.toNat_lt
      have := y.toNat_lt
      simp only [sextets, List.mem_cons, List.not_mem_nil, or_false] at member
      omega
  | case4 x y z rest ih =>
      have := x.toNat_lt
      have := y.toNat_lt
      have := z.toNat_lt
      simp only [sextets, List.mem_cons] at member
      rcases member with equal | equal | equal | equal | member
      · omega
      · omega
      · omega
      · omega
      · exact ih member

/-- A letter has the value that it is the letter of. -/
theorem value?_letter (a : Alphabet) : ∀ n < 64, value? a (letter a n) = some n := by
  cases a <;> decide

theorem mapM_value?_letter (a : Alphabet) {values : List Nat} (small : ∀ n ∈ values, n < 64) :
    (values.map (letter a)).mapM (value? a) = some values := by
  induction values with
  | nil => rfl
  | cons n values ih =>
      have rest := ih fun m member => small m (List.mem_cons_of_mem n member)
      simp [value?_letter a n (small n List.mem_cons_self), rest]

/-- A number is the byte of which it is the value. -/
theorem ofNat_eq {x : UInt8} {n : Nat} (equal : n = x.toNat) : UInt8.ofNat n = x := by
  rw [equal, UInt8.ofNat_toNat]

/-- The groups of bytes are put together to these bytes. -/
theorem ofValues?_sextets (bytes : Bytes) : ofValues? (sextets bytes) = some bytes := by
  induction bytes using sextets.induct with
  | case1 => rfl
  | case2 x =>
      have := x.toNat_lt
      have unused : x.toNat % 4 * 16 % 16 = 0 := by omega
      simp only [sextets, ofValues?, unused, if_true]
      rw [ofNat_eq (x := x) (by omega)]
  | case3 x y =>
      have := x.toNat_lt
      have := y.toNat_lt
      have unused : (x.toNat * 256 + y.toNat) % 16 * 4 % 4 = 0 := by omega
      simp only [sextets, ofValues?, unused, if_true]
      rw [ofNat_eq (x := x) (by omega), ofNat_eq (x := y) (by omega)]
  | case4 x y z rest ih =>
      have := x.toNat_lt
      have := y.toNat_lt
      have := z.toNat_lt
      simp only [sextets, ofValues?, ih, Option.bind_eq_bind, Option.bind_some, Option.pure_def]
      rw [ofNat_eq (x := x) (by omega), ofNat_eq (x := y) (by omega), ofNat_eq (x := z) (by omega)]

/-- With the padding the groups are four for every three bytes that were begun. -/
theorem length_sextets (bytes : Bytes) :
    (sextets bytes).length + (3 - bytes.length % 3) % 3 = (bytes.length + 2) / 3 * 4 := by
  induction bytes using sextets.induct with
  | case1 => rfl
  | case2 x => simp [sextets]
  | case3 x y => simp [sextets]
  | case4 x y z rest ih =>
      simp only [sextets, List.length_cons]
      omega

/-- The groups of six bits are those of the bytes that they are put together to. -/
theorem eq_sextets_of_ofValues? {values : List Nat} {bytes : Bytes}
    (small : ∀ n ∈ values, n < 64) (read : ofValues? values = some bytes) :
    values = sextets bytes := by
  induction values using ofValues?.induct generalizing bytes with
  | case1 =>
      cases read
      rfl
  | case2 p => cases read
  | case3 p q unused =>
      have := small p (by simp)
      have := small q (by simp)
      simp only [ofValues?, unused, if_true, Option.some.injEq] at read
      subst read
      simp only [sextets, UInt8.toNat_ofNat', List.cons.injEq, and_true]
      omega
  | case4 p q used => simp [ofValues?, used] at read
  | case5 p q r unused =>
      have := small p (by simp)
      have := small q (by simp)
      have := small r (by simp)
      simp only [ofValues?, unused, if_true, Option.some.injEq] at read
      subst read
      simp only [sextets, UInt8.toNat_ofNat', List.cons.injEq, and_true]
      omega
  | case6 p q r used => simp [ofValues?, used] at read
  | case7 p q r s rest ih =>
      have := small p (by simp)
      have := small q (by simp)
      have := small r (by simp)
      have := small s (by simp)
      simp only [ofValues?, Option.bind_eq_bind, Option.bind_eq_some_iff, Option.pure_def,
        Option.some.injEq] at read
      obtain ⟨others, readOthers, rfl⟩ := read
      have smallRest : ∀ n ∈ rest, n < 64 := fun n member => small n (by simp [member])
      simp only [sextets, UInt8.toNat_ofNat', List.cons.injEq, ← ih smallRest readOthers, and_true]
      omega

/-- A letter is the one of its value. -/
theorem letter_of_value? {a : Alphabet} {c : Char} {n : Nat} (read : value? a c = some n) :
    n < 64 ∧ letter a n = c := by
  have codes {low high : Char} (between : low ≤ c ∧ c ≤ high) :
      low.toNat ≤ c.toNat ∧ c.toNat ≤ high.toNat := between
  unfold value? at read
  split at read
  · rename_i upper
    have bounds : 65 ≤ c.toNat ∧ c.toNat ≤ 90 := codes upper
    cases read
    refine ⟨by omega, ?_⟩
    unfold letter
    rw [if_pos (by omega), Nat.add_sub_cancel' bounds.1, Char.ofNat_toNat]
  split at read
  · rename_i lower
    have bounds : 97 ≤ c.toNat ∧ c.toNat ≤ 122 := codes lower
    cases read
    refine ⟨by omega, ?_⟩
    unfold letter
    rw [if_neg (by omega), if_pos (by omega), Nat.add_sub_cancel' (by omega), Char.ofNat_toNat]
  split at read
  · rename_i digit
    have bounds : 48 ≤ c.toNat ∧ c.toNat ≤ 57 := codes digit
    cases read
    refine ⟨by omega, ?_⟩
    unfold letter
    rw [if_neg (by omega), if_neg (by omega), if_pos (by omega), Nat.add_sub_cancel,
      Char.ofNat_toNat]
  split at read
  · rename_i equal
    cases read
    exact ⟨by decide, equal.symm⟩
  split at read
  · rename_i equal
    cases read
    exact ⟨by decide, equal.symm⟩
  · cases read

theorem eq_map_letter_of_mapM {a : Alphabet} {letters : List Char} {values : List Nat}
    (read : letters.mapM (value? a) = some values) :
    letters = values.map (letter a) ∧ ∀ n ∈ values, n < 64 := by
  induction letters generalizing values with
  | nil =>
      cases read
      exact ⟨rfl, nofun⟩
  | cons c letters ih =>
      simp only [List.mapM_cons, Option.bind_eq_bind, Option.bind_eq_some_iff, Option.pure_def,
        Option.some.injEq] at read
      obtain ⟨n, first, others, rest, rfl⟩ := read
      obtain ⟨small, letterEq⟩ := letter_of_value? first
      obtain ⟨lettersEq, smallOthers⟩ := ih rest
      refine ⟨by rw [List.map_cons, letterEq, ← lettersEq], ?_⟩
      exact List.forall_mem_cons.mpr ⟨small, smallOthers⟩

/-! ## Padding -/

/-- No letter is the mark that texts are filled up with. -/
theorem letter_ne_mark (a : Alphabet) : ∀ n < 64, letter a n ≠ '=' := by
  cases a <;> decide

/-- The number of marks that a text ends with. -/
def marksAtEnd (cs : List Char) : Nat :=
  (cs.reverse.takeWhile (· = '=')).length

theorem marksAtEnd_le (cs : List Char) : marksAtEnd cs ≤ cs.length := by
  calc marksAtEnd cs ≤ cs.reverse.length := (List.takeWhile_prefix _).length_le
    _ = cs.length := List.length_reverse

theorem marksAtEnd_append {letters : List Char} (noMark : '=' ∉ letters) (marks : Nat) :
    marksAtEnd (letters ++ List.replicate marks '=') = marks := by
  have stops : letters.reverse.takeWhile (· = '=') = [] := by
    cases last : letters.reverse with
    | nil => rfl
    | cons c rest =>
        have member : c ∈ letters := List.mem_reverse.mp (last ▸ List.mem_cons_self)
        have other : c ≠ '=' := fun isMark => noMark (isMark ▸ member)
        simp [other]
  rw [marksAtEnd, List.reverse_append, List.reverse_replicate,
    List.takeWhile_append_of_pos (by simp), stops, List.append_nil, List.length_replicate]

/-- Nothing but marks is left of a text where no more of it is left than the marks at its end. -/
theorem drop_eq_replicate {cs : List Char} {marks : Nat} (atEnd : marks ≤ marksAtEnd cs) :
    cs.drop (cs.length - marks) = List.replicate marks '=' := by
  have parts := List.takeWhile_append_dropWhile (p := fun c : Char => decide (c = '='))
    (l := cs.reverse)
  have most := marksAtEnd_le cs
  refine List.eq_replicate_iff.mpr ⟨by rw [List.length_drop]; omega, ?_⟩
  intro c member
  rw [← List.mem_reverse, ← List.take_reverse, ← parts, List.take_append_of_le_length atEnd]
    at member
  simpa using List.all_eq_true.mp List.all_takeWhile c (List.mem_of_mem_take member)

/-- Letters that are filled up to groups of four are found again. -/
theorem unpad?_replicate {letters : List Char} {marks : Nat} (noMark : '=' ∉ letters)
    (few : marks ≤ 2) (whole : (letters.length + marks) % 4 = 0) :
    unpad? .standard (letters ++ List.replicate marks '=') = some letters := by
  have atEnd := marksAtEnd_append noMark marks
  unfold marksAtEnd at atEnd
  simp only [unpad?, atEnd, List.length_append, List.length_replicate, whole, ne_eq,
    not_true_eq_false, if_false, Nat.min_eq_right few, Nat.add_sub_cancel, List.take_left]

/-- What is left of a text is its letters, which are filled up with at most two marks. -/
theorem eq_of_unpad? {cs letters : List Char} (unpadded : unpad? .standard cs = some letters) :
    ∃ marks ≤ 2, (letters.length + marks) % 4 = 0 ∧ cs = letters ++ List.replicate marks '=' := by
  unfold unpad? at unpadded
  simp only at unpadded
  split at unpadded
  · cases unpadded
  · rename_i whole
    cases unpadded
    have most := marksAtEnd_le cs
    refine ⟨min 2 (marksAtEnd cs), Nat.min_le_left .., ?_, ?_⟩
    · rw [List.length_take]
      unfold marksAtEnd at most ⊢
      omega
    · rw [← drop_eq_replicate (Nat.min_le_right ..)]
      exact (List.take_append_drop ..).symm

/-! ## Reading and writing -/

/-- Decoding undoes encoding. -/
@[simp]
theorem decodeChars?_encodeChars (a : Alphabet) (bytes : Bytes) :
    decodeChars? a (encodeChars a bytes) = some bytes := by
  have small : ∀ n ∈ sextets bytes, n < 64 := fun _ => lt_of_mem_sextets
  have values := mapM_value?_letter a small
  have unpadded : unpad? a (encodeChars a bytes) = some ((sextets bytes).map (letter a)) := by
    rw [encodeChars_eq]
    cases a with
    | url => simp [unpad?, padding]
    | standard =>
        refine unpad?_replicate ?_ (by omega) ?_
        · rw [List.mem_map]
          rintro ⟨n, member, isMark⟩
          exact letter_ne_mark .standard n (small n member) isMark
        · rw [List.length_map, length_sextets, Nat.mul_mod_left]
  simp only [decodeChars?, unpadded, values, ofValues?_sextets, Option.bind_eq_bind,
    Option.bind_some]

/-- A text is decoded exactly if it is the one that the bytes are encoded as. -/
theorem decodeChars?_eq_some_iff {a : Alphabet} {cs : List Char} {bytes : Bytes} :
    decodeChars? a cs = some bytes ↔ cs = encodeChars a bytes := by
  constructor
  · intro decoded
    simp only [decodeChars?, Option.bind_eq_bind, Option.bind_eq_some_iff] at decoded
    obtain ⟨letters, unpadded, values, read, putTogether⟩ := decoded
    obtain ⟨lettersEq, small⟩ := eq_map_letter_of_mapM read
    have valuesEq := eq_sextets_of_ofValues? small putTogether
    rw [valuesEq] at lettersEq
    rw [encodeChars_eq, ← lettersEq]
    cases a with
    | url =>
        cases unpadded
        exact (List.append_nil _).symm
    | standard =>
        obtain ⟨marks, few, whole, rfl⟩ := eq_of_unpad? unpadded
        have length : letters.length + (3 - bytes.length % 3) % 3 = (bytes.length + 2) / 3 * 4 := by
          rw [lettersEq, List.length_map, length_sextets]
        have marksEq : marks = (3 - bytes.length % 3) % 3 := by omega
        rw [marksEq, padding]
  · rintro rfl
    exact decodeChars?_encodeChars a bytes

/-- A text is decoded exactly if it is the one that the bytes are encoded as. -/
theorem decode?_eq_some_iff {a : Alphabet} {text : String} {bytes : Bytes} :
    decode? a text = some bytes ↔ text = encode a bytes := by
  rw [decode?, decodeChars?_eq_some_iff, encode, ← String.toList_inj, String.toList_ofList]

@[simp]
theorem decode?_encode (a : Alphabet) (bytes : Bytes) : decode? a (encode a bytes) = some bytes :=
  decode?_eq_some_iff.mpr rfl

/-- Every letter of an encoded text is the one of a number below 64, or a mark. -/
theorem mem_encodeChars {a : Alphabet} {bytes : Bytes} {c : Char}
    (member : c ∈ encodeChars a bytes) : (∃ n < 64, letter a n = c) ∨ c = '=' := by
  rw [encodeChars_eq, List.mem_append, List.mem_map] at member
  rcases member with ⟨n, ofBytes, equal⟩ | filling
  · exact .inl ⟨n, lt_of_mem_sextets ofBytes, equal⟩
  · cases a with
    | url => cases filling
    | standard => exact .inr (List.eq_of_mem_replicate filling)

/-- No letter of a text for URLs is a point. -/
theorem point_notMem_encodeChars_url (bytes : Bytes) : '.' ∉ encodeChars .url bytes := by
  have letters : ∀ n < 64, letter .url n ≠ '.' := by decide
  rw [encodeChars_eq]
  simp only [padding, List.append_nil, List.mem_map, not_exists, not_and]
  intro n member
  exact letters n (lt_of_mem_sextets member)

/-- An encoded text has no blanks in it, so trimming leaves it as it is. -/
@[simp]
theorem trim_encode (a : Alphabet) (bytes : Bytes) :
    Text.trim (encode a bytes) = encode a bytes := by
  have letters : ∀ n < 64, Text.isBlank (letter a n) = false := by
    cases a <;> decide
  have filled : ∀ c ∈ encodeChars a bytes, Text.isBlank c = false := by
    intro c member
    rcases mem_encodeChars member with ⟨n, small, rfl⟩ | rfl
    · exact letters n small
    · decide
  have trimmed : Text.trimChars (encodeChars a bytes) = encodeChars a bytes :=
    Text.trimChars_eq_self_iff.mpr
      ⟨fun c first => filled c (List.mem_of_head? first),
        fun c last => filled c (List.mem_of_getLast? last)⟩
  rw [Text.trim, encode, String.toList_ofList, trimmed]

end DeviceAdmission.Base64
