import DeviceAdmission.Crypto.Outline
import DeviceAdmission.Proofs.Base64

/-!
# Written blocks

A mark is found behind letters that none of its own begins, and a text without one of its letters
has no mark in it. So a block that is written with the marks and the padded text of its bytes, and
with nothing else, is read again.
-/

namespace DeviceAdmission.Pem

/-- The text of a block without header lines. -/
def write (tag : String) (contents : Bytes) : String :=
  String.ofList ("-----BEGIN ".toList ++ (tag.toList ++ ("-----".toList ++
    (('\n' :: Base64.encodeChars .standard contents ++ ['\n']) ++ ("-----END ".toList ++
      (tag.toList ++ ("-----".toList ++ ['\n'])))))))

/-! ## Finding a mark -/

/-- A mark that goes on as expected is passed. -/
theorem seek_append (mark : List Char) (expected rest passed : List Char) :
    seek mark (expected ++ rest) expected passed =
      some (((expected.reverse ++ passed).drop mark.length).reverse, rest) := by
  induction expected generalizing passed with
  | nil => simp only [List.nil_append, seek, List.reverse_nil]
  | cons e expected ih => simp only [List.cons_append, seek, if_pos, ih, List.reverse_cons,
      List.append_assoc, List.nil_append]

/-- Letters that are not the first one of a mark are passed, and the mark stays the one to find. -/
theorem seek_skip {e : Char} {mark xs : List Char} (notMem : e ∉ xs) (rest passed : List Char) :
    seek (e :: mark) (xs ++ rest) (e :: mark) passed =
      seek (e :: mark) rest (e :: mark) (xs.reverse ++ passed) := by
  induction xs generalizing passed with
  | nil => rfl
  | cons x xs ih =>
      have ne : e ≠ x := List.ne_of_not_mem_cons notMem
      rw [List.cons_append, seek, if_neg (Ne.symm ne), ih (List.not_mem_of_not_mem_cons notMem),
        List.reverse_cons, List.append_assoc, List.singleton_append]

/-- No mark is found where one of its letters that are still expected does not occur. -/
theorem seek_eq_none {c : Char} {mark xs : List Char} (inMark : c ∈ mark) (notMem : c ∉ xs)
    {expected : List Char} (inExpected : c ∈ expected) (passed : List Char) :
    seek mark xs expected passed = none := by
  induction xs generalizing expected passed with
  | nil =>
      cases expected with
      | nil => cases inExpected
      | cons e expected => rfl
  | cons x xs ih =>
      have ne : c ≠ x := List.ne_of_not_mem_cons notMem
      have others : c ∉ xs := List.not_mem_of_not_mem_cons notMem
      cases expected with
      | nil => cases inExpected
      | cons e expected =>
          rw [seek]
          split
          case isTrue same =>
            have later : c ∈ expected :=
              (List.mem_cons.mp inExpected).resolve_left fun first => ne (first.trans same.symm)
            exact ih others later _
          case isFalse => exact ih others inMark _

/-- A mark is found behind letters that its first one is not among. -/
theorem splitAt?_append {mark : String} {e : Char} {letters xs : List Char}
    (begins : mark.toList = e :: letters) (notMem : e ∉ xs) (rest : List Char) :
    splitAt? mark (xs ++ (mark.toList ++ rest)) = some (xs, rest) := by
  have passed : ((e :: letters).reverse ++ (xs.reverse ++ [])).drop (e :: letters).length =
      xs.reverse := by
    rw [List.append_nil, ← List.length_reverse, List.drop_left]
  rw [splitAt?, begins, seek_skip notMem, seek_append, passed, List.reverse_reverse]

/-! ## Reading what was written -/

/-- The letters of padded base64 are neither those that marks begin with nor blanks. -/
theorem plain_of_mem {contents : Bytes} {c : Char}
    (member : c ∈ Base64.encodeChars .standard contents) :
    c ≠ '-' ∧ isMarkBlank c = false ∧ Text.isBlank c = false := by
  have letters : ∀ n < 64, Base64.letter .standard n ≠ '-' ∧
      isMarkBlank (Base64.letter .standard n) = false ∧
        Text.isBlank (Base64.letter .standard n) = false := by decide
  rcases Base64.mem_encodeChars member with ⟨n, small, rfl⟩ | rfl
  · exact letters n small
  · decide

/-- Base64 that is ended by one line break at most has no header lines before it. -/
theorem splitHeaders_of_plain {body ending : List Char}
    (plain : ∀ c ∈ body, isMarkBlank c = false) (isEnding : ending = [] ∨ ending = ['\n']) :
    splitHeaders (body ++ ending) = ([], body ++ ending) := by
  have noBreak : '\n' ∉ body := fun member => absurd (plain _ member) (by decide)
  have noReturn : '\r' ∉ body ++ ending := by
    rcases isEnding with rfl | rfl <;>
      simpa using fun member => absurd (plain '\r' member) (by decide)
  have first : splitAt? "\n\n" (body ++ ending) = none := by
    rw [splitAt?, show "\n\n".toList = ['\n', '\n'] from rfl, seek_skip noBreak]
    rcases isEnding with rfl | rfl <;> rfl
  have second : splitAt? "\r\n\r\n" (body ++ ending) = none :=
    seek_eq_none (by decide : '\r' ∈ "\r\n\r\n".toList) noReturn (by decide) []
  rw [splitHeaders, first, second]

/-- The line break behind a tag is passed, and with it the next one if there are no bytes. -/
theorem exists_ending {encoded : List Char} (plain : ∀ c ∈ encoded, isMarkBlank c = false) :
    ∃ ending, (ending = [] ∨ ending = ['\n']) ∧ ∀ rest,
      (('\n' :: encoded ++ ['\n']) ++ ("-----END ".toList ++ rest)).dropWhile isMarkBlank =
        (encoded ++ ending) ++ ("-----END ".toList ++ rest) := by
  cases encoded with
  | nil => exact ⟨[], .inl rfl, fun rest => rfl⟩
  | cons c encoded =>
      refine ⟨['\n'], .inr rfl, fun rest => ?_⟩
      have letter := plain c List.mem_cons_self
      simp [List.dropWhile, letter, show isMarkBlank '\n' = true from rfl]

/-- No lines are in an empty text. -/
theorem linesOf_nil : linesOf [] = [] := by
  have split : (String.ofList []).splitOn "\n" = [""] := by
    rw [String.splitOn, if_neg (by decide), String.splitOnAux]
    rfl
  rw [linesOf, split]
  rfl

/-- What was written is read again, whatever the bytes are. -/
theorem read?_write {tag : String} (nonempty : tag.toList ≠ []) (noDash : '-' ∉ tag.toList)
    (contents : Bytes) : read? (write tag contents) = some ⟨tag, contents⟩ := by
  have plain : ∀ c ∈ Base64.encodeChars .standard contents, _ := fun _ member =>
    plain_of_mem member
  have decoded := Base64.decodeChars?_encodeChars .standard contents
  unfold read? write
  generalize Base64.encodeChars .standard contents = encoded at plain decoded
  obtain ⟨ending, isEnding, body⟩ := exists_ending fun c member => (plain c member).2.1
  have noDashInData : '-' ∉ encoded ++ ending := by
    intro member
    rcases List.mem_append.mp member with inside | inside
    · exact (plain _ inside).1 rfl
    · rcases isEnding with rfl | rfl <;> revert inside <;> decide
  have headers : splitHeaders (encoded ++ ending) = ([], encoded ++ ending) :=
    splitHeaders_of_plain (fun c member => (plain c member).2.1) isEnding
  have data : (encoded ++ ending).filter (fun c => !Text.isBlank c) = encoded := by
    have kept : encoded.filter (fun c => !Text.isBlank c) = encoded :=
      List.filter_eq_self.mpr fun c member => by simp [(plain c member).2.2]
    rw [List.filter_append, kept]
    rcases isEnding with rfl | rfl <;> exact List.append_nil _
  have begins : ∀ rest, splitAt? "-----BEGIN " ("-----BEGIN ".toList ++ rest) = some ([], rest) :=
    splitAt?_append (e := '-') rfl List.not_mem_nil
  have tagEnds : ∀ rest, splitAt? "-----" (tag.toList ++ ("-----".toList ++ rest)) =
      some (tag.toList, rest) := splitAt?_append rfl noDash
  have dataEnds : ∀ rest, splitAt? "-----END " ((encoded ++ ending) ++
      ("-----END ".toList ++ rest)) = some (encoded ++ ending, rest) :=
    splitAt?_append rfl noDashInData
  have headless : (linesOf []).any (fun line => !line.contains ':') = false := by
    rw [linesOf_nil]
    rfl
  rw [String.toList_ofList, begins]
  simp only [Option.bind_eq_bind, Option.bind_some]
  rw [tagEnds, Option.bind_some, body, dataEnds, Option.bind_some, tagEnds, Option.bind_some]
  rw [headers]
  simp only [headless, data, decoded, nonempty, List.isEmpty_iff, ne_eq, not_true_eq_false,
    or_self, if_false, Bool.false_eq_true, Option.bind_some, String.ofList_toList]
  rfl

/-- A file of one block with an RSA tag holds the bytes that were written, if they are DER
values. -/
theorem rsaKeyContents_write {tag : String} {contents : Bytes}
    (isRsa : tag = "RSA PRIVATE KEY" ∨ tag = "RSA PUBLIC KEY")
    (isDer : (DerValue.read? contents).isSome = true) :
    rsaKeyContents (write tag contents) = .ok contents := by
  have block : read? (write tag contents) = some ⟨tag, contents⟩ := by
    apply read?_write
    all_goals rcases isRsa with rfl | rfl <;> decide
  rcases Option.isSome_iff_exists.mp isDer with ⟨values, valuesEq⟩
  rw [rsaKeyContents, block]
  simp only [valuesEq, if_pos isRsa]

end DeviceAdmission.Pem
