import DeviceAdmission.Paging
import DeviceAdmission.Proofs.Results

/-!
# Parameters of a page, read exactly

A parameter is a decimal number with blanks around it. A page request is taken exactly if its
parameters are such numbers, its page size is not above the maximum, and its offset fits in 63 bits.
The numbers are then those that are written, and no bound on them changes the offset.
-/

namespace DeviceAdmission

/-! ## Numbers between blanks -/

namespace Numeral

theorem isDigit_of_mem_write {n : Nat} {c : Char} (member : c ∈ write n) : c.isDigit = true :=
  Nat.isDigit_of_mem_toDigits (by decide) (by decide) member

/-- A digit is not blank. -/
theorem isBlank_of_isDigit {c : Char} (digit : c.isDigit = true) : Text.isBlank c = false := by
  have range : 48 ≤ c.toNat ∧ c.toNat ≤ 57 := Char.isDigit_iff_toNat.mp digit
  exact Text.isBlank_of_visible (by omega) (by omega)

/-- How a text spells a number: in decimal digits, perhaps with a plus sign in front of them,
between blanks. -/
structure Spelling (text : String) where
  front : List Char
  sign : List Char
  digits : List Char
  back : List Char
  text_eq : text.toList = front ++ (sign ++ digits) ++ back
  blankFront : ∀ c ∈ front, Text.isBlank c = true
  plus : sign = [] ∨ sign = ['+']
  someDigit : digits ≠ []
  decimal : ∀ c ∈ digits, c.isDigit = true
  blankBack : ∀ c ∈ back, Text.isBlank c = true

namespace Spelling

variable {text : String}

/-- The number that is spelled. -/
def value (s : Spelling text) : Nat :=
  Nat.ofDigitChars 10 s.digits 0

/-- The spelling of a number as its numeral. -/
def ofNat (n : Nat) : Spelling (String.ofList (write n)) where
  front := []
  sign := []
  digits := write n
  back := []
  text_eq := by simp
  blankFront := List.forall_mem_nil _
  plus := .inl rfl
  someDigit := Nat.toDigits_ne_nil
  decimal := fun _ => isDigit_of_mem_write
  blankBack := List.forall_mem_nil _

@[simp] theorem value_ofNat (n : Nat) : (ofNat n).value = n :=
  Nat.ofDigitChars_toDigits (by decide) (by decide)

/-- Between the blanks stand the sign and the digits. -/
theorem trimChars_eq (s : Spelling text) : Text.trimChars text.toList = s.sign ++ s.digits := by
  have filled : ∀ c ∈ s.sign ++ s.digits, Text.isBlank c = false := by
    intro c member
    rcases List.mem_append.mp member with inSign | inDigits
    · rcases s.plus with without | plus
      · rw [without] at inSign
        cases inSign
      · rw [plus, List.mem_singleton] at inSign
        rw [inSign]
        decide
    · exact isBlank_of_isDigit (s.decimal c inDigits)
  have trimmed : Text.trimChars (s.sign ++ s.digits) = s.sign ++ s.digits :=
    Text.trimChars_eq_self_iff.mpr ⟨fun c first => filled c (List.mem_of_head? first),
      fun c last => filled c (List.mem_of_getLast? last)⟩
  rw [s.text_eq, Text.trimChars_of_around s.blankFront s.blankBack trimmed]

/-- The digits are what is left without the sign. -/
theorem dropPlus_eq (s : Spelling text) : dropPlus (s.sign ++ s.digits) = s.digits := by
  rcases s.plus with without | plus
  · rw [without, List.nil_append]
    unfold dropPlus
    split
    · rename_i rest eq
      have digit : ('+').isDigit = true := s.decimal '+' (eq ▸ List.mem_cons_self)
      exact absurd digit (by decide)
    · rfl
  · rw [plus]
    rfl

end Spelling

/-- What is left without a plus sign, with the sign that was there. -/
theorem exists_sign (cs : List Char) :
    ∃ sign, (sign = [] ∨ sign = ['+']) ∧ cs = sign ++ dropPlus cs := by
  unfold dropPlus
  split
  · exact ⟨['+'], .inr rfl, rfl⟩
  · exact ⟨[], .inl rfl, rfl⟩

end Numeral

namespace PageRequest

open Numeral (Spelling)

/-- A text is read as the number that it spells, if that is not zero and has 64 bits. -/
theorem readPositive?_eq_some_iff {text : String} {n : Nat} :
    readPositive? text = some n ↔ (∃ s : Spelling text, s.value = n) ∧ 1 ≤ n ∧ n ≤ maxWord := by
  simp only [readPositive?, Numeral.readUpTo?, Option.filter_eq_some_iff, decide_eq_true_eq,
    Numeral.read?_eq_some_iff]
  constructor
  · rintro ⟨⟨⟨someDigit, decimal, value⟩, word⟩, positive⟩
    obtain ⟨front, back, blankFront, blankBack, text_eq⟩ :=
      Text.exists_around_trimChars text.toList
    obtain ⟨sign, plus, trimmed⟩ := Numeral.exists_sign (Text.trimChars text.toList)
    rw [trimmed] at text_eq
    let s : Spelling text :=
      { front, sign, back, text_eq, blankFront, plus, someDigit, blankBack
        digits := Numeral.dropPlus (Text.trimChars text.toList)
        decimal := List.all_eq_true.mp decimal }
    exact ⟨⟨s, value⟩, positive, word⟩
  · rintro ⟨⟨s, value⟩, positive, word⟩
    rw [s.trimChars_eq, s.dropPlus_eq]
    exact ⟨⟨⟨s.someDigit, List.all_eq_true.mpr s.decimal, value⟩, word⟩, positive⟩

/-! ## Parameters -/

/-- The number that a parameter asks for: the default where it is not given, and otherwise the
number that it spells, if that is not zero and has 64 bits. -/
inductive Asks (default : Nat) : (parameter : Option String) → Nat → Prop
  | absent : Asks default none default
  | given {text : String} (s : Spelling text) (positive : 1 ≤ s.value) (word : s.value ≤ maxWord) :
      Asks default (some text) s.value

namespace Asks

variable {default n : Nat} {parameter : Option String}

theorem positive (asks : Asks default parameter n) (least : 1 ≤ default) : 1 ≤ n := by
  cases asks with
  | absent => exact least
  | given s positive word => exact positive

theorem le_maxWord (asks : Asks default parameter n) (most : default ≤ maxWord) : n ≤ maxWord := by
  cases asks with
  | absent => exact most
  | given s positive word => exact word

/-- The numeral of a positive number asks for that number. -/
theorem write (positive : 1 ≤ n) (word : n ≤ maxWord) :
    Asks default (some (String.ofList (Numeral.write n))) n := by
  have asks : Asks default (some (String.ofList (Numeral.write n))) (Spelling.ofNat n).value :=
    given (.ofNat n) (by rwa [Spelling.value_ofNat]) (by rwa [Spelling.value_ofNat])
  rwa [Spelling.value_ofNat] at asks

end Asks

/-- Read a parameter, with the fault of one that cannot be read. -/
def readParameter (default : Nat) (fault : PageFault) (read : String → Option Nat)
    (parameter : Option String) : Except PageFault Nat :=
  parameter.elim (.ok default) fun text => (read text).elim (.error fault) .ok

variable {page perPage parameter : Option String} {defaultPerPage maxPerPage default n : Nat}
variable {fault fault' : PageFault} {read : String → Option Nat}

/-- The parameters are read one after the other, and then their offset is compared. -/
theorem ofQuery_eq (page perPage : Option String) (defaultPerPage maxPerPage : Nat) :
    ofQuery page perPage defaultPerPage maxPerPage =
      readParameter 1 .page readPositive? page >>= fun k =>
        readParameter defaultPerPage .perPage
            (fun text => (readPositive? text).filter (· ≤ maxPerPage)) perPage >>= fun p =>
          if (k - 1) * p ≤ maxOffset then .ok ⟨k, p⟩ else .error .page := by
  cases page with
  | none => cases perPage <;> rfl
  | some text => cases perPage <;> rfl

theorem readParameter_eq_ok_iff : readParameter default fault read parameter = .ok n ↔
    (parameter = none ∧ n = default) ∨ ∃ text, parameter = some text ∧ read text = some n := by
  cases parameter with
  | none => simp [readParameter, eq_comm]
  | some text => cases found : read text <;> simp [readParameter, found]

theorem eq_of_readParameter (failed : readParameter default fault read parameter = .error fault') :
    fault' = fault := by
  cases parameter with
  | none => cases failed
  | some text =>
    cases found : read text with
    | none =>
      rw [readParameter, Option.elim_some, found] at failed
      exact (Except.error.inj failed).symm
    | some n =>
      rw [readParameter, Option.elim_some, found] at failed
      cases failed

/-- The page is read exactly if its parameter asks for it. -/
theorem readPage_eq_ok_iff {k : Nat} :
    readParameter 1 .page readPositive? page = .ok k ↔ Asks 1 page k := by
  simp only [readParameter_eq_ok_iff, readPositive?_eq_some_iff]
  constructor
  · rintro (⟨rfl, rfl⟩ | ⟨text, rfl, ⟨s, rfl⟩, positive, word⟩)
    · exact .absent
    · exact .given s positive word
  · rintro (_ | ⟨s, positive, word⟩)
    · exact .inl ⟨rfl, rfl⟩
    · exact .inr ⟨_, rfl, ⟨s, rfl⟩, positive, word⟩

/-- The page size is read exactly if its parameter asks for it, and for no more than the maximum. -/
theorem readPerPage_eq_ok_iff {p : Nat} :
    readParameter defaultPerPage .perPage
        (fun text => (readPositive? text).filter (· ≤ maxPerPage)) perPage = .ok p ↔
      Asks defaultPerPage perPage p ∧ (perPage ≠ none → p ≤ maxPerPage) := by
  simp only [readParameter_eq_ok_iff, Option.filter_eq_some_iff, readPositive?_eq_some_iff,
    decide_eq_true_eq]
  constructor
  · rintro (⟨rfl, rfl⟩ | ⟨text, rfl, ⟨⟨s, rfl⟩, positive, word⟩, most⟩)
    · exact ⟨.absent, fun given => absurd rfl given⟩
    · exact ⟨.given s positive word, fun _ => most⟩
  · rintro ⟨_ | ⟨s, positive, word⟩, most⟩
    · exact .inl ⟨rfl, rfl⟩
    · exact .inr ⟨_, rfl, ⟨⟨s, rfl⟩, positive, word⟩, most (Option.some_ne_none _)⟩

/-- A page request is taken exactly if its parameters ask for it, for no more than the maximum, and
the offset is in bounds. -/
theorem ofQuery_eq_ok_iff {r : PageRequest} :
    ofQuery page perPage defaultPerPage maxPerPage = .ok r ↔
      Asks 1 page r.page ∧ Asks defaultPerPage perPage r.perPage ∧
        (perPage ≠ none → r.perPage ≤ maxPerPage) ∧ (r.page - 1) * r.perPage ≤ maxOffset := by
  simp only [ofQuery_eq, bind_eq_ok_iff, readPage_eq_ok_iff, readPerPage_eq_ok_iff]
  constructor
  · rintro ⟨k, pageAsks, p, ⟨perPageAsks, most⟩, compared⟩
    split at compared
    · rename_i offset
      cases compared
      exact ⟨pageAsks, perPageAsks, most, offset⟩
    · cases compared
  · rintro ⟨pageAsks, perPageAsks, most, offset⟩
    exact ⟨r.page, pageAsks, r.perPage, ⟨perPageAsks, most⟩, if_pos offset⟩

/-- Which parameter is refused: the page where it asks for nothing, then the page size where it asks
for nothing within the maximum, and then the page. -/
theorem fault_of_ofQuery (failed : ofQuery page perPage defaultPerPage maxPerPage = .error fault) :
    ((¬∃ k, Asks 1 page k) ∧ fault = .page) ∨
      ((∃ k, Asks 1 page k) ∧
        (¬∃ p, Asks defaultPerPage perPage p ∧ (perPage ≠ none → p ≤ maxPerPage)) ∧
          fault = .perPage) ∨
      ((∃ k, Asks 1 page k) ∧
        (∃ p, Asks defaultPerPage perPage p ∧ (perPage ≠ none → p ≤ maxPerPage)) ∧
          fault = .page) := by
  simp only [ofQuery_eq, bind_eq_error_iff] at failed
  rcases failed with pageFailed | ⟨k, pageRead, perPageFailed | ⟨p, perPageRead, compared⟩⟩
  · refine .inl ⟨?_, eq_of_readParameter pageFailed⟩
    rintro ⟨k, asks⟩
    rw [readPage_eq_ok_iff.mpr asks] at pageFailed
    cases pageFailed
  · refine .inr (.inl ⟨⟨k, readPage_eq_ok_iff.mp pageRead⟩, ?_, eq_of_readParameter perPageFailed⟩)
    rintro ⟨p, asks⟩
    rw [readPerPage_eq_ok_iff.mpr asks] at perPageFailed
    cases perPageFailed
  · refine .inr (.inr ⟨⟨k, readPage_eq_ok_iff.mp pageRead⟩,
      ⟨p, readPerPage_eq_ok_iff.mp perPageRead⟩, ?_⟩)
    split at compared
    · cases compared
    · exact (Except.error.inj compared).symm

/-! ## Main statement -/

/-- The reading of any two parameters of a page, under any default of 64 bits and any maximum. It
succeeds exactly with the numbers that the parameters ask for, where the page size, if it is given,
is not above the maximum and the exact product of the offset is in bounds. The number of records to
skip is then that product, and one more record is asked for than the page size, unless that is the
greatest number there is. A failure tells of the page if it asks for nothing, else of the page size
if it asks for nothing within the maximum, and else of the page. -/
theorem ofQuery_exact (page perPage : Option String) (defaultPerPage maxPerPage : Nat)
    (word : defaultPerPage ≤ maxWord) :
    (∀ r, ofQuery page perPage defaultPerPage maxPerPage = .ok r ↔
      Asks 1 page r.page ∧ Asks defaultPerPage perPage r.perPage ∧
        (perPage ≠ none → r.perPage ≤ maxPerPage) ∧ (r.page - 1) * r.perPage ≤ maxOffset) ∧
      (∀ r, ofQuery page perPage defaultPerPage maxPerPage = .ok r →
        r.skip = (r.page - 1) * r.perPage ∧
          r.limit = if r.perPage = maxWord then maxWord else r.perPage + 1) ∧
      ∀ fault, ofQuery page perPage defaultPerPage maxPerPage = .error fault →
        ((¬∃ k, Asks 1 page k) → fault.message = "invalid page parameter") ∧
          ((∃ k, Asks 1 page k) →
            ((¬∃ p, Asks defaultPerPage perPage p ∧ (perPage ≠ none → p ≤ maxPerPage)) →
              fault.message = "invalid per_page parameter") ∧
            ((∃ p, Asks defaultPerPage perPage p ∧ (perPage ≠ none → p ≤ maxPerPage)) →
              fault.message = "invalid page parameter")) := by
  refine ⟨fun r => ofQuery_eq_ok_iff, ?_, ?_⟩
  · intro r taken
    obtain ⟨-, perPageAsks, -, offset⟩ := ofQuery_eq_ok_iff.mp taken
    have perPageWord := perPageAsks.le_maxWord word
    have inWord : maxOffset ≤ maxWord := by decide
    constructor
    · exact Nat.min_eq_left (Nat.le_trans offset inWord)
    · rw [limit]
      split <;> omega
  · intro fault failed
    rcases fault_of_ofQuery failed with
      ⟨noPage, rfl⟩ | ⟨somePage, noPerPage, rfl⟩ | ⟨somePage, somePerPage, rfl⟩
    · exact ⟨fun _ => rfl, fun somePage => absurd somePage noPage⟩
    · exact ⟨fun noPage => absurd somePage noPage, fun _ =>
        ⟨fun _ => rfl, fun somePerPage => absurd somePerPage noPerPage⟩⟩
    · exact ⟨fun _ => rfl, fun _ => ⟨fun noPerPage => absurd somePerPage noPerPage, fun _ => rfl⟩⟩

end PageRequest

namespace Sample

open PageRequest (ofQuery)

/-- The number of the last page that can be asked for with one record each, as a caller may write
it. -/
def lastPage : Numeral.Spelling " +009223372036854775808\u3000" where
  front := [' ']
  sign := ['+']
  digits := "009223372036854775808".toList
  back := ['\u3000']
  text_eq := by decide
  blankFront := List.all_eq_true.mp (by decide)
  plus := by decide
  someDigit := by decide
  decimal := List.all_eq_true.mp (by decide)
  blankBack := List.all_eq_true.mp (by decide)

/-- The last page with one record each is taken, and all records before it are skipped. -/
theorem ofQuery_lastPage :
    ofQuery (some " +009223372036854775808\u3000") none 1 500 = .ok ⟨9223372036854775808, 1⟩ ∧
      (⟨9223372036854775808, 1⟩ : PageRequest).skip = 9223372036854775807 := by
  obtain ⟨accepted, numbers, -⟩ := PageRequest.ofQuery_exact
    (some " +009223372036854775808\u3000") none 1 500 (by decide)
  have value : lastPage.value = 9223372036854775808 := by decide +kernel
  have asks : PageRequest.Asks 1 (some " +009223372036854775808\u3000") lastPage.value :=
    .given lastPage (by rw [value]; decide) (by rw [value]; decide)
  rw [value] at asks
  have taken := (accepted ⟨9223372036854775808, 1⟩).mpr
    ⟨asks, .absent, fun given => absurd rfl given, by decide⟩
  exact ⟨taken, (numbers _ taken).1⟩

end Sample

end DeviceAdmission
