/-!
# Blank characters

The characters with the Unicode property White_Space, and the trimming of a text by them. Every
rule of the service that ignores surrounding space means these characters. The main statements are
that trimming a trimmed text changes nothing, and that it takes nothing but blanks from both ends.
-/

namespace DeviceAdmission.Text

/-- A blank is a character with the Unicode property White_Space. -/
def isBlank (c : Char) : Bool :=
  let n := c.toNat
  (9 ≤ n && n ≤ 13) || n = 0x20 || n = 0x85 || n = 0xA0 || n = 0x1680 ||
    (0x2000 ≤ n && n ≤ 0x200A) || n = 0x2028 || n = 0x2029 || n = 0x202F || n = 0x205F ||
    n = 0x3000

/-- The characters of `cs` from the first to the last that is not blank. -/
def trimChars (cs : List Char) : List Char :=
  ((cs.dropWhile isBlank).reverse.dropWhile isBlank).reverse

/-- The text between the surrounding blanks of `s`. -/
def trim (s : String) : String :=
  String.ofList (trimChars s.toList)

/-- A text is blank when all its characters are. -/
def isBlankText (s : String) : Bool :=
  s.toList.all isBlank

/-- Every character that core counts as white space is blank. -/
theorem isBlank_of_isWhitespace {c : Char} (h : c.isWhitespace = true) : isBlank c = true := by
  simp only [Char.isWhitespace, Bool.or_eq_true, decide_eq_true_eq] at h
  rcases h with ((h | h) | h) | h <;> subst h <;> decide

/-- A visible ASCII character is not blank. -/
theorem isBlank_of_visible {c : Char} (least : 32 < c.toNat) (most : c.toNat < 127) :
    isBlank c = false := by
  simp only [isBlank, Bool.or_eq_false_iff, Bool.and_eq_false_iff, decide_eq_false_iff_not]
  omega

private theorem dropWhile_eq_self {p : Char → Bool} {cs : List Char}
    (h : ∀ c, cs.head? = some c → p c = false) : cs.dropWhile p = cs := by
  cases cs with
  | nil => rfl
  | cons c cs => simp [h c rfl]

private theorem head?_dropWhile {p : Char → Bool} {cs : List Char} {c : Char}
    (h : (cs.dropWhile p).head? = some c) : p c = false := by
  induction cs with
  | nil => simp at h
  | cons d cs ih =>
    by_cases hd : p d = true
    · rw [List.dropWhile_cons, if_pos hd] at h
      exact ih h
    · rw [List.dropWhile_cons, if_neg hd] at h
      simp only [List.head?_cons, Option.some.injEq] at h
      simpa [h] using hd

/-- A trimmed text does not begin with a blank. -/
theorem head?_trimChars {cs : List Char} {c : Char} (h : (trimChars cs).head? = some c) :
    isBlank c = false := by
  unfold trimChars at h
  have hsub := List.dropWhile_suffix (l := (cs.dropWhile isBlank).reverse) isBlank
  obtain ⟨front, hfront⟩ := hsub
  have hrev : cs.dropWhile isBlank =
      ((cs.dropWhile isBlank).reverse.dropWhile isBlank).reverse ++ front.reverse := by
    rw [← List.reverse_append, hfront, List.reverse_reverse]
  refine @head?_dropWhile isBlank cs c ?_
  rw [hrev, List.head?_append, h]
  rfl

/-- A trimmed text does not end with a blank. -/
theorem getLast?_trimChars {cs : List Char} {c : Char} (h : (trimChars cs).getLast? = some c) :
    isBlank c = false := by
  unfold trimChars at h
  rw [List.getLast?_reverse] at h
  exact head?_dropWhile h

/-- Trimming changes nothing exactly if no blank stands at the beginning or at the end. -/
theorem trimChars_eq_self_iff {cs : List Char} :
    trimChars cs = cs ↔
      (∀ c, cs.head? = some c → isBlank c = false) ∧
        ∀ c, cs.getLast? = some c → isBlank c = false := by
  constructor
  · intro same
    rw [← same]
    exact ⟨fun _ => head?_trimChars, fun _ => getLast?_trimChars⟩
  · rintro ⟨first, last⟩
    have front : cs.dropWhile isBlank = cs := dropWhile_eq_self first
    have back : cs.reverse.dropWhile isBlank = cs.reverse :=
      dropWhile_eq_self fun c h => last c (by rwa [List.head?_reverse] at h)
    rw [trimChars, front, back, List.reverse_reverse]

/-- Trimming a trimmed text changes nothing. -/
@[simp] theorem trimChars_trimChars (cs : List Char) : trimChars (trimChars cs) = trimChars cs :=
  trimChars_eq_self_iff.mpr ⟨fun _ => head?_trimChars, fun _ => getLast?_trimChars⟩

@[simp] theorem trim_trim (s : String) : trim (trim s) = trim s := by
  simp [trim]

/-- Trimming takes nothing but blanks, from both ends. -/
theorem exists_around_trimChars (cs : List Char) :
    ∃ front back, (∀ c ∈ front, isBlank c = true) ∧ (∀ c ∈ back, isBlank c = true) ∧
      cs = front ++ trimChars cs ++ back := by
  have left := List.takeWhile_append_dropWhile (p := isBlank) (l := cs)
  have right := List.takeWhile_append_dropWhile (p := isBlank) (l := (cs.dropWhile isBlank).reverse)
  refine ⟨cs.takeWhile isBlank, ((cs.dropWhile isBlank).reverse.takeWhile isBlank).reverse,
    List.all_eq_true.mp List.all_takeWhile, ?_, ?_⟩
  · intro c member
    exact List.all_eq_true.mp List.all_takeWhile c (List.mem_reverse.mp member)
  · rw [trimChars, List.append_assoc, ← List.reverse_append, right, List.reverse_reverse, left]

/-- Blanks around a trimmed text are trimmed. -/
theorem trimChars_of_around {front core back : List Char}
    (blankFront : ∀ c ∈ front, isBlank c = true) (blankBack : ∀ c ∈ back, isBlank c = true)
    (trimmed : trimChars core = core) : trimChars (front ++ core ++ back) = core := by
  obtain ⟨first, last⟩ := trimChars_eq_self_iff.mp trimmed
  have backwards : (front ++ core ++ back).dropWhile isBlank = (core ++ back).dropWhile isBlank := by
    rw [List.append_assoc, List.dropWhile_append_of_pos blankFront]
  have reversed : ∀ c ∈ back.reverse, isBlank c = true := fun c member =>
    blankBack c (List.mem_reverse.mp member)
  rw [trimChars, backwards]
  cases core with
  | nil =>
    have nothing : back.dropWhile isBlank = [] := by
      rw [← List.append_nil back, List.dropWhile_append_of_pos blankBack, List.dropWhile_nil]
    rw [List.nil_append, nothing]
    rfl
  | cons c core =>
    have start : (c :: core ++ back).dropWhile isBlank = c :: core ++ back :=
      dropWhile_eq_self fun d h => first d h
    have finish : (c :: core).reverse.dropWhile isBlank = (c :: core).reverse :=
      dropWhile_eq_self fun d h => last d (by rwa [List.head?_reverse] at h)
    rw [start, List.reverse_append, List.dropWhile_append_of_pos reversed, finish,
      List.reverse_reverse]

end DeviceAdmission.Text
