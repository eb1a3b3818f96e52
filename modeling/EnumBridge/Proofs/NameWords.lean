import EnumBridge.Naming.Style
import Mathlib

/-!
# The words of a name, in whatever case

A naming style keeps the words of a name and changes the case of their letters, so what another
style makes of the result depends on whether the words are found again.  `SameWords` says that
two names have the same words of ASCII letters and digits, letter case apart, and
`SameWords.convert_eq` that every style then makes the same of both.

Words are found by a scan that looks one character ahead.  Where a word of one case stands in
front of a separator, or one without capitals in front of a capital, the scan ends the word
there: `wordsFrom_append_separator` and `wordsFrom_append_capital` are all that the statements on
single styles need to know of it.

The scan and the spellings are the case library's, by assumption (`EnumBridge.Naming.Words`); the
statements here and on single styles are about names as that library splits them.
-/

set_option autoImplicit false

namespace EnumBridge

namespace Text

/-! ## ASCII letters and digits -/

variable {c : Char}

/-- A letter or digit of ASCII is a character of ASCII. -/
theorem isAscii_of_isAlphanum (h : c.isAlphanum = true) : isAscii c = true := by
  simp only [Char.isAlphanum, Char.isAlpha, Char.isUpper, Char.isLower, Char.isDigit,
    UInt32.le_iff_toNat_le, ge_iff_le, Bool.or_eq_true, Bool.and_eq_true, decide_eq_true_eq] at h
  simp only [isAscii, Char.toNat, decide_eq_true_eq]
  have h1 : 'Z'.val.toNat = 90 := rfl
  have h2 : 'z'.val.toNat = 122 := rfl
  have h3 : '9'.val.toNat = 57 := rfl
  omega

/-- A letter or digit of ASCII belongs to a word. -/
theorem isAlphanumeric_of_isAlphanum (h : c.isAlphanum = true) : isAlphanumeric c = true := by
  rw [isAlphanumeric, isAscii_of_isAlphanum h, if_pos rfl, h]

/-- Among letters and digits of ASCII the small letters are those of ASCII. -/
theorem isLower_of_isAlphanum (h : c.isAlphanum = true) : isLower c = c.isLower := by
  rw [isLower, isAscii_of_isAlphanum h, if_pos rfl]

/-- Among letters and digits of ASCII the capitals are those of ASCII. -/
theorem isUpper_of_isAlphanum (h : c.isAlphanum = true) : isUpper c = c.isUpper := by
  rw [isUpper, isAscii_of_isAlphanum h, if_pos rfl]

/-- A letter or digit of ASCII in lower case is one character. -/
theorem lower_of_isAlphanum (h : c.isAlphanum = true) : lower c = [c.toLower] := by
  rw [lower, isAscii_of_isAlphanum h, if_pos rfl]

/-- A letter or digit of ASCII in upper case is one character. -/
theorem upper_of_isAlphanum (h : c.isAlphanum = true) : upper c = [c.toUpper] := by
  rw [upper, isAscii_of_isAlphanum h, if_pos rfl]

/-- To make a capital small neither makes nor loses a letter or digit of ASCII. -/
theorem isAlphanum_toLower (c : Char) : c.toLower.isAlphanum = c.isAlphanum := by
  by_cases hupper : c.isUpper = true
  · simp [Char.isAlphanum, Char.isAlpha, hupper]
  · rw [Char.toLower_eq_of_not_isUpper hupper]

end Text

namespace Naming

open Text

/-! ## Words and their spellings -/

/-- A word of ASCII letters and digits. -/
structure AsciiWord (word : List Char) : Prop where
  ne_nil : word ≠ []
  isAlphanum : ∀ c ∈ word, c.isAlphanum = true

/-- A word of ASCII letters and digits with its capitals made small. -/
def folded (word : List Char) : List Char := word.map Char.toLower

/-- Capitals that were made small are small. -/
theorem folded_folded (word : List Char) : folded (folded word) = folded word := by
  simp [folded]

/-- A word of ASCII letters and digits in lower case is the word with its capitals made small. -/
theorem lowerWord_eq_folded {word : List Char} (h : ∀ c ∈ word, c.isAlphanum = true) :
    lowerWord word = folded word := by
  induction word with
  | nil => rfl
  | cons c rest ih =>
    rw [List.forall_mem_cons] at h
    cases rest with
    | nil =>
      have hsigma : c ≠ capitalSigma := by
        rintro rfl
        exact absurd h.1 (by decide)
      rw [lowerWord, if_neg hsigma, lower_of_isAlphanum h.1]
      rfl
    | cons d more =>
      rw [lowerWord, lower_of_isAlphanum h.1, ih h.2]
      · rfl
      · simp

/-- A word of ASCII letters and digits in upper case is the word with each letter made a capital. -/
theorem upperWord_eq_map {word : List Char} (h : ∀ c ∈ word, c.isAlphanum = true) :
    upperWord word = word.map Char.toUpper := by
  induction word with
  | nil => rfl
  | cons c rest ih =>
    rw [List.forall_mem_cons] at h
    rw [upperWord, List.flatMap_cons, upper_of_isAlphanum h.1, ← upperWord, ih h.2]
    rfl

/-- A capitalised word of ASCII letters and digits has its first letter as a capital and no other
capitals. -/
theorem capitalWord_cons {c : Char} {rest : List Char}
    (h : ∀ d ∈ c :: rest, d.isAlphanum = true) :
    capitalWord (c :: rest) = c.toUpper :: folded rest := by
  rw [List.forall_mem_cons] at h
  rw [capitalWord, upper_of_isAlphanum h.1, lowerWord_eq_folded h.2]
  rfl

/-- What a spelling keeps of a word: its letters, case apart. -/
theorem AsciiWord.of_folded_eq {word spelled : List Char} (h : AsciiWord word)
    (heq : folded spelled = folded word) : AsciiWord spelled where
  ne_nil := by
    rintro rfl
    exact h.ne_nil (List.map_eq_nil_iff.mp heq.symm)
  isAlphanum c hc := by
    have hmem : c.toLower ∈ folded word := heq ▸ List.mem_map_of_mem hc
    obtain ⟨d, hd, hlower⟩ := List.mem_map.mp hmem
    rw [← isAlphanum_toLower, ← hlower, isAlphanum_toLower]
    exact h.isAlphanum d hd

namespace AsciiWord

variable {word : List Char}

/-- Lower case changes nothing but the case of letters. -/
theorem folded_lowerWord (h : AsciiWord word) : folded (lowerWord word) = folded word := by
  rw [lowerWord_eq_folded h.isAlphanum, folded_folded]

/-- Upper case changes nothing but the case of letters. -/
theorem folded_upperWord (h : AsciiWord word) : folded (upperWord word) = folded word := by
  simp [upperWord_eq_map h.isAlphanum, folded]

/-- A capital at the beginning changes nothing but the case of letters. -/
theorem folded_capitalWord (h : AsciiWord word) : folded (capitalWord word) = folded word := by
  cases word with
  | nil => rfl
  | cons c rest => simp [capitalWord_cons h.isAlphanum, folded]

/-! What becomes of a word does not depend on the case of its letters. -/

/-- Lower case does not depend on the case that the letters had. -/
theorem lowerWord_folded (h : AsciiWord word) : lowerWord (folded word) = lowerWord word := by
  have hfolded := h.of_folded_eq (folded_folded word)
  rw [lowerWord_eq_folded h.isAlphanum, lowerWord_eq_folded hfolded.isAlphanum, folded_folded]

/-- Upper case does not depend on the case that the letters had. -/
theorem upperWord_folded (h : AsciiWord word) : upperWord (folded word) = upperWord word := by
  have hfolded := h.of_folded_eq (folded_folded word)
  rw [upperWord_eq_map h.isAlphanum, upperWord_eq_map hfolded.isAlphanum]
  simp [folded]

/-- A capitalised word does not depend on the case that its letters had. -/
theorem capitalWord_folded (h : AsciiWord word) :
    capitalWord (folded word) = capitalWord word := by
  have hfolded := h.of_folded_eq (folded_folded word)
  cases word with
  | nil => rfl
  | cons c rest =>
    rw [capitalWord_cons h.isAlphanum]
    rw [folded, List.map_cons] at hfolded ⊢
    rw [capitalWord_cons hfolded.isAlphanum, Char.toUpper_toLower_eq_toUpper]
    exact congrArg _ (folded_folded rest)

end AsciiWord

/-! ## Names with the same words -/

/-- A style joins words in the same way whatever the case of their letters. -/
theorem join_map_folded (style : NamingStyle) {names : List (List Char)}
    (h : ∀ word ∈ names, AsciiWord word) : style.join (names.map folded) = style.join names := by
  have hlower : (names.map folded).map lowerWord = names.map lowerWord := by
    simpa using fun word hword => (h word hword).lowerWord_folded
  have hupper : (names.map folded).map upperWord = names.map upperWord := by
    simpa using fun word hword => (h word hword).upperWord_folded
  have hcapital (behind : List (List Char)) (hbehind : ∀ word ∈ behind, AsciiWord word) :
      (behind.map folded).flatMap capitalWord = behind.flatMap capitalWord := by
    rw [List.flatMap_map]
    exact List.flatMap_congr fun word hword => (hbehind word hword).capitalWord_folded
  cases style with
  | camel =>
    cases names with
    | nil => rfl
    | cons first rest =>
      rw [List.forall_mem_cons] at h
      rw [List.map_cons, NamingStyle.join, NamingStyle.join, h.1.lowerWord_folded,
        hcapital rest h.2]
  | kebab => rw [NamingStyle.join, NamingStyle.join, hlower]
  | pascal => exact hcapital names h
  | screamingSnake => rw [NamingStyle.join, NamingStyle.join, hupper]
  | snake => rw [NamingStyle.join, NamingStyle.join, hlower]

/-- Two names have the same words of ASCII letters and digits, letter case apart. -/
structure SameWords (name other : String) : Prop where
  ascii : ∀ word ∈ words name.toList, AsciiWord word
  folded_eq : (words name.toList).map folded = (words other.toList).map folded

namespace SameWords

variable {name other : String}

/-- The words of the second name, too, are of ASCII letters and digits. -/
theorem ascii_right (h : SameWords name other) : ∀ word ∈ words other.toList, AsciiWord word := by
  intro word hword
  have hmem : folded word ∈ (words name.toList).map folded :=
    h.folded_eq ▸ List.mem_map_of_mem hword
  obtain ⟨same, hsame, heq⟩ := List.mem_map.mp hmem
  exact (h.ascii same hsame).of_folded_eq heq.symm

/-- To have the same words is symmetric. -/
theorem symm (h : SameWords name other) : SameWords other name := ⟨h.ascii_right, h.folded_eq.symm⟩

/-- Every style makes the same of two names with the same words. -/
theorem convert_eq (h : SameWords name other) (style : NamingStyle) :
    style.convert name = style.convert other := by
  rw [NamingStyle.convert, NamingStyle.convert, ← join_map_folded style h.ascii, h.folded_eq,
    join_map_folded style h.ascii_right]

end SameWords

/-! ## The scan -/

/-- The words of an ASCII name, and the beginning of a word in front of it, consist of ASCII
letters and digits. -/
theorem asciiWord_of_mem_wordsFrom {run : Run} {front cs : List Char}
    (hfront : ∀ c ∈ front, c.isAlphanum = true) (hrun : run = .upper → front ≠ [])
    (hcs : ∀ c ∈ cs, isAscii c = true) :
    ∀ word ∈ wordsFrom run front cs, AsciiWord word := by
  -- The characters met so far are letters and digits of ASCII, and so is the one at hand.
  have hword {front : List Char} (hne : front ≠ []) (h : ∀ c ∈ front, c.isAlphanum = true) :
      AsciiWord front.reverse := ⟨by simpa using hne, by simpa using h⟩
  have hchar {c : Char} (hc : isAlphanumeric c = true) (hascii : isAscii c = true) :
      c.isAlphanum = true := by
    rwa [isAlphanumeric, if_pos hascii] at hc
  have hgrow {front : List Char} {c : Char} (h : ∀ d ∈ front, d.isAlphanum = true)
      (hc : c.isAlphanum = true) : ∀ d ∈ c :: front, d.isAlphanum = true :=
    List.forall_mem_cons.mpr ⟨hc, h⟩
  fun_induction wordsFrom run front cs with
  | case1 run front hempty => simp
  | case2 run front hempty => simpa using hword (by simpa using hempty) hfront
  | case3 run front c hc next tail after hcut ih =>
    rw [List.forall_mem_cons] at hcs
    have hgrown := hgrow hfront (hchar hc hcs.1)
    refine List.forall_mem_cons.mpr ⟨hword (by simp) hgrown, ?_⟩
    exact ih (by simp) (fun h => Run.noConfusion h) hcs.2
  | case4 run front c hc next tail after hbehind hinFront ih =>
    rw [List.forall_mem_cons] at hcs
    refine List.forall_mem_cons.mpr ⟨hword (hrun hinFront.1) hfront, ?_⟩
    exact ih (by simpa using hchar hc hcs.1) (fun h => Run.noConfusion h) hcs.2
  | case5 run front c hc next tail after hbehind hinFront ih =>
    rw [List.forall_mem_cons] at hcs
    have hgrown := hgrow hfront (hchar hc hcs.1)
    exact ih hgrown (by simp) hcs.2
  | case6 run front c hc ih =>
    rw [List.forall_mem_cons] at hcs
    have hgrown := hgrow hfront (hchar hc hcs.1)
    exact ih hgrown (by simp) hcs.2
  | case7 run front c rest hc hempty ih =>
    rw [List.forall_mem_cons] at hcs
    exact ih (by simp) (fun h => Run.noConfusion h) hcs.2
  | case8 run front c rest hc hempty ih =>
    rw [List.forall_mem_cons] at hcs
    refine List.forall_mem_cons.mpr ⟨hword (by simpa using hempty) hfront, ?_⟩
    exact ih (by simp) (fun h => Run.noConfusion h) hcs.2

/-- The words of an ASCII name consist of ASCII letters and digits. -/
theorem asciiWord_of_mem_words {cs : List Char} (h : ∀ c ∈ cs, isAscii c = true) :
    ∀ word ∈ words cs, AsciiWord word :=
  asciiWord_of_mem_wordsFrom (by simp) (fun h => Run.noConfusion h) h

/-- A letter or digit behind which no word ends, and in front of which none does, is put to the
word at hand. -/
theorem wordsFrom_cons {run : Run} {front rest : List Char} {c : Char}
    (hc : isAlphanumeric c = true)
    (hkeep : ∀ next ∈ rest.head?, ¬ (run.next c = .lower ∧ isUpper next = true) ∧
      ¬ (run = .upper ∧ isUpper c = true ∧ isLower next = true)) :
    wordsFrom run front (c :: rest) = wordsFrom (run.next c) (c :: front) rest := by
  cases rest with
  | nil => simp [wordsFrom, hc]
  | cons next tail =>
    obtain ⟨hbehind, hinFront⟩ := hkeep next rfl
    simp only [wordsFrom, hc, if_true, hbehind, hinFront, if_false]

/-- What holds of all characters of a part, and of the first one behind it, holds of the first
character of both together. -/
theorem forall_head?_append {p : Char → Prop} {cs rest : List Char} (hcs : ∀ c ∈ cs, p c)
    (hrest : ∀ next ∈ rest.head?, p next) : ∀ next ∈ (cs ++ rest).head?, p next := by
  cases cs with
  | nil => exact hrest
  | cons c more => simpa using hcs c List.mem_cons_self

/-- Characters without capitals among them are put to the word at hand, one after the other. -/
theorem wordsFrom_append_of_no_upper {run : Run} {front cs rest : List Char}
    (hcs : ∀ c ∈ cs, isAlphanumeric c = true ∧ isUpper c = false)
    (hrest : ∀ next ∈ rest.head?, isUpper next = false) :
    wordsFrom run front (cs ++ rest) =
      wordsFrom (cs.foldl Run.next run) (cs.reverse ++ front) rest := by
  induction cs generalizing run front with
  | nil => rfl
  | cons c more ih =>
    rw [List.forall_mem_cons] at hcs
    rw [List.cons_append, wordsFrom_cons hcs.1.1, ih hcs.2]
    · simp
    · intro next hnext
      have hsmall : isUpper next = false :=
        forall_head?_append (fun d hd => (hcs.2 d hd).2) hrest next hnext
      simp [hsmall, hcs.1.2]

/-- Characters without small letters among them are put to the word at hand, one after the other,
if no small letter was met before. -/
theorem wordsFrom_append_of_no_lower {run : Run} {front cs rest : List Char}
    (hcs : ∀ c ∈ cs, isAlphanumeric c = true ∧ isLower c = false) (hrun : run ≠ .lower)
    (hrest : ∀ next ∈ rest.head?, isLower next = false) :
    wordsFrom run front (cs ++ rest) =
      wordsFrom (cs.foldl Run.next run) (cs.reverse ++ front) rest := by
  induction cs generalizing run front with
  | nil => rfl
  | cons c more ih =>
    rw [List.forall_mem_cons] at hcs
    have hnextRun : run.next c ≠ .lower := by
      rw [Run.next, hcs.1.2, if_neg Bool.false_ne_true]
      split
      · exact Run.noConfusion
      · exact hrun
    rw [List.cons_append, wordsFrom_cons hcs.1.1, ih hcs.2 hnextRun]
    · simp
    · intro next hnext
      have hlarge : isLower next = false :=
        forall_head?_append (fun d hd => (hcs.2 d hd).2) hrest next hnext
      simp [hlarge, hnextRun]

/-- The end of a name, or a separator, ends the word at hand. -/
theorem wordsFrom_of_end {run : Run} {front rest : List Char} (hfront : front ≠ [])
    (hrest : ∀ next ∈ rest.head?, isAlphanumeric next = false) :
    wordsFrom run front rest = front.reverse :: wordsFrom .none [] rest := by
  cases rest with
  | nil => simp [wordsFrom, hfront]
  | cons next tail =>
    have hnext := hrest next rfl
    simp [wordsFrom, hnext, hfront]

/-! ## Words behind one another -/

/-- A word without capitals, or without small letters. -/
def OneCase (word : List Char) : Prop :=
  (∀ c ∈ word, c.isUpper = false) ∨ ∀ c ∈ word, c.isLower = false

/-- The character is of ASCII and separates words. -/
structure IsSeparator (c : Char) : Prop where
  isAscii : isAscii c = true
  isAlphanum : c.isAlphanum = false

/-- A separator belongs to no word. -/
theorem IsSeparator.isAlphanumeric {c : Char} (h : IsSeparator c) : isAlphanumeric c = false := by
  rw [Text.isAlphanumeric, h.isAscii, if_pos rfl, h.isAlphanum]

/-- A separator is neither a capital nor a small letter. -/
theorem IsSeparator.caseless {c : Char} (h : IsSeparator c) :
    isUpper c = false ∧ isLower c = false := by
  have hc := h.isAlphanum
  simp only [Char.isAlphanum, Char.isAlpha, Bool.or_eq_false_iff] at hc
  rw [isUpper, isLower, h.isAscii, if_pos rfl, if_pos rfl]
  exact hc.1

/-- A word of one case ends in front of a separator and at the end of the name. -/
theorem wordsFrom_append_separator {word rest : List Char} (h : AsciiWord word)
    (hcase : OneCase word) (hrest : ∀ next ∈ rest.head?, IsSeparator next) :
    wordsFrom .none [] (word ++ rest) = word :: wordsFrom .none [] rest := by
  have hscan : wordsFrom .none [] (word ++ rest) =
      wordsFrom (word.foldl Run.next .none) word.reverse rest := by
    rw [← List.append_nil word.reverse]
    rcases hcase with hsmall | hlarge
    · refine wordsFrom_append_of_no_upper (fun c hc => ?_) fun next hnext =>
        (hrest next hnext).caseless.1
      have halphanum := h.isAlphanum c hc
      exact ⟨isAlphanumeric_of_isAlphanum halphanum,
        (isUpper_of_isAlphanum halphanum).trans (hsmall c hc)⟩
    · refine wordsFrom_append_of_no_lower (fun c hc => ?_) (fun h => Run.noConfusion h)
        fun next hnext => (hrest next hnext).caseless.2
      have halphanum := h.isAlphanum c hc
      exact ⟨isAlphanumeric_of_isAlphanum halphanum,
        (isLower_of_isAlphanum halphanum).trans (hlarge c hc)⟩
  rw [hscan, wordsFrom_of_end (by simpa using h.ne_nil) fun next hnext =>
    (hrest next hnext).isAlphanumeric, List.reverse_reverse]

/-- Words of one case with a separator between them are found again. -/
theorem words_intercalate {separator : Char} (hseparator : IsSeparator separator)
    {names : List (List Char)} (h : ∀ word ∈ names, AsciiWord word ∧ OneCase word) :
    words ([separator].intercalate names) = names := by
  unfold words
  induction names with
  | nil => rfl
  | cons word rest ih =>
    rw [List.forall_mem_cons] at h
    cases rest with
    | nil =>
      have hscan : wordsFrom .none [] (word ++ []) = word :: wordsFrom .none [] [] :=
        wordsFrom_append_separator h.1.1 h.1.2 (by simp)
      rw [List.append_nil] at hscan
      rw [List.intercalate_singleton, hscan]
      rfl
    | cons next more =>
      have hskip (cs : List Char) :
          wordsFrom .none [] (separator :: cs) = wordsFrom .none [] cs := by
        cases cs <;> simp [wordsFrom, hseparator.isAlphanumeric]
      rw [List.intercalate_cons_cons, List.append_assoc, List.singleton_append,
        wordsFrom_append_separator h.1.1 h.1.2 (by simpa using hseparator), hskip, ih h.2]

/-- A small letter, and no capital behind it, leaves the scan among small letters. -/
theorem foldl_next_eq_lower {run : Run} {cs : List Char} (hcs : ∀ c ∈ cs, isUpper c = false)
    (h : run = .lower ∨ ∃ c ∈ cs, isLower c = true) : cs.foldl Run.next run = .lower := by
  induction cs generalizing run with
  | nil => simpa using h
  | cons c more ih =>
    rw [List.forall_mem_cons] at hcs
    rw [List.foldl_cons]
    refine ih hcs.2 ?_
    rw [Run.next, hcs.1, if_neg Bool.false_ne_true]
    rcases h with hrun | ⟨d, hd, hlower⟩
    · exact Or.inl (by rw [hrun, ite_self])
    · rcases List.mem_cons.mp hd with rfl | hd
      · exact Or.inl (if_pos hlower)
      · exact Or.inr ⟨d, hd, hlower⟩

/-- Characters without capitals, but with a small letter, end a word in front of a capital and at
the end of the name. -/
theorem wordsFrom_append_capital {run : Run} {front cs rest : List Char}
    (hcs : ∀ c ∈ cs, isAlphanumeric c = true ∧ isUpper c = false)
    (hlower : ∃ c ∈ cs, isLower c = true) (hrest : ∀ next ∈ rest.head?, isUpper next = true) :
    wordsFrom run front (cs ++ rest) = (front.reverse ++ cs) :: wordsFrom .none [] rest := by
  have hrun : cs.foldl Run.next run = .lower :=
    foldl_next_eq_lower (fun c hc => (hcs c hc).2) (Or.inr hlower)
  rcases List.eq_nil_or_concat' cs with rfl | ⟨before, last, rfl⟩
  · obtain ⟨c, hc, -⟩ := hlower
    simp at hc
  · have hlast := hcs last (by simp)
    have hbefore : ∀ c ∈ before, isAlphanumeric c = true ∧ isUpper c = false :=
      fun c hc => hcs c (by simp [hc])
    -- Only the last character has a capital behind it.
    rw [List.foldl_append, List.foldl_cons, List.foldl_nil] at hrun
    rw [List.append_assoc, List.singleton_append,
      wordsFrom_append_of_no_upper hbefore (by simpa using hlast.2)]
    cases rest with
    | nil => simp [wordsFrom, hlast.1]
    | cons next tail =>
      have hnext := hrest next rfl
      rw [wordsFrom, if_pos hlast.1, hrun, hnext, if_pos ⟨rfl, rfl⟩]
      simp

end Naming

end EnumBridge
