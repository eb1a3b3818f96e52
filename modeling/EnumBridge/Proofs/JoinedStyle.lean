import EnumBridge.Proofs.SeparatedStyle
import EnumBridge.Rule.Settings

/-!
# Styles that join words

Two styles put words directly behind one another and mark where a word begins by a capital only.
That is enough to find words again which begin with a letter and have another letter behind it
(`PlainWord`): the scan of such a word has met a small letter when it comes to the next capital.
A word with digits alone behind its first letter may run into the next one.

The main statement is `convert_convert_of_plainWords`.  A name that a style has made of plain
words is read by every style as the words themselves, and so it comes back unchanged from a server
that writes its enum values in any style.  That a plain word is found again is a property of the
splitting rules of `EnumBridge.Naming.Words`, which the case library is assumed to follow.
-/

set_option autoImplicit false

namespace EnumBridge

open Naming Text

namespace Naming

/-- A word of small ASCII letters and digits that begins with a letter and has another letter
behind it. -/
inductive PlainWord : List Char → Prop
  | mk {first : Char} {rest : List Char} (hfirst : first.isLower = true)
      (hrest : ∀ c ∈ rest, c.isLower = true ∨ c.isDigit = true)
      (hletter : ∃ c ∈ rest, c.isLower = true) : PlainWord (first :: rest)

/-- A digit is no capital. -/
theorem isUpper_of_isDigit {c : Char} (h : c.isDigit = true) : c.isUpper = false := by
  simp only [Char.isDigit, UInt32.le_iff_toNat_le, ge_iff_le, Bool.and_eq_true,
    decide_eq_true_eq] at h
  simp only [Char.isUpper, UInt32.le_iff_toNat_le, ge_iff_le, decide_eq_false_iff_not]
  have h1 : '9'.val.toNat = 57 := rfl
  have h2 : 'A'.val.toNat = 65 := rfl
  omega

namespace PlainWord

variable {word : List Char}

/-- The characters of a plain word are letters and digits, and no capitals. -/
theorem small (h : PlainWord word) : ∀ c ∈ word, c.isAlphanum = true ∧ c.isUpper = false := by
  have hlower {c : Char} (hc : c.isLower = true) : c.isAlphanum = true ∧ c.isUpper = false :=
    ⟨by simp [Char.isAlphanum, Char.isAlpha, hc], by simpa using Char.not_isUpper_of_isLower hc⟩
  obtain ⟨hfirst, hrest, -⟩ := h
  refine List.forall_mem_cons.mpr ⟨hlower hfirst, fun c hc => ?_⟩
  rcases hrest c hc with hc | hc
  · exact hlower hc
  · exact ⟨by simp [Char.isAlphanum, hc], isUpper_of_isDigit hc⟩

/-- A plain word is a word of ASCII letters and digits. -/
theorem asciiWord (h : PlainWord word) : AsciiWord word where
  ne_nil := by
    cases h
    exact List.cons_ne_nil _ _
  isAlphanum c hc := (h.small c hc).1

/-- A plain word has no capitals. -/
theorem oneCase (h : PlainWord word) : OneCase word := Or.inl fun c hc => (h.small c hc).2

/-- A plain word has no capitals to be made small. -/
theorem folded_eq (h : PlainWord word) : folded word = word := by
  have hkeep : ∀ c ∈ word, c.toLower = id c := fun c hc =>
    Char.toLower_eq_of_not_isUpper (by simp [(h.small c hc).2])
  rw [folded, List.map_congr_left hkeep, List.map_id]

/-- A plain word is in lower case already. -/
theorem lowerWord_eq (h : PlainWord word) : lowerWord word = word := by
  rw [lowerWord_eq_folded h.asciiWord.isAlphanum, h.folded_eq]

/-- The scan sees no capitals in a plain word. -/
theorem isUpper_eq_false (h : PlainWord word) :
    ∀ c ∈ word, isAlphanumeric c = true ∧ isUpper c = false := fun c hc =>
  have hc := h.small c hc
  ⟨isAlphanumeric_of_isAlphanum hc.1, (isUpper_of_isAlphanum hc.1).trans hc.2⟩

/-- A capitalised plain word has a capital in front, and behind it small letters and digits, not
digits alone. -/
theorem capitalWord_eq (h : PlainWord word) :
    ∃ capital rest, capitalWord word = capital :: rest ∧
      (isAlphanumeric capital = true ∧ isUpper capital = true ∧ isLower capital = false) ∧
      (∀ c ∈ rest, isAlphanumeric c = true ∧ isUpper c = false) ∧
      ∃ c ∈ rest, isLower c = true := by
  have hascii := h.asciiWord
  have hsmall := h.isUpper_eq_false
  have hfolded := h.folded_eq
  have hcapital := hascii.of_folded_eq hascii.folded_capitalWord
  obtain @⟨first, rest, hfirst, -, c, hc, hlower⟩ := h
  rw [List.forall_mem_cons] at hsmall
  rw [folded, List.map_cons, List.cons.injEq] at hfolded
  rw [capitalWord_cons hascii.isAlphanum, folded, hfolded.2] at hcapital ⊢
  have halphanum := hcapital.isAlphanum first.toUpper List.mem_cons_self
  refine ⟨_, _, rfl, ⟨isAlphanumeric_of_isAlphanum halphanum, ?_, ?_⟩, hsmall.2, c, hc, ?_⟩
  · rw [isUpper_of_isAlphanum halphanum, Char.isUpper_toUpper_eq_isAlpha, Char.isAlpha, hfirst,
      Bool.or_true]
  · rw [isLower_of_isAlphanum halphanum, Char.isLower_toUpper_eq_false]
  · rw [isLower_of_isAlphanum (hascii.isAlphanum c (List.mem_cons_of_mem _ hc)), hlower]

/-- A plain word has a small letter. -/
theorem exists_isLower (h : PlainWord word) : ∃ c ∈ word, isLower c = true := by
  have hascii := h.asciiWord
  obtain @⟨first, rest, hfirst, -, -⟩ := h
  refine ⟨first, List.mem_cons_self, ?_⟩
  rw [isLower_of_isAlphanum (hascii.isAlphanum first List.mem_cons_self), hfirst]

end PlainWord

/-! ## Finding joined words -/

/-- Capitalised plain words begin with a capital, if there are any. -/
theorem head_capitalWords {names : List (List Char)} (h : ∀ word ∈ names, PlainWord word) :
    ∀ next ∈ (names.flatMap capitalWord).head?, isUpper next = true := by
  cases names with
  | nil => simp
  | cons word rest =>
    obtain ⟨capital, small, heq, ⟨-, hupper, -⟩, -⟩ := (h word List.mem_cons_self).capitalWord_eq
    simpa [heq] using hupper

/-- Capitalised plain words that stand directly behind one another are found again. -/
theorem words_capitalWords {names : List (List Char)} (h : ∀ word ∈ names, PlainWord word) :
    words (names.flatMap capitalWord) = names.map capitalWord := by
  unfold words
  induction names with
  | nil => rfl
  | cons word rest ih =>
    rw [List.forall_mem_cons] at h
    obtain ⟨capital, small, heq, ⟨halphanumeric, hupper, hlower⟩, hsmall, hletter⟩ :=
      h.1.capitalWord_eq
    rw [List.flatMap_cons, List.map_cons, ← ih h.2, heq, List.cons_append,
      wordsFrom_cons halphanumeric,
      wordsFrom_append_capital hsmall hletter (head_capitalWords h.2)]
    · rfl
    -- Nothing has been met in front of the capital, so no word ends there.
    · intro next hnext
      simp [Run.next, hlower, hupper]

/-- The words of a name that a style has joined from plain words are these, letter case apart. -/
theorem folded_words_join {style : NamingStyle} (hstyle : style.separator? = none)
    {names : List (List Char)} (h : ∀ word ∈ names, PlainWord word) :
    (words (style.join names)).map folded = names := by
  have hcapitals (behind : List (List Char)) (hbehind : ∀ word ∈ behind, PlainWord word) :
      (behind.map capitalWord).map folded = behind := by
    have hword : ∀ word ∈ behind, (folded ∘ capitalWord) word = id word := fun word hword =>
      (hbehind word hword).asciiWord.folded_capitalWord.trans (hbehind word hword).folded_eq
    rw [List.map_map, List.map_congr_left hword, List.map_id]
  cases style with
  | camel =>
    cases names with
    | nil => rfl
    | cons first rest =>
      rw [List.forall_mem_cons] at h
      have hscan : words (first ++ rest.flatMap capitalWord) =
          first :: words (rest.flatMap capitalWord) :=
        wordsFrom_append_capital h.1.isUpper_eq_false h.1.exists_isLower (head_capitalWords h.2)
      rw [NamingStyle.join, h.1.lowerWord_eq, hscan, words_capitalWords h.2, List.map_cons,
        h.1.folded_eq, hcapitals rest h.2]
  | pascal => rw [NamingStyle.join, words_capitalWords h, hcapitals names h]
  | kebab => cases hstyle
  | screamingSnake => cases hstyle
  | snake => cases hstyle

/-- Plain words with an underscore between them. -/
def underscored (names : List (List Char)) : String := String.ofList (['_'].intercalate names)

/-- Plain words with an underscore between them are found again. -/
theorem words_underscored {names : List (List Char)} (h : ∀ word ∈ names, PlainWord word) :
    words (underscored names).toList = names := by
  rw [underscored, String.toList_ofList]
  exact words_intercalate ⟨by decide, by decide⟩ fun word hword =>
    ⟨(h word hword).asciiWord, (h word hword).oneCase⟩

/-- Every style keeps plain words. -/
theorem sameWords_convert_underscored (style : NamingStyle) {names : List (List Char)}
    (h : ∀ word ∈ names, PlainWord word) :
    SameWords (style.convert (underscored names)) (underscored names) := by
  have hwords := words_underscored h
  have hascii : ∀ word ∈ words (underscored names).toList, AsciiWord word := by
    rw [hwords]
    exact fun word hword => (h word hword).asciiWord
  cases hseparator : style.separator? with
  | some separator => exact NamingStyle.sameWords_convert hseparator hascii
  | none =>
    have hfolded : names.map folded = names := by
      have hword : ∀ word ∈ names, folded word = id word := fun word hword =>
        (h word hword).folded_eq
      rw [List.map_congr_left hword, List.map_id]
    refine SameWords.symm ⟨hascii, ?_⟩
    rw [NamingStyle.convert, String.toList_ofList, hwords, folded_words_join hseparator h,
      hfolded]

end Naming

namespace Rulebook

/-- The values of an enum are converted by naming styles: the client and the server each have
one for it, and there is neither a function nor a table. -/
structure UsesStyles (rules : Rulebook) (enumName : String) (client server : NamingStyle) :
    Prop where
  noFunction : ∀ direction, (rules.functions direction).lookup enumName = none
  noTable : rules.valueTables.lookup enumName = none
  client : rules.styles.target? enumName .toClient = some client
  server : rules.styles.target? enumName .toServer = some server

variable {rules : Rulebook} {enumName : String} {client server : NamingStyle}

/-- A name that travels in a direction is put into the style of the side it goes to. -/
theorem UsesStyles.convert_string (h : rules.UsesStyles enumName client server)
    {direction : Direction} {style : NamingStyle}
    (htarget : rules.styles.target? enumName direction = some style) (name : String) :
    rules.convert enumName direction (.string name) = .ok (.string (style.convert name)) := by
  have hrule : rules.rule enumName direction = .style style := by
    simp [rule, function?, table?, style?, h.noFunction, h.noTable, htarget]
  rw [convert, hrule]
  rfl

end Rulebook

/-- **Plain words are found again.**  Whatever style plain words are put into, one that joins them
directly included, every style reads the result as it reads the words with underscores between
them.  So a value in the style of the client comes back from the server unchanged, whatever the
style of the server is. -/
theorem convert_convert_of_plainWords {names : List (List Char)}
    (h : ∀ word ∈ names, PlainWord word) (style other : NamingStyle) :
    other.convert (style.convert (underscored names)) = other.convert (underscored names) ∧
    ∀ (rules : Rulebook) (enumName : String), rules.UsesStyles enumName style other →
      ∃ sent,
        rules.convert enumName .toServer (.string (style.convert (underscored names))) =
          .ok sent ∧
        rules.convert enumName .toClient sent =
          .ok (.string (style.convert (underscored names))) := by
  have hread : other.convert (style.convert (underscored names)) =
      other.convert (underscored names) :=
    (sameWords_convert_underscored style h).convert_eq other
  have hback : style.convert (other.convert (underscored names)) =
      style.convert (underscored names) :=
    (sameWords_convert_underscored other h).convert_eq style
  refine ⟨hread, fun rules enumName hrules => ?_⟩
  refine ⟨.string (other.convert (underscored names)), ?_, ?_⟩
  · rw [hrules.convert_string hrules.server, hread]
  · rw [hrules.convert_string hrules.client, hback]

/-- Two words, the first with a digit between its letters. -/
def catWords : List (List Char) := [['v', '2', 'x'], ['c', 'a', 't']]

/-- Rules for a client that joins words and a server that does not. -/
def catRules : Rulebook := .ofSettings [.styles ⟨some .pascal, [], some .screamingSnake, []⟩]

/-- Both words are plain, the one with a digit included. -/
theorem catWords_plain : ∀ word ∈ catWords, PlainWord word := by
  intro word hword
  simp only [catWords, List.mem_cons, List.not_mem_nil, or_false] at hword
  rcases hword with rfl | rfl
  · exact .mk rfl (by simp) ⟨'x', by simp, rfl⟩
  · exact .mk rfl (by simp) ⟨'t', by simp, rfl⟩

/-- Two plain words in Pascal case travel as capitals with an underscore, and come back in Pascal
case. -/
theorem convert_convert_of_plainWords_cat :
    (∀ word ∈ catWords, PlainWord word) ∧ catRules.UsesStyles "Cat" .pascal .screamingSnake ∧
      NamingStyle.pascal.convert (underscored catWords) = "V2xCat" ∧
      NamingStyle.screamingSnake.convert "V2xCat" = "V2X_CAT" ∧
      ∃ sent, catRules.convert "Cat" .toServer (.string "V2xCat") = .ok sent ∧
        catRules.convert "Cat" .toClient sent = .ok (.string "V2xCat") := by
  have hrules : catRules.UsesStyles "Cat" .pascal .screamingSnake :=
    ⟨fun direction => by cases direction <;> rfl, rfl, rfl, rfl⟩
  have hpascal : NamingStyle.pascal.convert (underscored catWords) = "V2xCat" := by decide
  have hscreaming : NamingStyle.screamingSnake.convert (underscored catWords) = "V2X_CAT" := by
    decide
  obtain ⟨hread, hback⟩ := convert_convert_of_plainWords catWords_plain .pascal .screamingSnake
  rw [hpascal] at hread hback
  exact ⟨catWords_plain, hrules, hpascal, hread.trans hscreaming, hback catRules "Cat" hrules⟩

end EnumBridge
