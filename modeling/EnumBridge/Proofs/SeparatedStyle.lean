import EnumBridge.Proofs.NameWords

/-!
# Styles that put a separator between words

Three styles put a hyphen or an underscore between the words of a name, and spell all words
alike, in small letters or in capitals.  So they lose the case of letters, but no border between
words: `words_convert` says that what they make of an ASCII name has the same words in the
spelling of the style.

The main statement is `convert_convert_of_separator`: to put a name into such a style first makes
no difference to any style.  It assumes the case library to split and spell names by the rules of
`EnumBridge.Naming.Words`.
-/

set_option autoImplicit false

namespace EnumBridge

open Naming Text

namespace NamingStyle

/-- What a style puts between the words of a name, if anything. -/
def separator? : NamingStyle → Option Char
  | .camel => none
  | .kebab => some '-'
  | .pascal => none
  | .screamingSnake => some '_'
  | .snake => some '_'

/-- How a style that puts a separator between words spells each of them. -/
def spell : NamingStyle → List Char → List Char
  | .screamingSnake => upperWord
  | _ => lowerWord

variable {style : NamingStyle} {separator : Char}

/-- A style with a separator spells each word and puts the separator between them. -/
theorem join_of_separator (h : style.separator? = some separator) (names : List (List Char)) :
    style.join names = [separator].intercalate (names.map style.spell) := by
  cases style <;> cases h <;> rfl

/-- What a style puts between words belongs to none. -/
theorem isSeparator_of_separator (h : style.separator? = some separator) :
    IsSeparator separator := by
  cases style <;> cases h <;> exact ⟨by decide, by decide⟩

/-- A spelling changes nothing but the case of letters. -/
theorem folded_spell (style : NamingStyle) {word : List Char} (h : AsciiWord word) :
    folded (style.spell word) = folded word := by
  cases style with
  | screamingSnake => exact h.folded_upperWord
  | _ => exact h.folded_lowerWord

/-- A spelling leaves no capitals, or no small letters, in a word. -/
theorem oneCase_spell (style : NamingStyle) {word : List Char} (h : AsciiWord word) :
    OneCase (style.spell word) := by
  have hlower : OneCase (lowerWord word) := by
    rw [lowerWord_eq_folded h.isAlphanum]
    exact Or.inl (by simp [folded])
  cases style with
  | screamingSnake =>
    show OneCase (upperWord word)
    rw [upperWord_eq_map h.isAlphanum]
    exact Or.inr (by simp)
  | _ => exact hlower

/-- A style that puts a separator between words keeps the words of a name. -/
theorem words_convert (h : style.separator? = some separator) {name : String}
    (hname : ∀ word ∈ words name.toList, AsciiWord word) :
    words (style.convert name).toList = (words name.toList).map style.spell := by
  rw [convert, String.toList_ofList, join_of_separator h]
  refine words_intercalate (isSeparator_of_separator h) fun word hword => ?_
  obtain ⟨plain, hplain, rfl⟩ := List.mem_map.mp hword
  have hascii := hname plain hplain
  exact ⟨hascii.of_folded_eq (folded_spell style hascii), oneCase_spell style hascii⟩

/-- A style that puts a separator between words makes a name with the same words. -/
theorem sameWords_convert (h : style.separator? = some separator) {name : String}
    (hname : ∀ word ∈ words name.toList, AsciiWord word) :
    SameWords (style.convert name) name := by
  refine SameWords.symm ⟨hname, ?_⟩
  rw [words_convert h hname, List.map_map]
  exact List.map_congr_left fun word hword => (folded_spell style (hname word hword)).symm

/-- **A separator loses no border between words.**  If a style puts a separator between words,
then whatever style an ASCII name is put into, the result is the same as if the name had been put
into that style first. -/
theorem convert_convert_of_separator (h : style.separator?.isSome = true) {name : String}
    (hname : ∀ c ∈ name.toList, isAscii c = true) (other : NamingStyle) :
    other.convert (style.convert name) = other.convert name := by
  obtain ⟨separator, hseparator⟩ := Option.isSome_iff_exists.mp h
  have hwords := asciiWord_of_mem_words hname
  exact (sameWords_convert hseparator hwords).convert_eq other

/-- A name with capitals and digits in its words, and more separators than one between them. -/
def mixedName : String := "-XMLHttp2Ask__v10B"

/-- A name with digits and doubled separators is camel-cased as it would have been without going
through capitals and underscores first. -/
theorem convert_convert_of_separator_mixed :
    NamingStyle.screamingSnake.separator?.isSome = true ∧
      (∀ c ∈ mixedName.toList, isAscii c = true) ∧
      NamingStyle.screamingSnake.convert mixedName = "XML_HTTP2_ASK_V10_B" ∧
      NamingStyle.camel.convert (NamingStyle.screamingSnake.convert mixedName) =
        "xmlHttp2AskV10B" := by
  have hascii : ∀ c ∈ mixedName.toList, isAscii c = true := List.all_eq_true.mp (by decide)
  have hcamel : NamingStyle.camel.convert mixedName = "xmlHttp2AskV10B" := by decide
  refine ⟨rfl, hascii, by decide, ?_⟩
  rw [convert_convert_of_separator rfl hascii, hcamel]

end NamingStyle

end EnumBridge
