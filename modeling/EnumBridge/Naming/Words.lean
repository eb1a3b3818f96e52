import EnumBridge.Text.Alphanumeric
import EnumBridge.Text.LetterCase

/-!
# The words of a name

Names are split and words are spelled by the case library `heck`, version 0.5, to which the
naming styles leave both.  The definitions of this module follow the rules of that library.
They are an assumption: what is proved of naming styles holds as far as the library splits
and spells by these rules.

`words` cuts a name into its words.  Every character that is neither a letter nor a
digit separates words and belongs to none.  Between separators a word ends

* in front of an upper-case letter that follows lower-case ones (`fancy|Cat`), and
* in front of the last of several upper-case letters if a lower-case letter follows it
  (`HTTP|Status`).

Characters without case, digits above all, leave the case that was met last as it is,
so they stay with the word in front of them.

`lowerWord`, `upperWord` and `capitalWord` are the spellings the library has for a word.
-/

set_option autoImplicit false

namespace EnumBridge.Naming

open EnumBridge.Text

/-- The case met last since the beginning of a word, if any. -/
inductive Run
  | none
  | lower
  | upper
  deriving DecidableEq

/-- The run that a character belongs to, after the one in front of it. -/
def Run.next (run : Run) (c : Char) : Run :=
  if isLower c then .lower else if isUpper c then .upper else run

/-- The words of a name whose remaining characters are given, behind the beginning `word` of a
word, which is held backwards.  It is the scan of the case library: `run` is the case met last,
and one character is looked at ahead. -/
def wordsFrom (run : Run) (word : List Char) : List Char → List (List Char)
  | [] => if word.isEmpty then [] else [word.reverse]
  | c :: rest =>
    if isAlphanumeric c then
      match rest with
      | n :: _ =>
        let next := run.next c
        if next = .lower ∧ isUpper n then
          (c :: word).reverse :: wordsFrom .none [] rest
        else if run = .upper ∧ isUpper c ∧ isLower n then
          word.reverse :: wordsFrom .none [c] rest
        else wordsFrom next (c :: word) rest
      | [] => wordsFrom .none (c :: word) rest
    else if word.isEmpty then wordsFrom .none [] rest
    else word.reverse :: wordsFrom .none [] rest

/-- The words of a name, as the case library splits it. -/
def words (name : List Char) : List (List Char) := wordsFrom .none [] name

/-! ## Spelling a word -/

/-- The capital letter sigma. -/
def capitalSigma : Char := Char.ofNat 0x3A3

/-- The small sigma that ends a word. -/
def finalSigma : Char := Char.ofNat 0x3C2

/-- A word in lower case, as the case library spells it.  A capital sigma at its end becomes the
final small sigma. -/
def lowerWord : List Char → List Char
  | [] => []
  | [c] => if c = capitalSigma then [finalSigma] else lower c
  | c :: rest => lower c ++ lowerWord rest

/-- A word in upper case, as the case library spells it. -/
def upperWord (word : List Char) : List Char := word.flatMap upper

/-- A word with its first character in upper case and the rest in lower case, as the case library
spells it. -/
def capitalWord : List Char → List Char
  | [] => []
  | c :: rest => upper c ++ lowerWord rest

end EnumBridge.Naming
