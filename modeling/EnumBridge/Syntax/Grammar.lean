import EnumBridge.Syntax.Lexer
import EnumBridge.Syntax.TypeExpr

/-!
# What queries and type systems have in common

A `Reader` takes tokens off the front of a list, or fails.  Every choice is made by the
next token, so a reader never goes back.  Types, constants, arguments and directives are
read here; of the last three nothing is kept, they are only checked.

Whatever nests does so inside brackets, so recursion is over the number of brackets that
may still be opened.
-/

set_option autoImplicit false

namespace EnumBridge.Syntax

/-- Takes tokens off the front of a list, or fails. -/
abbrev Reader (α : Type) := StateT (List Token) Option α

namespace Reader

variable {α : Type}

/-- The next lexeme. -/
def peek? : Reader (Option Lexeme) := do return (← get).head?.map Token.lexeme

/-- Whether the next lexeme satisfies a test. -/
def nextIs (test : Lexeme → Bool) : Reader Bool := do return (← peek?).any test

/-- The position of the next token, which must exist. -/
def position : Reader Position := do
  match (← get).head? with
  | some token => pure token.position
  | none => failure

/-- Takes the next token. -/
def take : Reader Lexeme := do
  match ← get with
  | token :: rest => set rest; pure token.lexeme
  | [] => failure

/-- Takes one particular lexeme. -/
def expect (lexeme : Lexeme) : Reader Unit := do
  if (← take) = lexeme then pure () else failure

/-- Takes one particular punctuation mark. -/
def mark (c : Char) : Reader Unit := expect (.mark c)

/-- Takes one particular name. -/
def keyword (text : String) : Reader Unit := expect (.name text)

/-- Takes a name. -/
def name : Reader String := do
  match ← take with
  | .name text => pure text
  | _ => failure

/-- Whether a particular punctuation mark is next. -/
def markIsNext (c : Char) : Reader Bool := nextIs (· == .mark c)

/-- Whether a particular name is next. -/
def keywordIsNext (text : String) : Reader Bool := nextIs (· == .name text)

/-- Takes a particular punctuation mark if it is next, and says whether it was. -/
def optionalMark (c : Char) : Reader Bool := do
  if ← markIsNext c then mark c; pure true else pure false

/-- Runs a reader if the next lexeme satisfies a test. -/
def optional (test : Lexeme → Bool) (p : Reader α) : Reader (Option α) := do
  if ← nextIs test then some <$> p else pure none

/-- Runs a reader for as long as the next lexeme satisfies a test, `fuel` times at most;
the results so far are held backwards. -/
def manyLoop (test : Lexeme → Bool) (p : Reader α) : Nat → List α → Reader (List α)
  | 0, results => pure results.reverse
  | fuel + 1, results => do
    if ← nextIs test then
      let result ← p
      manyLoop test p fuel (result :: results)
    else pure results.reverse

/-- Runs a reader for as long as the next lexeme satisfies a test.  The reader takes at
least one token each time, so there are no more rounds than tokens. -/
def many (test : Lexeme → Bool) (p : Reader α) : Reader (List α) := do
  if ← nextIs test then manyLoop test p (← get).length [] else pure []

/-- Runs a reader once, and then for as long as the next lexeme satisfies a test. -/
def many1 (test : Lexeme → Bool) (p : Reader α) : Reader (List α) := do
  let first ← p
  let rest ← many test p
  pure (first :: rest)

/-- Runs a reader once, and again behind every separator. -/
def separated (separator : Char) (p : Reader α) : Reader (List α) := do
  let first ← p
  let rest ← many (· == .mark separator) (do mark separator; p)
  pure (first :: rest)

/-- The result of a reader that takes all tokens of a text. -/
def run? (p : Reader α) (text : String) : Option α := do
  let tokens ← tokens? text
  match p tokens with
  | some (result, []) => some result
  | _ => none

end Reader

open Reader

/-- Whether a lexeme is a name. -/
def Lexeme.isName : Lexeme → Bool
  | .name _ => true
  | _ => false

/-- A type; `depth` brackets may still be opened. -/
def typeExpr (depth : Nat) : Reader TypeExpr := do
  let type ←
    if ← markIsNext '[' then
      match depth with
      | 0 => failure
      | depth + 1 => do
        mark '['
        let item ← typeExpr depth
        mark ']'
        pure (.list item)
    else .named <$> name
  if ← optionalMark '!' then pure (.nonNull type) else pure type

/-- Whether a constant can begin with a lexeme, or a value that may hold variables. -/
def startsValue (withVariables : Bool) : Lexeme → Bool
  | .name _ | .int | .float | .string => true
  | .mark c => c == '[' || c == '\x7b' || (withVariables && c == '$')
  | .spread => false

/-- A constant, or a value that may hold variables. -/
def value (withVariables : Bool) (depth : Nat) : Reader Unit := do
  match ← take with
  | .name _ | .int | .float | .string => pure ()
  | .spread => failure
  | .mark c =>
    if withVariables && c == '$' then discard name
    else
      match depth with
      | 0 => failure
      | depth + 1 =>
        if c = '[' then
          discard (many (startsValue withVariables) (value withVariables depth))
          mark ']'
        else if c = '\x7b' then
          discard (many Lexeme.isName (do discard name; mark ':'; value withVariables depth))
          mark '\x7d'
        else failure

/-- A type of any depth. -/
def anyType : Reader TypeExpr := typeExpr maxOpenBrackets

/-- A constant of any depth. -/
def constant : Reader Unit := value false maxOpenBrackets

/-- Arguments, if there are any. -/
def arguments : Reader Unit := do
  if ← optionalMark '(' then
    discard (many1 Lexeme.isName (do
      discard name
      mark ':'
      value true maxOpenBrackets))
    mark ')'

/-- Directives with their arguments; says how many there are. -/
def directives : Reader Nat := do
  let all ← many (· == .mark '@') (do
    mark '@'
    discard name
    arguments)
  pure all.length

end EnumBridge.Syntax
