import TokenTables.Grammar.Vocabulary
/-!
# Keywords

A token counts as a keyword by its name, and its spelling goes into the table of lexemes by its
value.  The two filters are independent: neither of count and table determines the other.
-/

namespace TokenTables

open Text

/-- Names of tokens with a variable lexeme, which are never keywords. -/
def structuralNames : List String :=
  ["NUMBER", "STRING", "ID", "COMMENT", "WS"]

def isStructural (name : String) : Bool :=
  structuralNames.contains name

/-- A keyword's name: capitals of ASCII only, and not structural. -/
def isKeywordName (name : String) : Bool :=
  !name.toList.isEmpty && name.toList.all Char.isUpper && !isStructural name

/-- Characters that make a value a pattern instead of a fixed spelling. -/
def patternChars : List Char :=
  ['[', ']', '(', ')', '{', '}', '+', '*', '?', '\\']

/-- The text without the single quotes at either end. -/
def stripQuotes (text : List Char) : List Char :=
  let isQuote := (· == '\'')
  ((text.dropWhile isQuote).reverse.dropWhile isQuote).reverse

/-- The spelling that a value fixes: it begins with a single quote, and between its quotes is some
text with no character of a pattern. -/
def literal? (value : List Char) : Option (List Char) :=
  if value.head? == some '\'' then
    let text := stripQuotes (trimEnd value)
    if text.isEmpty || text.any patternChars.contains then none else some text
  else none

def TokenRule.keywordLexeme? (rule : TokenRule) : Option String :=
  if isStructural rule.name then none else (literal? rule.value.toList).map String.ofList

namespace Vocabulary

def keywordCount (vocabulary : Vocabulary) : Nat :=
  vocabulary.names.countP isKeywordName

def keywordLexemes (vocabulary : Vocabulary) : List String :=
  vocabulary.rules.filterMap TokenRule.keywordLexeme?

theorem keywordLexemes_append (s t : Vocabulary) :
    (s ++ t).keywordLexemes = s.keywordLexemes ++ t.keywordLexemes := by
  simp [keywordLexemes]

end Vocabulary

end TokenTables
