import TokenTables.Artifact.Options
import TokenTables.Grammar.Keyword
/-!
# C headers

The header defines the number of keywords and lists the names of all tokens and the spellings of the
fixed ones.  Entries are written between quotes as they are: names are capitals, digits and
underscores, and a spelling with a backslash is no lexeme.
-/

namespace TokenTables

/-- What a C header holds. -/
structure CHeader where
  notice : String
  upperStem : String
  lowerStem : String
  keywordCount : Nat
  names : List String
  lexemes : List String
deriving DecidableEq, Repr

namespace CHeader

def ofVocabulary (vocabulary : Vocabulary) (options : Options) : CHeader where
  notice := options.notice
  upperStem := options.upperStem
  lowerStem := options.lowerStem
  keywordCount := vocabulary.keywordCount
  names := vocabulary.names
  lexemes := vocabulary.keywordLexemes

def row (entry : String) : String :=
  "    \"" ++ entry ++ "\",\n"

/-- An array of strings with the given name. -/
def array (name : String) (entries : List String) : String :=
  "static const char *const " ++ name ++ "[] = \x7b\n" ++ String.join (entries.map row) ++ "\x7d;\n"

def render (header : CHeader) : String :=
  header.notice ++ "\n#pragma once\n\n" ++
  "#define " ++ header.upperStem ++ "_TOKEN_KEYWORD_COUNT " ++ toString header.keywordCount ++ "\n" ++
  array (header.lowerStem ++ "_token_names") header.names ++ "\n" ++
  array (header.lowerStem ++ "_keyword_lexemes") header.lexemes

end CHeader

end TokenTables
