import TokenTables.Artifact.TokenEnum
import TokenTables.Grammar.Keyword
/-!
# Tokens of Nova

The grammar of the language Nova, the tables that it has, and its tokens as an enumeration.
-/

namespace TokenTables.Nova

def grammarText : List String := [
  "grammar Nova;",
  "",
  "program : moduleDecl decl* EOF ;",
  "",
  "// Keywords",
  "MODULE : 'module' ;",
  "IMPORT : 'import' ;",
  "FUN : 'fun' ;",
  "LET : 'let' ;",
  "IF : 'if' ;",
  "ELSE : 'else' ;",
  "TRUE : 'true' ;",
  "FALSE : 'false' ;",
  "",
  "// Operators",
  "ARROW : '->' ;",
  "PIPE : '|>' ;",
  "LPAREN : '(' ;",
  "RPAREN : ')' ;",
  "LBRACE : '\x7b' ;",
  "RBRACE : '\x7d' ;",
  "COMMA : ',' ;",
  "EQUAL : '=' ;",
  "PLUS : '+' ;",
  "",
  "// Literals",
  "NUMBER : [0-9]+ ('.' [0-9]+)? ;",
  "STRING : '\"' (~[\"\\\\] | '\\\\' .)* '\"' ;",
  "ID : [a-zA-Z_][a-zA-Z0-9_]* ;",
  "KW_ASYNC : 'async' ;",
  "",
  "fragment Digit : [0-9] ;",
  "COMMENT : '//' ~[\\r\\n]* -> skip ;",
  "WS : [ \\t\\r\\n]+ -> skip ;"]

/-- The grammar, each line ended by a line feed. -/
def grammar : String :=
  String.join (grammarText.map (· ++ "\n"))

def vocabulary : Vocabulary :=
  .ofGrammar grammar

def tokenEnum : TokenEnum :=
  .ofNames vocabulary.names

structure NumberedToken where
  id : Nat
  token : EnumToken
deriving DecidableEq, Repr

def fromId? (id : Nat) : Option NumberedToken :=
  (tokenEnum.token? id).map (⟨id, ·⟩)

def fromName? (name : String) : Option NumberedToken :=
  (tokenEnum.idOfName? name).bind fromId?

end TokenTables.Nova
