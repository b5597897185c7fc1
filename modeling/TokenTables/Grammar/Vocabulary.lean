import TokenTables.Grammar.TokenRule
import TokenTables.Text.Line
import TokenTables.Log
/-!
# Vocabularies

The vocabulary of a grammar is its token rules in the order of their declaration.  The place of a
rule is the token's number.  A grammar is read line by line; lines that are no token rule are passed
over and counted.
-/

namespace TokenTables

open Text

/-- Token rules in order, with the number of lines passed over on the way to them. -/
structure Vocabulary where
  rules : List TokenRule := []
  /-- Lines which are neither blank nor a comment nor a token rule. -/
  skipped : Nat := 0
deriving DecidableEq, Repr

namespace Vocabulary

def empty : Vocabulary := {}

def size (vocabulary : Vocabulary) : Nat := vocabulary.rules.length

def isEmpty (vocabulary : Vocabulary) : Bool := vocabulary.rules.isEmpty

def names (vocabulary : Vocabulary) : List String := vocabulary.rules.map (·.name)

/-- The rules of both, those of `more` last, and the lines passed over in both. -/
def append (vocabulary more : Vocabulary) : Vocabulary :=
  ⟨vocabulary.rules ++ more.rules, vocabulary.skipped + more.skipped⟩

instance : Append Vocabulary := ⟨append⟩

def push (vocabulary : Vocabulary) (rule : TokenRule) : Vocabulary :=
  { vocabulary with rules := vocabulary.rules ++ [rule] }

def modify (vocabulary : Vocabulary) (index : Nat) (change : TokenRule → TokenRule) : Vocabulary :=
  { vocabulary with rules := vocabulary.rules.modify index change }

def erase (vocabulary : Vocabulary) (index : Nat) : Vocabulary :=
  { vocabulary with rules := vocabulary.rules.eraseIdx index }

def reverse (vocabulary : Vocabulary) : Vocabulary :=
  { vocabulary with rules := vocabulary.rules.reverse }

@[simp] theorem rules_append (s t : Vocabulary) : (s ++ t).rules = s.rules ++ t.rules := rfl

@[simp] theorem names_append (s t : Vocabulary) : (s ++ t).names = s.names ++ t.names := by
  simp [names]

@[simp] theorem length_names (vocabulary : Vocabulary) :
    vocabulary.names.length = vocabulary.size := by
  simp [names, size]

end Vocabulary

/-! ## Lines of a grammar -/

/-- What a line of a grammar is. -/
inductive GrammarLine
  /-- Blank, or a comment. -/
  | idle
  | rule (rule : TokenRule)
  | unknown (text : String)
deriving DecidableEq, Repr

namespace GrammarLine

/-- Begins with the two slashes of a comment. -/
def isComment (text : List Char) : Bool :=
  ['/', '/'].isPrefixOf text

/-- What a line is does not depend on the blanks at its ends. -/
def ofText (line : List Char) : GrammarLine :=
  let text := trim line
  if text.isEmpty || isComment text then idle
  else match TokenRule.parse? (String.ofList text) with
    | some r => rule r
    | none => unknown (String.ofList text)

def rule? : GrammarLine → Option TokenRule
  | rule r => some r
  | _ => none

def unknown? : GrammarLine → Option String
  | unknown text => some text
  | _ => none

def ofGrammar (grammar : String) : List GrammarLine :=
  (lines grammar.toList).map ofText

end GrammarLine

/-! ## Reading a grammar -/

namespace Vocabulary

/-- The lines of a grammar which are passed over, without the blanks around them. -/
def skippedLines (grammar : String) : List String :=
  (GrammarLine.ofGrammar grammar).filterMap GrammarLine.unknown?

def ofGrammar (grammar : String) : Vocabulary where
  rules := (GrammarLine.ofGrammar grammar).filterMap GrammarLine.rule?
  skipped := (skippedLines grammar).length

/-- What is reported while a grammar is read: each line passed over, then the counts. -/
def readingLog (grammar : String) : List Log.Record :=
  let vocabulary := ofGrammar grammar
  (skippedLines grammar).map (fun line => ⟨.trace, "not a token rule: " ++ line⟩) ++
    [⟨.debug, "extracted " ++ toString vocabulary.size ++ " token rules, skipped " ++
      toString vocabulary.skipped ++ " lines"⟩]

end Vocabulary

end TokenTables
