import TokenTables.Proofs.Grammar.FixedSpelling
import TokenTables.Proofs.Grammar.Layout
/-!
# Tokens with quoted spellings

A token whose value is one literal has the text of the literal as its lexeme, whatever that text is:
only structural names, empty literals and the characters of patterns keep it out of the table.
Whether the token counts as a keyword is up to its name alone.
-/

namespace TokenTables

open Text

/-- A token with its spelling, which has no single quote in it. -/
structure QuotedToken where
  name : List Char
  text : List Char
  isName : TokenRule.IsName name := by decide
  quote_not_mem : '\'' ∉ text := by decide
  unbroken : Unbroken text := by decide

namespace QuotedToken

/-- The rule whose body is the spelling between single quotes. -/
def rule (token : QuotedToken) : BareRule where
  name := token.name
  body := quotedBy 1 1 token.text
  isName := token.isName
  body_ne_nil := by simp [quotedBy]
  head_not_blank := by
    rw [quotedBy_one]
    exact (by decide : isBlank '\'' = false)
  last_not_blank := by
    have hlast : (quotedBy 1 1 token.text).getLast? = some '\'' := by
      rw [quotedBy_one, ← List.cons_append, List.getLast?_concat]
    rw [hlast]
    exact (by decide : isBlank '\'' = false)
  unbroken := by
    rw [quotedBy_one, unbroken_cons, unbroken_append]
    exact ⟨by decide, token.unbroken, by decide⟩

/-- The spelling goes into the table of lexemes. -/
def HasLexeme (token : QuotedToken) : Prop :=
  String.ofList token.name ∉ structuralNames ∧ token.text ≠ [] ∧
    ∀ c ∈ token.text, c ∉ patternChars

/-- The name is one of a keyword, whatever the spelling. -/
def IsKeyword (token : QuotedToken) : Prop :=
  (∀ c ∈ token.name, c.isUpper = true) ∧ String.ofList token.name ∉ structuralNames

instance : DecidablePred HasLexeme := fun token =>
  have : Decidable (∀ c ∈ token.text, c ∉ patternChars) :=
    List.decidableBAll (· ∉ patternChars) token.text
  inferInstanceAs (Decidable (_ ∧ _ ∧ _))

instance : DecidablePred IsKeyword := fun token =>
  have : Decidable (∀ c ∈ token.name, c.isUpper = true) :=
    List.decidableBAll (·.isUpper = true) token.name
  inferInstanceAs (Decidable (_ ∧ _))

@[simp] theorem name_rule (token : QuotedToken) : token.rule.name = token.name :=
  rfl

end QuotedToken

/-! ## One literal -/

theorem trimEnd_quotedBy_one (text : List Char) :
    trimEnd (quotedBy 1 1 text) = quotedBy 1 1 text := by
  rw [quotedBy_one, ← List.cons_append, trimEnd_concat, if_neg (by decide)]

theorem stripQuotes_quotedBy_one {text : List Char} (h : '\'' ∉ text) :
    stripQuotes (quotedBy 1 1 text) = text := by
  by_cases hempty : text = []
  · rw [hempty]
    rfl
  · apply stripQuotes_quotedBy
    exact {
      ne_nil := hempty
      head := fun hhead => h (List.mem_of_head? hhead)
      last := fun hlast => h (List.mem_of_getLast? hlast) }

/-- The text of one literal is the spelling, unless it is empty or looks like a pattern. -/
theorem literal?_quotedBy_one {text : List Char} (h : '\'' ∉ text) :
    literal? (quotedBy 1 1 text) =
      if text ≠ [] ∧ ∀ c ∈ text, c ∉ patternChars then some text else none := by
  have hhead : (quotedBy 1 1 text).head? = some '\'' := by rw [quotedBy_one, List.head?_cons]
  have hkept : (text.isEmpty || text.any patternChars.contains) = false ↔
      text ≠ [] ∧ ∀ c ∈ text, c ∉ patternChars := by simp
  rw [literal?, hhead, if_pos (by decide), trimEnd_quotedBy_one, stripQuotes_quotedBy_one h]
  by_cases hplain : text ≠ [] ∧ ∀ c ∈ text, c ∉ patternChars
  · simp only [hkept.2 hplain, Bool.false_eq_true, if_false]
    rw [if_pos hplain]
  · have hpattern := mt hkept.1 hplain
    rw [Bool.not_eq_false] at hpattern
    simp only [hpattern, if_true]
    rw [if_neg hplain]

theorem isStructural_iff {name : String} : isStructural name = true ↔ name ∈ structuralNames := by
  unfold isStructural
  exact List.contains_iff_mem

namespace QuotedToken

theorem isKeywordName_iff (token : QuotedToken) :
    isKeywordName (String.ofList token.name) = true ↔ token.IsKeyword := by
  have hne : token.name ≠ [] := by
    intro hnil
    have hname := token.isName
    rw [hnil] at hname
    exact hname
  simp [isKeywordName, hne, ← isStructural_iff, IsKeyword]

theorem keywordLexeme?_rule (token : QuotedToken) :
    token.rule.toRule.keywordLexeme? =
      if token.HasLexeme then some (String.ofList token.text) else none := by
  have hvalue : token.rule.toRule.value.toList = quotedBy 1 1 token.text := String.toList_ofList
  have hname : token.rule.toRule.name = String.ofList token.name := rfl
  unfold TokenRule.keywordLexeme?
  rw [hvalue, hname, literal?_quotedBy_one token.quote_not_mem]
  by_cases hstructural : String.ofList token.name ∈ structuralNames
  · rw [if_pos (isStructural_iff.2 hstructural), if_neg fun h => h.1 hstructural]
  · rw [if_neg (mt isStructural_iff.1 hstructural)]
    by_cases hplain : token.text ≠ [] ∧ ∀ c ∈ token.text, c ∉ patternChars
    · rw [if_pos hplain, if_pos ⟨hstructural, hplain⟩, Option.map_some]
    · rw [if_neg hplain, if_neg fun h => hplain h.2, Option.map_none]

end QuotedToken

namespace Vocabulary

/-- However a grammar lays out tokens with quoted spellings, its lexemes are the spellings of the
tokens that are not structural, empty ones and patterns left out.  The count of keywords is the
number of names in capitals only. -/
theorem keywordLexemes_quotedTokens (layout : Layout) (tokens : List QuotedToken)
    (h : layout.rules = tokens.map QuotedToken.rule) :
    (ofGrammar layout.text).keywordLexemes =
        (tokens.filter (·.HasLexeme)).map (fun token => String.ofList token.text) ∧
      (ofGrammar layout.text).skipped = 0 ∧
      (ofGrammar layout.text).keywordCount = tokens.countP (·.IsKeyword) := by
  refine ⟨?_, ?_, ?_⟩
  · rw [layout.keywordLexemes_ofGrammar_text, h, List.filterMap_map, ← List.filterMap_eq_map,
      List.filterMap_filter]
    refine List.filterMap_congr fun token _ => ?_
    rw [Function.comp_apply, token.keywordLexeme?_rule]
    simp
  · rw [layout.ofGrammar_text]
  · rw [keywordCount, layout.names_ofGrammar_text, Layout.names, h, List.map_map, List.countP_map]
    refine List.countP_congr fun token _ => ?_
    simpa using token.isKeywordName_iff

/-- A spelling with a semicolon and two slashes, one of blanks that comes twice, an empty one, a
structural name and a pattern. -/
def quotedTokens : List QuotedToken := [
  { name := "URL".toList, text := "a;//\":;".toList },
  { name := "GAP".toList, text := " \t".toList },
  { name := "KW_GAP".toList, text := " \t".toList },
  { name := "NONE".toList, text := "".toList },
  { name := "ID".toList, text := "id".toList },
  { name := "OPEN".toList, text := "a(".toList }]

/-- Each token on a line of its own, with blanks around all parts. -/
def quotedLayout : Layout where
  lines := quotedTokens.map fun token => .rule
    { rule := token.rule
      indent := { text := ['\t', '\t'] }
      gap := { text := ['\u2003'] }
      lead := { text := ['\u3000', ' '] }
      trail := { text := ['\u00a0'] }
      tail := { text := [' ', ' '] } }
  breaks _ := ⟨'\x1e', by decide⟩

theorem keywordLexemes_quotedLayout :
    quotedLayout.rules = quotedTokens.map QuotedToken.rule ∧
      (ofGrammar quotedLayout.text).keywordLexemes = ["a;//\":;", " \t", " \t"] ∧
      (ofGrammar quotedLayout.text).skipped = 0 ∧
      (ofGrammar quotedLayout.text).keywordCount = 4 := by
  have hrules : quotedLayout.rules = quotedTokens.map QuotedToken.rule := rfl
  obtain ⟨hlexemes, hskipped, hcount⟩ := keywordLexemes_quotedTokens quotedLayout quotedTokens hrules
  exact ⟨hrules, hlexemes.trans (by decide +kernel), hskipped, hcount.trans (by decide +kernel)⟩

end Vocabulary

end TokenTables
