import TokenTables.Grammar.Keyword
import TokenTables.Proofs.Grammar.RuleSplit
/-!
# Rules of a grammar

What is known of every rule that a grammar has, and of every lexeme among their values.
-/

namespace TokenTables

open Text

namespace Text

theorem mem_of_mem_trimStart {text : List Char} {c : Char} (h : c ∈ trimStart text) : c ∈ text :=
  (List.dropWhile_sublist isBlank).subset h

theorem mem_of_mem_trimEnd {text : List Char} {c : Char} (h : c ∈ trimEnd text) : c ∈ text := by
  have hreverse : c ∈ trimStart text.reverse := List.mem_reverse.1 h
  exact List.mem_reverse.1 (mem_of_mem_trimStart hreverse)

theorem mem_of_mem_trim {text : List Char} {c : Char} (h : c ∈ trim text) : c ∈ text :=
  mem_of_mem_trimStart (mem_of_mem_trimEnd h)

end Text

namespace TokenRule

/-- A rule as it can stand in a grammar, where no line break is part of a rule. -/
structure WellFormed (rule : TokenRule) : Prop where
  isName : IsName rule.name.toList
  isValue : IsValue rule.value.toList
  unbroken : ∀ c ∈ rule.value.toList, isLineBreak c = false

theorem Split.mem_text_of_mem_value {split : Split} {c : Char} (h : c ∈ split.value) :
    c ∈ split.text := by
  simp [Split.text, h]

theorem wellFormed_of_parse? {line : String} {rule : TokenRule} (h : parse? line = some rule)
    (hline : ∀ c ∈ line.toList, isLineBreak c = false) : WellFormed rule := by
  obtain ⟨split, htext, hname, hvalue⟩ := parse?_eq_some_iff.1 h
  refine ⟨hname ▸ split.isName, hvalue ▸ split.isValue, ?_⟩
  intro c hc
  rw [← hvalue] at hc
  exact hline c (htext ▸ Split.mem_text_of_mem_value hc)

end TokenRule

namespace GrammarLine

theorem parse?_of_ofText_eq_rule {line : List Char} {r : TokenRule} (h : ofText line = rule r) :
    TokenRule.parse? (String.ofList (trim line)) = some r := by
  simp only [ofText] at h
  split at h
  · contradiction
  · split at h
    · rename_i hparse
      obtain rfl := GrammarLine.rule.inj h
      exact hparse
    · contradiction

theorem rule?_eq_some_iff {line : GrammarLine} {r : TokenRule} :
    line.rule? = some r ↔ line = rule r := by
  cases line <;> simp [rule?]

end GrammarLine

namespace Vocabulary

theorem wellFormed_of_mem_rules {grammar : String} {rule : TokenRule}
    (h : rule ∈ (ofGrammar grammar).rules) : rule.WellFormed := by
  obtain ⟨kind, hkind, hrule⟩ := List.mem_filterMap.1 h
  obtain ⟨line, hline, rfl⟩ := List.mem_map.1 hkind
  have hparse := GrammarLine.parse?_of_ofText_eq_rule (GrammarLine.rule?_eq_some_iff.1 hrule)
  apply TokenRule.wellFormed_of_parse? hparse
  intro c hc
  rw [String.toList_ofList] at hc
  exact isLineBreak_of_mem_lines hline c (mem_of_mem_trim hc)

theorem isName_of_mem_names {grammar name : String} (h : name ∈ (ofGrammar grammar).names) :
    TokenRule.IsName name.toList := by
  obtain ⟨rule, hrule, rfl⟩ := List.mem_map.1 h
  exact (wellFormed_of_mem_rules hrule).isName

end Vocabulary

/-! ## Lexemes -/

theorem mem_of_mem_stripQuotes {text : List Char} {c : Char} (h : c ∈ stripQuotes text) :
    c ∈ text := by
  have hfront := (List.dropWhile_sublist _).subset (List.mem_reverse.1 h)
  exact (List.dropWhile_sublist _).subset (List.mem_reverse.1 hfront)

/-- A fixed spelling is part of the value and has no character of a pattern. -/
theorem mem_of_mem_literal? {value text : List Char} (h : literal? value = some text) {c : Char}
    (hc : c ∈ text) : c ∈ value ∧ c ∉ patternChars := by
  simp only [literal?] at h
  split at h
  · split at h
    · contradiction
    · rename_i hplain
      obtain rfl := Option.some.inj h
      simp only [Bool.or_eq_true, List.any_eq_true, List.contains_iff_mem, not_or, not_exists,
        not_and] at hplain
      exact ⟨mem_of_mem_trimEnd (mem_of_mem_stripQuotes hc), hplain.2 c hc⟩
  · contradiction

theorem TokenRule.literal?_of_keywordLexeme? {rule : TokenRule} {lexeme : String}
    (h : rule.keywordLexeme? = some lexeme) : literal? rule.value.toList = some lexeme.toList := by
  unfold keywordLexeme? at h
  split at h
  · contradiction
  · obtain ⟨text, htext, rfl⟩ := Option.map_eq_some_iff.1 h
    rw [htext, String.toList_ofList]

namespace Vocabulary

/-- No lexeme of a grammar has a line break or a character of a pattern in it. -/
theorem plain_of_mem_keywordLexemes {grammar lexeme : String}
    (h : lexeme ∈ (ofGrammar grammar).keywordLexemes) {c : Char} (hc : c ∈ lexeme.toList) :
    isLineBreak c = false ∧ c ∉ patternChars := by
  obtain ⟨rule, hrule, hlexeme⟩ := List.mem_filterMap.1 h
  obtain ⟨hvalue, hpattern⟩ := mem_of_mem_literal? (rule.literal?_of_keywordLexeme? hlexeme) hc
  exact ⟨(wellFormed_of_mem_rules hrule).unbroken c hvalue, hpattern⟩

end Vocabulary

end TokenTables
