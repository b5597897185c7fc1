import TokenTables.Proofs.Grammar.Extraction
import TokenTables.Proofs.Grammar.LineKind
/-!
# Rules printed and read again

The lists of rules that grammars have are the lists of well-formed rules.  Printed with a line for
each rule, such a list is a grammar with exactly these rules.
-/

namespace TokenTables

open Text

namespace TokenRule

theorem wellFormed_iff {rule : TokenRule} :
    rule.WellFormed ↔
      IsName rule.name.toList ∧ IsValue rule.value.toList ∧ Unbroken rule.value.toList := by
  constructor
  · intro h
    exact ⟨h.isName, h.isValue, h.unbroken⟩
  · rintro ⟨hname, hvalue, hunbroken⟩
    exact ⟨hname, hvalue, hunbroken⟩

instance : DecidablePred WellFormed := fun _ =>
  decidable_of_iff _ wellFormed_iff.symm

/-- The rule on a line of its own, with no blanks around its parts. -/
def line (rule : TokenRule) : List Char :=
  rule.name.toList ++ ':' :: (rule.value.toList ++ [';'])

/-- The parts of the line that a rule is printed on. -/
def WellFormed.split {rule : TokenRule} (h : rule.WellFormed) : Split where
  name := rule.name.toList
  gap := []
  lead := []
  value := rule.value.toList
  tail := []
  isName := h.isName
  gap_blanks := Blanks.nil
  lead_blanks := Blanks.nil
  isValue := h.isValue
  tail_blanks := Blanks.nil

theorem WellFormed.text_split {rule : TokenRule} (h : rule.WellFormed) :
    h.split.text = rule.line := by
  simp [WellFormed.split, Split.text, line]

theorem WellFormed.ofText_line {rule : TokenRule} (h : rule.WellFormed) :
    GrammarLine.ofText rule.line = .rule rule := by
  have hread := GrammarLine.ofText_of_split Blanks.nil h.split
  rw [List.nil_append, h.text_split] at hread
  rw [hread]
  simp [WellFormed.split]

theorem WellFormed.unbroken_line {rule : TokenRule} (h : rule.WellFormed) :
    Unbroken rule.line := by
  unfold line
  rw [unbroken_append, unbroken_cons, unbroken_append]
  exact ⟨h.isName.unbroken, by decide, h.unbroken, by decide⟩

end TokenRule

namespace Vocabulary

/-- The rules as a grammar, a line for each. -/
def printRules (breaks : Nat → LineBreak) (rules : List TokenRule) : String :=
  String.ofList (joinLines breaks (rules.map TokenRule.line))

theorem ofGrammar_printRules {rules : List TokenRule} (h : ∀ rule ∈ rules, rule.WellFormed)
    (breaks : Nat → LineBreak) : ofGrammar (printRules breaks rules) = ⟨rules, 0⟩ := by
  have hread : ∀ rule ∈ rules, GrammarLine.ofText rule.line = .ofRule? (some rule) := by
    intro rule hrule
    exact (h rule hrule).ofText_line
  unfold printRules
  rw [ofGrammar_joinLines (fun rule hrule => (h rule hrule).unbroken_line) hread,
    List.filterMap_some]

/-- A list of rules is the one of some grammar exactly if all of them are well formed.  Printed with
any line breaks it is read as it is, with no line passed over, and so is the list of any grammar. -/
theorem rules_printRules (rules : List TokenRule) (breaks : Nat → LineBreak) :
    ((∃ grammar, (ofGrammar grammar).rules = rules) ↔ ∀ rule ∈ rules, rule.WellFormed) ∧
      ((∀ rule ∈ rules, rule.WellFormed) → ofGrammar (printRules breaks rules) = ⟨rules, 0⟩) ∧
      ∀ grammar, ofGrammar (printRules breaks (ofGrammar grammar).rules) =
        ⟨(ofGrammar grammar).rules, 0⟩ := by
  refine ⟨⟨?_, ?_⟩, ?_, ?_⟩
  · rintro ⟨grammar, rfl⟩ rule hrule
    exact wellFormed_of_mem_rules hrule
  · intro h
    exact ⟨printRules breaks rules, by rw [ofGrammar_printRules h breaks]⟩
  · intro h
    exact ofGrammar_printRules h breaks
  · intro grammar
    exact ofGrammar_printRules (fun rule hrule => wellFormed_of_mem_rules hrule) breaks

/-- A value of one blank, a value with a semicolon and a blank at its end, and a name that comes
twice. -/
theorem rules_printRules_of_blank :
    let rules : List TokenRule := [⟨"WS", " "⟩, ⟨"A_1", "':' ; // "⟩, ⟨"WS", "\x1f"⟩]
    let text := printRules (fun _ => ⟨'\u2028', by decide⟩) rules
    text = "WS: ;\u2028A_1:':' ; // ;\u2028WS:\x1f;" ∧
      (∀ rule ∈ rules, rule.WellFormed) ∧ ofGrammar text = ⟨rules, 0⟩ := by
  intro rules text
  have h : ∀ rule ∈ rules, rule.WellFormed := by decide +kernel
  exact ⟨by decide +kernel, h, (rules_printRules rules fun _ => ⟨'\u2028', by decide⟩).2.1 h⟩

end Vocabulary

end TokenTables
