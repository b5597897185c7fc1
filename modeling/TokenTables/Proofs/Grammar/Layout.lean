import TokenTables.Proofs.Artifact.NameTable
import TokenTables.Proofs.Grammar.LineKind
/-!
# Layouts of a grammar

Rules can be laid out as a grammar in many ways: with blanks around their parts, with comments and
blank lines between them, and with any line breaks.  All layouts of the same rules have the same
artifact, or the same reason for having none, although the values that are read from them differ in
the blanks at their ends.  The table of names in the artifact is that of the rules.
-/

namespace TokenTables

open Text

/-- Blanks that can stand within a line. -/
structure Padding where
  text : List Char
  blanks : Blanks text := by decide
  unbroken : Unbroken text := by decide

def Padding.none : Padding where
  text := []

/-- A rule apart from its layout: no blanks stand at the ends of its body. -/
structure BareRule where
  name : List Char
  body : List Char
  isName : TokenRule.IsName name := by decide
  body_ne_nil : body ≠ [] := by decide
  head_not_blank : body.head?.any isBlank = false := by decide
  last_not_blank : body.getLast?.any isBlank = false := by decide
  unbroken : Unbroken body := by decide

/-- The rule as it is read where there is no padding. -/
def BareRule.toRule (rule : BareRule) : TokenRule :=
  ⟨String.ofList rule.name, String.ofList rule.body⟩

/-- A rule with the padding around its parts. -/
structure PaddedRule where
  rule : BareRule
  /-- In front of the name. -/
  indent : Padding := .none
  /-- Between the name and the colon. -/
  gap : Padding := .none
  /-- Between the colon and the body. -/
  lead : Padding := .none
  /-- Between the body and the semicolon. -/
  trail : Padding := .none
  /-- After the semicolon. -/
  tail : Padding := .none

inductive LayoutLine
  | blank (padding : Padding)
  | comment (indent : Padding) (remark : List Char) (unbroken : Unbroken remark)
  | rule (padded : PaddedRule)

/-- Lines, with a choice of the line break after each. -/
structure Layout where
  lines : List LayoutLine
  breaks : Nat → LineBreak

namespace PaddedRule

def text (padded : PaddedRule) : List Char :=
  padded.indent.text ++ padded.rule.name ++ padded.gap.text ++ [':'] ++ padded.lead.text ++
    padded.rule.body ++ padded.trail.text ++ [';'] ++ padded.tail.text

/-- The padding in front of the semicolon is read as a part of the value. -/
def value (padded : PaddedRule) : List Char :=
  padded.rule.body ++ padded.trail.text

end PaddedRule

namespace LayoutLine

def text : LayoutLine → List Char
  | blank padding => padding.text
  | comment indent remark _ => indent.text ++ '/' :: '/' :: remark
  | rule padded => padded.text

def padded? : LayoutLine → Option PaddedRule
  | rule padded => some padded
  | _ => none

end LayoutLine

namespace Layout

def text (layout : Layout) : String :=
  String.ofList (joinLines layout.breaks (layout.lines.map LayoutLine.text))

def paddedRules (layout : Layout) : List PaddedRule :=
  layout.lines.filterMap LayoutLine.padded?

def rules (layout : Layout) : List BareRule :=
  layout.paddedRules.map (·.rule)

end Layout

/-! ## Reading a line of a layout -/

namespace PaddedRule

theorem isValue_value (padded : PaddedRule) : TokenRule.IsValue padded.value := by
  have hhead := padded.rule.head_not_blank
  have hbody := padded.rule.unbroken
  unfold value
  cases hcases : padded.rule.body with
  | nil => exact absurd hcases padded.rule.body_ne_nil
  | cons c body =>
      rw [hcases] at hhead hbody
      refine ⟨Or.inl hhead, ?_⟩
      intro hfeed
      have hbreak := unbroken_append.2 ⟨hbody, padded.trail.unbroken⟩ '\n' hfeed
      exact absurd hbreak (by decide)

def split (padded : PaddedRule) : TokenRule.Split where
  name := padded.rule.name
  gap := padded.gap.text
  lead := padded.lead.text
  value := padded.value
  tail := padded.tail.text
  isName := padded.rule.isName
  gap_blanks := padded.gap.blanks
  lead_blanks := padded.lead.blanks
  isValue := padded.isValue_value
  tail_blanks := padded.tail.blanks

theorem text_eq (padded : PaddedRule) : padded.text = padded.indent.text ++ padded.split.text := by
  simp [text, TokenRule.Split.text, split, value]

/-- The rule that is read from the line. -/
def toRule (padded : PaddedRule) : TokenRule :=
  ⟨String.ofList padded.rule.name, String.ofList padded.value⟩

theorem ofText_text (padded : PaddedRule) :
    GrammarLine.ofText padded.text = .rule padded.toRule := by
  rw [text_eq]
  exact GrammarLine.ofText_of_split padded.indent.blanks padded.split

theorem unbroken_text (padded : PaddedRule) : Unbroken padded.text := by
  have hcolon : Unbroken [':'] := by decide
  have hsemicolon : Unbroken [';'] := by decide
  unfold text
  simp only [unbroken_append]
  exact ⟨⟨⟨⟨⟨⟨⟨⟨padded.indent.unbroken, padded.rule.isName.unbroken⟩, padded.gap.unbroken⟩, hcolon⟩,
    padded.lead.unbroken⟩, padded.rule.unbroken⟩, padded.trail.unbroken⟩, hsemicolon⟩,
    padded.tail.unbroken⟩

end PaddedRule

namespace LayoutLine

theorem unbroken_text (line : LayoutLine) : Unbroken line.text := by
  cases line with
  | blank padding => exact padding.unbroken
  | comment indent remark hremark =>
      have hslashes : Unbroken ['/', '/'] := by decide
      exact unbroken_append.2 ⟨indent.unbroken, unbroken_append.2 ⟨hslashes, hremark⟩⟩
  | rule padded => exact padded.unbroken_text

theorem ofText_text (line : LayoutLine) :
    GrammarLine.ofText line.text = .ofRule? (line.padded?.map PaddedRule.toRule) := by
  cases line with
  | blank padding => exact GrammarLine.ofText_of_blanks padding.blanks
  | comment indent remark _ => exact GrammarLine.ofText_of_comment indent.blanks remark
  | rule padded => exact padded.ofText_text

end LayoutLine

/-! ## What does not depend on the layout -/

/-- The blanks at the end of a value make no difference to the spelling that it fixes. -/
theorem literal?_append_blanks {body blanks : List Char} (hbody : body ≠ [])
    (hblanks : Blanks blanks) : literal? (body ++ blanks) = literal? body := by
  have hhead : (body ++ blanks).head? = body.head? := by
    cases body with
    | nil => contradiction
    | cons c body => rfl
  unfold literal?
  rw [hhead, trimEnd_append_blanks hblanks]

theorem PaddedRule.keywordLexeme?_toRule (padded : PaddedRule) :
    padded.toRule.keywordLexeme? = padded.rule.toRule.keywordLexeme? := by
  unfold TokenRule.keywordLexeme? PaddedRule.toRule BareRule.toRule
  rw [String.toList_ofList, String.toList_ofList, PaddedRule.value,
    literal?_append_blanks padded.rule.body_ne_nil padded.trail.blanks]

namespace Layout

theorem ofGrammar_text (layout : Layout) :
    Vocabulary.ofGrammar layout.text = ⟨layout.paddedRules.map PaddedRule.toRule, 0⟩ := by
  unfold text paddedRules
  rw [List.map_filterMap]
  exact Vocabulary.ofGrammar_joinLines (fun line _ => line.unbroken_text)
    (fun line _ => line.ofText_text) layout.breaks

/-- The names of the rules, in the order of their lines. -/
def names (layout : Layout) : List String :=
  layout.rules.map fun rule => String.ofList rule.name

theorem names_ofGrammar_text (layout : Layout) :
    (Vocabulary.ofGrammar layout.text).names = layout.names := by
  rw [ofGrammar_text, Vocabulary.names, names, rules, List.map_map, List.map_map]
  rfl

theorem keywordLexemes_ofGrammar_text (layout : Layout) :
    (Vocabulary.ofGrammar layout.text).keywordLexemes =
      layout.rules.filterMap fun rule => rule.toRule.keywordLexeme? := by
  rw [ofGrammar_text, Vocabulary.keywordLexemes, rules, List.filterMap_map, List.filterMap_map]
  exact List.filterMap_congr fun padded _ => padded.keywordLexeme?_toRule

end Layout

/-- Layouts of the same rules have the same artifact under all options, or none for the same reason.
There is one unless a module is asked for and two of the rules have one variant, and the names that are
read back from it are those of the rules, in order.  No line of a layout is passed over. -/
theorem grammarArtifact_layout (s t : Layout) (h : s.rules = t.rules) :
    (∀ options, grammarArtifact s.text options = grammarArtifact t.text options ∧
      ((∃ artifact, grammarArtifact s.text options = .ok artifact) ↔
        options.target = .cHeader ∨ (s.names.map variantName).Nodup) ∧
      ∀ artifact, grammarArtifact s.text options = .ok artifact →
        readNames? options artifact.toList = some s.names) ∧
    (Vocabulary.ofGrammar s.text).skipped = 0 ∧ (Vocabulary.ofGrammar t.text).skipped = 0 ∧
    (Vocabulary.ofGrammar s.text).rules.map (·.name) = s.names ∧
    (Vocabulary.ofGrammar t.text).rules.map (·.name) = s.names := by
  have hnames : s.names = t.names := by rw [Layout.names, Layout.names, h]
  have hlexemes : (Vocabulary.ofGrammar s.text).keywordLexemes =
      (Vocabulary.ofGrammar t.text).keywordLexemes := by
    rw [s.keywordLexemes_ofGrammar_text, t.keywordLexemes_ofGrammar_text, h]
  refine ⟨fun options => ⟨?_, ?_, ?_⟩, ?_, ?_, s.names_ofGrammar_text, ?_⟩
  · apply Vocabulary.artifact_congr _ hlexemes options
    rw [s.names_ofGrammar_text, t.names_ofGrammar_text, hnames]
  · rw [exists_grammarArtifact_iff, s.names_ofGrammar_text]
  · intro artifact hartifact
    rw [readNames?_grammarArtifact hartifact, s.names_ofGrammar_text]
  · rw [s.ofGrammar_text]
  · rw [t.ofGrammar_text]
  · rw [hnames]
    exact t.names_ofGrammar_text

/-- The rules `SEMI` and `URL`, whose bodies hold a semicolon, a colon and two slashes. -/
def bareRules : List BareRule := [
  { name := ['S', 'E', 'M', 'I'], body := ['\'', ';', '\''] },
  { name := ['U', 'R', 'L'], body := ['\'', 'a', ':', '/', '/', '\''] }]

def denseLayout : Layout where
  lines := bareRules.map fun rule => .rule { rule }
  breaks _ := ⟨'\n', by decide⟩

/-- Each rule between a comment and a blank line, with ideographic spaces and tabs in it. -/
def looseLayout : Layout where
  lines := bareRules.flatMap fun rule =>
    [.comment { text := ['\t'] } ['A', ':', 'b', ';'] (by decide),
      .rule
        { rule
          indent := { text := [' '] }
          gap := { text := ['\u3000'] }
          lead := { text := ['\t', ' '] }
          trail := { text := [' ', '\u3000'] }
          tail := { text := ['\t'] } },
      .blank { text := [' '] }]
  breaks i := if i % 2 = 0 then ⟨'\r', by decide⟩ else ⟨'\u2028', by decide⟩

/-- Both layouts have one artifact under all options, with the table of the two names. -/
theorem grammarArtifact_looseLayout :
    looseLayout.rules = denseLayout.rules ∧ looseLayout.text ≠ denseLayout.text ∧
      (Vocabulary.ofGrammar looseLayout.text).skipped = 0 ∧
      (Vocabulary.ofGrammar denseLayout.text).rules.map (·.name) = ["SEMI", "URL"] ∧
      ∀ options, ∃ artifact, grammarArtifact looseLayout.text options = .ok artifact ∧
        grammarArtifact denseLayout.text options = .ok artifact ∧
        readNames? options artifact.toList = some ["SEMI", "URL"] := by
  have hrules : looseLayout.rules = denseLayout.rules := rfl
  have hnames : looseLayout.names = ["SEMI", "URL"] := by decide +kernel
  have hvariants : (looseLayout.names.map variantName).Nodup := by decide +kernel
  obtain ⟨hartifact, hskipped, -, -, hdense⟩ :=
    grammarArtifact_layout looseLayout denseLayout hrules
  refine ⟨hrules, by decide +kernel, hskipped, hnames ▸ hdense, fun options => ?_⟩
  obtain ⟨hsame, hexists, hread⟩ := hartifact options
  obtain ⟨artifact, hloose⟩ := hexists.2 (Or.inr hvariants)
  exact ⟨artifact, hloose, hsame ▸ hloose, hnames ▸ hread artifact hloose⟩

end TokenTables
