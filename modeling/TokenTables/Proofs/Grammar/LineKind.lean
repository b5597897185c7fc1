import TokenTables.Grammar.Vocabulary
import TokenTables.Proofs.Grammar.RuleSplit
import TokenTables.Proofs.Text.Line
/-!
# Kinds of lines

What a line of a grammar is can be seen from the parts that it is written from, and a grammar that is
given by its lines is read line by line.
-/

namespace TokenTables

open Text

namespace GrammarLine

theorem ofText_of_blanks {line : List Char} (h : Blanks line) : ofText line = idle := by
  unfold ofText
  rw [trim_of_blanks h]
  rfl

theorem ofText_of_comment {padding : List Char} (h : Blanks padding) (remark : List Char) :
    ofText (padding ++ '/' :: '/' :: remark) = idle := by
  have htrim : trim (padding ++ '/' :: '/' :: remark) = '/' :: '/' :: trimEnd remark := by
    rw [trim_blanks_append h]
    unfold trim
    rw [trimStart_cons_of_not_blank (by decide)]
    exact trimEnd_append_cons (by decide) ['/'] remark
  unfold ofText
  rw [htrim]
  rfl

end GrammarLine

namespace TokenRule

theorem IsName.unbroken {name : List Char} (h : IsName name) : Unbroken name := by
  intro c hc
  have hbounds := isNameChar_bounds (h.isNameChar hc)
  simp only [isLineBreak, Bool.or_eq_false_iff, Bool.and_eq_false_iff, decide_eq_false_iff_not,
    beq_eq_false_iff_ne, Nat.not_le, ne_eq]
  omega

theorem Split.exists_text_eq_cons (split : Split) :
    ∃ first rest, split.text = first :: rest ∧ isNameStart first = true := by
  have hname := split.isName
  cases hcases : split.name with
  | nil =>
      rw [hcases] at hname
      exact hname.elim
  | cons first name =>
      rw [hcases] at hname
      exact ⟨first, _, by rw [split.text_eq, hcases, List.cons_append], hname.1⟩

/-- The same parts with nothing after the semicolon. -/
def Split.trimmed (split : Split) : Split :=
  { split with tail := [], tail_blanks := Blanks.nil }

theorem Split.text_eq_trimmed_append (split : Split) :
    split.text = split.trimmed.text ++ split.tail := by
  simp [Split.text, Split.trimmed]

theorem Split.trim_text (split : Split) : trim split.text = split.trimmed.text := by
  obtain ⟨first, rest, htext, hfirst⟩ := split.exists_text_eq_cons
  have hblank : isBlank first = false := isBlank_of_isNameChar (isNameChar_of_isNameStart hfirst)
  have hstart : trimStart split.text = split.text := by
    rw [htext, trimStart_cons_of_not_blank hblank]
  have hlast : split.trimmed.text =
      (split.name ++ split.gap ++ [':'] ++ split.lead ++ split.value) ++ [';'] := by
    simp [Split.text, Split.trimmed]
  unfold trim
  rw [hstart, split.text_eq_trimmed_append, trimEnd_append_blanks split.tail_blanks, hlast,
    trimEnd_concat, if_neg (by decide)]

end TokenRule

namespace GrammarLine

theorem ofText_of_split {indent : List Char} (h : Blanks indent) (split : TokenRule.Split) :
    ofText (indent ++ split.text) =
      rule ⟨String.ofList split.name, String.ofList split.value⟩ := by
  obtain ⟨first, rest, htext, hfirst⟩ := split.trimmed.exists_text_eq_cons
  have hslash : first ≠ '/' := by
    rintro rfl
    exact absurd hfirst (by decide)
  have hidle : (trim split.text).isEmpty = false ∧ isComment (trim split.text) = false := by
    rw [split.trim_text, htext]
    simp [isComment, List.isPrefixOf, Ne.symm hslash]
  have hparse : TokenRule.parse? (String.ofList (trim split.text)) =
      some ⟨String.ofList split.name, String.ofList split.value⟩ := by
    rw [TokenRule.parse?_eq_some_iff]
    exact ⟨split.trimmed, by simp [split.trim_text], by simp [TokenRule.Split.trimmed],
      by simp [TokenRule.Split.trimmed]⟩
  unfold ofText
  simp [trim_blanks_append h, hidle, hparse]

/-! ## Grammars given by their lines -/

theorem ofGrammar_joinLines {texts : List (List Char)} (hne : texts ≠ [])
    (h : ∀ line ∈ texts, Unbroken line) (breaks : Nat → LineBreak) :
    ofGrammar (String.ofList (joinLines breaks texts)) = texts.map ofText := by
  unfold ofGrammar
  rw [String.toList_ofList, lines_joinLines hne h]

/-- A line with a rule on it, or an idle one. -/
def ofRule? : Option TokenRule → GrammarLine
  | some r => rule r
  | none => idle

theorem rule?_ofRule? (found : Option TokenRule) : (ofRule? found).rule? = found := by
  cases found <;> rfl

theorem unknown?_ofRule? (found : Option TokenRule) : (ofRule? found).unknown? = none := by
  cases found <;> rfl

theorem filterMap_rule? (found : List (Option TokenRule)) :
    (found.map ofRule?).filterMap rule? = found.filterMap id := by
  rw [List.filterMap_map]
  exact List.filterMap_congr fun rule _ => rule?_ofRule? rule

theorem filterMap_unknown? (found : List (Option TokenRule)) :
    (found.map ofRule?).filterMap unknown? = [] := by
  rw [List.filterMap_map, List.filterMap_eq_nil_iff]
  exact fun rule _ => unknown?_ofRule? rule

end GrammarLine

namespace Vocabulary

/-- Where every line is idle or a rule, the rules are all that is read. -/
theorem ofGrammar_joinLines {ι : Type} {items : List ι} {text : ι → List Char}
    {found : ι → Option TokenRule} (h : ∀ item ∈ items, Unbroken (text item))
    (hread : ∀ item ∈ items, GrammarLine.ofText (text item) = .ofRule? (found item))
    (breaks : Nat → LineBreak) :
    ofGrammar (String.ofList (joinLines breaks (items.map text))) =
      ⟨items.filterMap found, 0⟩ := by
  cases items with
  | nil => rfl
  | cons item rest =>
      have hkinds : GrammarLine.ofGrammar
          (String.ofList (joinLines breaks ((item :: rest).map text))) =
            ((item :: rest).map found).map .ofRule? := by
        calc
          _ = ((item :: rest).map text).map GrammarLine.ofText :=
            GrammarLine.ofGrammar_joinLines (List.cons_ne_nil _ _) (List.forall_mem_map.2 h) breaks
          _ = _ := by
            rw [List.map_map, List.map_map]
            exact List.map_congr_left hread
      unfold ofGrammar skippedLines
      rw [hkinds, GrammarLine.filterMap_rule?, GrammarLine.filterMap_unknown?, List.filterMap_map,
        Function.id_comp, List.length_nil]

end Vocabulary

end TokenTables
