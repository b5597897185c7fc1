import TokenTables.Proofs.Grammar.LineKind
/-!
# Grammars put together

Between two grammars may stand any text of blanks and line breaks with a line break in it.  It makes
blank lines, and it lengthens the lines beside it by blanks; no line with anything on it is changed,
so the two grammars are read as if each stood alone.
-/

namespace TokenTables

open Text

namespace Text

/-- Blanks and line breaks. -/
def Gap (text : List Char) : Prop :=
  ∀ c ∈ text, isBlank c = true ∨ isLineBreak c = true

/-- Blanks and line breaks, with a line break among them. -/
structure Separator (text : List Char) : Prop where
  gap : Gap text
  breaks : ∃ c ∈ text, isLineBreak c = true

theorem separator_iff {text : List Char} :
    Separator text ↔ Gap text ∧ text.any isLineBreak = true := by
  rw [List.any_eq_true]
  constructor
  · intro h
    exact ⟨h.gap, h.breaks⟩
  · rintro ⟨hgap, hbreaks⟩
    exact ⟨hgap, hbreaks⟩

instance : DecidablePred Gap := fun text =>
  List.decidableBAll (fun c => isBlank c = true ∨ isLineBreak c = true) text

instance : DecidablePred Separator := fun text =>
  decidable_of_iff (Gap text ∧ text.any isLineBreak = true) separator_iff.symm

end Text

namespace GrammarLine

theorem ofText_cons_blank {c : Char} (hc : isBlank c = true) (line : List Char) :
    ofText (c :: line) = ofText line := by
  have hblanks : Blanks [c] := fun d hd => by rwa [List.mem_singleton.1 hd]
  have htrim := trim_blanks_append hblanks line
  rw [List.singleton_append] at htrim
  unfold ofText
  rw [htrim]

theorem ofText_concat_blank {c : Char} (hc : isBlank c = true) (line : List Char) :
    ofText (line ++ [c]) = ofText line := by
  have hblanks : Blanks [c] := fun d hd => by rwa [List.mem_singleton.1 hd]
  unfold ofText
  rw [trim_append_blanks hblanks]

/-! ## What is not idle -/

/-- The lines of a text that tell something, in order. -/
def busy (text : List Char) : List GrammarLine :=
  ((lines text).map ofText).filter (· ≠ idle)

theorem busy_append_cons {c : Char} (hc : isLineBreak c = true) (s t : List Char) :
    busy (s ++ c :: t) = busy s ++ busy t := by
  unfold busy
  rw [lines_append_cons hc, List.map_append, List.filter_append]

theorem busy_nil : busy [] = [] :=
  rfl

theorem busy_gap_append {gap : List Char} (hgap : Gap gap) (text : List Char) :
    busy (gap ++ text) = busy text := by
  induction gap with
  | nil => rfl
  | cons c gap ih =>
      have hrest := ih fun d hd => hgap d (List.mem_cons_of_mem _ hd)
      rw [List.cons_append, ← hrest]
      by_cases hbreak : isLineBreak c = true
      · exact busy_append_cons hbreak [] (gap ++ text)
      · rw [Bool.not_eq_true] at hbreak
        have hblank := (hgap c List.mem_cons_self).resolve_right (by simp [hbreak])
        obtain ⟨first, rest, hlines, hcons⟩ := exists_lines_cons hbreak (gap ++ text)
        unfold busy
        rw [hlines, hcons, List.map_cons, List.map_cons, ofText_cons_blank hblank]

theorem busy_append_gap {gap : List Char} (hgap : Gap gap) (text : List Char) :
    busy (text ++ gap) = busy text := by
  induction gap generalizing text with
  | nil => rw [List.append_nil]
  | cons c gap ih =>
      have hrest := ih (fun d hd => hgap d (List.mem_cons_of_mem _ hd)) (text ++ [c])
      rw [List.append_assoc, List.singleton_append] at hrest
      rw [hrest]
      by_cases hbreak : isLineBreak c = true
      · rw [busy_append_cons hbreak, busy_nil, List.append_nil]
      · rw [Bool.not_eq_true] at hbreak
        have hblank := (hgap c List.mem_cons_self).resolve_right (by simp [hbreak])
        obtain ⟨front, last, hlines, hconcat⟩ := exists_lines_concat hbreak text
        unfold busy
        rw [hlines, hconcat, List.map_append, List.map_append, List.map_singleton,
          List.map_singleton, ofText_concat_blank hblank]

/-- One of the line breaks parts the two texts; what is left of the separator beside it is a gap. -/
theorem busy_separated {separator : List Char} (h : Separator separator) (s t : List Char) :
    busy (s ++ separator ++ t) = busy s ++ busy t := by
  obtain ⟨c, hmem, hc⟩ := h.breaks
  obtain ⟨front, back, rfl⟩ := List.append_of_mem hmem
  have hfront : Gap front := fun d hd => h.gap d (List.mem_append_left _ hd)
  have hback : Gap back := fun d hd => h.gap d (List.mem_append_right _ (List.mem_cons_of_mem _ hd))
  calc
    busy (s ++ (front ++ c :: back) ++ t) = busy ((s ++ front) ++ c :: (back ++ t)) := by simp
    _ = busy (s ++ front) ++ busy (back ++ t) := busy_append_cons hc _ _
    _ = busy s ++ busy t := by rw [busy_append_gap hfront, busy_gap_append hback]

theorem filterMap_filter_ne_idle {α : Type} {f : GrammarLine → Option α} (h : f idle = none)
    (kinds : List GrammarLine) : (kinds.filter (· ≠ idle)).filterMap f = kinds.filterMap f := by
  rw [List.filterMap_filter]
  refine List.filterMap_congr fun kind _ => ?_
  by_cases hidle : kind = idle
  · simp [hidle, h]
  · simp [hidle]

end GrammarLine

/-! ## What is read -/

namespace Vocabulary

/-- The finest of what is reported while a grammar is read. -/
def traceRecords (grammar : String) : List Log.Record :=
  (readingLog grammar).filter (·.level = .trace)

theorem rules_ofGrammar (grammar : String) :
    (ofGrammar grammar).rules = (GrammarLine.busy grammar.toList).filterMap GrammarLine.rule? := by
  rw [GrammarLine.busy, GrammarLine.filterMap_filter_ne_idle rfl]
  rfl

theorem skippedLines_eq (grammar : String) :
    skippedLines grammar = (GrammarLine.busy grammar.toList).filterMap GrammarLine.unknown? := by
  rw [GrammarLine.busy, GrammarLine.filterMap_filter_ne_idle rfl]
  rfl

theorem skipped_ofGrammar (grammar : String) :
    (ofGrammar grammar).skipped = (skippedLines grammar).length :=
  rfl

theorem traceRecords_eq (grammar : String) :
    traceRecords grammar =
      (skippedLines grammar).map fun line => ⟨.trace, "not a token rule: " ++ line⟩ := by
  unfold traceRecords readingLog
  rw [List.filter_append, List.filter_eq_self.2, List.filter_eq_nil_iff.2, List.append_nil]
  · simp
  · simp

/-- What a line tells by itself: nothing if it is blank or a comment, else one rule or one record. -/
inductive Tells (line : List Char) : List TokenRule → Nat → List Log.Record → Prop
  | idle (h : trim line = [] ∨ ['/', '/'] <+: trim line) : Tells line [] 0 []
  | rule (h : ¬(trim line = [] ∨ ['/', '/'] <+: trim line)) {rule : TokenRule}
      (hparse : TokenRule.parse? (String.ofList (trim line)) = some rule) : Tells line [rule] 0 []
  | unknown (h : ¬(trim line = [] ∨ ['/', '/'] <+: trim line))
      (hparse : TokenRule.parse? (String.ofList (trim line)) = none) :
      Tells line [] 1 [⟨.trace, "not a token rule: " ++ String.ofList (trim line)⟩]

theorem tells_ofText (line : List Char) :
    Tells line (GrammarLine.ofText line).rule?.toList
      (GrammarLine.ofText line).unknown?.toList.length
      ((GrammarLine.ofText line).unknown?.toList.map fun text =>
        ⟨.trace, "not a token rule: " ++ text⟩) := by
  by_cases hidle : trim line = [] ∨ ['/', '/'] <+: trim line
  · have hkind : GrammarLine.ofText line = .idle := by
      unfold GrammarLine.ofText GrammarLine.isComment
      rw [if_pos (by simpa using hidle)]
    rw [hkind]
    exact .idle hidle
  · have hbusy : ¬((trim line).isEmpty || GrammarLine.isComment (trim line)) = true := by
      simpa [GrammarLine.isComment] using hidle
    cases hparse : TokenRule.parse? (String.ofList (trim line)) with
    | some rule =>
        have hkind : GrammarLine.ofText line = .rule rule := by
          simp only [GrammarLine.ofText, if_neg hbusy, hparse]
        rw [hkind]
        exact .rule hidle hparse
    | none =>
        have hkind : GrammarLine.ofText line = .unknown (String.ofList (trim line)) := by
          simp only [GrammarLine.ofText, if_neg hbusy, hparse]
        rw [hkind]
        exact .unknown hidle hparse

/-! ## One line -/

theorem filterMap_singleton {α β : Type} (f : α → Option β) (a : α) :
    [a].filterMap f = (f a).toList := by
  cases h : f a <;> simp [h]

section OneLine

variable {line : String} (h : Unbroken line.toList)
include h

theorem ofGrammar_of_unbroken :
    GrammarLine.ofGrammar line = [GrammarLine.ofText line.toList] := by
  rw [GrammarLine.ofGrammar, lines_of_unbroken h, List.map_singleton]

theorem rules_of_unbroken :
    (ofGrammar line).rules = (GrammarLine.ofText line.toList).rule?.toList := by
  rw [ofGrammar, ofGrammar_of_unbroken h, filterMap_singleton]

theorem skippedLines_of_unbroken :
    skippedLines line = (GrammarLine.ofText line.toList).unknown?.toList := by
  rw [skippedLines, ofGrammar_of_unbroken h, filterMap_singleton]

theorem tells_of_unbroken :
    Tells line.toList (ofGrammar line).rules (ofGrammar line).skipped (traceRecords line) := by
  rw [traceRecords_eq, skipped_ofGrammar, skippedLines_of_unbroken h, rules_of_unbroken h]
  exact tells_ofText line.toList

end OneLine

/-! ## Many lines -/

/-- The lines of a grammar, each as a grammar of its own. -/
def singleLines (grammar : String) : List String :=
  (lines grammar.toList).map String.ofList

theorem unbroken_of_mem_singleLines {grammar line : String} (h : line ∈ singleLines grammar) :
    Unbroken line.toList := by
  obtain ⟨text, htext, rfl⟩ := List.mem_map.1 h
  rw [String.toList_ofList]
  exact isLineBreak_of_mem_lines htext

theorem filterMap_ofGrammar {α : Type} (f : GrammarLine → Option α) (grammar : String) :
    (GrammarLine.ofGrammar grammar).filterMap f =
      (singleLines grammar).flatMap fun line => (f (GrammarLine.ofText line.toList)).toList := by
  rw [GrammarLine.ofGrammar, singleLines, List.filterMap_eq_flatMap_toList, List.flatMap_map,
    List.flatMap_map]
  simp

theorem rules_eq_flatMap (grammar : String) :
    (ofGrammar grammar).rules = (singleLines grammar).flatMap fun line => (ofGrammar line).rules := by
  have hrules : (ofGrammar grammar).rules =
      (GrammarLine.ofGrammar grammar).filterMap GrammarLine.rule? := rfl
  rw [hrules, filterMap_ofGrammar]
  exact List.flatMap_congr fun line hline =>
    (rules_of_unbroken (unbroken_of_mem_singleLines hline)).symm

theorem skippedLines_eq_flatMap (grammar : String) :
    skippedLines grammar = (singleLines grammar).flatMap skippedLines := by
  rw [skippedLines, filterMap_ofGrammar]
  exact List.flatMap_congr fun line hline =>
    (skippedLines_of_unbroken (unbroken_of_mem_singleLines hline)).symm

/-- Two grammars with blanks and line breaks between them are read as if each stood alone, and a
grammar of one line yields what the line tells.  So a grammar yields what its lines tell, in order. -/
theorem ofGrammar_separated (grammar separator more : String) (h : Separator separator.toList) :
    ((ofGrammar (grammar ++ separator ++ more)).rules =
        (ofGrammar grammar).rules ++ (ofGrammar more).rules ∧
      (ofGrammar (grammar ++ separator ++ more)).skipped =
        (ofGrammar grammar).skipped + (ofGrammar more).skipped ∧
      traceRecords (grammar ++ separator ++ more) =
        traceRecords grammar ++ traceRecords more) ∧
    (∀ line : String, Unbroken line.toList →
      Tells line.toList (ofGrammar line).rules (ofGrammar line).skipped (traceRecords line)) ∧
    ∀ whole : String,
      (ofGrammar whole).rules = (singleLines whole).flatMap (fun line => (ofGrammar line).rules) ∧
      (ofGrammar whole).skipped =
        ((singleLines whole).map fun line => (ofGrammar line).skipped).sum ∧
      traceRecords whole = (singleLines whole).flatMap traceRecords := by
  have hbusy : GrammarLine.busy (grammar ++ separator ++ more).toList =
      GrammarLine.busy grammar.toList ++ GrammarLine.busy more.toList := by
    rw [String.toList_append, String.toList_append]
    exact GrammarLine.busy_separated h grammar.toList more.toList
  have hskipped : skippedLines (grammar ++ separator ++ more) =
      skippedLines grammar ++ skippedLines more := by
    rw [skippedLines_eq, skippedLines_eq, skippedLines_eq, hbusy, List.filterMap_append]
  refine ⟨⟨?_, ?_, ?_⟩, fun line hline => tells_of_unbroken hline, fun whole => ⟨?_, ?_, ?_⟩⟩
  · rw [rules_ofGrammar, rules_ofGrammar, rules_ofGrammar, hbusy, List.filterMap_append]
  · rw [skipped_ofGrammar, skipped_ofGrammar, skipped_ofGrammar, hskipped, List.length_append]
  · rw [traceRecords_eq, traceRecords_eq, traceRecords_eq, hskipped, List.map_append]
  · exact rules_eq_flatMap whole
  · rw [skipped_ofGrammar, skippedLines_eq_flatMap, List.length_flatMap]
    rfl
  · rw [traceRecords_eq, skippedLines_eq_flatMap, List.map_flatMap]
    exact List.flatMap_congr fun line _ => (traceRecords_eq line).symm

/-- A separator that lengthens the lines on both sides of it, and ends in the two halves of one
newline with a blank between them. -/
theorem ofGrammar_separated_of_tab :
    Separator "\t\u2028\x1c\r \n ".toList ∧
      (ofGrammar ("IF:'if';" ++ "\t\u2028\x1c\r \n " ++ "expr\n//")).rules = [⟨"IF", "'if'"⟩] ∧
      (ofGrammar ("IF:'if';" ++ "\t\u2028\x1c\r \n " ++ "expr\n//")).skipped = 1 ∧
      traceRecords ("IF:'if';" ++ "\t\u2028\x1c\r \n " ++ "expr\n//") =
        [⟨.trace, "not a token rule: expr"⟩] ∧
      Unbroken " \t".toList ∧ Tells " \t".toList (ofGrammar " \t").rules (ofGrammar " \t").skipped
        (traceRecords " \t") := by
  have h : Separator "\t\u2028\x1c\r \n ".toList := by decide +kernel
  have hline : Unbroken " \t".toList := by decide
  obtain ⟨⟨hrules, hskipped, hrecords⟩, htells, -⟩ :=
    ofGrammar_separated "IF:'if';" "\t\u2028\x1c\r \n " "expr\n//" h
  refine ⟨h, hrules.trans ?_, hskipped.trans ?_, hrecords.trans ?_, hline, htells _ hline⟩ <;>
    decide +kernel

end Vocabulary

end TokenTables
