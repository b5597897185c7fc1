import TokenTables.Proofs.Artifact.Determined
import TokenTables.Proofs.Artifact.Options
import TokenTables.Proofs.Syntax.CArray
/-!
# Headers read as C

A header is written without escapes.  Its names are read back whatever the grammar is, since they
have word characters only.  A lexeme is read back unless there is a double quote in it: the filter
for patterns keeps backslashes out of lexemes, but not double quotes.
-/

namespace TokenTables

open Naming Syntax

namespace CHeader

theorem lex_rowLine {entry : String} (hquote : '"' ∉ entry.toList)
    (hbackslash : '\\' ∉ entry.toList) (hnewline : '\n' ∉ entry.toList) :
    lex .c (rowLine entry) = some [.string entry, .mark ','] := by
  have hopen : scan .c .plain [' ', ' ', ' ', ' ', '"'] = some ([], .string []) := rfl
  have hclose : scan .c (.string entry.toList) ['"', ','] =
      some ([.string entry, .mark ','], .plain) := by
    have hmark : stepPlain .c ',' = some ([.mark ','], .plain) := rfl
    simp [scan, step, hmark]
  have hentry : scan .c (.string []) entry.toList = some ([], .string entry.toList) := by
    refine scan_string_of_plain hquote hbackslash ?_ []
    rintro c hc hrefused
    rw [List.mem_singleton.1 hrefused] at hc
    exact hnewline hc
  have hline : rowLine entry = [' ', ' ', ' ', ' ', '"'] ++ (entry.toList ++ ['"', ',']) := by
    simp [rowLine]
  rw [lex, lexFrom, hline, scan_append hopen, scan_append hentry, hclose]
  rfl

theorem lex_arrayLine {name : String} (hname : IsIdentifier name.toList) :
    lex .c (arrayLine name) = some (arrayOpening name) := by
  have hopen : scan .c .plain "static const char *const ".toList =
      some ([.word "static", .word "const", .word "char", .mark '*', .word "const"], .plain) := rfl
  have hclose : lex .c ('[' :: "] = \x7b".toList) =
      some [.mark '[', .mark ']', .mark '=', .mark '\x7b'] := rfl
  have hline : arrayLine name =
      "static const char *const ".toList ++ (name.toList ++ '[' :: "] = \x7b".toList) := by
    simp [arrayLine]
  rw [hline, lex_append hopen, lex_identifier_append hname (by decide), hclose]
  rfl

/-- Entries of which each can be written without escapes. -/
def Plain (entries : List String) : Prop :=
  ∀ entry ∈ entries, '"' ∉ entry.toList ∧ '\\' ∉ entry.toList ∧ '\n' ∉ entry.toList

theorem lex_rows {entries : List String} (h : Plain entries) (rest : List Char) :
    lex .c ((String.join (entries.map row)).toList ++ rest) =
      (lex .c rest).map (entryTokens entries ++ ·) := by
  induction entries with
  | nil =>
      simp only [List.map_nil, String.join_nil, String.toList_empty, List.nil_append]
      cases lex .c rest <;> rfl
  | cons entry entries ih =>
      obtain ⟨hquote, hbackslash, hnewline⟩ := h entry List.mem_cons_self
      have hmore := ih fun other hother => h other (List.mem_cons_of_mem _ hother)
      rw [toList_rows_cons, lex_line (lex_rowLine hquote hbackslash hnewline), hmore,
        Option.map_map]
      rfl

theorem lex_array {name : String} (hname : IsIdentifier name.toList) {entries : List String}
    (h : Plain entries) (rest : List Char) :
    lex .c ((array name entries).toList ++ rest) =
      (lex .c rest).map (arrayTokens name entries ++ .mark ';' :: ·) := by
  have hclose : lex .c ['\x7d', ';'] = some [.mark '\x7d', .mark ';'] := rfl
  rw [toList_array, lex_line (lex_arrayLine hname), lex_rows h, lex_line hclose, Option.map_map,
    Option.map_map]
  congr 1
  funext tokens
  simp [arrayTokens]

/-- A row is read as its entry unless there is a quote in it. -/
theorem readRow?_row_iff {entry : String} (hbackslash : '\\' ∉ entry.toList)
    (hnewline : '\n' ∉ entry.toList) :
    readRow? (row entry).toList = some entry ↔ '"' ∉ entry.toList := by
  have hrow : (row entry).toList = rowLine entry ++ ['\n'] := by simp [row, rowLine]
  constructor
  · intro hread
    have htext : '\\' ∉ (row entry).toList := by simpa [row] using hbackslash
    unfold readRow? at hread
    split at hread
    · rename_i other hlex
      obtain rfl := Option.some.inj hread
      exact unquoted_of_lex htext hlex _ List.mem_cons_self
    · contradiction
  · intro hquote
    have hlex : lex .c (rowLine entry ++ ['\n']) = some [.string entry, .mark ','] := by
      rw [lex_line (lex_rowLine hquote hbackslash hnewline)]
      rfl
    rw [hrow, readRow?, hlex]
    rfl

/-- What of a header cannot need an escape in any case. -/
structure Legible (header : CHeader) : Prop where
  upperStem : IsIdentifier header.upperStem.toList
  lowerStem : IsIdentifier header.lowerStem.toList
  names : Plain header.names
  lexemes : ∀ lexeme ∈ header.lexemes, '\\' ∉ lexeme.toList ∧ '\n' ∉ lexeme.toList

def arrays (header : CHeader) : List (String × List String) :=
  [(header.lowerStem ++ "_token_names", header.names),
    (header.lowerStem ++ "_keyword_lexemes", header.lexemes)]

variable {header : CHeader}

theorem Legible.plain (h : header.Legible)
    (hquote : ∀ lexeme ∈ header.lexemes, '"' ∉ lexeme.toList) : Plain header.lexemes :=
  fun lexeme hlexeme => ⟨hquote lexeme hlexeme, h.lexemes lexeme hlexeme⟩

theorem lex_countLine (h : header.Legible) :
    lex .c header.countLine = some [.directive ("define " ++ header.upperStem ++
      "_TOKEN_KEYWORD_COUNT " ++ toString header.keywordCount)] := by
  have hstem : '\n' ∉ header.upperStem.toList := h.upperStem.not_mem (by decide)
  have hnumber : '\n' ∉ (toString header.keywordCount).toList := not_mem_toString _ (by decide)
  have hline : header.countLine = '#' :: ("define " ++ header.upperStem ++
      "_TOKEN_KEYWORD_COUNT " ++ toString header.keywordCount).toList := by
    simp [countLine]
  rw [hline, lex_directive rfl, String.ofList_toList]
  simp only [String.toList_append, List.mem_append, not_or]
  exact ⟨⟨⟨by decide, hstem⟩, by decide⟩, hnumber⟩

theorem lex_body (h : header.Legible)
    (hquote : ∀ lexeme ∈ header.lexemes, '"' ∉ lexeme.toList) :
    lex .c header.body = some ([.directive "pragma once", .directive ("define " ++
      header.upperStem ++ "_TOKEN_KEYWORD_COUNT " ++ toString header.keywordCount)] ++
        declarationTokens header.arrays) := by
  have hpragma : lex .c "#pragma once\n".toList = some [.directive "pragma once"] := rfl
  have hempty (rest : List Char) : lex .c ('\n' :: rest) = lex .c rest := by
    have hline : lex .c [] = some [] := rfl
    simpa using lex_line hline rest
  have hlast := lex_array (h.lowerStem.append "_keyword_lexemes" (by decide))
    (h.plain hquote) []
  rw [List.append_nil] at hlast
  unfold body
  rw [lex_line hpragma, lex_line (lex_countLine h),
    lex_array (h.lowerStem.append "_token_names" (by decide)) h.names, hempty, hlast]
  simp [lex, lexFrom, scan, finish, arrays, declarationTokens]

theorem backslash_not_mem_array {name : String} (hname : IsIdentifier name.toList)
    {entries : List String} (h : ∀ entry ∈ entries, '\\' ∉ entry.toList) :
    '\\' ∉ (array name entries).toList := by
  have hword : '\\' ∉ name.toList := hname.not_mem (by decide)
  have hrows : '\\' ∉ (String.join (entries.map row)).toList := by
    induction entries with
    | nil => simp
    | cons entry entries ih =>
        have hentry := h entry List.mem_cons_self
        have hmore := ih fun other hother => h other (List.mem_cons_of_mem _ hother)
        simpa [row, hentry] using hmore
  unfold array
  simp only [String.toList_append, List.mem_append, not_or]
  exact ⟨⟨⟨⟨by decide, hword⟩, by decide⟩, hrows⟩, by decide⟩

theorem backslash_not_mem_body (h : header.Legible) : '\\' ∉ header.body := by
  have hupper : '\\' ∉ header.upperStem.toList := h.upperStem.not_mem (by decide)
  have hnumber : '\\' ∉ (toString header.keywordCount).toList := not_mem_toString _ (by decide)
  have hcount : '\\' ∉ header.countLine := by
    unfold countLine
    simp only [String.toList_append, List.mem_append, not_or]
    exact ⟨⟨⟨by decide, hupper⟩, by decide⟩, hnumber⟩
  have hnames := backslash_not_mem_array (h.lowerStem.append "_token_names" (by decide))
    fun name hname => (h.names name hname).2.1
  have hlexemes := backslash_not_mem_array (h.lowerStem.append "_keyword_lexemes" (by decide))
    fun lexeme hlexeme => (h.lexemes lexeme hlexeme).1
  have hpragma : '\\' ∉ "#pragma once\n".toList := by decide
  have hnewline : '\\' ≠ '\n' := by decide
  unfold body
  simp only [List.mem_append, List.mem_cons, not_or]
  exact ⟨hpragma, hnewline, hcount, hnewline, hnames, hnewline, hlexemes⟩

/-- The arrays of a header are read as they are exactly if no lexeme has a quote in it. -/
theorem readArrays?_body_iff (h : header.Legible) :
    readArrays? header.body = some header.arrays ↔
      ∀ lexeme ∈ header.lexemes, '"' ∉ lexeme.toList := by
  constructor
  · intro hread
    have hmem : (header.lowerStem ++ "_keyword_lexemes", header.lexemes) ∈ header.arrays :=
      List.mem_cons_of_mem _ List.mem_cons_self
    exact quote_not_mem_of_readArrays? (backslash_not_mem_body h) hread hmem
  · intro hquote
    refine readArrays?_of_lex ?_ (lex_body h hquote)
    intro token htoken
    simp only [List.mem_cons, List.not_mem_nil, or_false] at htoken
    rcases htoken with rfl | rfl <;> rfl

/-- A first line without tokens can be left out. -/
theorem readArrays?_render (header : CHeader) (hnotice : lex .c header.notice.toList = some []) :
    readArrays? header.render.toList = readArrays? header.body := by
  rw [readArrays?, readArrays?, toList_render, lex_line hnotice]
  cases lex .c header.body <;> rfl

end CHeader

namespace Vocabulary

/-- Names have word characters only. -/
theorem plain_names (grammar : String) : CHeader.Plain (ofGrammar grammar).names := by
  intro name hname
  have hchar (c : Char) (hc : TokenRule.isNameChar c = false) : c ∉ name.toList := by
    intro hmem
    rw [(isName_of_mem_names hname).isNameChar hmem] at hc
    contradiction
  exact ⟨hchar '"' (by decide), hchar '\\' (by decide), hchar '\n' (by decide)⟩

theorem legible_ofVocabulary (grammar : String) {options : Options}
    (hstem : IsStem options.stem.toList) :
    (CHeader.ofVocabulary (ofGrammar grammar) options).Legible where
  upperStem := (options.isCapitalized_upperStem hstem).toIsIdentifier
  lowerStem := (options.isLettered_lowerStem hstem).toIsIdentifier
  names := plain_names grammar
  lexemes := by
    intro lexeme hlexeme
    constructor
    · intro hmem
      exact (plain_of_mem_keywordLexemes hlexeme hmem).2 (by decide)
    · exact not_mem_newline_keywordLexemes grammar hlexeme

/-- After its first line, which is free text, a header declares the names and the lexemes as they
are exactly if no lexeme has a double quote in it.  The rows of names are right in any case. -/
theorem cHeader_readable_iff (grammar : String) (options : Options)
    (hstem : IsStem options.stem.toList) :
    ∃ body : List Char,
      ((ofGrammar grammar).cHeader options).toList = options.notice.toList ++ '\n' :: body ∧
      ('\n' ∉ options.source.toList →
        readArrays? ((ofGrammar grammar).cHeader options).toList = readArrays? body) ∧
      (∀ name ∈ (ofGrammar grammar).names, readRow? (CHeader.row name).toList = some name) ∧
      (∀ lexeme ∈ (ofGrammar grammar).keywordLexemes,
        (readRow? (CHeader.row lexeme).toList = some lexeme ↔ '"' ∉ lexeme.toList)) ∧
      (readArrays? body =
          some [(options.lowerStem ++ "_token_names", (ofGrammar grammar).names),
            (options.lowerStem ++ "_keyword_lexemes", (ofGrammar grammar).keywordLexemes)] ↔
        ∀ lexeme ∈ (ofGrammar grammar).keywordLexemes, '"' ∉ lexeme.toList) := by
  have hlegible := legible_ofVocabulary grammar hstem
  refine ⟨(CHeader.ofVocabulary (ofGrammar grammar) options).body, CHeader.toList_render _, ?_, ?_,
    ?_, CHeader.readArrays?_body_iff hlegible⟩
  · intro hsource
    exact CHeader.readArrays?_render _ (options.lex_notice hsource)
  · intro name hname
    obtain ⟨hquote, hbackslash, hnewline⟩ := hlegible.names name hname
    exact (CHeader.readRow?_row_iff hbackslash hnewline).2 hquote
  · intro lexeme hlexeme
    obtain ⟨hbackslash, hnewline⟩ := hlegible.lexemes lexeme hlexeme
    exact CHeader.readRow?_row_iff hbackslash hnewline

theorem cHeader_of_if : IsStem "nova".toList ∧
    readArrays? ((ofGrammar "IF : 'if' ;\nID : [a-z]+ ;").cHeader {}).toList =
      some [("nova_token_names", ["IF", "ID"]), ("nova_keyword_lexemes", ["if"])] := by
  obtain ⟨body, -, hline, -, -, hread⟩ :=
    cHeader_readable_iff "IF : 'if' ;\nID : [a-z]+ ;" {} (by decide)
  have harrays := hread.2 (by decide +kernel)
  refine ⟨by decide, ?_⟩
  rw [hline (by decide), harrays]
  decide +kernel

/-- The lexeme that is a quote makes a row of three quotes. -/
theorem cHeader_of_quote :
    (ofGrammar "DQUOTE : '\"' ;").names = ["DQUOTE"] ∧
      (ofGrammar "DQUOTE : '\"' ;").keywordLexemes = ["\""] ∧
      readRow? (CHeader.row "\"").toList = none ∧
      readArrays? ((ofGrammar "DQUOTE : '\"' ;").cHeader {}).toList ≠
        some [("nova_token_names", ["DQUOTE"]), ("nova_keyword_lexemes", ["\""])] := by
  have hnames : (ofGrammar "DQUOTE : '\"' ;").names = ["DQUOTE"] := by decide +kernel
  have hlexemes : (ofGrammar "DQUOTE : '\"' ;").keywordLexemes = ["\""] := by decide +kernel
  have harrays : [("nova_token_names", ["DQUOTE"]), ("nova_keyword_lexemes", ["\""])] =
      (CHeader.ofVocabulary (ofGrammar "DQUOTE : '\"' ;") {}).arrays := by decide +kernel
  have hlegible := legible_ofVocabulary "DQUOTE : '\"' ;" (show IsStem (Options.stem {}).toList by decide)
  refine ⟨hnames, hlexemes, by decide +kernel, fun hread => ?_⟩
  have hbody := CHeader.readArrays?_render (CHeader.ofVocabulary (ofGrammar "DQUOTE : '\"' ;") {})
    (Options.lex_notice (by decide))
  have hplain := (CHeader.readArrays?_body_iff hlegible).1 (hbody.symm.trans (harrays ▸ hread))
  refine hplain "\"" ?_ (by decide)
  rw [CHeader.ofVocabulary, hlexemes]
  exact List.mem_cons_self

end Vocabulary

end TokenTables
