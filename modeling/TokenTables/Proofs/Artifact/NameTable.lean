import TokenTables.Proofs.Artifact.FirstConflict
import TokenTables.Proofs.Artifact.HeaderText
import TokenTables.Proofs.Artifact.StringTable
/-!
# The table of names in an artifact

Whatever the options are, the table of names is found in an artifact by its place: how many lines come
before it depends on the options only, since the source and the stem may bring in line breaks and the
grammar cannot.
-/

namespace TokenTables

open Syntax Text

/-! ## Reading the table -/

namespace Target

def dialect : Target → Dialect
  | .cHeader => .c
  | .rustModule => .rust

/-- The line that closes a table. -/
def tableClose : Target → List Char
  | .cHeader => ['\x7d', ';']
  | .rustModule => [']', ';']

end Target

namespace Options

/-- The name of the table of names. -/
def namesTable (options : Options) : String :=
  match options.target with
  | .cHeader => options.lowerStem ++ "_token_names"
  | .rustModule => options.upperStem ++ "_TOKEN_NAMES"

/-- The lines that open the table of names; the last of them ends in a bracket. -/
def namesOpening (options : Options) : List (List Char) :=
  match options.target with
  | .cHeader =>
    ("static const char *const " ++ options.namesTable ++ "[] = \x7b").toList.splitOn '\n'
  | .rustModule => newlinePieces ("pub static " ++ options.namesTable ++ ": &[&str] = &[").toList

/-- How many lines come before the table of names: four, and those that the source and the stem bring
in. -/
def linesBeforeNames (options : Options) : Nat :=
  options.source.toList.count '\n' + options.upperStem.toList.count '\n' + 4

end Options

/-- The strings in the rows between the opening of the table of names and the line that closes it. -/
def readNames? (options : Options) (text : List Char) : Option (List String) :=
  (options.namesOpening.isPrefixOf? ((text.splitOn '\n').drop options.linesBeforeNames)).bind
    fun rest =>
      if rest.contains options.target.tableClose then
        (lex options.target.dialect
          (['\n'].intercalate (rest.takeWhile (· != options.target.tableClose)))).bind readStrings?
      else none

theorem readNames?_of_lines {options : Options} {text : List Char} {names : List String}
    {before rows after : List (List Char)}
    (hlines : text.splitOn '\n' =
      before ++ (options.namesOpening ++ (rows ++ options.target.tableClose :: after)))
    (hbefore : before.length = options.linesBeforeNames)
    (hclose : options.target.tableClose ∉ rows)
    (hrows : List.Forall₂ (fun row name =>
      lex options.target.dialect row = some [.string name, .mark ',']) rows names) :
    readNames? options text = some names := by
  have hopening : options.namesOpening.isPrefixOf?
      ((text.splitOn '\n').drop options.linesBeforeNames) =
        some (rows ++ options.target.tableClose :: after) := by
    rw [List.isPrefixOf?_eq_some_iff_append_eq, hlines, List.drop_left' hbefore]
  have hends : (rows ++ options.target.tableClose :: after).contains options.target.tableClose :=
    List.contains_iff_mem.2 (List.mem_append_right _ List.mem_cons_self)
  rw [readNames?, hopening, Option.bind_some, if_pos hends, takeWhile_ne_append hclose]
  exact readStrings?_of_rows hrows

/-! ## Artifacts -/

theorem Options.count_newline_notice (options : Options) :
    options.notice.toList.count '\n' = options.source.toList.count '\n' := by
  have hopen : "// Auto-generated from ".toList.count '\n' = 0 := by decide
  have hclose : ". Do not edit manually.".toList.count '\n' = 0 := by decide
  unfold notice
  simp only [String.toList_append, List.count_append, hopen, hclose]
  omega

namespace Vocabulary

variable {vocabulary : Vocabulary} {options : Options}

theorem readNames?_cHeader (htarget : options.target = .cHeader)
    (hnames : CHeader.Plain vocabulary.names)
    (hlexemes : ∀ lexeme ∈ vocabulary.keywordLexemes, '\n' ∉ lexeme.toList) :
    readNames? options (vocabulary.cHeader options).toList = some vocabulary.names := by
  have hopening : (CHeader.arrayLine (options.lowerStem ++ "_token_names")).splitOn '\n' =
      options.namesOpening := by
    rw [Options.namesOpening, Options.namesTable, htarget]
    rfl
  have hfeed : ∀ name ∈ (CHeader.ofVocabulary vocabulary options).names, '\n' ∉ name.toList :=
    fun name hname => (hnames name hname).2.2
  have hbody := CHeader.splitOn_body hfeed hlexemes
  have hlines : (vocabulary.cHeader options).toList.splitOn '\n' =
      (options.notice.toList.splitOn '\n' ++ ("#pragma once\n".toList.splitOn '\n' ++
        (CHeader.ofVocabulary vocabulary options).countLine.splitOn '\n')) ++
      (options.namesOpening ++ (vocabulary.names.map CHeader.rowLine ++
        options.target.tableClose :: [] ::
          ((CHeader.arrayLine (options.lowerStem ++ "_keyword_lexemes")).splitOn '\n' ++
            (vocabulary.keywordLexemes.map CHeader.rowLine ++ ['\x7d', ';'] :: [[]])))) := by
    rw [cHeader, CHeader.toList_render, List.splitOn_append_cons_self, hbody, ← hopening, htarget]
    simp only [List.append_assoc]
    rfl
  refine readNames?_of_lines hlines ?_ ?_ ?_
  · have hpragma : ("#pragma once\n".toList.splitOn '\n').length = 2 := by decide
    have hupper : (CHeader.ofVocabulary vocabulary options).upperStem = options.upperStem := rfl
    simp only [List.length_append, hpragma, length_splitOn, CHeader.count_newline_countLine, hupper,
      Options.count_newline_notice, Options.linesBeforeNames]
    omega
  · intro hclose
    obtain ⟨name, -, hname⟩ := List.mem_map.1 hclose
    rw [htarget] at hname
    exact CHeader.rowLine_ne_close name hname
  · rw [List.forall₂_map_left_iff, List.forall₂_same, htarget]
    intro name hname
    obtain ⟨hquote, hbackslash, hnewline⟩ := hnames name hname
    exact CHeader.lex_rowLine hquote hbackslash hnewline

theorem readNames?_rustModule (htarget : options.target = .rustModule) {text : String}
    (h : vocabulary.rustModule options = .ok text) :
    readNames? options text.toList = some vocabulary.names := by
  obtain ⟨module, hmodule, rfl⟩ := rustModule_eq_ok_iff.1 h
  obtain ⟨-, hfields⟩ := ofVocabulary?_eq_ok_iff.1 hmodule
  have hnotice : module.notice = options.notice := by rw [hfields]
  have hupper : module.upperStem = options.upperStem := by rw [hfields]
  have hnames : module.enum.names = vocabulary.names := by
    rw [hfields, TokenEnum.names_ofNames]
  have hopening : (RustModule.tableLine module.namesTable).written = options.namesOpening := by
    rw [RustModule.tableLine, CodeLine.written_outside, Options.namesOpening, Options.namesTable,
      htarget, RustModule.namesTable, hupper]
  obtain ⟨rest, hrest⟩ := RustModule.exists_written_code module
  have hlines : module.render.toList.splitOn '\n' =
      ((⟨0, module.notice⟩ : CodeLine).written ++ ([] :: (module.countLine.written ++ [[]]))) ++
      (options.namesOpening ++ (vocabulary.names.map RustModule.rowLine ++
        options.target.tableClose ::
          ([] :: ((RustModule.tableLine (module.upperStem ++ "_KEYWORD_LEXEMES")).written ++
            (module.lexemes.map RustModule.rowLine ++ [']', ';'] :: rest))))) := by
    rw [RustModule.render, splitOn_renderCode module.code_ne_nil, hrest, hopening, hnames, htarget]
    simp only [List.append_assoc, List.cons_append, List.nil_append]
    rfl
  refine readNames?_of_lines hlines ?_ ?_ ?_
  · simp only [List.length_append, List.length_cons, List.length_nil, CodeLine.length_written,
      RustModule.count_newline_countLine, hupper, hnotice, Options.count_newline_notice,
      Options.linesBeforeNames]
    omega
  · rw [htarget]
    exact RustModule.close_not_mem_rows _
  · rw [List.forall₂_map_left_iff, List.forall₂_same, htarget]
    intro name _
    exact lex_row name

end Vocabulary

/-- Whatever the options are, the names of a grammar's rules are read back from its artifact. -/
theorem readNames?_grammarArtifact {grammar text : String} {options : Options}
    (h : grammarArtifact grammar options = .ok text) :
    readNames? options text.toList = some (Vocabulary.ofGrammar grammar).names := by
  unfold grammarArtifact Vocabulary.artifact at h
  cases htarget : options.target with
  | cHeader =>
      rw [htarget] at h
      obtain rfl := Except.ok.inj h
      exact Vocabulary.readNames?_cHeader htarget (Vocabulary.plain_names grammar)
        fun lexeme hlexeme => Vocabulary.not_mem_newline_keywordLexemes grammar hlexeme
  | rustModule =>
      rw [htarget] at h
      exact Vocabulary.readNames?_rustModule htarget h

/-- A grammar has a header in any case, and a module if the names have distinct variants. -/
theorem exists_grammarArtifact_iff {grammar : String} {options : Options} :
    (∃ text, grammarArtifact grammar options = .ok text) ↔
      options.target = .cHeader ∨ ((Vocabulary.ofGrammar grammar).names.map variantName).Nodup := by
  rw [← conflict?_eq_none_iff]
  unfold grammarArtifact Vocabulary.artifact
  cases options.target with
  | cHeader => simp
  | rustModule => simpa using Vocabulary.exists_rustModule_eq_ok_iff

end TokenTables
