import TokenTables.Proofs.Artifact.Determined
import TokenTables.Proofs.Artifact.Options
import TokenTables.Proofs.Naming.OneLine
import TokenTables.Proofs.Syntax.Declaration
/-!
# Tables of strings in a module

A table gives back the strings that it was written for, with no condition on them.  In a module the
tables are found by their names, as long as the stem and the source of the options stay on one line:
they are free text in the lines that come first.
-/

namespace TokenTables

open Naming Syntax Text

namespace Options

variable {options : Options}

theorem newline_not_mem_upperStem (h : '\n' ∉ options.stem.toList) :
    '\n' ∉ options.upperStem.toList :=
  newline_not_mem_upperSnake h

end Options

namespace RustModule

theorem stringRows_rowLine (entries : List String) :
    List.Forall₂ StringRow (entries.map rowLine) entries := by
  rw [List.forall₂_map_left_iff, List.forall₂_same]
  intro entry _
  exact stringRow_quoted entry

theorem close_not_mem_rows (entries : List String) : "];".toList ∉ entries.map rowLine := by
  intro hclose
  obtain ⟨entry, -, hentry⟩ := List.mem_map.1 hclose
  exact rowLine_ne_close entry hentry

theorem rowLine_ne_tableOpening (entry name : String) : rowLine entry ≠ tableOpening name := by
  simp [rowLine, tableOpening]

theorem written_tableLine {name : String} (h : '\n' ∉ name.toList) :
    (tableLine name).written = [tableOpening name] := by
  have hline : '\n' ∉ ("pub static " ++ name ++ ": &[&str] = &[").toList := by
    simpa using h
  rw [tableLine, CodeLine.written_zero hline, tableOpening]

/-- A table is read from the first line that opens it. -/
theorem readTableLines?_of_lines {name : String} {entries : List String} {text : List Char}
    {before after : List (List Char)}
    (hlines : text.splitOn '\n' =
      before ++ tableOpening name :: (entries.map rowLine ++ "];".toList :: after))
    (hbefore : ∀ line ∈ before, line ≠ tableOpening name) :
    readTableLines? name text = some entries := by
  have hopens : ∀ line ∈ before, (line == tableOpening name) = false := by
    intro line hline
    exact beq_eq_false_iff_ne.2 (hbefore line hline)
  have hrows : linesBetween? (· == tableOpening name) "];".toList
      (tableOpening name :: (entries.map rowLine ++ "];".toList :: after)) =
        some (entries.map rowLine) :=
    linesBetween?_cons (by simp) (close_not_mem_rows entries) after
  rw [readTableLines?, hlines, linesBetween?_append hopens, hrows, Option.bind_some,
    readStrings?_of_stringRows (stringRows_rowLine entries)]

theorem written_countLine {module : RustModule} (h : '\n' ∉ module.upperStem.toList) :
    module.countLine.written = [module.countLine.text.toList] := by
  have hline : '\n' ∉ module.countLine.text.toList := by
    simp only [countLine, String.toList_append, List.mem_append, not_or]
    exact ⟨⟨⟨⟨by decide, h⟩, by decide⟩, not_mem_toString _ (by decide)⟩, by decide⟩
  exact CodeLine.written_zero hline

/-! ## Modules by their lines -/

/-- The lines in front of the tables, if each is one line. -/
def topLines (module : RustModule) : List (List Char) :=
  [module.notice.toList, [], module.countLine.text.toList, []]

/-- What comes before the tables of a module is a comment and a constant, on a line each. -/
structure HasPlainTop (module : RustModule) : Prop where
  comment : ['/', '/'] <+: module.notice.toList
  notice : '\n' ∉ module.notice.toList
  upperStem : '\n' ∉ module.upperStem.toList

namespace HasPlainTop

variable {module : RustModule}

theorem written_notice (h : module.HasPlainTop) :
    CodeLine.written ⟨0, module.notice⟩ = [module.notice.toList] :=
  CodeLine.written_zero h.notice

theorem ne_tableOpening_of_mem_topLines (h : module.HasPlainTop) (name : String) {line : List Char}
    (hline : line ∈ module.topLines) : line ≠ tableOpening name := by
  obtain ⟨rest, hnotice⟩ := h.comment
  simp only [topLines, List.mem_cons, List.not_mem_nil, or_false] at hline
  rcases hline with rfl | rfl | rfl | rfl
  · simp [← hnotice, tableOpening]
  · simp [tableOpening]
  · simp [countLine, tableOpening]
  · simp [tableOpening]

theorem exists_splitOn_render (h : module.HasPlainTop) : ∃ rest : List (List Char),
    module.render.toList.splitOn '\n' =
      module.topLines ++ tableOpening module.namesTable :: (module.enum.names.map rowLine ++
        "];".toList :: ([] :: tableOpening (module.upperStem ++ "_KEYWORD_LEXEMES") ::
          (module.lexemes.map rowLine ++ "];".toList :: rest))) := by
  obtain ⟨rest, hlines⟩ := exists_written_code module
  have hnames : '\n' ∉ module.namesTable.toList := by
    simpa [namesTable] using h.upperStem
  have hlexemes : '\n' ∉ (module.upperStem ++ "_KEYWORD_LEXEMES").toList := by
    simpa using h.upperStem
  refine ⟨rest, ?_⟩
  rw [render, splitOn_renderCode module.code_ne_nil, hlines, h.written_notice,
    written_countLine h.upperStem, written_tableLine hnames, written_tableLine hlexemes]
  rfl

theorem readTableLines?_names (h : module.HasPlainTop) :
    readTableLines? module.namesTable module.render.toList = some module.enum.names := by
  obtain ⟨rest, hlines⟩ := h.exists_splitOn_render
  exact readTableLines?_of_lines hlines fun _ hline => h.ne_tableOpening_of_mem_topLines _ hline

/-- The names of the tables differ, so the first one is passed over. -/
theorem readTableLines?_lexemes (h : module.HasPlainTop) :
    readTableLines? (module.upperStem ++ "_KEYWORD_LEXEMES") module.render.toList =
      some module.lexemes := by
  obtain ⟨rest, hlines⟩ := h.exists_splitOn_render
  have hassoc : module.render.toList.splitOn '\n' =
      (module.topLines ++ tableOpening module.namesTable ::
        (module.enum.names.map rowLine ++ ["];".toList, []])) ++
          tableOpening (module.upperStem ++ "_KEYWORD_LEXEMES") ::
            (module.lexemes.map rowLine ++ "];".toList :: rest) := by
    rw [hlines]
    simp
  refine readTableLines?_of_lines hassoc fun line hline => ?_
  rcases List.mem_append.1 hline with hline | hline
  · exact h.ne_tableOpening_of_mem_topLines _ hline
  · rcases List.mem_cons.1 hline with rfl | hline
    · simp [tableOpening, namesTable]
    · rcases List.mem_append.1 hline with hline | hline
      · obtain ⟨entry, -, rfl⟩ := List.mem_map.1 hline
        exact rowLine_ne_tableOpening entry _
      · simp only [List.mem_cons, List.not_mem_nil, or_false] at hline
        rcases hline with rfl | rfl <;> simp [tableOpening]

end HasPlainTop

end RustModule

namespace Vocabulary

theorem hasPlainTop_ofVocabulary? {vocabulary : Vocabulary} {options : Options}
    {module : RustModule} (hstem : '\n' ∉ options.stem.toList)
    (hsource : '\n' ∉ options.source.toList)
    (h : RustModule.ofVocabulary? vocabulary options = .ok module) : module.HasPlainTop := by
  obtain ⟨-, rfl⟩ := ofVocabulary?_eq_ok_iff.1 h
  exact {
    comment := ⟨_, Options.toList_notice.symm⟩
    notice := Options.newline_not_mem_notice hsource
    upperStem := Options.newline_not_mem_upperStem hstem }

end Vocabulary

/-- Whatever its strings are, the lines of a table are rows of which each is one of the strings, and
they are read together as the list of them.  So the two tables of a module are read as the names and
the lexemes of the vocabulary, if the stem and the source are on one line. -/
theorem readTableLines?_rustModule :
    (∀ (name : String) (entries : List String), ∃ rows : List (List Char),
      (RustModule.table name entries).flatMap CodeLine.written =
        (RustModule.tableLine name).written ++ rows ++ ["];".toList] ∧
      List.Forall₂ StringRow rows entries ∧
      (lex .rust (['\n'].intercalate rows)).bind readStrings? = some entries) ∧
    ∀ (vocabulary : Vocabulary) (options : Options) (text : String),
      '\n' ∉ options.stem.toList → '\n' ∉ options.source.toList →
      vocabulary.rustModule options = .ok text →
      readTableLines? (options.upperStem ++ "_TOKEN_NAMES") text.toList =
        some vocabulary.names ∧
      readTableLines? (options.upperStem ++ "_KEYWORD_LEXEMES") text.toList =
        some vocabulary.keywordLexemes := by
  constructor
  · intro name entries
    refine ⟨entries.map RustModule.rowLine, ?_, RustModule.stringRows_rowLine entries,
      readStrings?_of_stringRows (RustModule.stringRows_rowLine entries)⟩
    rw [RustModule.written_table, List.append_assoc]
    rfl
  · intro vocabulary options text hstem hsource h
    obtain ⟨module, hmodule, rfl⟩ := Vocabulary.rustModule_eq_ok_iff.1 h
    have htop := Vocabulary.hasPlainTop_ofVocabulary? hstem hsource hmodule
    have hnames := htop.readTableLines?_names
    have hlexemes := htop.readTableLines?_lexemes
    obtain ⟨-, rfl⟩ := Vocabulary.ofVocabulary?_eq_ok_iff.1 hmodule
    rw [TokenEnum.names_ofNames] at hnames
    exact ⟨hnames, hlexemes⟩

/-- Names and values with whatever a literal escapes. -/
def oddVocabulary : Vocabulary :=
  ⟨[⟨"A\"];\n", "'\\'"⟩, ⟨"IF", "'é\u2028\"'"⟩, ⟨"ΣΑΣ\\", "'\t'"⟩], 0⟩

theorem readTableLines?_oddVocabulary : ∃ text : String,
    oddVocabulary.rustModule { source := "\"];", stem := "ß// \r" } = .ok text ∧
    readTableLines? "SS//_\r_TOKEN_NAMES" text.toList = some ["A\"];\n", "IF", "ΣΑΣ\\"] ∧
    readTableLines? "SS//_\r_KEYWORD_LEXEMES" text.toList = some ["é\u2028\"", "\t"] := by
  obtain ⟨text, htext⟩ : ∃ text,
      oddVocabulary.rustModule { source := "\"];", stem := "ß// \r" } = .ok text :=
    exists_eq_ok_of_isOk (by decide +kernel)
  have hstem : Options.upperStem { source := "\"];", stem := "ß// \r" } = "SS//_\r" := by
    decide +kernel
  have hlexemes : oddVocabulary.keywordLexemes = ["é\u2028\"", "\t"] := by decide +kernel
  have htables := readTableLines?_rustModule.2 oddVocabulary _ text (by decide) (by decide) htext
  rw [hstem, hlexemes] at htables
  exact ⟨text, htext, htables⟩

end TokenTables
