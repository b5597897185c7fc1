import TokenTables.Artifact
import TokenTables.Proofs.Grammar.Extraction
import TokenTables.Proofs.Syntax.Spelling
import TokenTables.Proofs.Text.Newline
/-!
# Artifacts determine their tables

Two artifacts with the same options have the same text only if they list the same names and the same
lexemes.  The text is looked at line by line, since a stem or a source of any spelling may stand in
it: the entries of a table have a line each, the lines before them are as many in both texts, and no
entry looks like the line that closes its table.
-/

namespace TokenTables

open Text

theorem count_newline_toString (n : Nat) : (toString n).toList.count '\n' = 0 :=
  List.count_eq_zero_of_not_mem (Syntax.not_mem_toString n (by decide))

/-! ## C headers -/

namespace CHeader

def rowLine (entry : String) : List Char :=
  ("    \"" ++ entry ++ "\",").toList

def arrayLine (name : String) : List Char :=
  ("static const char *const " ++ name ++ "[] = \x7b").toList

def countLine (header : CHeader) : List Char :=
  ("#define " ++ header.upperStem ++ "_TOKEN_KEYWORD_COUNT " ++
    toString header.keywordCount).toList

theorem count_newline_countLine (header : CHeader) :
    header.countLine.count '\n' = header.upperStem.toList.count '\n' := by
  have hopen : "#define ".toList.count '\n' = 0 := by decide
  have hname : "_TOKEN_KEYWORD_COUNT ".toList.count '\n' = 0 := by decide
  unfold countLine
  simp only [String.toList_append, List.count_append, count_newline_toString, hopen, hname]
  omega

/-- A header after its first line. -/
def body (header : CHeader) : List Char :=
  "#pragma once\n".toList ++ '\n' :: (header.countLine ++ '\n' ::
    ((array (header.lowerStem ++ "_token_names") header.names).toList ++ '\n' ::
      (array (header.lowerStem ++ "_keyword_lexemes") header.lexemes).toList))

theorem toList_render (header : CHeader) :
    header.render.toList = header.notice.toList ++ '\n' :: header.body := by
  unfold body
  simp [render, countLine]

theorem toList_rows_cons (entry : String) (entries : List String) (rest : List Char) :
    (String.join ((entry :: entries).map row)).toList ++ rest =
      rowLine entry ++ '\n' :: ((String.join (entries.map row)).toList ++ rest) := by
  simp [row, rowLine]

theorem toList_array (name : String) (entries : List String) (rest : List Char) :
    (array name entries).toList ++ rest =
      arrayLine name ++ '\n' ::
        ((String.join (entries.map row)).toList ++ (['\x7d', ';'] ++ '\n' :: rest)) := by
  unfold array
  simp [arrayLine]

theorem rowLine_injective : Function.Injective rowLine := by
  intro x y h
  simpa [rowLine, String.toList_inj] using h

theorem rowLine_ne_close (entry : String) : rowLine entry ≠ ['\x7d', ';'] := by
  simp [rowLine]

theorem splitOn_rows {entries : List String} (h : ∀ entry ∈ entries, '\n' ∉ entry.toList)
    (rest : List Char) :
    ((String.join (entries.map row)).toList ++ rest).splitOn '\n' =
      entries.map rowLine ++ rest.splitOn '\n' := by
  induction entries with
  | nil => simp
  | cons entry entries ih =>
      have hentry : '\n' ∉ rowLine entry := by
        simpa [rowLine] using h entry List.mem_cons_self
      rw [toList_rows_cons, List.splitOn_append_cons_self_of_not_mem hentry,
        ih fun other hother => h other (List.mem_cons_of_mem _ hother)]
      rfl

theorem splitOn_array (name : String) {entries : List String}
    (h : ∀ entry ∈ entries, '\n' ∉ entry.toList) (rest : List Char) :
    ((array name entries).toList ++ rest).splitOn '\n' =
      (arrayLine name).splitOn '\n' ++
        (entries.map rowLine ++ ['\x7d', ';'] :: rest.splitOn '\n') := by
  rw [toList_array, List.splitOn_append_cons_self, splitOn_rows h,
    List.splitOn_append_cons_self_of_not_mem (by decide)]

theorem splitOn_body {header : CHeader} (hnames : ∀ name ∈ header.names, '\n' ∉ name.toList)
    (hlexemes : ∀ lexeme ∈ header.lexemes, '\n' ∉ lexeme.toList) :
    header.body.splitOn '\n' = "#pragma once\n".toList.splitOn '\n' ++
      (header.countLine.splitOn '\n' ++
        ((arrayLine (header.lowerStem ++ "_token_names")).splitOn '\n' ++
          (header.names.map rowLine ++ ['\x7d', ';'] :: [] ::
            ((arrayLine (header.lowerStem ++ "_keyword_lexemes")).splitOn '\n' ++
              (header.lexemes.map rowLine ++ ['\x7d', ';'] :: [[]]))))) := by
  have hlast := splitOn_array (header.lowerStem ++ "_keyword_lexemes") hlexemes []
  rw [List.append_nil, List.splitOn_nil] at hlast
  unfold body
  rw [List.splitOn_append_cons_self,
    List.splitOn_append_cons_self, splitOn_array _ hnames,
    List.splitOn_cons_eq_if_modifyHead, if_pos (by decide), hlast]

/-- Headers alike up to their tables are alike only if the tables are the same. -/
theorem tables_eq_of_render_eq (a b : CHeader) (hnotice : a.notice = b.notice)
    (hupper : a.upperStem = b.upperStem) (hlower : a.lowerStem = b.lowerStem)
    (hnames : ∀ name ∈ a.names ++ b.names, '\n' ∉ name.toList)
    (hlexemes : ∀ lexeme ∈ a.lexemes ++ b.lexemes, '\n' ∉ lexeme.toList)
    (h : a.render = b.render) : a.names = b.names ∧ a.lexemes = b.lexemes := by
  have hlines : a.body.splitOn '\n' = b.body.splitOn '\n' := by
    have htext : a.render.toList = b.render.toList := by rw [h]
    rw [toList_render, toList_render, hnotice] at htext
    rw [(List.cons.inj (List.append_cancel_left htext)).2]
  rw [splitOn_body (fun name hname => hnames name (List.mem_append_left _ hname))
      (fun lexeme hlexeme => hlexemes lexeme (List.mem_append_left _ hlexeme)),
    splitOn_body (fun name hname => hnames name (List.mem_append_right _ hname))
      (fun lexeme hlexeme => hlexemes lexeme (List.mem_append_right _ hlexeme)),
    hlower] at hlines
  have hcount : (a.countLine.splitOn '\n').length = (b.countLine.splitOn '\n').length := by
    rw [length_splitOn, length_splitOn, count_newline_countLine, count_newline_countLine, hupper]
  have harrays := List.append_inj_right (List.append_cancel_left hlines) hcount
  obtain ⟨hnames, hrest⟩ :=
    rows_inj rowLine_injective rowLine_ne_close (List.append_cancel_left harrays)
  obtain ⟨hlexemes, -⟩ := rows_inj rowLine_injective rowLine_ne_close
    (List.append_cancel_left (List.cons.inj hrest).2)
  exact ⟨hnames, hlexemes⟩

end CHeader

/-! ## Rust modules -/

namespace RustModule

def rowLine (entry : String) : List Char :=
  [' ', ' ', ' ', ' '] ++ (quoted entry).toList ++ [',']

def tableLine (name : String) : CodeLine :=
  ⟨0, "pub static " ++ name ++ ": &[&str] = &["⟩

def countLine (module : RustModule) : CodeLine :=
  ⟨0, "pub const " ++ module.upperStem ++ "_TOKEN_KEYWORD_COUNT: usize = " ++
    toString module.keywordCount ++ ";"⟩

theorem count_newline_countLine (module : RustModule) :
    module.countLine.text.toList.count '\n' = module.upperStem.toList.count '\n' := by
  have hopen : "pub const ".toList.count '\n' = 0 := by decide
  have hname : "_TOKEN_KEYWORD_COUNT: usize = ".toList.count '\n' = 0 := by decide
  have hclose : ";".toList.count '\n' = 0 := by decide
  unfold countLine
  simp only [String.toList_append, List.count_append, count_newline_toString, hopen, hname, hclose]
  omega

theorem rowLine_injective : Function.Injective rowLine := by
  intro x y h
  have hquoted : (quoted x).toList = (quoted y).toList :=
    List.append_cancel_left (List.append_cancel_right h)
  exact Syntax.quoted_injective (String.toList_inj.1 hquoted)

theorem rowLine_ne_close (entry : String) : rowLine entry ≠ [']', ';'] := by
  simp [rowLine]

theorem written_row (entry : String) :
    CodeLine.written ⟨1, quoted entry ++ ","⟩ = [rowLine entry] := by
  have hline : '\n' ∉ (quoted entry ++ ",").toList := by
    simpa using Syntax.not_mem_newline_quoted entry
  rw [CodeLine.written_of_not_mem 1 hline]
  simp [indent, rowLine]

theorem written_table (name : String) (entries : List String) :
    (table name entries).flatMap CodeLine.written =
      (tableLine name).written ++ (entries.map rowLine ++ [[']', ';']]) := by
  have hclose : CodeLine.written ⟨0, "];"⟩ = [[']', ';']] := by decide
  simp [table, tableLine, List.flatMap_map, written_row, hclose, ← List.map_eq_flatMap]

theorem spaced_singleton (block : List CodeLine) : spaced [block] = block :=
  List.intercalate_singleton

theorem spaced_cons_cons (first second : List CodeLine) (blocks : List (List CodeLine)) :
    spaced (first :: second :: blocks) = first ++ ⟨0, ""⟩ :: spaced (second :: blocks) := by
  simp [spaced, List.intercalate_cons_cons]

theorem exists_spaced_cons (block : List CodeLine) (blocks : List (List CodeLine)) :
    ∃ rest, spaced (block :: blocks) = block ++ rest := by
  cases blocks with
  | nil => exact ⟨[], by rw [spaced_singleton, List.append_nil]⟩
  | cons next blocks => exact ⟨_, spaced_cons_cons block next blocks⟩

theorem code_ne_nil (module : RustModule) : module.code ≠ [] := by
  rw [code, tableItems, List.cons_append, List.cons_append, spaced_cons_cons]
  exact List.cons_ne_nil _ _

/-- What comes first in a module, and its tables. -/
theorem exists_written_code (module : RustModule) : ∃ rest : List (List Char),
    module.code.flatMap CodeLine.written =
      (⟨0, module.notice⟩ : CodeLine).written ++ ([] :: (module.countLine.written ++ ([] ::
        ((tableLine module.namesTable).written ++ (module.enum.names.map rowLine ++ [']', ';'] ::
          ([] :: ((tableLine (module.upperStem ++ "_KEYWORD_LEXEMES")).written ++
            (module.lexemes.map rowLine ++ [']', ';'] :: rest)))))))) := by
  have hempty : CodeLine.written ⟨0, ""⟩ = [[]] := by decide
  obtain ⟨rest, hrest⟩ :=
    exists_spaced_cons (table (module.upperStem ++ "_KEYWORD_LEXEMES") module.lexemes)
      module.enumItems
  refine ⟨rest.flatMap CodeLine.written, ?_⟩
  have hcode : module.code = [⟨0, module.notice⟩] ++ ⟨0, ""⟩ :: ([module.countLine] ++ ⟨0, ""⟩ ::
      (table module.namesTable module.enum.names ++ ⟨0, ""⟩ ::
        (table (module.upperStem ++ "_KEYWORD_LEXEMES") module.lexemes ++ rest))) := by
    rw [code, tableItems, List.cons_append, List.cons_append, List.cons_append, List.singleton_append,
      spaced_cons_cons, spaced_cons_cons, spaced_cons_cons, hrest]
    rfl
  rw [hcode]
  simp [written_table, hempty]

/-- Modules alike up to their tables are alike only if the tables are the same. -/
theorem tables_eq_of_render_eq (a b : RustModule) (hnotice : a.notice = b.notice)
    (hupper : a.upperStem = b.upperStem) (h : a.render = b.render) :
    a.enum.names = b.enum.names ∧ a.lexemes = b.lexemes := by
  have hlines := written_eq_of_renderCode_eq a.code_ne_nil b.code_ne_nil h
  obtain ⟨resta, ha⟩ := exists_written_code a
  obtain ⟨restb, hb⟩ := exists_written_code b
  rw [ha, hb, hnotice, namesTable, namesTable, hupper] at hlines
  have hcount : a.countLine.written.length = b.countLine.written.length := by
    rw [CodeLine.length_written, CodeLine.length_written, count_newline_countLine,
      count_newline_countLine, hupper]
  have htables := List.append_inj_right (List.cons.inj (List.append_cancel_left hlines)).2 hcount
  obtain ⟨hnames, hrest⟩ := rows_inj rowLine_injective rowLine_ne_close
    (List.append_cancel_left (List.cons.inj htables).2)
  obtain ⟨hlexemes, -⟩ := rows_inj rowLine_injective rowLine_ne_close
    (List.append_cancel_left (List.cons.inj hrest).2)
  exact ⟨hnames, hlexemes⟩

end RustModule

/-! ## Artifacts of grammars -/

namespace Vocabulary

theorem cHeader_eq_iff {s t : Vocabulary} {options : Options}
    (hnames : ∀ name ∈ s.names ++ t.names, '\n' ∉ name.toList)
    (hlexemes : ∀ lexeme ∈ s.keywordLexemes ++ t.keywordLexemes, '\n' ∉ lexeme.toList) :
    s.cHeader options = t.cHeader options ↔
      s.names = t.names ∧ s.keywordLexemes = t.keywordLexemes := by
  constructor
  · intro h
    exact CHeader.tables_eq_of_render_eq (.ofVocabulary s options) (.ofVocabulary t options)
      rfl rfl rfl hnames hlexemes h
  · rintro ⟨hnames, hlexemes⟩
    unfold cHeader CHeader.ofVocabulary keywordCount
    rw [hnames, hlexemes]

theorem ofVocabulary?_eq_ok_iff {vocabulary : Vocabulary} {options : Options}
    {module : RustModule} :
    RustModule.ofVocabulary? vocabulary options = .ok module ↔
      conflict? vocabulary.names = none ∧ module =
        { notice := options.notice
          upperStem := options.upperStem
          enumName := options.enumName
          keywordCount := vocabulary.keywordCount
          lexemes := vocabulary.keywordLexemes
          enum := .ofNames vocabulary.names } := by
  unfold RustModule.ofVocabulary? TokenEnum.ofNames?
  cases conflict? vocabulary.names with
  | some conflict => simp [Except.map]
  | none => simp [Except.map, eq_comm]

theorem rustModule_eq_ok_iff {vocabulary : Vocabulary} {options : Options} {text : String} :
    vocabulary.rustModule options = .ok text ↔
      ∃ module, RustModule.ofVocabulary? vocabulary options = .ok module ∧
        module.render = text := by
  unfold rustModule
  cases RustModule.ofVocabulary? vocabulary options <;> simp [Except.map]

theorem rustModule_eq_iff {s t : Vocabulary} {options : Options} {a b : String}
    (ha : s.rustModule options = .ok a) (hb : t.rustModule options = .ok b) :
    a = b ↔ s.names = t.names ∧ s.keywordLexemes = t.keywordLexemes := by
  obtain ⟨m, hm, rfl⟩ := rustModule_eq_ok_iff.1 ha
  obtain ⟨n, hn, rfl⟩ := rustModule_eq_ok_iff.1 hb
  obtain ⟨-, hm⟩ := ofVocabulary?_eq_ok_iff.1 hm
  obtain ⟨-, hn⟩ := ofVocabulary?_eq_ok_iff.1 hn
  constructor
  · intro h
    obtain ⟨hnames, hlexemes⟩ := RustModule.tables_eq_of_render_eq m n (by rw [hm, hn])
      (by rw [hm, hn]) h
    rw [hm, hn] at hnames hlexemes
    exact ⟨by simpa using hnames, hlexemes⟩
  · rintro ⟨hnames, hlexemes⟩
    rw [hm, hn, keywordCount, keywordCount, hnames, hlexemes]

/-- With the same options, two vocabularies whose entries are each on one line have the same artifact
exactly if they have the same names and the same lexemes. -/
theorem artifact_eq_iff {s t : Vocabulary} {options : Options} {a b : String}
    (hnames : ∀ name ∈ s.names ++ t.names, '\n' ∉ name.toList)
    (hlexemes : ∀ lexeme ∈ s.keywordLexemes ++ t.keywordLexemes, '\n' ∉ lexeme.toList)
    (ha : s.artifact options = .ok a) (hb : t.artifact options = .ok b) :
    a = b ↔ s.names = t.names ∧ s.keywordLexemes = t.keywordLexemes := by
  unfold artifact at ha hb
  cases htarget : options.target with
  | cHeader =>
      rw [htarget] at ha hb
      obtain rfl := Except.ok.inj ha
      obtain rfl := Except.ok.inj hb
      exact cHeader_eq_iff hnames hlexemes
  | rustModule =>
      rw [htarget] at ha hb
      exact rustModule_eq_iff ha hb

/-- Nothing but the names and the lexemes goes into an artifact. -/
theorem artifact_congr {s t : Vocabulary} (hnames : s.names = t.names)
    (hlexemes : s.keywordLexemes = t.keywordLexemes) (options : Options) :
    s.artifact options = t.artifact options := by
  have hcount : s.keywordCount = t.keywordCount := by
    rw [keywordCount, keywordCount, hnames]
  unfold artifact cHeader CHeader.ofVocabulary rustModule RustModule.ofVocabulary?
  rw [hnames, hlexemes, hcount]

theorem not_mem_newline_names (grammar : String) {name : String}
    (h : name ∈ (ofGrammar grammar).names) : '\n' ∉ name.toList := by
  intro hfeed
  have hchar := (isName_of_mem_names h).isNameChar hfeed
  revert hchar
  decide

theorem not_mem_newline_keywordLexemes (grammar : String) {lexeme : String}
    (h : lexeme ∈ (ofGrammar grammar).keywordLexemes) : '\n' ∉ lexeme.toList := by
  intro hfeed
  have hbreak := (plain_of_mem_keywordLexemes h hfeed).1
  revert hbreak
  decide

section Pair

variable (g h : String)

theorem not_mem_newline_names_append :
    ∀ name ∈ (ofGrammar g).names ++ (ofGrammar h).names, '\n' ∉ name.toList := by
  intro name hname
  rcases List.mem_append.1 hname with hname | hname
  · exact not_mem_newline_names g hname
  · exact not_mem_newline_names h hname

theorem not_mem_newline_keywordLexemes_append :
    ∀ lexeme ∈ (ofGrammar g).keywordLexemes ++ (ofGrammar h).keywordLexemes,
      '\n' ∉ lexeme.toList := by
  intro lexeme hlexeme
  rcases List.mem_append.1 hlexeme with hlexeme | hlexeme
  · exact not_mem_newline_keywordLexemes g hlexeme
  · exact not_mem_newline_keywordLexemes h hlexeme

end Pair

end Vocabulary

/-- With the same options, two grammars have the same artifact exactly if their rules have the same
names, in the same order, and the same lexemes. -/
theorem grammarArtifact_eq_iff {g h : String} {options : Options} {a b : String}
    (ha : grammarArtifact g options = .ok a) (hb : grammarArtifact h options = .ok b) :
    a = b ↔
      (Vocabulary.ofGrammar g).rules.map (·.name) = (Vocabulary.ofGrammar h).rules.map (·.name) ∧
        (Vocabulary.ofGrammar g).keywordLexemes = (Vocabulary.ofGrammar h).keywordLexemes := by
  have hnames := Vocabulary.not_mem_newline_names_append g h
  have hlexemes := Vocabulary.not_mem_newline_keywordLexemes_append g h
  exact Vocabulary.artifact_eq_iff hnames hlexemes ha hb

theorem exists_eq_ok_of_isOk {ε α : Type} {result : Except ε α} (h : result.isOk = true) :
    ∃ a, result = .ok a := by
  cases result with
  | error e => contradiction
  | ok a => exact ⟨a, rfl⟩

/-- The layout of the rules makes no difference.  Another spelling of a keyword, another name, a rule
less and another order do. -/
theorem grammarArtifact_of_kw_if :
    let options : Options := { target := .rustModule }
    ∃ a b : String,
      grammarArtifact "KW_IF : 'if' ;\nA:[0-9];" options = .ok a ∧
      grammarArtifact "// keywords\n KW_IF:'if';\r\nA : ~'a' ;" options = .ok b ∧ a = b ∧
      ∀ other ∈ ["KW_IF : 'iff' ;\nA:[0-9];", "KW_IF : 'if' ;\nB:[0-9];", "KW_IF : 'if' ;",
          "A:[0-9];\nKW_IF : 'if' ;"],
        ∃ c, grammarArtifact other options = .ok c ∧ a ≠ c := by
  intro options
  obtain ⟨a, ha⟩ : ∃ a, grammarArtifact "KW_IF : 'if' ;\nA:[0-9];" options = .ok a :=
    exists_eq_ok_of_isOk (by decide +kernel)
  obtain ⟨b, hb⟩ : ∃ b,
      grammarArtifact "// keywords\n KW_IF:'if';\r\nA : ~'a' ;" options = .ok b :=
    exists_eq_ok_of_isOk (by decide +kernel)
  refine ⟨a, b, ha, hb, (grammarArtifact_eq_iff ha hb).2 (by decide +kernel), ?_⟩
  intro other hother
  obtain ⟨c, hc⟩ : ∃ c, grammarArtifact other options = .ok c := by
    apply exists_eq_ok_of_isOk
    revert other
    decide +kernel
  refine ⟨c, hc, fun heq => ?_⟩
  have htables := (grammarArtifact_eq_iff ha hc).1 heq
  clear ha hb hc heq
  revert other
  decide +kernel

end TokenTables
