import TokenTables.Proofs.Artifact.Conflict
import TokenTables.Proofs.Artifact.HeaderText
import TokenTables.Proofs.Artifact.StringTable
import TokenTables.Proofs.Syntax.RustEnum
/-!
# Declared names

With a stem for options an artifact declares identifiers, no two of them the same.  They are looked
for in its lines after the first line of the text, which repeats the source of the options as it is.
-/

namespace TokenTables

open Naming Syntax Text

theorem append_ne_append {s t a b : String} (ha : a.toList ≠ []) (hb : b.toList ≠ [])
    (h : a.toList.getLast? ≠ b.toList.getLast?) : s ++ a ≠ t ++ b := by
  intro heq
  have hlast : (s ++ a).toList.getLast? = (t ++ b).toList.getLast? := by rw [heq]
  rw [String.toList_append, String.toList_append, List.getLast?_append_of_ne_nil _ ha,
    List.getLast?_append_of_ne_nil _ hb] at hlast
  exact h hlast

namespace Options

variable {options : Options}

/-- The macro and the arrays of a header. -/
def headerNames (options : Options) : List String :=
  [options.upperStem ++ "_TOKEN_KEYWORD_COUNT", options.lowerStem ++ "_token_names",
    options.lowerStem ++ "_keyword_lexemes"]

/-- The constant and the tables of a module. -/
def tableNames (options : Options) : List String :=
  [options.upperStem ++ "_TOKEN_KEYWORD_COUNT", options.upperStem ++ "_TOKEN_NAMES",
    options.upperStem ++ "_KEYWORD_LEXEMES"]

theorem isLettered_headerNames (h : IsStem options.stem.toList) :
    ∀ name ∈ options.headerNames, IsLettered name.toList := by
  have hupper := (isCapitalized_upperStem h).isLettered
  have hlower := isLettered_lowerStem h
  simp only [headerNames, List.forall_mem_cons]
  exact ⟨hupper.append _ (by decide), hlower.append _ (by decide), hlower.append _ (by decide),
    List.forall_mem_nil _⟩

/-- The names differ in their last letters, or behind the same stem. -/
theorem nodup_headerNames (options : Options) : options.headerNames.Nodup := by
  have hnames : options.upperStem ++ "_TOKEN_KEYWORD_COUNT" ≠ options.lowerStem ++ "_token_names" :=
    append_ne_append (by decide) (by decide) (by decide)
  have hlexemes : options.upperStem ++ "_TOKEN_KEYWORD_COUNT" ≠
      options.lowerStem ++ "_keyword_lexemes" :=
    append_ne_append (by decide) (by decide) (by decide)
  simp [headerNames, hnames, hlexemes, String.append_right_inj]

theorem isCapitalized_tableNames (h : IsStem options.stem.toList) :
    ∀ name ∈ options.tableNames ++ [options.enumName], IsCapitalized name.toList := by
  have hupper := isCapitalized_upperStem h
  simp only [tableNames, List.cons_append, List.nil_append, List.forall_mem_cons]
  exact ⟨hupper.append _ (by decide), hupper.append _ (by decide), hupper.append _ (by decide),
    isCapitalized_enumName h, List.forall_mem_nil _⟩

theorem nodup_tableNames (options : Options) :
    (options.tableNames ++ [options.enumName]).Nodup := by
  have hcount (name : String) : name ++ "_TOKEN_KEYWORD_COUNT" ≠ options.enumName :=
    append_ne_append (by decide) (by decide) (by decide)
  have hnames (name : String) : name ++ "_TOKEN_NAMES" ≠ options.enumName :=
    append_ne_append (by decide) (by decide) (by decide)
  have hlexemes (name : String) : name ++ "_KEYWORD_LEXEMES" ≠ options.enumName :=
    append_ne_append (by decide) (by decide) (by decide)
  simp [tableNames, hcount, hnames, hlexemes, String.append_right_inj]

end Options

/-! ## Headers -/

namespace CHeader

variable {header : CHeader}

theorem declaredName?_countLine (h : IsIdentifier header.upperStem.toList) :
    declaredName? NameForm.c header.countLine =
      some (header.upperStem ++ "_TOKEN_KEYWORD_COUNT") := by
  have hname := h.append "_TOKEN_KEYWORD_COUNT" (by decide)
  have hline : header.countLine = NameForm.definition.opening.toList ++
      ((header.upperStem ++ "_TOKEN_KEYWORD_COUNT").toList ++
        ' ' :: (toString header.keywordCount).toList) := by
    simp [countLine, NameForm.definition]
  rw [hline]
  exact declaredName?_append [] .definition [.array] (hname.not_mem (by decide)) _
    (List.forall_mem_nil _)

theorem declaredName?_arrayLine {name : String} (h : IsIdentifier name.toList) :
    declaredName? NameForm.c (arrayLine name) = some name := by
  have hline : arrayLine name =
      NameForm.array.opening.toList ++ (name.toList ++ '[' :: "] = \x7b".toList) := by
    simp [arrayLine, NameForm.array]
  rw [hline]
  refine declaredName?_append [.definition] .array [] (h.not_mem (by decide)) _ ?_
  simp [NameForm.opens, NameForm.definition, NameForm.array, List.isPrefixOf_cons_cons]

theorem declaredNames_rows (entries : List String) :
    declaredNames NameForm.c (entries.map rowLine) = [] := by
  apply declaredNames_eq_nil
  intro line hline
  obtain ⟨entry, -, rfl⟩ := List.mem_map.1 hline
  simp [NameForm.c, NameForm.opens, NameForm.definition, NameForm.array, rowLine,
    List.isPrefixOf_cons_cons]

theorem splitOn_countLine (h : IsIdentifier header.upperStem.toList) :
    header.countLine.splitOn '\n' = [header.countLine] := by
  apply List.splitOn_eq_singleton
  simp only [countLine, String.toList_append, List.mem_append, not_or]
  exact ⟨⟨⟨by decide, h.not_mem (by decide)⟩, by decide⟩, not_mem_toString _ (by decide)⟩

theorem splitOn_arrayLine {name : String} (h : IsIdentifier name.toList) :
    (arrayLine name).splitOn '\n' = [arrayLine name] := by
  apply List.splitOn_eq_singleton
  simp only [arrayLine, String.toList_append, List.mem_append, not_or]
  exact ⟨⟨by decide, h.not_mem (by decide)⟩, by decide⟩

/-- A header declares a macro and two arrays. -/
theorem declaredNames_body (h : header.Legible) :
    declaredNames NameForm.c (header.body.splitOn '\n') =
      [header.upperStem ++ "_TOKEN_KEYWORD_COUNT", header.lowerStem ++ "_token_names",
        header.lowerStem ++ "_keyword_lexemes"] := by
  have hnames := h.lowerStem.append "_token_names" (by decide)
  have hlexemes := h.lowerStem.append "_keyword_lexemes" (by decide)
  have hpragma : declaredNames NameForm.c ("#pragma once\n".toList.splitOn '\n') = [] := by
    decide +kernel
  have hclose : declaredName? NameForm.c ['\x7d', ';'] = none := by decide +kernel
  have hempty : declaredName? NameForm.c [] = none := by decide +kernel
  have hnil : declaredNames NameForm.c [] = [] := rfl
  rw [splitOn_body (fun name hname => (h.names name hname).2.2)
      (fun lexeme hlexeme => (h.lexemes lexeme hlexeme).2),
    splitOn_countLine h.upperStem, splitOn_arrayLine hnames, splitOn_arrayLine hlexemes]
  simp only [declaredNames_append, declaredNames_cons, declaredNames_rows, hpragma,
    declaredName?_countLine h.upperStem, declaredName?_arrayLine hnames,
    declaredName?_arrayLine hlexemes, hclose, hempty, hnil]
  rfl

end CHeader

/-! ## Modules -/

namespace RustModule

/-- The names that code declares. -/
def codeNames (code : List CodeLine) : List String :=
  declaredNames NameForm.rust (code.flatMap CodeLine.written)

theorem codeNames_append (s t : List CodeLine) :
    codeNames (s ++ t) = codeNames s ++ codeNames t := by
  rw [codeNames, List.flatMap_append, declaredNames_append]
  rfl

theorem codeNames_cons (line : CodeLine) (code : List CodeLine) :
    codeNames (line :: code) = codeNames [line] ++ codeNames code :=
  codeNames_append [line] code

theorem codeNames_empty : codeNames [⟨0, ""⟩] = [] := by decide +kernel

theorem codeNames_line {text : String} (h : '\n' ∉ text.toList) :
    codeNames [⟨0, text⟩] = (declaredName? NameForm.rust text.toList).toList := by
  rw [codeNames, List.flatMap_singleton, CodeLine.written_zero h, declaredNames_cons]
  exact List.append_nil _

/-- A line of a module declares nothing unless it begins with the `p` of `pub`. -/
theorem opens_eq_false_of_head? {line : List Char} (h : line.head? ≠ some 'p') :
    ∀ form ∈ NameForm.rust, form.opens line = false := by
  have hopening : ∀ form ∈ NameForm.rust, form.opening.toList.head? = some 'p' := by
    simp [NameForm.rust, NameForm.constant, NameForm.table, NameForm.enumeration]
  intro form hform
  exact NameForm.opens_eq_false (hopening form hform) h

theorem declaredNames_of_head? {lines : List (List Char)}
    (h : ∀ line ∈ lines, line.head? ≠ some 'p') : declaredNames NameForm.rust lines = [] :=
  declaredNames_eq_nil fun line hline => opens_eq_false_of_head? (h line hline)

/-- Code inside a block declares nothing by itself. -/
theorem codeNames_of_depth {code : List CodeLine} (h : ∀ line ∈ code, 0 < line.depth) :
    codeNames code = [] := by
  apply declaredNames_of_head?
  intro piece hpiece
  obtain ⟨line, hline, hpiece⟩ := List.mem_flatMap.1 hpiece
  rcases line.head?_of_mem_written (h line hline) hpiece with rfl | hhead
  · simp
  · simp [hhead]

theorem codeNames_spaced (blocks : List (List CodeLine)) :
    codeNames (spaced blocks) = blocks.flatMap codeNames := by
  induction blocks with
  | nil => rfl
  | cons block rest ih =>
      cases rest with
      | nil => rw [spaced_singleton, List.flatMap_singleton]
      | cons next rest =>
          rw [spaced_cons_cons, codeNames_append, codeNames_cons, codeNames_empty, ih,
            List.nil_append]
          rfl

section Items

variable {module : RustModule}

theorem declaredName?_countLine (h : IsIdentifier module.upperStem.toList) :
    declaredName? NameForm.rust module.countLine.text.toList =
      some (module.upperStem ++ "_TOKEN_KEYWORD_COUNT") := by
  have hname := h.append "_TOKEN_KEYWORD_COUNT" (by decide)
  have hline : module.countLine.text.toList = NameForm.constant.opening.toList ++
      ((module.upperStem ++ "_TOKEN_KEYWORD_COUNT").toList ++
        ':' :: (" usize = " ++ toString module.keywordCount ++ ";").toList) := by
    simp [countLine, NameForm.constant]
  rw [hline]
  exact declaredName?_append [] .constant [.table, .enumeration] (hname.not_mem (by decide)) _
    (List.forall_mem_nil _)

theorem codeNames_countLine (h : IsIdentifier module.upperStem.toList) :
    codeNames [module.countLine] = [module.upperStem ++ "_TOKEN_KEYWORD_COUNT"] := by
  rw [codeNames, List.flatMap_singleton, written_countLine (h.not_mem (by decide)),
    declaredNames_cons, declaredName?_countLine h]
  rfl

theorem declaredNames_rows (entries : List String) :
    declaredNames NameForm.rust (entries.map rowLine) = [] :=
  declaredNames_of_head? (by simp [rowLine])

theorem declaredName?_tableOpening {name : String} (h : IsIdentifier name.toList) :
    declaredName? NameForm.rust (tableOpening name) = some name := by
  have hline : tableOpening name =
      NameForm.table.opening.toList ++ (name.toList ++ ':' :: " &[&str] = &[".toList) := by
    simp [tableOpening, NameForm.table]
  rw [hline]
  refine declaredName?_append [.constant] .table [.enumeration] (h.not_mem (by decide)) _ ?_
  simp [NameForm.opens, NameForm.constant, NameForm.table, List.isPrefixOf_cons_cons]

theorem codeNames_table {name : String} (h : IsIdentifier name.toList) (entries : List String) :
    codeNames (table name entries) = [name] := by
  have hclose : declaredNames NameForm.rust [[']', ';']] = [] := by decide +kernel
  rw [codeNames, written_table, written_tableLine (h.not_mem (by decide)), List.singleton_append,
    declaredNames_cons, declaredName?_tableOpening h, declaredNames_append, declaredNames_rows,
    hclose]
  rfl

def attributeLines : List (List Char) :=
  ["#[derive(Clone, Copy, PartialEq, Eq, Debug, Hash)]".toList, "#[repr(u32)]".toList]

def enumOpening (name : String) : List Char :=
  ("pub enum " ++ name ++ " \x7b").toList

def variantLine (variant : String) : List Char :=
  [' ', ' ', ' ', ' '] ++ variant.toList ++ [',']

theorem written_variants {variants : List String}
    (h : ∀ variant ∈ variants, IsIdentifier variant.toList) :
    (variants.map fun variant => (⟨1, variant ++ ","⟩ : CodeLine)).flatMap CodeLine.written =
      variants.map variantLine := by
  rw [List.flatMap_map, List.map_eq_flatMap]
  apply List.flatMap_congr
  intro variant hvariant
  have hline : '\n' ∉ (variant ++ ",").toList := by
    simpa using (h variant hvariant).not_mem (c := '\n') (by decide)
  rw [CodeLine.written_of_not_mem 1 hline]
  simp [indent, variantLine]

theorem written_enumCode {name : String} (hname : IsIdentifier name.toList)
    {variants : List String} (h : ∀ variant ∈ variants, IsIdentifier variant.toList) :
    (enumCode name variants).flatMap CodeLine.written =
      attributeLines ++ enumOpening name :: (variants.map variantLine ++ [['\x7d']]) := by
  have hopening : '\n' ∉ ("pub enum " ++ name ++ " \x7b").toList := by
    simp only [String.toList_append, List.mem_append, not_or]
    exact ⟨⟨by decide, hname.not_mem (by decide)⟩, by decide⟩
  rw [enumCode, List.flatMap_append, List.flatMap_append, written_variants h]
  simp only [List.flatMap_cons, List.flatMap_nil]
  rw [CodeLine.written_zero hopening, CodeLine.written_zero (by decide),
    CodeLine.written_zero (by decide), CodeLine.written_zero (by decide), List.append_assoc]
  rfl

theorem declaredName?_enumOpening {name : String} (h : IsIdentifier name.toList) :
    declaredName? NameForm.rust (enumOpening name) = some name := by
  have hline : enumOpening name =
      NameForm.enumeration.opening.toList ++ (name.toList ++ ' ' :: ['\x7b']) := by
    simp [enumOpening, NameForm.enumeration]
  rw [hline]
  refine declaredName?_append [.constant, .table] .enumeration [] (h.not_mem (by decide)) _ ?_
  simp [NameForm.opens, NameForm.constant, NameForm.table, NameForm.enumeration,
    List.isPrefixOf_cons_cons]

theorem declaredNames_variants (variants : List String) :
    declaredNames NameForm.rust (variants.map variantLine) = [] :=
  declaredNames_of_head? (by simp [variantLine])

theorem codeNames_enumCode {name : String} (hname : IsIdentifier name.toList)
    {variants : List String} (h : ∀ variant ∈ variants, IsIdentifier variant.toList) :
    codeNames (enumCode name variants) = [name] := by
  have hattributes : declaredNames NameForm.rust attributeLines = [] := by decide +kernel
  have hclose : declaredNames NameForm.rust [['\x7d']] = [] := by decide +kernel
  rw [codeNames, written_enumCode hname h, declaredNames_append, declaredNames_cons,
    declaredNames_append, hattributes, declaredName?_enumOpening hname, declaredNames_variants,
    hclose]
  rfl

/-- The conversions are inside a block, which has no name of its own. -/
theorem codeNames_implCode (h : IsIdentifier module.enumName.toList) :
    codeNames module.implCode = [] := by
  have hline : '\n' ∉ ("impl " ++ module.enumName ++ " \x7b").toList := by
    simp only [String.toList_append, List.mem_append, not_or]
    exact ⟨⟨by decide, h.not_mem (by decide)⟩, by decide⟩
  have hopening : codeNames [⟨0, "impl " ++ module.enumName ++ " \x7b"⟩] = [] := by
    rw [codeNames_line hline, declaredName?_eq_none (opens_eq_false_of_head? (by simp))]
    rfl
  have hclose : codeNames [⟨0, "\x7d"⟩] = [] := by decide +kernel
  have hlookup (signature subject : String) {arms : List CodeLine}
      (harms : ∀ line ∈ arms, line.depth = 3) :
      codeNames (lookupCode signature subject arms) = [] := by
    apply codeNames_of_depth
    simp only [lookupCode, List.forall_mem_append]
    exact ⟨⟨by simp, fun line hline => by rw [harms line hline]; decide⟩, by simp⟩
  have hmethod (name result body : String) : codeNames (methodCode name result body) = [] :=
    codeNames_of_depth (by simp [methodCode])
  have hnames : ∀ line ∈ nameArms module.enumName module.enum.tokens, line.depth = 3 := by
    simp [nameArms, arm]
  have hids : ∀ line ∈ idArms module.enumName module.enum.tokens, line.depth = 3 := by
    simp only [idArms, List.forall_mem_map]
    intro item _
    rfl
  rw [implCode, codeNames_append, codeNames_append, hopening, hclose, codeNames_spaced]
  simp [hlookup _ _ hnames, hlookup _ _ hids, hmethod]

end Items

/-! ### Variants -/

/-- The variants that code declares. -/
def codeVariants (code : List CodeLine) : List String :=
  declaredVariants (code.flatMap CodeLine.written)

/-- No line of the code begins an enumeration. -/
def EnumFree (code : List CodeLine) : Prop :=
  ∀ piece ∈ code.flatMap CodeLine.written, NameForm.enumeration.opens piece = false

theorem codeVariants_append {s : List CodeLine} (h : EnumFree s) (t : List CodeLine) :
    codeVariants (s ++ t) = codeVariants t := by
  rw [codeVariants, declaredVariants, List.flatMap_append, linesBetween?_append h]
  rfl

theorem enumFree_empty : EnumFree [⟨0, ""⟩] := by
  unfold EnumFree
  decide +kernel

theorem codeVariants_spaced_cons {block : List CodeLine} (h : EnumFree block)
    (blocks : List (List CodeLine)) :
    codeVariants (spaced (block :: blocks)) = codeVariants (spaced blocks) := by
  cases blocks with
  | nil =>
      have hblock := codeVariants_append h []
      rw [List.append_nil] at hblock
      rw [spaced_singleton, hblock]
      rfl
  | cons next blocks =>
      rw [spaced_cons_cons, codeVariants_append h]
      exact codeVariants_append enumFree_empty _

theorem enumFree_countLine {module : RustModule} (h : IsIdentifier module.upperStem.toList) :
    EnumFree [module.countLine] := by
  intro piece hpiece
  rw [List.flatMap_singleton, written_countLine (h.not_mem (by decide)), List.mem_singleton] at hpiece
  simp [hpiece, countLine, NameForm.opens, NameForm.enumeration, List.isPrefixOf_cons_cons]

theorem enumFree_table {name : String} (h : IsIdentifier name.toList) (entries : List String) :
    EnumFree (table name entries) := by
  intro piece hpiece
  rw [written_table, written_tableLine (h.not_mem (by decide)), List.singleton_append,
    List.mem_cons, List.mem_append, List.mem_singleton] at hpiece
  rcases hpiece with rfl | hpiece | rfl
  · simp [tableOpening, NameForm.opens, NameForm.enumeration, List.isPrefixOf_cons_cons]
  · obtain ⟨entry, -, rfl⟩ := List.mem_map.1 hpiece
    simp [rowLine, NameForm.opens, NameForm.enumeration, List.isPrefixOf_cons_cons]
  · decide +kernel

theorem map_rowName_variantLine {variants : List String}
    (h : ∀ variant ∈ variants, IsIdentifier variant.toList) :
    (variants.map variantLine).map rowName = variants := by
  have hrow : ∀ variant ∈ variants, (rowName ∘ variantLine) variant = id variant :=
    fun variant hvariant => rowName_append (h variant hvariant)
  rw [List.map_map, List.map_congr_left hrow, List.map_id]

/-- The variants are read from the enumeration, whatever comes after it. -/
theorem codeVariants_enumCode {name : String} (hname : IsIdentifier name.toList)
    {variants : List String} (h : ∀ variant ∈ variants, IsIdentifier variant.toList)
    (rest : List CodeLine) : codeVariants (enumCode name variants ++ rest) = variants := by
  have hattributes : ∀ line ∈ attributeLines, NameForm.enumeration.opens line = false := by
    decide +kernel
  have hopens : NameForm.enumeration.opens (enumOpening name) = true := by
    simp [enumOpening, NameForm.opens, NameForm.enumeration]
  have hrows : ['\x7d'] ∉ variants.map variantLine := by
    simp [variantLine]
  have hlines : (enumCode name variants ++ rest).flatMap CodeLine.written =
      attributeLines ++ enumOpening name ::
        (variants.map variantLine ++ ['\x7d'] :: rest.flatMap CodeLine.written) := by
    rw [List.flatMap_append, written_enumCode hname h]
    simp
  rw [codeVariants, declaredVariants, hlines, linesBetween?_append hattributes,
    linesBetween?_cons hopens hrows, Option.getD_some, map_rowName_variantLine h]

/-! ### What comes after the first line -/

/-- A module whose names are identifiers. -/
structure HasIdentifiers (module : RustModule) : Prop where
  upperStem : IsIdentifier module.upperStem.toList
  enumName : IsIdentifier module.enumName.toList
  variants : ∀ variant ∈ module.enum.variants, IsIdentifier variant.toList

/-- The blocks of a module after its first line. -/
def laterItems (module : RustModule) : List (List CodeLine) :=
  [[module.countLine], table module.namesTable module.enum.names,
    table (module.upperStem ++ "_KEYWORD_LEXEMES") module.lexemes] ++ module.enumItems

def laterCode (module : RustModule) : List CodeLine :=
  ⟨0, ""⟩ :: spaced module.laterItems

variable {module : RustModule}

theorem toList_render (module : RustModule) : module.render.toList =
    (renderCode [⟨0, module.notice⟩]).toList ++ '\n' :: (renderCode module.laterCode).toList := by
  have hcode : module.code = [⟨0, module.notice⟩] ++ module.laterCode := by
    rw [code, tableItems, List.cons_append, List.cons_append, spaced_cons_cons]
    rfl
  have hlater : module.laterCode ≠ [] := List.cons_ne_nil _ _
  rw [render, hcode, toList_renderCode_append (List.cons_ne_nil _ _) hlater]

theorem codeNames_laterCode (h : module.HasIdentifiers) : codeNames module.laterCode =
    [module.upperStem ++ "_TOKEN_KEYWORD_COUNT", module.upperStem ++ "_TOKEN_NAMES",
      module.upperStem ++ "_KEYWORD_LEXEMES"] ++
        if module.enum.tokens.isEmpty then [] else [module.enumName] := by
  have hitems : module.enumItems.flatMap codeNames =
      if module.enum.tokens.isEmpty then [] else [module.enumName] := by
    unfold enumItems
    split
    · rfl
    · simp [codeNames_enumCode h.enumName h.variants, codeNames_implCode h.enumName]
  have hnames := codeNames_table (h.upperStem.append "_TOKEN_NAMES" (by decide)) module.enum.names
  have hlexemes :=
    codeNames_table (h.upperStem.append "_KEYWORD_LEXEMES" (by decide)) module.lexemes
  rw [laterCode, codeNames_cons, codeNames_empty, codeNames_spaced, laterItems,
    List.flatMap_append, hitems, namesTable]
  simp [codeNames_countLine h.upperStem, hnames, hlexemes]

theorem codeVariants_laterCode (h : module.HasIdentifiers) :
    codeVariants module.laterCode = module.enum.variants := by
  have hnames := enumFree_table (h.upperStem.append "_TOKEN_NAMES" (by decide)) module.enum.names
  have hlexemes :=
    enumFree_table (h.upperStem.append "_KEYWORD_LEXEMES" (by decide)) module.lexemes
  have hempty := codeVariants_append enumFree_empty (spaced module.laterItems)
  rw [List.singleton_append] at hempty
  rw [laterCode, hempty, laterItems, List.cons_append, List.cons_append, List.cons_append,
    codeVariants_spaced_cons (enumFree_countLine h.upperStem), namesTable,
    codeVariants_spaced_cons hnames, codeVariants_spaced_cons hlexemes, List.nil_append, enumItems]
  split
  · rename_i hnone
    rw [TokenEnum.variants, List.isEmpty_iff.1 hnone]
    rfl
  · rw [spaced_cons_cons, codeVariants_enumCode h.enumName h.variants]

end RustModule

/-! ## Artifacts of grammars -/

/-- A variant is in letters and digits, unless it is the one that stands for a reserved word. -/
theorem variantName_spelling {name : String} (h : TokenRule.IsName name.toList) :
    variantName name = "Self_" ∨ IsCapitalized (variantName name).toList ∧
      ∀ c ∈ (variantName name).toList, c.isAlphanum = true := by
  rw [variantName_eq]
  split
  · exact .inl rfl
  · exact .inr ⟨isCapitalized_pascal h.isStem, fun c hc =>
      isAlphanum_of_mem_pascal (fun _ hd => h.isStem.isStemChar hd) hc⟩

/-- The lines declare a macro and two arrays, under distinct identifiers. -/
structure DeclaresHeader (options : Options) (lines : List (List Char)) : Prop where
  names_eq : declaredNames NameForm.c lines = options.headerNames
  lettered : ∀ name ∈ options.headerNames, IsLettered name.toList
  distinct : options.headerNames.Nodup

/-- The lines declare a constant, two tables and, unless it is without variants, an enumeration, under
distinct identifiers.  The variants are distinct identifiers too. -/
structure DeclaresModule (options : Options) (variants : List String) (lines : List (List Char)) :
    Prop where
  names_eq : declaredNames NameForm.rust lines =
    options.tableNames ++ if variants.isEmpty then [] else [options.enumName]
  capitalized : ∀ name ∈ options.tableNames ++ [options.enumName], IsCapitalized name.toList
  distinct : (options.tableNames ++ [options.enumName]).Nodup
  variants_eq : declaredVariants lines = variants
  spelling : ∀ variant ∈ variants, variant = "Self_" ∨
    IsCapitalized variant.toList ∧ ∀ c ∈ variant.toList, c.isAlphanum = true
  unreserved : ∀ variant ∈ variants, variant ∉ reserved
  distinct_variants : variants.Nodup

namespace Vocabulary

variable {grammar : String} {options : Options}

theorem hasIdentifiers_ofVocabulary? {module : RustModule} (hstem : IsStem options.stem.toList)
    (h : RustModule.ofVocabulary? (ofGrammar grammar) options = .ok module) :
    module.HasIdentifiers := by
  obtain ⟨-, rfl⟩ := ofVocabulary?_eq_ok_iff.1 h
  refine ⟨(Options.isCapitalized_upperStem hstem).toIsIdentifier,
    (Options.isCapitalized_enumName hstem).toIsIdentifier, ?_⟩
  rw [TokenEnum.variants_ofNames]
  intro variant hvariant
  obtain ⟨name, hname, rfl⟩ := List.mem_map.1 hvariant
  exact (isCapitalized_variantName (isName_of_mem_names hname)).toIsIdentifier

theorem declaresHeader_cHeader (grammar : String) (hstem : IsStem options.stem.toList) :
    DeclaresHeader options
      ((CHeader.ofVocabulary (ofGrammar grammar) options).body.splitOn '\n') where
  names_eq := CHeader.declaredNames_body (legible_ofVocabulary grammar hstem)
  lettered := Options.isLettered_headerNames hstem
  distinct := options.nodup_headerNames

theorem declaresModule_ofVocabulary? {module : RustModule} (hstem : IsStem options.stem.toList)
    (h : RustModule.ofVocabulary? (ofGrammar grammar) options = .ok module) :
    DeclaresModule options ((ofGrammar grammar).names.map variantName)
      ((renderCode module.laterCode).toList.splitOn '\n') := by
  have hidentifiers := hasIdentifiers_ofVocabulary? hstem h
  have hnames := RustModule.codeNames_laterCode hidentifiers
  have hvariants := RustModule.codeVariants_laterCode hidentifiers
  have hlines : (renderCode module.laterCode).toList.splitOn '\n' =
      module.laterCode.flatMap CodeLine.written := splitOn_renderCode (List.cons_ne_nil _ _)
  obtain ⟨hconflict, rfl⟩ := ofVocabulary?_eq_ok_iff.1 h
  rw [TokenEnum.variants_ofNames] at hvariants
  rw [hlines]
  exact {
    names_eq := by
      rw [RustModule.codeNames] at hnames
      rw [hnames, TokenEnum.ofNames, List.isEmpty_map, List.isEmpty_map]
      rfl
    capitalized := Options.isCapitalized_tableNames hstem
    distinct := options.nodup_tableNames
    variants_eq := hvariants
    spelling := by
      intro variant hvariant
      obtain ⟨name, hname, rfl⟩ := List.mem_map.1 hvariant
      exact variantName_spelling (isName_of_mem_names hname)
    unreserved := by
      intro variant hvariant
      obtain ⟨name, hname, rfl⟩ := List.mem_map.1 hvariant
      exact not_mem_reserved (isCapitalized_variantName (isName_of_mem_names hname))
        (variantName_ne_self name)
    distinct_variants := conflict?_eq_none_iff.1 hconflict }

/-- For a stem, whatever the grammar and the source are, an artifact declares distinct identifiers
after its first line, and the variants of a module are distinct and no reserved words. -/
theorem artifact_identifiers (grammar : String) {options : Options}
    (hstem : IsStem options.stem.toList) :
    (∃ body : List Char, ((ofGrammar grammar).cHeader options).toList =
        options.notice.toList ++ '\n' :: body ∧
      DeclaresHeader options (body.splitOn '\n')) ∧
    ∀ text : String, (ofGrammar grammar).rustModule options = .ok text →
      ∃ body : List Char, text.toList =
          (renderCode [⟨0, options.notice⟩]).toList ++ '\n' :: body ∧
        DeclaresModule options ((ofGrammar grammar).names.map variantName) (body.splitOn '\n') := by
  constructor
  · exact ⟨_, CHeader.toList_render _, declaresHeader_cHeader grammar hstem⟩
  · intro text h
    obtain ⟨module, hmodule, rfl⟩ := rustModule_eq_ok_iff.1 h
    have hnotice : module.notice = options.notice := by
      obtain ⟨-, rfl⟩ := ofVocabulary?_eq_ok_iff.1 hmodule
      rfl
    have hrender := module.toList_render
    rw [hnotice] at hrender
    exact ⟨_, hrender, declaresModule_ofVocabulary? hstem hmodule⟩

/-- Tokens whose names are cut in unlike ways. -/
def unlikeGrammar : String :=
  "SELF_ : 's' ;\nHTTP2_ID : [0-9] ;\nA__1B : 'b' ;"

/-- A source that looks like code, and a stem of several words. -/
def unlikeOptions : Options :=
  { source := "a\npub enum X ", stem := "a-2B  cD_" }

theorem artifact_identifiers_of_unlike : ∃ (text : String) (body : List Char),
    (ofGrammar unlikeGrammar).rustModule unlikeOptions = .ok text ∧
    text.toList =
      "// Auto-generated from a\npub enum X . Do not edit manually.".toList ++ '\n' :: body ∧
    declaredNames NameForm.rust (body.splitOn '\n') =
      ["A_2B_C_D_TOKEN_KEYWORD_COUNT", "A_2B_C_D_TOKEN_NAMES", "A_2B_C_D_KEYWORD_LEXEMES",
        "A2BCDToken"] ∧
    declaredVariants (body.splitOn '\n') = ["Self_", "Http2Id", "A1B"] := by
  obtain ⟨text, htext⟩ : ∃ text, (ofGrammar unlikeGrammar).rustModule unlikeOptions = .ok text :=
    exists_eq_ok_of_isOk (by decide +kernel)
  have hstem : IsStem unlikeOptions.stem.toList := by decide
  obtain ⟨body, hbody, hdeclares⟩ := (artifact_identifiers unlikeGrammar hstem).2 text htext
  have hnotice : (renderCode [⟨0, unlikeOptions.notice⟩]).toList =
      "// Auto-generated from a\npub enum X . Do not edit manually.".toList := by
    decide +kernel
  have hvariants : (ofGrammar unlikeGrammar).names.map variantName =
      ["Self_", "Http2Id", "A1B"] := by
    decide +kernel
  have hnames : unlikeOptions.tableNames ++ [unlikeOptions.enumName] =
      ["A_2B_C_D_TOKEN_KEYWORD_COUNT", "A_2B_C_D_TOKEN_NAMES", "A_2B_C_D_KEYWORD_LEXEMES",
        "A2BCDToken"] := by
    decide +kernel
  rw [hnotice] at hbody
  rw [hvariants] at hdeclares
  exact ⟨text, body, htext, hbody, hdeclares.names_eq.trans hnames, hdeclares.variants_eq⟩

end Vocabulary

end TokenTables
