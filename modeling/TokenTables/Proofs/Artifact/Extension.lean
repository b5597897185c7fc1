import TokenTables.Proofs.Artifact.Enumeration
import TokenTables.Proofs.Artifact.FirstConflict
import TokenTables.Proofs.Text.Line
/-!
# Grammars with more rules

What a grammar says of its tokens stays true when lines are added to its end.  A conflict stays the
same conflict, and the module of a grammar with more rules has all that the module had, in the same
places.
-/

namespace TokenTables

open Naming Syntax Text

/-! ## Added lines -/

/-- The grammar with more lines after its last one. -/
def addLines (grammar : String) (lineBreak : LineBreak) (more : String) : String :=
  grammar ++ String.singleton lineBreak.val ++ more

theorem GrammarLine.ofGrammar_addLines (grammar : String) (lineBreak : LineBreak) (more : String) :
    ofGrammar (addLines grammar lineBreak more) = ofGrammar grammar ++ ofGrammar more := by
  have htext : (addLines grammar lineBreak more).toList =
      grammar.toList ++ lineBreak.val :: more.toList := by
    simp [addLines]
  rw [ofGrammar, htext, lines_append_cons lineBreak.property, List.map_append]
  rfl

theorem Vocabulary.ofGrammar_addLines (grammar : String) (lineBreak : LineBreak) (more : String) :
    ofGrammar (addLines grammar lineBreak more) = ofGrammar grammar ++ ofGrammar more := by
  have hskipped : skippedLines (addLines grammar lineBreak more) =
      skippedLines grammar ++ skippedLines more := by
    rw [skippedLines, GrammarLine.ofGrammar_addLines, List.filterMap_append]
    rfl
  rw [ofGrammar, GrammarLine.ofGrammar_addLines, List.filterMap_append, hskipped,
    List.length_append]
  rfl

theorem conflictAfter?_append {taken : List (String × String)} {names : List String}
    {conflict : VariantConflict} (h : conflictAfter? taken names = some conflict)
    (more : List String) : conflictAfter? taken (names ++ more) = some conflict := by
  induction names generalizing taken with
  | nil => contradiction
  | cons name rest ih =>
      rw [conflictAfter?] at h
      rw [List.cons_append, conflictAfter?]
      cases hlookup : taken.lookup (variantName name) with
      | some first =>
          rw [hlookup] at h
          exact h
      | none =>
          rw [hlookup] at h
          exact ih h

/-- Names that come later do not change the first conflict. -/
theorem conflict?_append {names : List String} {conflict : VariantConflict}
    (h : conflict? names = some conflict) (more : List String) :
    conflict? (names ++ more) = some conflict :=
  conflictAfter?_append h more

theorem conflict?_eq_none_of_append {names more : List String}
    (h : conflict? (names ++ more) = none) : conflict? names = none := by
  cases hconflict : conflict? names with
  | none => rfl
  | some conflict =>
      rw [conflict?_append hconflict more] at h
      contradiction

/-! ## Longer lists -/

theorem getElem?_of_isPrefix {α : Type} {list longer : List α} (h : list <+: longer) {i : Nat}
    {a : α} (hi : list[i]? = some a) : longer[i]? = some a := by
  obtain ⟨hlt, rfl⟩ := List.getElem?_eq_some_iff.1 hi
  exact List.prefix_iff_getElem?.1 h i hlt

theorem zipIdx_isPrefix {α : Type} {list longer : List α} (h : list <+: longer) :
    list.zipIdx <+: longer.zipIdx := by
  obtain ⟨more, rfl⟩ := h
  rw [List.zipIdx_append]
  exact List.prefix_append _ _

/-- A table with the same name in the same place, with the entries of the other one first. -/
def TableExtends (table longer : String × List String) : Prop :=
  longer.1 = table.1 ∧ table.2 <+: longer.2

theorem exists_lookup_of_forall₂ {tables longer : List (String × List String)}
    (h : List.Forall₂ TableExtends tables longer) {name : String} {entries : List String}
    (hname : tables.lookup name = some entries) :
    ∃ more, longer.lookup name = some more ∧ entries <+: more := by
  induction h with
  | nil => contradiction
  | @cons table extended tables longer hhead _ ih =>
      obtain ⟨hkey, hrows⟩ := hhead
      rw [← Prod.mk.eta (p := table), lookup_cons_eq_if] at hname
      rw [← Prod.mk.eta (p := extended), lookup_cons_eq_if, hkey]
      by_cases heq : name = table.1
      · rw [if_pos heq] at hname ⊢
        obtain rfl := Option.some.inj hname
        exact ⟨extended.2, rfl, hrows⟩
      · rw [if_neg heq] at hname ⊢
        exact ih hname

/-! ## Longer modules -/

/-- The longer module is named the same and has all that the module has, in the same places. -/
structure RustModule.ExtendedBy (module longer : RustModule) : Prop where
  notice : longer.notice = module.notice
  upperStem : longer.upperStem = module.upperStem
  enumName : longer.enumName = module.enumName
  tokens : module.enum.tokens <+: longer.enum.tokens
  names : module.enum.names <+: longer.enum.names
  variants : module.enum.variants <+: longer.enum.variants
  lexemes : module.lexemes <+: longer.lexemes
  nameArms : nameArms module.enumName module.enum.tokens <+:
    nameArms longer.enumName longer.enum.tokens
  idArms : idArms module.enumName module.enum.tokens <+: idArms longer.enumName longer.enum.tokens
  token? : ∀ id token, module.enum.token? id = some token → longer.enum.token? id = some token
  idOfName? : ∀ name id, module.enum.idOfName? name = some id →
    longer.enum.idOfName? name = some id

theorem RustModule.extendedBy_of_tokens {module longer : RustModule}
    (hnotice : longer.notice = module.notice) (hupper : longer.upperStem = module.upperStem)
    (henum : longer.enumName = module.enumName)
    (htokens : module.enum.tokens <+: longer.enum.tokens)
    (hlexemes : module.lexemes <+: longer.lexemes) : module.ExtendedBy longer where
  notice := hnotice
  upperStem := hupper
  enumName := henum
  tokens := htokens
  names := htokens.map _
  variants := htokens.map _
  lexemes := hlexemes
  nameArms := by
    rw [henum]
    exact htokens.map _
  idArms := by
    rw [henum]
    exact (zipIdx_isPrefix htokens).map _
  token? := fun _ _ => getElem?_of_isPrefix htokens
  idOfName? := fun _ _ => htokens.findIdx?_eq_some

/-- The longer enumeration has the tables, the variants and the arms of the other one first, and its
conversions yield all that those of the other one yield. -/
structure Syntax.RustEnum.ExtendedBy (source longer : RustEnum) : Prop where
  name : longer.name = source.name
  namesTable : longer.namesTable = source.namesTable
  tables : List.Forall₂ TableExtends source.tables longer.tables
  variants : source.variants <+: longer.variants
  nameArms : source.nameArms <+: longer.nameArms
  idArms : source.idArms <+: longer.idArms
  fromId? : ∀ id variant, source.fromId? id = some variant → longer.fromId? id = some variant
  fromName? : ∀ name variant,
    source.fromName? name = some variant → longer.fromName? name = some variant
  toId? : ∀ variant id, source.toId? variant = some id → longer.toId? variant = some id
  toName? : ∀ variant name, source.toName? variant = some name → longer.toName? variant = some name

theorem Syntax.RustEnum.toId?_of_isPrefix {source longer : RustEnum}
    (h : source.variants <+: longer.variants) {variant : String} {id : UInt32}
    (hid : source.toId? variant = some id) : longer.toId? variant = some id := by
  obtain ⟨i, hi, rfl⟩ := Option.map_eq_some_iff.1 hid
  exact Option.map_eq_some_iff.2 ⟨i, h.findIdx?_eq_some hi, rfl⟩

theorem Syntax.RustEnum.toName?_of_forall₂ {source longer : RustEnum}
    (hname : longer.namesTable = source.namesTable)
    (htables : List.Forall₂ TableExtends source.tables longer.tables)
    (hvariants : source.variants <+: longer.variants) {variant name : String}
    (h : source.toName? variant = some name) : longer.toName? variant = some name := by
  obtain ⟨entries, hentries, hindex⟩ := Option.bind_eq_some_iff.1 h
  obtain ⟨id, hid, hget⟩ := Option.bind_eq_some_iff.1 hindex
  obtain ⟨more, hmore, hprefix⟩ := exists_lookup_of_forall₂ htables hentries
  rw [RustEnum.toName?, hname, hmore, Option.bind_some,
    RustEnum.toId?_of_isPrefix hvariants hid, Option.bind_some]
  exact getElem?_of_isPrefix hprefix hget

theorem RustModule.ExtendedBy.source {module longer : RustModule} (h : module.ExtendedBy longer) :
    module.source.ExtendedBy longer.source := by
  have hnamesTable : longer.namesTable = module.namesTable := by
    rw [namesTable, namesTable, h.upperStem]
  have htables : List.Forall₂ TableExtends module.source.tables longer.source.tables := by
    have hlexemes : longer.upperStem ++ "_KEYWORD_LEXEMES" =
        module.upperStem ++ "_KEYWORD_LEXEMES" := by rw [h.upperStem]
    exact .cons ⟨hnamesTable, h.names⟩ (.cons ⟨hlexemes, h.lexemes⟩ .nil)
  have hnameArms : module.source.nameArms <+: longer.source.nameArms := h.tokens.map _
  have hidArms : module.source.idArms <+: longer.source.idArms := (zipIdx_isPrefix h.tokens).map _
  exact {
    name := h.enumName
    namesTable := hnamesTable
    tables := htables
    variants := h.variants
    nameArms := hnameArms
    idArms := hidArms
    fromId? := fun _ _ => hidArms.lookup_eq_some
    fromName? := fun _ _ => hnameArms.lookup_eq_some
    toId? := fun _ _ => RustEnum.toId?_of_isPrefix h.variants
    toName? := fun _ _ => RustEnum.toName?_of_forall₂ hnamesTable htables h.variants }

/-! ## Modules of longer grammars -/

namespace Vocabulary

theorem extendedBy_ofVocabulary? {vocabulary more : Vocabulary} {options : Options}
    {module longer : RustModule}
    (hmodule : RustModule.ofVocabulary? vocabulary options = .ok module)
    (hlonger : RustModule.ofVocabulary? (vocabulary ++ more) options = .ok longer) :
    module.ExtendedBy longer := by
  obtain ⟨-, rfl⟩ := ofVocabulary?_eq_ok_iff.1 hmodule
  obtain ⟨-, rfl⟩ := ofVocabulary?_eq_ok_iff.1 hlonger
  refine RustModule.extendedBy_of_tokens rfl rfl rfl ?_ ?_
  · rw [names_append]
    exact (List.prefix_append _ _).map EnumToken.ofName
  · rw [keywordLexemes_append]
    exact List.prefix_append _ _

theorem readRust?_render {grammar : String} {options : Options} {module : RustModule}
    (hstem : IsStem options.stem.toList) (hsource : '\n' ∉ options.source.toList)
    (hpos : 0 < (ofGrammar grammar).size) (hsize : (ofGrammar grammar).size ≤ 2 ^ 32)
    (h : RustModule.ofVocabulary? (ofGrammar grammar) options = .ok module) :
    readRust? module.render.toList = some module.source := by
  have hlegible := legible_ofVocabulary? hstem hsource h
  obtain ⟨-, hfields⟩ := ofVocabulary?_eq_ok_iff.1 h
  have htokens : module.enum.tokens.length = (ofGrammar grammar).size := by
    rw [hfields, TokenEnum.ofNames, List.length_map, length_names]
  have hne : module.enum.tokens ≠ [] := by
    rw [← List.length_pos_iff, htokens]
    exact hpos
  rw [readRust?, RustModule.render, lex_renderCode (RustModule.lexCode_code hlegible hne)]
  exact RustModule.readEnumModule?_moduleTokens hlegible (by omega)

theorem grammarArtifact_eq_rustModule {options : Options} (htarget : options.target = .rustModule)
    (grammar : String) : grammarArtifact grammar options = (ofGrammar grammar).rustModule options :=
  artifact_eq_rustModule htarget (ofGrammar grammar)

/-- Added lines leave a conflict what it was.  If a longer grammar has a module, so has the grammar,
and all names, variants, arms and lexemes of its module come first in the longer one, under the same
names of their own.  Where the modules can be read as Rust, all that the conversions of the
enumeration yield is yielded by those of the longer one. -/
theorem grammarArtifact_addLines (grammar : String) (lineBreak : LineBreak) (more : String)
    {options : Options} (htarget : options.target = .rustModule) :
    (∀ conflict, grammarArtifact grammar options = .error conflict →
      grammarArtifact (addLines grammar lineBreak more) options = .error conflict) ∧
    ∀ longerText, grammarArtifact (addLines grammar lineBreak more) options = .ok longerText →
      ∃ text, grammarArtifact grammar options = .ok text ∧
        (∃ module longer,
          RustModule.ofVocabulary? (ofGrammar grammar) options = .ok module ∧
          RustModule.ofVocabulary? (ofGrammar (addLines grammar lineBreak more)) options =
            .ok longer ∧
          module.render = text ∧ longer.render = longerText ∧ module.ExtendedBy longer) ∧
        (IsStem options.stem.toList → '\n' ∉ options.source.toList →
          0 < (ofGrammar grammar).size →
          (ofGrammar (addLines grammar lineBreak more)).size ≤ 2 ^ 32 →
          ∃ source longer, readRust? text.toList = some source ∧
            readRust? longerText.toList = some longer ∧ source.ExtendedBy longer) := by
  have hadd := ofGrammar_addLines grammar lineBreak more
  rw [grammarArtifact_eq_rustModule htarget, grammarArtifact_eq_rustModule htarget]
  constructor
  · intro conflict h
    rw [rustModule_eq_error_iff] at h ⊢
    rw [hadd, names_append]
    exact conflict?_append h (ofGrammar more).names
  · intro longerText h
    obtain ⟨longer, hlonger, hlongerText⟩ := rustModule_eq_ok_iff.1 h
    -- A conflict of the grammar would be one of the longer grammar too.
    have hnone : conflict? (ofGrammar grammar).names = none := by
      obtain ⟨hconflict, -⟩ := ofVocabulary?_eq_ok_iff.1 hlonger
      rw [hadd, names_append] at hconflict
      exact conflict?_eq_none_of_append hconflict
    obtain ⟨text, htext⟩ := exists_rustModule_eq_ok_iff.2 hnone
    obtain ⟨module, hmodule, hrender⟩ := rustModule_eq_ok_iff.1 htext
    have hextended : module.ExtendedBy longer := by
      rw [hadd] at hlonger
      exact extendedBy_ofVocabulary? hmodule hlonger
    refine ⟨text, htext, ⟨module, longer, hmodule, hlonger, hrender, hlongerText, hextended⟩, ?_⟩
    intro hstem hsource hpos hsize
    have hle : (ofGrammar grammar).size ≤ (ofGrammar (addLines grammar lineBreak more)).size := by
      rw [hadd, ← length_names, ← length_names, names_append, List.length_append]
      exact Nat.le_add_right _ _
    refine ⟨module.source, longer.source, ?_, ?_, hextended.source⟩
    · rw [← hrender]
      exact readRust?_render hstem hsource hpos (by omega) hmodule
    · rw [← hlongerText]
      exact readRust?_render hstem hsource (by omega) hsize hlonger

def paragraphSeparator : LineBreak :=
  ⟨'\u2029', by decide⟩

/-- The name that is declared again is not reported, since another one has its variant before; and a
rule after a paragraph separator leaves the one before it in its place. -/
theorem grammarArtifact_addLines_at_separator :
    grammarArtifact (addLines "A : 'a' ;\nA_ : 'b' ;" paragraphSeparator "A : 'c' ;")
        { target := .rustModule } = .error (.sharedVariant "A" "A_" "A") ∧
      ∃ (text longerText : String) (source longer : RustEnum),
        grammarArtifact "IF : 'if' ;" { target := .rustModule } = .ok text ∧
        grammarArtifact (addLines "IF : 'if' ;" paragraphSeparator "ELSE : 'else' ;")
          { target := .rustModule } = .ok longerText ∧
        readRust? text.toList = some source ∧ readRust? longerText.toList = some longer ∧
        source.ExtendedBy longer := by
  have hconflict : grammarArtifact "A : 'a' ;\nA_ : 'b' ;" { target := .rustModule } =
      .error (.sharedVariant "A" "A_" "A") := by
    rw [grammarArtifact_eq_rustModule rfl, rustModule_eq_error_iff]
    decide +kernel
  obtain ⟨longerText, hlonger⟩ : ∃ longerText,
      grammarArtifact (addLines "IF : 'if' ;" paragraphSeparator "ELSE : 'else' ;")
        { target := .rustModule } = .ok longerText := exists_eq_ok_of_isOk (by decide +kernel)
  refine ⟨(grammarArtifact_addLines _ _ _ rfl).1 _ hconflict, ?_⟩
  obtain ⟨text, htext, -, hread⟩ := (grammarArtifact_addLines _ _ _ rfl).2 _ hlonger
  obtain ⟨source, longer, hsource, hlongerSource, hextended⟩ :=
    hread (by decide) (by decide) (by decide +kernel) (by decide +kernel)
  exact ⟨text, longerText, source, longer, htext, hlonger, hsource, hlongerSource, hextended⟩

end Vocabulary

end TokenTables
