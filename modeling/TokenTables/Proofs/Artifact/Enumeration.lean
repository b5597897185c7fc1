import TokenTables.Nova
import TokenTables.Proofs.Artifact.Conflict
import TokenTables.Proofs.Artifact.ModuleText
/-!
# Generated enumerations

The conversions of a generated enumeration are inverse to each other.  Its variants are distinct, so
that numbers, names and variants belong together place by place.
-/

namespace TokenTables

open Naming Syntax

/-! ## Looking up -/

theorem lookup_map_self {α : Type} (f : String → α) (names : List String) (name : String) :
    (names.map fun name => (name, f name)).lookup name =
      if name ∈ names then some (f name) else none := by
  induction names with
  | nil => rfl
  | cons first rest ih =>
      by_cases heq : name = first
      · simp [heq]
      · simp [lookup_cons_eq_if, heq, ih]

/-- The arms of numbers are found by place, as long as no number is too large. -/
theorem lookup_zipIdx {α : Type} (f : String → α) {names : List String} (start : Nat)
    (hlength : start + names.length ≤ 2 ^ 32) (id : UInt32) :
    ((names.zipIdx start).map fun (name, i) => (UInt32.ofNat i, f name)).lookup id =
      if start ≤ id.toNat then names[id.toNat - start]?.map f else none := by
  induction names generalizing start with
  | nil => simp
  | cons name rest ih =>
      rw [List.length_cons] at hlength
      have hrest := ih (start + 1) (by omega)
      have hstart : (UInt32.ofNat start).toNat = start := by
        rw [UInt32.toNat_ofNat']
        exact Nat.mod_eq_of_lt (by omega)
      rw [List.zipIdx_cons, List.map_cons, List.lookup_cons, hrest]
      by_cases heq : id = UInt32.ofNat start
      · have hid : id.toNat = start := by rw [heq, hstart]
        simp [heq, hstart]
      · have hid : id.toNat ≠ start := fun h => heq (UInt32.toNat_inj.1 (h.trans hstart.symm))
        have hbeq : (id == UInt32.ofNat start) = false := by simpa using heq
        rw [hbeq]
        by_cases hle : start ≤ id.toNat
        · have hpred : id.toNat - start = id.toNat - (start + 1) + 1 := by omega
          rw [if_pos hle, hpred, List.getElem?_cons_succ]
          simp [show start + 1 ≤ id.toNat by omega]
        · simp [hle, show ¬start + 1 ≤ id.toNat by omega]

theorem map_bind_congr {α β γ δ : Type} {x : Option α} {f : α → Option β} {g : β → γ}
    {f' : α → Option δ} {g' : δ → γ} (h : ∀ a, (f a).map g = (f' a).map g') :
    (x.bind f).map g = (x.bind f').map g' := by
  cases x with
  | none => rfl
  | some a => exact h a

theorem idxOf?_eq_some_iff_of_nodup {α : Type} [DecidableEq α] {list : List α} (h : list.Nodup)
    {a : α} {i : Nat} : list.idxOf? a = some i ↔ list[i]? = some a := by
  rw [List.idxOf?_eq_some_iff, List.getElem?_eq_some_iff]
  constructor
  · rintro ⟨hi, ha, -⟩
    exact ⟨hi, ha⟩
  · rintro ⟨hi, ha⟩
    refine ⟨hi, ha, fun j hj heq => ?_⟩
    have hsame : j = i := (List.getElem_inj h).1 (heq.trans ha.symm)
    omega

/-! ## Conversions -/

/-- Numbers, names and variants belong together place by place, the conversions know no others, and
they are inverse to each other. -/
structure Syntax.RustEnum.Enumerates (source : RustEnum) (names : List String) : Prop where
  table : source.tables.lookup source.namesTable = some names
  length_variants : source.variants.length = names.length
  place : ∀ i name, names[i]? = some name → ∃ variant, source.variants[i]? = some variant ∧
    source.fromId? (UInt32.ofNat i) = some variant ∧
    source.toId? variant = some (UInt32.ofNat i) ∧
    source.toName? variant = some name ∧ source.fromName? name = some variant
  fromId?_eq_none : ∀ id : UInt32, names.length ≤ id.toNat → source.fromId? id = none
  fromName?_eq_none : ∀ name, name ∉ names → source.fromName? name = none
  fromId?_iff : ∀ id variant, source.fromId? id = some variant ↔ source.toId? variant = some id
  fromName?_iff : ∀ name variant,
    source.fromName? name = some variant ↔ source.toName? variant = some name

namespace Syntax.RustEnum.Enumerates

variable {source : RustEnum} {names : List String}

theorem fromId?_eq (h : source.Enumerates names) (id : UInt32) :
    source.fromId? id = source.variants[id.toNat]? := by
  by_cases hid : id.toNat < names.length
  · obtain ⟨variant, hvariant, hfrom, -⟩ := h.place id.toNat _ (List.getElem?_eq_getElem hid)
    rw [UInt32.ofNat_toNat] at hfrom
    rw [hfrom, hvariant]
  · rw [h.fromId?_eq_none id (by omega), eq_comm, List.getElem?_eq_none_iff, h.length_variants]
    omega

theorem fromName?_eq (h : source.Enumerates names) {variant : String → String}
    (hvariants : source.variants = names.map variant) (name : String) :
    source.fromName? name = if name ∈ names then some (variant name) else none := by
  by_cases hname : name ∈ names
  · obtain ⟨i, hi⟩ := List.mem_iff_getElem?.1 hname
    obtain ⟨v, hv, -, -, -, hfrom⟩ := h.place i name hi
    rw [hvariants, List.getElem?_map, hi, Option.map_some] at hv
    rw [hfrom, ← hv, if_pos hname]
  · rw [h.fromName?_eq_none name hname, if_neg hname]

end Syntax.RustEnum.Enumerates

namespace RustModule

section Conversions

variable {module : RustModule} {names : List String}

theorem fromId?_source (henum : module.enum = .ofNames names) (hlength : names.length ≤ 2 ^ 32)
    (id : UInt32) : module.source.fromId? id = (names.map variantName)[id.toNat]? := by
  have hids : module.source.idArms =
      names.zipIdx.map fun (name, i) => (UInt32.ofNat i, variantName name) := by
    simp [source, henum, TokenEnum.ofNames, EnumToken.ofName, List.zipIdx_map, Function.comp_def,
      Prod.map]
  have hlookup := lookup_zipIdx variantName 0 (by omega : 0 + names.length ≤ 2 ^ 32) id
  rw [RustEnum.fromId?, hids, hlookup, if_pos (Nat.zero_le _), Nat.sub_zero, List.getElem?_map]

theorem fromName?_source (henum : module.enum = .ofNames names) (name : String) :
    module.source.fromName? name = if name ∈ names then some (variantName name) else none := by
  have hnames : module.source.nameArms = names.map fun name => (name, variantName name) := by
    simp [source, henum, TokenEnum.ofNames, EnumToken.ofName, Function.comp_def]
  rw [RustEnum.fromName?, hnames, lookup_map_self]

theorem toId?_source_iff (henum : module.enum = .ofNames names)
    (hnodup : (names.map variantName).Nodup) (hlength : names.length ≤ 2 ^ 32) {variant : String}
    {id : UInt32} :
    module.source.toId? variant = some id ↔
      (names.map variantName)[id.toNat]? = some variant := by
  have hvariants : module.source.variants = names.map variantName := by
    rw [source, henum, TokenEnum.variants_ofNames]
  rw [RustEnum.toId?, hvariants, Option.map_eq_some_iff]
  constructor
  · rintro ⟨i, hi, rfl⟩
    rw [idxOf?_eq_some_iff_of_nodup hnodup] at hi
    obtain ⟨hlt, -⟩ := List.getElem?_eq_some_iff.1 hi
    rw [List.length_map] at hlt
    rwa [UInt32.toNat_ofNat', Nat.mod_eq_of_lt (by omega)]
  · intro hget
    exact ⟨id.toNat, (idxOf?_eq_some_iff_of_nodup hnodup).2 hget, UInt32.ofNat_toNat⟩

theorem lookup_tables_source (henum : module.enum = .ofNames names) :
    module.source.tables.lookup module.source.namesTable = some names := by
  have hnames : module.enum.names = names := by rw [henum, TokenEnum.names_ofNames]
  rw [source, List.lookup_cons_self, hnames]

theorem toName?_source_iff (henum : module.enum = .ofNames names)
    (hnodup : (names.map variantName).Nodup) (hlength : names.length ≤ 2 ^ 32)
    {variant name : String} :
    module.source.toName? variant = some name ↔ name ∈ names ∧ variantName name = variant := by
  rw [RustEnum.toName?, lookup_tables_source henum, Option.bind_some, Option.bind_eq_some_iff]
  constructor
  · rintro ⟨id, hid, hname⟩
    rw [toId?_source_iff henum hnodup hlength, List.getElem?_map, hname] at hid
    exact ⟨List.mem_of_getElem? hname, Option.some.inj hid⟩
  · rintro ⟨hname, rfl⟩
    obtain ⟨i, hi⟩ := List.mem_iff_getElem?.1 hname
    obtain ⟨hlt, -⟩ := List.getElem?_eq_some_iff.1 hi
    have hid : (UInt32.ofNat i).toNat = i := by
      rw [UInt32.toNat_ofNat']
      exact Nat.mod_eq_of_lt (by omega)
    refine ⟨UInt32.ofNat i, ?_, by rwa [hid]⟩
    rw [toId?_source_iff henum hnodup hlength, hid, List.getElem?_map, hi, Option.map_some]

/-- An enumeration with distinct variants keeps its names apart. -/
theorem enumerates_source (henum : module.enum = .ofNames names)
    (hnodup : (names.map variantName).Nodup) (hlength : names.length ≤ 2 ^ 32) :
    module.source.Enumerates names where
  table := lookup_tables_source henum
  length_variants := by rw [source, henum, TokenEnum.variants_ofNames, List.length_map]
  place := by
    intro i name hname
    obtain ⟨hlt, -⟩ := List.getElem?_eq_some_iff.1 hname
    have hid : (UInt32.ofNat i).toNat = i := by
      rw [UInt32.toNat_ofNat']
      exact Nat.mod_eq_of_lt (by omega)
    have hvariant : (names.map variantName)[i]? = some (variantName name) := by
      rw [List.getElem?_map, hname, Option.map_some]
    have hmem : name ∈ names := List.mem_of_getElem? hname
    refine ⟨variantName name, ?_, ?_, ?_, ?_, ?_⟩
    · rwa [source, henum, TokenEnum.variants_ofNames]
    · rw [fromId?_source henum hlength, hid, hvariant]
    · rw [toId?_source_iff henum hnodup hlength, hid, hvariant]
    · exact (toName?_source_iff henum hnodup hlength).2 ⟨hmem, rfl⟩
    · rw [fromName?_source henum, if_pos hmem]
  fromId?_eq_none := by
    intro id hid
    rw [fromId?_source henum hlength, List.getElem?_eq_none_iff, List.length_map]
    exact hid
  fromName?_eq_none := by
    intro name hname
    rw [fromName?_source henum, if_neg hname]
  fromId?_iff := by
    intro id variant
    rw [fromId?_source henum hlength, toId?_source_iff henum hnodup hlength]
  fromName?_iff := by
    intro name variant
    rw [fromName?_source henum, toName?_source_iff henum hnodup hlength]
    simp

theorem compiles_source (henum : module.enum = .ofNames names)
    (hnodup : (names.map variantName).Nodup) (hlength : names.length ≤ 2 ^ 32) :
    module.source.Compiles where
  tables_nodup := by
    have hne : module.namesTable ≠ module.upperStem ++ "_KEYWORD_LEXEMES" := by
      intro heq
      have hsuffix := congrArg String.toList heq
      rw [namesTable, String.toList_append, String.toList_append] at hsuffix
      have htables := List.append_cancel_left hsuffix
      revert htables
      decide
    simpa [source] using hne
  variants_nodup := by
    rwa [source, henum, TokenEnum.variants_ofNames]
  length_variants_le := by
    rwa [source, henum, TokenEnum.variants_ofNames, List.length_map]
  nameArms_mem := by
    intro arm harm
    obtain ⟨token, htoken, rfl⟩ := List.mem_map.1 harm
    exact List.mem_map.2 ⟨token, htoken, rfl⟩
  idArms_mem := by
    intro arm harm
    obtain ⟨⟨token, id⟩, hmem, rfl⟩ := List.mem_map.1 harm
    exact List.mem_map.2 ⟨token, List.fst_mem_of_mem_zipIdx hmem, rfl⟩
  namesTable_mem := List.mem_cons_self

end Conversions

end RustModule

/-! ## Modules of grammars -/

theorem EnumToken.name_ofName (name : String) : (EnumToken.ofName name).name = name := rfl

theorem EnumToken.variant_ofName (name : String) :
    (EnumToken.ofName name).variant = variantName name := by
  rw [EnumToken.ofName]

namespace Vocabulary

theorem enumName_ne_self (options : Options) : options.enumName ≠ "Self" := by
  intro heq
  have hsuffix : "Token".toList <:+ "Self".toList := by
    rw [← heq, Options.enumName, String.toList_append]
    exact List.suffix_append _ _
  revert hsuffix
  decide

theorem legible_ofVocabulary? {grammar : String} {options : Options} {module : RustModule}
    (hstem : IsStem options.stem.toList) (hsource : '\n' ∉ options.source.toList)
    (h : RustModule.ofVocabulary? (ofGrammar grammar) options = .ok module) : module.Legible := by
  obtain ⟨-, rfl⟩ := ofVocabulary?_eq_ok_iff.1 h
  have hnames : ∀ token ∈ (TokenEnum.ofNames (ofGrammar grammar).names).tokens,
      TokenRule.IsName token.name.toList ∧ token.variant = variantName token.name := by
    intro token htoken
    obtain ⟨name, hname, rfl⟩ := List.mem_map.1 htoken
    rw [EnumToken.name_ofName, EnumToken.variant_ofName]
    exact ⟨isName_of_mem_names hname, rfl⟩
  exact {
    notice := Options.lex_notice hsource
    notice_unbroken := Options.newline_not_mem_notice hsource
    upperStem := Options.isCapitalized_upperStem hstem
    enumName := Options.isCapitalized_enumName hstem
    enumName_ne_self := enumName_ne_self options
    names := fun token htoken => (hnames token htoken).1
    variants := by
      intro token htoken
      rw [(hnames token htoken).2]
      exact isCapitalized_variantName (hnames token htoken).1
    variants_ne_self := by
      intro token htoken
      rw [(hnames token htoken).2]
      exact variantName_ne_self token.name }

theorem exists_grammarArtifact_eq_ok {grammar : String} {options : Options}
    (htarget : options.target = .rustModule) (h : conflict? (ofGrammar grammar).names = none) :
    ∃ text, grammarArtifact grammar options = .ok text := by
  rw [grammarArtifact, artifact, htarget]
  exact ⟨_, rustModule_eq_ok_iff.2 ⟨_, ofVocabulary?_eq_ok_iff.2 ⟨h, rfl⟩, rfl⟩⟩

end Vocabulary

/-! ## Nova -/

namespace TokenEnum

theorem token?_ofNames (names : List String) (id : Nat) :
    ((ofNames names).token? id).map (·.variant) = (names.map variantName)[id]? := by
  rw [token?, ← List.getElem?_map, ← variants_ofNames]
  rfl

theorem idOfName?_ofNames (names : List String) (name : String) :
    (((ofNames names).idOfName? name).bind (ofNames names).token?).map (·.variant) =
      if name ∈ names then some (variantName name) else none := by
  have hindex : (ofNames names).idOfName? name = names.idxOf? name := by
    simp [idOfName?, ofNames, List.findIdx?_map, List.idxOf?, Function.comp_def,
      EnumToken.name_ofName]
  rw [hindex, Option.map_bind]
  cases hfound : names.idxOf? name with
  | none => rw [if_neg (List.idxOf?_eq_none_iff.1 hfound), Option.bind_none]
  | some i =>
      obtain ⟨hi, hname, -⟩ := List.idxOf?_eq_some_iff.1 hfound
      have hget : names[i]? = some name := List.getElem?_eq_some_iff.2 ⟨hi, hname⟩
      rw [if_pos (List.mem_of_getElem? hget), Option.bind_some, Function.comp_apply,
        token?_ofNames, List.getElem?_map, hget, Option.map_some]

end TokenEnum

namespace Nova

theorem toList_grammar :
    grammar.toList = (grammarText.map String.toList).flatMap (· ++ ['\n']) := by
  rw [grammar]
  generalize grammarText = texts
  induction texts with
  | nil => simp
  | cons text rest ih => simpa using ih

theorem unbroken_grammarText : ∀ text ∈ grammarText.map String.toList,
    ∀ c ∈ text, Text.isLineBreak c = false := by
  have hall : (grammarText.map String.toList).all (·.all (!Text.isLineBreak ·)) = true := by
    decide +kernel
  intro text htext c hc
  simpa using List.all_eq_true.1 (List.all_eq_true.1 hall text htext) c hc

/-- The grammar is read line by line, without looking for the lines again. -/
theorem rules_vocabulary : vocabulary.rules =
    (grammarText.map String.toList ++ [[]]).filterMap fun line => (GrammarLine.ofText line).rule? := by
  rw [vocabulary, Vocabulary.ofGrammar, GrammarLine.ofGrammar, toList_grammar,
    Text.lines_flatMap unbroken_grammarText, List.filterMap_map, Function.comp_def]

theorem names_vocabulary : vocabulary.names =
    ["MODULE", "IMPORT", "FUN", "LET", "IF", "ELSE", "TRUE", "FALSE", "ARROW", "PIPE", "LPAREN",
      "RPAREN", "LBRACE", "RBRACE", "COMMA", "EQUAL", "PLUS", "NUMBER", "STRING", "ID", "KW_ASYNC",
      "COMMENT", "WS"] := by
  rw [Vocabulary.names, rules_vocabulary]
  decide +kernel

theorem conflict?_vocabulary : conflict? vocabulary.names = none := by
  have hnames : ∀ name ∈ vocabulary.names, TokenRule.IsName name.toList := fun name hname =>
    Vocabulary.isName_of_mem_names hname
  apply conflict?_eq_none_of_nodup hnames
  rw [names_vocabulary]
  decide +kernel

theorem size_vocabulary : vocabulary.size = 23 := by
  rw [← Vocabulary.length_names, names_vocabulary]
  rfl

theorem variant_fromId? (id : Nat) :
    (fromId? id).map (·.token.variant) = (tokenEnum.token? id).map (·.variant) := by
  rw [fromId?, Option.map_map]
  rfl

theorem fromId?_variant (id : Nat) :
    (fromId? id).map (·.token.variant) = (vocabulary.names.map variantName)[id]? := by
  rw [variant_fromId?, tokenEnum, TokenEnum.token?_ofNames]

theorem fromName?_variant (name : String) :
    (fromName? name).map (·.token.variant) =
      if name ∈ vocabulary.names then some (variantName name) else none := by
  have hbind : fromName? name = (tokenEnum.idOfName? name).bind fromId? := by rw [fromName?]
  rw [hbind, map_bind_congr variant_fromId?, tokenEnum, TokenEnum.idOfName?_ofNames]

end Nova

/-- The module of a grammar with tokens is read as an enumeration that compiles, with a variant for
each rule and the names of the rules in order, and with conversions that are inverse to each other. -/
theorem readRust?_grammarArtifact {grammar text : String} {options : Options}
    (htarget : options.target = .rustModule) (hstem : IsStem options.stem.toList)
    (hsource : '\n' ∉ options.source.toList) (hpos : 0 < (Vocabulary.ofGrammar grammar).size)
    (hsize : (Vocabulary.ofGrammar grammar).size < 2 ^ 32)
    (h : grammarArtifact grammar options = .ok text) :
    ∃ source : RustEnum, readRust? text.toList = some source ∧ source.Compiles ∧
      source.name = options.enumName ∧
      source.namesTable = options.upperStem ++ "_TOKEN_NAMES" ∧
      source.variants = (Vocabulary.ofGrammar grammar).names.map variantName ∧
      source.variants.length = (Vocabulary.ofGrammar grammar).size ∧
      source.Enumerates (Vocabulary.ofGrammar grammar).names := by
  rw [grammarArtifact, Vocabulary.artifact, htarget] at h
  obtain ⟨module, hmodule, rfl⟩ := Vocabulary.rustModule_eq_ok_iff.1 h
  have hlegible := Vocabulary.legible_ofVocabulary? hstem hsource hmodule
  obtain ⟨hconflict, hfields⟩ := Vocabulary.ofVocabulary?_eq_ok_iff.1 hmodule
  have henum : module.enum = .ofNames (Vocabulary.ofGrammar grammar).names := by rw [hfields]
  have hnodup := conflict?_eq_none_iff.1 hconflict
  have hlength : (Vocabulary.ofGrammar grammar).names.length ≤ 2 ^ 32 := by
    rw [Vocabulary.length_names]
    omega
  have htokens : module.enum.tokens.length = (Vocabulary.ofGrammar grammar).size := by
    rw [henum, TokenEnum.ofNames, List.length_map, Vocabulary.length_names]
  have hne : module.enum.tokens ≠ [] := by
    rw [← List.length_pos_iff, htokens]
    exact hpos
  have hread : readRust? module.render.toList = some module.source := by
    rw [readRust?, RustModule.render, lex_renderCode (RustModule.lexCode_code hlegible hne)]
    exact RustModule.readEnumModule?_moduleTokens hlegible (by omega)
  have henumerates := RustModule.enumerates_source henum hnodup hlength
  refine ⟨module.source, hread, RustModule.compiles_source henum hnodup hlength, ?_, ?_, ?_, ?_,
    henumerates⟩
  · rw [RustModule.source, hfields]
  · rw [RustModule.source, RustModule.namesTable, hfields]
  · rw [RustModule.source, henum, TokenEnum.variants_ofNames]
  · rw [henumerates.length_variants, Vocabulary.length_names]

/-- The tokens of Nova are those of the module for its grammar. -/
theorem readRust?_nova : ∃ (text : String) (source : RustEnum),
    grammarArtifact Nova.grammar { target := .rustModule } = .ok text ∧
    readRust? text.toList = some source ∧ source.Enumerates Nova.vocabulary.names ∧
    (∀ id : UInt32, (Nova.fromId? id.toNat).map (·.token.variant) = source.fromId? id) ∧
    (∀ name, (Nova.fromName? name).map (·.token.variant) = source.fromName? name) := by
  have hvocabulary : Vocabulary.ofGrammar Nova.grammar = Nova.vocabulary := rfl
  have hconflict : conflict? (Vocabulary.ofGrammar Nova.grammar).names = none := by
    rw [hvocabulary, Nova.conflict?_vocabulary]
  have hsize : (Vocabulary.ofGrammar Nova.grammar).size = 23 := by
    rw [hvocabulary, Nova.size_vocabulary]
  obtain ⟨text, htext⟩ := Vocabulary.exists_grammarArtifact_eq_ok
    (show Options.target { target := .rustModule } = .rustModule from rfl) hconflict
  obtain ⟨source, hread, -, -, -, hvariants, -, henumerates⟩ :=
    readRust?_grammarArtifact rfl (by decide) (by decide) (by omega) (by omega) htext
  rw [hvocabulary] at hvariants henumerates
  refine ⟨text, source, htext, hread, henumerates, ?_, ?_⟩
  · intro id
    rw [Nova.fromId?_variant, henumerates.fromId?_eq, hvariants]
  · intro name
    rw [Nova.fromName?_variant, henumerates.fromName?_eq hvariants]

end TokenTables
