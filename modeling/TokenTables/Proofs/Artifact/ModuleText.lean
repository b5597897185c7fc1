import TokenTables.Proofs.Artifact.Determined
import TokenTables.Proofs.Artifact.Options
import TokenTables.Proofs.Syntax.RustEnum
/-!
# Modules read as Rust

The tokens of a module, block by block, and the enumeration that is read from them.
-/

namespace TokenTables

open Naming Syntax

namespace RustModule

/-! ## Tables and the enumeration -/

theorem lexCode_countLine {module : RustModule} (h : IsIdentifier module.upperStem.toList) :
    lexCode [module.countLine] = some
      (constantTokens (module.upperStem ++ "_TOKEN_KEYWORD_COUNT") module.keywordCount) := by
  have hname := h.append "_TOKEN_KEYWORD_COUNT" (by decide)
  unfold countLine
  exact lexCode_parts [.code "pub const ", .name (module.upperStem ++ "_TOKEN_KEYWORD_COUNT"),
      .code ": usize = ", .number module.keywordCount, .code ";"]
    ⟨by decide, hname, by decide, by decide, by decide, by decide, trivial⟩ (by simp [Part.text])
    (by simp [Part.tokens, constantTokens])

theorem lexCode_table {name : String} (h : IsIdentifier name.toList) (entries : List String) :
    lexCode (table name entries) = some (tableTokens name entries) := by
  have hopen : lexCode [⟨0, "pub static " ++ name ++ ": &[&str] = &["⟩] =
      some (rust "pub static " ++ .word name :: rust ": &[&str] = &[") :=
    lexCode_parts [.code "pub static ", .name name, .code ": &[&str] = &["]
      ⟨by decide, h, by decide, by decide, trivial⟩ (by simp [Part.text]) (by simp [Part.tokens])
  have hrows : lexCode (entries.map fun entry => ⟨1, Text.quoted entry ++ ","⟩) =
      some (entries.flatMap fun entry => .string entry :: rust ",") :=
    lexCode_map fun entry _ => lexCode_parts [.literal entry, .code ","] ⟨by decide, trivial⟩
      (by simp [Part.text]) (by simp [Part.tokens])
  have hclose : lexCode [⟨0, "];"⟩] = some (rust "];") := lexCode_rust 0 (by decide)
  have htable := lexCode_append (lexCode_append hopen hrows) hclose
  simpa [table, tableTokens] using htable

theorem lexCode_enumCode {name : String} (h : IsIdentifier name.toList) {variants : List String}
    (hvariants : ∀ variant ∈ variants, IsIdentifier variant.toList) :
    lexCode (enumCode name variants) = some (enumTokens name variants) := by
  have hderive : lexCode [⟨0, "#[derive(Clone, Copy, PartialEq, Eq, Debug, Hash)]"⟩] =
      some (rust "#[derive(Clone, Copy, PartialEq, Eq, Debug, Hash)]") := lexCode_rust 0 (by decide)
  have hrepr : lexCode [⟨0, "#[repr(u32)]"⟩] = some (rust "#[repr(u32)]") :=
    lexCode_rust 0 (by decide)
  have hopen : lexCode [⟨0, "pub enum " ++ name ++ " \x7b"⟩] =
      some (rust "pub enum " ++ .word name :: rust " \x7b") :=
    lexCode_parts [.code "pub enum ", .name name, .code " \x7b"]
      ⟨by decide, h, by decide, by decide, trivial⟩ (by simp [Part.text]) (by simp [Part.tokens])
  have hrows : lexCode (variants.map fun variant => ⟨1, variant ++ ","⟩) =
      some (variants.flatMap fun variant => .word variant :: rust ",") :=
    lexCode_map fun variant hvariant => lexCode_parts [.name variant, .code ","]
      ⟨hvariants variant hvariant, by decide, by decide, trivial⟩ (by simp [Part.text])
      (by simp [Part.tokens])
  have hclose : lexCode [⟨0, "\x7d"⟩] = some (rust "\x7d") := lexCode_rust 0 (by decide)
  have henum := lexCode_append (lexCode_append
    (lexCode_cons hderive (lexCode_cons hrepr hopen)) hrows) hclose
  simpa [enumCode, enumTokens] using henum

/-! ## Conversions -/

/-- The name of a token is written the same with escapes. -/
theorem quoted_of_isName {name : String} (h : TokenRule.IsName name.toList) :
    Text.quoted name = "\"" ++ name ++ "\"" := by
  have hescape : Text.escape name.toList = name.toList := by
    have hchar : ∀ c ∈ name.toList, Text.escapeChar c = [c] := by
      intro c hc
      have hname := h.isNameChar hc
      have hprint := isPrintable_of_isStemChar (h.isStem.isStemChar hc)
      have hplain (d : Char) (hd : TokenRule.isNameChar d = false) : c ≠ d := by
        rintro rfl
        rw [hname] at hd
        contradiction
      have htab := hplain '\t' (by decide)
      have hreturn := hplain '\r' (by decide)
      have hfeed := hplain '\n' (by decide)
      have hsingle := hplain '\'' (by decide)
      have hdouble := hplain '"' (by decide)
      have hbackslash := hplain '\\' (by decide)
      simp [Text.escapeChar, htab, hreturn, hfeed, hsingle, hdouble, hbackslash, hprint]
    rw [Text.escape, List.flatMap_congr hchar, List.flatMap_singleton']
  rw [Text.quoted, hescape, String.ofList_toList]

theorem lexCode_nameArms {name : String} (h : IsIdentifier name.toList) {tokens : List EnumToken}
    (hnames : ∀ token ∈ tokens, TokenRule.IsName token.name.toList)
    (hvariants : ∀ token ∈ tokens, IsIdentifier token.variant.toList) :
    lexCode (nameArms name tokens) =
      some (tokens.flatMap fun token => armTokens name token.variant (.string token.name)) := by
  refine lexCode_map fun token htoken => ?_
  rw [← quoted_of_isName (hnames token htoken)]
  exact lexCode_parts [.literal token.name, .code " => Some(", .name name, .code "::",
      .name token.variant, .code "),"]
    ⟨by decide, h, by decide, by decide, hvariants token htoken, by decide, by decide, trivial⟩
    (by simp [Part.text]) (by simp [Part.tokens, armTokens])

theorem lexCode_idArms {name : String} (h : IsIdentifier name.toList) {tokens : List EnumToken}
    (hvariants : ∀ token ∈ tokens, IsIdentifier token.variant.toList) :
    lexCode (idArms name tokens) =
      some (tokens.zipIdx.flatMap fun (token, id) => armTokens name token.variant (.number id)) := by
  refine lexCode_map fun (token, id) hmem => ?_
  have htoken : token ∈ tokens := List.fst_mem_of_mem_zipIdx hmem
  exact lexCode_parts [.number id, .code " => Some(", .name name, .code "::",
      .name token.variant, .code "),"]
    ⟨by decide, by decide, h, by decide, by decide, hvariants token htoken, by decide, by decide,
      trivial⟩
    (by simp [Part.text]) (by simp [Part.tokens, armTokens])

theorem lexCode_lookupCode (signature subject : String) {arms : List Text.CodeLine}
    {tokens : List Token}
    (hsignature : Part.closed ("pub fn " ++ signature ++ " -> Option<Self> \x7b") = true)
    (hsubject : Part.closed ("match " ++ subject ++ " \x7b") = true)
    (harms : lexCode arms = some tokens) :
    lexCode (lookupCode signature subject arms) =
      some (lookupTokens ("pub fn " ++ signature ++ " -> Option<Self> \x7b")
        ("match " ++ subject ++ " \x7b") tokens) := by
  have hlast : lexCode [⟨3, "_ => None,"⟩] = some (rust "_ => None,") := lexCode_rust 3 (by decide)
  have hinner : lexCode [⟨2, "\x7d"⟩] = some (rust "\x7d") := lexCode_rust 2 (by decide)
  have houter : lexCode [⟨1, "\x7d"⟩] = some (rust "\x7d") := lexCode_rust 1 (by decide)
  have hlookup := lexCode_append (lexCode_append
    (lexCode_cons (lexCode_rust 1 hsignature) (lexCode_rust 2 hsubject)) harms)
    (lexCode_cons hlast (lexCode_cons hinner houter))
  simpa [lookupCode, lookupTokens] using hlookup

theorem lexCode_methodCode (name result : String) {body : String} {tokens : List Token}
    (hsignature : Part.closed ("pub fn " ++ name ++ "(self) -> " ++ result ++ " \x7b") = true)
    (hbody : lexCode [⟨2, body⟩] = some tokens) :
    lexCode (methodCode name result body) =
      some (rust ("pub fn " ++ name ++ "(self) -> " ++ result ++ " \x7b") ++
        (tokens ++ rust "\x7d")) := by
  have hclose : lexCode [⟨1, "\x7d"⟩] = some (rust "\x7d") := lexCode_rust 1 (by decide)
  exact lexCode_cons (lexCode_rust 1 hsignature) (lexCode_cons hbody hclose)

/-! ## The module -/

/-- What a module needs to be read as Rust. -/
structure Legible (module : RustModule) : Prop where
  notice : lex .rust module.notice.toList = some []
  notice_unbroken : '\n' ∉ module.notice.toList
  upperStem : IsCapitalized module.upperStem.toList
  enumName : IsCapitalized module.enumName.toList
  enumName_ne_self : module.enumName ≠ "Self"
  names : ∀ token ∈ module.enum.tokens, TokenRule.IsName token.name.toList
  variants : ∀ token ∈ module.enum.tokens, IsCapitalized token.variant.toList
  variants_ne_self : ∀ token ∈ module.enum.tokens, token.variant ≠ "Self"

variable {module : RustModule}

theorem lexCode_spaced_cons {block next : List Text.CodeLine} {blocks : List (List Text.CodeLine)}
    {tokens more : List Token} (hblock : lexCode block = some tokens)
    (hrest : lexCode (spaced (next :: blocks)) = some more) :
    lexCode (spaced (block :: next :: blocks)) = some (tokens ++ more) := by
  have hempty : lexCode [⟨0, ""⟩] = some [] := rfl
  rw [spaced_cons_cons]
  exact lexCode_append hblock (lexCode_cons hempty hrest)

def implTokens (module : RustModule) : List Token :=
  rust "impl " ++ .word module.enumName :: (rust " \x7b" ++
    (lookupTokens "pub fn from_name(name: &str) -> Option<Self> \x7b" "match name \x7b"
      (module.enum.tokens.flatMap fun token =>
        armTokens module.enumName token.variant (.string token.name)) ++
    (lookupTokens "pub fn from_id(id: u32) -> Option<Self> \x7b" "match id \x7b"
      (module.enum.tokens.zipIdx.flatMap fun (token, id) =>
        armTokens module.enumName token.variant (.number id)) ++
    (indexTokens "pub fn to_name(self) -> &'static str \x7b" module.namesTable ++
    (rust "pub fn to_id(self) -> u32 \x7b" ++ (rust "self as u32" ++ (rust "\x7d" ++
      rust "\x7d")))))))

def moduleTokens (module : RustModule) : List Token :=
  constantTokens (module.upperStem ++ "_TOKEN_KEYWORD_COUNT") module.keywordCount ++
    (tableTokens module.namesTable module.enum.names ++
    (tableTokens (module.upperStem ++ "_KEYWORD_LEXEMES") module.lexemes ++
    (enumTokens module.enumName module.enum.variants ++ module.implTokens)))

theorem lexCode_implCode (h : module.Legible) :
    lexCode module.implCode = some module.implTokens := by
  have hname := h.enumName.toIsIdentifier
  have hvariants token (htoken : token ∈ module.enum.tokens) :=
    (h.variants token htoken).toIsIdentifier
  have hopen : lexCode [⟨0, "impl " ++ module.enumName ++ " \x7b"⟩] =
      some (rust "impl " ++ .word module.enumName :: rust " \x7b") :=
    lexCode_parts [.code "impl ", .name module.enumName, .code " \x7b"]
      ⟨by decide, hname, by decide, by decide, trivial⟩ (by simp [Part.text])
      (by simp [Part.tokens])
  have htableName : IsIdentifier module.namesTable.toList :=
    (h.upperStem.append "_TOKEN_NAMES" (by decide)).toIsIdentifier
  have htable : lexCode [⟨2, module.namesTable ++ "[self as usize]"⟩] =
      some (.word module.namesTable :: rust "[self as usize]") :=
    lexCode_parts [.name module.namesTable, .code "[self as usize]"]
      ⟨htableName, by decide, by decide, trivial⟩ (by simp [Part.text]) (by simp [Part.tokens])
  have hnumber : lexCode [⟨2, "self as u32"⟩] = some (rust "self as u32") :=
    lexCode_of_not_mem (by decide) rfl
  have hclose : lexCode [⟨0, "\x7d"⟩] = some (rust "\x7d") := lexCode_rust 0 (by decide)
  have hfromName := lexCode_lookupCode "from_name(name: &str)" "name" (by decide) (by decide)
    (lexCode_nameArms hname h.names hvariants)
  have hfromId := lexCode_lookupCode "from_id(id: u32)" "id" (by decide) (by decide)
    (lexCode_idArms hname hvariants)
  have htoName := lexCode_methodCode "to_name" "&'static str" (by decide) htable
  have htoId := lexCode_methodCode "to_id" "u32" (by decide) hnumber
  rw [← spaced_singleton (methodCode _ _ _)] at htoId
  have hmethods := lexCode_spaced_cons hfromName
    (lexCode_spaced_cons hfromId (lexCode_spaced_cons htoName htoId))
  have himpl := lexCode_append (lexCode_append hopen hmethods) hclose
  simpa [implCode, implTokens, indexTokens] using himpl

theorem lexCode_code (h : module.Legible) (hne : module.enum.tokens ≠ []) :
    lexCode module.code = some module.moduleTokens := by
  have hstem := h.upperStem.toIsIdentifier
  have hvariants : ∀ variant ∈ module.enum.variants, IsIdentifier variant.toList := by
    intro variant hvariant
    obtain ⟨token, htoken, rfl⟩ := List.mem_map.1 hvariant
    exact (h.variants token htoken).toIsIdentifier
  have hnotice : lexCode [⟨0, module.notice⟩] = some [] :=
    lexCode_of_not_mem h.notice_unbroken h.notice
  have hnames : lexCode (table module.namesTable module.enum.names) =
      some (tableTokens module.namesTable module.enum.names) :=
    lexCode_table (hstem.append "_TOKEN_NAMES" (by decide)) module.enum.names
  have hlexemes := lexCode_table (hstem.append "_KEYWORD_LEXEMES" (by decide)) module.lexemes
  have henum := lexCode_enumCode h.enumName.toIsIdentifier hvariants
  have himpl := lexCode_implCode h
  rw [← spaced_singleton module.implCode] at himpl
  have hitems : module.enumItems = [enumCode module.enumName module.enum.variants,
      module.implCode] := by
    rw [enumItems, if_neg (by simpa using hne)]
  have hcode := lexCode_spaced_cons hnotice (lexCode_spaced_cons (lexCode_countLine hstem)
    (lexCode_spaced_cons hnames (lexCode_spaced_cons hlexemes (lexCode_spaced_cons henum himpl))))
  rw [code, tableItems, hitems]
  exact hcode

/-- The enumeration of a module, as it is read. -/
def source (module : RustModule) : RustEnum where
  tables := [(module.namesTable, module.enum.names),
    (module.upperStem ++ "_KEYWORD_LEXEMES", module.lexemes)]
  name := module.enumName
  variants := module.enum.variants
  nameArms := module.enum.tokens.map fun token => (token.name, token.variant)
  idArms := module.enum.tokens.zipIdx.map fun (token, id) => (UInt32.ofNat id, token.variant)
  namesTable := module.namesTable

theorem readEnumModule?_moduleTokens (h : module.Legible)
    (hlength : module.enum.tokens.length ≤ 2 ^ 32) :
    readEnumModule? module.moduleTokens = some module.source := by
  have hreserved (suffix : String) (hsuffix : suffix.toList.all isWordChar = true)
      (hself : ¬suffix.toList <:+ "Self".toList) : module.upperStem ++ suffix ∉ reserved := by
    apply not_mem_reserved (h.upperStem.append suffix hsuffix)
    intro heq
    apply hself
    rw [← heq, String.toList_append]
    exact List.suffix_append _ _
  have hcount := hreserved "_TOKEN_KEYWORD_COUNT" (by decide) (by decide)
  have hnames : module.namesTable ∉ reserved := hreserved "_TOKEN_NAMES" (by decide) (by decide)
  have hlexemes := hreserved "_KEYWORD_LEXEMES" (by decide) (by decide)
  have henum := not_mem_reserved h.enumName h.enumName_ne_self
  have hvariants : ∀ variant ∈ module.enum.variants, variant ∉ reserved := by
    intro variant hvariant
    obtain ⟨token, htoken, rfl⟩ := List.mem_map.1 hvariant
    exact not_mem_reserved (h.variants token htoken) (h.variants_ne_self token htoken)
  have hstrings : ∀ token ∈ module.enum.tokens, readString? (.string token.name) =
      some token.name := fun _ _ => rfl
  have hids : ∀ item ∈ module.enum.tokens.zipIdx, readId? (.number item.2) =
      some (UInt32.ofNat item.2) := by
    intro item hitem
    have hlt := List.snd_lt_of_mem_zipIdx hitem
    rw [readId?, if_pos (by omega)]
  have hfromName := readLookup?_append (fun token : EnumToken => .string token.name) (·.name)
    (·.variant) (fun _ _ => by simp) hstrings module.enumName
    "pub fn from_name(name: &str) -> Option<Self> \x7b" "match name \x7b"
  have hfromId := readLookup?_append (fun item : EnumToken × Nat => .number item.2)
    (fun item => UInt32.ofNat item.2) (·.1.variant) (fun _ _ => by simp) hids module.enumName
    "pub fn from_id(id: u32) -> Option<Self> \x7b" "match id \x7b"
  have himpl (rest : List Token) : expect (.word module.enumName :: rust " \x7b")
      (.word module.enumName :: (rust " \x7b" ++ rest)) = some rest :=
    expect_append (.word module.enumName :: rust " \x7b") rest
  have hlast : expect (rust "\x7d") (rust "\x7d") = some [] := by
    simpa using expect_append (rust "\x7d") []
  simp only [readEnumModule?, moduleTokens, implTokens, Option.bind_eq_bind,
    readConstant?_append hcount, readTable?_append hnames, readTable?_append hlexemes,
    readEnum?_append henum hvariants, expect_append, himpl, hfromName, hfromId,
    readIndex?_append hnames, hlast, Option.bind_some, if_pos, source]

end RustModule

end TokenTables
