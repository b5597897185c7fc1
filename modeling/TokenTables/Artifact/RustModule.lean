import TokenTables.Artifact.Options
import TokenTables.Artifact.TokenEnum
import TokenTables.Grammar.Keyword
import TokenTables.Text.Newline
import TokenTables.Text.Literal
/-!
# Rust modules

The module has the number of keywords, the names of all tokens, the spellings of the fixed ones and
an enumeration of the tokens with conversions from and to names and numbers.  Without tokens there
is no enumeration.
-/

namespace TokenTables

open Text

/-- What a Rust module holds. -/
structure RustModule where
  notice : String
  upperStem : String
  enumName : String
  keywordCount : Nat
  lexemes : List String
  enum : TokenEnum
deriving DecidableEq, Repr

namespace RustModule

/-- The module for a vocabulary, if the names in it have distinct variants. -/
def ofVocabulary? (vocabulary : Vocabulary) (options : Options) :
    Except VariantConflict RustModule :=
  (TokenEnum.ofNames? vocabulary.names).map fun enum =>
    { notice := options.notice
      upperStem := options.upperStem
      enumName := options.enumName
      keywordCount := vocabulary.keywordCount
      lexemes := vocabulary.keywordLexemes
      enum }

def namesTable (module : RustModule) : String :=
  module.upperStem ++ "_TOKEN_NAMES"

def table (name : String) (entries : List String) : List CodeLine :=
  [⟨0, "pub static " ++ name ++ ": &[&str] = &["⟩] ++
    entries.map (fun entry => ⟨1, quoted entry ++ ","⟩) ++ [⟨0, "];"⟩]

def enumCode (enumName : String) (variants : List String) : List CodeLine :=
  [⟨0, "#[derive(Clone, Copy, PartialEq, Eq, Debug, Hash)]"⟩, ⟨0, "#[repr(u32)]"⟩,
    ⟨0, "pub enum " ++ enumName ++ " \x7b"⟩] ++
    variants.map (fun variant => ⟨1, variant ++ ","⟩) ++ [⟨0, "\x7d"⟩]

/-- One arm of a `match` that yields a token. -/
def arm (enumName pattern variant : String) : CodeLine :=
  ⟨3, pattern ++ " => Some(" ++ enumName ++ "::" ++ variant ++ "),"⟩

/-- A function of one argument that looks it up in a `match`; nothing is found in its last arm. -/
def lookupCode (signature subject : String) (arms : List CodeLine) : List CodeLine :=
  [⟨1, "pub fn " ++ signature ++ " -> Option<Self> \x7b"⟩, ⟨2, "match " ++ subject ++ " \x7b"⟩] ++
    arms ++ [⟨3, "_ => None,"⟩, ⟨2, "\x7d"⟩, ⟨1, "\x7d"⟩]

/-- A function of the token itself. -/
def methodCode (name result body : String) : List CodeLine :=
  [⟨1, "pub fn " ++ name ++ "(self) -> " ++ result ++ " \x7b"⟩, ⟨2, body⟩, ⟨1, "\x7d"⟩]

def nameArms (enumName : String) (tokens : List EnumToken) : List CodeLine :=
  tokens.map fun token => arm enumName ("\"" ++ token.name ++ "\"") token.variant

def idArms (enumName : String) (tokens : List EnumToken) : List CodeLine :=
  tokens.zipIdx.map fun (token, id) => arm enumName (toString id) token.variant

/-- Blocks of code with an empty line between two of them. -/
def spaced (blocks : List (List CodeLine)) : List CodeLine :=
  [⟨0, ""⟩].intercalate blocks

def implCode (module : RustModule) : List CodeLine :=
  [⟨0, "impl " ++ module.enumName ++ " \x7b"⟩] ++
    spaced [
      lookupCode "from_name(name: &str)" "name" (nameArms module.enumName module.enum.tokens),
      lookupCode "from_id(id: u32)" "id" (idArms module.enumName module.enum.tokens),
      methodCode "to_name" "&'static str" (module.namesTable ++ "[self as usize]"),
      methodCode "to_id" "u32" "self as u32"] ++
    [⟨0, "\x7d"⟩]

def tableItems (module : RustModule) : List (List CodeLine) :=
  [[⟨0, module.notice⟩],
    [⟨0, "pub const " ++ module.upperStem ++ "_TOKEN_KEYWORD_COUNT: usize = " ++
      toString module.keywordCount ++ ";"⟩],
    table module.namesTable module.enum.names,
    table (module.upperStem ++ "_KEYWORD_LEXEMES") module.lexemes]

/-- The enumeration and its conversions; an enumeration without variants cannot be numbered. -/
def enumItems (module : RustModule) : List (List CodeLine) :=
  if module.enum.tokens.isEmpty then []
  else [enumCode module.enumName module.enum.variants, implCode module]

def code (module : RustModule) : List CodeLine :=
  spaced (module.tableItems ++ module.enumItems)

def render (module : RustModule) : String :=
  renderCode module.code

end RustModule

end TokenTables
