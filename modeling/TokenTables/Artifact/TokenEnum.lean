import TokenTables.Naming.Style
/-!
# Token enumerations

Each token of a list has a variant of an enumeration, named for the token in another spelling.  The
spelling loses underscores, so two names may ask for one variant; then there is no enumeration.
-/

namespace TokenTables

/-- The variant for a token's name.  `Self` is a reserved word and gets an underscore. -/
def variantName (name : String) : String :=
  let variant := Naming.pascal name
  if variant = "Self" then "Self_" else variant

/-- Why a list of names has no enumeration. -/
inductive VariantConflict
  /-- The name comes twice. -/
  | duplicateName (name : String)
  /-- Two different names have one variant. -/
  | sharedVariant (first second variant : String)
deriving DecidableEq, Repr

def VariantConflict.message : VariantConflict → String
  | duplicateName name => "token `" ++ name ++ "` is declared more than once"
  | sharedVariant first second variant =>
    "tokens `" ++ first ++ "` and `" ++ second ++ "` both map to enum variant `" ++ variant ++ "`"

/-- The conflict of the first name whose variant is taken already; `taken` holds the variants before
it with their names. -/
def conflictAfter? (taken : List (String × String)) : List String → Option VariantConflict
  | [] => none
  | name :: rest =>
    let variant := variantName name
    match taken.lookup variant with
    | some first =>
      some (if first = name then .duplicateName name else .sharedVariant first name variant)
    | none => conflictAfter? ((variant, name) :: taken) rest

def conflict? (names : List String) : Option VariantConflict :=
  conflictAfter? [] names

structure EnumToken where
  name : String
  variant : String
deriving DecidableEq, Repr

def EnumToken.ofName (name : String) : EnumToken :=
  ⟨name, variantName name⟩

/-- The tokens of an enumeration; the place of a token is its number. -/
structure TokenEnum where
  tokens : List EnumToken
deriving DecidableEq, Repr

namespace TokenEnum

/-- The enumeration of tokens with these names, whether the variants are distinct or not. -/
def ofNames (names : List String) : TokenEnum :=
  ⟨names.map EnumToken.ofName⟩

def ofNames? (names : List String) : Except VariantConflict TokenEnum :=
  match conflict? names with
  | some conflict => .error conflict
  | none => .ok (ofNames names)

def names (enum : TokenEnum) : List String :=
  enum.tokens.map (·.name)

def variants (enum : TokenEnum) : List String :=
  enum.tokens.map (·.variant)

/-- The number of the first token with the name. -/
def idOfName? (enum : TokenEnum) (name : String) : Option Nat :=
  enum.tokens.findIdx? (·.name == name)

def token? (enum : TokenEnum) (id : Nat) : Option EnumToken :=
  enum.tokens[id]?

/-! ## Names and variants -/

@[simp] theorem names_ofNames (names : List String) : (ofNames names).names = names := by
  simp [TokenEnum.names, ofNames, EnumToken.ofName, Function.comp_def]

@[simp] theorem variants_ofNames (names : List String) :
    (ofNames names).variants = names.map variantName := by
  simp [TokenEnum.variants, ofNames, EnumToken.ofName, Function.comp_def]

end TokenEnum

end TokenTables
