import TokenTables.Text.Blank
/-!
# Token rules

A token rule is written `NAME : value ;`, with blanks allowed between its parts and at the end.  The
value is everything up to the last semicolon, the blanks in front of that included.
-/

namespace TokenTables

open Text

/-- A token of a grammar: its name, and the right-hand side that spells it. -/
structure TokenRule where
  name : String
  value : String
deriving DecidableEq, Repr

namespace TokenRule

def isNameStart (c : Char) : Bool :=
  c.isUpper

def isNameChar (c : Char) : Bool :=
  c.isUpper || c.isDigit || c == '_'

/-- The name that a text begins with, as long as it can be, and the text after it. -/
def readName? : List Char → Option (List Char × List Char)
  | [] => none
  | c :: rest =>
    if isNameStart c then some (c :: rest.takeWhile isNameChar, rest.dropWhile isNameChar)
    else none

/-- What comes before the semicolon that a text ends in, blanks after that apart. -/
def beforeSemicolon? (text : List Char) : Option (List Char) :=
  match text.reverse.dropWhile isBlank with
  | ';' :: before => some before.reverse
  | _ => none

/-- The value that stands between the colon and the last semicolon.  Blanks in front of it do not
belong to it, unless there is nothing else: then it is the last of them.  It is on one line. -/
def readValue? (body : List Char) : Option (List Char) :=
  let value := match trimStart body with
    | [] => body.getLast?.toList
    | text => text
  if value.isEmpty || value.contains '\n' then none else some value

/-- The rule that a text is, name and value as character lists. -/
def read? (text : List Char) : Option (List Char × List Char) :=
  match readName? text with
  | none => none
  | some (name, rest) =>
    match trimStart rest with
    | ':' :: body => ((beforeSemicolon? body).bind readValue?).map (name, ·)
    | _ => none

def parse? (line : String) : Option TokenRule :=
  (read? line.toList).map fun (name, value) => ⟨String.ofList name, String.ofList value⟩

end TokenRule

end TokenTables
