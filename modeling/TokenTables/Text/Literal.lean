/-!
# String literals

A text as it stands between double quotes in generated code: in printable ASCII, each character that
is not printed as itself written as an escape that begins with a backslash.
-/

namespace TokenTables.Text

/-- Stands for itself in a literal unless it is a quote or a backslash: the space and the visible
characters of ASCII. -/
def isPrintable (c : Char) : Bool :=
  0x20 ≤ c.toNat && c.toNat ≤ 0x7E

/-- One character as a literal writes it: three controls by a letter, quotes and the backslash by
themselves, the other unprintable characters by their number in lower-case hexadecimal. -/
def escapeChar (c : Char) : List Char :=
  if c == '\t' then ['\\', 't']
  else if c == '\r' then ['\\', 'r']
  else if c == '\n' then ['\\', 'n']
  else if c == '\'' || c == '"' || c == '\\' then ['\\', c]
  else if isPrintable c then [c]
  else ['\\', 'u', '\x7b'] ++ Nat.toDigits 16 c.toNat ++ ['\x7d']

/-- A text as a literal writes it, without the quotes around it. -/
def escape (text : List Char) : List Char :=
  text.flatMap escapeChar

@[simp] theorem escape_nil : escape [] = [] := rfl

def quoted (text : String) : String :=
  "\"" ++ String.ofList (escape text.toList) ++ "\""

end TokenTables.Text
