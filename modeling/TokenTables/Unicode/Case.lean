import TokenTables.Unicode.CaseTable
import TokenTables.Unicode.Property
/-!
# Letter case

Full case mappings: a character may become several, and a lower-cased text ends its words in the
final sigma.
-/

namespace TokenTables.Unicode

/-- The case mapping that a pair of tables gives; a character in neither stands for itself. -/
def mapCase (shifts : List CaseShift) (expansions : List (Nat × List Nat)) (c : Char) :
    List Char :=
  match shifts.find? (·.contains c.toNat) with
  | some row => [Char.ofNat (c.toNat + row.shift).toNat]
  | none => ((expansions.lookup c.toNat).map (·.map Char.ofNat)).getD [c]

/-- The full upper-case mapping of a character. -/
def upperChar (c : Char) : List Char :=
  if c.toNat < 0x80 then [c.toUpper] else mapCase upperShifts upperExpansions c

/-- The full lower-case mapping of a character by itself. -/
def lowerChar (c : Char) : List Char :=
  if c.toNat < 0x80 then [c.toLower] else mapCase lowerShifts lowerExpansions c

def upper (text : List Char) : List Char :=
  text.flatMap upperChar

def isCased (c : Char) : Bool := holds casedIntervals c

def isCaseIgnorable (c : Char) : Bool := holds caseIgnorableIntervals c

/-- A letter with case comes next, when the characters without influence on case are passed over. -/
def startsCased (text : List Char) : Bool :=
  ((text.dropWhile isCaseIgnorable).head?.map isCased).getD false

/-- The lower-case form of a text that continues a word if `inWord` holds: a capital sigma inside a
word that does not go on becomes the final sigma. -/
def lowerFrom (inWord : Bool) : List Char → List Char
  | [] => []
  | c :: rest =>
    let mapped :=
      if c == 'Σ' then [if inWord && !startsCased rest then 'ς' else 'σ'] else lowerChar c
    mapped ++ lowerFrom (if isCaseIgnorable c then inWord else isCased c) rest

def lower (text : List Char) : List Char :=
  lowerFrom false text

/-- The text as a title begins it: its first character in upper case, the rest of it in lower case
as a text of its own. -/
def capitalize : List Char → List Char
  | [] => []
  | c :: rest => upperChar c ++ lower rest

/-! ## ASCII -/

theorem upperChar_ascii {c : Char} (h : c.toNat < 0x80) : upperChar c = [c.toUpper] := by
  simp [upperChar, h]

theorem lowerChar_ascii {c : Char} (h : c.toNat < 0x80) : lowerChar c = [c.toLower] := by
  simp [lowerChar, h]

theorem upper_ascii {text : List Char} (h : ∀ c ∈ text, c.toNat < 0x80) :
    upper text = text.map Char.toUpper := by
  induction text with
  | nil => rfl
  | cons c rest ih =>
    simp only [List.mem_cons, forall_eq_or_imp] at h
    simp only [upper, List.flatMap_cons, upperChar_ascii h.1, List.map_cons] at ih ⊢
    rw [ih h.2]
    rfl

theorem lowerFrom_ascii {text : List Char} (h : ∀ c ∈ text, c.toNat < 0x80) (inWord : Bool) :
    lowerFrom inWord text = text.map Char.toLower := by
  induction text generalizing inWord with
  | nil => rfl
  | cons c rest ih =>
    simp only [List.mem_cons, forall_eq_or_imp] at h
    have hc : (c == 'Σ') = false := by
      rw [beq_eq_false_iff_ne]
      rintro rfl
      exact absurd h.1 (by decide)
    simp [lowerFrom, hc, lowerChar_ascii h.1, ih h.2]

theorem lower_ascii {text : List Char} (h : ∀ c ∈ text, c.toNat < 0x80) :
    lower text = text.map Char.toLower :=
  lowerFrom_ascii h false

end TokenTables.Unicode
