import TokenTables.Naming.Word
/-!
# Case styles

The spellings that generated identifiers have: words in one case joined by underscores, and words
that begin with a capital and follow one another directly.
-/

namespace TokenTables.Naming

/-- The delimiters between words in any style. -/
def delimiters : List Boundary :=
  [.delimiter '_', .delimiter '-', .delimiter ' ']

/-- Boundaries under which digits stay attached to the word before them. -/
def compoundBoundaries : List Boundary :=
  delimiters ++ [.change .lower .upper]

/-- Boundaries under which runs of digits are words, and so are acronyms. -/
def allBoundaries : List Boundary :=
  compoundBoundaries ++
    [.change .upper .digit, .change .digit .upper, .change .digit .lower, .change .lower .digit,
      .acronym]

/-- Small letters, words joined by underscores. -/
def snake (name : String) : String :=
  "_".intercalate
    ((words compoundBoundaries name.toList).map fun word => String.ofList (Unicode.lower word))

/-- Capitals, words joined by underscores. -/
def upperSnake (name : String) : String :=
  "_".intercalate
    ((words compoundBoundaries name.toList).map fun word => String.ofList (Unicode.upper word))

/-- Capitalized words, joined without a mark between them. -/
def pascal (name : String) : String :=
  String.ofList ((words allBoundaries name.toList).flatMap Unicode.capitalize)

/-! ## Characters of a spelling -/

theorem toList_snake (name : String) :
    (snake name).toList =
      ['_'].intercalate ((words compoundBoundaries name.toList).map Unicode.lower) := by
  simp [snake, String.toList_intercalate, Function.comp_def]

theorem toList_upperSnake (name : String) :
    (upperSnake name).toList =
      ['_'].intercalate ((words compoundBoundaries name.toList).map Unicode.upper) := by
  simp [upperSnake, String.toList_intercalate, Function.comp_def]

theorem toList_pascal (name : String) :
    (pascal name).toList = (words allBoundaries name.toList).flatMap Unicode.capitalize := by
  simp [pascal]

end TokenTables.Naming
