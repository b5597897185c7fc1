import TokenTables.Artifact.Options
import TokenTables.Artifact.TokenEnum
import TokenTables.Proofs.Grammar.RuleSplit
import TokenTables.Proofs.Naming.Ascii
import TokenTables.Proofs.Naming.JoinedWords
import TokenTables.Proofs.Syntax.Spelling
/-!
# Options and names as code

A stem of letters and digits with delimiters between them makes identifiers, and any stem of ASCII has
two spellings that agree; the name of a token makes a variant, and the first line of an artifact is a
comment.
-/

namespace TokenTables

open Naming Syntax Text

namespace Options

variable {options : Options}

theorem isCapitalized_upperStem (h : IsStem options.stem.toList) :
    IsCapitalized options.upperStem.toList :=
  isCapitalized_upperSnake h

theorem isLettered_lowerStem (h : IsStem options.stem.toList) :
    IsLettered options.lowerStem.toList :=
  isLettered_snake h

theorem isCapitalized_enumName (h : IsStem options.stem.toList) :
    IsCapitalized options.enumName.toList :=
  (isCapitalized_pascal h).append "Token" (by decide)

theorem toList_notice : options.notice.toList = '/' :: '/' :: (" Auto-generated from ".toList ++
    (options.source.toList ++ ". Do not edit manually.".toList)) := by
  unfold notice
  rw [String.toList_append, String.toList_append, List.append_assoc]
  rfl

theorem lex_notice {dialect : Dialect} (h : '\n' ∉ options.source.toList) :
    lex dialect options.notice.toList = some [] := by
  rw [toList_notice]
  apply lex_comment
  simp only [List.mem_append, not_or]
  exact ⟨by decide, h, by decide⟩

theorem newline_not_mem_notice (h : '\n' ∉ options.source.toList) :
    '\n' ∉ options.notice.toList := by
  unfold notice
  simp only [String.toList_append, List.mem_append, not_or]
  exact ⟨⟨by decide, h⟩, by decide⟩

/-- The two spellings of a stem of ASCII.  The one in small letters loses nothing but delimiters, and
says with single underscores where the words of the stem meet; the other has its capitals.  From
either of them the same small letters come again. -/
theorem stems_agree (options : Options) (h : ∀ c ∈ options.stem.toList, c.toNat < 128) :
    IsSnake options.stem.toList options.lowerStem.toList ∧
      options.upperStem.toList = options.lowerStem.toList.map Char.toUpper ∧
      Options.lowerStem { options with stem := options.lowerStem } = options.lowerStem ∧
      Options.lowerStem { options with stem := options.upperStem } = options.lowerStem :=
  ⟨isSnake_snake h, toList_upperSnake_ascii h, snake_snake h, snake_upperSnake h⟩

/-- Delimiters in a row and at the ends, a digit between letters, and a pair of characters that is one
cluster. -/
theorem stems_agree_of_mixed_stem :
    let options : Options := { stem := "-My  appName2X_\r\nZ9 " }
    (∀ c ∈ options.stem.toList, c.toNat < 128) ∧
      options.lowerStem = "my_app_name2x_\r\nz9" ∧
      options.upperStem.toList = "MY_APP_NAME2X_\r\nZ9".toList ∧
      IsSnake options.stem.toList options.lowerStem.toList ∧
      Options.lowerStem { options with stem := options.upperStem } = options.lowerStem := by
  intro options
  have hascii : ∀ c ∈ options.stem.toList, c.toNat < 128 := by simp [options]
  have hlower : options.lowerStem = "my_app_name2x_\r\nz9" := by decide +kernel
  obtain ⟨hsnake, hupper, -, hagain⟩ := stems_agree options hascii
  refine ⟨hascii, hlower, ?_, hsnake, hagain⟩
  rw [hupper, hlower]
  decide

end Options

/-! ## Names of tokens -/

theorem TokenRule.IsName.isStem {name : List Char} (h : IsName name) : IsStem name := by
  cases name with
  | nil => exact h.elim
  | cons c rest =>
      have hupper : c.isUpper = true := h.1
      refine ⟨by simp [Char.isAlpha, hupper], fun d hd => ?_⟩
      have hname := h.isNameChar hd
      simp only [TokenRule.isNameChar, Bool.or_eq_true, beq_iff_eq] at hname
      rcases hname with (hname | hname) | rfl
      · simp [isStemChar, Char.isAlphanum, Char.isAlpha, hname]
      · simp [isStemChar, Char.isAlphanum, hname]
      · decide

theorem variantName_eq (name : String) :
    variantName name = if pascal name = "Self" then "Self_" else pascal name := rfl

theorem isCapitalized_variantName {name : String} (h : TokenRule.IsName name.toList) :
    IsCapitalized (variantName name).toList := by
  have hpascal := isCapitalized_pascal h.isStem
  rw [variantName_eq]
  split
  · exact .cons (by decide) (List.all_eq_true.1 (by decide))
  · exact hpascal

theorem variantName_ne_self (name : String) : variantName name ≠ "Self" := by
  rw [variantName_eq]
  split
  · decide
  · assumption

/-- In capitals and without underscores, a variant is the name without underscores. -/
theorem map_toUpper_variantName {name : String} (h : TokenRule.IsName name.toList) :
    ((variantName name).toList.filter (· != '_')).map Char.toUpper =
      name.toList.filter (· != '_') := by
  have hpascal := map_toUpper_pascal fun c hc => h.isStem.isStemChar hc
  have hname : (name.toList.filter fun c => !isDelimiter c).map Char.toUpper =
      name.toList.filter (· != '_') := by
    have hchar : ∀ c ∈ name.toList, (!isDelimiter c) = (c != '_') ∧ c.toUpper = c := by
      intro c hc
      have hbounds := h.isNameChar hc
      have hascii := isStemChar_ascii (h.isStem.isStemChar hc)
      have hdelimiter := imp_of_ascii (p := TokenRule.isNameChar)
        (q := fun c => (!isDelimiter c) == (c != '_')) (by decide) hascii hbounds
      have hupper := imp_of_ascii (p := TokenRule.isNameChar) (q := fun c => c.toUpper == c)
        (by decide) hascii hbounds
      exact ⟨beq_iff_eq.1 hdelimiter, beq_iff_eq.1 hupper⟩
    rw [List.filter_congr fun c hc => (hchar c hc).1]
    have hmap : (name.toList.filter (· != '_')).map Char.toUpper =
        (name.toList.filter (· != '_')).map id :=
      List.map_congr_left fun c hc => (hchar c (List.mem_of_mem_filter hc)).2
    rw [hmap, List.map_id]
  have hfilter : (pascal name).toList.filter (· != '_') = (pascal name).toList := by
    rw [List.filter_eq_self]
    intro d hd
    have halnum := isAlphanum_of_mem_pascal (fun c hc => h.isStem.isStemChar hc) hd
    by_contra hunderscore
    rw [bne_iff_ne, ne_eq, not_not] at hunderscore
    rw [hunderscore] at halnum
    revert halnum
    decide
  rw [variantName_eq]
  split
  · rename_i hself
    rw [hself] at hpascal
    rw [← hname, ← hpascal]
    rfl
  · rw [hfilter, hpascal, hname]

end TokenTables
