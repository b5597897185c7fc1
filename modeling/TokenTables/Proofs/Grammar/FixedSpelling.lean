import TokenTables.Proofs.Grammar.Extraction
/-!
# Spellings that values fix

A lexeme is what is left of a value without the quotes at its ends.  So it is the text of a quoted
literal only if the value has no other quotes: it may as well begin with one literal, end with
another and have anything but the characters of a pattern between them.
-/

namespace TokenTables

open Text

/-! ## Quotes at the ends -/

/-- Some text without a single quote at either end. -/
structure Bare (text : List Char) : Prop where
  ne_nil : text ≠ []
  head : text.head? ≠ some '\''
  last : text.getLast? ≠ some '\''

/-- The text with some quotes before it and some after it. -/
def quotedBy (opening closing : Nat) (text : List Char) : List Char :=
  List.replicate opening '\'' ++ text ++ List.replicate closing '\''

theorem quotedBy_one (text : List Char) : quotedBy 1 1 text = '\'' :: (text ++ ['\'']) := by
  simp [quotedBy]

theorem dropWhile_replicate_append {text : List Char} (h : text.head? ≠ some '\'') (n : Nat) :
    (List.replicate n '\'' ++ text).dropWhile (· == '\'') = text := by
  rw [List.dropWhile_append_of_pos (by simp)]
  cases text with
  | nil => rfl
  | cons c rest =>
      have hc : (c == '\'') = false := beq_eq_false_iff_ne.2 fun heq => h (congrArg some heq)
      rw [List.dropWhile_cons, hc, if_neg (by decide)]

theorem exists_replicate_append_dropWhile (text : List Char) :
    ∃ n, text = List.replicate n '\'' ++ text.dropWhile (· == '\'') := by
  have hquotes : ∀ c ∈ text.takeWhile (· == '\''), c = '\'' := by
    intro c hc
    simpa using List.mem_takeWhile_imp hc
  refine ⟨(text.takeWhile (· == '\'')).length, ?_⟩
  rw [← List.eq_replicate_of_mem hquotes, List.takeWhile_append_dropWhile]

theorem head?_dropWhile_ne (text : List Char) :
    (text.dropWhile (· == '\'')).head? ≠ some '\'' := by
  intro h
  have hnot := List.head?_dropWhile_not (· == '\'') text
  rw [h] at hnot
  contradiction

theorem stripQuotes_quotedBy {text : List Char} (h : Bare text) (opening closing : Nat) :
    stripQuotes (quotedBy opening closing text) = text := by
  have hhead : (text ++ List.replicate closing '\'').head? ≠ some '\'' := by
    rw [List.head?_append_of_ne_nil _ h.ne_nil]
    exact h.head
  have hlast : text.reverse.head? ≠ some '\'' := by
    rw [List.head?_reverse]
    exact h.last
  rw [quotedBy, List.append_assoc, stripQuotes, dropWhile_replicate_append hhead,
    List.reverse_append, List.reverse_replicate, dropWhile_replicate_append hlast,
    List.reverse_reverse]

theorem exists_stripQuotes_append_replicate (text : List Char) :
    ∃ n, text.dropWhile (· == '\'') = stripQuotes text ++ List.replicate n '\'' := by
  obtain ⟨n, hn⟩ := exists_replicate_append_dropWhile (text.dropWhile (· == '\'')).reverse
  refine ⟨n, ?_⟩
  have hreverse := congrArg List.reverse hn
  rwa [List.reverse_reverse, List.reverse_append, List.reverse_replicate] at hreverse

theorem exists_quotedBy_stripQuotes (text : List Char) :
    ∃ opening closing, text = quotedBy opening closing (stripQuotes text) := by
  obtain ⟨opening, hopening⟩ := exists_replicate_append_dropWhile text
  obtain ⟨closing, hclosing⟩ := exists_stripQuotes_append_replicate text
  refine ⟨opening, closing, ?_⟩
  rw [quotedBy, List.append_assoc, ← hclosing]
  exact hopening

theorem bare_stripQuotes {text : List Char} (h : stripQuotes text ≠ []) :
    Bare (stripQuotes text) where
  ne_nil := h
  head := by
    obtain ⟨n, hn⟩ := exists_stripQuotes_append_replicate text
    have hhead := head?_dropWhile_ne text
    rwa [hn, List.head?_append_of_ne_nil _ h] at hhead
  last := by
    rw [stripQuotes, List.getLast?_reverse]
    exact head?_dropWhile_ne _

theorem count_quotedBy (opening closing : Nat) (text : List Char) :
    (quotedBy opening closing text).count '\'' = opening + text.count '\'' + closing := by
  simp [quotedBy, Nat.add_assoc]

/-- A last quote is one of those after the text. -/
theorem getLast?_quotedBy_iff {text : List Char} (h : Bare text) (opening closing : Nat) :
    (quotedBy opening closing text).getLast? = some '\'' ↔ 0 < closing := by
  cases closing with
  | zero =>
      have hlast : (quotedBy opening 0 text).getLast? = text.getLast? := by
        rw [quotedBy, List.replicate_zero, List.append_nil,
          List.getLast?_append_of_ne_nil _ h.ne_nil]
      simpa [hlast] using h.last
  | succ n =>
      rw [quotedBy, List.replicate_succ', ← List.append_assoc, List.getLast?_concat]
      simp

/-- A text with quotes around it is one literal exactly if it has two quotes, the second of them at
its end. -/
theorem quotedBy_eq_literal_iff {text : List Char} (h : Bare text) (opening closing : Nat) :
    (quotedBy (opening + 1) closing text = '\'' :: (text ++ ['\'']) ∧ '\'' ∉ text) ↔
      (quotedBy (opening + 1) closing text).count '\'' = 2 ∧
        (quotedBy (opening + 1) closing text).getLast? = some '\'' := by
  rw [← quotedBy_one, getLast?_quotedBy_iff h]
  constructor
  · rintro ⟨heq, hfree⟩
    have hcount := List.count_eq_zero_of_not_mem hfree
    have hlast := (getLast?_quotedBy_iff h 1 1).2 Nat.one_pos
    rw [← heq, getLast?_quotedBy_iff h] at hlast
    exact ⟨by rw [heq, count_quotedBy, hcount], hlast⟩
  · rintro ⟨htwo, hlast⟩
    rw [count_quotedBy] at htwo
    -- The first quote and the last one are two already, so none is left for the text.
    have hfree : text.count '\'' = 0 := by omega
    have hopening : opening = 0 := by omega
    have hclosing : closing = 1 := by omega
    rw [hopening, hclosing]
    exact ⟨rfl, List.count_eq_zero.1 hfree⟩

/-! ## Values -/

theorem head?_trimEnd_eq_quote_iff (value : List Char) :
    (trimEnd value).head? = some '\'' ↔ value.head? = some '\'' := by
  constructor
  · intro h
    obtain ⟨blanks, -, hvalue⟩ := exists_trimEnd_append_blanks value
    rw [hvalue, List.head?_append, h]
    rfl
  · intro h
    obtain ⟨rest, rfl⟩ := List.head?_eq_some_iff.1 h
    have htrim : trimEnd ('\'' :: rest) = '\'' :: trimEnd rest :=
      trimEnd_append_cons (by decide) [] rest
    rw [htrim]
    rfl

theorem head?_quotedBy_iff {text : List Char} (h : Bare text) (opening closing : Nat) :
    (quotedBy opening closing text).head? = some '\'' ↔ 0 < opening := by
  cases opening with
  | zero =>
      have hhead : (quotedBy 0 closing text).head? = text.head? := by
        rw [quotedBy, List.replicate_zero, List.nil_append, List.head?_append_of_ne_nil _ h.ne_nil]
      simpa [hhead] using h.head
  | succ n => simp [quotedBy, List.replicate_succ]

/-- The spelling of a value is what stands between the quotes at its ends. -/
theorem literal?_eq_some_iff {value text : List Char} :
    literal? value = some text ↔ Bare text ∧ (∀ c ∈ text, c ∉ patternChars) ∧
      ∃ opening closing, trimEnd value = quotedBy (opening + 1) closing text := by
  have hpattern (text : List Char) :
      (text.any patternChars.contains) = false ↔ ∀ c ∈ text, c ∉ patternChars := by
    simp
  constructor
  · intro h
    simp only [literal?, beq_iff_eq] at h
    split at h
    · rename_i hhead
      split at h
      · contradiction
      · rename_i hkept
        obtain rfl := Option.some.inj h
        rw [Bool.not_eq_true, Bool.or_eq_false_iff, List.isEmpty_eq_false_iff] at hkept
        obtain ⟨hne, hany⟩ := hkept
        obtain ⟨opening, closing, htrim⟩ := exists_quotedBy_stripQuotes (trimEnd value)
        have hbare := bare_stripQuotes hne
        rw [← head?_trimEnd_eq_quote_iff, htrim, head?_quotedBy_iff hbare] at hhead
        obtain ⟨n, rfl⟩ := Nat.exists_eq_succ_of_ne_zero hhead.ne'
        exact ⟨hbare, (hpattern _).1 hany, n, closing, htrim⟩
    · contradiction
  · rintro ⟨hbare, hplain, opening, closing, htrim⟩
    have hhead : value.head? = some '\'' := by
      rw [← head?_trimEnd_eq_quote_iff, htrim, head?_quotedBy_iff hbare]
      exact Nat.succ_pos opening
    have hempty : text.isEmpty = false := by simpa using hbare.ne_nil
    have hany := (hpattern text).2 hplain
    simp [literal?, hhead, htrim, stripQuotes_quotedBy hbare, hempty, hany]

namespace TokenRule

theorem keywordLexeme?_eq_some_iff {rule : TokenRule} {lexeme : String} :
    rule.keywordLexeme? = some lexeme ↔
      isStructural rule.name = false ∧ literal? rule.value.toList = some lexeme.toList := by
  constructor
  · intro h
    refine ⟨?_, literal?_of_keywordLexeme? h⟩
    by_contra hstructural
    rw [Bool.not_eq_false] at hstructural
    rw [keywordLexeme?, if_pos hstructural] at h
    contradiction
  · rintro ⟨hstructural, hliteral⟩
    rw [keywordLexeme?, hstructural, if_neg (by decide), hliteral, Option.map_some,
      String.ofList_toList]

/-- Apart from the blanks at its end, a value is the lexeme of its rule with quotes before it, and
perhaps quotes after it; the lexeme has no quote at its ends, no character of a pattern and no line
feed.  It is the text of a single literal exactly if the value has two quotes, the second of them at
its end. -/
theorem keywordLexeme?_quoted_iff {line : String} {rule : TokenRule} {lexeme : String}
    (hparse : parse? line = some rule) (h : rule.keywordLexeme? = some lexeme) :
    (trimEnd rule.value.toList = '\'' :: (lexeme.toList ++ ['\'']) ∧ '\'' ∉ lexeme.toList ↔
      (trimEnd rule.value.toList).count '\'' = 2 ∧
        (trimEnd rule.value.toList).getLast? = some '\'') ∧
    (∃ opening closing,
      trimEnd rule.value.toList = quotedBy (opening + 1) closing lexeme.toList) ∧
    Bare lexeme.toList ∧ (∀ c ∈ lexeme.toList, c ∉ patternChars ∧ c ≠ '\n') ∧
    isStructural rule.name = false := by
  obtain ⟨hstructural, hliteral⟩ := keywordLexeme?_eq_some_iff.1 h
  obtain ⟨hbare, hplain, opening, closing, htrim⟩ := literal?_eq_some_iff.1 hliteral
  obtain ⟨split, -, -, hvalue⟩ := parse?_eq_some_iff.1 hparse
  refine ⟨?_, ⟨opening, closing, htrim⟩, hbare, ?_, hstructural⟩
  · rw [htrim]
    exact quotedBy_eq_literal_iff hbare opening closing
  · intro c hc
    refine ⟨hplain c hc, ?_⟩
    rintro rfl
    apply split.isValue.not_mem_newline
    rw [hvalue]
    exact (mem_of_mem_literal? hliteral hc).1

theorem keywordLexeme?_of_if : parse? "IF : 'if'\u3000;" = some ⟨"IF", "'if'\u3000"⟩ ∧
    (⟨"IF", "'if'\u3000"⟩ : TokenRule).keywordLexeme? = some "if" ∧
    trimEnd "'if'\u3000".toList = '\'' :: ("if".toList ++ ['\'']) ∧ '\'' ∉ "if".toList := by
  have hparse : parse? "IF : 'if'\u3000;" = some ⟨"IF", "'if'\u3000"⟩ := by decide +kernel
  have hlexeme : (⟨"IF", "'if'\u3000"⟩ : TokenRule).keywordLexeme? = some "if" := by decide +kernel
  obtain ⟨hliteral, -⟩ := keywordLexeme?_quoted_iff hparse hlexeme
  exact ⟨hparse, hlexeme, hliteral.2 (by decide +kernel)⟩

/-- Of two alternatives, the lexeme has the quotes between them; of a literal with a command after
it, it is what follows the first quote. -/
theorem keywordLexeme?_of_alternatives :
    parse? "A : 'a' | 'b' ;" = some ⟨"A", "'a' | 'b' "⟩ ∧
      (⟨"A", "'a' | 'b' "⟩ : TokenRule).keywordLexeme? = some "a' | 'b" ∧
      '\'' ∈ "a' | 'b".toList ∧
      parse? "B : 'b' -> skip ;" = some ⟨"B", "'b' -> skip "⟩ ∧
      (⟨"B", "'b' -> skip "⟩ : TokenRule).keywordLexeme? = some "b' -> skip" ∧
      trimEnd "'b' -> skip ".toList ≠ '\'' :: ("b' -> skip".toList ++ ['\'']) ∧
      ¬∀ (line : String) (rule : TokenRule) (lexeme : String), parse? line = some rule →
        rule.keywordLexeme? = some lexeme →
        trimEnd rule.value.toList = '\'' :: (lexeme.toList ++ ['\'']) ∧ '\'' ∉ lexeme.toList := by
  have hparse : parse? "A : 'a' | 'b' ;" = some ⟨"A", "'a' | 'b' "⟩ := by decide +kernel
  have hlexeme : (⟨"A", "'a' | 'b' "⟩ : TokenRule).keywordLexeme? = some "a' | 'b" := by
    decide +kernel
  refine ⟨hparse, hlexeme, by decide, by decide +kernel, by decide +kernel, by decide +kernel, ?_⟩
  intro hall
  exact (hall _ _ _ hparse hlexeme).2 (by decide)

end TokenRule

end TokenTables
