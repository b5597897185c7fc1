import TokenTables.Proofs.Syntax.Spelling
/-!
# Arrays of strings in C

A header read as C has directives, comments, and arrays of strings with their initializers.  A text
without backslashes has no literal with a quote in it.
-/

namespace TokenTables.Syntax

namespace Token

def isDirective : Token → Bool
  | directive _ => true
  | _ => false

end Token

/-- The strings of an initializer after its opening brace; a comma may follow the last of them. -/
def readEntries? : List Token → Option (List String)
  | [.mark '\x7d'] => some []
  | [.string text, .mark '\x7d'] => some [text]
  | .string text :: .mark ',' :: rest => (readEntries? rest).map (text :: ·)
  | _ => none

/-- The name and the strings of an array, from a declaration without its semicolon. -/
def readArray? : List Token → Option (String × List String)
  | .word "static" :: .word "const" :: .word "char" :: .mark '*' :: .word "const" :: .word name ::
      .mark '[' :: .mark ']' :: .mark '=' :: .mark '\x7b' :: rest =>
    (readEntries? rest).map fun texts => (name, texts)
  | _ => none

/-- The arrays of declarations; after the last semicolon there is nothing. -/
def readDeclarations? : List (List Token) → Option (List (String × List String))
  | [] => none
  | [last] => if last = [] then some [] else none
  | declaration :: rest =>
    (readArray? declaration).bind fun array => (readDeclarations? rest).map (array :: ·)

/-- The arrays of strings that a text in C declares, by name and in order. -/
def readArrays? (text : List Char) : Option (List (String × List String)) :=
  (lex .c text).bind fun tokens =>
    readDeclarations? ((tokens.filter fun token => !token.isDirective).splitOn (.mark ';'))

/-- The value of a literal with a comma after it. -/
def readRow? (text : List Char) : Option String :=
  match lex .c text with
  | some [.string entry, .mark ','] => some entry
  | _ => none

/-! ## Declarations of arrays -/

/-- What stands before the strings of an array. -/
def arrayOpening (name : String) : List Token :=
  [.word "static", .word "const", .word "char", .mark '*', .word "const", .word name, .mark '[',
    .mark ']', .mark '=', .mark '\x7b']

def entryTokens (entries : List String) : List Token :=
  entries.flatMap fun entry => [.string entry, .mark ',']

def arrayTokens (name : String) (entries : List String) : List Token :=
  arrayOpening name ++ entryTokens entries ++ [.mark '\x7d']

theorem readEntries?_entryTokens (entries : List String) :
    readEntries? (entryTokens entries ++ [.mark '\x7d']) = some entries := by
  induction entries with
  | nil => rfl
  | cons entry rest ih =>
      have hread : readEntries? (.string entry :: .mark ',' :: (entryTokens rest ++ [.mark '\x7d'])) =
          (readEntries? (entryTokens rest ++ [.mark '\x7d'])).map (entry :: ·) := rfl
      have hcons : entryTokens (entry :: rest) = .string entry :: .mark ',' :: entryTokens rest := rfl
      rw [hcons, List.cons_append, List.cons_append, hread, ih]
      rfl

theorem readArray?_arrayTokens (name : String) (entries : List String) :
    readArray? (arrayTokens name entries) = some (name, entries) := by
  have hread : readArray? (arrayTokens name entries) =
      (readEntries? (entryTokens entries ++ [.mark '\x7d'])).map fun texts => (name, texts) := rfl
  rw [hread, readEntries?_entryTokens]
  rfl

/-- Nothing in an array is a directive or the semicolon after one. -/
theorem arrayTokens_plain {name : String} {entries : List String} {token : Token}
    (h : token ∈ arrayTokens name entries) : token.isDirective = false ∧ token ≠ .mark ';' := by
  simp only [arrayTokens, arrayOpening, entryTokens, List.mem_append, List.mem_cons,
    List.mem_flatMap, List.not_mem_nil, or_false] at h
  rcases h with (h | ⟨entry, -, rfl | rfl⟩) | rfl
  · rcases h with rfl | rfl | rfl | rfl | rfl | rfl | rfl | rfl | rfl | rfl <;> simp [Token.isDirective]
  · simp [Token.isDirective]
  · simp [Token.isDirective]
  · simp [Token.isDirective]

/-- Entries that are read are literals of the text. -/
theorem mem_of_readEntries? {tokens : List Token} {entries : List String}
    (h : readEntries? tokens = some entries) : ∀ entry ∈ entries, .string entry ∈ tokens := by
  induction tokens using readEntries?.induct generalizing entries with
  | case1 =>
      obtain rfl := Option.some.inj h
      exact List.forall_mem_nil _
  | case2 text =>
      obtain rfl := Option.some.inj h
      exact List.forall_mem_singleton.2 List.mem_cons_self
  | case3 text rest ih =>
      obtain ⟨more, hmore, rfl⟩ := Option.map_eq_some_iff.1 h
      intro entry hentry
      rcases List.mem_cons.1 hentry with rfl | hentry
      · exact List.mem_cons_self
      · exact List.mem_cons_of_mem _ (List.mem_cons_of_mem _ (ih hmore entry hentry))
  | case4 tokens h1 h2 h3 =>
      unfold readEntries? at h
      split at h <;> simp_all

theorem mem_of_readArray? {tokens : List Token} {name : String} {entries : List String}
    (h : readArray? tokens = some (name, entries)) :
    ∀ entry ∈ entries, .string entry ∈ tokens := by
  unfold readArray? at h
  split at h
  · obtain ⟨texts, htexts, heq⟩ := Option.map_eq_some_iff.1 h
    obtain ⟨rfl, rfl⟩ := Prod.mk.inj heq
    intro entry hentry
    have hmem := mem_of_readEntries? htexts entry hentry
    simp [hmem]
  · contradiction

theorem readDeclarations?_cons (declaration : List Token) {rest : List (List Token)}
    (hrest : rest ≠ []) :
    readDeclarations? (declaration :: rest) =
      (readArray? declaration).bind fun array => (readDeclarations? rest).map (array :: ·) := by
  rw [readDeclarations?]
  exact hrest

theorem mem_of_readDeclarations? {declarations : List (List Token)}
    {arrays : List (String × List String)} (h : readDeclarations? declarations = some arrays)
    {name : String} {entries : List String} (harray : (name, entries) ∈ arrays) {entry : String}
    (hentry : entry ∈ entries) : ∃ tokens ∈ declarations, .string entry ∈ tokens := by
  induction declarations using readDeclarations?.induct generalizing arrays with
  | case1 => contradiction
  | case2 =>
      obtain rfl := Option.some.inj h
      contradiction
  | case3 last hlast => simp [readDeclarations?, hlast] at h
  | case4 declaration rest hrest ih =>
      rw [readDeclarations?_cons declaration hrest] at h
      obtain ⟨first, hfirst, hmap⟩ := Option.bind_eq_some_iff.1 h
      obtain ⟨more, hmore, rfl⟩ := Option.map_eq_some_iff.1 hmap
      rcases List.mem_cons.1 harray with rfl | harray
      · exact ⟨declaration, List.mem_cons_self, mem_of_readArray? hfirst entry hentry⟩
      · obtain ⟨tokens, htokens, hmem⟩ := ih hmore harray
        exact ⟨tokens, List.mem_cons_of_mem _ htokens, hmem⟩

/-! ## Arrays of a text -/

def declarationTokens (arrays : List (String × List String)) : List Token :=
  arrays.flatMap fun (name, entries) => arrayTokens name entries ++ [.mark ';']

theorem declarationTokens_cons (name : String) (entries : List String)
    (rest : List (String × List String)) :
    declarationTokens ((name, entries) :: rest) =
      arrayTokens name entries ++ .mark ';' :: declarationTokens rest := by
  simp [declarationTokens]

theorem filter_declarationTokens (arrays : List (String × List String)) :
    (declarationTokens arrays).filter (fun token => !token.isDirective) =
      declarationTokens arrays := by
  rw [List.filter_eq_self]
  intro token htoken
  obtain ⟨⟨name, entries⟩, -, hmem⟩ := List.mem_flatMap.1 htoken
  rcases List.mem_append.1 hmem with hmem | hmem
  · rw [(arrayTokens_plain hmem).1]
    rfl
  · rw [List.mem_singleton.1 hmem]
    rfl

theorem splitOn_declarationTokens (arrays : List (String × List String)) :
    (declarationTokens arrays).splitOn (.mark ';') =
      arrays.map (fun (name, entries) => arrayTokens name entries) ++ [[]] := by
  induction arrays with
  | nil => rfl
  | cons array rest ih =>
      have hmark : Token.mark ';' ∉ arrayTokens array.1 array.2 := fun h =>
        (arrayTokens_plain h).2 rfl
      rw [declarationTokens_cons, List.splitOn_append_cons_self_of_not_mem hmark, ih]
      rfl

theorem readDeclarations?_arrayTokens (arrays : List (String × List String)) :
    readDeclarations? (arrays.map (fun (name, entries) => arrayTokens name entries) ++ [[]]) =
      some arrays := by
  induction arrays with
  | nil => rfl
  | cons array rest ih =>
      rw [List.map_cons, List.cons_append, readDeclarations?_cons _ (by simp), ih,
        readArray?_arrayTokens]
      rfl

/-- Arrays after some directives are read as they are. -/
theorem readArrays?_of_lex {text : List Char} {directives : List Token}
    {arrays : List (String × List String)}
    (hdirectives : ∀ token ∈ directives, token.isDirective = true)
    (h : lex .c text = some (directives ++ declarationTokens arrays)) :
    readArrays? text = some arrays := by
  have hnone : directives.filter (fun token => !token.isDirective) = [] := by
    rw [List.filter_eq_nil_iff]
    intro token htoken
    simp [hdirectives token htoken]
  rw [readArrays?, h, Option.bind_some, List.filter_append, hnone, List.nil_append,
    filter_declarationTokens, splitOn_declarationTokens, readDeclarations?_arrayTokens]

theorem mem_of_mem_splitOn {tokens piece : List Token} {mark token : Token}
    (hpiece : piece ∈ tokens.splitOn mark) (htoken : token ∈ piece) : token ∈ tokens := by
  have hmem (pieces : List (List Token)) (h : piece ∈ pieces) :
      token ∈ [mark].intercalate pieces := by
    induction pieces with
    | nil => contradiction
    | cons first rest ih =>
        cases rest with
        | nil =>
            rw [List.intercalate_singleton]
            rwa [← List.mem_singleton.1 h]
        | cons second rest =>
            rw [List.intercalate_cons_cons, List.mem_append]
            rcases List.mem_cons.1 h with rfl | h
            · exact .inl (List.mem_append_left _ htoken)
            · exact .inr (ih h)
  have hwhole : [mark].intercalate (tokens.splitOn mark) = tokens := List.intercalate_splitOn mark
  rw [← hwhole]
  exact hmem _ hpiece

/-! ## Texts without backslashes -/

/-- Has no quote in the value that is being read, and no escape. -/
def Mode.Unquoted : Mode → Prop
  | .string text => '"' ∉ text
  | .escape _ | .brace _ | .code _ _ _ => False
  | _ => True

/-- Is no literal with a quote in its value. -/
def Token.Unquoted : Token → Prop
  | .string text => '"' ∉ text.toList
  | _ => True

variable {dialect : Dialect}

theorem unquoted_of_wordToken? {text : List Char} {token : Token}
    (h : wordToken? text = some token) : token.Unquoted := by
  unfold wordToken? at h
  split at h
  · contradiction
  · split_ifs at h
    · obtain rfl := Option.some.inj h
      trivial
    · obtain rfl := Option.some.inj h
      trivial

theorem unquoted_of_stepPlain {c : Char} {tokens : List Token} {next : Mode}
    (h : stepPlain dialect c = some (tokens, next)) :
    (∀ token ∈ tokens, token.Unquoted) ∧ next.Unquoted := by
  unfold stepPlain at h
  split_ifs at h <;> obtain ⟨rfl, rfl⟩ := Prod.mk.inj (Option.some.inj h)
  · exact ⟨List.forall_mem_nil _, trivial⟩
  · exact ⟨List.forall_mem_nil _, trivial⟩
  · exact ⟨List.forall_mem_nil _, trivial⟩
  · exact ⟨List.forall_mem_nil _, List.not_mem_nil⟩
  · exact ⟨List.forall_mem_nil _, trivial⟩
  · exact ⟨List.forall_mem_singleton.2 trivial, trivial⟩

/-- Only a backslash can bring a quote into a literal. -/
theorem unquoted_of_step {mode next : Mode} {c : Char} {tokens : List Token}
    (hmode : mode.Unquoted) (hc : c ≠ '\\') (h : step dialect mode c = some (tokens, next)) :
    (∀ token ∈ tokens, token.Unquoted) ∧ next.Unquoted := by
  cases mode with
  | plain => exact unquoted_of_stepPlain h
  | word text =>
      simp only [step] at h
      split_ifs at h with hword
      · obtain ⟨rfl, rfl⟩ := Prod.mk.inj (Option.some.inj h)
        exact ⟨List.forall_mem_nil _, trivial⟩
      · obtain ⟨token, htoken, hmap⟩ := Option.bind_eq_some_iff.1 h
        obtain ⟨⟨more, after⟩, hplain, heq⟩ := Option.map_eq_some_iff.1 hmap
        obtain ⟨rfl, rfl⟩ := Prod.mk.inj heq
        obtain ⟨hmore, hafter⟩ := unquoted_of_stepPlain hplain
        exact ⟨List.forall_mem_cons.2 ⟨unquoted_of_wordToken? htoken, hmore⟩, hafter⟩
  | slash =>
      simp only [step] at h
      split_ifs at h
      obtain ⟨rfl, rfl⟩ := Prod.mk.inj (Option.some.inj h)
      exact ⟨List.forall_mem_nil _, trivial⟩
  | comment =>
      obtain ⟨rfl, rfl⟩ := Prod.mk.inj (Option.some.inj h)
      refine ⟨List.forall_mem_nil _, ?_⟩
      split_ifs <;> trivial
  | directive text =>
      simp only [step] at h
      split_ifs at h <;> obtain ⟨rfl, rfl⟩ := Prod.mk.inj (Option.some.inj h)
      · exact ⟨List.forall_mem_singleton.2 trivial, trivial⟩
      · exact ⟨List.forall_mem_nil _, trivial⟩
  | string text =>
      simp only [step, beq_iff_eq, if_neg hc] at h
      split_ifs at h with hquote <;> obtain ⟨rfl, rfl⟩ := Prod.mk.inj (Option.some.inj h)
      · refine ⟨List.forall_mem_singleton.2 ?_, trivial⟩
        rw [Token.Unquoted, String.toList_ofList]
        exact hmode
      · refine ⟨List.forall_mem_nil _, ?_⟩
        rw [Mode.Unquoted, List.mem_append, List.mem_singleton]
        exact not_or.2 ⟨hmode, Ne.symm hquote⟩
  | escape text => exact hmode.elim
  | brace text => exact hmode.elim
  | code text digits value => exact hmode.elim

theorem unquoted_of_scan {mode last : Mode} {text : List Char} {tokens : List Token}
    (hmode : mode.Unquoted) (htext : '\\' ∉ text)
    (h : scan dialect mode text = some (tokens, last)) :
    (∀ token ∈ tokens, token.Unquoted) ∧ last.Unquoted := by
  induction text generalizing mode tokens with
  | nil =>
      obtain ⟨rfl, rfl⟩ := Prod.mk.inj (Option.some.inj h)
      exact ⟨List.forall_mem_nil _, hmode⟩
  | cons c rest ih =>
      obtain ⟨hc, hrest⟩ := not_or.1 (mt List.mem_cons.2 htext)
      obtain ⟨⟨first, next⟩, hstep, hmap⟩ := Option.bind_eq_some_iff.1 h
      obtain ⟨⟨more, after⟩, hscan, heq⟩ := Option.map_eq_some_iff.1 hmap
      obtain ⟨rfl, rfl⟩ := Prod.mk.inj heq
      obtain ⟨hfirst, hnext⟩ := unquoted_of_step hmode (Ne.symm hc) hstep
      obtain ⟨hmore, hlast⟩ := ih hnext hrest hscan
      exact ⟨List.forall_mem_append.2 ⟨hfirst, hmore⟩, hlast⟩

theorem unquoted_of_finish {mode : Mode} {tokens : List Token} (h : finish mode = some tokens) :
    ∀ token ∈ tokens, token.Unquoted := by
  cases mode with
  | plain =>
      obtain rfl := Option.some.inj h
      exact List.forall_mem_nil _
  | word text =>
      obtain ⟨token, htoken, rfl⟩ := Option.map_eq_some_iff.1 h
      exact List.forall_mem_singleton.2 (unquoted_of_wordToken? htoken)
  | comment =>
      obtain rfl := Option.some.inj h
      exact List.forall_mem_nil _
  | directive text =>
      obtain rfl := Option.some.inj h
      exact List.forall_mem_singleton.2 trivial
  | slash => contradiction
  | string text => contradiction
  | escape text => contradiction
  | brace text => contradiction
  | code text digits value => contradiction

/-- Without backslashes no literal has a quote in its value. -/
theorem unquoted_of_lex {text : List Char} {tokens : List Token} (htext : '\\' ∉ text)
    (h : lex dialect text = some tokens) : ∀ token ∈ tokens, token.Unquoted := by
  obtain ⟨⟨first, mode⟩, hscan, hmap⟩ := Option.bind_eq_some_iff.1 h
  obtain ⟨last, hfinish, rfl⟩ := Option.map_eq_some_iff.1 hmap
  have hplain : Mode.plain.Unquoted := trivial
  have hfirst := (unquoted_of_scan hplain htext hscan).1
  exact List.forall_mem_append.2 ⟨hfirst, unquoted_of_finish hfinish⟩

/-- Without backslashes no array has an entry with a quote in it. -/
theorem quote_not_mem_of_readArrays? {text : List Char} (htext : '\\' ∉ text)
    {arrays : List (String × List String)} (h : readArrays? text = some arrays) {name : String}
    {entries : List String} (harray : (name, entries) ∈ arrays) :
    ∀ entry ∈ entries, '"' ∉ entry.toList := by
  intro entry hentry
  obtain ⟨tokens, htokens, hread⟩ := Option.bind_eq_some_iff.1 h
  obtain ⟨piece, hpiece, hmem⟩ := mem_of_readDeclarations? hread harray hentry
  exact unquoted_of_lex htext htokens _ (List.mem_of_mem_filter (mem_of_mem_splitOn hpiece hmem))

end TokenTables.Syntax
