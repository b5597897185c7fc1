import Mathlib.Data.List.Chain
import TokenTables.Naming.Style
import TokenTables.Proofs.Naming.OneLine
import TokenTables.Text.Newline
/-!
# Words joined by underscores

In ASCII every character is a cluster by itself, but for a carriage return with a line feed after it,
and these are no letters.  So a spelling with underscores is read off a name character by character:
it has the letters of the name in one case, and an underscore where two characters that are kept have
a seam between them.
-/

namespace TokenTables

/-! ## Clusters -/

namespace Unicode

/-- Four roles are left for characters of ASCII. -/
theorem role_ascii {c : Char} (h : c.toNat < 128) :
    (ClusterTraits.ofChar c).role =
      if c = '\r' then .carriageReturn
      else if c = '\n' then .lineFeed
      else if c.toNat < 0x20 ∨ c.toNat = 0x7F then .control
      else .other := by
  simp [ClusterTraits.ofChar, ClusterRole.ofChar, h]

theorem conjunctRole_ascii {c : Char} (h : c.toNat < 128) :
    (ClusterTraits.ofChar c).conjunctRole = .other :=
  ConjunctRole.ofChar_ascii h _

/-- Nothing of what comes before a character of ASCII matters after it. -/
theorem next_ascii (context : ClusterContext) {c : Char} (h : c.toNat < 128) :
    context.next (.ofChar c) = .start (.ofChar c) := by
  have hconjunct : context.conjunct.next .other = Conjunct.closed.next .other := by
    cases context.conjunct <;> rfl
  unfold ClusterContext.next ClusterContext.start
  rw [conjunctRole_ascii h, hconjunct, role_ascii h]
  split_ifs <;> simp

theorem joins_start_ascii {b c : Char} (hb : b.toNat < 128) (hc : c.toNat < 128) :
    (ClusterContext.start (.ofChar b)).joins (.ofChar c) = decide (b = '\r' ∧ c = '\n') := by
  simp only [ClusterContext.joins, ClusterContext.joinsRole, ClusterContext.joinsConjunct,
    ClusterContext.start, conjunctRole_ascii hc, role_ascii hb, role_ascii hc]
  split_ifs <;> simp_all

/-- Where the next character does not join a cluster, new clusters begin. -/
theorem clustersFrom_ascii {context : ClusterContext} {text : List Char}
    (htext : ∀ c ∈ text, c.toNat < 128)
    (hjoins : ∀ c ∈ text.head?, context.joins (.ofChar c) = false) :
    clustersFrom context text = ([], clusters text) := by
  cases text with
  | nil => rfl
  | cons c rest =>
      have hnext := next_ascii context (htext c List.mem_cons_self)
      have hseparate : context.joins (.ofChar c) = false := hjoins c rfl
      simp [clustersFrom, clusters, hnext, hseparate]

theorem clusters_return_feed {rest : List Char} (h : ∀ c ∈ rest, c.toNat < 128) :
    clusters ('\r' :: '\n' :: rest) = ['\r', '\n'] :: clusters rest := by
  have hjoins : (ClusterContext.start (.ofChar '\r')).joins (.ofChar '\n') = true :=
    joins_start_ascii (by decide) (by decide)
  have hrest : clustersFrom (.start (.ofChar '\n')) rest = ([], clusters rest) := by
    apply clustersFrom_ascii h
    intro c hc
    rw [joins_start_ascii (by decide) (h c (List.mem_of_mem_head? hc))]
    simp
  simp [clusters, clustersFrom, next_ascii, hjoins, hrest]

theorem clusters_cons_ascii {c : Char} {rest : List Char} (h : ∀ d ∈ c :: rest, d.toNat < 128)
    (hpair : ∀ more, c = '\r' → rest = '\n' :: more → False) :
    clusters (c :: rest) = [c] :: clusters rest := by
  have hascii : ∀ d ∈ rest, d.toNat < 128 := fun d hd => h d (List.mem_cons_of_mem _ hd)
  have hrest : clustersFrom (.start (.ofChar c)) rest = ([], clusters rest) := by
    apply clustersFrom_ascii hascii
    intro d hd
    rw [joins_start_ascii (h c List.mem_cons_self) (hascii d (List.mem_of_mem_head? hd)),
      decide_eq_false_iff_not]
    rintro ⟨rfl, rfl⟩
    obtain ⟨more, rfl⟩ := List.head?_eq_some_iff.1 hd
    exact hpair more rfl rfl
  simp [clusters, hrest]

end Unicode

/-! ## Words of ASCII -/

namespace Naming

open Text Unicode

theorem any_parts_compoundBoundaries (before here after : Option ClusterKind) :
    compoundBoundaries.any (·.parts before here after) =
      (before == some .lower && here == some .upper) := by
  simp [compoundBoundaries, delimiters, Boundary.parts]

/-- A word ends at a delimiter, and between a small letter and a capital. -/
theorem wordsFrom_compoundBoundaries (before : Option ClusterKind) (cluster : List Char)
    (rest : List (List Char)) :
    wordsFrom compoundBoundaries before (cluster :: rest) =
      let words := wordsFrom compoundBoundaries (ClusterKind.of? cluster) rest
      if compoundBoundaries.any (·.drops cluster) then ([], words.1 :: words.2)
      else if before == some .lower && ClusterKind.of? cluster == some .upper then
        ([], (cluster ++ words.1) :: words.2)
      else (cluster ++ words.1, words.2) := by
  rw [wordsFrom, any_parts_compoundBoundaries]

theorem kind_ascii {c : Char} (h : c.toNat < 128) :
    (ClusterKind.of? [c] == some .lower) = c.isLower ∧
      (ClusterKind.of? [c] == some .upper) = c.isUpper := by
  have hkind := imp_of_ascii (p := fun _ => true)
    (q := fun c => (ClusterKind.of? [c] == some .lower) == c.isLower &&
      (ClusterKind.of? [c] == some .upper) == c.isUpper) (by decide) h rfl
  simpa using hkind

/-- As far as words go, each character of ASCII is a cluster by itself. -/
theorem wordsFrom_clusters_ascii {name : List Char} (h : ∀ c ∈ name, c.toNat < 128)
    (before : Option ClusterKind) :
    wordsFrom compoundBoundaries before (clusters name) =
      wordsFrom compoundBoundaries before (name.map ([·])) := by
  -- The cases are those of a reader that takes a carriage return and a line feed together.
  induction name using unifyNewlines.induct generalizing before with
  | case1 => rfl
  | case2 rest ih =>
      have hrest : ∀ c ∈ rest, c.toNat < 128 := fun c hc => h c (by simp [hc])
      have hpair : ClusterKind.of? ['\r', '\n'] = none := by decide
      have hreturn : ClusterKind.of? ['\r'] = none := by decide
      have hfeed : ClusterKind.of? ['\n'] = none := by decide
      rw [clusters_return_feed hrest, List.map_cons, List.map_cons]
      simp only [wordsFrom_compoundBoundaries, hpair, hreturn, hfeed, ih hrest]
      simp [compoundBoundaries, delimiters, Boundary.drops]
  | case3 c rest hpair ih =>
      have hrest : ∀ d ∈ rest, d.toNat < 128 := fun d hd => h d (List.mem_cons_of_mem _ hd)
      rw [clusters_cons_ascii h hpair, List.map_cons, wordsFrom_compoundBoundaries,
        wordsFrom_compoundBoundaries, ih hrest]

/-! ## Delimiters and case -/

theorem toLower_ascii {c : Char} (h : c.toNat < 128) : c.toLower.toNat < 128 := by
  by_cases hupper : c.isUpper = true
  · have hlower : c.toLower.isLower = true := by
      rw [Char.isLower_toLower_eq_isAlpha, isAlpha_of_isUpper hupper]
    rw [isLower_iff] at hlower
    omega
  · rwa [Char.toLower_eq_of_not_isUpper hupper]

theorem toUpper_ascii {c : Char} (h : c.toNat < 128) : c.toUpper.toNat < 128 := by
  by_cases hlower : c.isLower = true
  · have hupper : c.toUpper.isUpper = true := by
      rw [Char.isUpper_toUpper_eq_isAlpha, Char.isAlpha, hlower, Bool.or_true]
    rw [isUpper_iff] at hupper
    omega
  · rwa [Char.toUpper_eq_of_not_isLower hlower]

theorem isAlpha_of_isDelimiter {c : Char} (h : isDelimiter c = true) : c.isAlpha = false := by
  simp only [isDelimiter, Bool.or_eq_true, beq_iff_eq] at h
  rcases h with (rfl | rfl) | rfl <;> rfl

theorem isLower_of_isDelimiter {c : Char} (h : isDelimiter c = true) : c.isLower = false := by
  have halpha := isAlpha_of_isDelimiter h
  rw [Char.isAlpha, Bool.or_eq_false_iff] at halpha
  exact halpha.2

theorem isDelimiter_of_isAlpha {c : Char} (h : c.isAlpha = true) : isDelimiter c = false := by
  by_contra hdelimiter
  rw [Bool.not_eq_false] at hdelimiter
  rw [isAlpha_of_isDelimiter hdelimiter] at h
  contradiction

@[simp] theorem isDelimiter_toLower (c : Char) : isDelimiter c.toLower = isDelimiter c := by
  by_cases hupper : c.isUpper = true
  · have halpha := isAlpha_of_isUpper hupper
    rw [isDelimiter_of_isAlpha halpha]
    apply isDelimiter_of_isAlpha
    rw [Char.isAlpha_toLower_eq_isAlpha, halpha]
  · rw [Char.toLower_eq_of_not_isUpper hupper]

@[simp] theorem isDelimiter_toUpper (c : Char) : isDelimiter c.toUpper = isDelimiter c := by
  rw [← isDelimiter_toLower c.toUpper, Char.toLower_toUpper_eq_toLower, isDelimiter_toLower]

theorem toLower_ne_underscore {c : Char} (h : isDelimiter c = false) : c.toLower ≠ '_' := by
  intro heq
  rw [← isDelimiter_toLower, heq] at h
  contradiction

/-! ## The spelling character by character -/

/-- Two characters that a name keeps next to each other belong to different words: there is a
delimiter between them, or the first is a small letter and the second a capital. -/
def isSeam (before : Char) (gap : Bool) (here : Char) : Bool :=
  gap || (before.isLower && here.isUpper)

/-- The rest of a name in small letters with underscores.  `last` is the character kept last, and
`gap` says whether a delimiter has come since then. -/
def joinedFrom (last : Option Char) (gap : Bool) : List Char → List Char
  | [] => []
  | c :: rest =>
    if isDelimiter c then joinedFrom last true rest
    else
      (if last.any (isSeam · gap c) then ['_'] else []) ++ c.toLower :: joinedFrom (some c) false rest

theorem joinedFrom_delimiter {c : Char} (h : isDelimiter c = true) (last : Option Char) (gap : Bool)
    (rest : List Char) : joinedFrom last gap (c :: rest) = joinedFrom last true rest := by
  rw [joinedFrom, if_pos h]

theorem joinedFrom_kept {c : Char} (h : isDelimiter c = false) (last : Option Char) (gap : Bool)
    (rest : List Char) :
    joinedFrom last gap (c :: rest) =
      (if last.any (isSeam · gap c) then ['_'] else []) ++
        c.toLower :: joinedFrom (some c) false rest := by
  rw [joinedFrom, if_neg (by simp [h])]

/-! ## Words written out -/

/-- Words in small letters, each with an underscore before it. -/
def underscored (words : List (List Char)) : List Char :=
  (words.filter (· != [])).flatMap fun word => '_' :: word.map Char.toLower

theorem underscored_cons (c : Char) (word : List Char) (words : List (List Char)) :
    underscored ((c :: word) :: words) =
      '_' :: c.toLower :: (word.map Char.toLower ++ underscored words) := by
  simp [underscored]

theorem intercalate_eq_tail (words : List (List Char)) :
    ['_'].intercalate words = (words.flatMap ('_' :: ·)).tail := by
  induction words with
  | nil => rfl
  | cons word rest ih =>
      cases rest with
      | nil => simp
      | cons next rest => simp [List.intercalate_cons_cons, ih]

/-- What is written for the rest of a word and the words after it. -/
def writeJoined (last : Option Char) (gap : Bool) (words : List Char × List (List Char)) :
    List Char :=
  match last, gap with
  | none, _ => (underscored (words.1 :: words.2)).tail
  | some _, true => underscored (words.1 :: words.2)
  | some _, false => words.1.map Char.toLower ++ underscored words.2

/-- After a delimiter it is as if the rest of the word were a word of its own. -/
theorem writeJoined_delimiter (last : Option Char) (gap : Bool)
    (words : List Char × List (List Char)) :
    writeJoined last gap ([], words.1 :: words.2) = writeJoined last true words := by
  cases last <;> cases gap <;> rfl

theorem writeJoined_kept (last : Option Char) (gap : Bool) (c : Char)
    (words : List Char × List (List Char)) :
    writeJoined last gap
        (if !gap && last.any Char.isLower && c.isUpper then ([], (c :: words.1) :: words.2)
          else (c :: words.1, words.2)) =
      (if last.any (isSeam · gap c) then ['_'] else []) ++
        c.toLower :: writeJoined (some c) false words := by
  cases last with
  | none => simp [writeJoined, underscored_cons]
  | some b =>
      cases gap with
      | true => simp [writeJoined, isSeam, underscored_cons]
      | false =>
          by_cases hseam : (b.isLower && c.isUpper) = true
          · simp [writeJoined, isSeam, hseam, underscored_cons]
          · simp [writeJoined, isSeam, hseam]

theorem writeJoined_wordsFrom {text : List Char} (h : ∀ c ∈ text, c.toNat < 128)
    {last : Option Char} {gap : Bool} {before : Option ClusterKind}
    (hbefore : (before == some .lower) = (!gap && last.any Char.isLower)) :
    writeJoined last gap (wordsFrom compoundBoundaries before (text.map ([·]))) =
      joinedFrom last gap text := by
  -- Of what comes before, the words to come depend on whether a small letter is directly there.
  induction text generalizing last gap before with
  | nil => cases last <;> cases gap <;> rfl
  | cons c rest ih =>
      have hrest : ∀ d ∈ rest, d.toNat < 128 := fun d hd => h d (List.mem_cons_of_mem _ hd)
      obtain ⟨hlower, hupper⟩ := kind_ascii (h c List.mem_cons_self)
      rw [List.map_cons, wordsFrom_compoundBoundaries, any_drops_compoundBoundaries, hbefore, hupper]
      by_cases hdelimiter : isDelimiter c = true
      · have hkind : (ClusterKind.of? [c] == some .lower) = (!true && last.any Char.isLower) :=
          hlower.trans (isLower_of_isDelimiter hdelimiter)
        rw [joinedFrom_delimiter hdelimiter, ← ih hrest hkind]
        simp only [hdelimiter, if_true]
        exact writeJoined_delimiter last gap _
      · rw [Bool.not_eq_true] at hdelimiter
        have hkind : (ClusterKind.of? [c] == some .lower) = (!false && (some c).any Char.isLower) :=
          hlower
        rw [joinedFrom_kept hdelimiter, ← ih hrest hkind]
        simp only [hdelimiter, Bool.false_eq_true, if_false]
        exact writeJoined_kept last gap c _

/-- A name of ASCII in small letters with underscores. -/
theorem toList_snake_ascii {name : String} (h : ∀ c ∈ name.toList, c.toNat < 128) :
    (snake name).toList = joinedFrom none false name.toList := by
  have hlower : (words compoundBoundaries name.toList).map Unicode.lower =
      (words compoundBoundaries name.toList).map (List.map Char.toLower) :=
    List.map_congr_left fun word hword => lower_ascii fun c hc => h c (mem_of_mem_words hword hc)
  have hkind : ((none : Option ClusterKind) == some .lower) = (!false && none.any Char.isLower) := rfl
  rw [toList_snake, hlower, intercalate_eq_tail, words, wordsFrom_clusters_ascii h,
    ← writeJoined_wordsFrom h hkind, List.flatMap_map]
  rfl

theorem map_intercalate (f : Char → Char) (hf : f '_' = '_') (words : List (List Char)) :
    (['_'].intercalate words).map f = ['_'].intercalate (words.map (List.map f)) := by
  simp [intercalate_eq_tail, List.map_flatMap, List.flatMap_map, hf]

/-- The capitals of a name of ASCII are those of its small letters. -/
theorem toList_upperSnake_ascii {name : String} (h : ∀ c ∈ name.toList, c.toNat < 128) :
    (upperSnake name).toList = (snake name).toList.map Char.toUpper := by
  have hword : ∀ word ∈ words compoundBoundaries name.toList,
      Unicode.upper word = (Unicode.lower word).map Char.toUpper := by
    intro word hword
    have hascii : ∀ c ∈ word, c.toNat < 128 := fun c hc => h c (mem_of_mem_words hword hc)
    rw [upper_ascii hascii, lower_ascii hascii, List.map_map]
    exact List.map_congr_left fun c _ => (Char.toUpper_toLower_eq_toUpper c).symm
  rw [toList_upperSnake, toList_snake, map_intercalate _ rfl, List.map_map]
  exact congrArg _ (List.map_congr_left hword)

/-! ## What the spelling keeps, and where its underscores are -/

section Joined

variable (last : Option Char) (gap : Bool) (text : List Char)

theorem filter_joinedFrom :
    (joinedFrom last gap text).filter (· != '_') =
      (text.filter fun c => !isDelimiter c).map Char.toLower := by
  induction last, gap, text using joinedFrom.induct with
  | case1 => rfl
  | case2 last gap c rest hdelimiter ih =>
      rw [joinedFrom_delimiter hdelimiter, ih, List.filter_cons_of_neg (by simp [hdelimiter])]
  | case3 last gap c rest hkept ih =>
      rw [Bool.not_eq_true] at hkept
      have hc := toLower_ne_underscore hkept
      rw [joinedFrom_kept hkept, List.filter_cons_of_pos (by simp [hkept]), List.map_cons, ← ih]
      split <;> simp [hc]

theorem head?_joinedFrom : (joinedFrom none gap text).head? ≠ some '_' := by
  induction text generalizing gap with
  | nil => simp [joinedFrom]
  | cons c rest ih =>
      by_cases hdelimiter : isDelimiter c = true
      · rw [joinedFrom_delimiter hdelimiter]
        exact ih true
      · rw [Bool.not_eq_true] at hdelimiter
        simpa [joinedFrom_kept hdelimiter] using toLower_ne_underscore hdelimiter

theorem getLast?_joinedFrom : (joinedFrom last gap text).getLast? ≠ some '_' := by
  induction last, gap, text using joinedFrom.induct with
  | case1 => simp [joinedFrom]
  | case2 last gap c rest hdelimiter ih =>
      rw [joinedFrom_delimiter hdelimiter]
      exact ih
  | case3 last gap c rest hkept ih =>
      rw [Bool.not_eq_true] at hkept
      rw [joinedFrom_kept hkept, List.getLast?_append_cons, List.getLast?_cons]
      cases hlast : (joinedFrom (some c) false rest).getLast? with
      | none => simpa using toLower_ne_underscore hkept
      | some d => simpa [hlast] using ih

/-- Of two neighbours in the spelling at most one is an underscore. -/
theorem isChain_joinedFrom :
    (joinedFrom last gap text).IsChain fun a b => ¬(a = '_' ∧ b = '_') := by
  induction last, gap, text using joinedFrom.induct with
  | case1 => exact .nil
  | case2 last gap c rest hdelimiter ih =>
      rw [joinedFrom_delimiter hdelimiter]
      exact ih
  | case3 last gap c rest hkept ih =>
      rw [Bool.not_eq_true] at hkept
      have hc := toLower_ne_underscore hkept
      have hword := ih.cons fun d _ hboth => hc hboth.1
      rw [joinedFrom_kept hkept]
      split
      · apply hword.cons
        rintro d ⟨⟩ hboth
        exact hc hboth.2
      · exact hword

/-- A character that is kept splits the spelling: what comes after it depends on it alone. -/
theorem exists_joinedFrom_append {c : Char} (hc : isDelimiter c = false) (after : List Char) :
    ∃ front, joinedFrom last gap (text ++ c :: after) =
        front ++ c.toLower :: joinedFrom (some c) false after ∧
      front.filter (· != '_') = (text.filter fun d => !isDelimiter d).map Char.toLower := by
  induction last, gap, text using joinedFrom.induct with
  | case1 =>
      rw [List.nil_append, joinedFrom_kept hc]
      refine ⟨_, rfl, ?_⟩
      split <;> rfl
  | case2 last gap d rest hdelimiter ih =>
      rw [List.cons_append, joinedFrom_delimiter hdelimiter,
        List.filter_cons_of_neg (by simp [hdelimiter])]
      exact ih
  | case3 last gap d rest hkept ih =>
      rw [Bool.not_eq_true] at hkept
      have hd := toLower_ne_underscore hkept
      obtain ⟨front, hfront, hletters⟩ := ih
      rw [List.cons_append, joinedFrom_kept hkept, hfront, ← List.cons_append, ← List.append_assoc]
      refine ⟨_, rfl, ?_⟩
      rw [List.filter_cons_of_pos (by simp [hkept]), List.map_cons, ← hletters]
      split <;> simp [hd]

theorem joinedFrom_gap {between : List Char} (h : ∀ c ∈ between, isDelimiter c = true) :
    joinedFrom last gap (between ++ text) = joinedFrom last (gap || !between.isEmpty) text := by
  induction between generalizing gap with
  | nil => simp
  | cons c rest ih =>
      rw [List.cons_append, joinedFrom_delimiter (h c List.mem_cons_self),
        ih true fun d hd => h d (List.mem_cons_of_mem _ hd)]
      simp

/-- A spelling written with all letters in one case is read as the same words again. -/
structure IsOneCase (f : Char → Char) : Prop where
  isDelimiter_eq : ∀ c : Char, isDelimiter (f c.toLower) = isDelimiter c
  toLower_eq : ∀ c : Char, (f c.toLower).toLower = c.toLower
  not_mixed : ∀ b c : Char, isSeam (f b.toLower) false (f c.toLower) = false

theorem isOneCase_id : IsOneCase id where
  isDelimiter_eq := isDelimiter_toLower
  toLower_eq := Char.toLower_toLower_eq_toLower
  not_mixed b c := by simp [isSeam]

theorem isOneCase_toUpper : IsOneCase Char.toUpper where
  isDelimiter_eq c := by simp
  toLower_eq c := by simp
  not_mixed b c := by simp [isSeam]

theorem joinedFrom_map_joinedFrom {f : Char → Char} (hf : IsOneCase f) :
    joinedFrom (last.map fun b => f b.toLower) false ((joinedFrom last gap text).map f) =
      joinedFrom last gap text := by
  induction last, gap, text using joinedFrom.induct with
  | case1 => rfl
  | case2 last gap c rest hdelimiter ih =>
      rw [joinedFrom_delimiter hdelimiter]
      exact ih
  | case3 last gap c rest hkept ih =>
      rw [Bool.not_eq_true] at hkept
      have hunderscore : isDelimiter (f '_') = true := hf.isDelimiter_eq '_'
      have hagain : isDelimiter (f c.toLower) = false := (hf.isDelimiter_eq c).trans hkept
      rw [Option.map_some] at ih
      rw [joinedFrom_kept hkept, List.map_append, List.map_cons]
      cases last with
      | none => simp [joinedFrom_kept hagain, hf.toLower_eq, ih]
      | some b =>
          -- The underscore of a seam is a delimiter now, and there is no seam without one.
          have hgap : isSeam (f b.toLower) true (f c.toLower) = true := rfl
          by_cases hseam : isSeam b gap c = true
          · simp [hseam, joinedFrom_delimiter hunderscore, joinedFrom_kept hagain, hgap,
              hf.toLower_eq, ih]
          · simp [hseam, joinedFrom_kept hagain, hf.not_mixed, hf.toLower_eq, ih]

theorem ascii_joinedFrom (h : ∀ c ∈ text, c.toNat < 128) :
    ∀ d ∈ joinedFrom last gap text, d.toNat < 128 := by
  induction last, gap, text using joinedFrom.induct with
  | case1 => exact List.forall_mem_nil _
  | case2 last gap c rest hdelimiter ih =>
      rw [joinedFrom_delimiter hdelimiter]
      exact ih (List.forall_mem_cons.1 h).2
  | case3 last gap c rest hkept ih =>
      rw [Bool.not_eq_true] at hkept
      obtain ⟨hc, hrest⟩ := List.forall_mem_cons.1 h
      rw [joinedFrom_kept hkept, List.forall_mem_append, List.forall_mem_cons]
      refine ⟨?_, toLower_ascii hc, ih hrest⟩
      split
      · exact List.forall_mem_singleton.2 (by decide)
      · exact List.forall_mem_nil _

end Joined

/-! ## Names of ASCII -/

/-- What a spelling in small letters with underscores is, said of its characters. -/
structure IsSnake (name spelled : List Char) : Prop where
  letters : spelled.filter (· != '_') = (name.filter fun c => !isDelimiter c).map Char.toLower
  not_leading : spelled.head? ≠ some '_'
  not_trailing : spelled.getLast? ≠ some '_'
  not_doubled : ¬['_', '_'] <:+: spelled
  /-- Neighbours that are kept have an underscore between them where delimiters were, or where a
  small letter stood directly before a capital, and nowhere else. -/
  between : ∀ before c gap d after, name = before ++ c :: (gap ++ d :: after) →
    isDelimiter c = false → isDelimiter d = false → (∀ e ∈ gap, isDelimiter e = true) →
    ∃ front back,
      spelled = front ++ c.toLower ::
        ((if gap ≠ [] ∨ (c.isLower = true ∧ d.isUpper = true) then ['_'] else []) ++
          d.toLower :: back) ∧
      front.filter (· != '_') = (before.filter fun e => !isDelimiter e).map Char.toLower ∧
      back.filter (· != '_') = (after.filter fun e => !isDelimiter e).map Char.toLower

theorem isSnake_joinedFrom (name : List Char) : IsSnake name (joinedFrom none false name) where
  letters := filter_joinedFrom none false name
  not_leading := head?_joinedFrom false name
  not_trailing := getLast?_joinedFrom none false name
  not_doubled := by
    rintro ⟨front, back, hspelled⟩
    have hchain := isChain_joinedFrom none false name
    rw [← hspelled] at hchain
    simpa using hchain.left_of_append.right_of_append
  between := by
    rintro before c gap d after rfl hc hd hgap
    obtain ⟨front, hfront, hbefore⟩ :=
      exists_joinedFrom_append none false before hc (gap ++ d :: after)
    refine ⟨front, joinedFrom (some d) false after, ?_, hbefore, filter_joinedFrom _ _ after⟩
    rw [hfront, joinedFrom_gap (some c) false _ hgap, joinedFrom_kept hd]
    simp [isSeam]

section Ascii

variable {name : String} (h : ∀ c ∈ name.toList, c.toNat < 128)
include h

theorem isSnake_snake : IsSnake name.toList (snake name).toList := by
  rw [toList_snake_ascii h]
  exact isSnake_joinedFrom name.toList

theorem ascii_snake : ∀ c ∈ (snake name).toList, c.toNat < 128 := by
  rw [toList_snake_ascii h]
  exact ascii_joinedFrom none false name.toList h

theorem snake_snake : snake (snake name) = snake name := by
  rw [← String.toList_inj, toList_snake_ascii (ascii_snake h), toList_snake_ascii h]
  simpa using joinedFrom_map_joinedFrom none false name.toList isOneCase_id

theorem snake_upperSnake : snake (upperSnake name) = snake name := by
  have hascii : ∀ c ∈ (upperSnake name).toList, c.toNat < 128 := by
    rw [toList_upperSnake_ascii h]
    intro c hc
    obtain ⟨d, hd, rfl⟩ := List.mem_map.1 hc
    exact toUpper_ascii (ascii_snake h d hd)
  rw [← String.toList_inj, toList_snake_ascii hascii, toList_upperSnake_ascii h,
    toList_snake_ascii h]
  exact joinedFrom_map_joinedFrom none false name.toList isOneCase_toUpper

end Ascii

end Naming

end TokenTables
