import TokenTables.Unicode.Property
/-!
# Grapheme clusters

A text cut into what its reader sees as single characters, by the rules for extended grapheme
clusters.  A character joins the cluster before it or starts the next one; which of the two depends
on its own properties and on a context that is read from left to right.
-/

namespace TokenTables.Unicode

/-- The part a character takes in a cluster: the values of Grapheme_Cluster_Break, with the
pictographs among the characters that have none. -/
inductive ClusterRole
  | carriageReturn | lineFeed | control
  | extend | joiner | spacingMark | prepend
  | pictograph | regional
  | leading | vowel | trailing | leadingVowel | leadingVowelTrailing
  | other
deriving DecidableEq, Repr

namespace ClusterRole

/-- The syllables and letters of Hangul. -/
def hangul? (n : Nat) : Option ClusterRole :=
  if (0x1100 ≤ n && n ≤ 0x115F) || (0xA960 ≤ n && n ≤ 0xA97C) then some leading
  else if (0x1160 ≤ n && n ≤ 0x11A7) || (0xD7B0 ≤ n && n ≤ 0xD7C6) || n == 0x16D63 ||
    (0x16D67 ≤ n && n ≤ 0x16D6A) then some vowel
  else if (0x11A8 ≤ n && n ≤ 0x11FF) || (0xD7CB ≤ n && n ≤ 0xD7FB) then some trailing
  else if 0xAC00 ≤ n && n ≤ 0xD7A3 then
    some (if (n - 0xAC00) % 28 == 0 then leadingVowel else leadingVowelTrailing)
  else none

def ofChar (c : Char) : ClusterRole :=
  if c == '\r' then carriageReturn
  else if c == '\n' then lineFeed
  else if c.toNat < 0x20 || c.toNat == 0x7F then control
  else if c.toNat < 0x80 then other
  else if c.toNat == 0x200D then joiner
  else if 0x1F1E6 ≤ c.toNat && c.toNat ≤ 0x1F1FF then regional
  else if holds controlIntervals c then control
  else if holds extendIntervals c then extend
  else if holds spacingMarkIntervals c then spacingMark
  else if holds prependIntervals c then prepend
  else if holds pictographIntervals c then pictograph
  else (hangul? c.toNat).getD other

/-- Stands alone, whatever is around it. -/
def isControl : ClusterRole → Bool
  | carriageReturn | lineFeed | control => true
  | _ => false

end ClusterRole

/-- The part a character takes in a conjunct, which linkers make of consonants: the values of
Indic_Conjunct_Break. -/
inductive ConjunctRole
  | consonant
  | linker
  | extend
  | other
deriving DecidableEq, Repr

namespace ConjunctRole

/-- The role of a character in a conjunct, given its role in a cluster.  All that extend a cluster
extend a conjunct, but the non-joiner. -/
def ofChar (c : Char) (role : ClusterRole) : ConjunctRole :=
  if c.toNat < 0x80 then other
  else if holds linkerIntervals c then linker
  else if role == .joiner then extend
  else if role == .extend then if c.toNat == 0x200C then other else extend
  else if holds consonantIntervals c then consonant
  else other

/-- No conjunct has a character of ASCII in it. -/
theorem ofChar_ascii {c : Char} (h : c.toNat < 0x80) (role : ClusterRole) :
    ofChar c role = other := by
  simp [ofChar, h]

end ConjunctRole

/-- How far a conjunct has come. -/
inductive Conjunct
  /-- There is none. -/
  | closed
  /-- A consonant and what extends it. -/
  | opened
  /-- A linker is among what extends the consonant, so a consonant can follow. -/
  | linked
deriving DecidableEq, Repr

def Conjunct.next : Conjunct → ConjunctRole → Conjunct
  | _, .consonant => opened
  | closed, _ | _, .other => closed
  | _, .linker => linked
  | conjunct, .extend => conjunct

/-- What of a character decides about clusters. -/
structure ClusterTraits where
  role : ClusterRole
  conjunctRole : ConjunctRole

def ClusterTraits.ofChar (c : Char) : ClusterTraits :=
  let role := ClusterRole.ofChar c
  ⟨role, ConjunctRole.ofChar c role⟩

/-- What of the characters read so far decides whether the next one joins their cluster. -/
structure ClusterContext where
  /-- The role of the last character. -/
  last : ClusterRole
  /-- The last character is the first of a pair of regional indicators. -/
  halfFlag : Bool
  /-- A pictograph is open: only extending characters, or these and then a joiner, follow it. -/
  openPictograph : Bool
  conjunct : Conjunct

namespace ClusterContext

def start (first : ClusterTraits) : ClusterContext where
  last := first.role
  halfFlag := first.role == .regional
  openPictograph := first.role == .pictograph
  conjunct := Conjunct.closed.next first.conjunctRole

def next (context : ClusterContext) (char : ClusterTraits) : ClusterContext where
  last := char.role
  halfFlag := char.role == .regional && !context.halfFlag
  openPictograph := char.role == .pictograph ||
    (context.openPictograph && context.last != .joiner &&
      (char.role == .extend || char.role == .joiner))
  conjunct := context.conjunct.next char.conjunctRole

/-- The two roles alone forbid the end of a cluster between a character and the next, or a pair of
regional indicators or a sequence of pictographs does. -/
def joinsRole (context : ClusterContext) (role : ClusterRole) : Bool :=
  match context.last, role with
  | .carriageReturn, .lineFeed => true
  | last, .extend | last, .joiner | last, .spacingMark => !last.isControl
  | .prepend, role => !role.isControl
  | .leading, .leading | .leading, .vowel | .leading, .leadingVowel
  | .leading, .leadingVowelTrailing => true
  | .leadingVowel, .vowel | .leadingVowel, .trailing | .vowel, .vowel | .vowel, .trailing => true
  | .leadingVowelTrailing, .trailing | .trailing, .trailing => true
  | .joiner, .pictograph => context.openPictograph
  | .regional, .regional => context.halfFlag
  | _, _ => false

/-- The character is a consonant that a linker ties to the one before. -/
def joinsConjunct (context : ClusterContext) (role : ConjunctRole) : Bool :=
  context.conjunct == .linked && role == .consonant

/-- No cluster ends between the characters read so far and one with these traits. -/
def joins (context : ClusterContext) (char : ClusterTraits) : Bool :=
  context.joinsRole char.role || context.joinsConjunct char.conjunctRole

end ClusterContext

/-- The characters that still belong to the cluster read so far, and the clusters after it. -/
def clustersFrom (context : ClusterContext) : List Char → List Char × List (List Char)
  | [] => ([], [])
  | c :: rest =>
    let char := ClusterTraits.ofChar c
    let (same, later) := clustersFrom (context.next char) rest
    if context.joins char then (c :: same, later) else ([], (c :: same) :: later)

def clusters : List Char → List (List Char)
  | [] => []
  | c :: rest =>
    let (same, later) := clustersFrom (.start (.ofChar c)) rest
    (c :: same) :: later

theorem flatten_clustersFrom (context : ClusterContext) (text : List Char) :
    (clustersFrom context text).1 ++ (clustersFrom context text).2.flatten = text := by
  induction text generalizing context with
  | nil => rfl
  | cons c rest ih =>
    simp only [clustersFrom]
    split <;> simp [ih]

/-- No character is lost. -/
@[simp] theorem flatten_clusters (text : List Char) : (clusters text).flatten = text := by
  cases text with
  | nil => rfl
  | cons c rest => simp [clusters, flatten_clustersFrom]

end TokenTables.Unicode
