import TokenTables.Unicode.Case
import TokenTables.Unicode.Cluster
/-!
# Words of a name

A name is cut into words over its grapheme clusters: at delimiters, which belong to no word, and
between clusters of different letter case or between letters and digits.  Which of these places
count is up to a list of boundaries.
-/

namespace TokenTables.Naming

open Unicode

/-- What a cluster looks like to a boundary between words. -/
inductive ClusterKind
  | upper
  | lower
  | digit
deriving DecidableEq, Repr

/-- A cluster is upper (lower) if it has two case forms and is its own upper-case (lower-case) one;
digits are those of ASCII. -/
def ClusterKind.of? (cluster : List Char) : Option ClusterKind :=
  if Unicode.upper cluster != Unicode.lower cluster then
    if cluster == Unicode.upper cluster then some upper
    else if cluster == Unicode.lower cluster then some lower
    else none
  else if cluster.all Char.isDigit then some digit
  else none

/-- A place where a name may fall into two words. -/
inductive Boundary
  /-- At a character that belongs to neither word. -/
  | delimiter (c : Char)
  /-- Between a cluster of one kind and a cluster of another. -/
  | change (before after : ClusterKind)
  /-- Before the last of several capitals, when a small letter follows it. -/
  | acronym
deriving DecidableEq, Repr

/-- The cluster is this boundary's delimiter. -/
def Boundary.drops (cluster : List Char) : Boundary → Bool
  | delimiter c => cluster == [c]
  | _ => false

/-- The boundary lies between two clusters of these kinds, of which the second has a cluster of the
third kind after it. -/
def Boundary.parts (before here after : Option ClusterKind) : Boundary → Bool
  | delimiter _ => false
  | change x y => before == some x && here == some y
  | acronym => before == some .upper && here == some .upper && after == some .lower

/-- The rest of the word that the clusters continue, and the words after it.  `before` is the kind
of the cluster in front of them. -/
def wordsFrom (boundaries : List Boundary) (before : Option ClusterKind) :
    List (List Char) → List Char × List (List Char)
  | [] => ([], [])
  | cluster :: rest =>
    let here := ClusterKind.of? cluster
    let (word, later) := wordsFrom boundaries here rest
    if boundaries.any (·.drops cluster) then ([], word :: later)
    else if boundaries.any (·.parts before here (rest.head?.bind ClusterKind.of?)) then
      ([], (cluster ++ word) :: later)
    else (cluster ++ word, later)

/-- The words of a name, none of them empty. -/
def words (boundaries : List Boundary) (name : List Char) : List (List Char) :=
  let (word, later) := wordsFrom boundaries none (clusters name)
  (word :: later).filter (· != [])

theorem ne_nil_of_mem_words {boundaries : List Boundary} {name word : List Char}
    (h : word ∈ words boundaries name) : word ≠ [] := by
  simp only [words, List.mem_filter, bne_iff_ne] at h
  exact h.2

end TokenTables.Naming
