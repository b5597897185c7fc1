import TokenTables.Proofs.Syntax.Strings
/-!
# Declarations line by line

Generated code with free text in it cannot be read token by token, but its lines still tell what it
declares.  A line that declares a name begins in a form of its own, and what belongs to the name
stands on the lines after it, up to one that closes it.
-/

namespace TokenTables.Syntax

/-- The lines between the first one that opens a block and the next one that closes it. -/
def linesBetween? (opens : List Char → Bool) (close : List Char) (lines : List (List Char)) :
    Option (List (List Char)) :=
  match lines.dropWhile fun line => !opens line with
  | [] => none
  | _ :: rest => if close ∈ rest then some (rest.takeWhile (· != close)) else none

theorem takeWhile_ne_append {α : Type} [BEq α] [LawfulBEq α] {stop : α} {list : List α}
    (h : stop ∉ list) (rest : List α) : (list ++ stop :: rest).takeWhile (· != stop) = list := by
  have hne : ∀ a ∈ list, (a != stop) = true := by
    intro a ha
    rw [bne_iff_ne]
    rintro rfl
    exact h ha
  rw [List.takeWhile_append_of_pos hne, List.takeWhile_cons_of_neg (by simp), List.append_nil]

theorem linesBetween?_append {opens : List Char → Bool} {close : List Char}
    {before : List (List Char)} (hbefore : ∀ line ∈ before, opens line = false)
    (lines : List (List Char)) :
    linesBetween? opens close (before ++ lines) = linesBetween? opens close lines := by
  have hdrop : (before ++ lines).dropWhile (fun line => !opens line) =
      lines.dropWhile fun line => !opens line := by
    apply List.dropWhile_append_of_pos
    intro line hline
    rw [hbefore line hline]
    rfl
  rw [linesBetween?, hdrop]
  rfl

theorem linesBetween?_cons {opens : List Char → Bool} {close opening : List Char}
    {rows : List (List Char)} (hopening : opens opening = true) (hrows : close ∉ rows)
    (after : List (List Char)) :
    linesBetween? opens close (opening :: (rows ++ close :: after)) = some rows := by
  rw [linesBetween?, List.dropWhile_cons_of_neg (by simp [hopening])]
  simp [takeWhile_ne_append hrows]

/-! ## Tables of strings -/

def tableOpening (name : String) : List Char :=
  ("pub static " ++ name ++ ": &[&str] = &[").toList

/-- The strings in the table with the name. -/
def readTableLines? (name : String) (text : List Char) : Option (List String) :=
  (linesBetween? (· == tableOpening name) "];".toList (text.splitOn '\n')).bind fun rows =>
    (lex .rust (['\n'].intercalate rows)).bind readStrings?

/-! ## Names -/

/-- A form of line that declares a name: what stands before the name, and the character after it. -/
structure NameForm where
  opening : String
  stop : Char

namespace NameForm

def definition : NameForm :=
  ⟨"#define ", ' '⟩

def array : NameForm :=
  ⟨"static const char *const ", '['⟩

def constant : NameForm :=
  ⟨"pub const ", ':'⟩

def table : NameForm :=
  ⟨"pub static ", ':'⟩

def enumeration : NameForm :=
  ⟨"pub enum ", ' '⟩

/-- What a header declares. -/
def c : List NameForm :=
  [definition, array]

/-- What a module declares. -/
def rust : List NameForm :=
  [constant, table, enumeration]

def opens (form : NameForm) (line : List Char) : Bool :=
  form.opening.toList.isPrefixOf line

def name? (form : NameForm) (line : List Char) : Option String :=
  if form.opens line then
    some (String.ofList ((line.drop form.opening.toList.length).takeWhile (· != form.stop)))
  else none

theorem opens_append (form : NameForm) (rest : List Char) :
    form.opens (form.opening.toList ++ rest) = true :=
  List.isPrefixOf_iff_prefix.2 (List.prefix_append _ _)

/-- A line that begins otherwise than a form does not have it. -/
theorem opens_eq_false {form : NameForm} {line : List Char} {c : Char}
    (hopening : form.opening.toList.head? = some c) (hline : line.head? ≠ some c) :
    form.opens line = false := by
  rw [opens, ← Bool.not_eq_true, List.isPrefixOf_iff_prefix]
  rintro ⟨rest, rfl⟩
  apply hline
  rw [List.head?_append, hopening, Option.some_or]

theorem name?_append (form : NameForm) {name : String} (hname : form.stop ∉ name.toList)
    (rest : List Char) :
    form.name? (form.opening.toList ++ (name.toList ++ form.stop :: rest)) = some name := by
  rw [name?, if_pos (form.opens_append _), List.drop_left, takeWhile_ne_append hname,
    String.ofList_toList]

end NameForm

/-- The name that a line declares in one of the forms. -/
def declaredName? (forms : List NameForm) (line : List Char) : Option String :=
  forms.findSome? (·.name? line)

theorem declaredName?_eq_none {forms : List NameForm} {line : List Char}
    (h : ∀ form ∈ forms, form.opens line = false) : declaredName? forms line = none := by
  rw [declaredName?, List.findSome?_eq_none_iff]
  intro form hform
  rw [NameForm.name?, if_neg (by rw [h form hform]; decide)]

/-- A line is taken in the first form that it has. -/
theorem declaredName?_append (before : List NameForm) (form : NameForm) (after : List NameForm)
    {name : String} (hname : form.stop ∉ name.toList) (rest : List Char)
    (hbefore : ∀ other ∈ before,
      other.opens (form.opening.toList ++ (name.toList ++ form.stop :: rest)) = false) :
    declaredName? (before ++ form :: after)
      (form.opening.toList ++ (name.toList ++ form.stop :: rest)) = some name := by
  have hnone := declaredName?_eq_none hbefore
  rw [declaredName?] at hnone ⊢
  rw [List.findSome?_append, hnone, List.findSome?_cons, form.name?_append hname]
  rfl

/-- The names that lines declare, in order. -/
def declaredNames (forms : List NameForm) (lines : List (List Char)) : List String :=
  lines.filterMap (declaredName? forms)

theorem declaredNames_append (forms : List NameForm) (s t : List (List Char)) :
    declaredNames forms (s ++ t) = declaredNames forms s ++ declaredNames forms t :=
  List.filterMap_append

theorem declaredNames_cons (forms : List NameForm) (line : List Char) (lines : List (List Char)) :
    declaredNames forms (line :: lines) =
      (declaredName? forms line).toList ++ declaredNames forms lines := by
  cases h : declaredName? forms line <;> simp [declaredNames, h]

theorem declaredNames_eq_nil {forms : List NameForm} {lines : List (List Char)}
    (h : ∀ line ∈ lines, ∀ form ∈ forms, form.opens line = false) :
    declaredNames forms lines = [] := by
  rw [declaredNames, List.filterMap_eq_nil_iff]
  intro line hline
  exact declaredName?_eq_none (h line hline)

/-- The text of a row with a comma at its end. -/
def rowName (row : List Char) : String :=
  String.ofList ((row.dropWhile (· == ' ')).takeWhile (· != ','))

theorem rowName_append {name : String} (hname : IsIdentifier name.toList) :
    rowName ([' ', ' ', ' ', ' '] ++ name.toList ++ [',']) = name := by
  have hspaces : ([' ', ' ', ' ', ' '] ++ name.toList ++ [',']).dropWhile (· == ' ') =
      name.toList ++ [','] := by
    obtain ⟨c, rest, hcons⟩ := List.exists_cons_of_ne_nil hname.ne_nil
    have hspace : ' ' ∉ name.toList := hname.not_mem (by decide)
    rw [hcons, List.mem_cons, not_or] at hspace
    rw [List.append_assoc, List.dropWhile_append_of_pos (by simp), hcons, List.cons_append,
      List.dropWhile_cons_of_neg (by simpa using Ne.symm hspace.1)]
  rw [rowName, hspaces, takeWhile_ne_append (hname.not_mem (by decide)), String.ofList_toList]

/-- The variants of the first enumeration. -/
def declaredVariants (lines : List (List Char)) : List String :=
  ((linesBetween? NameForm.enumeration.opens ['\x7d'] lines).getD []).map rowName

end TokenTables.Syntax
