import TokenTables.Proofs.Syntax.Spelling
import TokenTables.Proofs.Text.Newline
/-!
# Lines in parts

A generated line of Rust is fixed code with names, numbers and literals between.  Its tokens are the
tokens of the parts if no name or number runs on into the part after it.
-/

namespace TokenTables.Syntax

open Text

/-- The tokens of a fixed piece of code. -/
def rust (text : String) : List Token :=
  (lex .rust text.toList).getD []

/-- A part of a line. -/
inductive Part
  | code (text : String)
  | name (text : String)
  | number (value : Nat)
  /-- A literal with escapes, given by its value. -/
  | literal (text : String)

namespace Part

def text : Part → List Char
  | code text => text.toList
  | name text => text.toList
  | number value => (toString value).toList
  | literal text => (quoted text).toList

def tokens : Part → List Token
  | code text => Syntax.rust text
  | name text => [.word text]
  | number value => [.number value]
  | literal text => [.string text]

/-- Is on one line and has complete tokens. -/
def closed (text : String) : Bool :=
  !text.toList.contains '\n' && (scan .rust .plain text.toList).any (·.2 = .plain)

/-- Ends a name or a number before it. -/
def apart (text : String) : Bool :=
  text.toList.head?.any (!isWordChar ·)

end Part

/-- Parts that can be read one by one. -/
def Readable : List Part → Prop
  | [] => True
  | .code text :: rest => Part.closed text = true ∧ Readable rest
  | .literal _ :: rest => Readable rest
  | .name text :: .code next :: rest =>
    IsIdentifier text.toList ∧ Part.apart next = true ∧ Readable (.code next :: rest)
  | .number _ :: .code next :: rest => Part.apart next = true ∧ Readable (.code next :: rest)
  | _ => False

namespace Part

theorem lex_closed_append {text : String} (h : closed text = true) (rest : List Char) :
    lex .rust (text.toList ++ rest) = (lex .rust rest).map (Syntax.rust text ++ ·) := by
  obtain ⟨-, hscan⟩ := Bool.and_eq_true_iff.1 h
  obtain ⟨⟨tokens, mode⟩, hscan, hmode⟩ := (Option.any_eq_true _ _).1 hscan
  obtain rfl := of_decide_eq_true hmode
  have hcode : Syntax.rust text = tokens := by
    simp [Syntax.rust, lex, lexFrom, hscan, finish]
  rw [hcode, lex_append hscan]

theorem newline_not_mem_of_closed {text : String} (h : closed text = true) :
    '\n' ∉ text.toList := by
  simpa using (Bool.and_eq_true_iff.1 h).1

theorem exists_of_apart {text : String} (h : apart text = true) :
    ∃ c rest, text.toList = c :: rest ∧ isWordChar c = false := by
  unfold apart at h
  cases htext : text.toList with
  | nil =>
      rw [htext] at h
      contradiction
  | cons c rest =>
      rw [htext] at h
      exact ⟨c, rest, rfl, by simpa using h⟩

end Part

theorem lex_parts {parts : List Part} (h : Readable parts) :
    lex .rust (parts.flatMap Part.text) = some (parts.flatMap Part.tokens) := by
  induction parts using Readable.induct with
  | case1 => rfl
  | case2 text rest ih =>
      rw [List.flatMap_cons, Part.text, Part.lex_closed_append h.1, ih h.2]
      rfl
  | case3 text rest ih =>
      rw [List.flatMap_cons, Part.text, lex_append (scan_quoted text), ih h]
      rfl
  | case4 text next rest ih =>
      obtain ⟨hname, hapart, hrest⟩ := h
      obtain ⟨c, more, hnext, hc⟩ := Part.exists_of_apart hapart
      have hlex := ih hrest
      rw [List.flatMap_cons, Part.text, hnext, List.cons_append] at hlex
      rw [List.flatMap_cons, List.flatMap_cons, Part.text, Part.text, hnext, List.cons_append,
        lex_identifier_append hname hc, hlex]
      rfl
  | case5 value next rest ih =>
      obtain ⟨hapart, hrest⟩ := h
      obtain ⟨c, more, hnext, hc⟩ := Part.exists_of_apart hapart
      have hlex := ih hrest
      rw [List.flatMap_cons, Part.text, hnext, List.cons_append] at hlex
      rw [List.flatMap_cons, List.flatMap_cons, Part.text, Part.text, hnext, List.cons_append,
        lex_number_append value hc, hlex]
      rfl
  | case6 parts _ _ _ _ _ => simp_all [Readable]

theorem newline_not_mem_parts {parts : List Part} (h : Readable parts) :
    '\n' ∉ parts.flatMap Part.text := by
  induction parts using Readable.induct with
  | case1 => exact List.not_mem_nil
  | case2 text rest ih =>
      rw [List.flatMap_cons, List.mem_append, not_or]
      exact ⟨Part.newline_not_mem_of_closed h.1, ih h.2⟩
  | case3 text rest ih =>
      rw [List.flatMap_cons, List.mem_append, not_or]
      exact ⟨not_mem_newline_quoted text, ih h⟩
  | case4 text next rest ih =>
      rw [List.flatMap_cons, List.mem_append, not_or]
      exact ⟨h.1.not_mem (by decide), ih h.2.2⟩
  | case5 value next rest ih =>
      rw [List.flatMap_cons, List.mem_append, not_or]
      exact ⟨not_mem_toString value (by decide), ih h.2⟩
  | case6 parts _ _ _ _ _ => simp_all [Readable]

/-! ## Code -/

theorem lex_indent (depth : Nat) {text : List Char} {tokens : List Token}
    (h : lex .rust text = some tokens) : lex .rust (indent depth text) = some tokens := by
  have hspaces (n : Nat) : scan .rust .plain (List.replicate n ' ') = some ([], .plain) := by
    induction n with
    | zero => rfl
    | succ n ih =>
        have hstep : step .rust .plain ' ' = some ([], .plain) := rfl
        simp [List.replicate_succ, scan, hstep, ih]
  unfold indent
  split
  · rename_i hempty
    rwa [List.isEmpty_iff.1 hempty] at h
  · rw [lex_append (hspaces _), h]
    rfl

def lexCode (code : List CodeLine) : Option (List Token) :=
  lexLines .rust (code.flatMap CodeLine.written)

theorem lexCode_append {s t : List CodeLine} {tokens more : List Token}
    (hs : lexCode s = some tokens) (ht : lexCode t = some more) :
    lexCode (s ++ t) = some (tokens ++ more) := by
  rw [lexCode, List.flatMap_append]
  exact lexLines_append hs ht

theorem lexCode_cons {line : CodeLine} {rest : List CodeLine} {tokens more : List Token}
    (hline : lexCode [line] = some tokens) (hrest : lexCode rest = some more) :
    lexCode (line :: rest) = some (tokens ++ more) :=
  lexCode_append hline hrest

theorem lexCode_map {α : Type} {items : List α} {line : α → CodeLine} {tokens : α → List Token}
    (h : ∀ item ∈ items, lexCode [line item] = some (tokens item)) :
    lexCode (items.map line) = some (items.flatMap tokens) := by
  induction items with
  | nil => rfl
  | cons item rest ih =>
      exact lexCode_cons (h item List.mem_cons_self)
        (ih fun other hother => h other (List.mem_cons_of_mem _ hother))

theorem lexCode_of_not_mem {depth : Nat} {text : String} {tokens : List Token}
    (htext : '\n' ∉ text.toList) (h : lex .rust text.toList = some tokens) :
    lexCode [⟨depth, text⟩] = some tokens := by
  have hwritten : [CodeLine.mk depth text].flatMap CodeLine.written =
      [indent depth text.toList] := by
    rw [List.flatMap_singleton, CodeLine.written_of_not_mem depth htext]
  rw [lexCode, hwritten, lexLines_cons (lex_indent depth h) rfl, List.append_nil]

theorem lexCode_parts {depth : Nat} {text : String} {tokens : List Token} (parts : List Part)
    (h : Readable parts) (htext : text.toList = parts.flatMap Part.text)
    (htokens : parts.flatMap Part.tokens = tokens) : lexCode [⟨depth, text⟩] = some tokens := by
  have hlex := lex_parts h
  have hnewline := newline_not_mem_parts h
  rw [← htext] at hlex hnewline
  rw [htokens] at hlex
  exact lexCode_of_not_mem hnewline hlex

/-- A line without names, numbers and literals. -/
theorem lexCode_rust (depth : Nat) {text : String} (h : Part.closed text = true) :
    lexCode [⟨depth, text⟩] = some (rust text) :=
  lexCode_parts [.code text] ⟨h, trivial⟩ (List.flatMap_singleton Part.text (.code text)).symm
    (List.flatMap_singleton Part.tokens (.code text))

theorem lex_renderCode {code : List CodeLine} {tokens : List Token}
    (h : lexCode code = some tokens) : lex .rust (renderCode code).toList = some tokens := by
  rw [renderCode, String.toList_ofList]
  exact lex_intercalate h

end TokenTables.Syntax
