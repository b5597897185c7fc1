import TokenTables.Proofs.Command.Frame
/-!
# Grammars in another place

The artifact of a grammar names the file it comes from and not the place where that file lies.  So two
runs that read the same text from files of one name come to the same artifact, or fail for the same
reason.
-/

namespace TokenTables

/-! ## The name of a file in a path -/

namespace Files

/-- A name that a file can have: some text without slashes, other than the one dot and the two dots. -/
structure IsFileName (name : String) : Prop where
  not_empty : name ≠ ""
  no_slash : '/' ∉ name.toList
  not_dot : name ≠ "."
  not_dots : name ≠ ".."

/-- What can stand around the name of a file in the text of a path: a directory that ends in a slash,
and after the name slashes and single dots behind slashes. -/
structure Surroundings where
  directory : String := ""
  endings : List String := []
  directory_ends : directory = "" ∨ ∃ front, directory = front ++ "/" := by simp
  endings_idle : ∀ ending ∈ endings, ending = "/" ∨ ending = "/." := by simp

/-- The text of a path with the name in these surroundings. -/
def Surroundings.around (surroundings : Surroundings) (name : String) : String :=
  surroundings.directory ++ name ++ String.join surroundings.endings

namespace Path

theorem splitOn_append_slash (s t : List Char) :
    (s ++ '/' :: t).splitOn '/' = s.splitOn '/' ++ t.splitOn '/' := by
  simp only [List.splitOn_eq_splitOnP]
  exact List.splitOnP_append_cons s t (beq_self_eq_true '/')

/-- The last segment that leads somewhere is the name of the file. -/
theorem fileName?_ofSegments {name : String} (h : IsFileName name) (front : List String)
    {idle : List String} (hidle : ∀ segment ∈ idle, isIdle segment = true) :
    (ofSegments (front ++ name :: idle)).fileName? = some name := by
  have hname : isIdle name = false := by simp [isIdle, h.not_empty, h.not_dot]
  cases front with
  | nil =>
      have hnone : idle.reverse.dropWhile isIdle = [] := by
        rw [List.dropWhile_eq_nil_iff]
        exact fun segment hsegment => hidle segment (List.mem_reverse.1 hsegment)
      simp [ofSegments, fileName?, hnone, hname, h.not_dots]
  | cons first rest =>
      have hlast : (rest ++ name :: idle).reverse.dropWhile isIdle = name :: rest.reverse := by
        have hreverse : ∀ segment ∈ idle.reverse, isIdle segment = true :=
          fun segment hsegment => hidle segment (List.mem_reverse.1 hsegment)
        rw [List.reverse_append, List.reverse_cons, List.append_assoc,
          List.dropWhile_append_of_pos hreverse, List.singleton_append,
          List.dropWhile_cons_of_neg (by simp [hname])]
      rw [List.cons_append, ofSegments, fileName?, hlast]
      simp [h.not_dots]

/-- Slashes and dots after a name are segments that lead nowhere. -/
theorem exists_splitOn_endings {endings : List String}
    (h : ∀ ending ∈ endings, ending = "/" ∨ ending = "/.") {piece : List Char}
    (hpiece : '/' ∉ piece) :
    ∃ idle, (piece ++ (String.join endings).toList).splitOn '/' = piece :: idle ∧
      ∀ segment ∈ idle, isIdle (String.ofList segment) = true := by
  induction endings generalizing piece with
  | nil =>
      refine ⟨[], ?_, List.forall_mem_nil _⟩
      simpa using List.splitOn_eq_singleton hpiece
  | cons ending rest ih =>
      obtain ⟨dot, hending, hdot, hidle⟩ : ∃ dot : List Char, ending.toList = '/' :: dot ∧
          '/' ∉ dot ∧ isIdle (String.ofList dot) = true := by
        rcases h ending List.mem_cons_self with rfl | rfl
        · exact ⟨[], by decide, by decide, by decide⟩
        · exact ⟨['.'], by decide, by decide, by decide⟩
      obtain ⟨idle, hsplit, hrest⟩ := ih (fun e he => h e (List.mem_cons_of_mem _ he)) hdot
      refine ⟨dot :: idle, ?_, List.forall_mem_cons.2 ⟨hidle, hrest⟩⟩
      rw [String.join_cons, String.toList_append, hending, List.cons_append, splitOn_append_slash,
        hsplit, List.splitOn_eq_singleton hpiece]
      rfl

theorem exists_segments_around {name : String} (h : IsFileName name) (surroundings : Surroundings) :
    ∃ front idle, ofText (surroundings.around name) = ofSegments (front ++ name :: idle) ∧
      ∀ segment ∈ idle, isIdle segment = true := by
  obtain ⟨idle, hsplit, hidle⟩ := exists_splitOn_endings surroundings.endings_idle h.no_slash
  have hmapped : ∀ segment ∈ idle.map String.ofList, isIdle segment = true :=
    List.forall_mem_map.2 hidle
  rcases surroundings.directory_ends with hnone | ⟨front, hfront⟩
  · have htext : (surroundings.around name).toList =
        name.toList ++ (String.join surroundings.endings).toList := by
      rw [Surroundings.around, hnone, String.empty_append, String.toList_append]
    refine ⟨[], idle.map String.ofList, ?_, hmapped⟩
    rw [ofText, htext, hsplit, List.map_cons, String.ofList_toList]
    rfl
  · have htext : (surroundings.around name).toList =
        front.toList ++ '/' :: (name.toList ++ (String.join surroundings.endings).toList) := by
      rw [Surroundings.around, hfront, String.toList_append, String.toList_append,
        String.toList_append, List.append_assoc, List.append_assoc]
      rfl
    refine ⟨(front.toList.splitOn '/').map String.ofList, idle.map String.ofList, ?_, hmapped⟩
    rw [ofText, htext, splitOn_append_slash, hsplit, List.map_append, List.map_cons,
      String.ofList_toList]

theorem fileName?_around {name : String} (h : IsFileName name) (surroundings : Surroundings) :
    (ofText (surroundings.around name)).fileName? = some name := by
  obtain ⟨front, idle, hsegments, hidle⟩ := exists_segments_around h surroundings
  rw [hsegments]
  exact fileName?_ofSegments h front hidle

end Path

end Files

/-! ## Artifacts of one text -/

namespace Command

open Files

theorem Config.source_around {config : Config} {name : String} (h : IsFileName name)
    {surroundings : Surroundings} (hgrammar : config.grammar = .ofText (surroundings.around name)) :
    config.source = name := by
  rw [source, hgrammar, Path.fileName?_around h]
  rfl

/-- Where a grammar lies does not matter to what is made of it.  Two configurations with one file name
for the grammar, whatever the directories and the roots are, name that file as the source; and if they
find the same text there, they make the same artifact of it or fail for the same reason. -/
theorem artifactOf_relocated {a b : Config} {name : String} {p q : Surroundings}
    (hname : IsFileName name) (ha : a.grammar = .ofText (p.around name))
    (hb : b.grammar = .ofText (q.around name)) (hstem : a.stem = b.stem)
    (htarget : a.target = b.target) :
    a.source = name ∧ b.source = name ∧
      ∀ (here there : Machine) (grammar : String),
        here.disk.readText a.grammarFile = .ok grammar →
        there.disk.readText b.grammarFile = .ok grammar →
        (∃ artifact, (Step.on (artifactOf a) here).1 = .ok artifact ∧
          (Step.on (artifactOf b) there).1 = .ok artifact) ∨
        ∃ reason, (Step.on (artifactOf a) here).1 = .error (.makeArtifact a.grammarFile reason) ∧
          (Step.on (artifactOf b) there).1 = .error (.makeArtifact b.grammarFile reason) := by
  have hsource_a := Config.source_around hname ha
  have hsource_b := Config.source_around hname hb
  refine ⟨hsource_a, hsource_b, fun here there grammar hhere hthere => ?_⟩
  have hoptions : a.options = b.options := by
    rw [Config.options, Config.options, hsource_a, hsource_b, hstem, htarget]
  have hartifact_a : a.artifactIn here = a.artifactFrom (.ok grammar) :=
    congrArg a.artifactFrom hhere
  have hartifact_b : b.artifactIn there = b.artifactFrom (.ok grammar) :=
    congrArg b.artifactFrom hthere
  rw [on_artifactOf_fst, on_artifactOf_fst, hartifact_a, hartifact_b, Config.artifactFrom,
    Config.artifactFrom, hoptions]
  cases grammarArtifact grammar b.options with
  | ok artifact => exact Or.inl ⟨artifact, rfl, rfl⟩
  | error reason => exact Or.inr ⟨reason, rfl, rfl⟩

/-- One grammar in the working directory and in a library, and a path with slashes and dots behind its
name. -/
theorem artifactOf_relocated_library :
    let a : Config := {}
    let b : Config :=
      { root := .ofText "/srv", grammar := .ofText "/lib/./nova.g4", output := .ofText "x.h"
        check := true }
    let c : Config := { grammar := .ofText "../nova.g4//./" }
    let library : Machine :=
      { disk := ⟨[(["lib"], .directory), (["lib", "nova.g4"], .file (.text "LET : 'let' ;"))], []⟩ }
    IsFileName "nova.g4" ∧
      smallMachine.disk.readText a.grammarFile = .ok "LET : 'let' ;" ∧
      library.disk.readText b.grammarFile = .ok "LET : 'let' ;" ∧
      b.source = "nova.g4" ∧ c.source = "nova.g4" ∧
      ∃ artifact, (Step.on (artifactOf a) smallMachine).1 = .ok artifact ∧
        (Step.on (artifactOf b) library).1 = .ok artifact := by
  intro a b c library
  have hname : IsFileName "nova.g4" := ⟨by decide, by decide, by decide, by decide⟩
  have hhere : smallMachine.disk.readText a.grammarFile = .ok "LET : 'let' ;" := by decide +kernel
  have hthere : library.disk.readText b.grammarFile = .ok "LET : 'let' ;" := by decide +kernel
  have hok : (Step.on (artifactOf a) smallMachine).1.isOk = true := by decide +kernel
  let q : Surroundings := { directory := "/lib/./", directory_ends := Or.inr ⟨"/lib/.", rfl⟩ }
  let r : Surroundings :=
    { directory := "../", endings := ["/", "/.", "/"], directory_ends := Or.inr ⟨"..", rfl⟩ }
  have ha : "nova.g4" = ({} : Surroundings).around "nova.g4" := by decide
  have hb : "/lib/./nova.g4" = q.around "nova.g4" := by decide
  have hc : "../nova.g4//./" = r.around "nova.g4" := by decide
  obtain ⟨-, hsource, hsame⟩ := artifactOf_relocated (a := a) (b := b) hname
    (congrArg Path.ofText ha) (congrArg Path.ofText hb) rfl rfl
  obtain ⟨-, hdotted, -⟩ := artifactOf_relocated (a := a) (b := c) hname
    (congrArg Path.ofText ha) (congrArg Path.ofText hc) rfl rfl
  refine ⟨hname, hhere, hthere, hsource, hdotted, ?_⟩
  rcases hsame smallMachine library _ hhere hthere with hartifact | ⟨reason, hreason, -⟩
  · exact hartifact
  · rw [hreason] at hok
    cases hok

end Command

end TokenTables
