import TokenTables.Proofs.Artifact.Determined
import TokenTables.Proofs.Command.Frame
/-!
# Output files that are out of date

A run that checks ends well exactly if the output file holds the artifact of the grammar as it is
now.  After a run that wrote this file, that is so exactly if the grammar still has the same names and
the same lexemes, and then a run that prints or writes agrees with what the file holds.
-/

namespace TokenTables.Command

open Files

namespace Config

/-- Two runs have the same artifact and the same output file.  What they do with the artifact can
differ, and what they report. -/
structure SameTask (a b : Config) : Prop where
  root : a.root = b.root := by rfl
  grammar : a.grammar = b.grammar := by rfl
  output : a.output = b.output := by rfl
  stem : a.stem = b.stem := by rfl
  target : a.target = b.target := by rfl

namespace SameTask

variable {a b : Config}

theorem grammarFile_eq (h : a.SameTask b) : a.grammarFile = b.grammarFile := by
  rw [grammarFile, grammarFile, h.root, h.grammar]

theorem outputFile_eq (h : a.SameTask b) : a.outputFile = b.outputFile := by
  rw [outputFile, outputFile, h.root, h.output]

theorem options_eq (h : a.SameTask b) : a.options = b.options := by
  rw [options, options, source, source, h.grammar, h.stem, h.target]

theorem artifactOn_eq (h : a.SameTask b) (disk : Disk) : a.artifactOn disk = b.artifactOn disk := by
  unfold artifactOn artifactFrom
  rw [h.grammarFile_eq, h.options_eq]

end SameTask

theorem artifactOn_eq_ok_iff {config : Config} {disk : Disk} {grammar artifact : String}
    (h : disk.readText config.grammarFile = .ok grammar) :
    config.artifactOn disk = .ok artifact ↔
      grammarArtifact grammar config.options = .ok artifact := by
  rw [artifactOn, h, artifactFrom]
  cases grammarArtifact grammar config.options <;> simp [Except.mapError]

/-- The output file holds the artifact that a run would make. -/
def UpToDate (config : Config) (disk : Disk) : Prop :=
  ∃ artifact, config.artifactOn disk = .ok artifact ∧
    disk.readText config.outputFile = .ok artifact

theorem SameTask.upToDate_iff {a b : Config} (h : a.SameTask b) (disk : Disk) :
    a.UpToDate disk ↔ b.UpToDate disk := by
  rw [UpToDate, UpToDate, h.artifactOn_eq, h.outputFile_eq]

end Config

/-! ## Printing -/

namespace Machine

/-- There is room for the whole text. -/
def Accepts (machine : Machine) (text : String) : Prop :=
  ∀ bytes ∈ machine.capacity, machine.printed.utf8ByteSize + text.utf8ByteSize ≤ bytes

theorem print_of_accepts {machine : Machine} {text : String} (h : machine.Accepts text) :
    machine.print text = (.ok (), { machine with printed := machine.printed ++ text }) := by
  unfold print
  cases hcapacity : machine.capacity with
  | none => rfl
  | some bytes =>
      have hroom := h bytes hcapacity
      have hfits : text.utf8ByteSize ≤ bytes - machine.printed.utf8ByteSize := by omega
      simp [hfits]

end Machine

/-! ## Runs and a file that is up to date -/

section Runs

variable {config : Config} {machine : Machine}

/-- Making an artifact changes nothing of a machine but its log. -/
theorem artifactOf_logs (config : Config) (machine : Machine) :
    (Step.on (artifactOf config) machine).2.disk = machine.disk ∧
      (Step.on (artifactOf config) machine).2.printed = machine.printed ∧
      (Step.on (artifactOf config) machine).2.capacity = machine.capacity := by
  have hkeeps : Step.Keeps
      (fun machine : Machine => (machine.disk, machine.printed, machine.capacity))
      (artifactOf config) :=
    Step.keeps_artifactOf (fun _ _ => rfl) (fun _ _ => rfl) config
  simpa using hkeeps machine

theorem runOn_check_eq_ok_iff (hcheck : config.check = true) (hstdout : config.stdout = false) :
    (runOn config machine).1 = .ok () ↔ config.UpToDate machine.disk := by
  unfold Config.UpToDate
  cases hartifact : config.artifactOn machine.disk with
  | error failure => simp [runOn, (on_run_of_no_artifact Machine.lawful hartifact).1]
  | ok artifact =>
      have hin : config.artifactIn machine = .ok artifact := hartifact
      rw [runOn, on_run_of_ok hin, deliver_of_check hcheck hstdout, on_compare_eq_ok_iff]
      change (Step.on (artifactOf config) machine).2.disk.readText config.outputFile = _ ↔ _
      rw [(artifactOf_logs config machine).1]
      simp

theorem runOn_print_of_accepts (hstdout : config.stdout = true) {artifact : String}
    (hartifact : config.artifactOn machine.disk = .ok artifact) (hroom : machine.Accepts artifact) :
    (runOn config machine).1 = .ok () ∧
      (runOn config machine).2.printed = machine.printed ++ artifact := by
  have hin : config.artifactIn machine = .ok artifact := hartifact
  obtain ⟨-, hprinted, hcapacity⟩ := artifactOf_logs config machine
  have hafter : (Step.on (artifactOf config) machine).2.Accepts artifact := by
    unfold Machine.Accepts
    rw [hprinted, hcapacity]
    exact hroom
  have hprint : (Host.print artifact : StateM Machine _).run (Step.on (artifactOf config) machine).2 =
      (Step.on (artifactOf config) machine).2.print artifact := rfl
  rw [runOn, on_run_of_ok hin, deliver_of_print hstdout, Step.on_attempt, hprint,
    Machine.print_of_accepts hafter, hprinted]
  exact ⟨rfl, rfl⟩

/-- After a run that writes, the output file holds the artifact of the disk before.  The grammar need
not be there any more: it can be the file that was written. -/
theorem readText_runOn_write (hcheck : config.check = false) (hstdout : config.stdout = false)
    (hok : (runOn config machine).1 = .ok ()) :
    ∃ artifact, config.artifactOn machine.disk = .ok artifact ∧
      (runOn config machine).2.disk.readText config.outputFile = .ok artifact := by
  obtain ⟨artifact, hartifact, hwrites⟩ :=
    exists_writesFile_of_on_run_ok Machine.lawful hcheck hstdout hok
  exact ⟨artifact, hartifact, Disk.readText_eq_ok_iff.2 hwrites.holds⟩

/-- To write a file that is up to date once more changes no file. -/
theorem find?_runOn_write_of_upToDate (hcheck : config.check = false)
    (hstdout : config.stdout = false) (hfresh : config.UpToDate machine.disk)
    (hok : (runOn config machine).1 = .ok ()) (location : Location) (content : Content) :
    (runOn config machine).2.disk.find? location = some (.file content) ↔
      machine.disk.find? location = some (.file content) := by
  obtain ⟨artifact, hartifact, hread⟩ := hfresh
  obtain ⟨again, hagain, hwrites⟩ :=
    exists_writesFile_of_on_run_ok Machine.lawful hcheck hstdout hok
  obtain rfl : again = artifact := Except.ok.inj (hagain.symm.trans hartifact)
  exact hwrites.find?_eq_file_iff (Disk.readText_eq_ok_iff.1 hread) location content

end Runs

/-! ## Another grammar -/

/-- A file with the artifact of one grammar is up to date with another grammar exactly if that one has
an artifact, the same names and the same lexemes. -/
theorem upToDate_iff_of_readText {config : Config} {disk : Disk} {g h artifact : String}
    (hartifact : grammarArtifact g config.options = .ok artifact)
    (houtput : disk.readText config.outputFile = .ok artifact)
    (hgrammar : disk.readText config.grammarFile = .ok h) :
    config.UpToDate disk ↔ (∃ text, grammarArtifact h config.options = .ok text) ∧
      (Vocabulary.ofGrammar h).rules.map (·.name) = (Vocabulary.ofGrammar g).rules.map (·.name) ∧
      (Vocabulary.ofGrammar h).keywordLexemes = (Vocabulary.ofGrammar g).keywordLexemes := by
  have hfresh : config.UpToDate disk ↔ grammarArtifact h config.options = .ok artifact := by
    unfold Config.UpToDate
    simp [houtput, Config.artifactOn_eq_ok_iff hgrammar]
  rw [hfresh]
  constructor
  · intro hsame
    have hnames := Vocabulary.not_mem_newline_names_append h g
    have hlexemes := Vocabulary.not_mem_newline_keywordLexemes_append h g
    exact ⟨⟨artifact, hsame⟩, (Vocabulary.artifact_eq_iff hnames hlexemes hsame hartifact).1 rfl⟩
  · rintro ⟨-, hnames, hlexemes⟩
    calc
      grammarArtifact h config.options = grammarArtifact g config.options :=
        Vocabulary.artifact_congr hnames hlexemes config.options
      _ = .ok artifact := hartifact

/-- A check is exact.  After a run that wrote the artifact of one grammar, where the output file still
holds it, a check ends well exactly if the grammar that is there now has an artifact, with the same
names and the same lexemes.  Then what is printed is what the file holds, and to write it once more
changes no file. -/
theorem runOn_check_exact {config check : Config} (start later : Machine) {g h : String}
    (hwrite : config.check = false ∧ config.stdout = false)
    (htask : config.SameTask check) (hcheck : check.check = true ∧ check.stdout = false)
    (hbefore : start.disk.readText config.grammarFile = .ok g)
    (hrun : (runOn config start).1 = .ok ())
    (houtput : later.disk.readText config.outputFile =
      (runOn config start).2.disk.readText config.outputFile)
    (hafter : later.disk.readText config.grammarFile = .ok h) :
    ((runOn check later).1 = .ok () ↔
      (∃ text, grammarArtifact h config.options = .ok text) ∧
        (Vocabulary.ofGrammar h).rules.map (·.name) =
          (Vocabulary.ofGrammar g).rules.map (·.name) ∧
        (Vocabulary.ofGrammar h).keywordLexemes = (Vocabulary.ofGrammar g).keywordLexemes) ∧
    ((runOn check later).1 = .ok () →
      ∃ text, later.disk.readText config.outputFile = .ok text ∧
        (∀ print : Config, config.SameTask print → print.stdout = true → later.Accepts text →
          (runOn print later).1 = .ok () ∧
            (runOn print later).2.printed = later.printed ++ text) ∧
        ∀ again : Config, config.SameTask again → again.check = false → again.stdout = false →
          (runOn again later).1 = .ok () → ∀ location content,
            (runOn again later).2.disk.find? location = some (.file content) ↔
              later.disk.find? location = some (.file content)) := by
  obtain ⟨artifact, hartifact, hwritten⟩ := readText_runOn_write hwrite.1 hwrite.2 hrun
  rw [Config.artifactOn_eq_ok_iff hbefore] at hartifact
  rw [hwritten] at houtput
  have hfresh : (runOn check later).1 = .ok () ↔ config.UpToDate later.disk := by
    rw [runOn_check_eq_ok_iff hcheck.1 hcheck.2, htask.upToDate_iff]
  rw [hfresh]
  refine ⟨upToDate_iff_of_readText hartifact houtput hafter, fun hnow => ?_⟩
  refine ⟨artifact, houtput, ?_, ?_⟩
  · intro print hprint hstdout hroom
    apply runOn_print_of_accepts hstdout _ hroom
    obtain ⟨same, hsame, hread⟩ := hnow
    obtain rfl : same = artifact := Except.ok.inj (hread.symm.trans houtput)
    rw [← hprint.artifactOn_eq, hsame]
  · intro again hagain hno_check hno_stdout hok
    exact find?_runOn_write_of_upToDate hno_check hno_stdout ((hagain.upToDate_iff _).1 hnow) hok

/-- The small machine after a run, with another grammar then. -/
def rewrittenMachine (grammar : String) : Machine :=
  let written := (runOn {} smallMachine).2
  { written with disk := written.disk.insert ["nova.g4"] (.file (.text grammar)) }

/-- Another layout of the grammar leaves the output file up to date.  Another keyword, another name and
a token less do not. -/
theorem runOn_check_rewrittenMachine :
    let relaid := rewrittenMachine "// keywords\n LET:'let';"
    let check : Config := { check := true }
    (runOn {} smallMachine).1 = .ok () ∧
      (runOn check relaid).1 = .ok () ∧
      (∃ text, relaid.disk.readText ({} : Config).outputFile = .ok text ∧
        (runOn { stdout := true } relaid).2.printed = relaid.printed ++ text) ∧
      (∀ location content,
        (runOn {} relaid).2.disk.find? location = some (.file content) ↔
          relaid.disk.find? location = some (.file content)) ∧
      ∀ other ∈ ["LET : 'left' ;", "LED : 'let' ;", "// keywords"],
        (Vocabulary.ofGrammar other).skipped = 0 ∧
          (runOn check (rewrittenMachine other)).1 ≠ .ok () := by
  intro relaid check
  have hrun : (runOn {} smallMachine).1 = .ok () := by decide +kernel
  have htask : ({} : Config).SameTask check := {}
  have hrelaid := runOn_check_exact smallMachine relaid (g := "LET : 'let' ;")
    (h := "// keywords\n LET:'let';") ⟨rfl, rfl⟩ htask ⟨rfl, rfl⟩
    (by decide +kernel) hrun (by decide +kernel) (by decide +kernel)
  have hok : (runOn check relaid).1 = .ok () :=
    hrelaid.1.2 ⟨exists_eq_ok_of_isOk (by decide +kernel), by decide +kernel⟩
  obtain ⟨text, hread, hprint, hagain⟩ := hrelaid.2 hok
  have hroom : relaid.Accepts text := by
    have hcapacity : relaid.capacity = none := by decide +kernel
    simp [Machine.Accepts, hcapacity]
  refine ⟨hrun, hok, ⟨text, hread, (hprint { stdout := true } {} rfl hroom).2⟩,
    hagain {} {} rfl rfl (by decide +kernel), ?_⟩
  intro other hother
  have hskipped : (Vocabulary.ofGrammar other).skipped = 0 := by
    revert other
    decide +kernel
  have hreads : (rewrittenMachine other).disk.readText ({} : Config).outputFile =
        (runOn {} smallMachine).2.disk.readText ({} : Config).outputFile ∧
      (rewrittenMachine other).disk.readText ({} : Config).grammarFile = .ok other := by
    revert other
    decide +kernel
  have hdiffers : ¬((Vocabulary.ofGrammar other).rules.map (·.name) =
        (Vocabulary.ofGrammar "LET : 'let' ;").rules.map (·.name) ∧
      (Vocabulary.ofGrammar other).keywordLexemes =
        (Vocabulary.ofGrammar "LET : 'let' ;").keywordLexemes) := by
    revert other
    decide +kernel
  have hexact := runOn_check_exact smallMachine (rewrittenMachine other) (g := "LET : 'let' ;")
    (h := other) ⟨rfl, rfl⟩ htask ⟨rfl, rfl⟩ (by decide +kernel) hrun hreads.1 hreads.2
  exact ⟨hskipped, fun hfresh => hdiffers (hexact.1.1 hfresh).2⟩

end TokenTables.Command
