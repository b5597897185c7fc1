import TokenTables.Main
import TokenTables.Nova
import TokenTables.Proofs.Text.Newline
import TokenTables.Proofs.Text.Letter
import TokenTables.Proofs.Grammar.RuleSplit
import TokenTables.Proofs.Grammar.RulePattern
import TokenTables.Proofs.Grammar.Extraction
import TokenTables.Proofs.Grammar.FixedSpelling
import TokenTables.Proofs.Syntax.Spelling
import TokenTables.Proofs.Syntax.CArray
import TokenTables.Proofs.Syntax.Part
import TokenTables.Proofs.Syntax.RustEnum
import TokenTables.Proofs.Naming.Ascii
import TokenTables.Proofs.Naming.CapitalWords
import TokenTables.Proofs.Artifact.Options
import TokenTables.Proofs.Artifact.Determined
import TokenTables.Proofs.Artifact.HeaderText
import TokenTables.Proofs.Artifact.ModuleText
import TokenTables.Proofs.Artifact.NameTable
import TokenTables.Proofs.Artifact.Enumeration
import TokenTables.Proofs.Artifact.FirstConflict
import TokenTables.Proofs.Artifact.SharedVariant
import TokenTables.Proofs.Artifact.Extension
import TokenTables.Proofs.Grammar.LineKind
import TokenTables.Proofs.Grammar.Layout
import TokenTables.Proofs.Grammar.RoundTrip
import TokenTables.Proofs.Files.Tree
import TokenTables.Proofs.Files.Change
import TokenTables.Proofs.Command.Outcome
import TokenTables.Proofs.Command.Lawful
import TokenTables.Proofs.Command.Frame
import TokenTables.Proofs.Command.Staleness
import TokenTables.Proofs.Command.CommandLine
import TokenTables.Proofs.Command.Relocation
import TokenTables.Proofs.Grammar.Separated
import TokenTables.Proofs.Grammar.QuotedTokens
import TokenTables.Proofs.Syntax.Strings
import TokenTables.Proofs.Syntax.Declaration
import TokenTables.Proofs.Artifact.StringTable
import TokenTables.Proofs.Naming.OneLine
import TokenTables.Proofs.Naming.JoinedWords
import TokenTables.Proofs.Artifact.Identifiers
