import TokenTables.Artifact.CHeader
import TokenTables.Artifact.RustModule
/-!
# Artifacts

An artifact is the text that a vocabulary is written as, in the form that the options ask for.  Only
a Rust module can fail to exist.
-/

namespace TokenTables

namespace Vocabulary

def cHeader (vocabulary : Vocabulary) (options : Options) : String :=
  (CHeader.ofVocabulary vocabulary options).render

def rustModule (vocabulary : Vocabulary) (options : Options) : Except VariantConflict String :=
  (RustModule.ofVocabulary? vocabulary options).map RustModule.render

def artifact (vocabulary : Vocabulary) (options : Options) : Except VariantConflict String :=
  match options.target with
  | .cHeader => .ok (vocabulary.cHeader options)
  | .rustModule => vocabulary.rustModule options

/-- What is reported before an artifact is written. -/
def artifactLog (vocabulary : Vocabulary) (options : Options) : List Log.Record :=
  [⟨.debug, "emitting " ++ toString vocabulary.size ++ " tokens as " ++ options.target.label ++
    " with prefix `" ++ options.stem ++ "`"⟩]

end Vocabulary

def grammarArtifact (grammar : String) (options : Options) : Except VariantConflict String :=
  (Vocabulary.ofGrammar grammar).artifact options

/-- What is reported on the way from a grammar to its artifact. -/
def grammarArtifactLog (grammar : String) (options : Options) : List Log.Record :=
  Vocabulary.readingLog grammar ++ (Vocabulary.ofGrammar grammar).artifactLog options

end TokenTables
