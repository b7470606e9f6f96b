import PullReview.Batch
import PullReview.Embedding.Store
import PullReview.Index
import PullReview.Repository

/-!
# Indexing a repository

The code files of a repository are read in batches. A file that cannot be read, or not be
extracted, is counted and passed over. If there is a store, it is cleared at the start and gets the
embeddings of every batch; what it makes of them is its own affair.
-/

namespace PullReview.Indexing

structure Progress where
  totalFiles : Nat := 0
  processedFiles : Nat := 0
  indexedSymbols : Nat := 0
  generatedEmbeddings : Nat := 0
  errors : Nat := 0
  failedFiles : List String := []
  deriving DecidableEq, Repr, Inhabited

/-- What a store is told. -/
inductive StoreCommand where
  | clear
  | write (batch : List (Symbol × List Float))

/-- Carries out a command. A batch that cannot be written is passed over. -/
def StoreCommand.run (store : Embedding.Store) : StoreCommand → Embedding.Store
  | clear => store.clear
  | write batch => (store.write batch).2

structure Settings where
  dialect : Python.Dialect := .tolerant
  batchSize : Int := 10
  embedder : Option Embedder := none
  hasStore : Bool := false

/-- The state of a run: the reports are the progress after each batch. -/
structure Run where
  index : Index
  progress : Progress
  reports : List Progress := []
  commands : List StoreCommand := []

/-- What became of a file: what it holds, unless it could not be read or extracted. -/
structure Outcome where
  path : String
  found : Option Extract.Extracted
  deriving DecidableEq, Repr

def Outcome.of (d : Python.Dialect) (r : Repository) (path : String) : Outcome where
  path := path
  found := (r.read path).bind fun content => (Extract.extract d path content).toOption

/-- Adds one file; also collects its symbols. -/
def addFile (state : Run × List Symbol) (file : Outcome) : Run × List Symbol :=
  let (run, batch) := state
  match file.found with
  | none =>
      ({ run with
          progress := { run.progress with
            errors := run.progress.errors + 1
            failedFiles := run.progress.failedFiles ++ [file.path] } },
        batch)
  | some found =>
      ({ run with
          index := run.index.add file.path found.symbols found.calls
          progress := { run.progress with
            processedFiles := run.progress.processedFiles + 1
            indexedSymbols := run.progress.indexedSymbols + found.symbols.length } },
        batch ++ found.symbols)

/-- Embeddings are made if there is a store to take them, and symbols to embed. -/
def embedBatch (s : Settings) (run : Run) (symbols : List Symbol) : Run :=
  match s.embedder with
  | some e =>
      if s.hasStore && !symbols.isEmpty then
        let batch := e.embedAll symbols
        { run with
          progress := { run.progress with
            generatedEmbeddings := run.progress.generatedEmbeddings + batch.length }
          commands := run.commands ++ [.write batch] }
      else run
  | none => run

def addBatch (s : Settings) (run : Run) (files : List Outcome) : Run :=
  let (run, symbols) := files.foldl addFile (run, [])
  let run := embedBatch s run symbols
  { run with reports := run.reports ++ [run.progress] }

/-- The files that are indexed: code in a language that can be read. -/
def codeFiles (r : Repository) : List String :=
  r.files.filter fun p => Path.isCode p && Extract.supports p

/-- The run before its first batch. -/
def start (s : Settings) (ix : Index) (total : Nat) : Run where
  index := ix
  progress := { totalFiles := total }
  commands := if s.embedder.isSome && s.hasStore then [.clear] else []

/-- The batches of a list of files, but for those after a run of `allowed` batches was
cancelled. -/
def batches (s : Settings) (allowed : Option Nat) (files : List Outcome) : List (List Outcome) :=
  let all := Batch.partsOf ((max 1 s.batchSize).toNat - 1) files.length files
  (allowed.map fun n => all.take n).getD all

/-- Indexes files on top of an index. -/
def indexFiles (s : Settings) (allowed : Option Nat) (ix : Index) (files : List Outcome) : Run :=
  (batches s allowed files).foldl (addBatch s) (start s ix files.length)

/-- Indexes the code files of a repository on top of an index. A run that is cancelled stops after
`allowed` batches. -/
def run (s : Settings) (r : Repository) (allowed : Option Nat) (ix : Index) : Run :=
  indexFiles s allowed ix ((codeFiles r).map (Outcome.of s.dialect r))

end PullReview.Indexing
