import PullReview.FileTree

/-!
# Repositories

Where source files come from: a list of paths and a way to read them.
-/

namespace PullReview

structure Repository where
  files : List String
  read : String → Option String

namespace Repository

/-- Directories that hold no sources of their own. -/
def skippedDirectories : List String :=
  [".venv", "venv", "__pycache__", "node_modules", ".git", "site-packages", ".tox",
    ".pytest_cache", "build", "dist", "target", ".mypy_cache", ".ruff_cache", "htmlcov", ".eggs",
    ".reviewgraph", "lancedb"]

/-- The files below a directory, but for those in skipped directories. -/
def ofTree (t : FileTree) (root : List String) : Repository where
  files :=
    ((t.below root).filter fun p =>
      t.isFile (root ++ p) && !p.any skippedDirectories.contains).map ("/".intercalate ·)
  read path := t.readLossy? (root ++ Path.components path)

end Repository

end PullReview
