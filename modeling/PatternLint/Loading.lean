import PatternLint.Catalog
import PatternLint.Snippet
import PatternLint.Workspace

/-! Configurations, catalogs and snippets read from files. -/

namespace PatternLint

def Config.load (w : Workspace) (p : Path) : Except ConfigError Config := do
  let text ← (w.readText p).mapError (.io p)
  Config.parse text

def Catalog.loadFile (w : Workspace) (options : PatternOptions) (p : Path) :
    Except CatalogError (List Rule) := do
  let text ← (w.readText p).mapError (.io p)
  Catalog.loadRules text options

structure SnippetError where
  path : Path
  cause : ReadError
  deriving Repr, DecidableEq

def SnippetError.message (e : SnippetError) : String :=
  "failed to read " ++ e.path.spelling ++ ": " ++ e.cause.message

def fileSnippet (w : Workspace) (p : Path) (line : Nat) : Except SnippetError String := do
  let text ← (w.readText p).mapError (SnippetError.mk p)
  return snippet text.toList line snippetContext

end PatternLint
