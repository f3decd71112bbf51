import CodeAtlas.Hint.Infer
import CodeAtlas.Query.Navigation

/-!
# Type hints at a position
-/

namespace CodeAtlas.Hint

/-- The type hint of the symbol under a cursor. -/
def ofPosition (workspace : Workspace) (position : Position) : Inquiry (Option TypeHint) := do
  match ← Navigation.symbolAt workspace position with
  | none => return none
  | some symbol =>
    let content ← Inquiry.get (.content symbol.location.path)
    return some (← Inquiry.ofExcept (Workspace.orUnparsed (Hint.of? symbol content)))

end CodeAtlas.Hint
