import DocumentApi.Matching
import DocumentApi.Pattern.Compilation

/-!
# The pattern engine

Patterns that match anywhere in a text and without regard to case, in linear time and without
looking around or referring to earlier groups.
-/

namespace DocumentApi.Pattern

/-- The engine that compiles patterns to programs. How it words what is wrong with a malformed
pattern is left open. -/
def engine (describe : String → String) : PatternEngine where
  compile text := (program describe text).map Program.occursIn

end DocumentApi.Pattern
