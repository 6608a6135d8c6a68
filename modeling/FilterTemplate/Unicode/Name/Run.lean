/-!
# Runs of named characters
-/

namespace FilterTemplate.Unicode

/-- Characters that follow each other and whose names start alike. -/
structure NameRun where
  first : Nat
  shared : String
  /-- What the names go on with, in order, with semicolons between them. -/
  others : List String

end FilterTemplate.Unicode
