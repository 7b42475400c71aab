import NetAdmin.Error
import NetAdmin.Path
/-!
Looking at files without changing them.
-/

namespace NetAdmin

structure FileView where
  /-- The names in a directory, in some order. -/
  list : Path → Except Fault (List Text)
  readLink : Path → Except Fault Path
  readText : Path → Except Fault Text

end NetAdmin
