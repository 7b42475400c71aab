import NetAdmin.Text.Basic
/-!
File paths as texts. A path is a sequence of names with slashes between them;
repeated slashes and single dots inside it change nothing. Joining keeps the
text of both paths, so that a path is shown as its parts were given.
-/

namespace NetAdmin

abbrev Path := Text

namespace Path

def isAbsolute (path : Path) : Bool :=
  path.head? = some '/'

/-- The second path seen from the directory that the first one names. An
absolute path is seen from nowhere else, so it stays. -/
def join (base path : Path) : Path :=
  if isAbsolute path || base.isEmpty then path
  else if base.getLast? = some '/' then base ++ path
  else base ++ '/' :: path

example : join "a/".toList "b".toList = "a/b".toList := by decide
example : join "a".toList "/b".toList = "/b".toList := by decide

/-- The names of a path. A single dot counts only at the start of a relative
path, and the root of an absolute path is written as the empty name. -/
def names (path : Path) : List Text :=
  let parts := Text.pieces '/' path
  let kept := parts.filter fun part => !part.isEmpty && part != ['.']
  if isAbsolute path then [] :: kept
  else if parts.head? = some ['.'] then ['.'] :: kept
  else kept

def startsWith (start path : Path) : Bool :=
  (names start).isPrefixOf (names path)

def fileName? (path : Path) : Option Text :=
  match (names path).getLast? with
  | none => none
  | some name => if name.isEmpty || name = ['.'] || name = ['.', '.'] then none else some name

def parent? (path : Path) : Option Path :=
  match names path with
  | [] | [[]] => none
  | [] :: others => some ('/' :: Text.glue '/' others.dropLast)
  | parts => some (Text.glue '/' parts.dropLast)

example : startsWith "../../devices/virtual".toList "../../devices/virtual/net/lo".toList := by
  decide
example : ¬ startsWith "../../devices/virtual".toList "../../devices/virtual2".toList := by decide
example : fileName? "../../../0000:00:03.0/".toList = some "0000:00:03.0".toList := by decide
example : parent? "etc/conf.d/".toList = some "etc".toList := by decide

end Path
end NetAdmin
