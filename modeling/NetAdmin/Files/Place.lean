import NetAdmin.Error
import NetAdmin.Path
import NetAdmin.Text.Blank
import NetAdmin.Text.Utf8
/-!
A tree of directories, files and symbolic links, and the places that paths lead
to. A `Location` is the list of names from the root, so it passes through no
link. `Tree.place` follows a path name by name from the working directory, jumps
at links, and says what is there, or that the last name is free.
-/

namespace NetAdmin

inductive Node
  | directory
  | file (content : Utf8.Bytes)
  | link (target : Path)
  deriving DecidableEq, Repr

abbrev Location := List Text

/-- A file system: its nodes other than the root, in order of creation, and the
working directory from which relative paths start. -/
structure Tree where
  nodes : List (Location × Node)
  work : Location
  deriving DecidableEq, Repr

inductive Refusal
  | notFound
  | alreadyExists
  | notDirectory
  | isDirectory
  | notLink
  | nameTooLong
  | tooManyLinks
  | accessDenied
  | notPlainFile
  | nulInName
  | notText
  deriving DecidableEq, Repr

namespace Refusal

def text : Refusal → Text
  | .notFound => "No such file or directory (os error 2)".toList
  | .accessDenied => "Permission denied (os error 13)".toList
  | .alreadyExists => "File exists (os error 17)".toList
  | .notDirectory => "Not a directory (os error 20)".toList
  | .isDirectory => "Is a directory (os error 21)".toList
  | .notLink => "Invalid argument (os error 22)".toList
  | .nameTooLong => "File name too long (os error 36)".toList
  | .tooManyLinks => "Too many levels of symbolic links (os error 40)".toList
  | .notPlainFile =>
      "the source path is neither a regular file nor a symlink to a regular file".toList
  | .nulInName => "file name contained an unexpected NUL byte".toList
  | .notText => "stream did not contain valid UTF-8".toList

def fault : Refusal → Fault
  | .notFound => ⟨.notFound, text .notFound⟩
  | .accessDenied => ⟨.permissionDenied, text .accessDenied⟩
  | refusal => ⟨.other, refusal.text⟩

end Refusal

/-- What a path is followed for: the entry at its end, which may be a link; the
node that the path leads to through all links; or a file to be written. -/
inductive Aim
  | entry
  | node
  | writing
  deriving DecidableEq, Repr

inductive Place
  | taken (location : Location) (node : Node)
  | free (location : Location)
  deriving DecidableEq, Repr

namespace Tree

def node? (tree : Tree) (location : Location) : Option Node :=
  if location.isEmpty then some .directory else tree.nodes.lookup location

def put (tree : Tree) (location : Location) (node : Node) : Tree :=
  if (tree.nodes.lookup location).isSome then
    { tree with
      nodes := tree.nodes.map fun entry => if entry.1 = location then (location, node) else entry }
  else { tree with nodes := tree.nodes ++ [(location, node)] }

def cut (tree : Tree) (location : Location) : Tree :=
  { tree with nodes := tree.nodes.filter fun entry => entry.1 != location }

/-- The names to follow on a path. An empty name stands at the end for slashes
behind the last name. -/
def steps (path : Path) : List Text :=
  let names := (Text.pieces '/' path).filter (!·.isEmpty)
  if path.getLast? = some '/' then names ++ [[]] else names

def start (path : Path) (current : Location) : Location :=
  if Path.isAbsolute path then [] else current

def nameLimit : Nat := 255

def pathLimit : Nat := 4095

def linkLimit : Nat := 40

/-- Follows names from a directory up to the first link, at which `jump`
continues with the directory, the target of the link and the names behind it. A
slash behind the last name asks for a directory as a dot behind it would, but a
file to be written is refused at once. -/
def follow (tree : Tree) (aim : Aim)
    (jump : Location → Path → List Text → Except Refusal Place) :
    Location → List Text → Except Refusal Place
  | current, [] => .ok (.taken current .directory)
  | current, name :: names =>
      if name.isEmpty || name = ['.'] then follow tree aim jump current names
      else if name = ['.', '.'] then follow tree aim jump current.dropLast names
      else if aim = .writing && !names.isEmpty && names.all List.isEmpty then .error .isDirectory
      else if nameLimit < (Utf8.encode name).length then .error .nameTooLong
      else
        let location := current ++ [name]
        match tree.node? location with
        | none => if names.isEmpty then .ok (.free location) else .error .notFound
        | some .directory => follow tree aim jump location names
        | some (.file content) =>
            if names.isEmpty then .ok (.taken location (.file content)) else .error .notDirectory
        | some (.link target) =>
            if names.isEmpty && aim = .entry then .ok (.taken location (.link target))
            else jump current target names

def followLinks (tree : Tree) (aim : Aim) : Nat → Location → List Text → Except Refusal Place
  | 0 => follow tree aim fun _ _ _ => .error .tooManyLinks
  | links + 1 => follow tree aim fun current target names =>
      followLinks tree aim links (start target current) (steps target ++ names)

def place (tree : Tree) (aim : Aim) (path : Path) : Except Refusal Place :=
  if path.contains '\x00' then .error .nulInName
  else if path.isEmpty then .error .notFound
  else if pathLimit < (Utf8.encode path).length then .error .nameTooLong
  else followLinks tree aim linkLimit (start path tree.work) (steps path)

def withoutSlash (path : Path) : Path :=
  match Text.trimEndOf '/' path with
  | [] => path
  | rest => rest

def placeOfName (tree : Tree) (path : Path) : Except Refusal Place :=
  tree.place .entry (withoutSlash path)

end Tree
end NetAdmin
