import NetAdmin.Files.Place
import NetAdmin.Files.Store
import NetAdmin.Files.View
/-!
Operations on a tree of files. Reading and writing follow links; removing and
reading a link concern the link itself. `FileStore.tree` is the file store that
works on a tree.
-/

namespace NetAdmin
namespace Tree

/-! ## Looking -/

def readBytes (tree : Tree) (path : Path) : Except Refusal Utf8.Bytes := do
  match ← tree.place .node path with
  | .taken _ (.file content) => .ok content
  | .taken _ .directory => .error .isDirectory
  | .taken _ (.link _) => .error .tooManyLinks
  | .free _ => .error .notFound

def readText (tree : Tree) (path : Path) : Except Refusal Text := do
  match Utf8.decode? (← tree.readBytes path) with
  | some text => .ok text
  | none => .error .notText

def readLink (tree : Tree) (path : Path) : Except Refusal Path := do
  match ← tree.place .entry path with
  | .taken _ (.link target) => .ok target
  | .taken _ _ => .error .notLink
  | .free _ => .error .notFound

def childNames (tree : Tree) (location : Location) : List Text :=
  tree.nodes.filterMap fun entry =>
    if entry.1.dropLast = location then entry.1.getLast? else none

def list (tree : Tree) (path : Path) : Except Refusal (List Text) := do
  match ← tree.place .node path with
  | .taken location .directory => .ok (tree.childNames location)
  | .taken _ _ => .error .notDirectory
  | .free _ => .error .notFound

def isDirectory (tree : Tree) (path : Path) : Bool :=
  match tree.place .node path with
  | .ok (.taken _ .directory) => true
  | _ => false

def view (tree : Tree) : FileView where
  list := fun path => (tree.list path).mapError Refusal.fault
  readLink := fun path => (tree.readLink path).mapError Refusal.fault
  readText := fun path => (tree.readText path).mapError Refusal.fault

/-! ## Changing -/

def fileLocation (tree : Tree) (path : Path) : Except Refusal Location := do
  match ← tree.place .writing path with
  | .taken location (.file _) => .ok location
  | .free location => .ok location
  | .taken _ .directory => .error .isDirectory
  | .taken _ (.link _) => .error .tooManyLinks

def writeBytes (tree : Tree) (path : Path) (content : Utf8.Bytes) : Except Refusal Tree := do
  let location ← tree.fileLocation path
  .ok (tree.put location (.file content))

def appendBytes (tree : Tree) (path : Path) (content : Utf8.Bytes) : Except Refusal Tree := do
  let location ← tree.fileLocation path
  match tree.node? location with
  | some (.file previous) => .ok (tree.put location (.file (previous ++ content)))
  | _ => .ok (tree.put location (.file content))

/-- Copies a file. The target is emptied before the source is read, so a file
copied over itself ends up empty. -/
def copy (tree : Tree) (source target : Path) : Except Refusal Tree := do
  let content ← match tree.readBytes source with
    | .error .isDirectory => .error .notPlainFile
    | read => read
  let origin ← tree.fileLocation source
  let location ← tree.fileLocation target
  .ok (tree.put location (.file (if location = origin then [] else content)))

/-- Removes the file or link at a path. A slash behind its name would have it be
a directory, which this does not remove. -/
def remove (tree : Tree) (path : Path) : Except Refusal Tree := do
  match ← tree.placeOfName path with
  | .taken _ .directory => .error .isDirectory
  | .taken location _ =>
      if path.getLast? = some '/' then .error .notDirectory else .ok (tree.cut location)
  | .free _ => .error .notFound

def create (tree : Tree) (path : Path) (node : Node) : Except Refusal Tree := do
  match ← tree.placeOfName path with
  | .taken _ _ => .error .alreadyExists
  | .free location => .ok (tree.put location node)

def ensureDirectory (tree : Tree) (path : Path) : Except Refusal Unit × Tree :=
  match tree.create path .directory with
  | .ok tree => (.ok (), tree)
  | .error refusal => (if tree.isDirectory path then .ok () else .error refusal, tree)

def ensureWithin : Nat → Path → Tree → Except Refusal Unit × Tree
  | 0, _, tree => (.error .notFound, tree)
  | bound + 1, path, tree =>
      if path.isEmpty then (.ok (), tree)
      else
        match tree.ensureDirectory path with
        | (.error .notFound, tree) =>
            match Path.parent? path with
            | none => (.error .notFound, tree)
            | some parent =>
                match ensureWithin bound parent tree with
                | (.ok _, tree) => tree.ensureDirectory path
                | failed => failed
        | done => done

def ensureDirectories (tree : Tree) (path : Path) : Except Refusal Unit × Tree :=
  ensureWithin (path.length + 1) path tree

def plant (tree : Tree) (path : Path) (node : Node) : Except Refusal Tree := do
  let tree := (tree.ensureDirectories ((Path.parent? path).getD [])).2
  match node with
  | .directory => return (tree.ensureDirectories path).2
  | .file content => tree.writeBytes path content
  | .link _ => tree.create path node

/-! ## Surveys -/

/-- Everything below a path, through links, with the content of files. A link
that leads nowhere counts as an empty file; so does the link at which a path that
goes round in a circle has passed too many of them. The bound limits the depth. -/
def below (tree : Tree) : Nat → Path → List (Path × Option Utf8.Bytes)
  | 0, _ => []
  | bound + 1, path =>
      match tree.list path with
      | .error _ => []
      | .ok names => names.flatMap fun name =>
          let child := Path.join path name
          if tree.isDirectory child then (child ++ ['/'], none) :: below tree bound child
          else [(child, some ((tree.readBytes child).toOption.getD []))]

/-- Everything below a path, or the path itself if it leads to a file. Every level
makes a path longer, and none is longer than `pathLimit`, so no level is missed. -/
def survey (tree : Tree) (path : Path) : List (Path × Option Utf8.Bytes) :=
  if tree.isDirectory path then tree.below pathLimit path
  else
    match tree.readBytes path with
    | .ok content => [(path, some content)]
    | .error _ => []

end Tree

namespace FileStore

def changing (change : Tree → Except Refusal Tree) (tree : Tree) : Except Fault Unit × Tree :=
  match change tree with
  | .ok tree => (.ok (), tree)
  | .error refusal => (.error refusal.fault, tree)

def tree : FileStore Tree where
  read := fun path tree => ((tree.readText path).mapError Refusal.fault, tree)
  copy := fun source target => changing (·.copy source target)
  write := fun path text => changing (·.writeBytes path (Utf8.encode text))
  remove := fun path => changing (·.remove path)
  ensureDirectory := fun path tree =>
    match tree.ensureDirectories path with
    | (result, tree) => (result.mapError Refusal.fault, tree)

end FileStore
end NetAdmin
