import NetAdmin.Invocation.Program
/-!
The program at a terminal. The files that a request concerns are read before it
is carried out, and those that it changed are written afterwards. No program can
be started and no service probed from here, so requests that need one fail, or
find nothing that answers.
-/

namespace NetAdmin

namespace Invocation

def files (invocation : Invocation) : List Path :=
  let registry := Registry.ofPath invocation.settings.registry
  match invocation.request with
  | .addTable _ | .deleteTable _ | .listTables _ => [registry.path, registry.backup]
  | .exclude mac | .reinstate mac =>
      [Exclusions.filePath ⟨invocation.settings.exclusions⟩ mac]
  | .change _ (some script) _ => [script]
  | _ => []

def filesOfArguments (environment : Environment) (arguments : List Text) : List Path :=
  match ofArguments environment arguments with
  | .ok invocation => invocation.files
  | .error _ => []

end Invocation

namespace Terminal

def bareTree : Tree where
  nodes := [(["here".toList], .directory)]
  work := ["here".toList]

def readVariables : IO Environment := do
  let found ← (Usage.commonOptions.filterMap (·.substitute)).mapM fun name => do
    return (← IO.getEnv (String.ofList name)).map fun value => (name, value.toList)
  return found.filterMap id

def loadDirectory (tree : Tree) (path : Path) : IO Tree := do
  match ← (IO.FS.realPath (String.ofList path)).toBaseIO with
  | .ok place => return if ← place.isDir then (tree.ensureDirectories path).2 else tree
  | .error _ => return tree

def loadFile (tree : Tree) (path : Path) : IO Tree := do
  let tree ← loadDirectory tree ((Path.parent? path).getD [])
  match ← (IO.FS.readBinFile (String.ofList path)).toBaseIO with
  | .ok content => return (tree.plant path (.file content.toList)).toOption.getD tree
  | .error _ => return tree

def saveFile (earlier later : Tree) (path : Path) : IO Unit := do
  let name := String.ofList path
  match (earlier.readBytes path).toOption, (later.readBytes path).toOption with
  | some _, none => IO.FS.removeFile name
  | none, none => return ()
  | previous, some content =>
      if previous ≠ some content then
        let directory := (Path.parent? path).getD []
        if !directory.isEmpty then IO.FS.createDirAll (String.ofList directory)
        IO.FS.writeBinFile name ⟨content.toArray⟩

def report (ending : Ending) : IO Unit :=
  match ending with
  | .failed failure => IO.eprintln ("Error: " ++ String.ofList failure.message)
  | _ => return ()

def run (arguments : List Text) : IO Nat := do
  let environment ← readVariables
  let paths := Invocation.filesOfArguments environment arguments
  let files ← paths.foldlM loadFile bareTree
  let outcome := Invocation.run environment arguments ⟨[], []⟩ (fun _ _ => false) ⟨files, []⟩
  for path in paths do saveFile files outcome.machine.files path
  IO.print (String.ofList outcome.stdout)
  report outcome.ending
  return outcome.ending.exitStatus

end Terminal
end NetAdmin

def main (arguments : List String) : IO UInt32 := do
  return UInt32.ofNat (← NetAdmin.Terminal.run (arguments.map String.toList))
