import NetAdmin.Files.Snapshot
import NetAdmin.Registry.Entry
/-!
Editing the registry of route tables. Adding a table puts an entry with the
first free number at the end; deleting removes the lines whose second word is
the name and keeps all others as they are. A file that does not end with a
newline still does not end with one afterwards. Every edit goes through a
snapshot, so the file holds the new content or the old one.
-/

namespace NetAdmin

structure Registry where
  path : Path
  backup : Path
  deriving DecidableEq, Repr

namespace Registry

def ofPath (path : Path) : Registry where
  path := path
  backup := Settings.backupOf path

/-! ## What edits make of the text -/

def withEntry (text : Text) (entry : TableEntry) : Text :=
  if text.isEmpty || text.getLast? = some '\n' then text ++ entry.display ++ ['\n']
  else text ++ '\n' :: entry.display

/-- Whether a line registers the name: it is no comment and has the name as its
second word. -/
def registers (name line : Text) : Bool :=
  (Text.trimStart line).head? != some '#' && (Text.words line).tail.head? == some name

/-- The text without the lines that register a name. If the last line goes and
had no newline, the line that is last then loses its newline. -/
def withoutName (text name : Text) : Text :=
  let lines := Text.chunks text
  let kept := (lines.filter fun line => !registers name line).flatten
  let lastGoes := (lines.getLast?.map (registers name)).getD false
  if lastGoes && text.getLast? != some '\n' && kept.getLast? = some '\n' then kept.dropLast
  else kept

def countName (text name : Text) : Nat :=
  (Text.chunks text).countP (registers name)

example : withoutName "1 a\n2 b".toList "b".toList = "1 a".toList := by decide
example : withoutName "1 a\n\n2 b\n".toList "a".toList = "\n2 b\n".toList := by decide

/-! ## Operations on the file -/

variable {σ : Type} (files : FileStore σ) (registry : Registry)

def readText : StoreM σ Text :=
  FileStore.lift (Error.ofFault · "read route table registry".toList) (files.read registry.path)

def commit (contents : Text) : StoreM σ Unit :=
  files.commitWithBackup registry.path registry.backup contents

def entries : StoreM σ (List TableEntry) := do
  MonadExcept.ofExcept (TableEntry.ofRegistry (← readText files registry))

def find (name : Text) : StoreM σ (Option TableEntry) := do
  return (← entries files registry).find? (·.name == name)

def add (name : Text) : StoreM σ TableEntry := do
  let text ← readText files registry
  let registered ← MonadExcept.ofExcept (TableEntry.ofRegistry text)
  match TableEntry.firstFree registered with
  | none => throw (.noFreeNumber registry.path)
  | some number => do
      commit files registry (withEntry text ⟨number, name⟩)
      return ⟨number, name⟩

/-- Removes every entry with a name, and says how many there were. The lines
need not be readable as entries. -/
def delete (name : Text) : StoreM σ Nat := do
  let text ← readText files registry
  commit files registry (withoutName text name)
  return countName text name

end Registry
end NetAdmin
