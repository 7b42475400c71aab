import NetAdmin.Files.Store
import NetAdmin.Text.Blank
import NetAdmin.Text.Quoted
import NetAdmin.Text.UpperCase
/-!
Excluding devices from a network manager. The manager leaves a device alone
while its configuration directory holds a file that names the hardware address
of the device. The name of that file is made of the address, without regard to
letter case.
-/

namespace NetAdmin

structure Exclusions where
  directory : Path
  deriving DecidableEq, Repr

namespace Exclusions

def fileName (mac : Text) : Text :=
  Text.replaced ':' '_' (Text.upper mac) ++ ".conf".toList

def fileContent (mac : Text) : Text :=
  "[keyfile]\nunmanaged-devices+=mac".toList ++ mac ++ ['\n']

variable (exclusions : Exclusions)

def filePath (mac : Text) : Path :=
  Path.join exclusions.directory (fileName mac)

variable {σ : Type} (files : FileStore σ)

def exclude (mac : Text) : StoreM σ Path := do
  if Text.isAllBlank mac then throw (.blankMac mac)
  FileStore.lift (Error.ofFault · "create NetworkManager conf dir".toList)
    (files.ensureDirectory exclusions.directory)
  FileStore.lift (Error.ofFault · "write NetworkManager exclusion".toList)
    (files.write (exclusions.filePath mac) (fileContent mac))
  return exclusions.filePath mac

def reinstate (mac : Text) : StoreM σ Bool := fun state =>
  match files.remove (exclusions.filePath mac) state with
  | (.ok _, state) => (.ok true, state)
  | (.error cause, state) =>
      if cause.kind = .notFound then (.ok false, state)
      else (.error (.ofFault cause "remove NetworkManager exclusion".toList), state)

end Exclusions
end NetAdmin
