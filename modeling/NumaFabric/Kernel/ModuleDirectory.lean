import NumaFabric.Kernel.Cache
import NumaFabric.Kernel.Listing
import NumaFabric.Text.Utf8

namespace NumaFabric

open NumaFabric.Text

inductive FileEntry where
  | file (bytes : List UInt8)
  | directory

structure ModuleDirectory where
  path : String
  entries : List (String × FileEntry)

structure DeviceModule where
  name : String
  path : String
  source : String
  entries : List String

structure DeviceFunction where
  module : String
  name : String
deriving DecidableEq

namespace ModuleDirectory

def join (directory file : String) : String :=
  if directory.isEmpty then file
  else if directory.toList.getLast? = some '/' then directory ++ file
  else directory ++ "/" ++ file

def fileName (module : String) : String := module ++ ".ptx"

/-- The path of a module's file, unless the name is empty, hidden or leads to another directory. -/
def modulePath (directory module : String) : Except CacheError String :=
  let cs := module.toList
  if cs.isEmpty || cs.contains '/' || cs.contains '\\' || cs.head? == some '.' then
    .error (.invalidModuleName module)
  else .ok (join directory (fileName module))

/-- The longest name of a file, in bytes. -/
def maxFileName : Nat := 255

def loadModule (d : ModuleDirectory) (module : String) : Except CacheError DeviceModule := do
  let path ← modulePath d.path module
  let file := fileName module
  if file.toList.contains '\x00' then
    throw (.moduleLoad module "file name contained an unexpected NUL byte")
  if (utf8Encode file).length > maxFileName then
    throw (.moduleLoad module "File name too long (os error 36)")
  match d.entries.lookup file with
  | none => throw (.moduleNotFound module path)
  | some .directory => throw (.moduleLoad module "Is a directory (os error 21)")
  | some (.file bytes) =>
    match utf8Decode? bytes with
    | none => throw (.moduleLoad module "stream did not contain valid UTF-8")
    | some source =>
      return ⟨module, path, source, (Listing.entries source.toList).map String.ofList⟩

def resolve (m : DeviceModule) (function : String) : Except CacheError DeviceFunction :=
  if m.entries.contains function then .ok ⟨m.name, function⟩
  else .error (.functionNotFound m.name function)

/-- Modules come from the directory as it is at the time of the call. -/
def loader : Loader ModuleDirectory DeviceModule DeviceFunction where
  loadModule name d := (d.loadModule name, d)
  resolve m name d := (resolve m name, d)

def write (d : ModuleDirectory) (file : String) (entry : FileEntry) : ModuleDirectory :=
  { d with entries := (file, entry) :: d.entries.filter fun e => e.1 != file }

def delete (d : ModuleDirectory) (file : String) : ModuleDirectory :=
  { d with entries := d.entries.filter fun e => e.1 != file }

end ModuleDirectory

end NumaFabric
