/-!
# Directories

What a disk holds, as far as record files need it: directories by their path, and in each the names
of its entries in the order of a listing. A new file comes last, a file that is written again keeps
its place.
-/

namespace TenantConsole

inductive Entry where
  | file (content : ByteArray)
  | folder

abbrev Directory := List (String × Entry)

/-- The directories that exist, by path. -/
abbrev Disk := List (String × Directory)

/-- Why the operating system refuses a call. -/
inductive FileError where
  | absent
  | isFolder
  | nameTooLong
  | nulInName
  deriving DecidableEq

def FileError.message : FileError → String
  | absent => "No such file or directory (os error 2)"
  | isFolder => "Is a directory (os error 21)"
  | nameTooLong => "File name too long (os error 36)"
  | nulInName => "file name contained an unexpected NUL byte"

namespace Directory

def entry? (directory : Directory) (name : String) : Option Entry :=
  (directory.find? fun (n, _) => n = name).map Prod.snd

/-- The longest name of a file, in bytes. -/
def nameLimit : Nat := 255

/-- The entry in place of the one with its name, or else at the end. -/
def put (name : String) (entry : Entry) : Directory → Directory
  | [] => [(name, entry)]
  | (n, e) :: rest => if n = name then (name, entry) :: rest else (n, e) :: put name entry rest

def remove (directory : Directory) (name : String) : Directory :=
  directory.filter fun (n, _) => n ≠ name

/-- Writes a file, whether or not there is one of the name. -/
def writeFile (directory : Directory) (name : String) (content : ByteArray) :
    Except FileError Directory :=
  if name.toList.contains '\x00' then .error .nulInName
  else if nameLimit < name.utf8ByteSize then .error .nameTooLong
  else
    match directory.entry? name with
    | some .folder => .error .isFolder
    | _ => .ok (directory.put name (.file content))

/-- Removes a file that is there. -/
def removeFile (directory : Directory) (name : String) : Except FileError Directory :=
  match directory.entry? name with
  | some (.file _) => .ok (directory.remove name)
  | some .folder => .error .isFolder
  | none => .error .absent

end Directory

namespace Disk

def directory? (disk : Disk) (path : String) : Option Directory :=
  (disk.find? fun (p, _) => p = path).map Prod.snd

def setDirectory (path : String) (directory : Directory) : Disk → Disk
  | [] => [(path, directory)]
  | (p, d) :: rest =>
    if p = path then (path, directory) :: rest else (p, d) :: setDirectory path directory rest

end Disk

end TenantConsole
