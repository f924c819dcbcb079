import TenantConsole.Store.Readings
import TenantConsole.Store.Scoping
import TenantConsole.Store.World

/-!
# Record files

A directory with one record a file. Files count by their extension and by the id inside them, not by
their name; a new record gets a file named for its id. An entry that cannot be read as a record is
passed over, so one bad file never hides the others.
-/

namespace TenantConsole

structure Folder where
  path : String
  /-- The extension of its files, without the point. -/
  extension : String

namespace Folder

/-! ### Names -/

/-- What follows the last point of a name, unless nothing stands before that point. -/
def extension? (name : String) : Option String :=
  let reversed := name.toList.reverse
  match reversed.dropWhile (· ≠ '.') with
  | [] => none
  | [_] => none
  | _ :: _ => some (String.ofList (reversed.takeWhile (· ≠ '.')).reverse)

/-- Whether an id can stand in the name of a file. -/
def isFileId (id : String) : Bool :=
  id ≠ "" && !id.toList.any (fun c => c = '/' || c = '\\') && id ≠ "." && id ≠ ".."

def fileName (folder : Folder) (id : String) : String := s!"{id}.{folder.extension}"

/-- The path of a file, as messages show it. -/
def filePath (folder : Folder) (name : String) : String := s!"{folder.path}/{name}"

/-! ### Reading -/

variable {ρ : Type} [Record ρ]

/-- The record that a file holds, if it is one with an id. -/
def recordOf? : Entry → Option ρ
  | .folder => none
  | .file content => do
    let text ← String.fromUTF8? content
    let record ← (Record.ofText text).toOption
    if Record.id record = "" then none else some record

/-- The records of a directory in the order of its entries, each with the name of its file. -/
def recordsIn (extension : String) (directory : Directory) : List (String × ρ) :=
  directory.filterMap fun (name, entry) =>
    if extension? name = some extension then (recordOf? entry).map (name, ·) else none

def byId (a b : String × ρ) : Bool := Record.id a.2 ≤ Record.id b.2

/-- The records of a directory, sorted by id. -/
def sortedRecords (extension : String) (directory : Directory) : List (String × ρ) :=
  (recordsIn extension directory).mergeSort byId

def directory (folder : Folder) (disk : Disk) : Except StoreError Directory :=
  match disk.directory? folder.path with
  | some directory => .ok directory
  | none => .error <| .backend s!"cannot read directory {folder.path}: {FileError.absent.message}"

def records (folder : Folder) (disk : Disk) : Except StoreError (List (String × ρ)) :=
  (folder.directory disk).map (sortedRecords folder.extension)

def listing (folder : Folder) (disk : Disk) : Except StoreError (List ρ) :=
  (folder.records disk).map (List.map Prod.snd)

/-- The file that holds the record with an id. -/
def locate (ρ : Type) [Record ρ] (folder : Folder) (disk : Disk) (id : String) :
    Except StoreError String :=
  match folder.records (ρ := ρ) disk with
  | .error e => .error e
  | .ok records =>
    match records.find? fun (_, record) => Record.id record = id with
    | some (name, _) => .ok name
    | none => .error (.missing ρ id)

/-! ### Writing -/

/-- Changes the directory, or says what was being done to which file. -/
def change (folder : Folder) (disk : Disk) (doing name : String)
    (act : Directory → Except FileError Directory) : Except StoreError Disk :=
  match disk.directory? folder.path with
  | none => .error (failure .absent)
  | some directory =>
    match act directory with
    | .ok directory => .ok (disk.setDirectory folder.path directory)
    | .error e => .error (failure e)
where
  failure (e : FileError) : StoreError :=
    .backend s!"cannot {doing} {folder.filePath name}: {e.message}"

def store (folder : Folder) (disk : Disk) (name : String) (record : ρ) : Except StoreError Disk :=
  folder.change disk "write" name fun directory =>
    directory.writeFile name (Record.page record).toUTF8

/-- The disk after a change, or as it was where there is a refusal. -/
def settle {α : Type} (world : World) (answer : α) :
    Except StoreError Disk → Except StoreError α × World
  | .ok disk => (.ok answer, { world with disk })
  | .error e => (.error e, world)

def add (folder : Folder) (record : ρ) (world : World) : Except StoreError ρ × World :=
  let named := world.named record
  let world := world.afterNaming record
  let id := Record.id named
  if ¬ isFileId id then (.error (.invalid s!"invalid {Record.kind ρ} id '{id}'"), world)
  else
    match folder.locate ρ world.disk id with
    | .ok _ => (.error (.taken ρ id), world)
    | .error e =>
      if e.isNotFound then
        settle world named (folder.store world.disk (folder.fileName id) named)
      else (.error e, world)

def update (folder : Folder) (record : ρ) (world : World) : Except StoreError Unit × World :=
  match folder.locate ρ world.disk (Record.id record) with
  | .error e => (.error e, world)
  | .ok name => settle world () (folder.store world.disk name record)

def delete (ρ : Type) [Record ρ] (folder : Folder) (id : String) (world : World) :
    Except StoreError Unit × World :=
  match folder.locate ρ world.disk id with
  | .error e => (.error e, world)
  | .ok name =>
    settle world () <| folder.change world.disk "remove" name fun directory =>
      directory.removeFile name

def write {α : Type} (folder : Folder) : Write ρ α → World → Except StoreError α × World
  | .add record, world => folder.add record world
  | .update record, world => folder.update record world
  | .delete id, world => folder.delete ρ id world

end Folder

end TenantConsole
