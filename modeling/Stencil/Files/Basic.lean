import Stencil.Fault.Basic
import Stencil.Files.Path
import Stencil.Text.Utf8

/-!
# Files

The files and folders that templates are read from and created files are written
to. Each stands under the place that it has below the folder that paths start
from, and all are kept in the order of their places, so that a folder comes right
before what is in it. Every step of a path but the last has to lead to a folder,
also if it is taken back.
-/

namespace Stencil

/-- A folder, or a file with its bytes. -/
inductive FileNode where
  | folder
  | file (bytes : ByteArray)

/-- The nodes under their paths, in order. The folder with the empty path always
exists and is not listed. -/
abbrev Files := List (List String × FileNode)

namespace Files

/-- The node under a path. -/
def get? (files : Files) (path : List String) : Option FileNode :=
  match path with
  | [] => some .folder
  | _ => files.lookup path

/-- The files with one node more, in the place of an earlier one. -/
def put (files : Files) (path : List String) (node : FileNode) : Files :=
  match files with
  | [] => [(path, node)]
  | (other, old) :: rest =>
    if path < other then (path, node) :: (other, old) :: rest
    else if other = path then (path, node) :: rest
    else (other, old) :: put rest path node

/-- Follows steps from a place on that was reached already. -/
def follow (files : Files) (reached : List String) (node : FileNode) :
    List String → Except FileError FileNode
  | [] => .ok node
  | step :: rest =>
    match node with
    | .file _ => .error .notDirectory
    | .folder =>
      match files.get? (FilePath.onward reached step) with
      | none => .error .missing
      | some found => files.follow (FilePath.onward reached step) found rest

/-- What a path leads to. -/
def find (files : Files) (path : String) : Except FileError FileNode :=
  files.follow [] .folder (FilePath.steps path)

/-- The text of the file that a path leads to. -/
def readText (files : Files) (path : String) : Except FileError String :=
  match files.find path with
  | .error error => .error error
  | .ok .folder => .error .isDirectory
  | .ok (.file bytes) =>
    match Text.decodeStrict? bytes with
    | some text => .ok text
    | none => .error .invalidText

/-- What is at the place that steps lead to, if all of them but the last lead to a
folder. -/
def arrival (files : Files) (steps : List String) : Except FileError (Option FileNode) :=
  match files.follow [] .folder steps.dropLast with
  | .error error => .error error
  | .ok (.file _) => .error .notDirectory
  | .ok .folder => .ok (files.get? (FilePath.place steps))

/-- Makes a folder in a folder that exists, unless it exists already. -/
def makeFolder (files : Files) (steps : List String) : Except FileError Unit × Files :=
  match files.arrival steps with
  | .error error => (.error error, files)
  | .ok none => (.ok (), files.put (FilePath.place steps) .folder)
  | .ok (some .folder) => (.ok (), files)
  | .ok (some (.file _)) => (.error .alreadyExists, files)

/-- Makes the folder that steps lead to, given last step first, and those before it if it
turns out that there is one missing. -/
def makeFoldersBack (files : Files) : List String → Except FileError Unit × Files
  | [] => (.ok (), files)
  | step :: before =>
    match files.makeFolder (step :: before).reverse with
    | (.error .missing, _) =>
      match files.makeFoldersBack before with
      | (.ok (), after) => after.makeFolder (step :: before).reverse
      | refused => refused
    | done => done

/-- Makes a folder and those above it that are missing. What was made before a file is in
the way stays. -/
def makeFolders (files : Files) (path : String) : Except FileError Unit × Files :=
  files.makeFoldersBack (FilePath.steps path).reverse

/-- Writes a file into a folder that exists. A path that ends with a slash leads
to a folder, whether it exists or not. -/
def writeFile (files : Files) (path : String) (bytes : ByteArray) : Except FileError Files :=
  if path = "" then .error .missing
  else if path.toList.getLast? = some '/' then .error .isDirectory
  else
    match files.arrival (FilePath.steps path) with
    | .error error => .error error
    | .ok (some .folder) => .error .isDirectory
    | .ok _ => .ok (files.put (FilePath.place (FilePath.steps path)) (.file bytes))

/-- Makes the folders above a path that are missing. A refusal tells the folder it is
about. -/
def prepare (files : Files) (path : String) : Except Cause Unit × Files :=
  match FilePath.parent? path with
  | none => (.ok (), files)
  | some folder =>
    let (made, after) := files.makeFolders folder
    (made.mapError (Cause.file folder), after)

/-- Writes a file after making the folders above it, which stay if the file is refused.
A refusal tells the path it is about. -/
def create (files : Files) (path : String) (bytes : ByteArray) : Except Cause Unit × Files :=
  match files.prepare path with
  | (.error cause, after) => (.error cause, after)
  | (.ok (), prepared) =>
    match prepared.writeFile path bytes with
    | .error error => (.error (.file path error), prepared)
    | .ok after => (.ok (), after)

/-- A file that cannot be created is a fault of the file or of a folder above it. -/
theorem kind_of_create {files : Files} {path : String} {bytes : ByteArray} {cause : Cause}
    (failed : (files.create path bytes).1 = .error cause) : cause.kind = .io := by
  have ofFolders : ∀ {reason}, (files.prepare path).1 = .error reason → reason.kind = .io := by
    intro reason refused
    unfold prepare at refused
    split at refused
    · cases refused
    · rename_i folder _
      rcases made : files.makeFolders folder with ⟨error | _, after⟩
      · rw [made] at refused
        cases refused
        rfl
      · rw [made] at refused
        cases refused
  unfold create at failed
  split at failed
  · rename_i reason after prepared
    cases failed
    exact ofFolders (congrArg Prod.fst prepared)
  · split at failed <;> cases failed
    rfl

/-- What is below a folder, in order: each path after the given text, a folder's
with a slash at the end, and the bytes of each file. -/
def listing (files : Files) (folder : String) : List (String × Option ByteArray) :=
  let above := FilePath.place (FilePath.steps folder)
  files.filterMap fun (path, node) =>
    if above.isPrefixOf path && path ≠ above then
      let shown := FilePath.join folder ("/".intercalate (path.drop above.length))
      match node with
      | .folder => some (shown ++ "/", none)
      | .file bytes => some (shown, some bytes)
    else none

end Files

end Stencil
