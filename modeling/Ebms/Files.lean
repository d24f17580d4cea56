import Ebms.Bytes
import Ebms.Text.Trim

/-! # Files

Settings and keyrings are kept in files.  Files are a map from paths to contents;
folders are the beginnings of paths.  A file is replaced by writing a temporary
one beside it and renaming that, so that no reader meets half a file. -/

set_option autoImplicit false

namespace Ebms

/-- Files by path, no two with one path, and the folder that they are kept in. -/
structure Files where
  root : String
  entries : List (String × Bytes)
  deriving DecidableEq, Repr, Inhabited

inductive FileFault where
  | missing
  | folder
  /-- A file stands where the path has a folder. -/
  | noFolder
  deriving DecidableEq, Repr, Inhabited

def FileFault.message : FileFault → String
  | .missing => "no such file"
  | .folder => "is a folder"
  | .noFolder => "not a folder"

def splitPath (path : String) : List Char × List Char :=
  let name := (path.toList.reverse.takeWhile (· != '/')).reverse
  (path.toList.take (path.toList.length - name.length), name)

/-- A name without its extension.  A point at the beginning starts no
extension. -/
def stemOf (name : List Char) : List Char :=
  match name.reverse.dropWhile (· != '.') with
  | [] => name
  | [_] => name
  | _ :: stem => stem.reverse

def temporaryPath (path : String) : String :=
  let (folder, name) := splitPath path
  String.ofList (folder ++ stemOf name ++ ['.', 't', 'm', 'p'])

namespace Files

def emptyFolder (root : String) : Files := { root, entries := [] }

def folderPath (path : String) : String :=
  String.ofList (Text.dropEndWhile (· == '/') path.toList)

/-- Whether a path is one of a folder: the root, one that files are in, or one
that ends in a name for folders only. -/
def isFolder (files : Files) (path : String) : Bool :=
  let folder := folderPath path
  !path.isEmpty && (folder.isEmpty || folder == files.root
    || (splitPath folder).2 ∈ [['.'], ['.', '.']]
    || files.entries.any fun entry => Text.startsWith entry.1 (folder ++ "/"))

def read (files : Files) (path : String) : Except FileFault Bytes :=
  if files.isFolder path then .error .folder
  else
    match files.entries.lookup path with
    | some data => .ok data
    | none => .error .missing

def contains (files : Files) (path : String) : Bool :=
  files.isFolder path || (files.entries.lookup path).isSome

def erase (files : Files) (path : String) : Files :=
  { files with entries := files.entries.filter (·.1 != path) }

def write (files : Files) (path : String) (data : Bytes) : Files :=
  { files with entries := (path, data) :: (files.erase path).entries }

def write? (files : Files) (path : String) (data : Bytes) : Except FileFault Files :=
  if files.isFolder path then .error .folder
  else if files.isFolder (String.ofList (splitPath path).1) then .ok (files.write path data)
  else .error .missing

def rename (files : Files) (source target : String) : Files :=
  match files.entries.lookup source with
  | some data => (files.erase source).write target data
  | none => files

def isBelowFile (files : Files) (path : String) : Bool :=
  files.entries.any fun entry => Text.startsWith path (entry.1 ++ "/")

/-- The files with one replaced by way of a temporary file.  Folders on the way to it are
made; neither of the two files may be a folder, and a path that ends in a slash is one of
a folder. -/
def replace (files : Files) (path : String) (data : Bytes) : Except FileFault Files :=
  if path.isEmpty then .error .missing
  else if files.isBelowFile path then .error .noFolder
  else if Text.endsWith path "/" || files.isFolder path || files.isFolder (temporaryPath path) then
    .error .folder
  else .ok ((files.write (temporaryPath path) data).rename (temporaryPath path) path)

end Files

end Ebms
