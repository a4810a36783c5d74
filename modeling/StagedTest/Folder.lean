import StagedTest.ClientError
import StagedTest.StringMap
import StagedTest.Text.Affix

/-!
# Folders

A folder holds files and no other folders. A path is taken apart at its slashes; parts that say
nothing are passed over, and what lies outside of the folder is not there.
-/
namespace StagedTest

/-- What a path leads to. -/
inductive Place
  /-- The folder itself, or one around it. -/
  | folder
  /-- The file of a name. -/
  | file (name : String)
  /-- Something in what has a name. -/
  | beneath (name : String)
  /-- Something outside of the folder. -/
  | elsewhere
deriving DecidableEq, Repr

namespace Place

/-- Whether a part of a path says nothing. -/
def isIdle (part : String) : Bool := part == "" || part == "."

/-- What the parts of a path within the folder lead to. -/
def ofParts : List String → Place
  | [] => .folder
  | part :: rest =>
    if isIdle part then ofParts rest
    else if part = ".." then
      if rest.all (fun part => isIdle part || part == "..") then .folder else .elsewhere
    else if rest.isEmpty then .file part
    else .beneath part

/-- What a path leads to. -/
def ofPath (path : String) : Place :=
  if path = "" then .elsewhere
  else
    match Text.after? "/" path with
    | some rest => if (Text.parts '/' rest).all isIdle then .folder else .elsewhere
    | none => ofParts (Text.parts '/' path)

end Place

/-- The files of a folder by name, each with what it holds. -/
structure Folder where
  /-- The files. -/
  files : StringMap String
deriving Inhabited

namespace Folder

/-- A folder with given files. -/
def ofList (files : List (String × String)) : Folder := ⟨.ofList files⟩

/-- Why nothing can be done beneath a name. -/
def beneath (folder : Folder) (name : String) : FileFailure :=
  if folder.files.contains name then .notDirectory else .missing

/-- What a file holds. -/
def read (folder : Folder) (path : String) : Except FileFailure String :=
  match Place.ofPath path with
  | .folder => .error .isDirectory
  | .file name => (folder.files.get? name).elim (.error .missing) .ok
  | .beneath name => .error (folder.beneath name)
  | .elsewhere => .error .missing

/-- Gives a file its content. -/
def write (folder : Folder) (path content : String) : Except FileFailure Folder :=
  match Place.ofPath path with
  | .folder => .error .isDirectory
  | .file name => .ok ⟨folder.files.insert name content⟩
  | .beneath name => .error (folder.beneath name)
  | .elsewhere => .error .missing

end Folder

end StagedTest
