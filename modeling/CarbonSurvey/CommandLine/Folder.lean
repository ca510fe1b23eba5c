import CarbonSurvey.CommandLine.Execution

/-! # Folders in memory

The files of a folder as plain values, so that a command line can be carried out without a disk. A
path leads from name to name, and each but the last has to be a folder.
-/

namespace CarbonSurvey.CommandLine

/-- Why a folder cannot be read as a file. -/
def isAFolder : String := "Is a directory (os error 21)"

/-- Why a path cannot lead on from a file. -/
def notAFolder : String := "Not a directory (os error 20)"

def nameTooLong : String := "File name too long (os error 36)"

/-- The bytes of files, each under the names that lead to it. An absolute path starts with an empty
name. -/
structure Folder where
  files : List (List String × ByteArray)

namespace Folder

def names (path : String) : List String :=
  path.splitOn "/"

def ofFiles (files : List (String × ByteArray)) : Folder :=
  ⟨files.map fun (path, bytes) => (names path, bytes)⟩

/-- Whether names lead to a folder: the one to start from, the outermost one, or one with files. -/
def isFolder (folder : Folder) (here : List String) : Bool :=
  here = [] || here = [""] || folder.files.any fun (path, _) => here ≠ path && here.isPrefixOf path

/-- Whether names lead anywhere. -/
def leadsTo (folder : Folder) (here : List String) : Bool :=
  folder.isFolder here || (folder.files.lookup here).isSome

/-- Follows names from a place on. Nothing is known of what lies above the starting folder. -/
def follow (folder : Folder) (here : List String) : List String → Except String (List String)
  | [] => .ok here
  | name :: rest =>
    if !folder.isFolder here then .error notAFolder
    else if name = "" ∨ name = "." then folder.follow here rest
    else if name = ".." then
      if here = [""] then folder.follow here rest
      else if here = [] then
        .error (if rest.all fun name => name = "" || name = "." || name = ".." then isAFolder
          else noSuchFile)
      else folder.follow here.dropLast rest
    else if 255 < name.utf8ByteSize then .error nameTooLong
    else if folder.leadsTo (here ++ [name]) then folder.follow (here ++ [name]) rest
    else .error noSuchFile

/-- What is known of the file at a path. A path has at most 4095 bytes, and a name in it 255. -/
def read (folder : Folder) (path : String) : Except String ByteArray := do
  if 4095 < path.utf8ByteSize then throw nameTooLong
  let found ←
    match names path with
    | "" :: rest => folder.follow [""] rest
    | path => folder.follow [] path
  match folder.files.lookup found with
  | some bytes => .ok bytes
  | none => .error isAFolder

end Folder

end CarbonSurvey.CommandLine
