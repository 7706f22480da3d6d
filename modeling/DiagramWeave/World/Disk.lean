import DiagramWeave.FilePath
import DiagramWeave.Text.Quoted

/-!
# Files and directories

A disk is a set of directories and of files with their bytes. Paths are walked name by name: every name
but the last must lead through a directory, and double points lead back. What cannot be done is reported
as the system does it, with the path as the caller wrote it.
-/
namespace DiagramWeave

/-- Where something is: the names from the root. -/
abbrev Place := List String

/-- Why the system refuses. -/
inductive SystemCode where
  | noEntry
  | entryExists
  | notDirectory
  | isDirectory
  | nameTooLong
  deriving DecidableEq, Repr

namespace SystemCode

/-- The number of a code. -/
def number : SystemCode → Nat
  | noEntry => 2
  | entryExists => 17
  | notDirectory => 20
  | isDirectory => 21
  | nameTooLong => 36

/-- What the system says to a code. -/
def text : SystemCode → String
  | noEntry => "No such file or directory"
  | entryExists => "File exists"
  | notDirectory => "Not a directory"
  | isDirectory => "Is a directory"
  | nameTooLong => "File name too long"

end SystemCode

/-- Why something cannot be done with a path. -/
inductive DiskFault where
  /-- No path holds the null character. -/
  | nullCharacter
  | refused (code : SystemCode) (path : String)
  deriving DecidableEq, Repr

/-- The text of a fault. -/
def DiskFault.text : DiskFault → String
  | nullCharacter => "embedded null byte"
  | refused code path => s!"[Errno {code.number}] {code.text}: {Text.inQuotes path}"

/-- What stands at a place. -/
inductive DiskEntry where
  | file (content : ByteArray)
  | directory

structure Disk where
  files : List (Place × ByteArray)
  directories : List Place

namespace Disk

/-- What stands at a place. The root is a directory. -/
def at? (disk : Disk) (place : Place) : Option DiskEntry :=
  match disk.files.find? fun entry => entry.1 = place with
  | some (_, content) => some (.file content)
  | none => if place = [] ∨ place ∈ disk.directories then some .directory else none

/-- The disk with a file at a place. -/
def setFile (disk : Disk) (place : Place) (content : ByteArray) : Disk :=
  { disk with files := disk.files.filter (fun entry => entry.1 ≠ place) ++ [(place, content)] }

/-- The disk without the file at a place. -/
def removeFile (disk : Disk) (place : Place) : Disk :=
  { disk with files := disk.files.filter fun entry => entry.1 ≠ place }

/-- The longest name in bytes. -/
def nameLimit : Nat := 255

/-- Paths are shorter than this in bytes. -/
def pathLimit : Nat := 4096

/-- Walks names from a place; every name must be looked up in a directory. -/
def walk (disk : Disk) (current : Place) : List String → Except SystemCode Place
  | [] => .ok current
  | name :: names =>
    match disk.at? current with
    | none => .error .noEntry
    | some (.file _) => .error .notDirectory
    | some .directory =>
      if nameLimit < name.utf8ByteSize then .error .nameTooLong
      else if name = ".." then walk disk current.dropLast names
      else walk disk (current ++ [name]) names

/-- The place of a path. `home` is where relative paths start. -/
def locate (disk : Disk) (home : Place) (path : FilePath) : Except DiskFault Place :=
  let text := path.text
  if text.toList.contains '\x00' then .error .nullCharacter
  else if pathLimit ≤ text.utf8ByteSize then .error (.refused .nameTooLong text)
  else
    match disk.walk (if path.isAbsolute then [] else home) path.names with
    | .ok place => .ok place
    | .error code => .error (.refused code text)

/-- Something stands at the path. Only a name too long for the system is a fault. -/
def exists? (disk : Disk) (home : Place) (path : FilePath) : Except DiskFault Bool :=
  match disk.locate home path with
  | .ok place => .ok (disk.at? place).isSome
  | .error (.refused .nameTooLong text) => .error (.refused .nameTooLong text)
  | .error _ => .ok false

/-- The bytes of the file at a path. -/
def read (disk : Disk) (home : Place) (path : FilePath) : Except DiskFault ByteArray := do
  match disk.at? (← disk.locate home path) with
  | some (.file content) => return content
  | some .directory => throw (.refused .isDirectory path.text)
  | none => throw (.refused .noEntry path.text)

/-- Writes a file, in place of the file that stands there. -/
def write (disk : Disk) (home : Place) (path : FilePath) (content : ByteArray) :
    Except DiskFault Disk := do
  let place ← disk.locate home path
  match disk.at? place with
  | some .directory => throw (.refused .isDirectory path.text)
  | _ => return disk.setFile place content

/-- Makes one directory, where nothing stands yet. -/
def makeDirectory (disk : Disk) (home : Place) (path : FilePath) : Except DiskFault Disk := do
  let place ← disk.locate home path
  match disk.at? place with
  | some _ => throw (.refused .entryExists path.text)
  | none => return { disk with directories := disk.directories ++ [place] }

/-- The path leads to a directory. -/
def isDirectory (disk : Disk) (home : Place) (path : FilePath) : Bool :=
  match disk.locate home path with
  | .ok place => match disk.at? place with
    | some .directory => true
    | _ => false
  | .error _ => false

/-- A refusal to make a directory does not matter when there is one. -/
def unlessDirectory (disk : Disk) (home : Place) (path : FilePath) (fault : DiskFault) :
    Disk × Option DiskFault :=
  if disk.isDirectory home path then (disk, none) else (disk, some fault)

/-- Makes a directory and those on the way to it, `steps` at most. Directories made before a refusal
    stay. -/
def makeDirectories (disk : Disk) (home : Place) (path : FilePath) : Nat → Disk × Option DiskFault
  | 0 => (disk, some (.refused .noEntry path.text))
  | steps + 1 =>
    match disk.makeDirectory home path with
    | .ok disk => (disk, none)
    | .error .nullCharacter => (disk, some .nullCharacter)
    | .error (.refused .noEntry text) =>
      if path.names = [] then (disk, some (.refused .noEntry text))
      else
        -- A directory on the way is missing: it is made first, and then this one is tried again.
        match disk.makeDirectories home path.parent steps with
        | (disk, some fault) => (disk, some fault)
        | (disk, none) =>
          match disk.makeDirectory home path with
          | .ok disk => (disk, none)
          | .error (.refused .noEntry text) => (disk, some (.refused .noEntry text))
          | .error fault => disk.unlessDirectory home path fault
    | .error fault => disk.unlessDirectory home path fault

end Disk

end DiagramWeave
