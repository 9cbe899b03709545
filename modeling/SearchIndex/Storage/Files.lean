import SearchIndex.Failure
import SearchIndex.Keyed
import SearchIndex.Storage.Path

/-!
# Text files

The files below the place where the program runs. Every step of a path before the last must lead
into a folder; a folder is there when there is a file in it.

## Main definitions

* `Files`: the texts by their paths
* `Spot`, `Files.spot`: what is found at the end of a path
* `Files.read`: the text at the end of a path
* `Files.makeFolder`: whether a folder can be made
* `Files.databaseRefusal?`: why a database cannot lie at a path

## Main results

* `read_eq_ok_iff`: a path can be read exactly if a file is found at its end
-/

namespace SearchIndex.Storage

/-- The texts of files by their paths. -/
abbrev Files := List (String × String)

/-- What is found at the end of a path. -/
inductive Spot where
  | file (text : String)
  | folder
  /-- A step that there is no file or folder for. -/
  | nothing
  /-- A step that leads through a file. -/
  | blocked
deriving DecidableEq, Repr

namespace Files

/-- What is found after steps that all lead somewhere. -/
def spotAt (files : Files) (root : Bool) (steps : List String) : Spot :=
  match Keyed.find? (Path.ofSteps root steps) files with
  | some text => .file text
  | none =>
    let inside (path : String) : Bool :=
      Path.rooted path == root && steps.isPrefixOf (Path.steps path)
    if steps.isEmpty || files.any fun (path, _) => inside path then .folder else .nothing

/-- What is found after more steps, the ones taken so far being reversed. -/
def walk (files : Files) (root : Bool) : List String → List String → Spot
  | taken, [] => files.spotAt root taken.reverse
  | taken, step :: steps =>
    match files.spotAt root taken.reverse with
    | .folder => walk files root (if step = ".." then taken.drop 1 else step :: taken) steps
    | .file _ => .blocked
    | spot => spot

/-- **What is found at the end of a path.** -/
def spot (files : Files) (path : String) : Spot :=
  files.walk (Path.rooted path) [] (Path.steps path)

/-- There is a file at the end of a path. -/
def isFile (files : Files) (path : String) : Bool :=
  match files.spot path with
  | .file _ => true
  | _ => false

/-- There is a folder at the end of a path. -/
def isFolder (files : Files) (path : String) : Bool := files.spot path = .folder

/-- **The text at the end of a path.** -/
def read (files : Files) (path : String) : Except Failure String :=
  match files.spot path with
  | .file text => .ok text
  | .folder => .error (.isAFolder (Path.normal path))
  | .nothing => .error (.noFile (Path.normal path))
  | .blocked => .error (.notAFolder (Path.normal path))

theorem read_eq_ok_iff {files : Files} {path text : String} :
    files.read path = .ok text ↔ files.spot path = .file text := by
  unfold read
  cases files.spot path <;> simp

/-- Whether a folder can be made, or is there already. -/
def makeFolder (files : Files) (path : String) : Except Failure Unit :=
  match files.spot path with
  | .folder | .nothing => .ok ()
  | .file _ => .error (.fileExists (Path.normal path))
  | .blocked => .error (.notAFolder (Path.normal path))

/-- A path holds a character that no path holds. -/
def isBroken (path : String) : Bool := path.toList.contains (Char.ofNat 0)

/-- A folder is found where a path leads, once all folders on the way are there. -/
def leadsToFolder (files : Files) (path : String) : Bool :=
  Path.name path = ".." || files.isFolder (Path.place path)

/-- **Why a database cannot lie at a path**: its folder cannot be made, or it is a folder. -/
def databaseRefusal? (files : Files) (path : String) : Option Failure :=
  if isBroken (Path.parent path) then some .brokenPath
  else
    match files.makeFolder (Path.parent path) with
    | .error f => some f
    | .ok () =>
      if isBroken path then some .brokenPath
      else if files.leadsToFolder path then some .cannotOpenDatabase
      else none

end Files

end SearchIndex.Storage
