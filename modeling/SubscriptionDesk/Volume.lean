namespace SubscriptionDesk

structure Place where
  names : List String
  deriving DecidableEq

namespace Place

def root : Place := ⟨[]⟩

/-- It is two steps below the root, and no path gives its name. -/
def workingDirectory : Place := ⟨["tmp", ""]⟩

def nullDevice : Place := ⟨["dev", "null"]⟩

def child (place : Place) (name : String) : Place := ⟨place.names ++ [name]⟩

def parent (place : Place) : Place := ⟨place.names.dropLast⟩

end Place

structure Volume where
  directories : List Place
  files : List (Place × ByteArray)

namespace Volume

def longestPath : Nat := 4095

def longestName : Nat := 255

def empty : Volume := ⟨[.root, ⟨["dev"]⟩, ⟨["tmp"]⟩, .workingDirectory], []⟩

def steps (path : String) : List String := path.splitToList (· == '/')

def parts (path : String) : List String := (steps path).filter (· != "")

def isDirectory (volume : Volume) (place : Place) : Bool := volume.directories.contains place

def file? (volume : Volume) (place : Place) : Option ByteArray :=
  if place == .nullDevice then some .empty
  else (volume.files.find? fun file => file.1 == place).map Prod.snd

def start? (path : String) : Option Place :=
  if path.isEmpty || path.contains '\x00' || decide (longestPath < path.utf8ByteSize) then none
  else if path.startsWith "/" then some .root
  else some .workingDirectory

def walk (volume : Volume) : Place → List String → Option Place
  | place, [] => some place
  | place, step :: rest =>
      if volume.isDirectory place then
        if step == "" || step == "." then walk volume place rest
        else if step == ".." then walk volume place.parent rest
        else if longestName < step.utf8ByteSize then none
        else walk volume (place.child step) rest
      else none

def place? (volume : Volume) (path : String) : Option Place :=
  (start? path).bind fun start => volume.walk start (steps path)

def read? (volume : Volume) (path : String) : Option ByteArray :=
  (volume.place? path).bind volume.file?

/-- A file replaces the one that was at its place. None can be written where a path leads nowhere
or to a directory. -/
def write (volume : Volume) (path : String) (contents : ByteArray) : Volume :=
  match volume.place? path with
  | some place =>
      if volume.isDirectory place then volume
      else { volume with files := (place, contents) :: volume.files }
  | none => volume

def makeWay : Volume → Place → List String → Volume
  | volume, _, [] => volume
  | volume, place, step :: rest =>
      if step == "" || step == "." then makeWay volume place rest
      else if step == ".." then makeWay volume place.parent rest
      else
        let next := place.child step
        if longestName < step.utf8ByteSize || (volume.file? next).isSome then volume
        else makeWay { volume with directories := next :: volume.directories } next rest

def makeDirectory (volume : Volume) (path : String) : Volume :=
  match start? path with
  | some start => volume.makeWay start (steps path)
  | none => volume

def ofLists (directories : List String) (files : List (String × ByteArray)) : Volume :=
  files.foldl (fun volume file => volume.write file.1 file.2)
    (directories.foldl makeDirectory empty)

end Volume

end SubscriptionDesk
