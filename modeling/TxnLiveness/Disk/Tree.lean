import TxnLiveness.Disk.Basic
/-!
# Disks in memory

A tree of directories and files, by their paths from the root, with a directory that relative paths
start from.
-/

namespace TxnLiveness.Disk

/-- The names that lead from the root to a place. -/
abbrev Place := List (List Char)

inductive Entry
  | directory
  /-- A directory in which nothing can be made. -/
  | closed
  | file (text : String)
  /-- A device that takes any text and keeps none. -/
  | sink
  /-- A device that takes no text, with what it says instead. -/
  | faulty (fault : OsFault)
deriving DecidableEq

/-- How many bytes a name may have. -/
def longestName : Nat := 255

/-- How many bytes a path may have. -/
def longestPath : Nat := 4095

structure Tree where
  /-- What stands where, the latest first. -/
  entries : List (Place × Entry) := []
  /-- Where relative paths start. -/
  home : Place := []

def Entry.isDir (e : Entry) : Bool := e = .directory || e = .closed

namespace Tree

/-- What stands at a place. The root is a directory. -/
def entry? (t : Tree) (p : Place) : Option Entry :=
  if p = [] then some .directory else t.entries.lookup p

def put (t : Tree) (p : Place) (e : Entry) : Tree := { t with entries := (p, e) :: t.entries }

/-- Where one name leads from a place. -/
def step (p : Place) (name : List Char) : Place :=
  if name = [] ∨ name = ['.'] then p
  else if name = ['.', '.'] then p.dropLast
  else p ++ [name]

/-- Where one name leads from a place, where a directory has to stand. -/
def reach (t : Tree) (p : Place) (name : List Char) : Except OsFault Place :=
  match t.entry? p with
  | none => .error .notFound
  | some e =>
    if !e.isDir then .error .notDirectory
    else if longestName < (String.ofList name).utf8ByteSize then .error .nameTooLong
    else .ok (step p name)

/-- Where names lead from a place. -/
def walk (t : Tree) (p : Place) (names : List (List Char)) : Except OsFault Place :=
  names.foldlM t.reach p

/-- Where a path starts. -/
def origin (t : Tree) (path : List Char) : Place := if path.head? = some '/' then [] else t.home

/-- Checks that a path is not too long to be looked at. -/
def checkPath (path : String) : Except OsFault Unit :=
  if longestPath < path.utf8ByteSize then .error .nameTooLong else .ok ()

/-- The place of the directory that the last name of a path is looked up in, and that name if it
names something there. Slashes at the end do not count. -/
def locate (t : Tree) (path : String) : Except OsFault (Place × Option (List Char)) := do
  checkPath path
  let backward := (names path.toList).reverse.dropWhile (· = [])
  let p ← t.walk (t.origin path.toList) backward.tail.reverse
  let last := backward.head?.getD []
  discard (t.reach p last)
  return (p, if last ∈ [[], ['.'], ['.', '.']] then none else some last)

/-- Checks that something can be made in the directory at a place. -/
def checkOpen (t : Tree) (p : Place) : Except OsFault Unit :=
  if t.entry? p = some .closed then .error .notFound else .ok ()

/-- Makes a directory. -/
def makeDir (t : Tree) (path : String) : Except OsFault Tree := do
  match ← t.locate path with
  | (_, none) => throw .alreadyExists
  | (p, some name) =>
    if (t.entry? (p ++ [name])).isSome then throw .alreadyExists
    t.checkOpen p
    return t.put (p ++ [name]) .directory

def isDir (t : Tree) (path : String) : Bool :=
  match checkPath path, t.walk (t.origin path.toList) (names path.toList) with
  | .ok (), .ok p => (t.entry? p).any (·.isDir)
  | _, _ => false

/-- Writes a text over what is there. A path with a slash at its end means a directory. -/
def write (t : Tree) (path text : String) : Except OsFault Tree := do
  match ← t.locate path with
  | (_, none) => throw .isDirectory
  | (p, some name) =>
    if path.toList.getLast? = some '/' then throw .isDirectory
    match t.entry? (p ++ [name]) with
    | some .directory | some .closed => throw .isDirectory
    | some .sink => return t
    | some (.faulty fault) => throw fault
    | some (.file _) => return t.put (p ++ [name]) (.file text)
    | none =>
      t.checkOpen p
      return t.put (p ++ [name]) (.file text)

/-- A tree that holds entries at absolute paths. -/
def ofPaths (home : String) (l : List (String × Entry)) : Tree where
  entries := l.map fun (path, e) => ((names path.toList).tail, e)
  home := (names home.toList).tail

/-- The directories of a usual tree. -/
def usualDirs : List String :=
  ["/bin", "/boot", "/dev", "/dev/shm", "/etc", "/home", "/lib", "/lib64", "/media",
    "/mnt", "/opt", "/root", "/run", "/sbin", "/srv", "/sys", "/tmp", "/usr", "/usr/bin",
    "/usr/include", "/usr/lib", "/usr/local", "/usr/local/bin", "/usr/local/lib", "/usr/sbin",
    "/usr/share", "/usr/src", "/var", "/var/cache", "/var/lib", "/var/log", "/var/run",
    "/var/spool", "/var/tmp", "/work"]

/-- The files of a usual tree. -/
def usualFiles : List String :=
  ["/bin/bash", "/bin/cat", "/bin/ls", "/bin/sh", "/etc/fstab", "/etc/group", "/etc/hostname",
    "/etc/hosts", "/etc/os-release", "/etc/passwd", "/etc/profile", "/etc/resolv.conf",
    "/etc/shadow", "/usr/bin/bash", "/usr/bin/env", "/usr/bin/ls", "/usr/bin/sh"]

/-- A tree laid out the usual way, with an empty directory that relative paths start from. -/
def usual : Tree :=
  ofPaths "/work"
    (usualDirs.map (·, .directory) ++ usualFiles.map (·, .file "") ++
      ["/proc", "/proc/self"].map (·, .closed) ++
      ["/proc/cpuinfo", "/proc/meminfo", "/proc/version"].map (·, .faulty .inputOutput) ++
      ["/dev/null", "/dev/random", "/dev/stderr", "/dev/urandom", "/dev/zero"].map (·, .sink) ++
      [("/dev/full", .faulty .noSpace), ("/dev/tty", .faulty .noDevice)])

end Tree

/-- Has an operation change the tree unless it fails. -/
def attempt (f : Tree → Except OsFault Tree) : ExceptT OsFault (StateM Tree) Unit :=
  ExceptT.mk fun t =>
    match f t with
    | .ok t => (.ok (), t)
    | .error fault => (.error fault, t)

/-- The disk that a tree stands for. -/
def inMemory : Disk (StateM Tree) where
  makeDir path := attempt (·.makeDir path)
  isDir path := fun t => (t.isDir path, t)
  write path text := attempt (·.write path text)

end TxnLiveness.Disk
