import ProverInput.Path
import ProverInput.Text.Units

set_option autoImplicit false

/-! # Files in a working directory

A disk is what lies under the working directory: files with their texts, and directories. A path
is walked segment by segment, and every segment but the last has to lead to a directory. The
working directory is one of those for passing use, directly below `tmp`. Of what lies outside of it
only what every system has is known: some directories, some files and some devices. What is
written outside is not kept.

Names, paths and texts go to a disk as characters, so a lone surrogate in them is replaced.
-/

namespace ProverInput

/-- Why a file could not be read or written. -/
inductive FileError where
  | notFound (path : String)
  | notDirectory (path : String)
  | readsDirectory
  | opensDirectory (path : String)
  | nameTooLong (path : String)
  /-- A path with the null character in it, which no system takes. -/
  | malformedPath (path : String)
  | denied (path : String)
  /-- A device that nothing is connected to. -/
  | noDevice (path : String)
  | noSpace
  /-- Any other cause, in the words of the system. -/
  | refused (reason : String)
deriving DecidableEq, Repr

def FileError.message : FileError → String
  | notFound path => s!"ENOENT: no such file or directory, open '{path}'"
  | notDirectory path => s!"ENOTDIR: not a directory, open '{path}'"
  | readsDirectory => "EISDIR: illegal operation on a directory, read"
  | opensDirectory path => s!"EISDIR: illegal operation on a directory, open '{path}'"
  | nameTooLong path => s!"ENAMETOOLONG: name too long, open '{path}'"
  | malformedPath path => s!"A path with a null character in it: '{path}'"
  | denied path => s!"EACCES: permission denied, open '{path}'"
  | noDevice path => s!"ENXIO: no such device or address, open '{path}'"
  | noSpace => "ENOSPC: no space left on device, write"
  | refused reason => reason

/-- How the text of a file is found. -/
abbrev Reader := String → Except FileError String

/-- Where a path has led so far: somewhere under the working directory, or outside, under the top
of the system. -/
inductive Spot where
  | inside (place : List String)
  | outside (place : List String)
deriving DecidableEq, Repr

namespace Spot

def parent : Spot → Spot
  | inside [] => outside ["tmp"]
  | inside place => inside place.dropLast
  | outside place => outside place.dropLast

def child (name : String) : Spot → Spot
  | inside place => inside (place ++ [name])
  | outside place => outside (place ++ [name])

end Spot

/-- Entries by the segments that lead to them; a directory has no text. -/
structure Disk where
  entries : List (List String × Option String)
deriving Repr

namespace Disk

/-- What a path leads to. -/
inductive Place where
  | directory
  | file (spot : Spot) (text : String)
  /-- Nothing yet, but there is a directory to put it in. -/
  | vacant (spot : Spot)
deriving Repr

/-- The disk with a file, or a directory if there is no text. -/
def put (disk : Disk) (place : List String) (text : Option String) : Disk :=
  ⟨(place, text) :: disk.entries.filter (·.1 ≠ place)⟩

/-- The disk with the given files; of several in one place the last counts. -/
def ofFiles (files : List (String × Option String)) : Disk :=
  files.foldl (fun disk (name, text) =>
    disk.put (Path.straighten false (Units.mended name)) (text.map Units.mended)) ⟨[]⟩

/-! ## The system -/

/-- Directories that every system has. -/
def systemDirectories : List String :=
  ["bin", "boot", "dev", "dev/fd", "dev/pts", "dev/shm", "etc", "etc/alternatives", "etc/apt",
   "etc/default", "etc/init.d", "etc/opt", "etc/pam.d", "etc/profile.d", "etc/security", "etc/skel",
   "etc/ssl", "etc/ssl/certs", "etc/ssl/private", "etc/systemd", "home", "lib", "lib64", "media",
   "mnt", "opt", "proc", "proc/1", "proc/bus", "proc/fs", "proc/net", "proc/self", "proc/self/fd",
   "proc/sys", "proc/sys/kernel", "proc/sys/net", "proc/sys/vm", "root", "run", "run/lock", "sbin",
   "srv", "sys", "sys/block", "sys/bus", "sys/class", "sys/dev", "sys/devices", "sys/firmware",
   "sys/fs", "sys/kernel", "sys/module", "sys/power", "tmp", "usr", "usr/bin", "usr/games",
   "usr/include", "usr/lib", "usr/lib64", "usr/libexec", "usr/local", "usr/local/bin",
   "usr/local/etc", "usr/local/games", "usr/local/include", "usr/local/lib", "usr/local/man",
   "usr/local/sbin", "usr/local/share", "usr/local/src", "usr/sbin", "usr/share", "usr/share/doc",
   "usr/share/man", "usr/src", "var", "var/backups", "var/cache", "var/lib", "var/local",
   "var/lock", "var/log", "var/mail", "var/opt", "var/run", "var/spool", "var/tmp"]

/-- Files that every system has. -/
def systemFiles : List String :=
  ["bin/bash", "bin/cat", "bin/ls", "bin/sh", "etc/bash.bashrc", "etc/environment", "etc/fstab",
   "etc/group", "etc/gshadow", "etc/host.conf", "etc/hostname", "etc/hosts", "etc/issue",
   "etc/ld.so.cache", "etc/ld.so.conf", "etc/localtime", "etc/login.defs", "etc/machine-id",
   "etc/mtab", "etc/nsswitch.conf", "etc/os-release", "etc/passwd", "etc/profile",
   "etc/resolv.conf", "etc/shadow", "etc/shells", "proc/cmdline", "proc/cpuinfo", "proc/devices",
   "proc/filesystems", "proc/loadavg", "proc/meminfo", "proc/modules", "proc/mounts",
   "proc/partitions", "proc/self/cmdline", "proc/self/environ", "proc/self/maps",
   "proc/self/status", "proc/stat", "proc/uptime", "proc/version", "usr/bin/bash", "usr/bin/cat",
   "usr/bin/env", "usr/bin/ls", "usr/bin/sh"]

/-- Devices: those that take everything, one that takes nothing, and one without a connection. -/
def devices : List String :=
  ["dev/null", "dev/zero", "dev/random", "dev/urandom", "dev/full", "dev/tty"]

/-- Why a device cannot be opened, or cannot be written to. -/
def deviceError? (path : String) (writing : Bool) : Spot → Option FileError
  | .outside ["dev", "tty"] => some (.noDevice path)
  | .outside ["dev", "full"] => if writing then some .noSpace else none
  | _ => none

/-- Why a file cannot be made in a directory of the system that shows what is not stored. -/
def makingError? (path : String) : Spot → Option FileError
  | .outside ("proc" :: _) => some (.notFound path)
  | .outside ("sys" :: _) => some (.denied path)
  | .outside ("dev" :: "pts" :: _) => some (.denied path)
  | _ => none

/-- Whether there is a directory at a spot. -/
def isDirectory (disk : Disk) : Spot → Bool
  | .inside place =>
    place.isEmpty || disk.entries.any fun (name, text) =>
      (name = place && text.isNone) || (place.isPrefixOf name && place ≠ name)
  | .outside place => place.isEmpty || systemDirectories.contains ("/".intercalate place)

/-- The text of the file at a spot. What the files of the system hold is not known, only that it is
no document and sets nothing. -/
def text? (disk : Disk) : Spot → Option String
  | .inside place => (disk.entries.lookup place).join
  | .outside place =>
    let path := "/".intercalate place
    if devices.contains path then some ""
    else if systemFiles.contains path then some "#"
    else none

/-! ## Paths on a disk -/

/-- The longest name of a file. -/
def maxNameBytes : Nat := 255

/-- The longest path. -/
def maxPathBytes : Nat := 4095

/-- Walk the segments of `path` from a directory on. -/
def walk (disk : Disk) (path : String) : Spot → List String → Except FileError Place
  | _, [] => .ok .directory
  | spot, segment :: rest =>
    if maxNameBytes < (Units.toPlain segment).utf8ByteSize then .error (.nameTooLong path)
    else if segment = "." then disk.walk path spot rest
    else if segment = ".." then disk.walk path spot.parent rest
    else
      let next := spot.child segment
      if disk.isDirectory next then disk.walk path next rest
      else match disk.text? next, rest with
        | some text, [] => .ok (.file next text)
        | some _, _ => .error (.notDirectory path)
        | none, [] => .ok (.vacant next)
        | none, _ => .error (.notFound path)

/-- What a path leads to. A slash at its end asks for a directory: for the one it names when a file
is read, and for one to name in it when a file is made. -/
def locate (disk : Disk) (path : String) (making : Bool) : Except FileError Place :=
  let chars := path.toList
  let names := Path.segments path
  let start : Spot := if chars.head? = some '/' then .outside [] else .inside []
  if chars.contains '\x00' then .error (.malformedPath path)
  else if chars.isEmpty then .error (.notFound path)
  else if maxPathBytes < (Units.toPlain path).utf8ByteSize then .error (.nameTooLong path)
  else if chars.getLast? = some '/' then
    disk.walk path start ((if making then names.dropLast else names) ++ ["."])
  else disk.walk path start names

def read (disk : Disk) (path : String) : Except FileError String := do
  let path := Units.mended path
  match ← disk.locate path false with
  | .directory => throw .readsDirectory
  | .file spot text =>
    match deviceError? path false spot with
    | some e => throw e
    | none => return text
  | .vacant _ => throw (.notFound path)

/-- The disk with the text at a spot. -/
def putAt (disk : Disk) (text : String) : Spot → Disk
  | .inside place => disk.put place (some (Units.mended text))
  | .outside _ => disk

def write (disk : Disk) (path text : String) : Except FileError Disk := do
  let path := Units.mended path
  match ← disk.locate path true with
  | .directory => throw (.opensDirectory path)
  | .file spot _ =>
    match deviceError? path true spot with
    | some e => throw e
    | none => return disk.putAt text spot
  | .vacant spot =>
    match makingError? path spot with
    | some e => throw e
    | none => return disk.putAt text spot

/-- The files that are new in `after` or have another text, by their paths. -/
def changes (before after : Disk) : List (String × String) :=
  after.entries.filterMap fun (place, text) =>
    match text with
    | some text =>
      if before.text? (.inside place) = some text then none
      else some ("/".intercalate place, text)
    | none => none

theorem text?_put (disk : Disk) (place : List String) (text : String) :
    (disk.put place (some text)).text? (.inside place) = some text := by
  simp [put, text?]

end Disk

end ProverInput
