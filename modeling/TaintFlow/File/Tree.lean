/-
Module: TaintFlow.File.Tree
Purpose: Files that are given as values. A tree lists files and directories by the names on the way to
  them; the directories above a listed place need not be listed. A path is followed name by name.
Main exports: File.Tree, File.Tree.ofList, File.Tree.find, File.Homes.ofSystem
-/
import TaintFlow.File

namespace TaintFlow.File

/-- The names on the way to a place. -/
abbrev Way := List String

/-- The names of a path; empty ones and `.` lead nowhere. -/
def way (path : String) : Way := (path.splitOn "/").filter fun s => s != "" && s != "."

/-- What stands at the ways to some places. The root of a tree is some directory, or the root of the
    whole file system, which has nothing above it. -/
structure Tree where
  places : List (Way × Entry) := []
  isWhole : Bool := false
deriving Inhabited

namespace Tree

/-- The tree of some files by path. A path that ends in a slash is that of a directory. -/
def ofList (files : List (String × ByteArray)) : Tree :=
  { places := files.map fun (path, bytes) =>
      (way path, if path.endsWith "/" then .directory else .file bytes) }

/-- The directories that every system has, by the directory they are in. -/
def systemDirectories : List (Way × List String) :=
  [([], ["bin", "boot", "etc", "home", "lib", "lib64", "media", "mnt", "opt", "proc", "root", "run", "sbin",
      "srv", "sys", "tmp"]),
   (["dev"], ["pts", "shm"]),
   (["usr"], ["bin", "games", "include", "lib", "sbin", "share", "src"]),
   (["usr", "local"], ["bin", "etc", "games", "include", "lib", "sbin", "share", "src"]),
   (["var"], ["backups", "cache", "lib", "local", "lock", "log", "mail", "opt", "run", "spool", "tmp"])]

/-- What every system has: its directories, and the device without content. -/
def ofSystem : Tree :=
  { places := (["dev", "null"], .device .empty) ::
      systemDirectories.flatMap fun (above, names) => names.map fun name =>
        (above ++ [name], .directory)
    isWhole := true }

/-- What stands at a place. -/
def entryAt (t : Tree) (place : Way) : Entry :=
  match t.places.lookup place with
  | some entry => entry
  | none =>
      if place.isEmpty || t.places.any fun p => place.isPrefixOf p.1 then .directory else .missing

/-- Follow names from a place; `path` is the whole path. Nothing is known above a tree but that there
    are directories. -/
def follow (t : Tree) (path : String) (here : Way) : Way → Entry
  | [] => t.entryAt here
  | name :: rest =>
      match t.entryAt here with
      | .directory =>
          if isOverlong name then .unlocatable (.overlongPath path)
          else if name ≠ ".." then t.follow path (here ++ [name]) rest
          else if t.isWhole || !here.isEmpty then t.follow path here.dropLast rest
          else if rest.all (· = "..") then .directory
          else .missing
      | .file _ => .blocked
      | .device _ => .blocked
      | other => other

/-- What a path leads to from the root of the tree. -/
def find (t : Tree) (path : String) : Entry :=
  let path := normalize path
  if isOverlongPath path then .unlocatable (.overlongPath path)
  else (if path.startsWith "/" then ofSystem else t).follow path [] (way path)

/-- What a path leads to from the root of the tree, given the home directories. -/
def input (t : Tree) (homes : Homes) (path : String) : String × Entry :=
  match locate homes path with
  | .ok path => (path, t.find path)
  | .error reason => (path, .unlocatable reason)

end Tree

/-- The users that every system has and their home directories. -/
def systemUsers : List (String × String) :=
  [("root", "/root"), ("daemon", "/usr/sbin"), ("bin", "/bin"), ("sys", "/dev"), ("sync", "/bin"),
   ("games", "/usr/games"), ("man", "/var/cache/man"), ("lp", "/var/spool/lpd"), ("mail", "/var/mail"),
   ("news", "/var/spool/news"), ("uucp", "/var/spool/uucp"), ("proxy", "/bin"), ("www-data", "/var/www"),
   ("backup", "/var/backups"), ("list", "/var/list"), ("irc", "/run/ircd"), ("nobody", "/nonexistent")]

/-- The home directories that every system has, where the user who asks is the first one. -/
def Homes.ofSystem : Homes := { own := some "/root", users := systemUsers }

end TaintFlow.File
