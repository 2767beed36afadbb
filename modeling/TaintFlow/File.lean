/-
Module: TaintFlow.File
Purpose: Paths and the text of files. What stands at a path is given as a value, so that reading is a
  function; the program's outer layer supplies it.
Main exports: File.Entry, File.normalize, File.Homes, File.locate, File.text
-/
import TaintFlow.Breakdown
import TaintFlow.Text.Lines
import TaintFlow.Text.Utf8

namespace TaintFlow.File

/-- What stands at a path. A device can be read like a file. A path may also be one that cannot be looked
    up at all. -/
inductive Entry where
  | missing
  | directory
  | blocked
  | unlocatable (reason : Breakdown)
  | device (bytes : ByteArray)
  | file (bytes : ByteArray)
deriving Inhabited

/-- Is the entry a file? -/
def Entry.isFile : Entry → Bool
  | .file _ => true
  | _ => false

/-- Is the name of a file too long for a file system? -/
def isOverlong (name : String) : Bool := 255 < name.utf8ByteSize

/-- Is a whole path too long to be looked up? -/
def isOverlongPath (path : String) : Bool := 4095 < path.utf8ByteSize

/-- A path in normal form: empty and `.` segments are dropped, `..` is kept, and the empty path is the
    current directory. Two leading slashes are kept, any other number counts as one. -/
def normalize (path : String) : String :=
  let slashes := (path.toList.takeWhile (· = '/')).length
  let root := if slashes = 0 then "" else if slashes = 2 then "//" else "/"
  let segments := (path.splitOn "/").filter fun s => s != "" && s != "."
  let body := String.intercalate "/" segments
  if root ++ body = "" then "." else root ++ body

/-- Where the home directories are: that of the user who asks, and those of users by name. -/
structure Homes where
  own : Option String := none
  users : List (String × String) := []
deriving DecidableEq, Repr, Inhabited

/-- The home directories of the accounts that some lines list. The fields of a line are parted by
    colons: the name of a user is the first, the home directory the sixth. -/
def Homes.ofAccounts (own : Option String) (lines : List String) : Homes :=
  { own
    users := lines.filterMap fun line =>
      match line.splitOn ":" with
      | name :: _ :: _ :: _ :: _ :: home :: _ => some (name, home)
      | _ => none }

/-- The home directory that a segment names: a tilde, perhaps with the name of a user after it. -/
def Homes.find? (homes : Homes) (segment : String) : Option String :=
  match segment.toList with
  | '~' :: [] => homes.own
  | '~' :: name => homes.users.lookup (String.ofList name)
  | _ => none

/-- The path in normal form with a home directory in place of a tilde in front. -/
def locate (homes : Homes) (path : String) : Except Breakdown String :=
  let path := normalize path
  if path.startsWith "~" then
    let (first, rest) := path.toList.span (· ≠ '/')
    match homes.find? (String.ofList first) with
    | some home => .ok (normalize (home ++ String.ofList rest))
    | none => .error .unknownHome
  else .ok path

/-- Why a file has no text. -/
inductive Fault where
  | missing (path : String)
  | directory (path : String)
  | blocked (path : String)
  | unlocatable (reason : Breakdown)
  | encoding (reason : Text.Utf8.Fault)
deriving DecidableEq, Repr, Inhabited

/-- The diagnostic for a fault. -/
def Fault.message : Fault → String
  | .missing path => "[Errno 2] No such file or directory: " ++ Text.quote path
  | .directory path => "[Errno 21] Is a directory: " ++ Text.quote path
  | .blocked path => "[Errno 20] Not a directory: " ++ Text.quote path
  | .unlocatable reason => reason.message
  | .encoding reason => reason.message

/-- The text that bytes encode, with line ends unified. -/
def decode (bytes : ByteArray) : Except Fault String :=
  match Text.Utf8.decode bytes with
  | .ok s => .ok (Text.unifyLineEnds s)
  | .error reason => .error (.encoding reason)

/-- The text of the entry at a path. -/
def text (path : String) : Entry → Except Fault String
  | .missing => .error (.missing path)
  | .directory => .error (.directory path)
  | .blocked => .error (.blocked path)
  | .unlocatable reason => .error (.unlocatable reason)
  | .device bytes => decode bytes
  | .file bytes => decode bytes

end TaintFlow.File
