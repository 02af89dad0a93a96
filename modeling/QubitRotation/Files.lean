import QubitRotation.Json.Model
import QubitRotation.Journal

/-!
# Reading settings from files

`Files` is whatever answers a path with a text or the reason why there is none; the reasons
carry the operating system's wording. A `Directory` is such an answerer: some texts under their
paths, with the directories that those paths imply. Outside it only what every system has is
within reach.
-/

namespace QubitRotation

/-- Why a file gives no text. -/
inductive Unreadable
  | notFound
  | isDirectory
  | notDirectory
  | nameTooLong
  | zeroByteInPath
  | notText
  | other (report : String)
  deriving DecidableEq, Repr

/-- The wording of a reason. -/
def Unreadable.message : Unreadable → String
  | notFound => "No such file or directory (os error 2)"
  | isDirectory => "Is a directory (os error 21)"
  | notDirectory => "Not a directory (os error 20)"
  | nameTooLong => "File name too long (os error 36)"
  | zeroByteInPath => "file name contained an unexpected NUL byte"
  | notText => "stream did not contain valid UTF-8"
  | other report => report

/-- The texts that can be read, by path. -/
abbrev Files := String → Except Unreadable String

/-- Texts under paths relative to one directory. -/
abbrev Directory := List (String × String)

namespace Directory

/-- The names of a path, without the empty ones and those for the directory itself. -/
def names (path : String) : List String :=
  ((path.toList.splitOn '/').map String.ofList).filter fun name => name != "" && name != "."

/-- Whether a path insists on a directory: it ends behind a slash or in a dot. -/
def asksDirectory (path : String) : Bool :=
  match (path.toList.splitOn '/').getLast? with
  | some last => last == [] || last == ['.'] || last == ['.', '.']
  | none => true

/-- What lies at a place that is given by its names from the directory on. -/
inductive Entry
  | file (text : String)
  | folder
  | nothing

/-- Looks up a place in the directory; of two texts at one place the later one counts. -/
def entry (directory : Directory) (place : List String) : Entry :=
  match directory.reverse.find? fun (path, _) => names path == place with
  | some (_, text) => .file text
  | none =>
      if place.isEmpty || directory.any fun (path, _) => place.isPrefixOf (names path) then .folder
      else .nothing

/-- What is known of a folder above the directory: that it is one. -/
def above : List String → Entry
  | [] => .folder
  | _ => .nothing

/-- The places that every system has at its root, among them a file that is always empty. -/
def root : List String → Entry
  | [] | ["dev"] | ["tmp"] => .folder
  | ["dev", "null"] => .file ""
  | _ => .nothing

/-- The bytes that a single name may have. -/
def longestName : Nat := 255

/-- The bytes that a whole path may have, whatever it leads to. -/
def longestPath : Nat := 4095

/-- Follows names from a place among the entries; who leaves them goes on among the `outer`
ones. -/
def follow (outer : List String → Entry) (asksFolder : Bool) (entries : List String → Entry)
    (place : List String) : List String → Except Unreadable String
  | [] =>
      match entries place with
      | .file text => if asksFolder then .error .notDirectory else .ok text
      | .folder => .error .isDirectory
      | .nothing => .error .notFound
  | name :: rest =>
      match entries place with
      | .file _ => .error .notDirectory
      | .nothing => .error .notFound
      | .folder =>
          if longestName < name.utf8ByteSize then .error .nameTooLong
          else if name != ".." then follow outer asksFolder entries (place ++ [name]) rest
          else if place.isEmpty then follow outer asksFolder outer [] rest
          else follow outer asksFolder entries place.dropLast rest

/-- The text at a path, seen from the directory. -/
def files (directory : Directory) : Files := fun path =>
  if path.toList.contains '\x00' then .error .zeroByteInPath
  else if path.isEmpty then .error .notFound
  else if longestPath < path.utf8ByteSize then .error .nameTooLong
  else if path.startsWith "/" then follow root (asksDirectory path) root [] (names path)
  else follow above (asksDirectory path) directory.entry [] (names path)

end Directory

namespace Settings

/-- The settings that a file holds as a JSON text, if they are valid. -/
def ofFile (files : Files) (path : String) : Except Fault Settings :=
  match files path with
  | .ok text => ofJson text
  | .error reason => .error (.file s!"{path}: {reason.message}")

/-- The records of `Settings.ofFile`, which notes a file as soon as it has its text. -/
def ofFileJournal (files : Files) (path : String) : List Record :=
  match files path with
  | .ok _ => [⟨.debug, s!"loaded config from {path}"⟩]
  | .error _ => []

end Settings

end QubitRotation
