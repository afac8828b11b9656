/-! # Files

The command reads files by path and wants their text. A failure to do so has a cause and a message.
A directory tree can be held as a value: the files below a working directory, each under its path.
Looking a path up in it goes component by component, as a file system does: every component in front
of the last has to be a directory, and what lies outside of the working directory is not there. A
component that is too long is refused when its turn comes, a path that is too long at once.
-/

namespace TapeMachine.Command

/-- Why a file has no text. -/
inductive FileFault where
  | notFound
  | notADirectory
  | isADirectory
  /-- The path or one of its components is longer than the file system allows. -/
  | nameTooLong
  /-- The bytes of the file are no UTF-8 text. -/
  | notText
  | other (message : String)
deriving DecidableEq, Repr

def FileFault.message : FileFault → String
  | notFound => "No such file or directory (os error 2)"
  | notADirectory => "Not a directory (os error 20)"
  | isADirectory => "Is a directory (os error 21)"
  | nameTooLong => "File name too long (os error 36)"
  | notText => "stream did not contain valid UTF-8"
  | other message => message

def textOfBytes (bytes : ByteArray) : Except FileFault String :=
  match String.fromUTF8? bytes with
  | some text => .ok text
  | none => .error .notText

/-- The components of a path. -/
abbrev Path := List String

def Path.ofString (path : String) : Path := path.splitOn "/"

def joinPath (directory file : String) : String :=
  if directory.isEmpty || directory.endsWith "/" then directory ++ file
  else directory ++ "/" ++ file

/-- The number of bytes that a component of a path may have. -/
def componentLimit : Nat := 255

def pathLimit : Nat := 4095

/-- The files below a working directory. -/
structure Directory where
  files : List (Path × ByteArray)

namespace Directory

/-- The bytes of the file at a path without detours. -/
def file? (directory : Directory) (path : Path) : Option ByteArray :=
  (directory.files.find? fun (other, _) => other = path).map (·.2)

/-- Whether a file lies somewhere below a path without detours. -/
def contains (directory : Directory) (path : Path) : Bool :=
  directory.files.any fun (other, _) => path.isPrefixOf other

/-- Follow the components of a path from the directory at `place`, or from outside of the tree. -/
def follow (directory : Directory) (place : Option Path) : Path → Except FileFault ByteArray
  | [] => .error .isADirectory
  | component :: rest =>
    if component = "" ∨ component = "." then directory.follow place rest
    else if component = ".." then
      match place with
      | none | some [] => directory.follow none rest
      | some (first :: more) => directory.follow (some (first :: more).dropLast) rest
    else if componentLimit < component.utf8ByteSize then .error .nameTooLong
    else
      match place with
      | none => .error .notFound
      | some place =>
        match directory.file? (place ++ [component]) with
        | some bytes => if rest = [] then .ok bytes else .error .notADirectory
        | none =>
          if directory.contains (place ++ [component]) then
            directory.follow (some (place ++ [component])) rest
          else .error .notFound

def read (directory : Directory) (path : String) : Except FileFault ByteArray :=
  if path.isEmpty then .error .notFound
  else if pathLimit < path.utf8ByteSize then .error .nameTooLong
  else if path.startsWith "/" then directory.follow none (.ofString path)
  else directory.follow (some []) (.ofString path)

end Directory

end TapeMachine.Command
