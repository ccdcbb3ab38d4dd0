/-! # Files

What the command line needs from a file system, and a small one in memory: a single folder of
named texts. A path is followed name by name; nothing is known of what lies outside the folder.
-/

namespace Microbus
set_option autoImplicit false

inductive FileFault where
  | missing
  | isFolder
  | beyondFile
  | nameTooLong
  | other (message : String)

def FileFault.message : FileFault → String
  | missing => "No such file or directory (os error 2)"
  | isFolder => "Is a directory (os error 21)"
  | beyondFile => "Not a directory (os error 20)"
  | nameTooLong => "File name too long (os error 36)"
  | other message => message

structure FileAccess (m : Type → Type) where
  read : String → m (Except FileFault String)
  write : String → String → m (Except FileFault Unit)

/-- A path, taken apart. A slash in front makes it start at the root, and one at the end asks for a
folder. -/
structure FilePath where
  fromRoot : Bool
  names : List String
  asksFolder : Bool

namespace FilePath

def sizeBound : Nat := 4096

def maxNameSize : Nat := 255

def ofText (text : String) : Except FileFault FilePath :=
  if text.isEmpty then .error .missing
  else if sizeBound ≤ text.utf8ByteSize then .error .nameTooLong
  else .ok ⟨text.startsWith "/", (text.splitOn "/").filter (· != ""), text.endsWith "/"⟩

end FilePath

structure Folder where
  files : List (String × String)

namespace Folder

def find? (f : Folder) (name : String) : Option String := f.files.lookup name

inductive Spot where
  | home
  | outside
  | file (text : String)

def startOf (path : FilePath) : Spot := if path.fromRoot then .outside else .home

def follow (f : Folder) (spot : Spot) (name : String) : Except FileFault Spot :=
  match spot with
  | .file _ => .error .beyondFile
  | spot =>
      if name = "." then .ok spot
      else if name = ".." then .ok .outside
      else if FilePath.maxNameSize < name.utf8ByteSize then .error .nameTooLong
      else
        match spot, f.find? name with
        | .home, some text => .ok (.file text)
        | _, _ => .error .missing

def followAll (f : Folder) (spot : Spot) : List String → Except FileFault Spot
  | [] => .ok spot
  | name :: names =>
      match f.follow spot name with
      | .ok next => f.followAll next names
      | .error e => .error e

def read (f : Folder) (text : String) : Except FileFault String := do
  let path ← FilePath.ofText text
  match ← f.followAll (startOf path) path.names with
  | .file content => if path.asksFolder then .error .beyondFile else .ok content
  | .home | .outside => .error .isFolder

/-- Writes a file, which is made if it is not there. What is written outside the folder is not
kept. -/
def write (f : Folder) (text content : String) : Except FileFault Folder := do
  let path ← FilePath.ofText text
  let spot ← f.followAll (startOf path) path.names.dropLast
  match spot, path.names.getLast? with
  | .file _, _ => .error .beyondFile
  | _, none => .error .isFolder
  | spot, some name =>
      if path.asksFolder ∨ name = "." ∨ name = ".." then .error .isFolder
      else if FilePath.maxNameSize < name.utf8ByteSize then .error .nameTooLong
      else
        match spot with
        | .home => .ok ⟨(name, content) :: f.files.filter fun file => file.1 != name⟩
        | _ => .ok f

def access : FileAccess (StateM Folder) where
  read name := do return (← get).read name
  write name text := do
    match (← get).write name text with
    | .ok f =>
        set f
        return .ok ()
    | .error e => return .error e

end Folder

end Microbus
