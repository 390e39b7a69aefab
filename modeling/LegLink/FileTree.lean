set_option autoImplicit false

namespace LegLink

structure SystemError where
  code : Nat
  text : String
deriving DecidableEq

namespace SystemError

def missing : SystemError := ⟨2, "No such file or directory"⟩
def notDirectory : SystemError := ⟨20, "Not a directory"⟩
def isDirectory : SystemError := ⟨21, "Is a directory"⟩
def malformed : SystemError := ⟨22, "Invalid argument"⟩
def notTerminal : SystemError := ⟨25, "Not a typewriter"⟩
def nameTooLong : SystemError := ⟨36, "File name too long"⟩

def known : List SystemError :=
  [missing, notDirectory, isDirectory, malformed, notTerminal, nameTooLong]

def ofCode (code : Nat) (text : String) : SystemError :=
  (known.find? fun e => e.code = code).getD ⟨code, text⟩

def describe (e : SystemError) : String := e.text ++ " (os error " ++ toString e.code ++ ")"

end SystemError

abbrev FileContents := Except SystemError ByteArray

inductive FileNode where
  | directory
  | file (data : ByteArray)
  | device
  | serialPort

structure FileTree where
  nodes : List (List String × FileNode)
  here : List String := []

namespace FileTree

-- In bytes; a path ends with one more, which is not counted here.
def maxName : Nat := 255
def maxPath : Nat := 4095

def node? (t : FileTree) (place : List String) : Option FileNode :=
  if place.isEmpty then some .directory else t.nodes.lookup place

-- Only a directory can be walked on from, so a slash after the name of anything else is an error.
def walk (t : FileTree) (place : List String) : List String → Except SystemError FileNode
  | [] =>
    match t.node? place with
    | some node => .ok node
    | none => .error .missing
  | name :: names =>
    match t.node? place with
    | none => .error .missing
    | some .directory =>
      if name = "" || name = "." then t.walk place names
      else if name = ".." then t.walk place.dropLast names
      else if maxName < name.utf8ByteSize then .error .nameTooLong
      else t.walk (place ++ [name]) names
    | some _ => .error .notDirectory

def find (t : FileTree) (path : String) : Except SystemError FileNode :=
  if path.isEmpty then .error .missing
  else if path.toList.contains '\x00' then .error .malformed
  else if maxPath < path.utf8ByteSize then .error .nameTooLong
  else t.walk (if path.toList.head? = some '/' then [] else t.here) (path.splitOn "/")

def read (t : FileTree) (path : String) : FileContents :=
  match t.find path with
  | .error e => .error e
  | .ok .directory => .error .isDirectory
  | .ok (.file data) => .ok data
  | .ok .device | .ok .serialPort => .ok .empty

def openPort (t : FileTree) (path : String) : Except SystemError Unit :=
  match t.find path with
  | .error e => .error e
  | .ok .directory => .error .isDirectory
  | .ok (.file _) | .ok .device => .error .notTerminal
  | .ok .serialPort => .ok ()

def add (name : String) (node : FileNode) (t : FileTree) : FileTree :=
  { t with nodes := (t.here ++ [name], node) :: t.nodes }

def plain : FileTree where
  nodes :=
    ["bin", "boot", "dev", "etc", "home", "lib", "media", "mnt", "opt", "proc", "root", "run",
      "sbin", "srv", "sys", "tmp", "usr", "var"].map (fun name => ([name], .directory)) ++
    ["fd", "pts", "shm"].map (fun name => (["dev", name], .directory)) ++
    ["full", "null", "stderr", "stdin", "stdout", "zero"].map
      (fun name => (["dev", name], .device)) ++
    [(["etc", "hosts"], .file "127.0.0.1 localhost\n".toUTF8),
      (["etc", "passwd"], .file "root:x:0:0::/root:/bin/sh\n".toUTF8),
      (["tmp", "work"], .directory)]
  here := ["tmp", "work"]

end FileTree
end LegLink
