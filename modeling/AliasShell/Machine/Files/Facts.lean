/-
What the system tells of a node besides what it holds: its number, how many names it has, how much
room it takes.
-/
import AliasShell.Machine.Files.Change

namespace AliasShell.Files

/-- The number of the file, if it is a file with several names. -/
def sharedNumber : Node → Nat
  | .file _ t => t.number
  | _ => 0

/-- How many names lead to a node; a directory has one in itself and one in each directory in it. -/
def linkCount (fs : Files) (loc : Location) (node : Node) : Nat :=
  match node with
  | .dir _ => 2 + ((fs.children loc).filter fun e => e.2.isDir).length
  | node =>
    if sharedNumber node = 0 then 1
    else (fs.nodes.filter fun e => sharedNumber e.2 = sharedNumber node).length

/-- A number that no other node has. -/
def serialNumber (fs : Files) (loc : Location) (node : Node) : Nat :=
  let isSame (e : Location × Node) : Bool :=
    if sharedNumber node = 0 then e.1 == loc else sharedNumber e.2 == sharedNumber node
  100000 + (fs.nodes.findIdx isSame)

/-- The length of what a node holds. -/
def sizeOf : Node → Nat
  | .dir _ => 4096
  | .file data _ => data.length
  | .link target _ => target.length
  | .device _ => 0

/-- How many blocks of 512 bytes a node takes. -/
def blocksOf : Node → Nat
  | .dir _ => 8
  | .file data _ => (data.length + 4095) / 4096 * 8
  | _ => 0

/-- The rights of a node and what kind it is, as the system keeps them in one number. -/
def fullMode (node : Node) : Nat :=
  node.mode + match node with
    | .dir _ => 0o040000
    | .file .. => 0o100000
    | .link .. => 0o120000
    | .device _ => 0o020000

/-- The letter for the kind of a node. -/
def kindLetter : Node → Char
  | .dir _ => 'd'
  | .file .. => '-'
  | .link .. => 'l'
  | .device _ => 'c'

/-- The node, changed at some time. -/
def datedTo (time : Moment) : Node → Node
  | .dir t => .dir { t with modified := time }
  | .file data t => .file data { t with modified := time }
  | .link target _ => .link target time
  | node => node

/-- The node with other rights. -/
def withMode (mode : Nat) : Node → Node
  | .dir t => .dir { t with mode }
  | .file data t => .file data { t with mode }
  | node => node

end AliasShell.Files
