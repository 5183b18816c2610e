/-
Backspaces in a line that is read: each takes away the cluster that was read before it.

A cluster is remembered by the length of its encoding, for which there is one byte, so of a cluster
of 256 bytes or more only what is left over from multiples of 256 is taken away.
-/
import AliasShell.Text.Bytes
import AliasShell.Text.Cluster

namespace AliasShell

namespace Erase

/-- What was read so far. -/
structure Draft where
  /-- The characters, the last one first. -/
  backwards : Text
  /-- The lengths of the clusters that can be taken away, the last one first. -/
  sizes : List Nat
  deriving Repr, DecidableEq

/-- The cluster that takes another away. -/
def backspace : Text := ['\x08']

/-- A text without the characters at its beginning that these many bytes hold. -/
def dropBytes : Nat → Text → Text
  | _, [] => []
  | n, c :: cs =>
    let width := (String.utf8EncodeChar c).length
    if width ≤ n then dropBytes (n - width) cs else c :: cs

/-- The draft after one more cluster. -/
def Draft.read (d : Draft) (cluster : Text) : Draft :=
  if cluster = backspace then
    match d.sizes with
    | [] => d
    | n :: sizes => ⟨dropBytes n d.backwards, sizes⟩
  else ⟨cluster.reverse ++ d.backwards, cluster.byteLength % 256 :: d.sizes⟩

end Erase

/-- The line that is left of what was read. -/
def Text.erased (t : Text) : Text :=
  if t.contains '\x08' then (t.clusters.foldl Erase.Draft.read ⟨[], []⟩).backwards.reverse else t

end AliasShell
