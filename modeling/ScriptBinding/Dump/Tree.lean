import ScriptBinding.Dump.Entry
import ScriptBinding.Text.Lines
import ScriptBinding.Text.Utf8

/-!
The forest that the depths of a dump's entries describe. A node is known by its place in document
order; each node carries the places of the nodes it lies in.
-/

namespace ScriptBinding.Dump

open Text

/-- An entry and the nodes around it, nearest first. -/
structure Node extends Entry where
  ancestors : List Nat
deriving DecidableEq

def Node.parent? (n : Node) : Option Nat := n.ancestors.head?

/-- The nodes in document order, the children of each of them, and the nodes that are no children. -/
structure Tree where
  nodes : Array Node := #[]
  below : Array (List Nat) := #[]
  roots : List Nat := []
deriving DecidableEq

/-- Adds an entry behind all nodes, as the last child of the nearest node around it. -/
def Tree.add (t : Tree) (e : Entry) (around : List Nat) : Tree where
  nodes := t.nodes.push { e with ancestors := around }
  below := (around.head?.elim t.below fun p => t.below.modify p (· ++ [t.nodes.size])).push []
  roots := if around.isEmpty then t.roots ++ [t.nodes.size] else t.roots

/-- The tree so far and the places of the nodes that are still open, nearest first. -/
structure Linking extends Tree where
  opened : List Nat := []

/-- An entry lies in the nearest open node of a smaller depth and closes all others. -/
def Linking.next (l : Linking) (e : Entry) : Linking :=
  let around := l.opened.dropWhile fun i => l.nodes[i]?.all (e.depth ≤ ·.depth)
  ⟨l.toTree.add e around, l.nodes.size :: around⟩

namespace Tree

def ofEntries (entries : List Entry) : Tree := (entries.foldl Linking.next {}).toTree

def ofLines (lines : List Line) : Tree := ofEntries (entriesOf lines)

def parseChars (cs : List Char) : Except Fault Tree := (lines cs).mapM Line.read |>.map ofLines

def parse (text : String) : Except Fault Tree := parseChars text.toList

def load (bytes : List UInt8) : Except Fault Tree := parseChars (plainNewlines (decodeUtf8 bytes))

def size (t : Tree) : Nat := t.nodes.size

def places (t : Tree) : List Nat := List.range t.size

def parent? (t : Tree) (i : Nat) : Option Nat := t.nodes[i]?.bind (·.parent?)

def children (t : Tree) (i : Nat) : List Nat := t.below[i]?.getD []

def hasTag (t : Tree) (tag : String) (i : Nat) : Bool := t.nodes[i]?.any (·.tag = tag)

def childrenTagged (t : Tree) (tag : String) (i : Nat) : List Nat :=
  (t.children i).filter (t.hasTag tag)

/-- The last node with this offset. -/
def lookup (t : Tree) (offset : Nat) : Option Nat :=
  t.places.reverse.find? fun i => t.nodes[i]?.any (·.offset = offset)

def tagged (t : Tree) (tag : String) : List Nat := t.places.filter (t.hasTag tag)

def name? (t : Tree) (i : Nat) : Option String := t.nodes[i]?.bind (·.name?)

def typeReference? (t : Tree) (i : Nat) : Option Nat := t.nodes[i]?.bind (·.typeReference?)

/-- The names of the classes and namespaces directly around a node, outermost first; one without a
name adds none. -/
def scopeNames (t : Tree) (n : Node) : List String :=
  ((n.ancestors.filterMap (t.nodes[·]?)).takeWhile (·.isScope)).filterMap
    (fun s => s.name?.filter (· ≠ "")) |>.reverse

def qualifiedName? (t : Tree) (i : Nat) : Option String := do
  let n ← t.nodes[i]?
  let name ← n.name?
  return String.intercalate "::" (t.scopeNames n ++ [name])

end Tree

end ScriptBinding.Dump
