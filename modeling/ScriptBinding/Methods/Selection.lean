import ScriptBinding.Dump.Tree

/-!
The class that is asked for, and its public methods.
-/

namespace ScriptBinding.Dump.Tree

def better (t : Tree) (best : Option Nat) (i : Nat) : Option Nat :=
  match best with
  | none => some i
  | some b => if (t.children b).length < (t.children i).length then some i else some b

/-- The class of this name with the most children, the first of equals: a dump also holds forward
declarations of a class. -/
def findClass (t : Tree) (name : String) : Except Fault Nat :=
  let named := (t.tagged "class_type").filter fun i => t.name? i = some name
  match named.foldl t.better none with
  | some i => .ok i
  | none => .error (.classNotFound name)

def publicMethods (t : Tree) (i : Nat) : List Nat :=
  (t.childrenTagged "subprogram" i).filter fun m =>
    t.nodes[m]?.any (·.access? = some .isPublic)

end ScriptBinding.Dump.Tree
