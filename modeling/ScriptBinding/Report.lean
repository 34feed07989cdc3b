import ScriptBinding.Fault

/-!
Results that come with the lines said on the way to them.
-/

namespace ScriptBinding

structure Report (α : Type) where
  lines : List String
  result : Except Fault α

namespace Report

variable {α β : Type}

def pure (a : α) : Report α := ⟨[], .ok a⟩

/-- What is said before a failure stays said. -/
def bind (r : Report α) (f : α → Report β) : Report β :=
  match r.result with
  | .ok a => ⟨r.lines ++ (f a).lines, (f a).result⟩
  | .error fault => ⟨r.lines, .error fault⟩

instance : Monad Report where
  pure := pure
  bind := bind

def say (lines : List String) : Report Unit := ⟨lines, .ok ()⟩

def ofResult (result : Except Fault α) : Report α := ⟨[], result⟩

end Report

end ScriptBinding
