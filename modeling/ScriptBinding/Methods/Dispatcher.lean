import ScriptBinding.Methods.Binding

/-!
Overloads. The bindings of one member share a function, which selects by the number of arguments.
-/

namespace ScriptBinding

structure Dispatcher where
  member : Member
  functionName : String
  overloads : List Binding := []
deriving DecidableEq

/-- The elements that occur exactly once before, in the order of their second occurrences. -/
def secondOccurrences {α : Type} [BEq α] (before : List α) : List α → List α
  | [] => []
  | a :: rest =>
    if before.count a = 1 then a :: secondOccurrences (a :: before) rest
    else secondOccurrences (a :: before) rest

/-- The numbers of arguments that more than one overload takes. -/
def Dispatcher.ambiguousArities (d : Dispatcher) : List Int :=
  secondOccurrences [] (d.overloads.map (·.arity))

def firstOccurrences {α : Type} [BEq α] (before : List α) : List α → List α
  | [] => []
  | a :: rest =>
    if before.contains a then firstOccurrences before rest
    else a :: firstOccurrences (a :: before) rest

def avoidWithin (used : List String) : Nat → String → String
  | 0, name => name
  | fuel + 1, name => if used.contains name then avoidWithin used fuel (name ++ "_method") else name

/-- The first of `name`, `name_method`, `name_method_method`, … that is not used; one more try than
there are used names always finds it. -/
def avoid (used : List String) (name : String) : String := avoidWithin used used.length name

structure Naming where
  scriptClass : ScriptClass
  reserved : List String := []

structure Dispatchers where
  methods : List Dispatcher
  constructor : Dispatcher
  warnings : List String

namespace Naming

variable (n : Naming)

def taken : List String := n.scriptClass.constructor :: n.scriptClass.init :: n.reserved

def functionName (member : Member) (others : List String) : String :=
  match member with
  | .constructor => n.scriptClass.constructor
  | .method name => avoid (n.taken ++ others) (n.scriptClass.ident ++ "_" ++ name)

def nameMembers (others : List String) : List Member → List (Member × String)
  | [] => []
  | member :: rest =>
    let name := n.functionName member others
    (member, name) :: nameMembers (others ++ [name]) rest

/-- A dispatcher for each member, in the order of first bindings. -/
def dispatchers (bindings : List Binding) : List Dispatcher :=
  (n.nameMembers [] (firstOccurrences [] (bindings.map (·.member)))).map fun (member, name) =>
    ⟨member, name, bindings.filter (·.member = member)⟩

def noConstructorWarning : String :=
  "  >> warning: " ++ n.scriptClass.name ++ " has no public constructor that can be wrapped"

/-- The number is written in full, as in the code of a guard. -/
def ambiguityWarning (member : Member) (arity : Int) : String :=
  "  >> warning: " ++ n.scriptClass.label member ++ " has several overloads taking " ++
    toString arity ++ " argument(s), the first one wins"

def ambiguityWarnings (d : Dispatcher) : List String :=
  d.ambiguousArities.map (n.ambiguityWarning d.member)

/-- The dispatchers of methods, and that of the constructor, which may have nothing to select from. -/
def dispatch (bindings : List Binding) : Dispatchers :=
  let all := n.dispatchers bindings
  let methods := all.filter (·.member ≠ .constructor)
  let found := all.find? (·.member = .constructor)
  let constructor := found.getD ⟨.constructor, n.functionName .constructor [], []⟩
  let missing := if found.isNone then [n.noConstructorWarning] else []
  ⟨methods, constructor, missing ++ (methods ++ [constructor]).flatMap n.ambiguityWarnings⟩

end Naming

end ScriptBinding
