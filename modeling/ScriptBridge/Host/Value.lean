/-!
# Host values

What an editor variable can hold. Lists and dictionaries are references to containers of a
`Store`, so that two values can share one container.
-/

namespace ScriptBridge.Host

/-- Names a list of the store. -/
structure ListRef where
  id : Nat
deriving DecidableEq

/-- Names a dictionary of the store. -/
structure DictRef where
  id : Nat
deriving DecidableEq

/-- A host value. A function reference has a name and the arguments bound to it in front. -/
inductive Value where
  | null
  | number (n : Int64)
  | float (x : Float)
  | str (s : String)
  | list (l : ListRef)
  | dict (d : DictRef)
  | func (name : String) (bound : List Value)
deriving Inhabited

/-- Whether a container can be changed. A fixed one stays so. -/
inductive Lock where
  | unlocked
  | locked
  | fixed
deriving DecidableEq

/-- The number that stands for a lock on the script side. -/
def Lock.toInt : Lock → Int64
  | .unlocked => 0
  | .locked => 1
  | .fixed => 2

/-- Whether a dictionary is a variable scope. -/
inductive Scope where
  | plain
  | scoped
  | default
deriving DecidableEq

/-- The number that stands for a scope flag on the script side. -/
def Scope.toInt : Scope → Int64
  | .plain => 0
  | .scoped => 1
  | .default => 2

/-- Why a container was not changed. -/
inductive LockError where
  | listLocked
  | dictLocked
  | fixedList
  | fixedDict
  | outOfRange
deriving DecidableEq

/-- The wording of a refused change. -/
def LockError.message : LockError → String
  | .listLocked => "list is locked"
  | .dictLocked => "dictionary is locked"
  | .fixedList => "cannot modify fixed list"
  | .fixedDict => "cannot modify fixed dictionary"
  | .outOfRange => "list index out of range"

/-- The name of a value's type in messages. -/
def Value.typeName : Value → String
  | .null => "none"
  | .number _ => "number"
  | .float _ => "float"
  | .str _ => "string"
  | .list _ => "list"
  | .dict _ => "dict"
  | .func .. => "funcref"

end ScriptBridge.Host
