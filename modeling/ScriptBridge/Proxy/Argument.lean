import ScriptBridge.Bridge.Text

/-!
# Arguments of proxies

Positions, counts of arguments, numbers and truth values, as proxies take them from scripts.
-/

namespace ScriptBridge.Proxy

open Foreign (ObjRef)

variable {α : Type}

/-- A position in a sequence of `len` items; a negative one counts from the end. -/
def position (i : Int) (len : Nat) : Except ProxyError Nat :=
  let j := if i < 0 then i + len else i
  if j < 0 || (len : Int) ≤ j then .error (.index "index out of range") else .ok j.toNat

/-- Refuses a call that has fewer than `least` or more than `most` arguments. -/
def arity (name : String) (args : List ObjRef) (least most : Nat) : Act ProxyError Unit := do
  if args.length < least || most < args.length then
    let expected :=
      if least = most then toString least else toString least ++ " to " ++ toString most
    let plural := if most = 1 then "" else "s"
    Act.fail (.type (name ++ "() takes " ++ expected ++ " argument" ++ plural ++ " (" ++
      toString args.length ++ " given)"))

/-- An integer argument. -/
def intOf (r : ObjRef) : Act ProxyError Int64 := do
  match ← Bridge.inspect r with
  | .int n => pure n
  | .bool b => pure (if b then 1 else 0)
  | _ => Act.fail (.type ("expected int, got " ++ (← Bridge.typeName r)))

/-- An argument that counts as a truth value. -/
def truthOf (r : ObjRef) : Act ProxyError Bool := do
  match ← Bridge.inspect r with
  | .bool b => pure b
  | .int n => pure (n != 0)
  | .null => pure false
  | _ => Act.fail (.type ("expected bool or int, got " ++ (← Bridge.typeName r)))

/-- The failure of an object that misses an ability of its class. -/
def refuse (typeName what : String) : Act ProxyError α :=
  Act.fail (.type ("'" ++ typeName ++ "' object " ++ what))

end ScriptBridge.Proxy
