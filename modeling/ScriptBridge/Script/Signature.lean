import ScriptBridge.Script.Attribute

/-!
# Signatures

How many arguments the methods of the interpreter take, and how a call that does not fit is worded.
-/

namespace ScriptBridge.Script

open Foreign (ObjRef Object)

variable {α : Type}

/-- The arguments of a call that have names. -/
abbrev Keywords := List (String × ObjRef)

/-- How many arguments a method takes. -/
inductive Signature where
  | none
  | one
  /-- At least and at most so many. -/
  | between (least most : Nat)
  /-- The same in other words, which tell what was given. -/
  | counted (least most : Nat)
  /-- The method looks at its arguments itself. -/
  | any
deriving DecidableEq

/-- A count of arguments in words. -/
def countedArguments (n : Nat) : String :=
  toString n ++ (if n = 1 then " argument" else " arguments")

/-- Refuses a call with too few or too many arguments. -/
def demandBetween (name : String) (args : List ObjRef) (least most : Nat) :
    Act ForeignError Unit := do
  let got := ", got " ++ toString args.length
  let exact := least = most
  if args.length < least then
    let bound := if exact then "" else "at least "
    typeError (name ++ " expected " ++ bound ++ countedArguments least ++ got)
  else if most < args.length then
    let bound := if exact then "" else "at most "
    typeError (name ++ " expected " ++ bound ++ countedArguments most ++ got)

/-- Refuses the arguments that a method of a class does not take. -/
def Signature.demand (s : Signature) (label name : String) (args : List ObjRef)
    (keywords : Keywords) : Act ForeignError Unit := do
  let short := name ++ "()"
  let called := label ++ "." ++ short
  let given := " (" ++ toString args.length ++ " given)"
  let noKeywords (called : String) : Act ForeignError Unit := do
    if !keywords.isEmpty then typeError (called ++ " takes no keyword arguments")
  match s with
  | .any => pure ()
  | .none => do
    noKeywords called
    if !args.isEmpty then typeError (called ++ " takes no arguments" ++ given)
  | .one => do
    noKeywords called
    if args.length ≠ 1 then typeError (called ++ " takes exactly one argument" ++ given)
  | .between least most => do
    noKeywords called
    demandBetween name args least most
  | .counted least most => do
    noKeywords short
    if args.length < least then
      typeError (short ++ " takes at least " ++ countedArguments least ++ given)
    if most < args.length then
      typeError (short ++ " takes at most " ++ countedArguments most ++ given)

/-- The failure of a method that this interpreter does not have. -/
def unsupported (name : String) : Act ForeignError α :=
  Act.fail (.exception (.other "NotImplementedError") name)

/-- An integer, as an object gives it. -/
def integer? (b : Bridge) (r : ObjRef) : Option Int :=
  match b.objects.get r with
  | .int n => some n
  | .bool x => some (if x then 1 else 0)
  | _ => none

/-- The failure of an argument that is no integer. -/
def notInteger (r : ObjRef) : Act ForeignError α := do
  typeError ("'" ++ (← Bridge.qualifiedType r) ++ "' object cannot be interpreted as an integer")

/-- An integer argument. -/
def integerOf (r : ObjRef) : Act ForeignError Int := do
  match integer? (← get) r with
  | some n => pure n
  | none => notInteger r

/-- An integer argument that counts items. -/
def countOf (r : ObjRef) : Act ForeignError Int := do
  let n ← integerOf r
  if Text.fitsInt64 n then pure n else Act.fail Bridge.uncountable

/-- A bound of the part of a sequence that is searched: negative ones count from the end. -/
def boundOf (len : Nat) (r : ObjRef) : Act ForeignError Nat := do
  match integer? (← get) r with
  | some n => return (if n < 0 then n + len else n).toNat
  | none => typeError "slice indices must be integers or have an __index__ method"

/-- The bounds of the part of a sequence that is searched, up to a last item that is given or not. -/
def searchBounds (len : Nat) (bounds : List ObjRef) : Act ForeignError (Nat × Nat) := do
  let bounds ← bounds.mapM (boundOf len)
  return (bounds.getD 0 0, min (bounds.getD 1 len) len)

end ScriptBridge.Script
