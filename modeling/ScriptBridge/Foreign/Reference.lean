/-!
# References

Objects live in cells, and a reference names a cell. Two references name one object if they are
equal.
-/

namespace ScriptBridge.Foreign

/-- Names an object. -/
structure ObjRef where
  id : Nat
deriving DecidableEq, Inhabited

/-- Names the end of a range, which a range shares with its methods. -/
structure EndRef where
  id : Nat
deriving DecidableEq

end ScriptBridge.Foreign
