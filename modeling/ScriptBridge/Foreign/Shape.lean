import ScriptBridge.Foreign.Object
import ScriptBridge.Foreign.Slice

/-!
# Shapes

What conversions and proxies ask about an object first: which kind of value it is. The two kinds
of interpreters differ in how they name types.
-/

namespace ScriptBridge.Foreign

/-- The interpreters. -/
inductive InterpreterKind where
  /-- Scripts are known by their source text, and objects live in this program. -/
  | scripted
  /-- An interpreter of a library that is bound when it is first needed. -/
  | library
deriving DecidableEq

/-- What kind of value an object is. -/
inductive Shape where
  | null
  | bool (b : Bool)
  | int (n : Int64)
  | float (x : Float)
  | bytes (b : List UInt8)
  | str (s : String)
  | list
  | tuple
  | dict
  | slice (s : Slice)
  | proxy (cls : ProxyClass) (target : Target)
  /-- Another object: whether it has keys, and whether it has positions. -/
  | other (mappingLike sequenceLike : Bool)

/-- The failure of an integer that does not fit 64 bits. -/
def tooLarge : ForeignError := .exception .overflow "int too large to convert"

/-- The shape of an object. -/
def Object.shape : Object → Except ForeignError Shape
  | .null => .ok .null
  | .bool b => .ok (.bool b)
  | .int n => if Text.fitsInt64 n then .ok (.int (Int64.ofInt n)) else .error tooLarge
  | .float x => .ok (.float x)
  | .bytes b => .ok (.bytes b)
  | .str s => .ok (.str s)
  | .halved places => .ok (.str (mended places))
  | .list _ => .ok .list
  | .tuple _ => .ok .tuple
  | .dict _ => .ok .dict
  | .slice start stop step =>
    let clamp (n : Int) : Int := max Text.minInt64 (min Text.maxInt64 n)
    (Slice.unpack (start.map clamp) (stop.map clamp) (step.map clamp)).map .slice
  | .proxy cls target => .ok (.proxy cls target)
  | .sequence _ | .counting _ | .unsized => .ok (.other false true)
  | .mapping _ | .triples _ | .mirror _ => .ok (.other true false)
  | .plain .. | .module .. | .type _ | .raised _ | .wrapper .. | .descriptor .. | .native ..
  | .function .. | .bound .. | .iterator .. | .view .. | .known .. | .set _ =>
    .ok (.other false false)

/-- The name of the class of what a class defines. -/
def DescriptorSort.className : DescriptorSort → String
  | .operation => "wrapper_descriptor"
  | .method => "method_descriptor"
  | .property => "getset_descriptor"
  | .field => "member_descriptor"

/-- The class of an object. -/
def Object.class (kind : InterpreterKind) : Object → ObjectClass
  | .null => .core "NoneType"
  | .bool _ => .core "bool"
  | .int _ => .core "int"
  | .float _ => .core "float"
  | .bytes _ => .core "bytes"
  | .str _ | .halved _ => .core "str"
  | .list _ => .core "list"
  | .tuple _ => .core "tuple"
  | .dict _ => .core "dict"
  | .slice .. => .core "slice"
  | .proxy cls _ => .proxy cls
  | .mapping _ => .user (match kind with | .scripted => "mapping" | .library => "_M") 0
  | .sequence _ => .user (match kind with | .scripted => "sequence" | .library => "_S") 0
  | .plain name _ number => .user name number
  | .module .. => .core "module"
  | .type _ => .core "type"
  | .raised _ => .error
  | .wrapper .. => .core "method-wrapper"
  | .descriptor _ _ sort => .core sort.className
  | .function .. => .core "function"
  | .bound .. => .core "method"
  | .mirror _ => .core "mappingproxy"
  | .native .. => .core "builtin_function_or_method"
  | .iterator typeName _ => .core typeName
  | .view sort _ => .core sort.className
  | .known typeName _ => .core typeName
  | .set _ => .core "set"
  | .counting _ => .core "range"
  | .triples _ => .user "_Triples" 0
  | .unsized => .user "_N" 0

/-- The name of the type of an object in error texts. -/
def Object.qualifiedType (kind : InterpreterKind) (o : Object) : String := (o.class kind).label

/-- The name of the type of an object as scripts see it: an interpreter of a library leaves out the
module. -/
def Object.typeName (kind : InterpreterKind) (o : Object) : String :=
  match kind with
  | .library => (o.class kind).name
  | .scripted => o.qualifiedType kind

/-- The items of an object as far as it has them directly. -/
def Object.elements? : Object → Option (List ObjRef)
  | .list items | .tuple items | .sequence items => some items
  | _ => none

end ScriptBridge.Foreign
