import ScriptBridge.Foreign.Object

/-!
# Definitions of classes

What each class defines itself: operations that the syntax of scripts uses, methods, functions, and
values that every object of the class has. What a class does not define it has from the classes that
it builds on.
-/

namespace ScriptBridge.Foreign

/-- What a class defines. -/
structure Definitions where
  operations : List String := []
  methods : List String := []
  /-- Methods of the class itself. -/
  classMethods : List String := []
  /-- Functions that belong to no object. -/
  functions : List String := []
  /-- Values that are computed for each object. -/
  properties : List String := []
  /-- Parts of each object. -/
  fields : List String := []
  /-- Whether the objects of the class can be keys. -/
  hashable : Bool := true
  /-- Functions that a script defined as methods. -/
  scripted : List String := []
  doc : Option String := none
  /-- The name of the module, if the class keeps it. -/
  module : Option String := none

/-! ### Groups of operations -/

/-- The comparisons. -/
def comparisons : List String := ["__lt__", "__le__", "__eq__", "__ne__", "__gt__", "__ge__"]

/-- The operations on bits. -/
def bitwise : List String := ["__and__", "__rand__", "__xor__", "__rxor__", "__or__", "__ror__"]

/-- The operations of numbers. -/
def arithmetic : List String :=
  ["__add__", "__radd__", "__sub__", "__rsub__", "__mul__", "__rmul__", "__mod__", "__rmod__",
    "__divmod__", "__rdivmod__", "__pow__", "__rpow__", "__neg__", "__pos__", "__abs__",
    "__bool__", "__int__", "__float__", "__floordiv__", "__rfloordiv__", "__truediv__",
    "__rtruediv__"]

/-- The operations that put sequences together. -/
def concatenation : List String := ["__add__", "__mul__", "__rmul__"]

/-! ### Classes of the interpreter -/

/-- What a class of the interpreter defines. -/
def coreDefinitions : String → Definitions
  | "NoneType" =>
    { operations := ["__repr__", "__bool__"]
      functions := ["__new__"] }
  | "bool" =>
    { operations := bitwise ++ ["__repr__"]
      functions := ["__new__"] }
  | "int" =>
    { operations := comparisons ++ bitwise ++ arithmetic ++ ["__repr__", "__hash__",
      "__getattribute__", "__invert__", "__lshift__", "__rlshift__", "__rshift__", "__rrshift__",
      "__index__"]
      methods := ["conjugate", "bit_length", "bit_count", "to_bytes", "as_integer_ratio",
        "__trunc__", "__floor__", "__ceil__", "__round__", "__getnewargs__", "__format__",
        "__sizeof__"]
      classMethods := ["from_bytes"]
      functions := ["__new__"]
      properties := ["real", "imag", "numerator", "denominator"] }
  | "float" =>
    { operations := comparisons ++ arithmetic ++ ["__repr__", "__hash__", "__getattribute__"]
      methods := ["conjugate", "__trunc__", "__floor__", "__ceil__", "__round__",
        "as_integer_ratio", "hex", "is_integer", "__getnewargs__", "__format__"]
      classMethods := ["fromhex", "__getformat__"]
      functions := ["__new__"]
      properties := ["real", "imag"] }
  | "bytes" =>
    { operations := comparisons ++ concatenation ++ ["__repr__", "__hash__", "__str__",
      "__getattribute__", "__iter__", "__mod__", "__rmod__", "__len__", "__getitem__",
      "__contains__"]
      methods := ["__getnewargs__", "__bytes__", "capitalize", "center", "count", "decode",
        "endswith", "expandtabs", "find", "hex", "index", "isalnum", "isalpha", "isascii",
        "isdigit", "islower", "isspace", "istitle", "isupper", "join", "ljust", "lower", "lstrip",
        "partition", "replace", "removeprefix", "removesuffix", "rfind", "rindex", "rjust",
        "rpartition", "rsplit", "rstrip", "split", "splitlines", "startswith", "strip", "swapcase",
        "title", "translate", "upper", "zfill"]
      classMethods := ["fromhex"]
      functions := ["__new__", "maketrans"] }
  | "str" =>
    { operations := comparisons ++ concatenation ++ ["__repr__", "__hash__", "__str__",
      "__getattribute__", "__iter__", "__mod__", "__rmod__", "__len__", "__getitem__",
      "__contains__"]
      methods := ["encode", "replace", "split", "rsplit", "join", "capitalize", "casefold",
        "title", "center", "count", "expandtabs", "find", "partition", "index", "ljust", "lower",
        "lstrip", "rfind", "rindex", "rjust", "rstrip", "rpartition", "splitlines", "strip",
        "swapcase", "translate", "upper", "startswith", "endswith", "removeprefix", "removesuffix",
        "isascii", "islower", "isupper", "istitle", "isspace", "isdecimal", "isdigit", "isnumeric",
        "isalpha", "isalnum", "isidentifier", "isprintable", "zfill", "format", "format_map",
        "__format__", "__sizeof__", "__getnewargs__"]
      functions := ["__new__", "maketrans"] }
  | "list" =>
    { operations := comparisons ++ concatenation ++ ["__repr__", "__getattribute__", "__iter__",
      "__init__", "__len__", "__setitem__", "__delitem__", "__contains__", "__iadd__", "__imul__"]
      methods := ["__getitem__", "__reversed__", "__sizeof__", "clear", "copy", "append", "insert",
        "extend", "pop", "remove", "index", "count", "reverse", "sort"]
      classMethods := ["__class_getitem__"]
      functions := ["__new__"]
      hashable := false }
  | "tuple" =>
    { operations := comparisons ++ concatenation ++ ["__repr__", "__hash__", "__getattribute__",
      "__iter__", "__len__", "__getitem__", "__contains__"]
      methods := ["__getnewargs__", "index", "count"]
      classMethods := ["__class_getitem__"]
      functions := ["__new__"] }
  | "dict" =>
    { operations := comparisons ++ ["__repr__", "__getattribute__", "__iter__", "__init__",
      "__or__", "__ror__", "__ior__", "__len__", "__setitem__", "__delitem__"]
      methods := ["__getitem__", "__contains__", "__sizeof__", "get", "setdefault", "pop",
        "popitem", "keys", "items", "values", "update", "clear", "copy", "__reversed__"]
      classMethods := ["fromkeys", "__class_getitem__"]
      functions := ["__new__"]
      hashable := false }
  | "set" =>
    { operations := comparisons ++ bitwise ++ ["__repr__", "__getattribute__", "__iter__",
      "__init__", "__sub__", "__rsub__", "__isub__", "__iand__", "__ixor__", "__ior__", "__len__"]
      methods := ["__contains__", "add", "clear", "copy", "discard", "difference",
        "difference_update", "intersection", "intersection_update", "isdisjoint", "issubset",
        "issuperset", "pop", "__reduce__", "remove", "__sizeof__", "symmetric_difference",
        "symmetric_difference_update", "union", "update"]
      classMethods := ["__class_getitem__"]
      functions := ["__new__"]
      hashable := false }
  | "slice" =>
    { operations := comparisons ++ ["__repr__", "__getattribute__"]
      methods := ["indices", "__reduce__"]
      functions := ["__new__"]
      fields := ["start", "stop", "step"]
      hashable := false }
  | "range" =>
    { operations := comparisons ++ ["__repr__", "__hash__", "__getattribute__", "__iter__",
      "__bool__", "__len__", "__getitem__", "__contains__"]
      methods := ["__reversed__", "__reduce__", "count", "index"]
      functions := ["__new__"]
      fields := ["start", "stop", "step"] }
  | "method-wrapper" =>
    { operations := comparisons ++ ["__repr__", "__hash__", "__call__", "__getattribute__"]
      methods := ["__reduce__"]
      properties := ["__objclass__", "__name__", "__qualname__", "__doc__", "__text_signature__"]
      fields := ["__self__"] }
  | "wrapper_descriptor" =>
    { operations := ["__repr__", "__call__", "__getattribute__", "__get__"]
      methods := ["__reduce__"]
      properties := ["__doc__", "__qualname__", "__text_signature__"]
      fields := ["__objclass__", "__name__"] }
  | "builtin_function_or_method" =>
    { operations := comparisons ++ ["__repr__", "__hash__", "__call__", "__getattribute__"]
      methods := ["__reduce__"]
      properties := ["__doc__", "__name__", "__qualname__", "__self__", "__text_signature__"]
      fields := ["__module__"] }
  | "method_descriptor" =>
    { operations := ["__repr__", "__call__", "__getattribute__", "__get__"]
      methods := ["__reduce__"]
      properties := ["__doc__", "__qualname__", "__text_signature__"]
      fields := ["__objclass__", "__name__"] }
  | "getset_descriptor" =>
    { operations := ["__repr__", "__getattribute__", "__get__", "__set__", "__delete__"]
      properties := ["__doc__", "__qualname__"]
      fields := ["__objclass__", "__name__"] }
  | "member_descriptor" =>
    { operations := ["__repr__", "__getattribute__", "__get__", "__set__", "__delete__"]
      methods := ["__reduce__"]
      properties := ["__doc__", "__qualname__"]
      fields := ["__objclass__", "__name__"] }
  | "mappingproxy" =>
    { operations := comparisons ++ ["__repr__", "__str__", "__getattribute__", "__iter__",
      "__or__", "__ror__", "__ior__", "__len__", "__getitem__", "__contains__"]
      methods := ["get", "keys", "values", "items", "copy", "__reversed__"]
      classMethods := ["__class_getitem__"]
      functions := ["__new__"]
      hashable := false }
  | "NotImplementedType" =>
    { operations := ["__repr__", "__bool__"]
      methods := ["__reduce__"]
      functions := ["__new__"] }
  | "list_iterator" | "tuple_iterator" | "str_iterator" | "str_ascii_iterator" | "bytes_iterator"
  | "range_iterator" | "list_reverseiterator" =>
    { operations := ["__getattribute__", "__iter__", "__next__"]
      methods := ["__length_hint__", "__reduce__", "__setstate__"] }
  | "dict_keyiterator" | "dict_valueiterator" | "dict_itemiterator" | "set_iterator" =>
    { operations := ["__getattribute__", "__iter__", "__next__"]
      methods := ["__length_hint__", "__reduce__"] }
  | "dict_reversekeyiterator" | "dict_reversevalueiterator" | "dict_reverseitemiterator" =>
    { operations := ["__iter__", "__next__"]
      methods := ["__length_hint__", "__reduce__"] }
  | "function" =>
    { operations := ["__repr__", "__call__", "__get__"]
      functions := ["__new__"]
      properties := ["__code__", "__defaults__", "__kwdefaults__", "__annotations__", "__dict__",
        "__name__", "__qualname__"]
      fields := ["__closure__", "__doc__", "__globals__", "__module__", "__builtins__"] }
  | "method" =>
    { operations := comparisons ++ ["__repr__", "__hash__", "__call__", "__getattribute__",
      "__setattr__", "__delattr__"]
      methods := ["__reduce__"]
      functions := ["__new__"]
      properties := ["__doc__"]
      fields := ["__func__", "__self__"] }
  | "module" =>
    { operations := ["__repr__", "__getattribute__", "__setattr__", "__delattr__", "__init__"]
      methods := ["__dir__"]
      functions := ["__new__"]
      properties := ["__annotations__"]
      fields := ["__dict__"] }
  | "object" =>
    { operations := comparisons ++ ["__repr__", "__hash__", "__str__", "__getattribute__",
      "__setattr__", "__delattr__", "__init__"]
      methods := ["__reduce_ex__", "__reduce__", "__getstate__", "__format__", "__sizeof__",
        "__dir__"]
      classMethods := ["__subclasshook__", "__init_subclass__"]
      functions := ["__new__"]
      properties := ["__class__"] }
  | "type" =>
    { operations := ["__repr__", "__call__", "__getattribute__", "__setattr__", "__delattr__",
      "__init__", "__or__", "__ror__"]
      methods := ["mro", "__subclasses__", "__instancecheck__", "__subclasscheck__", "__dir__",
        "__sizeof__"]
      classMethods := ["__prepare__"]
      functions := ["__new__"]
      properties := ["__name__", "__qualname__", "__bases__", "__module__", "__abstractmethods__",
        "__dict__", "__doc__", "__text_signature__", "__annotations__"]
      fields := ["__basicsize__", "__itemsize__", "__flags__", "__weakrefoffset__", "__base__",
        "__dictoffset__", "__mro__"] }
  | "BaseException" =>
    { operations := ["__repr__", "__str__", "__getattribute__", "__setattr__", "__delattr__",
      "__init__"]
      methods := ["__reduce__", "__setstate__", "with_traceback", "add_note"]
      functions := ["__new__"]
      properties := ["__dict__", "args", "__traceback__", "__context__", "__cause__"]
      fields := ["__suppress_context__"] }
  | "Exception" =>
    { operations := ["__init__"]
      functions := ["__new__"] }
  | "dict_keys" =>
    { operations := comparisons ++ bitwise ++ ["__repr__", "__getattribute__", "__iter__",
      "__sub__", "__rsub__", "__len__", "__contains__"]
      methods := ["isdisjoint", "__reversed__"]
      properties := ["mapping"]
      hashable := false }
  | "dict_values" =>
    { operations := ["__repr__", "__getattribute__", "__iter__", "__len__"]
      methods := ["__reversed__"]
      properties := ["mapping"] }
  | "dict_items" =>
    { operations := comparisons ++ bitwise ++ ["__repr__", "__getattribute__", "__iter__",
      "__sub__", "__rsub__", "__len__", "__contains__"]
      methods := ["isdisjoint", "__reversed__"]
      properties := ["mapping"]
      hashable := false }
  | _ => {}

/-- The description of a class of the interpreter. -/
def coreDoc? : String → Option String
  | "bool" => some <| lines [
      "bool(x) -> bool",
      "",
      "Returns True when the argument x is true, False otherwise.",
      "The builtins True and False are the only two instances of the class bool.",
      "The class bool is a subclass of the class int, and cannot be subclassed."]
  | "int" => some <| lines [
      "int([x]) -> integer",
      "int(x, base=10) -> integer",
      "",
      "Convert a number or string to an integer, or return 0 if no arguments",
      "are given.  If x is a number, return x.__int__().  For floating point",
      "numbers, this truncates towards zero.",
      "",
      "If x is not a number or if base is given, then x must be a string,",
      "bytes, or bytearray instance representing an integer literal in the",
      "given base.  The literal can be preceded by '+' or '-' and be surrounded",
      "by whitespace.  The base defaults to 10.  Valid bases are 0 and 2-36.",
      "Base 0 means to interpret the base from the string as an integer literal.",
      ">>> int('0b100', base=0)",
      "4"]
  | "float" => some <| lines [
      "Convert a string or number to a floating point number, if possible."]
  | "bytes" => some <| lines [
      "bytes(iterable_of_ints) -> bytes",
      "bytes(string, encoding[, errors]) -> bytes",
      "bytes(bytes_or_buffer) -> immutable copy of bytes_or_buffer",
      "bytes(int) -> bytes object of size given by the parameter initialized with null bytes",
      "bytes() -> empty bytes object",
      "",
      "Construct an immutable array of bytes from:",
      "  - an iterable yielding integers in range(256)",
      "  - a text string encoded using the specified encoding",
      "  - any object implementing the buffer API.",
      "  - an integer"]
  | "str" => some <| lines [
      "str(object='') -> str",
      "str(bytes_or_buffer[, encoding[, errors]]) -> str",
      "",
      "Create a new string object from the given object. If encoding or",
      "errors is specified, then the object must expose a data buffer",
      "that will be decoded using the given encoding and error handler.",
      "Otherwise, returns the result of object.__str__() (if defined)",
      "or repr(object).",
      "encoding defaults to sys.getdefaultencoding().",
      "errors defaults to 'strict'."]
  | "list" => some <| lines [
      "Built-in mutable sequence.",
      "",
      "If no argument is given, the constructor creates a new empty list.",
      "The argument must be an iterable if specified."]
  | "tuple" => some <| lines [
      "Built-in immutable sequence.",
      "",
      "If no argument is given, the constructor returns an empty tuple.",
      "If iterable is specified the tuple is initialized from iterable's items.",
      "",
      "If the argument is a tuple, the return value is the same object."]
  | "dict" => some <| lines [
      "dict() -> new empty dictionary",
      "dict(mapping) -> new dictionary initialized from a mapping object's",
      "    (key, value) pairs",
      "dict(iterable) -> new dictionary initialized as if via:",
      "    d = \x7b\x7d",
      "    for k, v in iterable:",
      "        d[k] = v",
      "dict(**kwargs) -> new dictionary initialized with the name=value pairs",
      "    in the keyword argument list.  For example:  dict(one=1, two=2)"]
  | "set" => some <| lines [
      "set() -> new empty set object",
      "set(iterable) -> new set object",
      "",
      "Build an unordered collection of unique elements."]
  | "slice" => some <| lines [
      "slice(stop)",
      "slice(start, stop[, step])",
      "",
      "Create a slice object.  This is used for extended slicing (e.g. a[0:10:2])."]
  | "range" => some <| lines [
      "range(stop) -> range object",
      "range(start, stop[, step]) -> range object",
      "",
      "Return an object that produces a sequence of integers from start (inclusive)",
      "to stop (exclusive) by step.  range(i, j) produces i, i+1, i+2, ..., j-1.",
      "start defaults to 0, and stop is omitted!  range(4) produces 0, 1, 2, 3.",
      "These are exactly the valid indices for a list of 4 elements.",
      "When step is given, it specifies the increment (or decrement)."]
  | "object" => some <| lines [
      "The base class of the class hierarchy.",
      "",
      "When called, it accepts no arguments and returns a new featureless",
      "instance that has no instance attributes and cannot be given any.",
      ""]
  | "type" => some <| lines [
      "type(object) -> the object's type",
      "type(name, bases, dict, **kwds) -> a new type"]
  | "BaseException" => some <| lines [
      "Common base class for all exceptions"]
  | "Exception" => some <| lines [
      "Common base class for all non-exit exceptions."]
  | "module" => some <| lines [
      "Create a module object.",
      "",
      "The name must be a string; the optional doc argument can have any type."]
  | _ => none
where
  /-- The lines of a description. -/
  lines (ls : List String) : String := String.intercalate "\n" ls

/-! ### Classes of the bridge and of scripts -/

/-- The operations that a class of proxies defines. -/
def ProxyClass.operations (c : ProxyClass) : List String :=
  ["__repr__"] ++ (if c.isCallable then ["__call__"] else []) ++
    ["__getattribute__", "__setattr__", "__delattr__"] ++
    (if c.isIterable then ["__iter__"] else []) ++
    if c.isSequence || c.isMapping then ["__len__", "__getitem__", "__setitem__", "__delitem__"]
    else []

/-- The methods that a script defines in a class. -/
def scriptedMethods : String → List String
  | "_M" => ["__init__", "keys", "items"]
  | "_S" => ["__init__", "__len__", "__getitem__"]
  | "_Triples" => ["keys", "items"]
  | "_N" => ["__getitem__"]
  | _ => ["__str__"]

/-- What a class defines itself. -/
def ObjectClass.definitions : ObjectClass → Definitions
  | .proxy c => { operations := c.operations, module := some (ObjectClass.proxy c).module }
  | .error => { properties := ["__weakref__"], module := some ObjectClass.error.module }
  | .user name n =>
    { scripted := scriptedMethods name, properties := ["__dict__", "__weakref__"]
      module := some (ObjectClass.user name n).module }
  | .core name => { coreDefinitions name with doc := coreDoc? name }

/-- The classes that a class builds on, itself first. -/
def ObjectClass.ancestry : ObjectClass → List ObjectClass
  | .error => [.error, .core "Exception", .core "BaseException", .core "object"]
  | .core "Exception" => [.core "Exception", .core "BaseException", .core "object"]
  | .core "bool" => [.core "bool", .core "int", .core "object"]
  | .core "object" => [.core "object"]
  | c => [c, .core "object"]

end ScriptBridge.Foreign
