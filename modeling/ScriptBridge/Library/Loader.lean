import ScriptBridge.Error

/-!
# Binding the interpreter library

A process binds at most one interpreter library. Loading one opens it and looks up every entry point
in a fixed order; a library that another interpreter library got ahead of is refused, and is not
opened.
-/

namespace ScriptBridge.Library

/-- What the dynamic loader knows of the libraries of a system. -/
structure Loader where
  /-- Why a library cannot be opened. -/
  failure? : String → Option String
  /-- Whether a library that can be opened has a symbol. -/
  hasSymbol : String → String → Bool
  /-- Whether a library is loaded already. -/
  isResident : String → Bool

/-- A library that is bound. -/
structure Binding where
  library : String
  /-- The entry point that encodes strings. -/
  encoder : String
  /-- Whether the library has an entry point for the items of a mapping. -/
  hasMappingItems : Bool
deriving DecidableEq

/-- The functions that every interpreter library has, in the order in which they are looked up. -/
def functionSymbols : List String :=
  ["Py_InitializeEx", "Py_IsInitialized", "Py_FinalizeEx", "PyGILState_Ensure",
    "PyGILState_Release", "PyEval_SaveThread", "PyEval_RestoreThread", "PyRun_String",
    "PyImport_AddModule", "PyImport_ImportModule", "PyModule_GetDict", "PyErr_Occurred",
    "PyErr_PrintEx", "PyErr_Clear", "PyErr_SetString", "PyErr_NewException", "Py_IncRef",
    "Py_DecRef", "PyObject_IsTrue", "PyObject_IsInstance", "PyObject_Str", "PyObject_Type",
    "PyObject_GetAttrString", "PyObject_SetAttrString", "PyObject_HasAttrString",
    "PyObject_GenericGetAttr", "PyObject_CallObject", "PyObject_GetIter", "PyObject_Free",
    "PyType_FromSpec", "PyType_GenericAlloc", "PyLong_FromLongLong", "PyLong_AsLongLong",
    "PyBool_FromLong", "PyFloat_FromDouble", "PyFloat_AsDouble", "PyUnicode_FromStringAndSize",
    "PyBytes_AsStringAndSize", "PyList_New", "PyList_SetItem", "PyTuple_New", "PyTuple_SetItem",
    "PyDict_New", "PyDict_SetItemString", "PyDict_Size", "PySequence_Check", "PySequence_Size",
    "PySequence_GetItem", "PySlice_Unpack", "PySys_SetObject"]

/-- The objects that every interpreter library has. -/
def dataSymbols : List String :=
  ["_Py_NoneStruct", "PyBool_Type", "PyLong_Type", "PyFloat_Type", "PyUnicode_Type",
    "PyBytes_Type", "PyList_Type", "PyTuple_Type", "PyDict_Type", "PySlice_Type",
    "PyExc_RuntimeError"]

/-- The last name under which the string encoder is looked up. -/
def plainEncoder : String := "PyUnicode_AsEncodedString"

/-- The names of the string encoder, in the order in which they are tried. -/
def encoderSymbols : List String :=
  ["PyUnicodeUCS2_AsEncodedString", "PyUnicodeUCS4_AsEncodedString", plainEncoder]

/-- Looks up the entry points of a library. -/
def Loader.lookUp (l : Loader) (library : String) : Except LinkError Binding :=
  match (functionSymbols ++ dataSymbols).find? (!l.hasSymbol library ·) with
  | some symbol => .error (.missingSymbol library symbol)
  | none =>
    match encoderSymbols.find? (l.hasSymbol library) with
    | none => .error (.missingSymbol library plainEncoder)
    | some encoder =>
      .ok { library, encoder, hasMappingItems := l.hasSymbol library "PyMapping_Items" }

/-- What a process has done with interpreter libraries. -/
structure Process where
  /-- The library that it has bound. -/
  bound : Option Binding := none
  /-- The names of the libraries that it has opened or tried to open, in order. -/
  opened : List String := []
deriving DecidableEq

/-- Loads a library and binds it, unless the process has bound one before. -/
def Loader.load (l : Loader) (library : String) (siblings : List String) :
    EStateM LinkError Process Binding := do
  match (← get).bound with
  | some b =>
    if b.library = library then pure b else throw (.incompatibleSibling library b.library)
  | none =>
    match siblings.find? fun s => s ≠ library && l.isResident s with
    | some other => throw (.incompatibleSibling library other)
    | none =>
      modify fun p => { p with opened := p.opened ++ [library] }
      match l.failure? library with
      | some reason => throw (.libraryNotFound library reason)
      | none =>
        match l.lookUp library with
        | .error e => throw e
        | .ok b =>
          modify fun p => { p with bound := some b }
          pure b

/-- Forgets the library that is bound. -/
def Process.unload (p : Process) : Process := { p with bound := none }

/-- Binds a library, given the one that the process has bound before. -/
def Loader.bind (l : Loader) (bound : Option Binding) (library : String)
    (siblings : List String) : Except LinkError Binding :=
  match l.load library siblings { bound } with
  | .ok b _ => .ok b
  | .error e _ => .error e

/-- Why a name cannot be handed to the loader, else the name without the null character that it may
end with. -/
def loadedName (library : String) : Except String String :=
  let name := library.toList
  let inner := if name.getLast? = some '\x00' then name.dropLast else name
  if !inner.contains '\x00' then .ok (String.ofList inner)
  else if inner = name then .error "could not create a C string from bytes"
  else .error "could not create a C string from bytes with trailing null"

/-- The loader of a system without interpreter libraries. The program itself, which has the empty
name, has the symbols that `own` says, and the C library is always loaded. -/
def Loader.bare (own : String → Bool) : Loader where
  failure? library :=
    match loadedName library with
    | .error reason => some reason
    | .ok name =>
      if name = "" ∨ name = "libc.so.6" then none
      else some (name ++ ": cannot open shared object file: No such file or directory")
  hasSymbol library symbol := library = "" && own symbol
  isResident library := library = "" || library = "libc.so.6"

/-- The loader of a program that no interpreter is linked into. -/
def Loader.plain : Loader := Loader.bare fun _ => false

/-- The loader of a program that an interpreter is linked into. -/
def Loader.linked : Loader :=
  Loader.bare fun symbol =>
    symbol ∈ functionSymbols ++ dataSymbols ++ [plainEncoder, "PyMapping_Items"]

end ScriptBridge.Library
