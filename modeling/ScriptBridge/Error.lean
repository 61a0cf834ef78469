import ScriptBridge.Foreign.Reference
import ScriptBridge.Host.Error

/-!
# Failures of the bridge

Each layer has its own causes of failure. `message` gives the wording of a cause, and
`exceptionKind` the class of the exception that a script sees.
-/

namespace ScriptBridge

/-- The exception classes that scripts can see. -/
inductive ExceptionKind where
  | attribute
  | index
  | key
  | type
  | value
  | overflow
  /-- The module's own class. -/
  | bridge
  /-- A class that only the interpreter itself raises. -/
  | other (name : String)
deriving DecidableEq

/-- The name of an exception class. -/
def ExceptionKind.name : ExceptionKind → String
  | .attribute => "AttributeError"
  | .index => "IndexError"
  | .key => "KeyError"
  | .type => "TypeError"
  | .value => "ValueError"
  | .overflow => "OverflowError"
  | .bridge => "vim.error"
  | .other name => name

/-- The kinds of editor entities that can be destroyed under a handle. -/
inductive EntityKind where
  | buffer
  | window
  | tabPage
deriving DecidableEq

/-- The name of an entity kind in messages. -/
def EntityKind.name : EntityKind → String
  | .buffer => "buffer"
  | .window => "window"
  | .tabPage => "tab page"

/-- The kind of the entity that an identifier names. -/
def Host.Entity.kind : Host.Entity → EntityKind
  | .buffer _ => .buffer
  | .window _ => .window
  | .tabPage _ => .tabPage

/-- Why the interpreter library could not be bound. -/
inductive LinkError where
  | libraryNotFound (library reason : String)
  | missingSymbol (library symbol : String)
  | incompatibleSibling (library loaded : String)
deriving DecidableEq

/-- The wording of a failed binding. -/
def LinkError.message : LinkError → String
  | .libraryNotFound library reason => "could not load library " ++ library ++ ": " ++ reason
  | .missingSymbol library symbol =>
    "could not load library function " ++ symbol ++ " from " ++ library
  | .incompatibleSibling library loaded =>
    "cannot load " ++ library ++ ": incompatible interpreter " ++ loaded ++ " is already loaded"

/-- Why the interpreter was not entered. -/
inductive HandoffError where
  | recursive
deriving DecidableEq

/-- The wording of a refused entry. -/
def HandoffError.message : HandoffError → String
  | .recursive => "E659: Cannot invoke Python recursively"

/-- A failure of the interpreter itself. -/
inductive ForeignError where
  | exception (kind : ExceptionKind) (text : String)
  /-- A dictionary does not have a key, whose literal is `text`. -/
  | absentKey (key : Foreign.ObjRef) (text : String)
  /-- An exception waits in the interpreter. -/
  | pending
  /-- The interpreter has shown the failure already. -/
  | reported
  | notInitialized
deriving DecidableEq

/-- The wording of a failure of the interpreter. -/
def ForeignError.message : ForeignError → String
  | .exception kind text => kind.name ++ ": " ++ text
  | .absentKey _ text => ExceptionKind.key.name ++ ": " ++ text
  | .pending => "exception pending in the interpreter"
  | .reported => "error reported by the interpreter"
  | .notInitialized => "interpreter is not initialised"

/-- The class of a failure of the interpreter. -/
def ForeignError.exceptionKind : ForeignError → ExceptionKind
  | .exception kind _ => kind
  | .absentKey .. => .key
  | .pending | .reported | .notInitialized => .bridge

/-- Why a value did not cross between the editor and the interpreter. -/
inductive ConvertError where
  | recursive
  | nonStringKey (typeName : String)
  | emptyKey
  | unsupported (typeName : String)
  | newline
  | deleted (kind : EntityKind)
  | locked (reason : Host.LockError)
  | foreign (reason : ForeignError)
deriving DecidableEq

/-- The wording of a failed conversion. -/
def ConvertError.message : ConvertError → String
  | .recursive => "recursive structure cannot be converted"
  | .nonStringKey typeName => "dictionary keys must be strings, not " ++ typeName
  | .emptyKey => "empty keys are not allowed"
  | .unsupported typeName => "unable to convert " ++ typeName ++ " to an editor value"
  | .newline => "string cannot contain newlines"
  | .deleted kind => "attempt to refer to deleted " ++ kind.name
  | .locked reason => reason.message
  | .foreign reason => reason.message

/-- The class of a failed conversion. -/
def ConvertError.exceptionKind : ConvertError → ExceptionKind
  | .recursive | .emptyKey => .value
  | .nonStringKey _ | .unsupported _ => .type
  | .deleted _ | .newline | .locked _ => .bridge
  | .foreign reason => reason.exceptionKind

/-- Why an operation on a proxy failed. -/
inductive ProxyError where
  | deleted (kind : EntityKind)
  | index (text : String)
  | key (text : String)
  | type (text : String)
  | value (text : String)
  | attribute (text : String)
  /-- The editor refused. -/
  | host (text : String)
  | convert (reason : ConvertError)
  | foreign (reason : ForeignError)
deriving DecidableEq

/-- The wording of a failed proxy operation. -/
def ProxyError.message : ProxyError → String
  | .deleted kind => "attempt to refer to deleted " ++ kind.name
  | .index text | .key text | .type text | .value text | .attribute text | .host text => text
  | .convert reason => reason.message
  | .foreign reason => reason.message

/-- The class of a failed proxy operation. -/
def ProxyError.exceptionKind : ProxyError → ExceptionKind
  | .deleted _ | .host _ => .bridge
  | .index _ => .index
  | .key _ => .key
  | .type _ => .type
  | .value _ => .value
  | .attribute _ => .attribute
  | .convert reason => reason.exceptionKind
  | .foreign reason => reason.exceptionKind

/-- The exception that a script observes. -/
def ProxyError.toForeign : ProxyError → ForeignError
  | .foreign reason => reason
  | .convert (.foreign reason) => reason
  | e => .exception e.exceptionKind e.message

/-- A refused change of a container, as a failure of a proxy operation. -/
def ProxyError.ofLock : Host.LockError → ProxyError
  | .outOfRange => .index Host.LockError.outOfRange.message
  | e => .host e.message

/-- A failure of the host interpreter, as a failure of a proxy operation. -/
def ProxyError.ofHost (e : Host.HostError) : ProxyError := .host e.message

/-- A refused editor operation, as a failure of a proxy operation. -/
def ProxyError.ofEditor (e : Host.EditorError) : ProxyError := .host e.message

/-- Why a command line was not run. -/
inductive ParseError where
  | invalidRange
  | notACommand (line : String)
  | argumentRequired
  /-- The description of command lines itself is faulty. -/
  | pattern (text : String)
deriving DecidableEq

/-- The wording of a refused command line. -/
def ParseError.message : ParseError → String
  | .invalidRange => "E16: Invalid range"
  | .notACommand line => "E492: Not an editor command: " ++ line
  | .argumentRequired => "E471: Argument required"
  | .pattern text => "bad command pattern: " ++ text

/-- Why an entry point of the bridge failed. -/
inductive BridgeError where
  | link (reason : LinkError)
  /-- Starting the interpreter failed before, for this reason. -/
  | disabled (reason : String)
  | init (reason : String)
  | handoff (reason : HandoffError)
  | execute (reason : ForeignError)
  | eval (reason : ForeignError)
  | convert (reason : ConvertError)
  | pathTooLong (path : String)
  | host (reason : Host.HostError)
  | parse (reason : ParseError)
  | finalized
deriving DecidableEq

/-- The words in front of the reason why the interpreter library is missing. -/
def disabledText : String :=
  "E263: Sorry, this command is disabled, the Python library could not be loaded: "

/-- The wording of a failed entry point. -/
def BridgeError.message : BridgeError → String
  | .link reason => disabledText ++ reason.message
  | .disabled reason => disabledText ++ reason
  | .init reason => "interpreter initialisation failed: " ++ reason
  | .handoff reason => reason.message
  | .execute reason => reason.message
  | .eval _ => "E858: Eval did not return a valid python object"
  | .convert _ => "E859: Failed to convert returned python object to vim value"
  | .pathTooLong path => "file name too long: " ++ path
  | .host reason => reason.message
  | .parse reason => reason.message
  | .finalized => "interpreter has been shut down"

end ScriptBridge
