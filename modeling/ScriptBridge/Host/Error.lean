import ScriptBridge.Host.Editor

/-!
# Failures of the host interpreter

Why a host command or expression failed, with the wording the user sees.
-/

namespace ScriptBridge.Host

/-- Why a host command or expression failed. -/
inductive HostError where
  /-- The text is no expression. -/
  | invalidExpression (text : String)
  /-- A single-quoted string does not end. -/
  | missingSingleQuote (text : String)
  /-- A double-quoted string does not end. -/
  | missingDoubleQuote (text : String)
  | trailingCharacters (rest : String)
  | undefinedVariable (name : String)
  | noSuchVariable (name : String)
  | illegalName (name : String)
  /-- There is no current buffer, window or tab page that could have variables. -/
  | noCurrent (kind : String)
  | unknownFunction (name : String)
  | wrongArgumentCount (function : String)
  | notEnoughArguments (function : String)
  | noLength (typeName : String)
  | functionNameRequired
  | boundArgumentsNotList
  | listRequired
  | dictionaryRequired
  | containerRequired
  | notANumber (typeName : String)
  | floatRemainder
  | locked (reason : LockError)
  | notACommand (text : String)
  | badBufferNumber (text : String)
  | editor (reason : EditorError)
  /-- A failure with a wording of its own. -/
  | custom (text : String)
deriving DecidableEq

/-- The wording of a failure. -/
def HostError.message : HostError → String
  | .invalidExpression text => "E15: Invalid expression: \"" ++ text ++ "\""
  | .missingSingleQuote text => "E115: Missing quote: " ++ text
  | .missingDoubleQuote text => "E114: Missing quote: " ++ text
  | .trailingCharacters rest => "E488: Trailing characters: " ++ rest
  | .undefinedVariable name => "E121: Undefined variable: " ++ name
  | .noSuchVariable name => "E108: No such variable: \"" ++ name ++ "\""
  | .illegalName name => "E461: Illegal variable name: " ++ name
  | .noCurrent kind => "no current " ++ kind
  | .unknownFunction name => "E117: Unknown function: " ++ name
  | .wrongArgumentCount function => "E118: Wrong number of arguments for function: " ++ function
  | .notEnoughArguments function => "E119: Not enough arguments for function: " ++ function
  | .noLength typeName => "E701: Invalid type for len(): " ++ typeName
  | .functionNameRequired => "E129: Function name required"
  | .boundArgumentsNotList => "E923: Second argument of function() must be a list"
  | .listRequired => "E897: List required"
  | .dictionaryRequired => "E715: Dictionary required"
  | .containerRequired => "E896: Argument of get() must be a List or Dictionary"
  | .notANumber typeName => "E745: Using a " ++ typeName ++ " as a Number"
  | .floatRemainder => "E804: Cannot use '%' with Float"
  | .locked reason => "E741: " ++ reason.message
  | .notACommand text => "E492: Not an editor command: " ++ text
  | .badBufferNumber text => "E86: Buffer " ++ text ++ " does not exist"
  | .editor reason => reason.message
  | .custom text => text

end ScriptBridge.Host
