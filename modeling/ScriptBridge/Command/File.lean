import ScriptBridge.Error

/-!
# Script files

A script file is run by a statement that opens it. The path stands in that statement between
single quotes, with backslashes and quotes escaped.
-/

namespace ScriptBridge.Command

/-- A path as it stands between single quotes. -/
def escapePath (path : List Char) : List Char :=
  path.flatMap fun c => if c = '\\' || c = '\'' then ['\\', c] else [c]

/-- The path before the first quote that is not escaped; nothing if there is none. -/
def unescapePath? : List Char → Option (List Char)
  | [] => none
  | '\'' :: _ => some []
  | '\\' :: c :: rest => (unescapePath? rest).map (c :: ·)
  | c :: rest => (unescapePath? rest).map (c :: ·)

/-- An escaped path has fewer bytes than this. -/
def maxPathBytes : Nat := 1024

/-- What stands in front of the path in the statement that runs a script file. -/
def openText : String := "exec(compile(open('"

/-- The statement that runs a script file. -/
def fileStatement (path : String) : Except BridgeError String :=
  let escaped := String.ofList (escapePath path.toList)
  if maxPathBytes ≤ escaped.utf8ByteSize then .error (.pathTooLong path)
  else .ok (openText ++ escaped ++ "').read(), '" ++ escaped ++ "', 'exec'))")

/-- The path that a statement opens; nothing if it is no statement that runs a script file. -/
def statementPath? (code : String) : Option String :=
  if openText.toList.isPrefixOf code.toList then
    (unescapePath? (code.toList.drop openText.length)).map String.ofList
  else none

end ScriptBridge.Command
