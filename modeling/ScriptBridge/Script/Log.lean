import ScriptBridge.Script.Answer

/-!
# Logs

A library's interpreter writes down the logs of its scripts as plain data: nothing, truth values,
numbers, texts, and lists of these. The keys that dictionaries lacked stand in the logs as they are,
so a key that is no plain data keeps a log from being written.
-/

namespace ScriptBridge.Script

open Foreign (ObjectClass)

mutual

/-- The name of the type of the first part of an object that is no plain data. -/
def ObjectView.unwritable? : ObjectView → Option String
  | .null | .bool _ | .int _ | .float _ | .str _ => none
  | .list items | .tuple items => unwritableAmong? items
  | .bytes _ => some "bytes"
  | .sequence _ => some "_S"
  | .mapping _ => some "_M"
  | .dict _ => some "dict"
  | .slice .. => some "slice"
  | .module .. => some "module"
  | .type _ => some "type"
  | .raised _ => some ObjectClass.error.name
  | .proxy cls .. => some cls.shortName
  | .plain name _ | .other name => some name
  | .cycle => none

/-- The name of the type of the first part of several objects that is no plain data. -/
def unwritableAmong? : List ObjectView → Option String
  | [] => none
  | o :: rest => o.unwritable? <|> unwritableAmong? rest

end

/-- The name of the type of a key that cannot be written. -/
def Outcome.unwritable? : Outcome → Option String
  | .absentKey _ key => key.unwritable?
  | .answer _ | .failure _ | .crash => none

mutual

/-- The name of the type of the first key in an entry that cannot be written. -/
def Entry.unwritable? : Entry → Option String
  | .mk outcome scripts => outcome.unwritable? <|> unwritableInLogs? scripts

/-- The name of the type of the first key in entries that cannot be written. -/
def unwritableInEntries? : List Entry → Option String
  | [] => none
  | e :: rest => e.unwritable? <|> unwritableInEntries? rest

/-- The name of the type of the first key in a log that cannot be written. -/
def ScriptLog.unwritable? : ScriptLog → Option String
  | .mk _ entries => unwritableInEntries? entries

/-- The name of the type of the first key in logs that cannot be written. -/
def unwritableInLogs? : List ScriptLog → Option String
  | [] => none
  | log :: rest => log.unwritable? <|> unwritableInLogs? rest

end

/-- Marks under a part of a source line. -/
def marks (indent length : Nat) : String :=
  String.ofList (List.replicate (4 + indent) ' ' ++ List.replicate length '^')

/-- The report on an object of a type that cannot be written, with the lines of the writer. -/
def unwritableReport (typeName : String) : List String :=
  ["Traceback (most recent call last):",
    "    return _default_encoder.encode(obj)", marks 7 28,
    "    chunks = self.iterencode(o, _one_shot=True)", marks 9 34,
    "    return _iterencode(o, 0)", marks 7 17,
    "    raise TypeError(f'Object of type \x7bo.__class__.__name__\x7d '",
    "TypeError: Object of type " ++ typeName ++ " is not JSON serializable"]

/-- A statement with the messages it left, as its log is written. One that cannot be written is
replaced by the failure to read it. -/
def written (e : Entry) (messages : List Host.Message) : Entry × List Host.Message :=
  let .mk _ scripts := e
  match unwritableInLogs? scripts with
  | none => (e, messages)
  | some typeName =>
    (.mk (.failure (.bridge (.eval .reported))) [],
      messages ++ (unwritableReport typeName).map .error)

end ScriptBridge.Script
