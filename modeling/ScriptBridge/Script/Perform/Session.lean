import ScriptBridge.Bridge.Command
import ScriptBridge.Script.Produced

/-!
# Statements on the interpreter and the session

The operations of the interpreter, conversions, and the entry points of the session.
-/

namespace ScriptBridge.Script

open Foreign (ObjRef Object)
open Host (Value)

/-- The name of the interpreter. -/
def interpreterName (i : Interpreter) : String :=
  match i.kind with
  | .scripted => "stub"
  | .library => "CPython (" ++ i.libraryName ++ ")"

/-- Refuses an operation of a library that is not started. The scripted interpreter needs no
start. -/
def demandStarted : Act ForeignError Unit := do
  let i := (← get).interpreter
  if i.kind = .library && !i.initialized then Act.fail .notInitialized

/-- Builds an object by a constructor of the interpreter. -/
def construct : Constructor → Act ForeignError ObjRef
  | .null => Bridge.alloc .null
  | .bool b => Bridge.alloc (.bool b)
  | .int n => Bridge.alloc (.int n.toInt)
  | .float x => Bridge.alloc (.float x)
  | .str s => Bridge.alloc (.str s)
  | .list items => do Bridge.alloc (.list (← buildAll items))
  | .tuple items => do Bridge.alloc (.tuple (← buildAll items))
  | .dict entries => do
    let kind := (← get).interpreter.kind
    let entries ← (← buildNamed entries).mapM fun e => Convert.newEntry kind e.1 e.2
    Bridge.alloc (.dict entries)

/-- Objects spelled out, one after another. -/
def viewAll (b : Bridge) (rs : List ObjRef) : Answer :=
  .list (rs.map fun r => .object (viewObject b r))

/-- Binds a library for the process. -/
def link (library : String) : Act LinkError Library.Binding := do
  let b ← get
  let binding ← Act.ofExcept (b.interpreter.loader.bind b.processBinding library [])
  set { b with processBinding := some binding }
  pure binding

/-- Performs an operation of the interpreter. -/
def performRuntime (engine : Engine) : RuntimeAction → Act ForeignError Produced
  | .construct c => do
    demandStarted
    return .object (← construct c)
  | .weaken o => do
    let held := (← get).held
    let r ← build o
    let b ← get
    return .answer (.list [.bool true, .bool (b.objects.isAlive { b with held }.roots r)])
  | .isInitialized => do return .bool (← get).interpreter.initialized
  | .probe => do
    let bound : Except LinkError Unit ← Act.attempt Session.bind
    match bound with
    | .ok () => return .nothing
    | .error e => return .text e.message
  | .items o => do
    let rs ← Proxy.anyItems (← build o)
    return .answer (viewAll (← get) rs)
  | .pairs o => do
    let es ← Bridge.pairsOf (← build o)
    let b ← get
    return .answer (.list (es.map fun e => viewAll b [e.1, e.2]))
  | .run code => do
    engine.run code
    return .nothing
  | .eval code => do return .object (← engine.eval code)
  | .name => do return .text (interpreterName (← get).interpreter)
  | .history => do return .texts (← get).interpreter.history
  | .locks => do return .answer (.locks (← get).handoff.locks)
  | .install name => do
    demandStarted
    let r ← Bridge.alloc (.module name [])
    modify fun b => { b with interpreter := { b.interpreter with
      modules := assign name r b.interpreter.modules } }
    return .nothing
  | .link library => do
    let bound : Except LinkError Library.Binding ← Act.attempt (link library)
    match bound with
    | .ok binding =>
      return .answer (.list [.text binding.library, .text binding.encoder,
        .bool binding.hasMappingItems])
    | .error e => return .text e.message
  | .linked => do
    let bound := (← get).processBinding.isSome
    return .answer (.list [.bool bound, .bool bound])

/-- Performs a conversion. -/
def performConversion : ConversionAction → Act Failure Produced
  | .copy h => do
    let v ← buildHost h
    return .object (← Convert.toForeign v)
  | .bind h => do
    let v ← buildHost h
    return .object (← Convert.toForeignBound v)
  | .strict o => do return .value (← Convert.toHost (← build o))
  | .toHost o skip => do
    let (v, skipped) ← Convert.toHostWith skip (← build o)
    return .shown v (.conversion (viewValue (← get).editor.store v) skipped)
  | .key o => do return .text (← Convert.keyOf (← build o))
  | .string o => do return .text (← Convert.stringOf (← build o))
  | .lineToForeign text => do return .object (← Convert.lineToForeign text)
  | .lineFromForeign o => do return .text (← Convert.lineFromForeign (← build o))
  | .linesFromForeign o => do return .texts (← Convert.linesFromForeign (← build o))
  | .linesToForeign lines => do return .object (← Convert.linesToForeign lines)

/-- Performs an entry point of the session. -/
def performSession (engine : Engine) : SessionAction → Act BridgeError Produced
  | .execute code range => do
    Session.execute engine code range
    return .nothing
  | .evaluate code => do return .value (← Session.evaluate engine code)
  | .command line => do
    Session.exCommand engine line
    return .nothing
  | .source text => do
    let failed ← Session.source engine text
    return .int failed
  | .runFile path range => do
    Session.runFile engine path range
    return .nothing
  | .ensureReady => do
    Session.ensureReady
    return .nothing
  | .probe => do return .bool (← Session.probe)
  | .lifecycle => do return .answer (.lifecycle (← get).lifecycle)
  | .mode => do return .answer (.mode (← get).handoff.mode)
  | .shutdown => do
    Session.shutdown
    return .nothing
  | .liveProxies => do return .int (← get).liveProxies
  | .sameEditor => do return .bool true

end ScriptBridge.Script
