import ScriptBridge.Bridge.Registry
import ScriptBridge.Convert.Text
import ScriptBridge.Proxy.Argument

/-!
# Spans

A buffer and a range are both a span of lines. The span of a buffer is all of its lines. A range
has a start that stays and an end that moves with the lines put in and taken out through it.
-/

namespace ScriptBridge.Proxy

open Foreign (ObjRef EndRef Target Slice)
open Host (Change)

/-- Lines of a buffer: the count of lines in front, the count of lines, and the end to move when
lines come or go. -/
structure Span where
  buffer : Nat
  before : Nat
  size : Nat
  moving : Option EndRef := none

/-- The failure of something that belongs to a destroyed buffer. -/
def bufferGone : ProxyError := .deleted .buffer

/-- The failure of a line outside a span. -/
def lineOutside : ProxyError := .index "line number out of range"

/-- The size of a range from line `start` to line `last` in a buffer of `count` lines, where an
end outside the buffer or in front of the range is moved to it. A range that starts past the line
after the last one has none. -/
def rangeSize? (start last : Int) (count : Nat) : Option Nat :=
  let before := max start 1 - 1
  if (count : Int) < before then none else some (max before (min last count) - before).toNat

/-- The span that a target stands for. -/
def span (t : Target) : Act ProxyError Span := do
  let e ← Bridge.readEditor
  match t with
  | .buffer id =>
    match e.buffer? id with
    | some b => pure { buffer := id, before := 0, size := b.lines.length }
    | none => Act.fail bufferGone
  | .range id start last =>
    match e.buffer? id with
    | none => Act.fail bufferGone
    | some b =>
      let last64 := (← get).objects.endOf last
      match rangeSize? start.toInt last64.toInt b.lines.length with
      | some size =>
        let before := (max start.toInt 1 - 1).toNat
        pure { buffer := id, before, size, moving := some last }
      | none => Act.crash
  | _ => Act.fail bufferGone

namespace Span

/-- Moves the end of a range. -/
def moveEnd (s : Span) (by_ : Int) : Act ProxyError Unit :=
  match s.moving with
  | some r => modify fun b => { b with objects := b.objects.moveEnd r (Int64.ofInt by_) }
  | none => pure ()

/-- A position in a span. -/
def check (s : Span) (i : Int) : Act ProxyError Nat :=
  if 0 ≤ i && i < s.size then pure i.toNat else Act.fail lineOutside

/-- The lines from position `lo` up to position `hi`. -/
def lines (s : Span) (lo hi : Nat) : Act ProxyError (List String) := do
  match (← Bridge.readEditor).buffer? s.buffer with
  | some b => pure ((b.lines.drop (s.before + lo)).take (hi - lo))
  | none => Act.fail bufferGone

/-- The line at a position. -/
def item (s : Span) (i : Int) : Act ProxyError ObjRef := do
  let n ← s.check i
  let line := (← s.lines n (n + 1)).head?.getD ""
  Convert.lineToForeign line

/-- The lines of a slice with step one. -/
def slice (s : Span) (bounds : Slice) : Act ProxyError ObjRef := do
  match bounds.contiguous? s.size with
  | none => Act.fail (.value "slice step must be 1")
  | some (lo, hi) => Convert.linesToForeign (← s.lines lo hi)

/-- Replaces the lines from position `lo` up to position `hi`. -/
def replace (s : Span) (lo hi : Nat) (new : List String) : Act ProxyError Unit := do
  Bridge.hostWrite (Change.replaceLines s.buffer (s.before + lo) (s.before + hi) new)
  s.moveEnd ((new.length : Int) - ((hi : Int) - lo))

/-- Replaces the line at a position, or deletes it. -/
def assignItem (s : Span) (i : Int) (value : Option ObjRef) : Act ProxyError Unit := do
  let n ← s.check i
  match value with
  | none => s.replace n (n + 1) []
  | some v =>
    let line ← Convert.lineFromForeign v
    s.replace n (n + 1) [line]

/-- Replaces the lines from position `lo` up to position `hi`, or deletes them. -/
def assignSlice (s : Span) (lo hi : Nat) (value : Option ObjRef) : Act ProxyError Unit := do
  let new ← match value with
    | some v => monadLift (Convert.linesFromForeign v)
    | none => pure []
  s.replace lo hi new

/-- Inserts lines at a position, or at the end. -/
def append (s : Span) (args : List ObjRef) : Act ProxyError ObjRef := do
  arity "append" args 1 2
  let new ← match args.head? with
    | some v => monadLift (Convert.linesFromForeign v)
    | none => pure []
  let at_ ← match args[1]? with
    | some n => do pure (← intOf n).toInt
    | none => pure (s.size : Int)
  if at_ < 0 || (s.size : Int) < at_ then Act.fail lineOutside
  s.replace at_.toNat at_.toNat new
  Bridge.alloc .null

/-- A range of lines, counted from one, the last one included. An empty range is in front of its
first line. -/
def range (s : Span) (args : List ObjRef) : Act ProxyError ObjRef := do
  arity "range" args 2 2
  match args with
  | [a, b] =>
    let start ← intOf a
    let last ← intOf b
    if start.toInt < 1 || (s.size : Int) < last.toInt || last.toInt + 1 < start.toInt then
      Act.fail lineOutside
    let r ← modifyGet fun b =>
      let (r, objects) := b.objects.newEnd last
      (r, { b with objects })
    Bridge.wrap .range (.range s.buffer start r)
  | _ => Act.fail lineOutside

end Span

/-- The methods of buffers and ranges. -/
def spanMethod (receiver : Target) (name : String) (args : List ObjRef) :
    Act ProxyError ObjRef := do
  let s ← span receiver
  match name with
  | "append" => s.append args
  | "range" => s.range args
  | _ => Act.fail (.attribute ("no method " ++ name))

/-- The span of the current buffer, and the position of the cursor line in it. -/
def cursorSpan : Act ProxyError (Span × Int) := do
  let e ← Bridge.readEditor
  return (← span (.buffer e.currentBuffer), (e.cursorLine : Int) - 1)

/-- The cursor line. -/
def currentLine : Act ProxyError ObjRef := do
  let (s, i) ← cursorSpan
  s.item i

/-- Replaces the cursor line, or deletes it. -/
def setCurrentLine (value : Option ObjRef) : Act ProxyError Unit := do
  let (s, i) ← cursorSpan
  s.assignItem i value

end ScriptBridge.Proxy
