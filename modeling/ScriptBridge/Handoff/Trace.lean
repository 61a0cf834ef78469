import ScriptBridge.Handoff

/-!
# Entering and leaving

A trace keeps the guards of the entries that have not been left, the newest first. Leaving undoes
the newest entry.
-/

namespace ScriptBridge.Handoff

/-- A handoff with the guards of its entries. -/
structure Trace where
  handoff : Handoff
  guards : List Guard := []

namespace Trace

/-- Enters. -/
def enter (t : Trace) : Except HandoffError Trace := do
  let (g, handoff) ← t.handoff.enter
  return ⟨handoff, g :: t.guards⟩

/-- Leaves the newest entry; nothing if there is none. -/
def leave? (t : Trace) : Option Trace :=
  match t.guards with
  | [] => none
  | g :: guards => some ⟨t.handoff.leave g, guards⟩

/-- Leaves all entries. -/
def unwind (t : Trace) : Handoff := t.guards.foldl leave t.handoff

end Trace

end ScriptBridge.Handoff
