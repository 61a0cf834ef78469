import ScriptBridge.Bridge.State

/-!
# The registry

Each buffer, window and tab page has at most one proxy that is alive. The registry finds it again;
it does not keep it alive.
-/

namespace ScriptBridge.Bridge

open Foreign (ObjRef ProxyClass Target)
open Host (Entity)

variable {ε : Type}

/-- A new proxy that is not registered. -/
def wrap (cls : ProxyClass) (target : Target) : Act ε ObjRef := alloc (.proxy cls target)

/-- The entries of the registry whose proxies are alive. -/
def liveEntries (b : Bridge) : List (Entity × ObjRef) :=
  let alive := b.objects.alive b.roots
  b.registry.filter fun e => alive.getD e.2.id false

/-- The count of the registered proxies that are alive. -/
def liveProxies (b : Bridge) : Nat := b.liveEntries.length

/-- The proxy of an entity: the one that is alive, or a new one. Entries whose proxies are not
alive are dropped when a new one is registered. -/
def entity (key : Entity) : Act ProxyError ObjRef := do
  let e ← readEditor
  if !e.has key then Act.fail (.deleted key.kind)
  let entries := (← get).liveEntries
  match entries.lookup key with
  | some r =>
    hold r
    pure r
  | none =>
    let r ← wrap (ProxyClass.ofEntity key) (Target.ofEntity key)
    modify fun b => { b with registry := entries ++ [(key, r)] }
    pure r

/-- Every registered proxy stands for nothing, and none is registered. -/
def clearRegistry (b : Bridge) : Bridge :=
  { (b.liveEntries.foldl (fun b e => b.invalidate e.1) b) with registry := [] }

end ScriptBridge.Bridge
