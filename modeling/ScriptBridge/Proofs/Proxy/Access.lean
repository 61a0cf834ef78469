import ScriptBridge.Proofs.Bridge.Operations
import ScriptBridge.Proxy.Call
import ScriptBridge.Script.Assignment
import ScriptBridge.Script.Call

/-!
# How proxies are accessed

The first steps of the operations of proxies: the session is asked for, the editor is read, a key is
looked at.
-/

namespace ScriptBridge.Proxy

open Foreign (ObjRef Object ProxyClass Target Shape)
open ScriptBridge.Computation

variable {α : Type} {b : Bridge} {cls : ProxyClass} {t : Target} {o k : ObjRef}

theorem readEditor_apply (hloan : b.loan ≠ .exclusive) :
    Bridge.readEditor b = .ok b.editor b := by
  simp only [Bridge.readEditor, bind_apply, get_apply, if_neg hloan, pure_apply]

theorem readEditor_busy (hloan : b.loan = .exclusive) :
    Bridge.readEditor b = .error (.error (.host busyText)) b := by
  simp only [Bridge.readEditor, bind_apply, get_apply, if_pos hloan]
  rfl

theorem readEditor_bind_apply {f : Host.Editor → Act ProxyError α} (hloan : b.loan ≠ .exclusive) :
    (Bridge.readEditor >>= f) b = f b.editor b := by
  rw [bind_apply, readEditor_apply hloan]

/-- What a computation that reads the editor first comes to. -/
theorem readEditor_bind {f : Host.Editor → Act ProxyError α} {a : Act ProxyError α}
    (hbusy : b.loan = .exclusive → a b = .error (.error (.host busyText)) b)
    (hfree : b.loan ≠ .exclusive → f b.editor b = a b) : (Bridge.readEditor >>= f) b = a b := by
  by_cases hloan : b.loan = .exclusive
  · rw [bind_apply, readEditor_busy hloan, hbusy hloan]
  · rw [bind_apply, readEditor_apply hloan, ← hfree hloan]

theorem inspect_apply {x : Shape} (hk : (b.objects.get k).shape = .ok x) :
    (liftM (Bridge.inspect k) : Act ProxyError Shape) b = .ok x b := by
  have h : Bridge.inspect k b = .ok x b := by
    simp only [Bridge.inspect, bind_apply, get_apply, hk]
    rfl
  change Act.mapError ProxyError.foreign (Bridge.inspect k) b = _
  rw [Act.mapError, h]

/-- In a session a script calls a slot of a proxy directly. -/
theorem slot_apply (hkind : b.interpreter.kind = .scripted) (hattached : b.attached = true)
    (a : Act ProxyError α) : slot a b = a.mapError ProxyError.toForeign b := by
  unfold slot
  simp only [bind_apply, get_apply, hattached, Bool.not_true, Bool.false_eq_true, if_false, hkind]

theorem slot_ok {a : Act ProxyError α} {x : α} {b' : Bridge} (hattached : b.attached = true)
    (ha : a b = .ok x b') : slot a b = .ok x b' := by
  unfold slot
  rw [bind_apply, get_apply]
  dsimp only
  rw [hattached]
  cases b.interpreter.kind with
  | scripted =>
    change Act.mapError _ a b = _
    rw [Act.mapError, ha]
  | library =>
    change guarded a b = _
    rw [guarded, ha]

/-- A failure of an operation is an exception, in the wording of the interpreter. -/
theorem slot_refused {a : Act ProxyError α} {e : ProxyError} {e' : ForeignError} {b' : Bridge}
    (hattached : b.attached = true) (hscripted : e.toForeign = e') (hlibrary : raised e = e')
    (ha : a b = .error (.error e) b') : slot a b = .error (.error e') b' := by
  unfold slot
  rw [bind_apply, get_apply]
  dsimp only
  rw [hattached]
  cases b.interpreter.kind with
  | scripted =>
    change Act.mapError _ a b = _
    rw [Act.mapError, ha]
    exact congrArg (EStateM.Result.error · b') (congrArg Stop.error hscripted)
  | library =>
    change guarded a b = _
    rw [guarded, ha]
    exact congrArg (EStateM.Result.error · b') (congrArg Stop.error hlibrary)

/-! ### Positions and slices -/

/-- Whether keys of a target are positions and slices. -/
def isPositional : Target → Bool
  | .buffers | .dict _ | .invalid => false
  | _ => true

theorem subscript_eq (hcls : cls.isSequence = true) (ht : isPositional t = true) (k : ObjRef) :
    subscript cls t k = (do
      match ← Bridge.inspect k with
      | .int n =>
        let len ← length cls t
        let i ← Act.ofExcept (position n.toInt len)
        item cls t i
      | .bool b => item cls t (if b then 1 else 0)
      | .slice bounds => sliceOf cls t bounds
      | _ => Act.fail badIndex) := by
  cases t with
  | buffers | dict | invalid => cases ht
  | _ =>
    unfold subscript
    exact if_neg (by simp [hcls])

theorem subscript_int (hcls : cls.isSequence = true) (ht : isPositional t = true) {n : Int64}
    (hk : (b.objects.get k).shape = .ok (.int n)) : subscript cls t k b = (do
      let len ← length cls t
      let i ← Act.ofExcept (position n.toInt len)
      item cls t i) b := by
  rw [subscript_eq hcls ht, bind_apply, inspect_apply hk]

theorem subscript_bool (hcls : cls.isSequence = true) (ht : isPositional t = true) {x : Bool}
    (hk : (b.objects.get k).shape = .ok (.bool x)) :
    subscript cls t k b = item cls t (if x then 1 else 0) b := by
  rw [subscript_eq hcls ht, bind_apply, inspect_apply hk]

theorem subscript_slice (hcls : cls.isSequence = true) (ht : isPositional t = true)
    {bounds : Foreign.Slice} (hk : (b.objects.get k).shape = .ok (.slice bounds)) :
    subscript cls t k b = sliceOf cls t bounds b := by
  rw [subscript_eq hcls ht, bind_apply, inspect_apply hk]

/-- A buffer, or a range of its lines, as a target of its class. -/
inductive Lines (id : Nat) : ProxyClass → Target → Prop where
  | buffer : Lines id .buffer (.buffer id)
  | range (start : Int64) (last : Foreign.EndRef) : Lines id .range (.range id start last)

theorem Lines.isSequence {id : Nat} (ht : Lines id cls t) : cls.isSequence = true := by
  cases ht <;> rfl

theorem Lines.isPositional {id : Nat} (ht : Lines id cls t) : isPositional t = true := by
  cases ht <;> rfl

/-- Lines are assigned to by position or by slice. -/
theorem Lines.assign_eq {id : Nat} (ht : Lines id cls t) (k : ObjRef) (value : Option ObjRef) :
    assign cls t k value = (do
      match ← Bridge.inspect k with
      | .int n =>
        let i ← Act.ofExcept (position n.toInt (← length cls t))
        assignItem cls t i value
      | .slice bounds => assignSlice cls t bounds value
      | _ => Act.fail badIndex) := by
  have hend {n len : Int} (a a' : Act ProxyError Unit) :
      (if (decide (n = len) && growsAtEnd t) = true then a else a') = a' := by
    have hgrows : growsAtEnd t = false := by cases ht <;> rfl
    rw [hgrows, Bool.and_false, if_neg Bool.false_ne_true]
  cases ht with
  | buffer | range start last =>
    refine congrArg (liftM (Bridge.inspect k) >>= ·) (funext fun x => ?_)
    cases x with
    | int n => exact congrArg (length _ _ >>= ·) (funext fun len => hend _ _)
    | _ => rfl

theorem Lines.length_eq {id : Nat} (ht : Lines id cls t) :
    length cls t = (do return (← span t).size) := by
  cases ht <;> rfl

theorem Lines.item_eq {id : Nat} (ht : Lines id cls t) (i : Int) :
    item cls t i = (do (← span t).item i) := by
  cases ht <;> rfl

theorem Lines.sliceOf_eq {id : Nat} (ht : Lines id cls t) (bounds : Foreign.Slice) :
    sliceOf cls t bounds = (do (← span t).slice bounds) := by
  cases ht <;> rfl

theorem Lines.assignItem_eq {id : Nat} (ht : Lines id cls t) (i : Int) (value : Option ObjRef) :
    assignItem cls t i value = (do (← span t).assignItem i value) := by
  cases ht <;> rfl

theorem Lines.assignSlice_apply {id n lo hi : Nat} {bounds : Foreign.Slice} (ht : Lines id cls t)
    (hlength : length cls t b = .ok n b) (hpart : bounds.contiguous? n = some (lo, hi))
    (value : Option ObjRef) :
    assignSlice cls t bounds value b = (do (← span t).assignSlice lo hi value) b := by
  unfold assignSlice
  rw [bind_apply, hlength]
  dsimp only
  rw [hpart]
  cases ht <;> rfl

/-- The methods of lines. -/
theorem Lines.callMethod_eq {id : Nat} (ht : Lines id cls t) (name : String) (args : List ObjRef) :
    callMethod t cls name args = spanMethod t name args := by
  cases ht <;> rfl

/-! ### Insertions -/

namespace Span

/-- Inserts lines at a position that is not outside of the span. -/
def insertAt (s : Span) (i : Int) (new : List String) : Act ProxyError ObjRef := do
  if i < 0 || (s.size : Int) < i then Act.fail lineOutside
  s.replace i.toNat i.toNat new
  Bridge.alloc .null

/-- Inserts lines at the position that an argument gives, or at the end. -/
def insert (s : Span) (position? : Option ObjRef) (new : List String) : Act ProxyError ObjRef :=
  match position? with
  | some n => do s.insertAt (← intOf n).toInt new
  | none => s.insertAt s.size new

/-- Appending reads the lines first, and then inserts them. -/
theorem append_eq (s : Span) (v : ObjRef) (position? : Option ObjRef) :
    s.append (v :: position?.toList) = (do
      let new ← (Convert.linesFromForeign v : Act ProxyError _)
      s.insert position? new) := by
  cases position? <;> rfl

end Span

end ScriptBridge.Proxy

namespace ScriptBridge.Script

open Foreign (ObjRef Object ProxyClass Target)
open ScriptBridge.Computation

variable {b : Bridge} {cls : ProxyClass} {t : Target} {o : ObjRef}

/-! ### Operations of scripts -/

/-- The first steps of an operation: the object and the kind of the interpreter are looked at. -/
theorem object_kind_bind {α : Type} (o : ObjRef)
    (f : Object → Foreign.InterpreterKind → Act ForeignError α) (b : Bridge) :
    (do f (← Bridge.object o) (← kind) : Act ForeignError α) b =
      f (b.objects.get o) b.interpreter.kind b := rfl

theorem kind_apply (hkind : b.interpreter.kind = .scripted) :
    (kind : Act ForeignError _) b = .ok .scripted b := by
  rw [← hkind]
  rfl

/-- What a proxy gives under a name, whatever the kind of the interpreter. -/
theorem getAttr_ok {name : String} {r : ObjRef} {b' : Bridge} (hattached : b.attached = true)
    (ho : b.objects.get o = .proxy cls t)
    (hget : Proxy.getAttr? cls t name b = .ok (some r) b') : getAttr o name b = .ok r b' := by
  unfold getAttr
  rw [object_kind_bind, ho]
  dsimp only
  rw [bind_apply, Proxy.slot_ok hattached hget]
  rfl

/-! ### Sequences and mappings, for both kinds of interpreters -/

section

variable (ho : b.objects.get o = .proxy cls t) (hcls : (cls.isSequence || cls.isMapping) = true)

include ho hcls

theorem length_container : length o b = Proxy.slot (Proxy.length cls t) b := by
  unfold length
  rw [object_kind_bind, ho]
  cases b.interpreter.kind with
  | scripted => rfl
  | library =>
    dsimp only
    rw [hcls]
    rfl

theorem getItem_container (k : ObjRef) : getItem o k b = Proxy.slot (Proxy.subscript cls t k) b := by
  unfold getItem
  rw [object_kind_bind, ho]
  cases b.interpreter.kind with
  | scripted => rfl
  | library =>
    dsimp only
    rw [hcls]
    rfl

theorem setItem_container (k : ObjRef) (value : Option ObjRef) :
    setItem o k value b = Proxy.slot (Proxy.assign cls t k value) b := by
  unfold setItem
  rw [object_kind_bind, ho]
  cases b.interpreter.kind with
  | scripted => rfl
  | library =>
    dsimp only
    rw [hcls]
    rfl

end

/-- A call without keywords of a proxy that can be called. -/
theorem call_callable (ho : b.objects.get o = .proxy cls t) (hcls : cls.isCallable = true)
    (command : String → Act BridgeError Unit) (args : List ObjRef) :
    call command o args [] b = Proxy.slot (Proxy.call command cls t args) b := by
  have hobject : (Bridge.object o : Act ForeignError Object) b = .ok (b.objects.get o) b := rfl
  unfold call
  rw [bind_apply, hobject]
  dsimp only
  rw [ho]
  dsimp only
  unfold callPlain
  rw [object_kind_bind, ho]
  cases b.interpreter.kind with
  | scripted => rfl
  | library =>
    dsimp only
    rw [hcls]
    rfl

/-! ### The scripted interpreter -/

variable (hkind : b.interpreter.kind = .scripted) (hattached : b.attached = true)
  (ho : b.objects.get o = .proxy cls t)

include hkind hattached ho

theorem getAttr_apply (name : String) : getAttr o name b =
    ((Proxy.getAttr? cls t name).mapError ProxyError.toForeign >>= fun
      | some v => pure v
      | none => missingAttribute o name) b := by
  unfold getAttr
  simp only [bind_apply, Bridge.object, get_apply, pure_apply, ho, kind_apply hkind,
    Proxy.slot_apply hkind hattached]
  cases (Proxy.getAttr? cls t name).mapError ProxyError.toForeign b with
  | ok v b' => cases v <;> rfl
  | error e b' => rfl

theorem getItem_apply (k : ObjRef) :
    getItem o k b = (Proxy.subscript cls t k).mapError ProxyError.toForeign b := by
  unfold getItem
  simp only [bind_apply, Bridge.object, get_apply, pure_apply, ho, kind_apply hkind,
    Proxy.slot_apply hkind hattached]

theorem setAttr_apply (name : String) (value : Option ObjRef) :
    setAttr o name value b = (Proxy.setAttr cls t name value).mapError ProxyError.toForeign b := by
  unfold setAttr
  simp only [bind_apply, Bridge.object, get_apply, pure_apply, ho, kind_apply hkind,
    Proxy.slot_apply hkind hattached]

theorem length_apply :
    length o b = (Proxy.length cls t).mapError ProxyError.toForeign b := by
  unfold length
  simp only [bind_apply, Bridge.object, get_apply, pure_apply, ho, kind_apply hkind,
    Proxy.slot_apply hkind hattached]

theorem setItem_apply (k : ObjRef) (value : Option ObjRef) :
    setItem o k value b = (Proxy.assign cls t k value).mapError ProxyError.toForeign b := by
  unfold setItem
  simp only [bind_apply, Bridge.object, get_apply, pure_apply, ho, kind_apply hkind,
    Proxy.slot_apply hkind hattached]

theorem call_apply (command : String → Act BridgeError Unit) (args : List ObjRef)
    (keywords : Keywords) : call command o args keywords b =
    (Proxy.call command cls t args).mapError ProxyError.toForeign b := by
  unfold call
  simp only [bind_apply, Bridge.object, get_apply, pure_apply, ho]
  unfold callPlain
  simp only [bind_apply, Bridge.object, get_apply, pure_apply, ho, kind_apply hkind,
    Proxy.slot_apply hkind hattached]

omit hattached in
theorem iterate_apply : iterate o b = (if cls.isIterable then do
      let list ← Proxy.slot (Proxy.iterate cls t)
      return ((← Bridge.object list).elements?).getD []
    else do
      let n ← Proxy.slot (Proxy.length cls t)
      (List.range n).mapM fun (i : Nat) => Proxy.slot (Proxy.item cls t i)) b := by
  unfold iterate
  simp only [bind_apply, Bridge.object, get_apply, pure_apply, ho, kind_apply hkind]

end ScriptBridge.Script
