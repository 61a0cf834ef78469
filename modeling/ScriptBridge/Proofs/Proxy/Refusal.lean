import ScriptBridge.Proofs.Proxy.Access

/-!
# Refusals

An operation of a proxy is refused when it fails with the exception class of the module and changes
nothing. What belongs to a destroyed buffer or tab page refuses all that would reach its lines or
windows, and so does a proxy whose entity is destroyed.
-/

namespace ScriptBridge

open Foreign (ObjRef Object ProxyClass Target Slice Shape)
open ScriptBridge.Computation

/-- A key of a sequence: a position or a slice. -/
inductive Foreign.Shape.IsIndex : Shape → Prop where
  | int (n : Int64) : IsIndex (.int n)
  | bool (x : Bool) : IsIndex (.bool x)
  | slice (bounds : Slice) : IsIndex (.slice bounds)

/-! ### Operations that are refused -/

section

variable {ε δ α β : Type} {b : Bridge}

/-- A computation fails and changes nothing. -/
def Fails (a : Act ε α) (b : Bridge) : Prop := ∃ e, a b = .error e b

/-- An operation of a script fails with the exception class of the module and changes nothing. -/
def Refused (a : Act ForeignError α) (b : Bridge) : Prop :=
  ∃ text, a b = .error (.error (.exception .bridge text)) b

theorem Refused.fails {a : Act ForeignError α} (h : Refused a b) : Fails a b := h.imp' _ fun _ => id

theorem Fails.of_fail {e : ε} : Fails (Act.fail e : Act ε α) b := ⟨_, rfl⟩

theorem Fails.mapError {a : Act ε α} (h : Fails a b) (f : ε → δ) : Fails (a.mapError f) b := by
  obtain ⟨e, he⟩ := h
  exact ⟨e.map f, by rw [Act.mapError, he]⟩

theorem Fails.bind {a : Act ε α} (h : Fails a b) (f : α → Act ε β) : Fails (a >>= f) b := by
  obtain ⟨e, he⟩ := h
  exact ⟨e, by rw [bind_apply, he]⟩

theorem Fails.of_eq {a a' : Act ε α} (h : Fails a' b) (heq : a b = a' b) : Fails a b :=
  h.imp fun _ he => heq.trans he

theorem Fails.final_eq {a : Act ε α} (h : Fails a b) : final (a b) = b := by
  obtain ⟨e, he⟩ := h
  rw [he, final_error]

/-- What follows an operation that is refused does not happen. -/
theorem Refused.bind {a : Act ForeignError α} (h : Refused a b) (f : α → Act ForeignError β) :
    Refused (a >>= f) b := by
  obtain ⟨text, htext⟩ := h
  exact ⟨text, by rw [bind_apply, htext]⟩

theorem Refused.of_eq {a a' : Act ForeignError α} (h : Refused a' b) (heq : a b = a' b) :
    Refused a b :=
  h.imp fun _ htext => heq.trans htext

theorem mapError_bind (f : ε → δ) (a : Act ε α) (g : α → Act ε β) :
    (a >>= g).mapError f = a.mapError f >>= fun x => (g x).mapError f := by
  funext b
  rw [Act.mapError, bind_apply, bind_apply, Act.mapError]
  cases a b <;> rfl

end

namespace Proxy

variable {α β : Type} {b : Bridge} {cls : ProxyClass} {t : Target} {o k : ObjRef}

/-- An operation of a proxy that scripts see refused. -/
def Refuses (a : Act ProxyError α) (b : Bridge) : Prop := Refused (a.mapError ProxyError.toForeign) b

theorem Refuses.deleted (kind : EntityKind) :
    Refuses (Act.fail (.deleted kind) : Act ProxyError α) b := ⟨_, rfl⟩

theorem Refuses.busy (hloan : b.loan = .exclusive) : Refuses Bridge.readEditor b := by
  refine ⟨busyText, ?_⟩
  rw [Act.mapError, readEditor_busy hloan]
  rfl

/-- What follows an operation that is refused does not happen. -/
theorem Refuses.bind {a : Act ProxyError α} (h : Refuses a b) (f : α → Act ProxyError β) :
    Refuses (a >>= f) b := by
  rw [Refuses, mapError_bind]
  exact Refused.bind h _

theorem Refuses.of_eq {a a' : Act ProxyError α} (h : Refuses a' b) (heq : a b = a' b) :
    Refuses a b :=
  Refused.of_eq h (by rw [Act.mapError, Act.mapError, heq])

/-- An operation that reads the editor first, and is refused when it can. -/
theorem Refuses.of_editor {f : Host.Editor → Act ProxyError α} (h : Refuses (f b.editor) b) :
    Refuses (Bridge.readEditor >>= f) b := by
  by_cases hloan : b.loan = .exclusive
  · exact (Refuses.busy hloan).bind f
  · exact h.of_eq (by rw [bind_apply, readEditor_apply hloan])

/-- A check that refuses what comes next. -/
theorem Refuses.of_if {c : Prop} [Decidable c] {a a' : Act ProxyError α} (hc : c)
    (h : Refuses a b) : Refuses (if c then a else a') b := by
  rw [if_pos hc]
  exact h

/-! ### Lines of a destroyed buffer -/

section Lines

variable {id : Nat} (ht : Lines id cls t) (hgone : b.editor.has (.buffer id) = false)

include ht hgone

theorem span_refuses : Refuses (span t) b := by
  have hnone : b.editor.buffer? id = none := by simpa [Host.Editor.has] using hgone
  cases ht with
  | buffer =>
    refine .of_editor (Refuses.of_eq (.deleted .buffer) ?_)
    dsimp only
    rw [hnone]
    rfl
  | range start last =>
    refine .of_editor (Refuses.of_eq (.deleted .buffer) ?_)
    dsimp only
    rw [hnone]
    rfl

theorem length_refuses : Refuses (length cls t) b := by
  have hspan := span_refuses ht hgone
  cases ht with
  | buffer => exact hspan.bind _
  | range start last => exact hspan.bind _

theorem item_refuses (i : Int) : Refuses (item cls t i) b := by
  have hspan := span_refuses ht hgone
  cases ht with
  | buffer => exact hspan.bind _
  | range start last => exact hspan.bind _

theorem sliceOf_refuses (bounds : Slice) : Refuses (sliceOf cls t bounds) b := by
  have hspan := span_refuses ht hgone
  cases ht with
  | buffer => exact hspan.bind _
  | range start last => exact hspan.bind _

theorem assignItem_refuses (i : Int) (value : Option ObjRef) :
    Refuses (assignItem cls t i value) b := by
  have hspan := span_refuses ht hgone
  cases ht with
  | buffer => exact hspan.bind _
  | range start last => exact hspan.bind _

/-- Reading under a position or a slice. -/
theorem subscript_refuses {x : Shape} (hk : (b.objects.get k).shape = .ok x)
    (hx : x.IsIndex) : Refuses (subscript cls t k) b := by
  cases hx with
  | int n =>
    exact .of_eq ((length_refuses ht hgone).bind _)
      (subscript_int ht.isSequence ht.isPositional hk)
  | bool x =>
    exact (item_refuses ht hgone _).of_eq (subscript_bool ht.isSequence ht.isPositional hk)
  | slice bounds =>
    exact (sliceOf_refuses ht hgone bounds).of_eq
      (subscript_slice ht.isSequence ht.isPositional hk)

/-- Writing or deleting under a position or a slice. -/
theorem assign_refuses {x : Shape} (hk : (b.objects.get k).shape = .ok x)
    (hx : x.IsIndex) (hbool : ∀ y, x ≠ .bool y) (value : Option ObjRef) :
    Refuses (assign cls t k value) b := by
  have hlength := length_refuses ht hgone
  refine Refuses.of_eq ?_ (congrFun (ht.assign_eq k value) b)
  cases hx with
  | int n => exact (hlength.bind _).of_eq (by rw [bind_apply, inspect_apply hk])
  | bool y => exact absurd rfl (hbool y)
  | slice bounds => exact (hlength.bind _).of_eq (by rw [bind_apply, inspect_apply hk]; rfl)

/-- Calling a method. -/
theorem call_refuses (command : String → Act BridgeError Unit) (name : String)
    (args : List ObjRef) : Refuses (call command .method (.method t cls name) args) b := by
  have hspan := span_refuses ht hgone
  cases ht with
  | buffer => exact hspan.bind _
  | range start last => exact hspan.bind _

end Lines

/-- Every attribute of a range of a destroyed buffer. -/
theorem range_getAttr_refuses {id : Nat} (hgone : b.editor.has (.buffer id) = false)
    (start : Int64) (last : Foreign.EndRef) (name : String) :
    Refuses (getAttr? .range (.range id start last) name) b := by
  have hnone : b.editor.buffer? id = none := by simpa [Host.Editor.has] using hgone
  have hisNone : (b.editor.buffer? id).isNone = true := by rw [hnone, Option.isNone_none]
  have hattr : Refuses (rangeAttr id start (b.objects.endOf last) name) b := by
    unfold rangeAttr
    exact .of_editor (.of_if hisNone ((Refuses.deleted .buffer).bind _))
  have htarget : Refuses (targetAttr (.range id start last) name) b := hattr.of_eq rfl
  have hvalid : (!(Target.range id start last).isValid) = false := rfl
  unfold getAttr?
  simp only [hvalid, Bool.false_eq_true, if_false]
  exact htarget.bind _

/-! ### Windows of a destroyed tab page -/

section Windows

variable {id : Nat} (hgone : b.editor.has (.tabPage id) = false)

include hgone

theorem windowsOf_refuses : Refuses (windowsOf (some id)) b := by
  have hnone : b.editor.tab? id = none := by simpa [Host.Editor.has] using hgone
  refine .of_editor (Refuses.of_eq (.deleted .tabPage) ?_)
  rw [Option.getD_some, hnone]

theorem windows_length_refuses : Refuses (length .windowList (.windows (some id))) b :=
  (windowsOf_refuses hgone).bind _

theorem windows_item_refuses (i : Int) : Refuses (item .windowList (.windows (some id)) i) b :=
  (windowsOf_refuses hgone).bind _

theorem windows_subscript_refuses {x : Shape} (hk : (b.objects.get k).shape = .ok x)
    (hx : x.IsIndex) : Refuses (subscript .windowList (.windows (some id)) k) b := by
  cases hx with
  | int n => exact .of_eq ((windows_length_refuses hgone).bind _) (subscript_int rfl rfl hk)
  | bool x => exact (windows_item_refuses hgone _).of_eq (subscript_bool rfl rfl hk)
  | slice bounds =>
    exact .of_eq ((windows_length_refuses hgone).bind _) (subscript_slice rfl rfl hk)

end Windows

/-! ### What does not suit a class -/

theorem inspect_fails {e : ForeignError} (hk : (b.objects.get k).shape = .error e) :
    Fails (liftM (Bridge.inspect k) : Act ProxyError Shape) b := by
  have h : Bridge.inspect k b = .error (.error e) b := by
    simp only [Bridge.inspect, bind_apply, get_apply, hk]
    rfl
  exact Fails.mapError ⟨_, h⟩ ProxyError.foreign

theorem subscript_fails (hcls : cls.isSequence = true) (ht : isPositional t = true)
    (hk : ∀ x, (b.objects.get k).shape = .ok x → ¬x.IsIndex) : Fails (subscript cls t k) b := by
  rw [subscript_eq hcls ht]
  cases hshape : (b.objects.get k).shape with
  | error e => exact (inspect_fails hshape).bind _
  | ok x =>
    refine Fails.of_eq ?_ (by rw [bind_apply, inspect_apply hshape])
    cases x with
    | int n => exact absurd (.int n) (hk _ hshape)
    | bool y => exact absurd (.bool y) (hk _ hshape)
    | slice bounds => exact absurd (.slice bounds) (hk _ hshape)
    | _ => exact .of_fail

theorem Lines.assign_fails {id : Nat} (ht : Lines id cls t) (value : Option ObjRef)
    (hk : ∀ x, (b.objects.get k).shape = .ok x → (∀ y, x ≠ .bool y) → ¬x.IsIndex) :
    Fails (assign cls t k value) b := by
  rw [ht.assign_eq]
  cases hshape : (b.objects.get k).shape with
  | error e => exact (inspect_fails hshape).bind _
  | ok x =>
    refine Fails.of_eq ?_ (by rw [bind_apply, inspect_apply hshape])
    cases x with
    | int n => exact absurd (.int n) (hk _ hshape nofun)
    | slice bounds => exact absurd (.slice bounds) (hk _ hshape nofun)
    | _ => exact .of_fail

/-! ### Proxies of destroyed entities -/

/-- That a proxy is not valid can still be read. -/
theorem invalid_getAttr_valid : getAttr? cls .invalid "valid" b =
    .ok (some (b.objects.alloc (.bool false)).1) (b.withNew (.bool false)) := rfl

theorem invalid_getAttr_refuses {name : String} (hname : name ≠ "valid") :
    Refuses (getAttr? cls .invalid name) b := by
  have hinvalid : (!Target.invalid.isValid) = true := rfl
  unfold getAttr?
  simp only [hinvalid, if_true, if_neg hname]
  exact (Refuses.deleted cls.entityKind).bind _

theorem invalid_setAttr_refuses (name : String) (value : Option ObjRef) :
    Refuses (setAttr cls .invalid name value) b := by
  have hinvalid : (!Target.invalid.isValid) = true := rfl
  unfold setAttr
  exact .of_if hinvalid ((Refuses.deleted cls.entityKind).bind _)

theorem invalid_length_refuses : Refuses (length cls .invalid) b := .deleted cls.entityKind

theorem invalid_item_refuses (i : Int) : Refuses (item cls .invalid i) b := .deleted cls.entityKind

theorem invalid_assignItem_refuses (i : Int) (value : Option ObjRef) :
    Refuses (assignItem cls .invalid i value) b := .deleted cls.entityKind

theorem invalid_subscript_refuses (k : ObjRef) : Refuses (subscript cls .invalid k) b :=
  .deleted cls.entityKind

theorem invalid_assign_refuses (k : ObjRef) (value : Option ObjRef) :
    Refuses (assign cls .invalid k value) b := .deleted cls.entityKind

theorem invalid_call_refuses (command : String → Act BridgeError Unit) (args : List ObjRef) :
    Refuses (call command cls .invalid args) b := .deleted cls.entityKind

/-- A destroyed entity cannot be made current. -/
theorem setCurrent_refuses {name : String} (ho : b.objects.get o = .proxy cls .invalid) :
    Refuses (setCurrent name o) b := by
  have hshape : (b.objects.get o).shape = .ok (.proxy cls .invalid) := by rw [ho]; rfl
  unfold setCurrent
  refine Refuses.of_eq ?_ (by rw [bind_apply, inspect_apply hshape])
  split
  case h_1 heq | h_2 heq | h_3 heq => cases heq
  case h_4 | h_5 | h_6 => exact .deleted _
  case h_7 hinvalid _ _ _ _ _ => exact absurd rfl hinvalid

end Proxy

end ScriptBridge
