import ScriptBridge.Proofs.Bridge.Mild
import ScriptBridge.Proofs.Proxy.Mild
import ScriptBridge.Proxy.Call

/-!
# Computations that do not look at the sides

The handoff knows which side owns execution. A computation is blind when it goes the same way
whatever the handoff is, and leaves the handoff alone.

The gate in front of the editor asks which side owns execution. Operations on lists, dictionaries
and functions, and the functions of the module, do not pass the gate, so they go the same way
whichever side it is.
-/

namespace ScriptBridge

open Foreign (ObjRef Object)
open Host (Value Store LockError Editor Entity)
open ScriptBridge.Computation

/-- A computation that goes the same way with any handoff. -/
def Act.Blind {ε α : Type} (a : Act ε α) : Prop :=
  ∀ (h : Handoff) (b : Bridge), a (b.handing h) = onState (·.handing h) (a b)

/-- What was destroyed is invalidated with any handoff. -/
theorem Bridge.withEditor_handing (h : Handoff) (b : Bridge) (e : Editor) :
    (b.handing h).withEditor e = (b.withEditor e).handing h := by
  have hone (b : Bridge) (key : Entity) :
      (b.handing h).invalidate key = (b.invalidate key).handing h := by
    have hread : (b.handing h).registry = b.registry := rfl
    unfold invalidate
    rw [hread]
    cases b.registry.find? (·.1 = key) <;> rfl
  have hfold (keys : List Entity) (b : Bridge) :
      keys.foldl invalidate (b.handing h) = (keys.foldl invalidate b).handing h := by
    induction keys generalizing b with
    | nil => rfl
    | cons key rest ih =>
      rw [List.foldl_cons, hone]
      exact ih _
  exact hfold _ { b with editor := e }

namespace Act.Blind

variable {ε δ α β : Type}

theorem pure {x : α} : (Pure.pure x : Act ε α).Blind := fun _ _ => rfl

theorem fail {e : ε} : (Act.fail e : Act ε α).Blind := fun _ _ => rfl

theorem bind {a : Act ε α} {f : α → Act ε β} (ha : a.Blind) (hf : ∀ x, (f x).Blind) :
    (a >>= f).Blind := by
  intro h b
  rw [bind_apply, bind_apply, ha h b]
  cases a b with
  | ok x b' => exact hf x h b'
  | error e b' => rfl

/-- What is read of the bridge is the same with any handoff. -/
theorem get_bind {f : Bridge → Act ε β} (hf : ∀ b, (f b).Blind)
    (hsame : ∀ h b, f (b.handing h) = f b) : (MonadState.get >>= f : Act ε β).Blind := by
  intro h b
  rw [bind_apply, get_apply, bind_apply, get_apply]
  dsimp only
  rw [hsame]
  exact hf b h b

theorem mapError {a : Act ε α} {f : ε → δ} (ha : a.Blind) : (a.mapError f).Blind := by
  intro h b
  rw [Act.mapError, Act.mapError, ha h b]
  cases a b <;> rfl

theorem attempt {a : Act ε α} (ha : a.Blind) :
    Act.Blind (Act.attempt a : Act δ (Except ε α)) := by
  intro h b
  unfold Act.attempt
  rw [ha h b]
  cases a b with
  | ok x b' => rfl
  | error stop b' => cases stop <;> rfl

instance : Act.Mild @Act.Blind where
  pure := .pure
  fail := .fail
  bind := .bind
  read := .get_bind
  mapError := .mapError
  attempt := .attempt
  alloc := fun _ _ => rfl
  hold := fun _ _ => rfl
  newList := fun _ _ => rfl
  newDict := fun _ _ => rfl

/-! ### The editor -/

theorem store {f : Store → Except LockError Store} : (Bridge.store f).Blind := by
  intro h b
  have hread : (b.handing h).editor.store = b.editor.store := rfl
  simp only [Bridge.store, bind_apply, get_apply, hread]
  cases f b.editor.store <;> rfl

theorem say {m : Host.Message} : (Bridge.say m : Act ε Unit).Blind := by
  intro h b
  unfold Bridge.say
  have hread : (b.handing h).loan = b.loan := rfl
  rw [modify_apply, modify_apply, hread]
  split <;> rfl

instance : Act.Storing @Act.Blind where
  store _ := store
  say := say

/-- The host interpreter acts on the editor only. -/
theorem host {a : Host.Eval α} : (Bridge.host a).Blind := by
  intro h b
  have hread : (b.handing h).editor = b.editor := rfl
  unfold Bridge.host
  rw [hread]
  cases a b.editor <;>
    · dsimp only [onState]
      rw [b.withEditor_handing]

theorem serve {a : Host.Eval α} : (Bridge.serve a).Blind :=
  .bind Mild.demandEditor fun _ => .mapError host

end Act.Blind

end ScriptBridge

namespace ScriptBridge.Proxy

open Foreign (ObjRef Object ProxyClass Target Slice)
open Host (Value Store LockError ListRef DictRef)
open Act (Mild)
open ScriptBridge.Computation

variable {ε : Type}

theorem blind_slot {α : Type} {a : Act ProxyError α} (ha : a.Blind) : (slot a).Blind := by
  have hguarded : (guarded a).Blind := by
    intro h b
    unfold guarded
    rw [ha h b]
    cases a b with
    | ok x b' => rfl
    | error stop b' => cases stop <;> rfl
  refine .get_bind (fun b => Mild.guard ?_) fun _ _ => rfl
  split
  · exact .mapError ha
  · exact hguarded

/-! ### Targets -/

/-- A list or a dictionary. -/
def IsContainer : Target → Prop
  | .list _ | .dict _ => True
  | _ => False

/-- A function of the host, a function of the module, or a method of a container. -/
def IsFunction : Target → Prop
  | .function .. | .builtin _ => True
  | .method receiver owner _ => IsContainer receiver ∧ (owner = .list ∨ owner = .dictionary)
  | _ => False

variable {t : Target} (cls : ProxyClass)

theorem blind_setAttr (ht : IsContainer t) (name : String) (value : Option ObjRef) :
    (setAttr cls t name value).Blind := by
  have hwrite (v : ObjRef) : (writeAttr t name v).Blind := by
    unfold writeAttr
    split
    iterate 4 exact ht.elim
    · exact .bind (mild_truthOf v) fun _ => .bind (.mapError .store) fun _ => .pure
    · exact .fail
    · exact .bind (mild_truthOf v) fun _ => .bind (.mapError .store) fun _ => .pure
    · exact ht.elim
    · exact .pure
  have hchange : (changeAttr t name value).Blind := by
    unfold changeAttr
    split
    · exact ht.elim
    · split
      · exact .fail
      · exact hwrite _
  unfold setAttr
  refine Mild.guard (.bind hchange fun changed => ?_)
  split
  · exact .fail
  · exact .pure

theorem blind_assignItem (ht : IsContainer t) (i : Int) (value : Option ObjRef) :
    (assignItem cls t i value).Blind := by
  cases t with
  | list l => exact storing_setListItem l i value
  | dict d => exact .fail
  | _ => exact ht.elim

theorem blind_length (ht : IsContainer t) : (length cls t).Blind := by
  cases t with
  | list l => exact .bind (mild_itemsOf l) fun _ => .pure
  | dict d => exact .bind (mild_entriesOf d) fun _ => .pure
  | _ => exact ht.elim

theorem blind_assign (ht : IsContainer t) (k : ObjRef) (value : Option ObjRef) :
    (assign cls t k value).Blind := by
  cases t with
  | dict d => exact storing_setDictItem d k value
  | list l =>
    refine .bind (.mapError (Mild.inspect k)) fun shape => ?_
    split
    · refine .bind (blind_length cls ht) fun len => ?_
      dsimp only
      split
      · exact .bind .pure fun i => blind_assignItem cls ht i value
      · exact .bind Mild.ofExcept fun i => blind_assignItem cls ht i value
    · refine .bind (blind_length cls ht) fun len => ?_
      split
      · exact .fail
      · exact storing_setListSlice l _ _ value
    · exact .fail
  | _ => exact ht.elim

/-! ### Calls -/

theorem blind_flush : (flush : Act ε Unit).Blind := by
  have hshow (b : Bridge) : Act.Blind (do
      for s in [Foreign.Stream.out, Foreign.Stream.err] do
        if !(pending b s).isEmpty then Bridge.say (message s (pending b s)) : Act ε Unit) := by
    refine .bind (Mild.forIn fun s => ?_) fun _ => .pure
    split
    · exact .bind .say fun _ => .pure
    · exact .pure
  intro h b
  exact hshow b h { b with pendingOut := "", pendingErr := "" }

theorem blind_callHostFunction (name : String) (bound : List Value) (args : List ObjRef) :
    (callHostFunction name bound args).Blind :=
  .bind (Mild.mapM (fun r => .mapError (Convert.mild_toHost r)) args) fun _ =>
    .get_bind (fun _ => .bind .serve fun v => .mapError (Convert.mild_toForeignBound v))
      fun _ _ => rfl

theorem blind_callBuiltin {command : String → Act BridgeError Unit}
    (hcommand : ∀ line, (command line).Blind) (f : Foreign.Builtin) (args : List ObjRef) :
    (callBuiltin command f args).Blind := by
  refine .bind (mild_arity _ _ _ _) fun _ => .bind (.mapError (Convert.mild_stringOf _))
    fun text => .get_bind (fun b => ?_) fun _ _ => rfl
  cases f with
  | command => exact .bind blind_flush fun _ => .bind (.mapError (hcommand text)) fun _ =>
      Mild.alloc
  | eval => exact .bind .serve fun v => .mapError (Convert.mild_toForeign v)
  | bindEval => exact .bind .serve fun v => .mapError (Convert.mild_toForeignBound v)

theorem blind_callMethod (ht : IsContainer t) (howner : cls = .list ∨ cls = .dictionary)
    (name : String) (args : List ObjRef) : (callMethod t cls name args).Blind := by
  cases t with
  | list l =>
    rcases howner with rfl | rfl
    · exact storing_listMethod l name args
    · exact .fail
  | dict d =>
    rcases howner with rfl | rfl
    · exact .fail
    · exact storing_dictMethod d name args
  | _ => exact ht.elim

/-- A call of a function goes the same way with any handoff if command lines do. -/
theorem blind_call {command : String → Act BridgeError Unit}
    (hcommand : ∀ line, (command line).Blind) (ht : IsFunction t) (args : List ObjRef) :
    (call command cls t args).Blind := by
  cases t with
  | builtin f => exact blind_callBuiltin hcommand f args
  | function name bound => exact blind_callHostFunction name bound args
  | method receiver owner name => exact blind_callMethod owner ht.1 ht.2 name args
  | _ => exact ht.elim

end ScriptBridge.Proxy
