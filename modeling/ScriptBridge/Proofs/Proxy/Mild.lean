import ScriptBridge.Proofs.Convert.Mild
import ScriptBridge.Proxy.Container

/-!
# Proxies of containers

The arguments of an operation are looked at, which is mild. An operation on a list or a dictionary
looks at what it is given, writes the container, and tells the user what was left out.
-/

namespace ScriptBridge.Proxy

open Foreign (ObjRef)
open Host (Value Store LockError ListRef DictRef)
open Act (Mild)

variable {P : {ε α : Type} → Act ε α → Prop}

/-! ### Arguments -/

section Mild

variable [Act.Mild P]

theorem mild_intOf (r : ObjRef) : P (intOf r) := by
  refine Mild.bind (Mild.mapError (Mild.inspect r)) fun shape => ?_
  split
  iterate 2 exact Mild.pure
  · exact Mild.bind (Mild.typeName r) fun _ => Mild.fail

theorem mild_truthOf (r : ObjRef) : P (truthOf r) := by
  refine Mild.bind (Mild.mapError (Mild.inspect r)) fun shape => ?_
  split
  iterate 3 exact Mild.pure
  · exact Mild.bind (Mild.typeName r) fun _ => Mild.fail

theorem mild_arity (name : String) (args : List ObjRef) (least most : Nat) :
    P (arity name args least most) := by
  unfold arity
  split
  · exact Mild.fail
  · exact Mild.pure

theorem mild_itemsOf (l : ListRef) : P (itemsOf l) := Mild.read (fun _ => Mild.pure) fun _ _ => rfl

theorem mild_entriesOf (d : DictRef) : P (entriesOf d) :=
  Mild.read (fun _ => Mild.pure) fun _ _ => rfl

theorem mild_valuesOf (r : ObjRef) : P (valuesOf r) := by
  refine Mild.bind (Mild.mapError (Mild.inspect r)) fun shape => ?_
  dsimp only
  split
  iterate 4
    · refine Mild.bind (Mild.mapError (Convert.mild_toHost r)) fun v => ?_
      split
      · exact mild_itemsOf _
      · exact Mild.fail
  · exact Mild.bind (Mild.typeName r) fun _ => Mild.fail

theorem mild_textList (texts : List String) : P (textList texts) :=
  Mild.bind (Mild.mapM (fun _ => Mild.alloc) texts) fun _ => Mild.alloc

end Mild

/-! ### Lists -/

section Storing

variable [Act.Storing P]

theorem storing_store {f : Store → Except LockError Store}
    (hf : ∀ s s', f s = .ok s' → s.Write s') : P (store f) := Mild.mapError (Act.Storing.store hf)

theorem storing_setListItem (l : ListRef) (i : Int) (value : Option ObjRef) :
    P (setListItem l i value) := by
  unfold setListItem
  refine Mild.guard ?_
  cases value with
  | none =>
    exact Mild.bind (mild_itemsOf l) fun _ =>
      Mild.guard (storing_store fun _ _ h => .writeList _ _ h)
  | some v =>
    exact Mild.bind (Mild.mapError (Convert.mild_toHost v)) fun _ =>
      storing_store fun _ _ h => .writeList _ _ h

theorem storing_setListSlice (l : ListRef) (lo hi : Nat) (value : Option ObjRef) :
    P (setListSlice l lo hi value) := by
  cases value with
  | none => exact Mild.bind Mild.pure fun _ => storing_store fun _ _ h => .writeList _ _ h
  | some v => exact Mild.bind (mild_valuesOf v) fun _ => storing_store fun _ _ h => .writeList _ _ h

theorem storing_listMethod (l : ListRef) (name : String) (args : List ObjRef) :
    P (listMethod l name args) := by
  unfold listMethod
  split
  · exact Mild.bind (mild_arity _ _ _ _) fun _ => Mild.bind (mild_valuesOf _) fun _ =>
      Mild.bind (storing_store fun _ _ h => .writeList _ _ h) fun _ => Mild.alloc
  · exact Mild.fail

/-! ### Dictionaries -/

theorem storing_setDictItem (d : DictRef) (k : ObjRef) (value : Option ObjRef) :
    P (setDictItem d k value) := by
  refine Mild.bind (Mild.mapError (Convert.mild_keyOf k)) fun key => ?_
  cases value with
  | none =>
    refine Mild.read (fun b => ?_) fun _ _ => rfl
    refine Mild.bind (storing_store fun _ _ h => .writeDict _ _ h) fun _ => ?_
    split
    · exact Mild.fail
    · exact Mild.pure
  | some v =>
    exact Mild.bind (Mild.mapError (Convert.mild_toHost v)) fun _ =>
      storing_store fun _ _ h => .writeDict _ _ h

theorem storing_insertAll (d : DictRef) (entries : List (String × Value)) :
    P (insertAll d entries) := by
  induction entries with
  | nil => exact Mild.pure
  | cons e rest ih => exact Mild.bind (storing_store fun _ _ h => .writeDict _ _ h) fun _ => ih

theorem storing_updateDict (d : DictRef) (other : ObjRef) : P (updateDict d other) := by
  refine Mild.bind (Mild.mapError (Convert.mild_toHostWith true other)) fun p => ?_
  split
  · exact Mild.bind (mild_entriesOf _) fun entries => Mild.bind (storing_insertAll d entries)
      fun _ => Mild.bind (Mild.forIn fun _ => Mild.bind Act.Storing.say fun _ => Mild.pure)
        fun _ => Mild.pure
  · exact Mild.fail

theorem storing_dictMethod (d : DictRef) (name : String) (args : List ObjRef) :
    P (dictMethod d name args) := by
  have hpair (e : String × Value) : P (do
      let key ← Bridge.alloc (.str e.1)
      let value ← Convert.toForeignBound e.2
      Bridge.alloc (.tuple [key, value]) : Act ProxyError ObjRef) :=
    Mild.bind Mild.alloc fun _ => Mild.bind (Mild.mapError (Convert.mild_toForeignBound e.2))
      fun _ => Mild.alloc
  have hvalue (e : String × Value) :
      P (monadLift (Convert.toForeignBound e.2) : Act ProxyError ObjRef) :=
    Mild.mapError (Convert.mild_toForeignBound e.2)
  unfold dictMethod
  split
  · exact Mild.bind (mild_arity _ _ _ _) fun _ => Mild.bind (mild_entriesOf d) fun _ =>
      mild_textList _
  · exact Mild.bind (mild_arity _ _ _ _) fun _ => Mild.bind (mild_entriesOf d) fun _ =>
      Mild.bind (Mild.mapM hvalue _) fun _ => Mild.alloc
  · exact Mild.bind (mild_arity _ _ _ _) fun _ => Mild.bind (mild_entriesOf d) fun _ =>
      Mild.bind (Mild.mapM hpair _) fun _ => Mild.alloc
  · exact Mild.bind (mild_arity _ _ _ _) fun _ => Mild.bind (Mild.mapError (Convert.mild_keyOf _))
      fun _ => Mild.read (fun _ => Mild.alloc) fun _ _ => rfl
  · refine Mild.bind (mild_arity _ _ _ _) fun _ => Mild.bind (Mild.mapError (Convert.mild_keyOf _))
      fun _ => Mild.read (fun b => ?_) fun _ _ => rfl
    split
    · exact Mild.mapError (Convert.mild_toForeignBound _)
    · exact Mild.bind Mild.hold fun _ => Mild.pure
    · exact Mild.alloc
  · exact Mild.bind (mild_arity _ _ _ _) fun _ => Mild.bind (storing_updateDict d _) fun _ =>
      Mild.alloc
  · exact Mild.fail

end Storing

end ScriptBridge.Proxy
