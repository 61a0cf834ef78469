import ScriptBridge.Proofs.Bridge.Additions
import ScriptBridge.Proofs.Convert.Mild
import ScriptBridge.Proofs.Convert.Steps
import ScriptBridge.Proofs.Proxy.LineOperations
import ScriptBridge.Proofs.Proxy.Stale
import ScriptBridge.Proofs.Proxy.ValueList
import ScriptBridge.Proofs.Script.Paths

/-!
# Proxies of lists

A proxy of a list of the editor behaves like the list of its values. An operation converts what it is
given before it changes anything, and so it may leave new objects and new containers behind even if
it raises an exception. The list itself changes only if the operation succeeds.
-/

namespace ScriptBridge

open Foreign (ObjRef Object Objects ProxyClass Target Shape Slice)
open Host (Value Store ListRef ListCell)
open ScriptBridge.Computation

theorem Act.Steady.attempt {ε δ α : Type} {a : Act ε α} (ha : a.Steady) :
    Act.Steady (Act.attempt a : Act δ (Except ε α)) := by
  rintro b ⟨b', h⟩
  unfold Act.attempt at h
  cases hfirst : a b with
  | ok x t =>
    rw [hfirst] at h
    cases h
  | error stop t =>
    rw [hfirst] at h
    cases stop with
    | error e => cases h
    | crash => exact ha b ⟨t, hfirst⟩

/-- No mild computation breaks down. -/
instance : Act.Mild @Act.Steady where
  pure := .pure _
  fail := .fail _
  bind := .bind
  read hf _ := .bind .get hf
  mapError ha := .mapError ha _
  attempt := .attempt
  alloc := .modifyGet _
  hold := .modify _
  newList := .modifyGet _
  newDict := .modifyGet _

section Settling

variable {ε δ α β γ : Type} {kindOf : ε → ExceptionKind} {b b' : Bridge}
  {post : β → α → Bridge → Prop}

/-- How a computation ends of which something is expected: with a value as it should be, or with an
exception of the right class, and then it has only added to the bridge. -/
inductive Settles (kindOf : ε → ExceptionKind) (b : Bridge) (post : β → α → Bridge → Prop) :
    Except ExceptionKind β → EStateM.Result (Stop ε) Bridge α → Prop
  | ok {y : β} {x : α} {b' : Bridge} (hpost : post y x b') :
    Settles kindOf b post (.ok y) (.ok x b')
  | error (e : ε) {b' : Bridge} (hadds : b.Adds b') :
    Settles kindOf b post (.error (kindOf e)) (.error (.error e) b')

/-- The expected value is given, and otherwise the bridge is only added to. -/
def Adding (b : Bridge) (y x : α) (b' : Bridge) : Prop := x = y ∧ b.Adds b'

namespace Settles

theorem bind {a : Act ε γ} {x : Except ExceptionKind γ} {f : γ → Act ε α}
    {g : γ → Except ExceptionKind β} (ha : Settles kindOf b (Adding b) x (a b))
    (hf : ∀ y b', x = .ok y → b.Adds b' → Settles kindOf b post (g y) (f y b')) :
    Settles kindOf b post (x >>= g) ((a >>= f) b) := by
  rw [bind_apply]
  generalize a b = outcome at ha
  cases ha with
  | ok hadding =>
    obtain ⟨rfl, hadds⟩ := hadding
    exact hf _ _ rfl hadds
  | error e hadds => exact .error e hadds

/-- Nothing has changed after a first step that obeys. -/
theorem bind_obeys {a : Act ε γ} {x : Except ExceptionKind γ} {f : γ → Act ε α}
    {g : γ → Except ExceptionKind β} (ha : Obeys kindOf b (Gives b) x (a b))
    (hf : ∀ y, x = .ok y → Settles kindOf b post (g y) (f y b)) :
    Settles kindOf b post (x >>= g) ((a >>= f) b) := by
  rw [bind_apply]
  generalize a b = outcome at ha
  cases ha with
  | ok hgives =>
    obtain ⟨rfl, rfl⟩ := hgives
    exact hf _ rfl
  | error e => exact .error e .refl

theorem mapError {a : Act ε α} {x : Except ExceptionKind β} {f : ε → δ}
    {kindOf' : δ → ExceptionKind} (ha : Settles kindOf b post x (a b))
    (hf : ∀ e, kindOf' (f e) = kindOf e) : Settles kindOf' b post x (a.mapError f b) := by
  unfold Act.mapError
  generalize a b = outcome at ha
  cases ha with
  | ok hpost => exact .ok hpost
  | error e hadds =>
    rw [← hf e]
    exact .error (f e) hadds

theorem map {a : Act ε γ} {x : Except ExceptionKind β} {f : γ → α} {post' : β → γ → Bridge → Prop}
    (ha : Settles kindOf b post' x (a b)) (hf : ∀ y z b', post' y z b' → post y (f z) b') :
    Settles kindOf b post x ((f <$> a) b) := by
  rw [map_eq_pure_bind, bind_apply]
  generalize a b = outcome at ha
  cases ha with
  | ok hpost => exact .ok (hf _ _ _ hpost)
  | error e hadds => exact .error e hadds

end Settles

end Settling

namespace Proxy

/-- A library raises exceptions of the same classes. -/
theorem raised_exceptionKind (e : ProxyError) : (raised e).exceptionKind = e.exceptionKind := by
  rw [← e.toForeign_exceptionKind]
  unfold raised
  cases e.toForeign <;> rfl

/-- A script sees of a proxy what the proxy comes to, whatever the kind of the interpreter. -/
theorem slot_settles {α β : Type} {b : Bridge} {post : β → α → Bridge → Prop}
    {x : Except ExceptionKind β} {a : Act ProxyError α} (hattached : b.attached = true)
    (h : Settles ProxyError.exceptionKind b post x (a b)) :
    Settles ForeignError.exceptionKind b post x (slot a b) := by
  unfold slot
  rw [bind_apply, get_apply]
  dsimp only
  rw [hattached]
  cases b.interpreter.kind with
  | scripted => exact h.mapError ProxyError.toForeign_exceptionKind
  | library =>
    change Settles _ _ _ _ (guarded a b)
    unfold guarded
    generalize a b = outcome at h
    cases h with
    | ok hpost => exact .ok hpost
    | error e hadds =>
      rw [← raised_exceptionKind e]
      exact .error (raised e) hadds

end Proxy

namespace ValueList

/-- A session has an unlocked list, and these are its items. -/
structure Holds (b : Bridge) (l : ListRef) (items : List Value) : Prop where
  attached : b.attached = true
  exists_list : l.id < b.editor.store.lists.size
  cell : b.editor.store.list l = { items, lock := .unlocked }

variable {b b' : Bridge} {l : ListRef} {items : List Value} {lo hi n : Nat} {k r : ObjRef}

theorem Holds.adds (h : Holds b l items) (hadds : b.Adds b') : Holds b' l items :=
  ⟨hadds.attached.trans h.attached,
    Nat.lt_of_lt_of_le h.exists_list hadds.store.lists_le,
    (hadds.store.list l h.exists_list).trans h.cell⟩

/-! ### Operands -/

/-- The value that an object is converted to. -/
def valueOf (b : Bridge) (r : ObjRef) : Except ExceptionKind Value :=
  match Convert.toHost r b with
  | .ok v _ => .ok v
  | .error (.error e) _ => .error e.exceptionKind
  | .error .crash _ => .error .type

/-- The items of the list that an object is converted to. -/
def itemsOf (b : Bridge) (r : ObjRef) : Except ExceptionKind (List Value) :=
  match Convert.toHost r b with
  | .ok (.list l) b' => .ok (b'.editor.store.list l).items
  | .ok _ _ => .error .type
  | .error (.error e) _ => .error e.exceptionKind
  | .error .crash _ => .error .type

/-- The values that a sequence gives: a list, a tuple, another sequence of the interpreter, or the
proxy of a list. Nothing else gives any. -/
def valuesOf (b : Bridge) (r : ObjRef) : Except ExceptionKind (List Value) := do
  match ← LineList.shapeOf b.objects r with
  | .list | .tuple | .other _ true | .proxy .list _ => itemsOf b r
  | _ => .error .type

/-- The proxy of a list gives the values that the list holds. -/
theorem valuesOf_proxy (hr : b.objects.get r = .proxy .list (.list l)) :
    valuesOf b r = .ok (b.editor.store.list l).items := by
  have hshape : (b.objects.get r).shape = .ok (.proxy .list (.list l)) := by rw [hr]; rfl
  have hconvert : Convert.toHost r b = .ok (.list l) b := by
    rw [Convert.toHost_apply, Convert.Converting.convertWithin,
      Convert.Converting.inspect_bind hshape]
    rfl
  unfold valuesOf LineList.shapeOf itemsOf
  rw [hr, hconvert]
  rfl

theorem toHost_settles (r : ObjRef) : Settles ConvertError.exceptionKind b (Adding b)
    (valueOf b r) (Convert.toHost r b) := by
  have hadds := Convert.mild_toHost (P := @Act.Adds) r b
  have hsteady := Convert.mild_toHost (P := @Act.Steady) r b
  unfold valueOf
  cases h : Convert.toHost r b with
  | ok v b' =>
    rw [h] at hadds
    exact .ok ⟨rfl, hadds⟩
  | error stop b' =>
    rw [h] at hadds
    cases stop with
    | error e => exact .error e hadds
    | crash => exact absurd ⟨b', h⟩ hsteady

/-- The items of what an operand was converted to, if that is a list. -/
def convertedItems : Value → Act ProxyError (List Value)
  | .list l => Proxy.itemsOf l
  | v => Act.fail (.type ("expected a sequence, got " ++ v.typeName))

theorem itemsOf_settles (r : ObjRef) : Settles ProxyError.exceptionKind b (Adding b) (itemsOf b r)
    (((liftM (Convert.toHost r) : Act ProxyError Value) >>= convertedItems) b) := by
  have hadds := Convert.mild_toHost (P := @Act.Adds) r b
  have hsteady := Convert.mild_toHost (P := @Act.Steady) r b
  have hlift : (liftM (Convert.toHost r) : Act ProxyError Value) b =
      Act.mapError ProxyError.convert (Convert.toHost r) b := rfl
  rw [bind_apply, hlift]
  unfold itemsOf Act.mapError
  cases h : Convert.toHost r b with
  | ok v b' =>
    rw [h] at hadds
    cases v with
    | list l => exact .ok ⟨rfl, hadds⟩
    | _ => exact .error (ProxyError.type _) hadds
  | error stop b' =>
    rw [h] at hadds
    cases stop with
    | error e => exact .error (ProxyError.convert e) hadds
    | crash => exact absurd ⟨b', h⟩ hsteady

theorem valuesOf_settles (r : ObjRef) : Settles ProxyError.exceptionKind b (Adding b)
    (valuesOf b r) (Proxy.valuesOf r b) := by
  refine .bind_obeys (LineList.inspect_obeys_proxy r) fun shape _ => ?_
  cases shape with
  | list | tuple => exact itemsOf_settles r
  | other mappingLike sequenceLike =>
    cases sequenceLike with
    | true => exact itemsOf_settles r
    | false => exact .error (ProxyError.type _) .refl
  | proxy cls t =>
    cases cls with
    | list => exact itemsOf_settles r
    | _ => exact .error (ProxyError.type _) .refl
  | _ => exact .error (ProxyError.type _) .refl

/-- The object that is a key. -/
def Key.object : Key → Object
  | .at i => .int i
  | .flag x => .bool x
  | .slice start stop step => .slice start stop step

/-- The items that an operand gives for a key: those of a sequence for a slice, and otherwise the
value of the operand. -/
def newOf (b : Bridge) (key : Key) (r : ObjRef) : Except ExceptionKind (List Value) :=
  match key with
  | .slice .. => valuesOf b r
  | _ => do return [← valueOf b r]

/-! ### Objects that are given -/

/-- What an object gives: the value that it stands for, or those that its items stand for. -/
inductive Answers (b : Bridge) : Given → ObjRef → Prop
  | value {v : Value} {r : ObjRef} (hbound : Script.Bound b v r) : Answers b (.value v) r
  | values {vs : List Value} {rs : List ObjRef} {r : ObjRef} (hr : b.objects.get r = .list rs)
      (hbound : List.Forall₂ (Script.Bound b) vs rs) : Answers b (.values vs) r

/-- An object gives what an operation on the values gives, and the list has the values after it. -/
structure Answered (b : Bridge) (l : ListRef) (p : Given × List Value) (r : ObjRef)
    (b' : Bridge) : Prop where
  answers : Answers b' p.1 r
  holds : Holds b' l p.2
  objects : b.objects.Extends b'.objects

/-- A change is made, and the list has the values after it. -/
structure Done (b : Bridge) (l : ListRef) (p : Given × List Value) (_ : Unit) (b' : Bridge) :
    Prop where
  nothing : p.1 = .nothing
  holds : Holds b' l p.2
  objects : b.objects.Extends b'.objects

theorem bound_extends {v : Value} (h : Script.Bound b v r)
    (hextends : b.objects.Extends b'.objects) : Script.Bound b' v r :=
  ⟨Nat.lt_of_lt_of_le h.lt_size hextends.size_le, (hextends.get r h.lt_size).trans h.get⟩

/-- Objects made one after another. What holds of each one holds of all at the end if it lasts. -/
theorem mapM_forall₂ {ε γ : Type} {f : γ → Act ε ObjRef} {Q : Bridge → γ → ObjRef → Prop}
    (hQ : ∀ {b b' x r}, Q b x r → b.objects.Extends b'.objects → Q b' x r) (xs : List γ)
    (hf : ∀ x ∈ xs, ∀ b', b.Adds b' → ∃ r b'', f x b' = .ok r b'' ∧ b'.Adds b'' ∧ Q b'' x r)
    (hadds : b.Adds b') :
    ∃ rs b'', xs.mapM f b' = .ok rs b'' ∧ b.Adds b'' ∧ b'.objects.Extends b''.objects ∧
      List.Forall₂ (Q b'') xs rs := by
  induction xs generalizing b' with
  | nil => exact ⟨[], b', rfl, hadds, ⟨Nat.le_refl _, fun _ _ => rfl⟩, .nil⟩
  | cons x xs ih =>
    obtain ⟨r, b₁, hfirst, hadds₁, hr⟩ := hf x List.mem_cons_self b' hadds
    obtain ⟨rs, b'', hrs, hadds', hextends, hall⟩ :=
      ih (fun y hy => hf y (List.mem_cons_of_mem _ hy)) (hadds.trans hadds₁)
    refine ⟨r :: rs, b'', ?_, hadds', hadds₁.objects.trans hextends, .cons (hQ hr hextends) hall⟩
    rw [List.mapM_cons, bind_apply, hfirst]
    dsimp only
    rw [bind_apply, hrs]
    rfl

/-- Objects that stand for values, made one after another. -/
theorem mapM_bound {ε γ : Type} {f : γ → Act ε ObjRef} (g : γ → Value) (xs : List γ)
    (hf : ∀ x ∈ xs, ∀ b', b.Adds b' → f x b' =
      .ok (b'.objects.alloc (Convert.boundObject (g x))).1
        (b'.withNew (Convert.boundObject (g x)))) (hadds : b.Adds b') :
    ∃ rs b'', xs.mapM f b' = .ok rs b'' ∧ b.Adds b'' ∧ b'.objects.Extends b''.objects ∧
      List.Forall₂ (Script.Bound b'') (xs.map g) rs := by
  obtain ⟨rs, b'', hrs, hadds', hextends, hbound⟩ :=
    mapM_forall₂ (Q := fun b x r => Script.Bound b (g x) r) bound_extends xs
      (fun x hx b' hb => ⟨_, _, hf x hx b' hb, .withNew _, Script.bound_new (g x) b'⟩) hadds
  exact ⟨rs, b'', hrs, hadds', hextends, List.forall₂_map_left_iff.mpr hbound⟩

theorem toForeignBound_apply (v : Value) (b : Bridge) :
    (liftM (Convert.toForeignBound v) : Act ProxyError ObjRef) b =
      .ok (b.objects.alloc (Convert.boundObject v)).1 (b.withNew (Convert.boundObject v)) := by
  change Act.mapError ProxyError.convert (Convert.toForeignBound v) b = _
  rw [Act.mapError, Convert.toForeignBound_apply]

/-! ### Reading -/

section

variable (h : Holds b l items)

include h

theorem items_apply : Proxy.itemsOf l b = .ok items b := by
  change EStateM.Result.ok (b.editor.store.list l).items b = _
  rw [h.cell]

theorem length_apply : Proxy.length .list (.list l) b = .ok items.length b := by
  change (Proxy.itemsOf l >>= _) b = _
  rw [bind_apply, items_apply h]
  rfl

theorem item_apply (hn : n < items.length) : Proxy.item .list (.list l) n b =
    .ok (b.objects.alloc (Convert.boundObject (items.getD n .null))).1
      (b.withNew (Convert.boundObject (items.getD n .null))) := by
  change Proxy.listItem l n b = _
  unfold Proxy.listItem
  rw [bind_apply, items_apply h]
  dsimp only
  rw [if_pos (Int.natCast_nonneg n), Int.toNat_natCast, List.getD_eq_getElem?_getD,
    List.getElem?_eq_getElem hn]
  exact toForeignBound_apply _ b

theorem item_outside (hn : items.length ≤ n) :
    Proxy.item .list (.list l) n b = .error (.error Proxy.itemOutside) b := by
  change Proxy.listItem l n b = _
  unfold Proxy.listItem
  rw [bind_apply, items_apply h]
  dsimp only
  rw [if_pos (Int.natCast_nonneg n), Int.toNat_natCast, List.getElem?_eq_none hn]
  rfl

theorem item_answered (hn : n < items.length) : ∃ r b', Proxy.item .list (.list l) n b = .ok r b' ∧
    Answered b l (.value (items.getD n .null), items) r b' :=
  ⟨_, _, item_apply h hn, .value (Script.bound_new _ b), h.adds (.withNew _),
    (b.grown_withNew _).objects⟩

theorem sliceOf_answered {bounds : Slice} {taken : List Nat}
    (htaken : bounds.positions items.length = taken) :
    ∃ r b', Proxy.sliceOf .list (.list l) bounds b = .ok r b' ∧
      Answered b l (.values (taken.filterMap (items[·]?)), items) r b' := by
  obtain ⟨rs, b', hrs, hadds, hextends, hbound⟩ :=
    mapM_bound id (taken.filterMap (items[·]?)) (fun v _ b' _ => toForeignBound_apply v b')
      (.refl : b.Adds b)
  have hnew := Convert.new_apply (b := b') (.list rs)
  have hgrown := (b'.grown_withNew (.list rs)).objects
  refine ⟨(b'.objects.alloc (.list rs)).1, b'.withNew (.list rs), ?_, .values hnew.2 ?_,
    h.adds (hadds.trans (.withNew _)), hextends.trans hgrown⟩
  · change Proxy.listSlice l bounds b = _
    unfold Proxy.listSlice
    rw [bind_apply, items_apply h]
    dsimp only
    rw [htaken, bind_apply, hrs]
    rfl
  · rw [List.map_id] at hbound
    exact hbound.imp fun _ _ hv => bound_extends hv hgrown

end

/-- A key that is an integer is looked at, and then taken as a position. -/
theorem inspect_int_settles {α β : Type} {post : β → α → Bridge → Prop} {i : Int}
    {f : Shape → Act ProxyError α} {x : Except ExceptionKind β} (hk : b.objects.get k = .int i)
    (hlarge : ¬Text.fitsInt64 i = true → x = .error .overflow)
    (hf : Text.fitsInt64 i = true →
      Settles ProxyError.exceptionKind b post x (f (.int (Int64.ofInt i)) b)) :
    Settles ProxyError.exceptionKind b post x
      (((liftM (Bridge.inspect k) : Act ProxyError Shape) >>= f) b) := by
  by_cases hfits : Text.fitsInt64 i = true
  · have hshape : (b.objects.get k).shape = .ok (.int (Int64.ofInt i)) := by
      rw [hk, Object.shape, if_pos hfits]
    rw [bind_apply, Proxy.inspect_apply hshape]
    exact hf hfits
  · rw [bind_apply, LineList.inspect_large hk hfits, hlarge hfits]
    exact .error (ProxyError.foreign Foreign.tooLarge) .refl

theorem inspect_zero {start stop : Option Int}
    (hk : b.objects.get k = .slice start stop (some 0)) :
    (liftM (Bridge.inspect k) : Act ProxyError Shape) b =
      .error (.error (.foreign Slice.zeroStep)) b := by
  change Act.mapError ProxyError.foreign (Bridge.inspect k) b = _
  unfold Act.mapError Bridge.inspect
  rw [bind_apply, get_apply]
  dsimp only
  rw [hk, Slice.shape_slice_zero]
  rfl

theorem position_natCast {len : Nat} (hn : Text.fitsInt64 n = true) :
    LineList.position len n = if n < len then .ok n else .error .index := by
  have hindex : (if (n : Int) < 0 then (n : Int) + len else n) = n := if_neg (by omega)
  unfold LineList.position
  dsimp only
  rw [hindex, if_neg (by simp [hn])]
  by_cases hlt : n < len
  · rw [if_pos (by omega), if_pos hlt]
    rfl
  · rw [if_neg (by omega), if_neg hlt]

section

variable {key : Key} (h : Holds b l items) (hcount : (items.length : Int) ≤ Text.maxInt64)

include h hcount

/-- Reading an item or a slice. -/
theorem subscript_settles (hk : b.objects.get k = key.object) :
    Settles ProxyError.exceptionKind b (Answered b l) (apply items (.get key))
      (Proxy.subscript .list (.list l) k b) := by
  cases key with
  | «at» i =>
    rw [Proxy.subscript_eq rfl rfl]
    refine inspect_int_settles hk (fun hlarge => ?_) fun hfits => ?_
    · rw [apply, LineList.position_large hlarge]
      rfl
    · dsimp only
      rw [bind_apply, length_apply h, Text.toInt_ofInt hfits]
      refine .bind_obeys (LineList.position_obeys hfits _) fun n hn => ?_
      obtain ⟨r, b', hitem, hanswered⟩ := item_answered h (LineList.position_le hn)
      rw [hitem]
      exact .ok hanswered
  | flag x =>
    have hshape : (b.objects.get k).shape = .ok (.bool x) := by rw [hk]; rfl
    have hindex : (if x then 1 else 0 : Int) = ((if x then 1 else 0 : Nat) : Int) := by
      cases x <;> rfl
    rw [Proxy.subscript_bool rfl rfl hshape, apply, hindex,
      position_natCast (by cases x <;> decide)]
    by_cases hn : (if x then 1 else 0) < items.length
    · obtain ⟨r, b', hitem, hanswered⟩ := item_answered h hn
      rw [if_pos hn, hitem]
      exact .ok hanswered
    · rw [if_neg hn, item_outside h (by omega)]
      exact .error Proxy.itemOutside .refl
  | slice start stop step =>
    rw [apply]
    by_cases hzero : step = some 0
    · subst hzero
      rw [if_pos rfl, Proxy.subscript_eq rfl rfl, bind_apply, inspect_zero hk]
      exact .error (ProxyError.foreign Slice.zeroStep) .refl
    · have hstep := Slice.getD_step_ne_zero hzero
      have hshape : (b.objects.get k).shape = _ := (congrArg Object.shape hk).trans
        (Slice.shape_slice hzero)
      obtain ⟨r, b', hslice, hanswered⟩ :=
        sliceOf_answered h (Slice.positions_ofScript hcount start stop hstep)
      rw [if_neg hzero, Proxy.subscript_slice rfl rfl hshape, hslice]
      exact .ok hanswered

end

/-! ### Changes -/

/-- The bridge after the items of a list have changed. -/
def withItems (b : Bridge) (l : ListRef) (items : List Value) : Bridge :=
  { b with editor := { b.editor with store := b.editor.store.setList l { items } } }

theorem Holds.withItems (h : Holds b l items) (new : List Value) :
    Holds (withItems b l new) l new := by
  refine ⟨h.attached, Nat.lt_of_lt_of_eq h.exists_list Array.size_setIfInBounds.symm, ?_⟩
  unfold ValueList.withItems Store.setList Store.list
  simp [Array.getD_eq_getD_getElem?, h.exists_list]

theorem store_apply (h : Holds b l items) {f : List Value → Except Host.LockError (List Value)}
    {new : List Value} (hf : f items = .ok new) :
    Proxy.store (·.writeList l f) b = .ok () (withItems b l new) := by
  have hwrite : b.editor.store.writeList l f = .ok (b.editor.store.setList l { items := new }) := by
    unfold Store.writeList
    dsimp only
    rw [h.cell, if_pos rfl, hf]
    rfl
  unfold Proxy.store Act.mapError Bridge.store
  rw [bind_apply, get_apply]
  dsimp only
  rw [hwrite]
  rfl

/-- A key that no item can be assigned to or deleted at. -/
theorem assign_flag {x : Bool} (hk : b.objects.get k = .bool x) (value : Option ObjRef) :
    Proxy.assign .list (.list l) k value b = .error (.error Proxy.badIndex) b := by
  have hshape : (b.objects.get k).shape = .ok (.bool x) := by rw [hk]; rfl
  change ((liftM (Bridge.inspect k) : Act ProxyError Shape) >>= _) b = _
  rw [bind_apply, Proxy.inspect_apply hshape]
  rfl

/-- A change that is made after the bridge has been added to. -/
theorem store_settles (h : Holds b l items) (hadds : b.Adds b')
    {f : List Value → Except Host.LockError (List Value)} {new : List Value}
    (hf : f items = .ok new) : Settles ProxyError.exceptionKind b (Done b l) (.ok (.nothing, new))
      (Proxy.store (·.writeList l f) b') := by
  rw [store_apply (h.adds hadds) hf]
  exact .ok ⟨rfl, (h.adds hadds).withItems new, hadds.objects⟩

section

variable {key : Key} (h : Holds b l items)

include h

/-- Putting an item at the place of a key. -/
theorem setListItem_settles (hplace : n < items.length ∧ hi = n + 1 ∨ n = items.length ∧ hi = n)
    (r : ObjRef) : Settles ProxyError.exceptionKind b (Done b l)
      (newOf b (.at n) r >>= fun new => .ok (.nothing, replaced items n hi new))
      (Proxy.setListItem l n (some r) b) := by
  have hput (v : Value) : (if n < items.length then .ok (items.set n v)
      else if n = items.length then .ok (items ++ [v]) else .error .outOfRange :
      Except Host.LockError (List Value)) = .ok (replaced items n hi [v]) := by
    rcases hplace with ⟨hlt, rfl⟩ | ⟨rfl, rfl⟩
    · rw [if_pos hlt, replaced_eq_set hlt]
    · rw [if_neg (Nat.lt_irrefl _), if_pos rfl, replaced_end]
  unfold Proxy.setListItem newOf
  rw [if_neg (by omega), bind_assoc]
  refine .bind ((toHost_settles r).mapError fun _ => rfl) fun v b' _ hadds => ?_
  exact store_settles h hadds (hput v)

/-- Removing an item. -/
theorem removeListItem_settles (hn : n < items.length) :
    Settles ProxyError.exceptionKind b (Done b l) (.ok (.nothing, replaced items n (n + 1) []))
      (Proxy.setListItem l n none b) := by
  have hremove : (if n < items.length then .ok (items.eraseIdx n) else .error .outOfRange :
      Except Host.LockError (List Value)) = .ok (replaced items n (n + 1) []) := by
    rw [if_pos hn, replaced_eq_eraseIdx]
  unfold Proxy.setListItem
  rw [if_neg (by omega)]
  dsimp only
  rw [bind_apply, items_apply h]
  dsimp only
  rw [if_neg (by simpa using hn)]
  exact store_settles h .refl hremove

theorem removeListItem_outside (hn : items.length ≤ n) :
    Proxy.setListItem l n none b = .error (.error Proxy.itemOutside) b := by
  unfold Proxy.setListItem
  rw [if_neg (by omega)]
  dsimp only
  rw [bind_apply, items_apply h]
  dsimp only
  rw [if_pos (by simpa using hn)]
  rfl

/-- Putting items behind the last one, by the method for that. -/
theorem extend_settles (command : String → Act BridgeError Unit) (r : ObjRef) :
    Settles ProxyError.exceptionKind b (Answered b l)
      (valuesOf b r >>= fun new => .ok (.value .null, items ++ new))
      (Proxy.call command .method (.method (.list l) .list "extend") [r] b) := by
  have hcall : Proxy.call command .method (.method (.list l) .list "extend") [r] = (do
      let values ← Proxy.valuesOf r
      Proxy.store (·.extend l values)
      Bridge.alloc .null) := rfl
  rw [hcall]
  refine .bind (valuesOf_settles r) fun new b' _ hadds => ?_
  have hholds := (h.adds hadds).withItems (items ++ new)
  have hextend : Proxy.store (·.extend l new) b' = .ok () (withItems b' l (items ++ new)) :=
    store_apply (h.adds hadds) rfl
  rw [bind_apply, hextend]
  exact .ok ⟨.value (Script.bound_new .null _), hholds.adds (.withNew .null),
    hadds.objects.trans ((withItems b' l (items ++ new)).grown_withNew .null).objects⟩

/-- Replacing a part. -/
theorem setListSlice_settles (hlo : lo ≤ hi) (hhi : hi ≤ items.length) (value : Option ObjRef) :
    Settles ProxyError.exceptionKind b (Done b l)
      ((value.map (valuesOf b)).getD (.ok []) >>= fun new => .ok (.nothing, replaced items lo hi new))
      (Proxy.setListSlice l lo hi value b) := by
  have hsplice (new : List Value) : (let lo := min lo items.length
      let hi := max lo (min hi items.length)
      .ok (items.take lo ++ new ++ items.drop hi) : Except Host.LockError (List Value)) =
        .ok (replaced items lo hi new) := by
    dsimp only
    rw [Nat.min_eq_left (by omega), Nat.min_eq_left hhi, Nat.max_eq_right hlo, replaced]
  unfold Proxy.setListSlice
  cases value with
  | none => exact store_settles h .refl (hsplice [])
  | some r =>
    exact .bind (valuesOf_settles r) fun new b' _ hadds => store_settles h hadds (hsplice new)

variable (hcount : (items.length : Int) ≤ Text.maxInt64)

include hcount

omit h in
/-- An index of a list fits 64 bits, and so does the one behind the last item. -/
theorem fits_length : Text.fitsInt64 items.length = true := by
  unfold Text.fitsInt64
  unfold Text.minInt64
  simp only [Bool.and_eq_true, decide_eq_true_eq]
  omega

/-- Replacing or deleting a slice. -/
theorem assign_slice {start stop step : Option Int}
    (hk : b.objects.get k = .slice start stop step) (value : Option ObjRef) :
    Settles ProxyError.exceptionKind b (Done b l)
      (do
        let (lo, hi) ← (Key.slice start stop step).part items.length
        let new ← (value.map (valuesOf b)).getD (.ok [])
        return (.nothing, replaced items lo hi new))
      (Proxy.assign .list (.list l) k value b) := by
  change Settles _ _ _ _ (((liftM (Bridge.inspect k) : Act ProxyError Shape) >>= _) b)
  by_cases hzero : step = some 0
  · subst hzero
    rw [bind_apply, inspect_zero hk]
    exact .error (ProxyError.foreign Slice.zeroStep) .refl
  · have hstep := Slice.getD_step_ne_zero hzero
    have hshape : (b.objects.get k).shape = _ := (congrArg Object.shape hk).trans
      (Slice.shape_slice hzero)
    rw [bind_apply, Proxy.inspect_apply hshape]
    dsimp only
    unfold Proxy.assignSlice
    rw [bind_apply, length_apply h]
    dsimp only
    rw [Slice.contiguous_ofScript hcount start stop hstep, Key.part]
    by_cases hone : step.getD 1 = 1
    · obtain ⟨-, hlo, hhi⟩ := slice_part_le items.length start stop
      rw [if_pos hone, if_pos hone]
      exact setListSlice_settles h hlo hhi value
    · rw [if_neg hone, if_neg hone]
      exact .error (ProxyError.value _) .refl

/-- Putting new items at the place of a key. -/
theorem assign_settles (hk : b.objects.get k = key.object) (r : ObjRef) :
    Settles ProxyError.exceptionKind b (Done b l) (apply items (.set key (newOf b key r)))
      (Proxy.assign .list (.list l) k (some r) b) := by
  cases key with
  | «at» i =>
    refine inspect_int_settles hk (fun hlarge => ?_) fun hfits => ?_
    · have hne : i ≠ items.length := by
        rintro rfl
        exact hlarge (fits_length hcount)
      rw [apply, Key.place, if_neg hne, Key.part, LineList.position_large hlarge]
      rfl
    · dsimp only
      rw [bind_apply, length_apply h, Text.toInt_ofInt hfits, apply, Key.place]
      dsimp only
      by_cases hend : i = items.length
      · rw [if_pos hend, if_pos (by simpa [Proxy.growsAtEnd] using hend)]
        exact setListItem_settles h (.inr ⟨rfl, rfl⟩) r
      · rw [if_neg hend, if_neg (by simpa [Proxy.growsAtEnd] using hend), Key.part, bind_assoc]
        refine .bind_obeys (LineList.position_obeys hfits _) fun n hn => ?_
        exact setListItem_settles h (.inl ⟨LineList.position_le hn, rfl⟩) r
  | flag x =>
    rw [assign_flag hk]
    exact .error Proxy.badIndex .refl
  | slice start stop step => exact assign_slice h hcount hk (some r)

/-- Deleting what is under a key. -/
theorem delete_settles (hk : b.objects.get k = key.object) :
    Settles ProxyError.exceptionKind b (Done b l) (apply items (.delete key))
      (Proxy.assign .list (.list l) k none b) := by
  cases key with
  | «at» i =>
    refine inspect_int_settles hk (fun hlarge => ?_) fun hfits => ?_
    · rw [apply, Key.part, LineList.position_large hlarge]
      rfl
    · dsimp only
      rw [bind_apply, length_apply h, Text.toInt_ofInt hfits, apply, Key.part]
      dsimp only
      by_cases hend : i = items.length
      · subst hend
        rw [if_pos (by simp [Proxy.growsAtEnd]), position_natCast (fits_length hcount),
          if_neg (Nat.lt_irrefl _)]
        change Settles _ _ _ _ (Proxy.setListItem l items.length none b)
        rw [removeListItem_outside h (Nat.le_refl _)]
        exact .error Proxy.itemOutside .refl
      · rw [if_neg (by simpa [Proxy.growsAtEnd] using hend), bind_assoc]
        refine .bind_obeys (LineList.position_obeys hfits _) fun n hn => ?_
        exact removeListItem_settles h (LineList.position_le hn)
  | flag x =>
    rw [assign_flag hk]
    exact .error Proxy.badIndex .refl
  | slice start stop step => exact assign_slice h hcount hk none

end

end ValueList

end ScriptBridge
