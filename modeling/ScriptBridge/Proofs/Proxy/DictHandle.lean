import Mathlib.Data.List.Sort
import Mathlib.Logic.Function.Basic
import ScriptBridge.Error
import ScriptBridge.Foreign.Reference
import ScriptBridge.Proofs.Host.Entries
import ScriptBridge.Proofs.Proxy.ListHandle

/-!
# Proxies of dictionaries

What a script expects of a dictionary of the editor: a value under each of finitely many texts. All
that shows the entries shows them in the order of their keys. An operation that raises an exception
leaves the map as it was.

A proxy of a dictionary of the editor behaves like the map of its values. A key is the text that an
object gives, whatever its type. An operation looks at its key and converts its value before it
changes anything, and so the dictionary changes only if the operation succeeds.
-/

namespace ScriptBridge.ValueMap

open Foreign (ObjRef Object Objects ProxyClass Target)
open Host (Value Store DictRef DictCell)
open ValueList (valueOf toHost_settles mapM_bound mapM_forall₂ bound_extends toForeignBound_apply)
open ScriptBridge.Computation

/-! ### Maps of values -/

/-- What is under each key. -/
abbrev Map := String → Option Value

/-- The entries of a map, in the order of their keys. -/
structure Lists (m : Map) (es : List (String × Value)) : Prop where
  ordered : Host.Entries.Ordered es
  mem_iff : ∀ key v, (key, v) ∈ es ↔ m key = some v

/-- An operation on a map. A key or a value that is none raises an exception. -/
inductive Request where
  | length
  | get (key : Except ExceptionKind String)
  | set (key : Except ExceptionKind String) (new : Except ExceptionKind Value)
  | delete (key : Except ExceptionKind String)
  /-- The value under a key, or else another object, or nothing. -/
  | getOr (key : Except ExceptionKind String) (other : Option ObjRef)
  | hasKey (key : Except ExceptionKind String)
  | keys
  | values
  | items

/-- What an operation gives to the script. -/
inductive Given where
  | nothing
  | value (v : Value)
  | flag (x : Bool)
  /-- An object of the script itself. -/
  | object (r : ObjRef)
  /-- The number of entries. -/
  | count
  | keys
  | values
  | items

/-- What an operation gives, and the map afterwards; or the exception that it raises. -/
def apply (m : Map) : Request → Except ExceptionKind (Given × Map)
  | .length => .ok (.count, m)
  | .get key => do
    match m (← key) with
    | some v => .ok (.value v, m)
    | none => .error .key
  | .set key new => do
    let key ← key
    return (.nothing, Function.update m key (some (← new)))
  | .delete key => do
    let key ← key
    match m key with
    | some _ => .ok (.nothing, Function.update m key none)
    | none => .error .key
  | .getOr key other => do
    match m (← key), other with
    | some v, _ => .ok (.value v, m)
    | none, some r => .ok (.object r, m)
    | none, none => .ok (.value .null, m)
  | .hasKey key => do return (.flag (m (← key)).isSome, m)
  | .keys => .ok (.keys, m)
  | .values => .ok (.values, m)
  | .items => .ok (.items, m)

/-- What an operation comes to, and the map afterwards. An exception leaves it as it was. -/
def step (m : Map) (q : Request) : Except ExceptionKind Given × Map :=
  match apply m q with
  | .ok (g, new) => (.ok g, new)
  | .error kind => (.error kind, m)

variable {m : Map} {es es' : List (String × Value)} {key : String} {v : Value}

/-! ### The entries of a map -/

namespace Lists

/-- There is one way to list a map. -/
theorem unique (h : Lists m es) (h' : Lists m es') : es = es' := by
  have hpairs {es : List (String × Value)} (hes : Host.Entries.Ordered es) :
      es.Pairwise (·.1 < ·.1) := List.pairwise_map.mp hes
  have hantisymm : Std.Antisymm fun a b : String × Value => a.1 < b.1 :=
    ⟨fun _ _ hab hba => absurd hab (lt_asymm hba)⟩
  have hirrefl : Std.Irrefl fun a b : String × Value => a.1 < b.1 := ⟨fun a => lt_irrefl a.1⟩
  exact (hpairs h.ordered).eq_of_mem_iff (hpairs h'.ordered) fun e =>
    (h.mem_iff e.1 e.2).trans (h'.mem_iff e.1 e.2).symm

theorem get?_eq (h : Lists m es) (key : String) : Host.Entries.get? key es = m key :=
  Option.ext fun v => (Host.Entries.mem_iff_get? h.ordered).symm.trans (h.mem_iff key v)

/-- Ordered entries list what is found under their keys. -/
theorem of_get? (hordered : Host.Entries.Ordered es) (hget : ∀ key, Host.Entries.get? key es = m key) :
    Lists m es :=
  ⟨hordered, fun key _ => (Host.Entries.mem_iff_get? hordered).trans (by rw [hget key])⟩

/-- The keys that are listed are those with a value. -/
theorem mem_keys_iff (h : Lists m es) : key ∈ es.map (·.1) ↔ (m key).isSome := by
  simp [Option.isSome_iff_exists, h.mem_iff]

theorem insert (h : Lists m es) (key : String) (v : Value) :
    Lists (Function.update m key (some v)) (Host.Entries.insert key v es) := by
  refine of_get? (h.ordered.insert key v) fun other => ?_
  by_cases hother : other = key
  · rw [hother, Host.Entries.get?_insert_self, Function.update_self]
  · rw [Host.Entries.get?_insert_of_ne hother, Function.update_of_ne hother, h.get?_eq]

theorem erase (h : Lists m es) (key : String) :
    Lists (Function.update m key none) (Host.Entries.erase key es) := by
  refine of_get? (h.ordered.erase key) fun other => ?_
  by_cases hother : other = key
  · rw [hother, Host.Entries.get?_erase_self h.ordered, Function.update_self]
  · rw [Host.Entries.get?_erase_of_ne hother, Function.update_of_ne hother, h.get?_eq]

/-- Erasing what is not there changes nothing. -/
theorem erase_absent (h : Lists m es) (hkey : m key = none) : Host.Entries.erase key es = es := by
  refine (h.erase key).unique ?_
  rwa [← hkey, Function.update_eq_self]

end Lists

/-! ### Several operations -/

/-- The operations on a map fit together: those that look at it agree on which keys are there, and a
value that is put under a key is found under that key and changes nothing under another one. -/
structure Coherent (m : Map) : Prop where
  hasKey_iff_get (key : String) : (step m (.hasKey (.ok key))).1 = .ok (.flag true) ↔
    ∃ v, (step m (.get (.ok key))).1 = .ok (.value v)
  hasKey_iff_listed (key : String) {es : List (String × Value)} (hes : Lists m es) :
    (step m (.hasKey (.ok key))).1 = .ok (.flag true) ↔ key ∈ es.map (·.1)
  get_set (key : String) (v : Value) :
    (step (step m (.set (.ok key) (.ok v))).2 (.get (.ok key))).1 = .ok (.value v)
  set_other {key other : String} (hother : other ≠ key) (v : Value) :
    (step m (.set (.ok key) (.ok v))).2 other = m other

theorem step_get (m : Map) (key : String) :
    step m (.get (.ok key)) = ((m key).elim (.error .key) (.ok ∘ .value), m) := by
  have happly : apply m (.get (.ok key)) =
      match m key with
      | some v => .ok (.value v, m)
      | none => .error .key := rfl
  unfold step
  rw [happly]
  cases m key <;> rfl

theorem coherent (m : Map) : Coherent m := by
  have hflag (key : String) :
      (step m (.hasKey (.ok key))).1 = .ok (.flag true) ↔ (m key).isSome := by
    change Except.ok (Given.flag (m key).isSome) = _ ↔ _
    simp
  refine ⟨fun key => ?_, fun key es hes => (hflag key).trans hes.mem_keys_iff.symm,
    fun key v => ?_, fun hother v => Function.update_of_ne hother _ m⟩
  · rw [hflag, step_get]
    cases m key with
    | none => exact ⟨fun h => absurd h (by simp), fun ⟨_, h⟩ => nomatch h⟩
    | some v => exact ⟨fun _ => ⟨v, rfl⟩, fun _ => rfl⟩
  · have hput : (step m (.set (.ok key) (.ok v))).2 key = some v := Function.update_self key _ m
    rw [step_get, hput]
    rfl

/-! ### Proxies -/

/-- A session has an unlocked dictionary, and these are its values. -/
structure Holds (b : Bridge) (d : DictRef) (m : Map) : Prop where
  attached : b.attached = true
  exists_dict : d.id < b.editor.store.dicts.size
  unlocked : (b.editor.store.dict d).lock = .unlocked
  lists : Lists m (b.editor.store.dict d).entries

/-- The text that an object is as a key. -/
def keyOf (o : Objects) (r : ObjRef) : Except ExceptionKind String := do
  let key ← match ← LineList.shapeOf o r with
    | .str s => .ok s
    | .bytes bs => .ok (Text.decode bs)
    | .int n => .ok (toString n.toInt)
    | .bool x => .ok (if x then "1" else "0")
    | .float x => .ok (Decimal.Layout.shown.text x)
    | _ => .error .type
  if key.isEmpty then .error .value else .ok key

/-- An object that is an entry: its key, and its value. -/
def IsEntry (b : Bridge) (e : String × Value) (r : ObjRef) : Prop :=
  ∃ k v, r.id < b.objects.cells.size ∧ b.objects.get r = .tuple [k, v] ∧
    Script.Bound b (.str e.1) k ∧ Script.Bound b e.2 v

/-- The objects that show the entries of a map. -/
inductive Shows (b : Bridge) (m : Map) : Given → List ObjRef → Prop
  | keys {es : List (String × Value)} {rs : List ObjRef} (hes : Lists m es)
      (hrs : List.Forall₂ (Script.Bound b) (es.map fun e => .str e.1) rs) : Shows b m .keys rs
  | values {es : List (String × Value)} {rs : List ObjRef} (hes : Lists m es)
      (hrs : List.Forall₂ (Script.Bound b) (es.map (·.2)) rs) : Shows b m .values rs
  | items {es : List (String × Value)} {rs : List ObjRef} (hes : Lists m es)
      (hrs : List.Forall₂ (IsEntry b) es rs) : Shows b m .items rs

/-- What an object gives. -/
inductive Answers (b : Bridge) (m : Map) : Given → ObjRef → Prop
  | value {v : Value} {r : ObjRef} (hbound : Script.Bound b v r) : Answers b m (.value v) r
  | flag {x : Bool} {r : ObjRef} (hr : b.objects.get r = .bool x) : Answers b m (.flag x) r
  | object (r : ObjRef) : Answers b m (.object r) r
  | list {g : Given} {r : ObjRef} {rs : List ObjRef} (hr : b.objects.get r = .list rs)
      (hrs : Shows b m g rs) : Answers b m g r

/-- An object gives what an operation on the map gives, and the dictionary has the values after
it. -/
structure Answered (b : Bridge) (d : DictRef) (p : Given × Map) (r : ObjRef) (b' : Bridge) :
    Prop where
  answers : Answers b' p.2 p.1 r
  holds : Holds b' d p.2
  objects : b.objects.Extends b'.objects

/-- A change is made, and the dictionary has the values after it. -/
structure Done (b : Bridge) (d : DictRef) (p : Given × Map) (_ : Unit) (b' : Bridge) : Prop where
  nothing : p.1 = .nothing
  holds : Holds b' d p.2
  objects : b.objects.Extends b'.objects

variable {b b' : Bridge} {d : DictRef} {m : Map} {k r : ObjRef}

theorem Holds.adds (h : Holds b d m) (hadds : b.Adds b') : Holds b' d m := by
  have hdict : b'.editor.store.dict d = b.editor.store.dict d := hadds.store.dict d h.exists_dict
  refine ⟨hadds.attached.trans h.attached,
    Nat.lt_of_lt_of_le h.exists_dict hadds.store.dicts_le, ?_, ?_⟩
  · rw [hdict]
    exact h.unlocked
  · rw [hdict]
    exact h.lists

theorem Holds.get?_eq (h : Holds b d m) (key : String) : b.editor.store.get? d key = m key :=
  h.lists.get?_eq key

/-! ### Keys -/

theorem keyOf_congr {o o' : Objects} (h : o'.get r = o.get r) : keyOf o' r = keyOf o r := by
  unfold keyOf LineList.shapeOf
  rw [h]

theorem keyOf_obeys (r : ObjRef) : Obeys ConvertError.exceptionKind b (Gives b)
    (keyOf b.objects r) (Convert.keyOf r b) := by
  have htext (key : String) : Obeys ConvertError.exceptionKind b (Gives b)
      (if key.isEmpty then .error .value else .ok key)
      ((if key.isEmpty then Act.fail .emptyKey else pure key : Act ConvertError String) b) := by
    split
    · exact .error ConvertError.emptyKey
    · exact .pure key
  refine .bind (LineList.inspect_obeys_convert r) fun x _ => ?_
  cases x with
  | str s => exact htext s
  | bytes bs => exact htext _
  | int n => exact htext _
  | bool x => exact htext _
  | float x => exact htext _
  | _ => exact .error (ConvertError.nonStringKey _)

theorem keyOf_obeys_proxy (r : ObjRef) : Obeys ProxyError.exceptionKind b (Gives b)
    (keyOf b.objects r) ((liftM (Convert.keyOf r) : Act ProxyError String) b) :=
  (keyOf_obeys r).mapError fun _ => rfl

/-! ### Reading -/

theorem bound_answered (h : Holds b d m) (v : Value) :
    Answered b d (.value v, m) (b.objects.alloc (Convert.boundObject v)).1
      (b.withNew (Convert.boundObject v)) :=
  ⟨.value (Script.bound_new v b), h.adds (.withNew _), (b.grown_withNew _).objects⟩

/-- Reading what is under a key. -/
theorem dictItem_settles (h : Holds b d m) (k : ObjRef) :
    Settles ProxyError.exceptionKind b (Answered b d) (apply m (.get (keyOf b.objects k)))
      (Proxy.dictItem d k b) := by
  refine .bind_obeys (keyOf_obeys_proxy k) fun key _ => ?_
  rw [bind_apply, get_apply]
  dsimp only
  rw [h.get?_eq]
  cases m key with
  | none => exact .error (ProxyError.key key) .refl
  | some v =>
    dsimp only
    rw [toForeignBound_apply]
    exact .ok (bound_answered h v)

/-- The value under a key, or else what the script gave for that. -/
theorem get_settles (h : Holds b d m) (command : String → Act BridgeError Unit) (k : ObjRef)
    (other : Option ObjRef) : Settles ProxyError.exceptionKind b (Answered b d)
      (apply m (.getOr (keyOf b.objects k) other))
      (Proxy.call command .method (.method (.dict d) .dictionary "get") (k :: other.toList) b) := by
  have harity : Proxy.arity "get" (k :: other.toList) 1 2 b = .ok () b := by cases other <;> rfl
  change Settles _ _ _ _ ((Proxy.arity "get" (k :: other.toList) 1 2 >>= _) b)
  rw [bind_apply, harity]
  refine .bind_obeys (keyOf_obeys_proxy k) fun key _ => ?_
  rw [bind_apply, get_apply]
  dsimp only
  rw [h.get?_eq]
  cases m key with
  | some v =>
    dsimp only
    rw [toForeignBound_apply]
    exact .ok (bound_answered h v)
  | none =>
    cases other with
    | none => exact .ok (bound_answered h .null)
    | some r => exact .ok ⟨.object r, h.adds (.inUse _), ⟨Nat.le_refl _, fun _ _ => rfl⟩⟩

theorem hasKey_settles (h : Holds b d m) (command : String → Act BridgeError Unit) (k : ObjRef) :
    Settles ProxyError.exceptionKind b (Answered b d) (apply m (.hasKey (keyOf b.objects k)))
      (Proxy.call command .method (.method (.dict d) .dictionary "has_key") [k] b) := by
  have hcall : Proxy.call command .method (.method (.dict d) .dictionary "has_key") [k] = (do
      let key ← Convert.keyOf k
      Bridge.alloc (.bool ((← get).editor.store.get? d key).isSome)) := rfl
  rw [hcall]
  refine .bind_obeys (keyOf_obeys_proxy k) fun key _ => ?_
  rw [bind_apply, get_apply]
  dsimp only
  rw [h.get?_eq]
  have hnew := Convert.new_apply (b := b) (.bool (m key).isSome)
  exact .ok ⟨.flag hnew.2, h.adds (.withNew _), (b.grown_withNew _).objects⟩

/-! ### Showing the entries -/

theorem IsEntry.extends {e : String × Value} (h : IsEntry b e r)
    (hextends : b.objects.Extends b'.objects) : IsEntry b' e r := by
  obtain ⟨k, v, hlt, hr, hk, hv⟩ := h
  exact ⟨k, v, Nat.lt_of_lt_of_le hlt hextends.size_le, (hextends.get r hlt).trans hr,
    bound_extends hk hextends, bound_extends hv hextends⟩

theorem Shows.extends {g : Given} {rs : List ObjRef} (h : Shows b m g rs)
    (hextends : b.objects.Extends b'.objects) : Shows b' m g rs := by
  cases h with
  | keys hes hrs => exact .keys hes (hrs.imp fun _ _ hr => bound_extends hr hextends)
  | values hes hrs => exact .values hes (hrs.imp fun _ _ hr => bound_extends hr hextends)
  | items hes hrs => exact .items hes (hrs.imp fun _ _ hr => hr.extends hextends)

/-- A new list of objects that show the entries. -/
theorem list_settles {γ : Type} (f : γ → Act ProxyError ObjRef) (xs : List γ) {g : Given}
    (h : Holds b d m)
    (hshows : ∃ rs b', xs.mapM f b = .ok rs b' ∧ b.Adds b' ∧ Shows b' m g rs) :
    Settles ProxyError.exceptionKind b (Answered b d) (.ok (g, m))
      ((xs.mapM f >>= fun items => Bridge.alloc (.list items) : Act ProxyError ObjRef) b) := by
  obtain ⟨rs, b', hrs, hadds, hshows⟩ := hshows
  have hnew := Convert.new_apply (b := b') (.list rs)
  have hgrown := (b'.grown_withNew (.list rs)).objects
  rw [bind_apply, hrs]
  exact .ok ⟨.list hnew.2 (hshows.extends hgrown), h.adds (hadds.trans (.withNew _)),
    hadds.objects.trans hgrown⟩

theorem textList_settles (h : Holds b d m) {es : List (String × Value)} (hes : Lists m es) :
    Settles ProxyError.exceptionKind b (Answered b d) (.ok (.keys, m))
      (Proxy.textList (es.map (·.1)) b) := by
  refine list_settles _ _ h ?_
  obtain ⟨rs, b', hrs, hadds, -, hbound⟩ := mapM_bound Value.str (es.map (·.1))
    (f := fun t => (Bridge.alloc (.str t) : Act ProxyError ObjRef))
    (fun t _ b' _ => rfl) (.refl : b.Adds b)
  rw [List.map_map] at hbound
  exact ⟨rs, b', hrs, hadds, .keys hes hbound⟩

theorem keys_settles (h : Holds b d m) (command : String → Act BridgeError Unit) :
    Settles ProxyError.exceptionKind b (Answered b d) (apply m .keys)
      (Proxy.call command .method (.method (.dict d) .dictionary "keys") [] b) :=
  textList_settles h h.lists

theorem iterate_settles (h : Holds b d m) :
    Settles ProxyError.exceptionKind b (Answered b d) (apply m .keys)
      (Proxy.iterate .dictionary (.dict d) b) := textList_settles h h.lists

theorem values_settles (h : Holds b d m) (command : String → Act BridgeError Unit) :
    Settles ProxyError.exceptionKind b (Answered b d) (apply m .values)
      (Proxy.call command .method (.method (.dict d) .dictionary "values") [] b) := by
  refine list_settles (fun e => monadLift (Convert.toForeignBound e.2))
    (b.editor.store.dict d).entries h ?_
  obtain ⟨rs, b', hrs, hadds, -, hbound⟩ := mapM_bound (·.2) (b.editor.store.dict d).entries
    (f := fun e => (monadLift (Convert.toForeignBound e.2) : Act ProxyError ObjRef))
    (fun e _ b' _ => toForeignBound_apply e.2 b') (.refl : b.Adds b)
  exact ⟨rs, b', hrs, hadds, .values h.lists hbound⟩

/-- A new object that is an entry. -/
theorem entry_apply (e : String × Value) (b : Bridge) :
    ∃ r b', (do
      let key ← Bridge.alloc (.str e.1)
      let value ← Convert.toForeignBound e.2
      Bridge.alloc (.tuple [key, value]) : Act ProxyError ObjRef) b = .ok r b' ∧ b.Adds b' ∧
        IsEntry b' e r := by
  let b₁ := b.withNew (Convert.boundObject (.str e.1))
  let b₂ := b₁.withNew (Convert.boundObject e.2)
  let k := (b.objects.alloc (Convert.boundObject (.str e.1))).1
  let v := (b₁.objects.alloc (Convert.boundObject e.2)).1
  have hnew := Convert.new_apply (b := b₂) (.tuple [k, v])
  have hgrown := (b₂.grown_withNew (.tuple [k, v])).objects
  have hkey : Script.Bound b₂ (.str e.1) k :=
    bound_extends (Script.bound_new (.str e.1) b) (b₁.grown_withNew _).objects
  refine ⟨_, b₂.withNew (.tuple [k, v]), ?_,
    ((Bridge.Adds.withNew _).trans (.withNew _)).trans (.withNew _),
    k, v, hnew.1, hnew.2, bound_extends hkey hgrown, bound_extends (Script.bound_new e.2 b₁) hgrown⟩
  have hfirst : (Bridge.alloc (.str e.1) : Act ProxyError ObjRef) b = .ok k b₁ := rfl
  rw [bind_apply, hfirst]
  dsimp only
  rw [bind_apply, toForeignBound_apply]
  rfl

theorem items_settles (h : Holds b d m) (command : String → Act BridgeError Unit) :
    Settles ProxyError.exceptionKind b (Answered b d) (apply m .items)
      (Proxy.call command .method (.method (.dict d) .dictionary "items") [] b) := by
  refine list_settles (fun e => do
      let key ← Bridge.alloc (.str e.1)
      let value ← Convert.toForeignBound e.2
      Bridge.alloc (.tuple [key, value])) (b.editor.store.dict d).entries h ?_
  obtain ⟨rs, b', hrs, hadds, -, hentries⟩ := mapM_forall₂ (Q := IsEntry)
    (fun he hextends => he.extends hextends) (b.editor.store.dict d).entries
    (fun e _ b' _ => entry_apply e b') (.refl : b.Adds b)
  exact ⟨rs, b', hrs, hadds, .items h.lists hentries⟩

/-! ### Changes -/

/-- The bridge after the entries of a dictionary have changed. -/
def withEntries (b : Bridge) (d : DictRef) (es : List (String × Value)) : Bridge :=
  { b with editor := { b.editor with
      store := b.editor.store.setDict d { b.editor.store.dict d with entries := es } } }

/-- The dictionary has the entries, and keeps its lock and its scope. -/
theorem dict_withEntries (hexists : d.id < b.editor.store.dicts.size) (es : List (String × Value)) :
    (withEntries b d es).editor.store.dict d = { b.editor.store.dict d with entries := es } :=
  Store.dict_setDict_self hexists _

theorem dict_withEntries_of_ne {d' : DictRef} (hother : d' ≠ d) (es : List (String × Value)) :
    (withEntries b d es).editor.store.dict d' = b.editor.store.dict d' :=
  Store.dict_setDict_of_ne hother _

/-- Only the last entries count. -/
theorem withEntries_withEntries (hexists : d.id < b.editor.store.dicts.size)
    (es es' : List (String × Value)) :
    withEntries (withEntries b d es) d es' = withEntries b d es' := by
  have hcell : { (withEntries b d es).editor.store.dict d with entries := es' } =
      { b.editor.store.dict d with entries := es' } := by rw [dict_withEntries hexists]
  unfold withEntries at hcell ⊢
  dsimp only
  rw [hcell]
  simp [Store.setDict]

theorem Holds.withEntries {m' : Map} {es : List (String × Value)} (h : Holds b d m)
    (hes : Lists m' es) : Holds (withEntries b d es) d m' := by
  have hdict := dict_withEntries h.exists_dict es
  refine ⟨h.attached, Nat.lt_of_lt_of_eq h.exists_dict Array.size_setIfInBounds.symm, ?_, ?_⟩
  · rw [hdict]
    exact h.unlocked
  · rw [hdict]
    exact hes

/-- The same entries once more. -/
theorem withEntries_same (hexists : d.id < b.editor.store.dicts.size) :
    withEntries b d (b.editor.store.dict d).entries = b := by
  have hstore : b.editor.store.setDict d (b.editor.store.dict d) = b.editor.store := by
    unfold Store.setDict Store.dict
    rw [Array.getD_eq_getD_getElem?, Array.getElem?_eq_getElem hexists]
    simp [Array.setIfInBounds, hexists]
  exact congrArg (fun store => { b with editor := { b.editor with store } }) hstore

theorem store_apply (h : Holds b d m) (f : List (String × Value) → List (String × Value)) :
    Proxy.store (·.writeDict d f) b =
      .ok () (withEntries b d (f (b.editor.store.dict d).entries)) := by
  have hwrite : b.editor.store.writeDict d f = .ok (b.editor.store.setDict d
      { b.editor.store.dict d with entries := f (b.editor.store.dict d).entries }) := by
    unfold Store.writeDict
    dsimp only
    rw [if_pos h.unlocked]
  unfold Proxy.store Act.mapError Bridge.store
  rw [bind_apply, get_apply]
  dsimp only
  rw [hwrite]
  rfl

/-- Putting a value under a key. -/
theorem assign_settles (h : Holds b d m) (k r : ObjRef) :
    Settles ProxyError.exceptionKind b (Done b d)
      (apply m (.set (keyOf b.objects k) (valueOf b r)))
      (Proxy.assign .dictionary (.dict d) k (some r) b) := by
  refine .bind_obeys (keyOf_obeys_proxy k) fun key _ => ?_
  refine .bind ((toHost_settles r).mapError fun _ => rfl) fun v b' _ hadds => ?_
  have hinsert : Proxy.store (·.insert d key v) b' = _ := store_apply (h.adds hadds) _
  rw [hinsert]
  exact .ok ⟨rfl, (h.adds hadds).withEntries ((h.adds hadds).lists.insert key v), hadds.objects⟩

/-- Removing what is under a key. -/
theorem delete_settles (h : Holds b d m) (k : ObjRef) :
    Settles ProxyError.exceptionKind b (Done b d) (apply m (.delete (keyOf b.objects k)))
      (Proxy.assign .dictionary (.dict d) k none b) := by
  refine .bind_obeys (keyOf_obeys_proxy k) fun key _ => ?_
  have herase : Proxy.store (·.erase d key) b = _ := store_apply h _
  dsimp only
  rw [bind_apply, get_apply]
  dsimp only
  rw [bind_apply, herase, h.get?_eq]
  dsimp only
  cases hkey : m key with
  | none =>
    rw [h.lists.erase_absent hkey, withEntries_same h.exists_dict]
    exact .error (ProxyError.key key) .refl
  | some v =>
    exact .ok ⟨rfl, h.withEntries (h.lists.erase key), ⟨Nat.le_refl _, fun _ _ => rfl⟩⟩

theorem length_apply (h : Holds b d m) :
    ∃ es, Lists m es ∧ Proxy.length .dictionary (.dict d) b = .ok es.length b :=
  ⟨_, h.lists, rfl⟩

end ScriptBridge.ValueMap
