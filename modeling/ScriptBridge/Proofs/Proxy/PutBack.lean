import ScriptBridge.Proofs.Host.Assigning
import ScriptBridge.Proofs.Proxy.Operand
import ScriptBridge.Proofs.Script.Paths

/-!
# What is read and put back

A script reads what is under a key of lines, of a list or of a dictionary, and assigns it under the
same key. This changes nothing but the flag of a buffer that was written to. There are two exceptions:
a truth value is a position where items are read, but not where they are assigned, and a null
character in a line comes back as a line feed.
-/

namespace ScriptBridge

open Foreign (ObjRef Object Objects ProxyClass Target Shape)
open Host (Buffer Editor Store Value)
open ScriptBridge.Computation

/-! ### Lines that come back -/

/-- Scripts see a line that was put back as they saw it before. -/
theorem Convert.shownLine_storedLine (line : String) :
    shownLine (storedLine (shownLine line)) = shownLine line := by
  unfold shownLine storedLine
  simp only [String.toList_ofList, List.map_map]
  congr 1
  refine List.map_congr_left fun c _ => ?_
  dsimp only [Function.comp]
  by_cases hc : c = '\n'
  · simp [hc]
  · by_cases hnull : c = '\x00' <;> simp [hc, hnull]

/-- A line without a null character comes back as it was. -/
theorem Convert.storedLine_shownLine {line : String} (h : '\x00' ∉ line.toList) :
    storedLine (shownLine line) = line := by
  unfold shownLine storedLine
  simp only [String.toList_ofList, List.map_map]
  refine (congrArg String.ofList ?_).trans String.ofList_toList
  refine (List.map_congr_left fun c hc => ?_).trans (List.map_id _)
  have hnull : c ≠ '\x00' := fun heq => h (heq ▸ hc)
  dsimp only [Function.comp, id]
  by_cases hfeed : c = '\n' <;> simp [hfeed, hnull]

/-- What scripts see has no line feeds. -/
theorem Convert.not_mem_shownLine (line : String) : '\n' ∉ (shownLine line).toList := by
  unfold shownLine
  rw [String.toList_ofList]
  intro hmem
  obtain ⟨c, -, hc⟩ := List.mem_map.mp hmem
  by_cases hfeed : c = '\n' <;> simp [hfeed] at hc

namespace Host

/-- A buffer that counts as changed. -/
def Buffer.marked (x : Buffer) : Buffer := { x with changed := true }

/-- A buffer that counts as changed, with its lines as scripts see them. -/
def Buffer.shown (x : Buffer) : Buffer :=
  { x with lines := x.lines.map Convert.shownLine, changed := true }

/-- No line has a null character. -/
def Editor.NullFree (e : Editor) : Prop :=
  ∀ x ∈ e.buffers, ∀ line ∈ x.lines, '\x00' ∉ line.toList

/-- Two editors with the same buffers in a view of them, and that are the same otherwise. -/
structure Editor.Same (view : Buffer → Buffer) (e e' : Editor) : Prop where
  buffers : ∀ id, (e'.buffer? id).map view = (e.buffer? id).map view
  windows : e.WellFormed → e'.windows = e.windows
  rest : e' = { e with buffers := e'.buffers, windows := e'.windows }

theorem Editor.Same.refl (view : Buffer → Buffer) (e : Editor) : e.Same view e :=
  ⟨fun _ => rfl, fun _ => rfl, rfl⟩

/-- A buffer with as many lines as before, that are the same in a view of it. -/
theorem Editor.same_withLines {e : Editor} {id : Nat} {x : Buffer} {view : Buffer → Buffer}
    {lines : List String} (hx : e.buffer? id = some x) (hlength : lines.length = x.lines.length)
    (hview : view { x with lines, changed := true } = view x) :
    e.Same view (e.withLines id lines) := by
  refine ⟨fun other => ?_, fun he => ?_, rfl⟩
  · by_cases hother : other = id
    · subst hother
      rw [buffer?_withLines_self hx, hx, Option.map_some, Option.map_some, hview]
    · rw [buffer?_withLines_of_ne hother]
  · change e.windows.map (Change.clampCursor id lines.length) = e.windows
    refine (List.map_congr_left fun w hw => ?_).trans (List.map_id _)
    obtain ⟨y, hy, hnumber, -, hrow⟩ := he.shown w hw
    -- A cursor is moved only if it is behind the last line, and there are as many lines as before.
    unfold Change.clampCursor
    refine if_neg ?_
    rw [Bool.and_eq_true, decide_eq_true_iff, decide_eq_true_iff]
    rintro ⟨hshows, hlt⟩
    have hfound : e.buffer? id = some y := he.buffer?_eq_some.mpr ⟨hy, hnumber.trans hshows⟩
    obtain rfl := Option.some.inj (hx.symm.trans hfound)
    omega

end Host

/-- What is bound is converted to itself, whatever the kind of the interpreter. -/
theorem Convert.toHost_boundObject {b : Bridge} {r : ObjRef} {v : Value}
    (h : b.objects.get r = boundObject v) : toHost r b = .ok v b := by
  rw [toHost_apply]
  cases v with
  | number n =>
    have hshape : (b.objects.get r).shape = .ok (.int n) := by
      rw [h]
      exact Script.shape_index n
    rw [Converting.convertWithin, Converting.inspect_bind hshape]
    rfl
  | _ =>
    rw [Converting.convertWithin, Converting.inspect_bind (by rw [h]; rfl)]
    rfl

namespace Proxy

variable {b b₁ : Bridge} {n : Nat} {cls : ProxyClass} {t : Target} {k x : ObjRef}

/-! ### Reading -/

/-- What has items that can be read and assigned: lines, an unlocked list, an unlocked dictionary. -/
inductive Assignable (s : Store) : ProxyClass → Target → Prop where
  | lines {n : Nat} {cls : ProxyClass} {t : Target} (ht : Lines n cls t) : Assignable s cls t
  | list {l : Host.ListRef} (hlock : (s.list l).lock = .unlocked) : Assignable s .list (.list l)
  | dict {d : Host.DictRef} (hlock : (s.dict d).lock = .unlocked) :
    Assignable s .dictionary (.dict d)

/-- A key is a truth value where keys are positions. -/
def IsFlag (b : Bridge) (t : Target) (k : ObjRef) : Prop :=
  isPositional t = true ∧ ∃ y, (b.objects.get k).shape = .ok (.bool y)

/-- The object for what is under a key: a line, an item of a list, or the value of an entry. -/
inductive Under (b : Bridge) : ProxyClass → Target → ObjRef → Object → Prop where
  | line {n i : Nat} {cls : ProxyClass} {t : Target} {s : Span} {y : Buffer} {line : String}
      {k : ObjRef} {key : Int64} (ht : Lines n cls t)
      (hkey : (b.objects.get k).shape = .ok (.int key)) (hspan : span t b = .ok s b)
      (hposition : position key.toInt s.size = .ok i) (hi : i < s.size)
      (hy : b.editor.buffer? n = some y) (hinside : s.before + s.size ≤ y.lines.length)
      (hline : y.lines[s.before + i]? = some line) :
    Under b cls t k (.str (Convert.shownLine line))
  | item {l : Host.ListRef} {i : Nat} {v : Value} {k : ObjRef} {key : Int64}
      (hkey : (b.objects.get k).shape = .ok (.int key))
      (hposition : position key.toInt (b.editor.store.list l).items.length = .ok i)
      (hitem : (b.editor.store.list l).items[i]? = some v) :
    Under b .list (.list l) k (Convert.boundObject v)
  | entry {d : Host.DictRef} {key : String} {v : Value} {k : ObjRef}
      (hkey : Convert.keyOf k b = .ok key b) (hentry : b.editor.store.get? d key = some v) :
    Under b .dictionary (.dict d) k (Convert.boundObject v)

/-- Reading a line makes a new text. -/
theorem Lines.item_ok (ht : Lines n cls t) (hloan : b.loan ≠ .exclusive) {j : Int}
    (h : item cls t j b = .ok x b₁) :
    ∃ (s : Span) (y : Buffer) (i : Nat) (line : String), span t b = .ok s b ∧
      b.editor.buffer? n = some y ∧ s.before + s.size ≤ y.lines.length ∧ j = i ∧ i < s.size ∧
      y.lines[s.before + i]? = some line ∧
      x = (b.objects.alloc (.str (Convert.shownLine line))).1 ∧
      b₁ = b.withNew (.str (Convert.shownLine line)) := by
  rw [ht.item_eq] at h
  obtain ⟨s, b', hs, hitem⟩ := bind_ok h
  obtain rfl := same_of_keeps (keeps_span t) hs
  obtain ⟨hbuffer, y, hy, hinside⟩ := ht.span_inside hs
  obtain ⟨i, b'', hi, hline⟩ := bind_ok hitem
  obtain rfl := same_of_keeps (keeps_check s j) hi
  obtain ⟨hj, hlt⟩ := check_ok hi
  obtain ⟨line, hget⟩ : ∃ line, y.lines[s.before + i]? = some line :=
    ⟨_, List.getElem?_eq_getElem (by omega)⟩
  have hhead : ((y.lines.drop (s.before + i)).take (i + 1 - i)).head?.getD "" = line := by
    rw [Nat.add_sub_cancel_left, List.head?_take, if_neg Nat.one_ne_zero, List.head?_drop, hget]
    rfl
  rw [bind_apply, Span.lines_apply hloan (hbuffer ▸ hy)] at hline
  dsimp only at hline
  rw [hhead] at hline
  obtain ⟨hx, hb⟩ := EStateM.Result.ok.inj hline
  exact ⟨s, y, i, _, hs, hy, hinside, hj, hlt, hget, hx.symm, hb.symm⟩

/-- Binding a value makes a new object. -/
theorem bound_ok {v : Value}
    (h : (liftM (Convert.toForeignBound v) : Act ProxyError ObjRef) b = .ok x b₁) :
    x = (b.objects.alloc (Convert.boundObject v)).1 ∧ b₁ = b.withNew (Convert.boundObject v) := by
  change Act.mapError _ (Convert.toForeignBound v) b = _ at h
  rw [Act.mapError, Convert.toForeignBound_apply] at h
  obtain ⟨hx, hb⟩ := EStateM.Result.ok.inj h
  exact ⟨hx.symm, hb.symm⟩

/-- Reading an item of a list binds it. -/
theorem listItem_ok {l : Host.ListRef} {i : Nat} (h : listItem l i b = .ok x b₁) :
    ∃ v, (b.editor.store.list l).items[i]? = some v ∧
      x = (b.objects.alloc (Convert.boundObject v)).1 ∧
      b₁ = b.withNew (Convert.boundObject v) := by
  obtain ⟨items, b', hitems, hvalue⟩ := bind_ok h
  obtain ⟨rfl, rfl⟩ := EStateM.Result.ok.inj hitems
  rw [if_pos (Int.natCast_nonneg i), Int.toNat_natCast] at hvalue
  cases hitem : (b.editor.store.list l).items[i]? with
  | some v =>
    rw [hitem] at hvalue
    exact ⟨v, rfl, bound_ok hvalue⟩
  | none =>
    rw [hitem] at hvalue
    cases hvalue

/-- Reading a key changes nothing. -/
theorem keyOf_ok {key : String}
    (h : (liftM (Convert.keyOf k) : Act ProxyError String) b = .ok key b₁) :
    Convert.keyOf k b = .ok key b ∧ b = b₁ := by
  have happly := Convert.keyOf_apply b k
  change Act.mapError _ (Convert.keyOf k) b = _ at h
  unfold Act.mapError at h
  cases htext : (b.objects.get k).keyText? with
  | none =>
    rw [htext] at happly
    obtain ⟨e, he⟩ := happly
    rw [he] at h
    cases h
  | some text =>
    rw [htext] at happly
    dsimp only at happly
    rw [happly] at h
    split at h
    · rename_i hkey
      split at hkey
      · cases hkey
      · obtain ⟨rfl, rfl⟩ := EStateM.Result.ok.inj hkey
        obtain ⟨rfl, rfl⟩ := EStateM.Result.ok.inj h
        rename_i hempty
        rw [happly, if_neg hempty]
        exact ⟨rfl, rfl⟩
    · cases h

/-- Reading the value of an entry binds it. -/
theorem dictItem_ok {d : Host.DictRef} (h : dictItem d k b = .ok x b₁) :
    ∃ (key : String) (v : Value), Convert.keyOf k b = .ok key b ∧
      b.editor.store.get? d key = some v ∧ x = (b.objects.alloc (Convert.boundObject v)).1 ∧
      b₁ = b.withNew (Convert.boundObject v) := by
  obtain ⟨key, b', hlift, hvalue⟩ := bind_ok h
  obtain ⟨hkey, rfl⟩ := keyOf_ok hlift
  obtain ⟨c, b', hstate, hvalue⟩ := bind_ok hvalue
  obtain ⟨rfl, rfl⟩ := EStateM.Result.ok.inj hstate
  cases hentry : b.editor.store.get? d key with
  | some v =>
    rw [hentry] at hvalue
    exact ⟨key, v, hkey, hentry, bound_ok hvalue⟩
  | none =>
    rw [hentry] at hvalue
    cases hvalue

/-- What is read under a key that is no slice is a new object. -/
theorem subscript_ok (ht : Assignable b.editor.store cls t) (hloan : b.loan ≠ .exclusive)
    (hslice : ∀ s, (b.objects.get k).shape ≠ .ok (.slice s))
    (h : subscript cls t k b = .ok x b₁) : ∃ X, x = (b.objects.alloc X).1 ∧ b₁ = b.withNew X ∧
      (IsFlag b t k ∨ Under b cls t k X) := by
  cases ht with
  | lines ht =>
    rw [subscript_eq ht.isSequence ht.isPositional] at h
    obtain ⟨key, b', hkey, hread⟩ := bind_ok h
    obtain ⟨hshape, rfl⟩ := inspect_ok hkey
    cases key with
    | int m =>
      obtain ⟨len, b', hlength, hindex⟩ := bind_ok hread
      rw [ht.length_eq] at hlength
      obtain ⟨s, b'', hspan, hsize⟩ := bind_ok hlength
      obtain rfl := same_of_keeps (keeps_span t) hspan
      obtain ⟨rfl, rfl⟩ := EStateM.Result.ok.inj hsize
      obtain ⟨i, b'', hfound, hitem⟩ := bind_ok hindex
      obtain ⟨hposition, rfl⟩ := ofExcept_ok hfound
      obtain ⟨s', y, i', line, hspan', hy, hinside, hi, hlt, hline, hx, hb⟩ :=
        ht.item_ok hloan hitem
      obtain ⟨rfl, -⟩ := EStateM.Result.ok.inj (hspan.symm.trans hspan')
      obtain rfl := Int.ofNat.inj hi
      exact ⟨_, hx, hb, .inr (.line ht hshape hspan hposition hlt hy hinside hline)⟩
    | bool y =>
      obtain ⟨s, z, i, line, -, -, -, -, -, -, hx, hb⟩ := ht.item_ok hloan hread
      exact ⟨_, hx, hb, .inl ⟨ht.isPositional, y, hshape⟩⟩
    | slice s => exact absurd hshape (hslice s)
    | _ => cases hread
  | @list l hlock =>
    rw [subscript_eq rfl rfl] at h
    obtain ⟨key, b', hkey, hread⟩ := bind_ok h
    obtain ⟨hshape, rfl⟩ := inspect_ok hkey
    cases key with
    | int m =>
      obtain ⟨len, b', hlength, hindex⟩ := bind_ok hread
      obtain ⟨rfl, rfl⟩ := EStateM.Result.ok.inj hlength
      obtain ⟨i, b'', hfound, hitem⟩ := bind_ok hindex
      obtain ⟨hposition, rfl⟩ := ofExcept_ok hfound
      obtain ⟨v, hv, hx, hb⟩ := listItem_ok hitem
      exact ⟨_, hx, hb, .inr (.item hshape hposition hv)⟩
    | bool y =>
      obtain ⟨v, -, hx, hb⟩ : ∃ v, (b.editor.store.list l).items[if y then 1 else 0]? = some v ∧
          x = (b.objects.alloc (Convert.boundObject v)).1 ∧
          b₁ = b.withNew (Convert.boundObject v) := by
        cases y with
        | true => exact listItem_ok (i := 1) hread
        | false => exact listItem_ok (i := 0) hread
      exact ⟨_, hx, hb, .inl ⟨rfl, y, hshape⟩⟩
    | slice s => exact absurd hshape (hslice s)
    | _ => cases hread
  | dict hlock =>
    obtain ⟨key, v, hkey, hentry, hx, hb⟩ := dictItem_ok h
    exact ⟨_, hx, hb, .inr (.entry hkey hentry)⟩

/-! ### Assigning -/

/-- A new object does not change what lines resolve to. -/
theorem Lines.span_withNew (ht : Lines n cls t) (hloan : b.loan ≠ .exclusive) {y : Buffer}
    (hy : b.editor.buffer? n = some y) {s : Span} (hspan : span t b = .ok s b) (X : Object) :
    span t (b.withNew X) = .ok s (b.withNew X) := by
  have hloan' : (b.withNew X).loan ≠ .exclusive := hloan
  have hy' : (b.withNew X).editor.buffer? n = some y := hy
  cases ht with
  | buffer =>
    rw [span_buffer_apply hloan hy] at hspan
    rw [span_buffer_apply hloan' hy']
    exact congrArg (EStateM.Result.ok · _) (EStateM.Result.ok.inj hspan).1
  | range start last =>
    rw [span_range_apply hloan hy] at hspan
    rw [span_range_apply hloan' hy']
    split at hspan
    · cases hspan
    · rename_i hle
      rw [if_neg hle]
      exact congrArg (EStateM.Result.ok · _) (EStateM.Result.ok.inj hspan).1

theorem spliced_one {lines : List String} {i : Nat} (hi : i < lines.length) (new : String) :
    Host.Change.spliced lines i (i + 1) [new] = lines.set i new := by
  unfold Host.Change.spliced
  rw [List.set_eq_take_append_cons_drop, if_pos hi]
  simp

theorem set_of_getElem? {α : Type} {xs : List α} {i : Nat} {y : α} (h : xs[i]? = some y) :
    xs.set i y = xs := by
  obtain ⟨hi, rfl⟩ := List.getElem?_eq_some_iff.mp h
  exact List.set_getElem_self hi

theorem moved_zero (b : Bridge) (last? : Option Foreign.EndRef) : b.moved last? 0 = b := by
  cases last? with
  | none => rfl
  | some last =>
    have hends : b.objects.ends.setIfInBounds last.id (b.objects.endOf last + Int64.ofInt 0) =
        b.objects.ends := by
      have hstay : b.objects.endOf last + Int64.ofInt 0 = b.objects.endOf last := Int64.add_zero _
      rw [hstay]
      exact Host.Store.setIfInBounds_getD _ _ _
    unfold Bridge.moved Objects.moveEnd
    dsimp only
    rw [hends]

/-- An object that is not None is there. -/
theorem lt_size_of_ne_null (h : b.objects.get k ≠ .null) : k.id < b.objects.cells.size := by
  by_contra hnot
  rw [Objects.get, Array.getD_eq_getD_getElem?, Array.getElem?_eq_none (Nat.le_of_not_lt hnot)] at h
  exact h rfl

theorem lt_size_of_shape {key : Shape} (h : (b.objects.get k).shape = .ok key)
    (hkey : key ≠ .null) : k.id < b.objects.cells.size := by
  refine lt_size_of_ne_null fun hnull => ?_
  rw [hnull] at h
  exact hkey (Except.ok.inj h).symm

/-- A line that was read is put back. -/
theorem Lines.assign_back (ht : Lines n cls t) (hb : b.Writable) {s : Span} {y : Buffer} {i : Nat}
    {line : String} {key : Int64} (hkey : (b.objects.get k).shape = .ok (.int key))
    (hspan : span t b = .ok s b) (hposition : position key.toInt s.size = .ok i) (hi : i < s.size)
    (hy : b.editor.buffer? n = some y) (hinside : s.before + s.size ≤ y.lines.length) :
    let X : Object := .str (Convert.shownLine line)
    assign cls t k (some (b.objects.alloc X).1) (b.withNew X) = .ok () ((b.withNew X).withLines n
      (y.lines.set (s.before + i) (Convert.storedLine (Convert.shownLine line)))) := by
  intro X
  have hb' : (b.withNew X).Writable := ⟨hb.side, hb.loan⟩
  have hspan' := ht.span_withNew hb.not_exclusive hy hspan X
  have hkey' : ((b.withNew X).objects.get k).shape = .ok (.int key) := by
    rw [Bridge.get_withNew_of_lt (lt_size_of_shape hkey nofun), hkey]
  have hlength : length cls t (b.withNew X) = .ok s.size (b.withNew X) := by
    rw [ht.length_eq, bind_apply, hspan']
    rfl
  have hline : (liftM (Convert.lineFromForeign (b.objects.alloc X).1) : Act ProxyError String)
      (b.withNew X) = .ok (Convert.storedLine (Convert.shownLine line)) (b.withNew X) := by
    have hobeys := LineList.lineFromForeign_obeys (b := b.withNew X) (b.objects.alloc X).1
    rw [LineList.lineOf_str (Convert.new_apply X).2 (Convert.not_mem_shownLine line)] at hobeys
    change Act.mapError _ (Convert.lineFromForeign _) _ = _
    unfold Act.mapError
    generalize Convert.storedLine (Convert.shownLine line) = stored at hobeys ⊢
    generalize Convert.lineFromForeign _ (b.withNew X) = outcome at hobeys
    cases hobeys with
    | ok hgives =>
      obtain ⟨rfl, rfl⟩ := hgives
      rfl
  have hcheck : s.check i (b.withNew X) = .ok i (b.withNew X) := by
    unfold Span.check
    rw [if_pos (by simp [hi]), Int.toNat_natCast]
    rfl
  obtain ⟨hbuffer, -⟩ := ht.span_inside hspan
  subst hbuffer
  have hreplace := Span.replace_apply hb' hy (Nat.le_add_right i 1) (by omega)
    [Convert.storedLine (Convert.shownLine line)]
  have hcount : (([Convert.storedLine (Convert.shownLine line)].length : Int) -
      (((i + 1 : Nat) : Int) - i)) = 0 := by
    rw [List.length_singleton]
    omega
  rw [hcount, moved_zero, ← Nat.add_assoc, spliced_one (by omega)] at hreplace
  rw [ht.assign_eq, bind_apply, inspect_apply hkey']
  dsimp only
  rw [bind_apply, hlength]
  dsimp only
  rw [hposition, bind_apply]
  change assignItem cls t i _ (b.withNew X) = _
  rw [ht.assignItem_eq, bind_apply, hspan']
  dsimp only
  unfold Span.assignItem
  rw [bind_apply, hcheck]
  dsimp only
  rw [bind_apply, hline]
  exact hreplace

/-- What was read from a container is converted to what is in it. -/
theorem toHost_back (v : Value) (b : Bridge) :
    (liftM (Convert.toHost (b.objects.alloc (Convert.boundObject v)).1) : Act ProxyError Value)
      (b.withNew (Convert.boundObject v)) = .ok v (b.withNew (Convert.boundObject v)) := by
  change Act.mapError _ (Convert.toHost _) _ = _
  rw [Act.mapError, Convert.toHost_boundObject (Convert.new_apply _).2]

/-- A change of the containers that leaves them as they are. -/
theorem store_same {f : Store → Except Host.LockError Store}
    (hf : f b.editor.store = .ok b.editor.store) : store f b = .ok () b := by
  unfold store Act.mapError Bridge.store
  rw [bind_apply, get_apply]
  dsimp only
  rw [hf]
  rfl

/-- An item that was read is put back. -/
theorem setListItem_back {l : Host.ListRef} {i : Nat} {v : Value}
    (hlock : (b.editor.store.list l).lock = .unlocked)
    (hitem : (b.editor.store.list l).items[i]? = some v) :
    let X := Convert.boundObject v
    setListItem l i (some (b.objects.alloc X).1) (b.withNew X) = .ok () (b.withNew X) := by
  intro X
  obtain ⟨hi, -⟩ := List.getElem?_eq_some_iff.mp hitem
  have hsame : b.editor.store.setItem l i v = .ok b.editor.store := by
    unfold Store.setItem Store.writeList
    dsimp only
    rw [if_pos hlock, if_pos hi, set_of_getElem? hitem]
    exact congrArg Except.ok (Store.setList_list _ l)
  unfold setListItem
  rw [if_neg (by omega)]
  change ((liftM (Convert.toHost (b.objects.alloc X).1) >>= fun v =>
    store (·.setItem l (Int.toNat i) v)) : Act ProxyError Unit) (b.withNew X) = _
  rw [bind_apply, toHost_back]
  exact store_same hsame

theorem ne_length_of_position {m : Int} {len i : Nat} (h : position m len = .ok i) : m ≠ len := by
  rintro rfl
  have hindex : (if (len : Int) < 0 then (len : Int) + len else len) = len := if_neg (by omega)
  unfold position at h
  rw [hindex, if_pos (by simp)] at h
  cases h

theorem assign_list_back {l : Host.ListRef} {i : Nat} {v : Value} {key : Int64}
    (hlock : (b.editor.store.list l).lock = .unlocked)
    (hkey : (b.objects.get k).shape = .ok (.int key))
    (hposition : position key.toInt (b.editor.store.list l).items.length = .ok i)
    (hitem : (b.editor.store.list l).items[i]? = some v) :
    let X := Convert.boundObject v
    assign .list (.list l) k (some (b.objects.alloc X).1) (b.withNew X) = .ok () (b.withNew X) := by
  intro X
  have hkey' : ((b.withNew X).objects.get k).shape = .ok (.int key) := by
    rw [Bridge.get_withNew_of_lt (lt_size_of_shape hkey nofun), hkey]
  have hlength : length .list (.list l) (b.withNew X) =
      .ok (b.editor.store.list l).items.length (b.withNew X) := rfl
  change ((liftM (Bridge.inspect k) : Act ProxyError Shape) >>= _) (b.withNew X) = _
  rw [bind_apply, inspect_apply hkey']
  dsimp only
  rw [bind_apply, hlength]
  dsimp only
  rw [decide_eq_false (ne_length_of_position hposition), Bool.false_and,
    if_neg Bool.false_ne_true, hposition]
  exact setListItem_back hlock hitem

/-- The entries with a value that is already there. -/
theorem insert_of_get? {es : List (String × Value)} {key : String} {v : Value}
    (hordered : Host.Entries.Ordered es) (hget : Host.Entries.get? key es = some v) :
    Host.Entries.insert key v es = es := by
  induction es with
  | nil => cases hget
  | cons first rest ih =>
    obtain ⟨k, w⟩ := first
    obtain ⟨hfirst, hrest⟩ := Host.Entries.ordered_cons.mp hordered
    rw [Host.Entries.insert]
    rw [Host.Entries.get?] at hget
    by_cases hk : k = key
    · subst hk
      rw [if_pos rfl] at hget
      rw [if_neg (lt_irrefl _), if_pos rfl, Option.some.inj hget]
    · rw [if_neg hk] at hget
      have hlt : k < key := hfirst _ ((Host.Entries.mem_iff_get? hrest).mpr hget)
      rw [if_neg (not_lt.mpr hlt.le), if_neg hk, ih hrest hget]

/-- A key that was read with gives the same text when something is new. -/
theorem keyOf_withNew {key : String} (hkey : Convert.keyOf k b = .ok key b) (X : Object) :
    Convert.keyOf k (b.withNew X) = .ok key (b.withNew X) := by
  have hbefore := Convert.keyOf_apply b k
  have hafter := Convert.keyOf_apply (b.withNew X) k
  -- None gives no text, so the key is an object that was there before the new one.
  have hlt : k.id < b.objects.cells.size := by
    refine lt_size_of_ne_null fun hnull => ?_
    rw [hnull] at hbefore
    obtain ⟨e, he⟩ := hbefore
    rw [he] at hkey
    cases hkey
  rw [Bridge.get_withNew_of_lt hlt] at hafter
  cases htext : (b.objects.get k).keyText? with
  | none =>
    rw [htext] at hbefore
    obtain ⟨e, he⟩ := hbefore
    rw [he] at hkey
    cases hkey
  | some text =>
    rw [htext] at hbefore hafter
    dsimp only at hbefore hafter
    rw [hkey] at hbefore
    rw [hafter]
    by_cases hempty : text.isEmpty = true
    · rw [if_pos hempty] at hbefore
      cases hbefore
    · rw [if_neg hempty] at hbefore ⊢
      exact congrArg (EStateM.Result.ok · _) (EStateM.Result.ok.inj hbefore).1.symm

/-- A value that was read is put back. -/
theorem setDictItem_back {d : Host.DictRef} {key : String} {v : Value}
    (hlock : (b.editor.store.dict d).lock = .unlocked)
    (hordered : Host.Entries.Ordered (b.editor.store.dict d).entries)
    (hkey : Convert.keyOf k b = .ok key b) (hentry : b.editor.store.get? d key = some v) :
    let X := Convert.boundObject v
    setDictItem d k (some (b.objects.alloc X).1) (b.withNew X) = .ok () (b.withNew X) := by
  intro X
  have hsame : b.editor.store.insert d key v = .ok b.editor.store := by
    unfold Store.insert Store.writeDict
    rw [if_pos hlock, insert_of_get? hordered hentry]
    exact congrArg Except.ok (Store.setDict_dict _ d)
  have hkey' : (liftM (Convert.keyOf k) : Act ProxyError String) (b.withNew X) =
      .ok key (b.withNew X) := by
    change Act.mapError _ (Convert.keyOf k) _ = _
    rw [Act.mapError, keyOf_withNew hkey]
  unfold setDictItem
  rw [bind_apply, hkey']
  dsimp only
  rw [bind_apply, toHost_back]
  exact store_same hsame

/-- Which item is read does not depend on new objects, so the same one is assigned. -/
theorem assign_back (ht : Assignable b.editor.store cls t) (hb : b.Writable)
    (hordered : b.editor.store.Ordered) {X : Object} (hX : Under b cls t k X) :
    ∃ b₂, assign cls t k (some (b.objects.alloc X).1) (b.withNew X) = .ok () b₂ ∧
      (∀ last, b₂.objects.endOf last = b.objects.endOf last) ∧
      b.editor.Same Buffer.shown b₂.editor ∧
      (b.editor.NullFree → b.editor.Same Buffer.marked b₂.editor) := by
  cases hX with
  | @line n i _ _ s y line _ key ht hkey hspan hposition hi hy hinside hline =>
    refine ⟨_, ht.assign_back hb hkey hspan hposition hi hy hinside, fun _ => rfl, ?_,
      fun hfree => ?_⟩
    · have hshown : (y.lines.map Convert.shownLine)[s.before + i]? =
          some (Convert.shownLine line) := by
        rw [List.getElem?_map, hline]
        rfl
      refine Editor.same_withLines hy List.length_set ?_
      unfold Buffer.shown
      dsimp only
      rw [List.map_set, Convert.shownLine_storedLine, set_of_getElem? hshown]
    · have hnull := hfree y (List.mem_of_find?_eq_some hy) line (List.mem_of_getElem? hline)
      refine Editor.same_withLines hy List.length_set ?_
      rw [Convert.storedLine_shownLine hnull, set_of_getElem? hline]
      rfl
  | @item l i v _ key hkey hposition hitem =>
    cases ht with
    | lines ht => cases ht
    | list hlock =>
      exact ⟨_, assign_list_back hlock hkey hposition hitem, fun _ => rfl, .refl _ _,
        fun _ => .refl _ _⟩
  | @entry d key v _ hkey hentry =>
    cases ht with
    | lines ht => cases ht
    | dict hlock =>
      exact ⟨_, setDictItem_back hlock (hordered d) hkey hentry, fun _ => rfl, .refl _ _,
        fun _ => .refl _ _⟩

/-- A truth value is refused where a position is assigned to. -/
theorem Assignable.assign_flag (ht : Assignable b.editor.store cls t) (hflag : IsFlag b t k)
    (value : Option ObjRef) : assign cls t k value b = .error (.error badIndex) b := by
  obtain ⟨hpositional, y, hshape⟩ := hflag
  cases ht with
  | lines ht =>
    rw [ht.assign_eq, bind_apply, inspect_apply hshape]
    rfl
  | list hlock =>
    change ((liftM (Bridge.inspect k) : Act ProxyError Shape) >>= _) b = _
    rw [bind_apply, inspect_apply hshape]
    rfl
  | dict hlock => cases hpositional

theorem of_slot_ok {α : Type} {a : Act ProxyError α} {y : α} (h : slot a b = .ok y b₁) :
    b.attached = true ∧ a b = .ok y b₁ := by
  unfold slot at h
  rw [bind_apply, get_apply] at h
  dsimp only at h
  cases hattached : b.attached with
  | false =>
    rw [hattached] at h
    cases h
  | true =>
    rw [hattached] at h
    refine ⟨rfl, ?_⟩
    cases hkind : b.interpreter.kind with
    | scripted =>
      rw [hkind] at h
      change Act.mapError _ a b = _ at h
      unfold Act.mapError at h
      split at h
      · rename_i hok
        obtain ⟨rfl, rfl⟩ := EStateM.Result.ok.inj h
        exact hok
      · cases h
    | library =>
      rw [hkind] at h
      change guarded a b = _ at h
      unfold guarded at h
      split at h
      · rename_i hok
        obtain ⟨rfl, rfl⟩ := EStateM.Result.ok.inj h
        exact hok
      · cases h
      · cases h

end Proxy

namespace Script

/-- The exception for a truth value in place of a position. -/
def noIndex : ForeignError := .exception .type "index must be int or slice"

variable {b b₁ : Bridge} {cls : ProxyClass} {t : Target} {o k x : ObjRef}

/-- What is under a key is read and then assigned under it. The assignment succeeds, and the lines,
the items and the entries are as before the reading, as scripts see them, and in every respect if no
line has a null character. Only a truth value is refused where keys are positions. -/
theorem item_put_back (hb : b.Writable) (hordered : b.editor.store.Ordered)
    (ho : b.objects.get o = .proxy cls t) (ht : Proxy.Assignable b.editor.store cls t)
    (hslice : ∀ s, (b.objects.get k).shape ≠ .ok (.slice s)) (hread : getItem o k b = .ok x b₁) :
    b₁.editor = b.editor ∧
      (Proxy.IsFlag b t k → setItem o k (some x) b₁ = .error (.error noIndex) b₁) ∧
      (¬Proxy.IsFlag b t k → ∃ b₂, setItem o k (some x) b₁ = .ok () b₂ ∧
        (∀ last, b₂.objects.endOf last = b.objects.endOf last) ∧
        b.editor.Same Buffer.shown b₂.editor ∧
        (b.editor.NullFree → b.editor.Same Buffer.marked b₂.editor)) := by
  have hcls : (cls.isSequence || cls.isMapping) = true := by
    cases ht with
    | lines ht => rw [ht.isSequence, Bool.true_or]
    | list | dict => rfl
  rw [getItem_container ho hcls] at hread
  obtain ⟨hattached, hsubscript⟩ := Proxy.of_slot_ok hread
  obtain ⟨X, rfl, rfl, hX⟩ := Proxy.subscript_ok ht hb.not_exclusive hslice hsubscript
  have ho' : (b.withNew X).objects.get o = .proxy cls t := by
    rw [Bridge.get_withNew_of_lt (Proxy.lt_size_of_ne_null (by rw [ho]; nofun)), ho]
  refine ⟨rfl, fun hflag => ?_, fun hflag => ?_⟩
  · obtain ⟨hpositional, y, hshape⟩ := hflag
    have hflag' : Proxy.IsFlag (b.withNew X) t k := by
      refine ⟨hpositional, y, ?_⟩
      rw [Bridge.get_withNew_of_lt (Proxy.lt_size_of_shape hshape nofun), hshape]
    have ht' : Proxy.Assignable (b.withNew X).editor.store cls t := ht
    have hraised : Proxy.raised Proxy.badIndex = noIndex := by decide
    rw [setItem_container ho' hcls]
    exact Proxy.slot_refused (b := b.withNew X) hattached rfl hraised
      (ht'.assign_flag hflag' (some (b.objects.alloc X).1))
  · obtain ⟨b₂, hassign, hsame⟩ := Proxy.assign_back ht hb hordered (hX.resolve_left hflag)
    refine ⟨b₂, ?_, hsame⟩
    rw [setItem_container ho' hcls]
    exact Proxy.slot_ok (b := b.withNew X) hattached hassign

/-- The last line of a buffer is put back at position minus one. With true as the position the same
line is read, and not put back. -/
theorem line_put_back :
    let cells : Array Object := #[.proxy .buffer (.buffer 1), .int (-1), .bool true]
    let b : Bridge := { Bridge.fresh with
      editor := Bridge.fresh.editor.withLines 1 ["a", "b"]
      handoff := { mode := .reentrant, side := .foreign }
      objects := { cells } }
    let b₁ := b.withNew (.str "b")
    (getItem ⟨0⟩ ⟨1⟩ b = .ok ⟨3⟩ b₁ ∧ ∃ b₂, setItem ⟨0⟩ ⟨1⟩ (some ⟨3⟩) b₁ = .ok () b₂ ∧
        b.editor.Same Buffer.marked b₂.editor) ∧
      getItem ⟨0⟩ ⟨2⟩ b = .ok ⟨3⟩ b₁ ∧
        setItem ⟨0⟩ ⟨2⟩ (some ⟨3⟩) b₁ = .error (.error noIndex) b₁ := by
  intro cells b b₁
  have hb : b.Writable := ⟨rfl, rfl⟩
  have hordered : b.editor.store.Ordered := Editor.ordered_new
  have ht : Proxy.Assignable b.editor.store .buffer (.buffer 1) := .lines .buffer
  have hfree : b.editor.NullFree := by
    intro y hy line hline
    obtain rfl := List.mem_singleton.mp hy
    rcases List.mem_cons.mp hline with rfl | hline
    · decide
    · rw [List.mem_singleton.mp hline]
      decide
  have hread : getItem ⟨0⟩ ⟨1⟩ b = .ok ⟨3⟩ b₁ := rfl
  have hread' : getItem ⟨0⟩ ⟨2⟩ b = .ok ⟨3⟩ b₁ := rfl
  obtain ⟨-, -, hback⟩ := item_put_back (k := ⟨1⟩) hb hordered rfl ht nofun hread
  obtain ⟨-, hrefused, -⟩ := item_put_back (k := ⟨2⟩) hb hordered rfl ht nofun hread'
  have hposition : ¬Proxy.IsFlag b (.buffer 1) ⟨1⟩ := by
    rintro ⟨-, y, hy⟩
    cases hy
  obtain ⟨b₂, hwrite, -, -, hsame⟩ := hback hposition
  exact ⟨⟨hread, b₂, hwrite, hsame hfree⟩, hread', hrefused ⟨rfl, true, rfl⟩⟩

end Script

end ScriptBridge
