import ScriptBridge.Proofs.Convert.Objects
import ScriptBridge.Proofs.Proxy.Span
import ScriptBridge.Proofs.Proxy.Writing
import ScriptBridge.Proofs.Script.Paths

/-!
# Looking at proxies

To look at a proxy is to read an attribute, the length, an item or a slice of it, or what iteration
goes through, and to ask a dictionary for its keys, values and entries. The objects that a look gives
are new, or they are registered proxies. All else is as it was, however the look ends.
-/

namespace ScriptBridge

open Foreign (ObjRef Object ProxyClass Target)
open ScriptBridge.Computation

/-- New objects may be there, in use and registered, and new ends of ranges. Nothing else is
different. -/
structure Bridge.Looked (b b' : Bridge) : Prop where
  rest : b' = { b with objects := b'.objects, held := b'.held, registry := b'.registry }
  objects : b.objects.Extends b'.objects
  ends_le : b.objects.ends.size ≤ b'.objects.ends.size
  ends : ∀ last : Foreign.EndRef, last.id < b.objects.ends.size →
    b'.objects.endOf last = b.objects.endOf last

namespace Bridge.Looked

variable {b b' b'' : Bridge}

theorem refl : b.Looked b := ⟨rfl, ⟨Nat.le_refl _, fun _ _ => rfl⟩, Nat.le_refl _, fun _ _ => rfl⟩

theorem trans (h : b.Looked b') (h' : b'.Looked b'') : b.Looked b'' := by
  refine ⟨?_, h.objects.trans h'.objects, Nat.le_trans h.ends_le h'.ends_le, fun last hlast => ?_⟩
  · have hrest := h'.rest
    rw [h.rest] at hrest
    exact hrest
  · exact (h'.ends last (Nat.lt_of_lt_of_le hlast h.ends_le)).trans (h.ends last hlast)

theorem withNew (x : Object) : b.Looked (b.withNew x) :=
  ⟨rfl, (b.grown_withNew x).objects, Nat.le_refl _, fun _ _ => rfl⟩

/-- Other objects are in use, and other ones are registered. -/
theorem inUse (held : List ObjRef) (registry : List (Host.Entity × ObjRef)) :
    b.Looked { b with held, registry } :=
  ⟨rfl, ⟨Nat.le_refl _, fun _ _ => rfl⟩, Nat.le_refl _, fun _ _ => rfl⟩

theorem newEnd (last : Int64) : b.Looked { b with objects := (b.objects.newEnd last).2 } := by
  have hsize : (b.objects.ends.push last).size = b.objects.ends.size + 1 := Array.size_push _
  refine ⟨rfl, ⟨Nat.le_refl _, fun _ _ => rfl⟩, ?_, fun e he => ?_⟩
  · exact Nat.le_of_lt (Nat.lt_of_lt_of_eq (Nat.lt_succ_self _) hsize.symm)
  · unfold Foreign.Objects.endOf Foreign.Objects.newEnd
    dsimp only
    rw [Array.getD_eq_getD_getElem?, Array.getD_eq_getD_getElem?, Array.getElem?_push_lt he,
      Array.getElem?_eq_getElem he]

/-- The attributes of an object have a dictionary. -/
theorem dictionary (h : Foreign.Holder) (d : ObjRef) :
    b.Looked { b with objects := b.objects.withDictionary h d } :=
  ⟨rfl, ⟨Nat.le_refl _, fun _ _ => rfl⟩, Nat.le_refl _, fun _ _ => rfl⟩

/-- The editor is the same. -/
theorem editor (h : b.Looked b') : b'.editor = b.editor := congrArg (·.editor) h.rest

end Bridge.Looked

/-- A computation that only looks. -/
def Act.Looks {ε α : Type} (a : Act ε α) : Prop := ∀ b : Bridge, b.Looked (final (a b))

namespace Act.Looks

variable {ε δ α β γ : Type}

theorem of_keeps {a : Act ε α} (ha : a.Keeps id) : a.Looks := by
  intro b
  rw [show final (a b) = b from ha b]
  exact .refl

theorem pure (x : α) : (Pure.pure x : Act ε α).Looks := fun _ => .refl

theorem fail (e : ε) : (Act.fail e : Act ε α).Looks := fun _ => .refl

theorem alloc (x : Object) : (Bridge.alloc x : Act ε ObjRef).Looks := fun _ => .withNew x

theorem hold (r : ObjRef) : (Bridge.hold r : Act ε Unit).Looks := fun b => .inUse _ b.registry

/-- What comes next only looks after what came first. -/
theorem after {a : Act ε α} {f : α → Act ε β} {b : Bridge} (ha : b.Looked (final (a b)))
    (hf : ∀ x b', a b = .ok x b' → b'.Looked (final (f x b'))) :
    b.Looked (final ((a >>= f) b)) := by
  rw [bind_apply]
  cases h : a b with
  | ok x b' =>
    rw [h] at ha
    exact ha.trans (hf x b' h)
  | error e b' =>
    rw [h] at ha
    exact ha

theorem bind {a : Act ε α} {f : α → Act ε β} (ha : a.Looks) (hf : ∀ x, (f x).Looks) :
    (a >>= f).Looks := fun b => after (ha b) fun x b' _ => hf x b'

/-- What is read of the bridge. -/
theorem read {f : Bridge → Act ε α} (hf : ∀ b, (f b).Looks) : (MonadState.get >>= f).Looks :=
  fun b => hf b b

theorem map {a : Act ε α} (ha : a.Looks) (f : α → β) : (f <$> a).Looks := by
  rw [map_eq_pure_bind]
  exact .bind ha fun _ => .pure _

/-- A check in front of a computation. -/
theorem guard {c : Prop} [Decidable c] {e : ε} {f : Unit → Act ε α} (hf : (f ()).Looks) :
    (if c then Act.fail e >>= f else f ()).Looks := by
  split
  · exact .bind (.fail e) fun _ => hf
  · exact hf

theorem mapM {f : γ → Act ε α} (hf : ∀ x, (f x).Looks) (xs : List γ) : (xs.mapM f).Looks :=
  of_mapM (P := Looks) .pure .bind hf xs

theorem mapError {a : Act ε α} (ha : a.Looks) (f : ε → δ) : (a.mapError f).Looks := by
  intro b
  rw [final_mapError]
  exact ha b

theorem attempt {a : Act ε α} (ha : a.Looks) :
    Act.Looks (Act.attempt a : Act δ (Except ε α)) := by
  intro b
  rw [final_attempt]
  exact ha b

end Act.Looks

namespace Proxy

open Act (Looks)

variable {α : Type} (cls : ProxyClass) (t : Target)

theorem looks_slot {a : Act ProxyError α} (ha : a.Looks) : (slot a).Looks := by
  refine .read fun b => .guard ?_
  split
  · exact ha.mapError _
  · intro b'
    rw [final_guarded]
    exact ha b'

/-! ### The steps of looks -/

theorem looks_readEditor : Bridge.readEditor.Looks := .of_keeps keeps_readEditor

theorem looks_inspect (k : ObjRef) :
    (liftM (Bridge.inspect k) : Act ProxyError Foreign.Shape).Looks := .of_keeps (keeps_inspect k)

theorem looks_keyOf (k : ObjRef) : (liftM (Convert.keyOf k) : Act ProxyError String).Looks := by
  refine Looks.mapError (a := Convert.keyOf k) (.of_keeps fun b => ?_) _
  have happly := Convert.keyOf_apply b k
  cases htext : (b.objects.get k).keyText? with
  | none =>
    rw [htext] at happly
    obtain ⟨e, he⟩ := happly
    rw [he]
    rfl
  | some text =>
    rw [htext] at happly
    dsimp only at happly
    rw [happly]
    split <;> rfl

theorem looks_entity (key : Host.Entity) : (Bridge.entity key).Looks := by
  refine .bind looks_readEditor fun e => .guard (.read fun b => ?_)
  dsimp only
  split
  · exact .bind (.hold _) fun _ => .pure _
  · exact .bind (.alloc _) fun r => .bind (fun b => .inUse b.held _) fun _ => .pure _

theorem looks_textList (texts : List String) : (textList texts).Looks :=
  .bind (.mapM (fun _ => .alloc _) texts) fun _ => .alloc _

theorem looks_bound (v : Host.Value) :
    (liftM (Convert.toForeignBound v) : Act ProxyError ObjRef).Looks := by
  refine Looks.mapError (a := Convert.toForeignBound v) (fun b => ?_) _
  rw [Convert.toForeignBound_apply]
  exact .withNew _

theorem looks_windowsOf (tab : Option Nat) : (windowsOf tab).Looks := by
  refine .bind looks_readEditor fun e => ?_
  split
  · exact .pure _
  · exact .fail _

/-! ### Lines -/

theorem looks_lines (s : Span) (lo hi : Nat) : (s.lines lo hi).Looks := by
  refine .bind looks_readEditor fun e => ?_
  split
  · exact .pure _
  · exact .fail _

theorem looks_line (line : String) :
    (liftM (Convert.lineToForeign line) : Act ProxyError ObjRef).Looks := .mapError (.alloc _) _

theorem looks_spanItem (s : Span) (i : Int) : (s.item i).Looks :=
  .bind (.of_keeps (keeps_check s i)) fun n => .bind (looks_lines s n (n + 1)) fun _ => looks_line _

theorem looks_spanSlice (s : Span) (bounds : Foreign.Slice) : (s.slice bounds).Looks := by
  unfold Span.slice
  split
  · exact .fail _
  · refine .bind (looks_lines s _ _) fun lines => .mapError ?_ _
    exact .bind (.mapM (fun _ => .alloc _) lines) fun _ => .alloc _

/-! ### Attributes -/

theorem looks_newInt (n : Int) : (some <$> newInt n).Looks := .map (.alloc _) _

theorem looks_wrap : (some <$> (Bridge.wrap cls t : Act ProxyError ObjRef)).Looks := .map (.alloc _) _

theorem looks_new (x : Object) : (some <$> (Bridge.alloc x : Act ProxyError ObjRef)).Looks :=
  .map (.alloc _) _

theorem looks_bufferAttr (id : Nat) (name : String) : (bufferAttr id name).Looks := by
  refine .bind looks_readEditor fun e => ?_
  split
  · exact .fail _
  · split
    · exact looks_new _
    · exact looks_newInt _
    · exact looks_wrap _ _
    · exact looks_new _
    · exact .pure _

theorem looks_rangeAttr (id : Nat) (start last : Int64) (name : String) :
    (rangeAttr id start last name).Looks := by
  refine .bind looks_readEditor fun e => .guard ?_
  split
  · exact looks_newInt _
  · exact looks_newInt _
  · exact .pure _

theorem looks_windowAttr (id : Nat) (name : String) : (windowAttr id name).Looks := by
  refine .bind looks_readEditor fun e => ?_
  split
  · exact .fail _
  · split
    · exact .map (looks_entity _) _
    · exact .bind (.alloc _) fun row => .bind (.alloc _) fun col => looks_new _
    · exact looks_newInt _
    · exact looks_newInt _
    · exact looks_wrap _ _
    · exact looks_newInt _
    · split
      · exact .map (looks_entity _) _
      · exact .fail _
    · exact looks_new _
    · exact .pure _

theorem looks_tabPageAttr (id : Nat) (name : String) : (tabPageAttr id name).Looks := by
  refine .bind looks_readEditor fun e => ?_
  split
  · exact .fail _
  · split
    · exact looks_wrap _ _
    · exact .map (looks_entity _) _
    · exact looks_newInt _
    · exact looks_wrap _ _
    · exact looks_new _
    · exact .pure _

theorem looks_currentRange (id : Nat) : (currentRange id).Looks :=
  .read fun _ => .bind (fun _ => .newEnd _) fun _ => .alloc _

theorem looks_currentLine : currentLine.Looks :=
  .bind (.bind looks_readEditor fun _ => .bind (.of_keeps (keeps_span _)) fun _ => .pure _)
    fun _ => looks_spanItem _ _

theorem looks_currentAttr (name : String) : (currentAttr name).Looks := by
  refine .bind looks_readEditor fun e => ?_
  split
  iterate 3 exact .map (looks_entity _) _
  · exact .map looks_currentLine _
  · exact .map (looks_currentRange _) _
  · exact .pure _

theorem looks_outputAttr (name : String) : (outputAttr name).Looks := by
  unfold outputAttr
  split
  · exact .read fun b => looks_newInt _
  iterate 3 exact looks_new _
  · exact .pure _

theorem looks_targetAttr (name : String) : (targetAttr t name).Looks := by
  refine .read fun b => ?_
  dsimp only
  split
  · exact looks_bufferAttr _ _
  · exact .read fun b => looks_rangeAttr _ _ _ _
  · exact looks_windowAttr _ _
  · exact looks_tabPageAttr _ _
  · exact looks_currentAttr _
  · split
    · exact looks_newInt _
    · exact looks_newInt _
    · exact .pure _
  · split
    · exact looks_newInt _
    · exact .pure _
  · split
    · exact looks_new _
    · exact .pure _
  · exact looks_outputAttr _
  · exact .pure _

/-- Reading an attribute only looks. -/
theorem looks_getAttr (name : String) : (getAttr? cls t name).Looks := by
  unfold getAttr?
  by_cases hvalid : (!t.isValid) = true
  · rw [if_pos hvalid]
    dsimp only
    -- A destroyed entity is asked whether it is valid, or it cannot be asked.
    split
    · exact .bind (.alloc _) fun _ => .pure _
    · exact fun _ => .refl
  · rw [if_neg hvalid]
    refine .bind (looks_targetAttr t name) fun v => ?_
    split
    · exact .pure _
    · split
      · exact looks_wrap _ _
      · split
        · exact .map (looks_textList _) _
        · exact .pure _

/-! ### Items -/

theorem looks_length : (length cls t).Looks := by
  unfold length
  split
  iterate 2 exact .bind (.of_keeps (keeps_span _)) fun _ => .pure _
  iterate 2 exact .bind (.read fun _ => .pure _) fun _ => .pure _
  · exact .bind looks_readEditor fun _ => .pure _
  · exact .bind (looks_windowsOf _) fun _ => .pure _
  · exact .bind looks_readEditor fun _ => .pure _
  iterate 2 exact .fail _

theorem looks_listItem (l : Host.ListRef) (i : Int) : (listItem l i).Looks := by
  refine .bind (.read fun _ => .pure _) fun items => ?_
  split
  · exact looks_bound _
  · exact .fail _

theorem looks_item (i : Int) : (item cls t i).Looks := by
  unfold item
  split
  iterate 2 exact .bind (.of_keeps (keeps_span _)) fun s => looks_spanItem s i
  · exact looks_listItem _ _
  · refine .bind (looks_windowsOf _) fun windows => ?_
    split
    · exact looks_entity _
    · exact .fail _
  · refine .bind looks_readEditor fun e => ?_
    dsimp only
    split
    · exact looks_entity _
    · exact .fail _
  iterate 2 exact .fail _

theorem looks_sliceOf (bounds : Foreign.Slice) : (sliceOf cls t bounds).Looks := by
  unfold sliceOf
  split
  iterate 2 exact .bind (.of_keeps (keeps_span _)) fun s => looks_spanSlice s bounds
  · refine .bind (.read fun _ => .pure _) fun items => ?_
    exact .bind (.mapM (fun v => looks_bound v) _) fun _ => .alloc _
  · refine .bind (looks_length cls t) fun n => ?_
    exact .bind (.mapM (fun (i : Nat) => looks_item cls t i) _) fun _ => .alloc _

/-- Reading what is under a key only looks. -/
theorem looks_subscript (k : ObjRef) : (subscript cls t k).Looks := by
  unfold subscript
  split
  · refine .bind (looks_inspect k) fun shape => ?_
    split
    · refine .bind looks_readEditor fun e => ?_
      split
      · exact looks_entity _
      · exact .fail _
    · exact .fail _
  · refine .bind (looks_keyOf k) fun key => .read fun b => ?_
    split
    · exact looks_bound _
    · exact .fail _
  · exact .fail _
  · split
    · exact .fail _
    · refine .bind (looks_inspect k) fun shape => ?_
      split
      · exact .bind (looks_length cls t) fun n => .bind (.of_keeps (keeps_ofExcept _)) fun i =>
          looks_item cls t i
      · exact looks_item cls t _
      · exact looks_sliceOf cls t _
      · exact .fail _

/-- Reading what iteration goes through only looks. -/
theorem looks_iterate : (iterate cls t).Looks := by
  unfold iterate
  split
  · exact .bind looks_readEditor fun e => .bind (.mapM (fun x => looks_entity _) _) fun _ => .alloc _
  · exact .bind (.read fun _ => .pure _) fun _ => looks_textList _
  · exact .fail _

/-! ### Dictionaries -/

/-- The methods of dictionaries that only look. -/
def lookingMethods : List String := ["keys", "values", "items", "has_key", "get"]

theorem lookingMethod_cases {name : String} (h : name ∈ lookingMethods) :
    name = "keys" ∨ name = "values" ∨ name = "items" ∨ name = "has_key" ∨ name = "get" := by
  simpa [lookingMethods] using h

theorem looks_arity (name : String) (args : List ObjRef) (least most : Nat) :
    (arity name args least most).Looks := by
  unfold arity
  split
  · exact .fail _
  · exact .pure _

theorem looks_entriesOf (d : Host.DictRef) : (entriesOf d).Looks := .read fun _ => .pure _

theorem looks_dictMethod (d : Host.DictRef) {name : String} (hname : name ∈ lookingMethods)
    (args : List ObjRef) : (dictMethod d name args).Looks := by
  obtain rfl | rfl | rfl | rfl | rfl := lookingMethod_cases hname
  · exact .bind (looks_arity _ args 0 0) fun _ => .bind (looks_entriesOf d) fun _ => looks_textList _
  · refine .bind (looks_arity _ args 0 0) fun _ => .bind (looks_entriesOf d) fun entries => ?_
    exact .bind (.mapM (fun _ => looks_bound _) entries) fun _ => .alloc _
  · refine .bind (looks_arity _ args 0 0) fun _ => .bind (looks_entriesOf d) fun entries => ?_
    refine .bind (.mapM (fun _ => ?_) entries) fun _ => .alloc _
    exact .bind (.alloc _) fun _ => .bind (looks_bound _) fun _ => .alloc _
  · refine .bind (looks_arity _ args 1 1) fun _ => .bind (looks_keyOf _) fun key => ?_
    exact .read fun _ => .alloc _
  · refine .bind (looks_arity _ args 1 2) fun _ => .bind (looks_keyOf _) fun key => .read fun b => ?_
    split
    · exact looks_bound _
    · exact .bind (.hold _) fun _ => .pure _
    · exact .alloc _

end Proxy

end ScriptBridge
