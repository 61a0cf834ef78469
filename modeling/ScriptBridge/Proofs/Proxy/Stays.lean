import ScriptBridge.Proofs.Convert.Stays
import ScriptBridge.Proofs.Proxy.Access
import ScriptBridge.Proxy.Call

/-!
# Proxies leave the frame as it is

Each operation of a proxy leaves the frame as it is, except that the function of the module for
command lines does with it what the command line does.
-/

namespace ScriptBridge.Proxy

open Foreign (ObjRef Object ProxyClass Target Stream EndRef Slice)
open Host (Value DictRef ListRef LockError Store Change)
open ScriptBridge.Computation

variable {ε : Type}

/-! ### Arguments -/

theorem stays_arity (name : String) (given : List ObjRef) (least most : Nat) :
    (arity name given least most).Stays := by
  unfold arity
  split
  · exact .fail
  · exact .pure

theorem stays_intOf (r : ObjRef) : (intOf r).Stays := by
  refine .bind (.mapError (Bridge.stays_inspect r)) fun shape => ?_
  split
  iterate 2 exact .pure
  · exact .bind (Bridge.stays_typeName r) fun _ => .fail

theorem stays_truthOf (r : ObjRef) : (truthOf r).Stays := by
  refine .bind (.mapError (Bridge.stays_inspect r)) fun shape => ?_
  split
  iterate 3 exact .pure
  · exact .bind (Bridge.stays_typeName r) fun _ => .fail

/-! ### Output -/

theorem stays_write (s : Stream) (text : String) : (write s text : Act ε Unit).Stays := by
  refine .bind .get fun b => ?_
  dsimp only
  refine .bind (.modify (fun _ => ?_) fun _ => ?_) fun _ =>
    .bind (.forIn fun _ => .bind .say fun _ => .pure) fun _ => .pure
  all_goals cases s <;> rfl

theorem stays_flush : (flush : Act ε Unit).Stays := by
  have hshow (b : Bridge) : Act.Stays (do
      for s in [Stream.out, Stream.err] do
        if !(pending b s).isEmpty then Bridge.say (message s (pending b s)) : Act ε Unit) := by
    refine .bind (.forIn fun s => ?_) fun _ => .pure
    split
    · exact .bind .say fun _ => .pure
    · exact .pure
  refine .bind_get fun b hb => ?_
  have hset : b.Stays { b with pendingOut := "", pendingErr := "" } := .of_objects hb rfl rfl
  exact hset.trans (hshow b _ hset.ordinary)

/-! ### Containers -/

theorem stays_entriesOf (d : DictRef) : (entriesOf d).Stays := .bind .get fun _ => .pure

theorem stays_itemsOf (l : ListRef) : (itemsOf l).Stays := .bind .get fun _ => .pure

theorem stays_store {f : Store → Except LockError Store} : (store f).Stays := .mapError .store

theorem stays_newText (s : String) : (Bridge.alloc (.str s) : Act ε ObjRef).Stays := .alloc trivial

theorem stays_textList (texts : List String) : (textList texts).Stays :=
  .bind (.mapM stays_newText texts) fun _ => .alloc trivial

theorem stays_valuesOf (r : ObjRef) : (valuesOf r).Stays := by
  refine .bind (.mapError (Bridge.stays_inspect r)) fun shape => ?_
  split
  iterate 4
    · refine .bind (.mapError (Convert.stays_toHost r)) fun v => ?_
      split
      · exact stays_itemsOf _
      · exact .fail
  · exact .bind (Bridge.stays_typeName r) fun _ => .fail

theorem stays_dictItem (d : DictRef) (k : ObjRef) : (dictItem d k).Stays := by
  refine .bind (.mapError (Convert.stays_keyOf k)) fun key => .bind .get fun b => ?_
  split
  · exact .mapError (Convert.stays_toForeignBound _)
  · exact .fail

theorem stays_setDictItem (d : DictRef) (k : ObjRef) (value : Option ObjRef) :
    (setDictItem d k value).Stays := by
  refine .bind (.mapError (Convert.stays_keyOf k)) fun key => ?_
  cases value with
  | none =>
    refine .bind .get fun b => .bind stays_store fun _ => ?_
    split
    · exact .fail
    · exact .pure
  | some v => exact .bind (.mapError (Convert.stays_toHost v)) fun _ => stays_store

theorem stays_insertAll (d : DictRef) (entries : List (String × Value)) :
    (insertAll d entries).Stays := by
  induction entries with
  | nil => exact .pure
  | cons e rest ih => exact .bind stays_store fun _ => ih

theorem stays_updateDict (d : DictRef) (other : ObjRef) : (updateDict d other).Stays := by
  refine .bind (.mapError (Convert.stays_toHostWith true other)) fun converted => ?_
  split
  · exact .bind (stays_entriesOf _) fun entries => .bind (stays_insertAll d entries) fun _ =>
      .bind (.forIn fun _ => .bind .say fun _ => .pure) fun _ => .pure
  · exact .fail

theorem stays_newPair (e : String × Value) : Act.Stays (do
    let key ← Bridge.alloc (.str e.1)
    let value ← Convert.toForeignBound e.2
    Bridge.alloc (.tuple [key, value]) : Act ProxyError ObjRef) :=
  .bind (stays_newText e.1) fun _ => .bind (.mapError (Convert.stays_toForeignBound e.2)) fun _ =>
    .alloc trivial

theorem stays_dictMethod (d : DictRef) (name : String) (given : List ObjRef) :
    (dictMethod d name given).Stays := by
  unfold dictMethod
  split
  · exact .bind (stays_arity _ _ _ _) fun _ => .bind (stays_entriesOf d) fun _ => stays_textList _
  · exact .bind (stays_arity _ _ _ _) fun _ => .bind (stays_entriesOf d) fun entries =>
      .bind (.mapM (fun e => .mapError (Convert.stays_toForeignBound e.2)) entries) fun _ =>
      .alloc trivial
  · exact .bind (stays_arity _ _ _ _) fun _ => .bind (stays_entriesOf d) fun entries =>
      .bind (.mapM stays_newPair entries) fun _ => .alloc trivial
  · exact .bind (stays_arity _ _ _ _) fun _ => .bind (.mapError (Convert.stays_keyOf _)) fun _ =>
      .bind .get fun _ => .alloc trivial
  · refine .bind (stays_arity _ _ _ _) fun _ => .bind (.mapError (Convert.stays_keyOf _)) fun _ =>
      .bind .get fun b => ?_
    split
    · exact .mapError (Convert.stays_toForeignBound _)
    · exact .bind .hold fun _ => .pure
    · exact .alloc trivial
  · exact .bind (stays_arity _ _ _ _) fun _ => .bind (stays_updateDict d _) fun _ => .alloc trivial
  · exact .fail

theorem stays_listItem (l : ListRef) (i : Int) : (listItem l i).Stays := by
  refine .bind (stays_itemsOf l) fun items => ?_
  split
  · exact .mapError (Convert.stays_toForeignBound _)
  · exact .fail

theorem stays_listSlice (l : ListRef) (bounds : Slice) : (listSlice l bounds).Stays :=
  .bind (stays_itemsOf l) fun _ =>
    .bind (.mapM (fun v => .mapError (Convert.stays_toForeignBound v)) _) fun _ => .alloc trivial

theorem stays_setListItem (l : ListRef) (i : Int) (value : Option ObjRef) :
    (setListItem l i value).Stays := by
  unfold setListItem
  refine .guard ?_
  cases value with
  | none => exact .bind (stays_itemsOf l) fun items => .guard stays_store
  | some v => exact .bind (.mapError (Convert.stays_toHost v)) fun _ => stays_store

theorem stays_setListSlice (l : ListRef) (lo hi : Nat) (value : Option ObjRef) :
    (setListSlice l lo hi value).Stays := by
  unfold setListSlice
  cases value with
  | none => exact stays_store
  | some v => exact .bind (stays_valuesOf v) fun _ => stays_store

theorem stays_listMethod (l : ListRef) (name : String) (given : List ObjRef) :
    (listMethod l name given).Stays := by
  unfold listMethod
  split
  · exact .bind (stays_arity _ _ _ _) fun _ => .bind (stays_valuesOf _) fun _ =>
      .bind stays_store fun _ => .alloc trivial
  · exact .fail

theorem stays_callHostFunction (name : String) (bound : List Value) (given : List ObjRef) :
    (callHostFunction name bound given).Stays :=
  .bind (.mapM (fun a => .mapError (Convert.stays_toHost a)) given) fun _ => .bind .get fun _ =>
    .bind .serve fun v => .mapError (Convert.stays_toForeignBound v)

/-! ### Spans -/

theorem stays_span (t : Target) : (span t).Stays := by
  refine .bind .readEditor fun e => ?_
  split
  · split
    · exact .pure
    · exact .fail
  · split
    · exact .fail
    · refine .bind .get fun b => ?_
      dsimp only
      split
      · exact .pure
      · exact .crash
  · exact .fail

namespace Span

theorem stays_moveEnd (s : Span) (by_ : Int) : (s.moveEnd by_).Stays := by
  unfold moveEnd
  split
  · exact fun _ hb => ⟨⟨hb.scripted, hb.objects⟩, rfl⟩
  · exact .pure

theorem stays_check (s : Span) (i : Int) : (s.check i).Stays := by
  unfold check
  split
  · exact .pure
  · exact .fail

theorem stays_lines (s : Span) (lo hi : Nat) : (s.lines lo hi).Stays := by
  refine .bind .readEditor fun e => ?_
  split
  · exact .pure
  · exact .fail

theorem stays_item (s : Span) (i : Int) : (s.item i).Stays :=
  .bind (s.stays_check i) fun _ => .bind (s.stays_lines _ _) fun _ =>
    .mapError (Convert.stays_lineToForeign _)

theorem stays_slice (s : Span) (bounds : Slice) : (s.slice bounds).Stays := by
  unfold slice
  split
  · exact .fail
  · exact .bind (s.stays_lines _ _) fun _ => .mapError (Convert.stays_linesToForeign _)

theorem stays_replace (s : Span) (lo hi : Nat) (new : List String) : (s.replace lo hi new).Stays :=
  .bind .hostWrite fun _ => s.stays_moveEnd _

theorem stays_assignItem (s : Span) (i : Int) (value : Option ObjRef) :
    (s.assignItem i value).Stays := by
  refine .bind (s.stays_check i) fun n => ?_
  cases value with
  | none => exact s.stays_replace _ _ _
  | some v =>
    exact .bind (.mapError (Convert.stays_lineFromForeign v)) fun _ => s.stays_replace _ _ _

theorem stays_assignSlice (s : Span) (lo hi : Nat) (value : Option ObjRef) :
    (s.assignSlice lo hi value).Stays := by
  unfold assignSlice
  cases value with
  | none => exact s.stays_replace _ _ _
  | some v =>
    exact .bind (.mapError (Convert.stays_linesFromForeign v)) fun _ => s.stays_replace _ _ _

theorem stays_insertAt (s : Span) (i : Int) (new : List String) : (s.insertAt i new).Stays := by
  unfold insertAt
  exact .guard (.bind (s.stays_replace _ _ _) fun _ => .alloc trivial)

theorem stays_append (s : Span) (given : List ObjRef) : (s.append given).Stays := by
  have hposition (new : List String) : (s.insert given[1]? new).Stays := by
    unfold Span.insert
    split
    · exact .bind (stays_intOf _) fun n => s.stays_insertAt n.toInt new
    · exact s.stays_insertAt s.size new
  refine .bind (stays_arity _ _ _ _) fun _ => ?_
  dsimp only
  split
  · exact .bind (.mapError (Convert.stays_linesFromForeign _)) fun new => hposition new
  · exact hposition []

/-- A new end of a range is no object. -/
theorem stays_newEnd (n : Int64) : (modifyGet fun b : Bridge =>
    let (r, objects) := b.objects.newEnd n
    (r, { b with objects }) : Act ε EndRef).Stays :=
  fun _ hb => ⟨⟨hb.scripted, hb.objects⟩, rfl⟩

theorem stays_range (s : Span) (given : List ObjRef) : (s.range given).Stays := by
  refine .bind (stays_arity _ _ _ _) fun _ => ?_
  split
  · exact .bind (stays_intOf _) fun _ => .bind (stays_intOf _) fun last =>
      .guard (.bind (stays_newEnd last) fun _ => .wrap)
  · exact .fail

end Span

theorem stays_spanMethod (t : Target) (name : String) (given : List ObjRef) :
    (spanMethod t name given).Stays := by
  refine .bind (stays_span t) fun s => ?_
  split
  · exact s.stays_append given
  · exact s.stays_range given
  · exact .fail

theorem stays_cursorSpan : cursorSpan.Stays :=
  .bind .readEditor fun _ => .bind (stays_span _) fun _ => .pure

theorem stays_currentLine : currentLine.Stays :=
  .bind stays_cursorSpan fun place => place.1.stays_item place.2

theorem stays_setCurrentLine (value : Option ObjRef) : (setCurrentLine value).Stays :=
  .bind stays_cursorSpan fun place => place.1.stays_assignItem place.2 value

/-! ### Attributes -/

/-- A new object as the value of an attribute. -/
theorem stays_someNew {x : Object} (hx : x.Ordinary) :
    (some <$> Bridge.alloc x : Act ProxyError (Option ObjRef)).Stays := .map (.alloc hx)

theorem stays_bufferAttr (id : Nat) (name : String) : (bufferAttr id name).Stays := by
  refine .bind .readEditor fun e => ?_
  split
  · exact .fail
  split
  iterate 4 exact stays_someNew trivial
  · exact .pure

theorem stays_rangeAttr (buffer : Nat) (start last : Int64) (name : String) :
    (rangeAttr buffer start last name).Stays := by
  refine .bind .readEditor fun e => .guard ?_
  split
  iterate 2 exact stays_someNew trivial
  · exact .pure

theorem stays_windowAttr (id : Nat) (name : String) : (windowAttr id name).Stays := by
  refine .bind .readEditor fun e => ?_
  split
  · exact .fail
  split
  · exact .map .entity
  · exact .bind (.alloc trivial) fun _ => .bind (.alloc trivial) fun _ => stays_someNew trivial
  iterate 4 exact stays_someNew trivial
  · split
    · exact .map .entity
    · exact .fail
  · exact stays_someNew trivial
  · exact .pure

theorem stays_tabPageAttr (id : Nat) (name : String) : (tabPageAttr id name).Stays := by
  refine .bind .readEditor fun e => ?_
  split
  · exact .fail
  split
  · exact stays_someNew trivial
  · exact .map .entity
  iterate 3 exact stays_someNew trivial
  · exact .pure

theorem stays_currentRange (buffer : Nat) : (currentRange buffer).Stays :=
  .bind .get fun _ => .bind (Span.stays_newEnd _) fun _ => .wrap

theorem stays_currentAttr (name : String) : (currentAttr name).Stays := by
  refine .bind .readEditor fun e => ?_
  split
  iterate 3 exact .map .entity
  · exact .map stays_currentLine
  · exact .map (stays_currentRange _)
  · exact .pure

theorem stays_outputAttr (name : String) : (outputAttr name).Stays := by
  unfold outputAttr
  split
  · exact .bind .get fun _ => stays_someNew trivial
  iterate 3 exact stays_someNew trivial
  · exact .pure

theorem stays_targetAttr (t : Target) (name : String) : (targetAttr t name).Stays := by
  refine .bind .get fun b => ?_
  dsimp only
  split
  · exact stays_bufferAttr _ name
  · exact .bind .get fun _ => stays_rangeAttr _ _ _ name
  · exact stays_windowAttr _ name
  · exact stays_tabPageAttr _ name
  · exact stays_currentAttr name
  · split
    iterate 2 exact stays_someNew trivial
    · exact .pure
  iterate 2
    · split
      · exact stays_someNew trivial
      · exact .pure
  · exact stays_outputAttr name
  · exact .pure

theorem stays_getAttr? (cls : ProxyClass) (t : Target) (name : String) :
    (getAttr? cls t name).Stays := by
  unfold getAttr?
  dsimp only
  split
  · split
    · exact .bind (.alloc trivial) fun _ => .pure
    · exact .fail_bind
  · refine .bind (stays_targetAttr t name) fun found => ?_
    cases found with
    | some r => exact .pure
    | none =>
      dsimp only
      split
      · exact stays_someNew trivial
      split
      · exact .map (stays_textList _)
      · exact .pure

theorem stays_setCursor (id : Nat) (value : ObjRef) : (setCursor id value).Stays := by
  refine .bind (.mapError (Bridge.stays_inspect value)) fun shape => ?_
  dsimp only
  split
  iterate 2
    · refine .bind (.mapError (Bridge.stays_itemsOf value)) fun parts => ?_
      split
      · exact .bind (stays_intOf _) fun _ => .bind (stays_intOf _) fun _ => .guard .hostWrite
      · exact .fail
  · exact .fail_bind

theorem stays_sizeOf (name : String) (value : ObjRef) : (sizeOf name value).Stays :=
  .bind (stays_intOf value) fun _ => .guard .pure

theorem stays_setCurrent (name : String) (value : ObjRef) : (setCurrent name value).Stays := by
  refine .bind (.mapError (Bridge.stays_inspect value)) fun shape => ?_
  split
  · split
    iterate 3 exact .hostWrite
    iterate 4 exact .fail
  · exact .fail

theorem stays_writeAttr (t : Target) (name : String) (value : ObjRef) :
    (writeAttr t name value).Stays := by
  unfold writeAttr
  split
  · exact .bind (.mapError (Convert.stays_stringOf value)) fun _ =>
      .bind .hostWrite fun _ => .pure
  · exact .bind (stays_setCursor _ value) fun _ => .pure
  iterate 2
    · exact .bind (stays_sizeOf _ value) fun _ => .bind .hostWrite fun _ => .pure
  · exact .bind (stays_truthOf value) fun _ => .bind stays_store fun _ => .pure
  · exact .fail
  · exact .bind (stays_truthOf value) fun _ => .bind stays_store fun _ => .pure
  · exact .bind (stays_intOf value) fun _ => .bind (.modify (fun _ => rfl) fun _ => rfl)
      fun _ => .pure
  · exact .pure

theorem stays_changeAttr (t : Target) (name : String) (value : Option ObjRef) :
    (changeAttr t name value).Stays := by
  unfold changeAttr
  split
  · split
    · exact .bind (stays_setCurrentLine value) fun _ => .pure
    split
    · cases value with
      | none => exact .fail
      | some v => exact .bind (stays_setCurrent name v) fun _ => .pure
    · exact .pure
  · cases value with
    | none => exact .fail
    | some v => exact stays_writeAttr t name v

theorem stays_setAttr (cls : ProxyClass) (t : Target) (name : String) (value : Option ObjRef) :
    (setAttr cls t name value).Stays := by
  unfold setAttr
  refine .guard (.bind (stays_changeAttr t name value) fun changed => ?_)
  split
  · exact .fail
  · exact .pure

/-! ### Items -/

theorem stays_windowsOf (tab : Option Nat) : (windowsOf tab).Stays := by
  refine .bind .readEditor fun e => ?_
  split
  · exact .pure
  · exact .fail

theorem stays_length (cls : ProxyClass) (t : Target) : (length cls t).Stays := by
  unfold length
  split
  iterate 2 exact .bind (stays_span _) fun _ => .pure
  · exact .bind (stays_itemsOf _) fun _ => .pure
  · exact .bind (stays_entriesOf _) fun _ => .pure
  · exact .bind .readEditor fun _ => .pure
  · exact .bind (stays_windowsOf _) fun _ => .pure
  · exact .bind .readEditor fun _ => .pure
  iterate 2 exact .fail

theorem stays_item (cls : ProxyClass) (t : Target) (i : Int) : (item cls t i).Stays := by
  unfold item
  split
  iterate 2 exact .bind (stays_span _) fun s => s.stays_item i
  · exact stays_listItem _ i
  · refine .bind (stays_windowsOf _) fun windows => ?_
    split
    · exact .entity
    · exact .fail
  · refine .bind .readEditor fun e => ?_
    dsimp only
    split
    · exact .entity
    · exact .fail
  iterate 2 exact .fail

theorem stays_bufferByNumber (k : ObjRef) : (bufferByNumber k).Stays := by
  refine .bind (.mapError (Bridge.stays_inspect k)) fun shape => ?_
  split
  · refine .bind .readEditor fun e => ?_
    split
    · exact .entity
    · exact .fail
  · exact .fail

theorem stays_sliceOf (cls : ProxyClass) (t : Target) (bounds : Slice) :
    (sliceOf cls t bounds).Stays := by
  unfold sliceOf
  split
  iterate 2 exact .bind (stays_span _) fun s => s.stays_slice bounds
  · exact stays_listSlice _ bounds
  · exact .bind (stays_length cls t) fun _ => .bind (.mapM (fun (i : Nat) => stays_item cls t i) _)
      fun _ => .alloc trivial

theorem stays_subscript (cls : ProxyClass) (t : Target) (k : ObjRef) :
    (subscript cls t k).Stays := by
  unfold subscript
  split
  · exact stays_bufferByNumber k
  · exact stays_dictItem _ k
  · exact .fail
  split
  · exact .fail
  refine .bind (.mapError (Bridge.stays_inspect k)) fun shape => ?_
  split
  · exact .bind (stays_length cls t) fun _ => .bind .ofExcept fun i => stays_item cls t i
  · exact stays_item cls t _
  · exact stays_sliceOf cls t _
  · exact .fail

theorem stays_assignItem (cls : ProxyClass) (t : Target) (i : Int) (value : Option ObjRef) :
    (assignItem cls t i value).Stays := by
  unfold assignItem
  split
  iterate 2 exact .bind (stays_span _) fun s => s.stays_assignItem i value
  · exact stays_setListItem _ i value
  iterate 2 exact .fail

theorem stays_assignSlice (cls : ProxyClass) (t : Target) (bounds : Slice)
    (value : Option ObjRef) : (assignSlice cls t bounds value).Stays := by
  refine .bind (stays_length cls t) fun len => ?_
  split
  · exact .fail
  split
  · exact stays_setListSlice _ _ _ value
  · exact .bind (stays_span t) fun s => s.stays_assignSlice _ _ value

theorem stays_assign (cls : ProxyClass) (t : Target) (k : ObjRef) (value : Option ObjRef) :
    (assign cls t k value).Stays := by
  have hposition (t : Target) (n : Int) : Act.Stays (do
      let len ← length cls t
      let i ← if n = len && growsAtEnd t then pure len else Act.ofExcept (position n len)
      assignItem cls t i value : Act ProxyError Unit) := by
    refine .bind (stays_length cls t) fun len => ?_
    dsimp only
    split
    · exact stays_assignItem cls t _ value
    · exact .bind .ofExcept fun i => stays_assignItem cls t i value
  unfold assign
  split
  · exact stays_setDictItem _ k value
  · exact .fail
  iterate 3
    · refine .bind (.mapError (Bridge.stays_inspect k)) fun shape => ?_
      split
      · exact hposition _ _
      · exact stays_assignSlice cls _ _ value
      · exact .fail
  · exact .fail

theorem stays_iterate (cls : ProxyClass) (t : Target) : (iterate cls t).Stays := by
  unfold iterate
  split
  · exact .bind .readEditor fun e => .bind (.mapM (fun _ => .entity) _) fun _ => .alloc trivial
  · exact .bind (stays_entriesOf _) fun _ => stays_textList _
  · exact .fail

/-! ### Calls -/

theorem stays_slot {α : Type} {a : Act ProxyError α} (ha : a.Stays) : (slot a).Stays := by
  refine .bind_get fun b hb => ?_
  rw [hb.scripted]
  exact Act.Stays.guard (.mapError ha) b hb

theorem stays_anyItems (r : ObjRef) : (anyItems r).Stays := by
  refine .bind_get fun b hb => ?_
  rw [hb.scripted]
  split
  · contradiction
  · exact Bridge.stays_itemsOf r b hb

theorem stays_writeAll (s : Stream) (rs : List ObjRef) : (writeAll s rs).Stays := by
  induction rs with
  | nil => exact .pure
  | cons r rest ih =>
    exact .bind (.mapError (Convert.stays_stringOf r)) fun _ => .bind (stays_write s _) fun _ => ih

theorem stays_outputMethod (s : Stream) (name : String) (given : List ObjRef) :
    (outputMethod s name given).Stays := by
  unfold outputMethod
  dsimp only
  split
  · exact .bind (stays_arity _ _ _ _) fun _ => .bind (.mapError (Convert.stays_stringOf _)) fun _ =>
      .bind (stays_write s _) fun _ => .alloc trivial
  · exact .bind (stays_arity _ _ _ _) fun _ => .bind (.mapError (stays_anyItems _)) fun _ =>
      .bind (stays_writeAll s _) fun _ => .alloc trivial
  · exact .bind (stays_arity _ _ _ _) fun _ => .alloc trivial
  · exact .fail_bind

theorem stays_callMethod (receiver : Target) (cls : ProxyClass) (name : String)
    (given : List ObjRef) : (callMethod receiver cls name given).Stays := by
  unfold callMethod
  split
  iterate 2 exact stays_spanMethod _ name given
  · exact stays_dictMethod _ name given
  · exact stays_listMethod _ name given
  · exact stays_outputMethod _ name given
  all_goals exact .fail

end ScriptBridge.Proxy
