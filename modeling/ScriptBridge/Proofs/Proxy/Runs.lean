import ScriptBridge.Proofs.Convert.Runs
import ScriptBridge.Proofs.Proxy.Access
import ScriptBridge.Proxy.Call

/-!
# Proxies run by moves

Each operation of a proxy changes the bridge by moves. What it gives a script is in use.
-/

namespace ScriptBridge.Proxy

open Foreign (ObjRef Object ProxyClass Target Stream EndRef Slice)
open Host (Value DictRef ListRef LockError Store Lock Change)
open ScriptBridge.Computation

variable {ε : Type} {args : List ObjRef}

/-! ### Arguments -/

theorem runs_arity (name : String) (given : List ObjRef) (least most : Nat) :
    (arity name given least most).Runs args fun _ => [] := by
  unfold arity
  split
  · exact .fail
  · exact .pure (List.nil_subset _)

theorem runs_intOf (r : ObjRef) : (intOf r).Runs args fun _ => [] := by
  refine .bind (.mapError (Bridge.runs_inspect r)) fun shape => ?_
  split
  · exact .pure (List.nil_subset _)
  · exact .pure (List.nil_subset _)
  · exact .bind (Bridge.runs_typeName r) fun _ => .fail

theorem runs_truthOf (r : ObjRef) : (truthOf r).Runs args fun _ => [] := by
  refine .bind (.mapError (Bridge.runs_inspect r)) fun shape => ?_
  split
  iterate 3 exact .pure (List.nil_subset _)
  · exact .bind (Bridge.runs_typeName r) fun _ => .fail

theorem runs_position (i : Int) (len : Nat) :
    (Act.ofExcept (position i len)).Runs args fun _ => [] :=
  .ofExcept fun _ _ => List.nil_subset _

/-! ### Output -/

theorem runs_write (s : Stream) (text : String) :
    (write s text : Act ε Unit).Runs args fun _ => [] := by
  refine .bind .get fun b => ?_
  dsimp only
  refine .bind (.modify_frame (fun _ => ?_) (fun _ => ?_) fun _ => ?_) fun _ =>
    .bind (.forIn fun _ _ => .bind .say fun _ => .pure (List.nil_subset _)) fun _ =>
    .pure (List.nil_subset _)
  all_goals cases s <;> rfl

theorem runs_flush : (flush : Act ε Unit).Runs args fun _ => [] := by
  refine .bind_get fun b hb hargs => .bind hb hargs (.set_frame rfl rfl rfl) fun _ => ?_
  refine .bind (.forIn fun s _ => ?_) fun _ => .pure (List.nil_subset _)
  split
  · exact .bind .say fun _ => .pure (List.nil_subset _)
  · exact .pure (List.nil_subset _)

/-! ### Containers -/

theorem runs_entriesOf (d : DictRef) : (entriesOf d).Runs args fun _ => [] :=
  .bind .get fun _ => .pure (List.nil_subset _)

theorem runs_itemsOf (l : ListRef) : (itemsOf l).Runs args fun _ => [] :=
  .bind .get fun _ => .pure (List.nil_subset _)

theorem runs_store {f : Store → Except LockError Store}
    (hf : ∀ s s', f s = .ok s' → s.Step s') : (store f).Runs args fun _ => [] :=
  .mapError (.store hf)

theorem runs_newText (s : String) : (Bridge.alloc (.str s) : Act ε ObjRef).Runs args fun r => [r] :=
  .alloc (.of_not_proxy trivial rfl) (List.nil_subset _)

theorem runs_newList {items : List ObjRef} (h : items ⊆ args) :
    (Bridge.alloc (.list items) : Act ε ObjRef).Runs args fun r => [r] :=
  .alloc (.of_not_proxy trivial rfl) h

theorem runs_newNull : (Bridge.alloc .null : Act ε ObjRef).Runs args fun r => [r] :=
  .alloc (.of_not_proxy trivial rfl) (List.nil_subset _)

theorem runs_newBool (b : Bool) :
    (Bridge.alloc (.bool b) : Act ε ObjRef).Runs args fun r => [r] :=
  .alloc (.of_not_proxy trivial rfl) (List.nil_subset _)

theorem runs_textList (texts : List String) : (textList texts).Runs args fun r => [r] :=
  .bind (.mapM fun t _ => runs_newText t) fun items => runs_newList (by simp)

theorem runs_valuesOf (r : ObjRef) : (valuesOf r).Runs args fun _ => [] := by
  refine .bind (.mapError (Bridge.runs_inspect r)) fun shape => ?_
  split
  iterate 4
    · refine .bind (.mapError (Convert.runs_toHost r)) fun v => ?_
      split
      · exact runs_itemsOf _
      · exact .fail
  · exact .bind (Bridge.runs_typeName r) fun _ => .fail

theorem runs_dictItem (d : DictRef) (k : ObjRef) : (dictItem d k).Runs args fun r => [r] := by
  refine .bind (.mapError (Convert.runs_keyOf k)) fun key => .bind .get fun b => ?_
  split
  · exact .mapError (Convert.runs_toForeignBound _)
  · exact .fail

theorem runs_setDictItem (d : DictRef) (k : ObjRef) (value : Option ObjRef) :
    (setDictItem d k value).Runs args fun _ => [] := by
  refine .bind (.mapError (Convert.runs_keyOf k)) fun key => ?_
  cases value with
  | none =>
    refine .bind .get fun b => .bind (runs_store fun _ _ h => .writeDict _ _ h) fun _ => ?_
    split
    · exact .fail
    · exact .pure (List.nil_subset _)
  | some v =>
    exact .bind (.mapError (Convert.runs_toHost v)) fun v =>
      runs_store fun _ _ h => .writeDict _ _ h

theorem runs_insertAll (d : DictRef) (entries : List (String × Value)) :
    (insertAll d entries).Runs args fun _ => [] := by
  induction entries with
  | nil => exact .pure (List.nil_subset _)
  | cons e rest ih => exact .bind (runs_store fun _ _ h => .writeDict _ _ h) fun _ => ih

theorem runs_updateDict (d : DictRef) (other : ObjRef) :
    (updateDict d other).Runs args fun _ => [] := by
  refine .bind (.mapError (Convert.runs_toHostWith true other)) fun converted => ?_
  split
  · exact .bind (runs_entriesOf _) fun entries => .bind (runs_insertAll d entries) fun _ =>
      .bind (.forIn fun _ _ => .bind .say fun _ => .pure (List.nil_subset _)) fun _ =>
      .pure (List.nil_subset _)
  · exact .fail

theorem runs_newPair (e : String × Value) : Act.Runs args (do
    let key ← Bridge.alloc (.str e.1)
    let value ← Convert.toForeignBound e.2
    Bridge.alloc (.tuple [key, value]) : Act ProxyError ObjRef) fun r => [r] := by
  refine .bind (runs_newText e.1) fun key =>
    .bind (.mapError (Convert.runs_toForeignBound e.2)) fun value => ?_
  exact .alloc (.of_not_proxy trivial rfl) (by simp [Object.references])

theorem runs_dictMethod (d : DictRef) (name : String) (given : List ObjRef) :
    (dictMethod d name given).Runs given fun r => [r] := by
  unfold dictMethod
  split
  · exact .bind (runs_arity _ _ _ _) fun _ => .bind (runs_entriesOf d) fun _ => runs_textList _
  · refine .bind (runs_arity _ _ _ _) fun _ => .bind (runs_entriesOf d) fun entries =>
      .bind (.mapM fun e _ => .mapError (Convert.runs_toForeignBound e.2)) fun items => ?_
    exact runs_newList (by simp)
  · refine .bind (runs_arity _ _ _ _) fun _ => .bind (runs_entriesOf d) fun entries =>
      .bind (.mapM fun e _ => runs_newPair e) fun items => ?_
    exact runs_newList (by simp)
  · exact .bind (runs_arity _ _ _ _) fun _ => .bind (.mapError (Convert.runs_keyOf _)) fun _ =>
      .bind .get fun _ => runs_newBool _
  · refine .bind (runs_arity _ _ _ _) fun _ => .bind (.mapError (Convert.runs_keyOf _)) fun _ =>
      .bind_get fun b hb hargs => ?_
    split
    · exact Act.Runs.mapError (Convert.runs_toForeignBound _) b hb hargs
    · rename_i other _ hother
      exact .hold (hb.alive_of_mem_held (hargs (by simp [List.mem_of_getElem? hother])))
    · exact runs_newNull b hb hargs
  · exact .bind (runs_arity _ _ _ _) fun _ => .bind (runs_updateDict d _) fun _ => runs_newNull
  · exact .fail

theorem runs_listItem (l : ListRef) (i : Int) : (listItem l i).Runs args fun r => [r] := by
  refine .bind (runs_itemsOf l) fun items => ?_
  split
  · exact .mapError (Convert.runs_toForeignBound _)
  · exact .fail

theorem runs_listSlice (l : ListRef) (bounds : Slice) :
    (listSlice l bounds).Runs args fun r => [r] :=
  .bind (runs_itemsOf l) fun _ =>
    .bind (.mapM fun v _ => .mapError (Convert.runs_toForeignBound v)) fun _ =>
    runs_newList (by simp)

theorem runs_setListItem (l : ListRef) (i : Int) (value : Option ObjRef) :
    (setListItem l i value).Runs args fun _ => [] := by
  unfold setListItem
  refine .guard ?_
  cases value with
  | none =>
    exact .bind (runs_itemsOf l) fun items => .guard (runs_store fun _ _ h => .writeList _ _ h)
  | some v =>
    exact .bind (.mapError (Convert.runs_toHost v)) fun v =>
      runs_store fun _ _ h => .writeList _ _ h

theorem runs_setListSlice (l : ListRef) (lo hi : Nat) (value : Option ObjRef) :
    (setListSlice l lo hi value).Runs args fun _ => [] := by
  unfold setListSlice
  cases value with
  | none => exact runs_store fun _ _ h => .writeList _ _ h
  | some v => exact .bind (runs_valuesOf v) fun _ => runs_store fun _ _ h => .writeList _ _ h

theorem runs_listMethod (l : ListRef) (name : String) (given : List ObjRef) :
    (listMethod l name given).Runs args fun r => [r] := by
  unfold listMethod
  split
  · exact .bind (runs_arity _ _ _ _) fun _ => .bind (runs_valuesOf _) fun _ =>
      .bind (runs_store fun _ _ h => .writeList _ _ h) fun _ => runs_newNull
  · exact .fail

theorem runs_callHostFunction (name : String) (bound : List Value) (given : List ObjRef) :
    (callHostFunction name bound given).Runs args fun r => [r] := by
  refine .bind (.mapM fun a _ => .mapError (Convert.runs_toHost a)) fun values => ?_
  refine .bind_get fun b hb hargs => ?_
  have hserve : (Bridge.serve (Host.callFunction b.functions name (bound ++ values))).RunsFrom b
      fun _ => [] := Act.Runs.serve (Host.orderly_callFunction hb.orderly _ _) b hb hargs
  exact .bind hb hargs hserve fun v => .mapError (Convert.runs_toForeignBound v)

/-! ### Spans -/

theorem runs_span (t : Target) : (span t).Runs args fun _ => [] := by
  refine .bind .readEditor fun e => ?_
  split
  · split
    · exact .pure (List.nil_subset _)
    · exact .fail
  · split
    · exact .fail
    · refine .bind .get fun b => ?_
      dsimp only
      split
      · exact .pure (List.nil_subset _)
      · exact .crash
  · exact .fail

namespace Span

theorem runs_moveEnd (s : Span) (by_ : Int) : (s.moveEnd by_).Runs args fun _ => [] := by
  unfold moveEnd
  split
  · exact .modify_frame (fun _ => rfl) (fun _ => rfl) fun _ => rfl
  · exact .pure (List.nil_subset _)

theorem runs_check (s : Span) (i : Int) : (s.check i).Runs args fun _ => [] := by
  unfold check
  split
  · exact .pure (List.nil_subset _)
  · exact .fail

theorem runs_lines (s : Span) (lo hi : Nat) : (s.lines lo hi).Runs args fun _ => [] := by
  refine .bind .readEditor fun e => ?_
  split
  · exact .pure (List.nil_subset _)
  · exact .fail

theorem runs_item (s : Span) (i : Int) : (s.item i).Runs args fun r => [r] :=
  .bind (s.runs_check i) fun _ => .bind (s.runs_lines _ _) fun _ =>
    .mapError (Convert.runs_lineToForeign _)

theorem runs_slice (s : Span) (bounds : Slice) : (s.slice bounds).Runs args fun r => [r] := by
  unfold slice
  split
  · exact .fail
  · exact .bind (s.runs_lines _ _) fun _ => .mapError (Convert.runs_linesToForeign _)

theorem runs_replace (s : Span) (lo hi : Nat) (new : List String) :
    (s.replace lo hi new).Runs args fun _ => [] :=
  .bind (.hostWrite (Change.proceeds_replaceLines _ _ _ _).orderly) fun _ => s.runs_moveEnd _

theorem runs_assignItem (s : Span) (i : Int) (value : Option ObjRef) :
    (s.assignItem i value).Runs args fun _ => [] := by
  refine .bind (s.runs_check i) fun n => ?_
  cases value with
  | none => exact s.runs_replace _ _ _
  | some v =>
    exact .bind (.mapError (Convert.runs_lineFromForeign v)) fun _ => s.runs_replace _ _ _

theorem runs_assignSlice (s : Span) (lo hi : Nat) (value : Option ObjRef) :
    (s.assignSlice lo hi value).Runs args fun _ => [] := by
  unfold assignSlice
  cases value with
  | none => exact s.runs_replace _ _ _
  | some v =>
    exact .bind (.mapError (Convert.runs_linesFromForeign v)) fun _ => s.runs_replace _ _ _

theorem runs_insertAt (s : Span) (i : Int) (new : List String) :
    (s.insertAt i new).Runs args fun r => [r] := by
  unfold insertAt
  exact .guard (.bind (s.runs_replace _ _ _) fun _ => runs_newNull)

theorem runs_append (s : Span) (given : List ObjRef) : (s.append given).Runs args fun r => [r] := by
  have hposition (new : List String) : (s.insert given[1]? new).Runs args fun r => [r] := by
    unfold Span.insert
    split
    · exact .bind (runs_intOf _) fun n => s.runs_insertAt n.toInt new
    · exact s.runs_insertAt s.size new
  refine .bind (runs_arity _ _ _ _) fun _ => ?_
  dsimp only
  split
  · exact .bind (.mapError (Convert.runs_linesFromForeign _)) fun new => hposition new
  · exact hposition []

/-- A new end of a range is nothing that the invariant depends on. -/
theorem runs_newEnd (n : Int64) : (modifyGet fun b : Bridge =>
    let (r, objects) := b.objects.newEnd n
    (r, { b with objects }) : Act ε EndRef).Runs args fun _ => [] :=
  fun _ _ _ => .ok (.single (.roots rfl fun _ hr => .inl hr)) (List.Subset.refl _)
    (List.nil_subset _)

theorem runs_range (s : Span) (given : List ObjRef) : (s.range given).Runs args fun r => [r] := by
  refine .bind (runs_arity _ _ _ _) fun _ => ?_
  split
  · refine .bind (runs_intOf _) fun start => .bind (runs_intOf _) fun last => .guard ?_
    exact .bind (runs_newEnd last) fun _ => .wrap rfl rfl
  · exact .fail

end Span

theorem runs_spanMethod (t : Target) (name : String) (given : List ObjRef) :
    (spanMethod t name given).Runs args fun r => [r] := by
  refine .bind (runs_span t) fun s => ?_
  split
  · exact s.runs_append given
  · exact s.runs_range given
  · exact .fail

theorem runs_cursorSpan : cursorSpan.Runs args fun _ => [] :=
  .bind .readEditor fun _ => .bind (runs_span _) fun _ => .pure (List.nil_subset _)

theorem runs_currentLine : currentLine.Runs args fun r => [r] :=
  .bind runs_cursorSpan fun place => place.1.runs_item place.2

theorem runs_setCurrentLine (value : Option ObjRef) :
    (setCurrentLine value).Runs args fun _ => [] :=
  .bind runs_cursorSpan fun place => place.1.runs_assignItem place.2 value

/-! ### Attributes -/

theorem runs_vars (d : DictRef) : (vars d).Runs args fun r => [r] := .wrap rfl rfl

theorem runs_newInt (n : Int) : (newInt n).Runs args fun r => [r] :=
  .alloc (.of_not_proxy trivial rfl) (List.nil_subset _)

theorem runs_some {a : Act ProxyError ObjRef} (h : a.Runs args fun r => [r]) :
    (some <$> a).Runs args fun r => r.toList :=
  .map h fun _ => List.Subset.refl _

theorem runs_bufferAttr (id : Nat) (name : String) :
    (bufferAttr id name).Runs args fun r => r.toList := by
  refine .bind .readEditor fun e => ?_
  split
  · exact .fail
  split
  · exact runs_some (runs_newText _)
  · exact runs_some (runs_newInt _)
  · exact runs_some (runs_vars _)
  · exact runs_some (runs_newBool _)
  · exact .pure (List.nil_subset _)

theorem runs_rangeAttr (buffer : Nat) (start last : Int64) (name : String) :
    (rangeAttr buffer start last name).Runs args fun r => r.toList := by
  refine .bind .readEditor fun e => .guard ?_
  split
  · exact runs_some (runs_newInt _)
  · exact runs_some (runs_newInt _)
  · exact .pure (List.nil_subset _)

theorem runs_windowAttr (id : Nat) (name : String) :
    (windowAttr id name).Runs args fun r => r.toList := by
  refine .bind .readEditor fun e => ?_
  split
  · exact .fail
  split
  · exact runs_some .entity
  · refine .bind (runs_newInt _) fun row => .bind (runs_newInt _) fun col => runs_some ?_
    exact .alloc (.of_not_proxy trivial rfl) (by simp [Object.references])
  · exact runs_some (runs_newInt _)
  · exact runs_some (runs_newInt _)
  · exact runs_some (runs_vars _)
  · exact runs_some (runs_newInt _)
  · split
    · exact runs_some .entity
    · exact .fail
  · exact runs_some (runs_newBool _)
  · exact .pure (List.nil_subset _)

theorem runs_tabPageAttr (id : Nat) (name : String) :
    (tabPageAttr id name).Runs args fun r => r.toList := by
  refine .bind .readEditor fun e => ?_
  split
  · exact .fail
  split
  · exact runs_some (.wrap rfl rfl)
  · exact runs_some .entity
  · exact runs_some (runs_newInt _)
  · exact runs_some (runs_vars _)
  · exact runs_some (runs_newBool _)
  · exact .pure (List.nil_subset _)

theorem runs_currentRange (buffer : Nat) : (currentRange buffer).Runs args fun r => [r] :=
  .bind .get fun _ => .bind (Span.runs_newEnd _) fun _ => .wrap rfl rfl

theorem runs_currentAttr (name : String) : (currentAttr name).Runs args fun r => r.toList := by
  refine .bind .readEditor fun e => ?_
  split
  iterate 3 exact runs_some .entity
  · exact runs_some runs_currentLine
  · exact runs_some (runs_currentRange _)
  · exact .pure (List.nil_subset _)

theorem runs_outputAttr (name : String) : (outputAttr name).Runs args fun r => r.toList := by
  unfold outputAttr
  split
  · exact .bind .get fun _ => runs_some (runs_newInt _)
  · exact runs_some (runs_newText _)
  · exact runs_some (runs_newText _)
  · exact runs_some (runs_newBool _)
  · exact .pure (List.nil_subset _)

theorem runs_targetAttr (t : Target) (name : String) :
    (targetAttr t name).Runs args fun r => r.toList := by
  refine .bind .get fun b => ?_
  dsimp only
  split
  · exact runs_bufferAttr _ name
  · exact .bind .get fun _ => runs_rangeAttr _ _ _ name
  · exact runs_windowAttr _ name
  · exact runs_tabPageAttr _ name
  · exact runs_currentAttr name
  · split
    · exact runs_some (runs_newInt _)
    · exact runs_some (runs_newInt _)
    · exact .pure (List.nil_subset _)
  · split
    · exact runs_some (runs_newInt _)
    · exact .pure (List.nil_subset _)
  · split
    · exact runs_some (runs_newText _)
    · exact .pure (List.nil_subset _)
  · exact runs_outputAttr name
  · exact .pure (List.nil_subset _)

/-- A method keeps the target and the class of the proxy that it is read from. -/
theorem runs_getAttr? {cls : ProxyClass} {t : Target} (hfits : cls.fits t) (name : String) :
    (getAttr? cls t name).Runs args fun r => r.toList := by
  unfold getAttr?
  dsimp only
  split
  · split
    · exact .bind (runs_newBool _) fun _ => .pure (List.subset_append_left _ _)
    · exact .fail_bind
  · refine .bind (runs_targetAttr t name) fun found => ?_
    cases found with
    | some r => exact .pure (List.subset_append_left _ _)
    | none =>
      dsimp only
      split
      · exact runs_some (.wrap hfits rfl)
      split
      · exact runs_some (runs_textList _)
      · exact .pure (List.nil_subset _)

theorem runs_setCursor (id : Nat) (value : ObjRef) : (setCursor id value).Runs args fun _ => [] := by
  refine .bind (.mapError (Bridge.runs_inspect value)) fun shape => ?_
  dsimp only
  split
  iterate 2
    · refine .bind (.mapError (Bridge.runs_itemsOf value)) fun parts => ?_
      split
      · exact .bind (runs_intOf _) fun _ => .bind (runs_intOf _) fun _ =>
          .guard (.hostWrite (Change.proceeds_setCursor _ _ _).orderly)
      · exact .fail
  · exact .fail_bind

theorem runs_sizeOf (name : String) (value : ObjRef) :
    (sizeOf name value).Runs args fun _ => [] :=
  .bind (runs_intOf value) fun _ => .guard (.pure (List.nil_subset _))

theorem runs_setCurrent (name : String) (value : ObjRef) :
    (setCurrent name value).Runs args fun _ => [] := by
  refine .bind (.mapError (Bridge.runs_inspect value)) fun shape => ?_
  split
  · split
    · exact .hostWrite (Change.proceeds_setCurrentBuffer _).orderly
    · exact .hostWrite (Change.proceeds_setCurrentWindow _).orderly
    · exact .hostWrite (Change.proceeds_setCurrentTab _).orderly
    iterate 4 exact .fail
  · exact .fail

theorem runs_writeAttr (t : Target) (name : String) (value : ObjRef) :
    (writeAttr t name value).Runs args fun _ => [] := by
  unfold writeAttr
  split
  · exact .bind (.mapError (Convert.runs_stringOf value)) fun _ =>
      .bind (.hostWrite (Change.proceeds_renameBuffer _ _).orderly) fun _ =>
        .pure (List.nil_subset _)
  · exact .bind (runs_setCursor _ value) fun _ => .pure (List.nil_subset _)
  · exact .bind (runs_sizeOf _ value) fun _ =>
      .bind (.hostWrite (Change.proceeds_setHeight _ _).orderly) fun _ => .pure (List.nil_subset _)
  · exact .bind (runs_sizeOf _ value) fun _ =>
      .bind (.hostWrite (Change.proceeds_setWidth _ _).orderly) fun _ => .pure (List.nil_subset _)
  · exact .bind (runs_truthOf value) fun _ => .bind (runs_store fun _ _ h => .lockDict _ _ h)
      fun _ => .pure (List.nil_subset _)
  · exact .fail
  · exact .bind (runs_truthOf value) fun _ => .bind (runs_store fun _ _ h => .lockList _ _ h)
      fun _ => .pure (List.nil_subset _)
  · exact .bind (runs_intOf value) fun _ =>
      .bind (.modify_frame (fun _ => rfl) (fun _ => rfl) fun _ => rfl) fun _ =>
      .pure (List.nil_subset _)
  · exact .pure (List.nil_subset _)

theorem runs_changeAttr (t : Target) (name : String) (value : Option ObjRef) :
    (changeAttr t name value).Runs args fun _ => [] := by
  unfold changeAttr
  split
  · split
    · exact .bind (runs_setCurrentLine value) fun _ => .pure (List.nil_subset _)
    split
    · cases value with
      | none => exact .fail
      | some v => exact .bind (runs_setCurrent name v) fun _ => .pure (List.nil_subset _)
    · exact .pure (List.nil_subset _)
  · cases value with
    | none => exact .fail
    | some v => exact runs_writeAttr t name v

theorem runs_setAttr (cls : ProxyClass) (t : Target) (name : String) (value : Option ObjRef) :
    (setAttr cls t name value).Runs args fun _ => [] := by
  unfold setAttr
  refine .guard (.bind (runs_changeAttr t name value) fun changed => ?_)
  split
  · exact .fail
  · exact .pure (List.nil_subset _)

/-! ### Items -/

theorem runs_windowsOf (tab : Option Nat) : (windowsOf tab).Runs args fun _ => [] := by
  refine .bind .readEditor fun e => ?_
  split
  · exact .pure (List.nil_subset _)
  · exact .fail

theorem runs_length (cls : ProxyClass) (t : Target) : (length cls t).Runs args fun _ => [] := by
  unfold length
  split
  iterate 2 exact .bind (runs_span _) fun _ => .pure (List.nil_subset _)
  · exact .bind (runs_itemsOf _) fun _ => .pure (List.nil_subset _)
  · exact .bind (runs_entriesOf _) fun _ => .pure (List.nil_subset _)
  · exact .bind .readEditor fun _ => .pure (List.nil_subset _)
  · exact .bind (runs_windowsOf _) fun _ => .pure (List.nil_subset _)
  · exact .bind .readEditor fun _ => .pure (List.nil_subset _)
  iterate 2 exact .fail

theorem runs_item (cls : ProxyClass) (t : Target) (i : Int) :
    (item cls t i).Runs args fun r => [r] := by
  unfold item
  split
  iterate 2 exact .bind (runs_span _) fun s => s.runs_item i
  · exact runs_listItem _ i
  · refine .bind (runs_windowsOf _) fun windows => ?_
    split
    · exact .entity
    · exact .fail
  · refine .bind .readEditor fun e => ?_
    dsimp only
    split
    · exact .entity
    · exact .fail
  iterate 2 exact .fail

theorem runs_bufferByNumber (k : ObjRef) : (bufferByNumber k).Runs args fun r => [r] := by
  refine .bind (.mapError (Bridge.runs_inspect k)) fun shape => ?_
  split
  · refine .bind .readEditor fun e => ?_
    split
    · exact .entity
    · exact .fail
  · exact .fail

theorem runs_sliceOf (cls : ProxyClass) (t : Target) (bounds : Slice) :
    (sliceOf cls t bounds).Runs args fun r => [r] := by
  unfold sliceOf
  split
  iterate 2 exact .bind (runs_span _) fun s => s.runs_slice bounds
  · exact runs_listSlice _ bounds
  · refine .bind (runs_length cls t) fun len => .bind (.mapM fun i _ => runs_item cls t i)
      fun items => ?_
    exact runs_newList (by simp)

theorem runs_subscript (cls : ProxyClass) (t : Target) (k : ObjRef) :
    (subscript cls t k).Runs args fun r => [r] := by
  unfold subscript
  split
  · exact runs_bufferByNumber k
  · exact runs_dictItem _ k
  · exact .fail
  split
  · exact .fail
  refine .bind (.mapError (Bridge.runs_inspect k)) fun shape => ?_
  split
  · exact .bind (runs_length cls t) fun len => .bind (runs_position _ len) fun i => runs_item cls t i
  · exact runs_item cls t _
  · exact runs_sliceOf cls t _
  · exact .fail

theorem runs_assignItem (cls : ProxyClass) (t : Target) (i : Int) (value : Option ObjRef) :
    (assignItem cls t i value).Runs args fun _ => [] := by
  unfold assignItem
  split
  iterate 2 exact .bind (runs_span _) fun s => s.runs_assignItem i value
  · exact runs_setListItem _ i value
  iterate 2 exact .fail

theorem runs_assignSlice (cls : ProxyClass) (t : Target) (bounds : Slice)
    (value : Option ObjRef) : (assignSlice cls t bounds value).Runs args fun _ => [] := by
  refine .bind (runs_length cls t) fun len => ?_
  split
  · exact .fail
  split
  · exact runs_setListSlice _ _ _ value
  · exact .bind (runs_span t) fun s => s.runs_assignSlice _ _ value

theorem runs_assign (cls : ProxyClass) (t : Target) (k : ObjRef) (value : Option ObjRef) :
    (assign cls t k value).Runs args fun _ => [] := by
  have hposition (t : Target) (n : Int) : Act.Runs args (do
      let len ← length cls t
      let i ← if n = len && growsAtEnd t then pure len else Act.ofExcept (position n len)
      assignItem cls t i value : Act ProxyError Unit) fun _ => [] := by
    refine .bind (runs_length cls t) fun len => ?_
    dsimp only
    split
    · exact runs_assignItem cls t _ value
    · exact .bind (runs_position _ len) fun i => runs_assignItem cls t i value
  unfold assign
  split
  · exact runs_setDictItem _ k value
  · exact .fail
  iterate 3
    · refine .bind (.mapError (Bridge.runs_inspect k)) fun shape => ?_
      split
      · exact hposition _ _
      · exact runs_assignSlice cls _ _ value
      · exact .fail
  · exact .fail

theorem runs_iterate (cls : ProxyClass) (t : Target) : (iterate cls t).Runs args fun r => [r] := by
  unfold iterate
  split
  · refine .bind .readEditor fun e => .bind (.mapM fun b _ => .entity) fun items => ?_
    exact runs_newList (by simp)
  · exact .bind (runs_entriesOf _) fun _ => runs_textList _
  · exact .fail

/-! ### Calls -/

theorem runs_slot {α : Type} {a : Act ProxyError α} {kept : α → List ObjRef}
    (ha : a.Runs args kept) : (slot a).Runs args kept := by
  refine .bind_get fun b hb hargs => ?_
  rw [hb.scripted]
  exact Act.Runs.guard (.mapError ha) b hb hargs

theorem runs_anyItems (r : ObjRef) : (anyItems r).Runs args fun _ => [] := by
  refine .bind_get fun b hb hargs => ?_
  rw [hb.scripted]
  split
  · contradiction
  · exact Bridge.runs_itemsOf r b hb hargs

theorem runs_writeAll (s : Stream) (rs : List ObjRef) : (writeAll s rs).Runs args fun _ => [] := by
  induction rs with
  | nil => exact .pure (List.nil_subset _)
  | cons r rest ih =>
    exact .bind (.mapError (Convert.runs_stringOf r)) fun _ => .bind (runs_write s _) fun _ => ih

theorem runs_outputMethod (s : Stream) (name : String) (given : List ObjRef) :
    (outputMethod s name given).Runs args fun r => [r] := by
  unfold outputMethod
  dsimp only
  split
  · exact .bind (runs_arity _ _ _ _) fun _ => .bind (.mapError (Convert.runs_stringOf _)) fun _ =>
      .bind (runs_write s _) fun _ => runs_newNull
  · exact .bind (runs_arity _ _ _ _) fun _ => .bind (.mapError (runs_anyItems _)) fun _ =>
      .bind (runs_writeAll s _) fun _ => runs_newNull
  · exact .bind (runs_arity _ _ _ _) fun _ => runs_newNull
  · exact .fail_bind

section Commands

variable {command : String → Act BridgeError Unit}
  (hcommand : ∀ line, (command line).Runs [] fun _ => [])

include hcommand

theorem runs_callBuiltin (f : Foreign.Builtin) (given : List ObjRef) :
    (callBuiltin command f given).Runs args fun r => [r] := by
  refine .bind (runs_arity _ _ _ _) fun _ => .bind (.mapError (Convert.runs_stringOf _)) fun text =>
    .bind_get fun b hb hargs => ?_
  have heval : (Bridge.serve (Host.evalText b.functions text)).RunsFrom b fun _ => [] :=
    Act.Runs.serve (Host.orderly_evalText hb.orderly text) b hb hargs
  dsimp only
  split
  · exact .bind hb hargs (runs_flush b hb hargs) fun _ =>
      .bind (.mapError ((hcommand text).weaken (List.nil_subset _))) fun _ => runs_newNull
  · exact .bind hb hargs heval fun v => .mapError (Convert.runs_toForeign v)
  · exact .bind hb hargs heval fun v => .mapError (Convert.runs_toForeignBound v)

omit hcommand in
theorem runs_callMethod (receiver : Target) (cls : ProxyClass) (name : String)
    (given : List ObjRef) : (callMethod receiver cls name given).Runs given fun r => [r] := by
  unfold callMethod
  split
  iterate 2 exact runs_spanMethod _ name given
  · exact runs_dictMethod _ name given
  · exact runs_listMethod _ name given
  · exact runs_outputMethod _ name given
  all_goals exact .fail

/-- Whatever a proxy is called for is done by moves, as long as the commands that it runs are. -/
theorem runs_call (cls : ProxyClass) (t : Target) (given : List ObjRef) :
    (call command cls t given).Runs given fun r => [r] := by
  unfold call
  split
  · exact runs_callBuiltin hcommand _ given
  · exact runs_callHostFunction _ _ given
  · exact runs_callMethod _ _ _ given
  iterate 2 exact .fail

end Commands

end ScriptBridge.Proxy
