import ScriptBridge.Proofs.Bridge.Locks
import ScriptBridge.Proofs.Host.Attempts
import ScriptBridge.Proofs.Proxy.Writing

/-!
# Proxies and containers that are shut

No operation of a proxy changes a container that is shut, except that its attribute for the lock
can open it. An attempt to change what the container holds fails, and so does an attempt to change
a lock that is fixed.
-/

namespace ScriptBridge.Proxy

open Foreign (ObjRef Object ProxyClass Target Stream Slice)
open Host (Value Store LockError Editor ListRef DictRef Change)
open ScriptBridge.Convert (Container)
open Act (Mild)
open ScriptBridge.Computation

variable {ε : Type} {c : Container}

instance : Act.Reading (fun {_ _} => Act.Spares c) where
  of_adds := .of_adds
  entity := .entity
  guarded ha b hb := final_guarded _ b ▸ ha b hb

theorem guards_slot {α : Type} {a : Act ProxyError α} (ha : a.Guards c) : (slot a).Guards c := by
  refine .after .get fun b => .guard ?_
  split
  · exact .mapError ha
  · exact fun b hb => final_guarded a b ▸ ha b hb

/-! ### Lines, windows and what is current -/

namespace Span

variable (s : Span)

theorem spares_replace (lo hi : Nat) (new : List String) : (s.replace lo hi new).Spares c := by
  refine .bind (.hostWrite (Change.proceeds_replaceLines _ _ _ _)) fun _ => ?_
  unfold moveEnd
  split
  · exact .modify (fun _ => rfl) fun _ => rfl
  · exact .pure

theorem spares_assignItem (i : Int) (value : Option ObjRef) : (s.assignItem i value).Spares c := by
  refine .bind (.of_adds (s.adds_check i)) fun n => ?_
  cases value with
  | none => exact s.spares_replace _ _ _
  | some v =>
    exact .bind (.mapError (Convert.mild_lineFromForeign v)) fun _ =>
      s.spares_replace _ _ _

theorem spares_assignSlice (lo hi : Nat) (value : Option ObjRef) :
    (s.assignSlice lo hi value).Spares c := by
  cases value with
  | none => exact .bind .pure fun _ => s.spares_replace _ _ _
  | some v =>
    exact .bind (.mapError (Convert.mild_linesFromForeign v)) fun _ =>
      s.spares_replace _ _ _

theorem spares_insertAt (i : Int) (new : List String) : (s.insertAt i new).Spares c := by
  unfold insertAt
  exact Mild.guard (.bind (s.spares_replace _ _ _) fun _ => Mild.alloc)

theorem spares_append (args : List ObjRef) : (s.append args).Spares c := by
  have hposition (new : List String) : (s.insert args[1]? new).Spares c := by
    unfold Span.insert
    split
    · exact .bind (mild_intOf _) fun n => s.spares_insertAt n.toInt new
    · exact s.spares_insertAt s.size new
  refine .bind (mild_arity _ _ _ _) fun _ => ?_
  dsimp only
  split
  · exact .bind (.mapError (Convert.mild_linesFromForeign _)) fun new => hposition new
  · exact hposition []

theorem spares_range (args : List ObjRef) : (s.range args).Spares c := by
  refine .bind (mild_arity _ _ _ _) fun _ => ?_
  split
  · refine .bind (mild_intOf _) fun start => .bind (mild_intOf _) fun last =>
      Mild.guard (.bind (fun b hb => .of_same hb rfl rfl) fun r => Mild.alloc)
  · exact .fail

end Span

theorem spares_spanMethod (t : Target) (name : String) (args : List ObjRef) :
    (spanMethod t name args).Spares c := by
  refine .bind (.of_adds (adds_span t)) fun s => ?_
  split
  · exact s.spares_append args
  · exact s.spares_range args
  · exact .fail

theorem spares_setCurrentLine (value : Option ObjRef) : (setCurrentLine value).Spares c :=
  .bind (.of_adds (.bind Mild.readEditor fun _ => .bind (adds_span _) fun _ => .pure)) fun p =>
    p.1.spares_assignItem _ value

theorem spares_setCursor (id : Nat) (value : ObjRef) : (setCursor id value).Spares c := by
  refine .bind (.mapError (Mild.inspect value)) fun shape => ?_
  dsimp only
  split
  iterate 2
    · refine .bind (.mapError (Mild.itemsOf value)) fun parts => ?_
      split
      · exact .bind (mild_intOf _) fun _ => .bind (mild_intOf _) fun _ =>
          Mild.guard (.hostWrite (Change.proceeds_setCursor _ _ _))
      · exact .fail
  · exact .fail

theorem spares_setCurrent (name : String) (value : ObjRef) : (setCurrent name value).Spares c := by
  refine .bind (.mapError (Mild.inspect value)) fun shape => ?_
  split
  · split
    · exact .hostWrite (Change.proceeds_setCurrentBuffer _)
    · exact .hostWrite (Change.proceeds_setCurrentWindow _)
    · exact .hostWrite (Change.proceeds_setCurrentTab _)
    iterate 4 exact .fail
  · exact .fail

/-! ### Attributes -/

theorem spares_writeAttr (t : Target) {name : String} (hname : name ≠ "locked") (value : ObjRef) :
    (writeAttr t name value).Spares c := by
  unfold writeAttr
  split
  · exact .bind (.mapError (Convert.mild_stringOf value)) fun _ =>
      .bind (.hostWrite (Change.proceeds_renameBuffer _ _)) fun _ => .pure
  · exact .bind (spares_setCursor _ value) fun _ => .pure
  · exact .bind (.of_adds (adds_sizeOf _ value)) fun _ =>
      .bind (.hostWrite (Change.proceeds_setHeight _ _)) fun _ => .pure
  · exact .bind (.of_adds (adds_sizeOf _ value)) fun _ =>
      .bind (.hostWrite (Change.proceeds_setWidth _ _)) fun _ => .pure
  · exact absurd rfl hname
  · exact .fail
  · exact absurd rfl hname
  · exact .bind (mild_intOf value) fun _ =>
      .bind (.modify (fun _ => rfl) fun _ => rfl) fun _ => .pure
  · exact .pure

theorem spares_changeAttr (t : Target) {name : String} (hname : name ≠ "locked")
    (value : Option ObjRef) : (changeAttr t name value).Spares c := by
  unfold changeAttr
  split
  · split
    · exact .bind (spares_setCurrentLine value) fun _ => .pure
    split
    · split
      · exact .fail
      · exact .bind (spares_setCurrent name _) fun _ => .pure
    · exact .pure
  · split
    · exact .fail
    · exact spares_writeAttr t hname _

theorem spares_setAttr (cls : ProxyClass) (t : Target) {name : String} (hname : name ≠ "locked")
    (value : Option ObjRef) : (setAttr cls t name value).Spares c := by
  have hchange : Act.Spares c (do
      if !(← changeAttr t name value) then
        Act.fail (.attribute (noAttribute cls.typeName name)) : Act ProxyError Unit) := by
    refine .bind (spares_changeAttr t hname value) fun changed => ?_
    split
    · exact .fail
    · exact .pure
  unfold setAttr
  exact Mild.guard hchange

/-- The attribute for the lock can open a container, but does not change what it holds. -/
theorem guards_setLocked (cls : ProxyClass) (t : Target) (value : Option ObjRef) :
    (setAttr cls t "locked" value).Guards c := by
  have hwrite (v : ObjRef) : (writeAttr t "locked" v).Guards c := by
    have htruth : (truthOf v).Spares c := mild_truthOf v
    cases t with
    | list l =>
      refine .after htruth fun flag => .followed (.mapError (.store ?_)) fun _ _ => rfl
      exact fun _ _ h => .lockList l (lockOf flag) h
    | dict d =>
      refine .after htruth fun flag => .followed (.mapError (.store ?_)) fun _ _ => rfl
      exact fun _ _ h => .lockDict d (lockOf flag) h
    | _ => exact Act.Spares.pure.guards
  have hchange : (changeAttr t "locked" value).Guards c := by
    cases t with
    | current => exact Act.Spares.pure.guards
    | _ =>
      cases value with
      | none => exact .fail
      | some v => exact hwrite v
  unfold setAttr
  refine .guard (.followed hchange fun changed b => ?_)
  split <;> rfl

/-! ### Items -/

theorem spares_assignItem (cls : ProxyClass) (t : Target) (i : Int) (value : Option ObjRef) :
    (assignItem cls t i value).Spares c := by
  unfold assignItem
  split
  iterate 2 exact .bind (.of_adds (adds_span _)) fun s => s.spares_assignItem i value
  · exact storing_setListItem _ i value
  iterate 2 exact .fail

theorem spares_assignSlice (cls : ProxyClass) (t : Target) (bounds : Slice)
    (value : Option ObjRef) : (assignSlice cls t bounds value).Spares c := by
  refine .bind (.of_adds (adds_length cls t)) fun len => ?_
  split
  · exact .fail
  · split
    · exact storing_setListSlice _ _ _ value
    · exact .bind (.of_adds (adds_span _)) fun s => s.spares_assignSlice _ _ value

theorem spares_assign (cls : ProxyClass) (t : Target) (k : ObjRef) (value : Option ObjRef) :
    (assign cls t k value).Spares c := by
  have hposition (t : Target) (n : Int) : Act.Spares c (do
      let len ← length cls t
      let i ← if n = len && growsAtEnd t then pure len else Act.ofExcept (position n len)
      assignItem cls t i value : Act ProxyError Unit) := by
    refine .bind (.of_adds (adds_length cls t)) fun len => ?_
    dsimp only
    split
    · exact spares_assignItem cls t _ value
    · exact .bind Mild.ofExcept fun i => spares_assignItem cls t i value
  unfold assign
  split
  · exact storing_setDictItem _ k value
  · exact .fail
  iterate 3
    · refine .bind (.mapError (Mild.inspect k)) fun shape => ?_
      split
      · exact hposition _ _
      · exact spares_assignSlice cls _ _ value
      · exact .fail
  · exact .fail

/-! ### Output -/

theorem spares_write (s : Stream) (text : String) : (write s text : Act ε Unit).Spares c := by
  refine .bind .get fun b => ?_
  dsimp only
  refine .bind (.modify (fun _ => ?_) fun _ => ?_) fun _ =>
    .bind (Mild.forIn fun _ => .bind .say fun _ => .pure) fun _ => .pure
  all_goals cases s <;> rfl

theorem spares_writeAll (s : Stream) (rs : List ObjRef) : (writeAll s rs).Spares c := by
  induction rs with
  | nil => exact .pure
  | cons r rest ih =>
    exact .bind (.mapError (Convert.mild_stringOf r)) fun _ =>
      .bind (spares_write s _) fun _ => ih

theorem spares_outputMethod (s : Stream) (name : String) (args : List ObjRef) :
    (outputMethod s name args).Spares c := by
  unfold outputMethod
  dsimp only
  split
  · exact .bind (mild_arity _ _ _ _) fun _ =>
      .bind (.mapError (Convert.mild_stringOf _)) fun _ =>
        .bind (spares_write s _) fun _ => Mild.alloc
  · exact .bind (mild_arity _ _ _ _) fun _ =>
      .bind (.mapError (reading_anyItems _)) fun _ =>
        .bind (spares_writeAll s _) fun _ => Mild.alloc
  · exact .bind (mild_arity _ _ _ _) fun _ => Mild.alloc
  · exact .bind .fail fun _ => Mild.alloc

theorem spares_flush : (flush : Act ε Unit).Spares c := by
  have hshow (b : Bridge) : Act.Spares c (do
      for s in [Stream.out, Stream.err] do
        if !(pending b s).isEmpty then Bridge.say (message s (pending b s)) : Act ε Unit) := by
    refine .bind (Mild.forIn fun s => ?_) fun _ => .pure
    split
    · exact .bind .say fun _ => .pure
    · exact .pure
  intro b hb
  have hset : Bridge.Spares c b { b with pendingOut := "", pendingErr := "" } :=
    .of_same hb rfl rfl
  exact hset.trans (hshow b _ hset.respects)

/-! ### Calls -/

theorem spares_callHostFunction (name : String) (bound : List Value) (args : List ObjRef) :
    (callHostFunction name bound args).Spares c := by
  refine .bind (Mild.mapM (fun r => .mapError (Convert.mild_toHost r)) args) fun given => ?_
  intro b hb
  have hserve : (Bridge.serve (Host.callFunction b.functions name (bound ++ given))).Spares c :=
    .serve (Host.proceeds_callFunction hb.functions name _)
  exact Act.Spares.bind hserve
    (fun v => .mapError (Convert.mild_toForeignBound v)) b hb

theorem spares_callBuiltin {command : String → Act BridgeError Unit}
    (hcommand : ∀ line, (command line).Spares c) (f : Foreign.Builtin) (args : List ObjRef) :
    (callBuiltin command f args).Spares c := by
  refine .bind (mild_arity _ _ _ _) fun _ =>
    .bind (.mapError (Convert.mild_stringOf _)) fun text => ?_
  intro b hb
  have hserve : (Bridge.serve (Host.evalText b.functions text)).Spares c :=
    .serve (Host.proceeds_evalText hb.functions text)
  cases f with
  | command =>
    exact Act.Spares.bind spares_flush
      (fun _ => .bind (.mapError (hcommand text)) fun _ => Mild.alloc) b hb
  | eval =>
    exact Act.Spares.bind hserve (fun v => .mapError (Convert.mild_toForeign v)) b hb
  | bindEval =>
    exact Act.Spares.bind hserve
      (fun v => .mapError (Convert.mild_toForeignBound v)) b hb

theorem spares_callMethod (receiver : Target) (cls : ProxyClass) (name : String)
    (args : List ObjRef) : (callMethod receiver cls name args).Spares c := by
  unfold callMethod
  split
  iterate 2 exact spares_spanMethod _ name args
  · exact storing_dictMethod _ name args
  · exact storing_listMethod _ name args
  · exact spares_outputMethod _ name args
  all_goals exact .fail

/-- A call leaves a shut container as it is if command lines do. -/
theorem spares_call {command : String → Act BridgeError Unit}
    (hcommand : ∀ line, (command line).Spares c) (cls : ProxyClass) (t : Target)
    (args : List ObjRef) : (call command cls t args).Spares c := by
  unfold call
  split
  · exact spares_callBuiltin hcommand _ args
  · exact spares_callHostFunction _ _ args
  · exact spares_callMethod _ _ _ args
  iterate 2 exact .fail

/-! ### Attempts on a container that is shut -/

section Attempts

variable {α : Type} {p : Bridge → Prop}

theorem stops_guarded {a : Act ProxyError α} {b : Bridge} (ha : Stops a b) :
    Stops (guarded a) b := by
  obtain ⟨stop, b', h⟩ := ha
  cases stop with
  | error e => exact ⟨.error (raised e), b', by rw [guarded, h]⟩
  | crash => exact ⟨.error internalError, b', by rw [guarded, h]⟩

theorem stops_slot {a : Act ProxyError α} {b : Bridge} (ha : Stops a b) : Stops (slot a) b := by
  refine .next rfl (Act.StopsIn.guard (p := (· = b)) ?_ b rfl)
  split
  · rintro _ rfl
    exact ha.mapError
  · rintro _ rfl
    exact stops_guarded ha

theorem stopsIn_store {f : Store → Except LockError Store}
    (hf : ∀ b, p b → ∃ e, f b.editor.store = .error e) : (store f).StopsIn p := by
  refine .mapError fun b hb => .next rfl ?_
  obtain ⟨e, he⟩ := hf b hb
  rw [he]
  exact .throw

/-- What is looked at first leaves a container shut. -/
theorem stopsIn_adds_bind {β : Type} {a : Act ε α} {f : α → Act ε β} (ha : a.Adds)
    (hf : ∀ x, (f x).StopsIn (Bridge.IsShut c)) : (a >>= f).StopsIn (Bridge.IsShut c) :=
  .bind (fun _ hb => ha.isShut hb) hf

variable {l : ListRef} {d : DictRef}

theorem stopsIn_writeList (change : List Value → Except LockError (List Value)) :
    (store (·.writeList l change)).StopsIn (Bridge.IsShut (.list l)) :=
  stopsIn_store fun _ hb => ⟨_, Container.writeList_shut hb change⟩

theorem stopsIn_writeDict (change : List (String × Value) → List (String × Value)) :
    (store (·.writeDict d change)).StopsIn (Bridge.IsShut (.dict d)) :=
  stopsIn_store fun _ hb => ⟨_, Container.writeDict_shut hb change⟩

theorem stopsIn_setListItem (i : Int) (value : Option ObjRef) :
    (setListItem l i value).StopsIn (Bridge.IsShut (.list l)) := by
  unfold setListItem
  refine .guard ?_
  cases value with
  | none => exact stopsIn_adds_bind (mild_itemsOf l) fun _ => .guard (stopsIn_writeList _)
  | some v =>
    exact stopsIn_adds_bind (.mapError (Convert.mild_toHost v)) fun _ => stopsIn_writeList _

theorem stopsIn_setListSlice (lo hi : Nat) (value : Option ObjRef) :
    (setListSlice l lo hi value).StopsIn (Bridge.IsShut (.list l)) := by
  cases value with
  | none => exact stopsIn_adds_bind .pure fun _ => stopsIn_writeList _
  | some v => exact stopsIn_adds_bind (mild_valuesOf v) fun _ => stopsIn_writeList _

theorem stopsIn_extend (args : List ObjRef) :
    (listMethod l "extend" args).StopsIn (Bridge.IsShut (.list l)) :=
  stopsIn_adds_bind (mild_arity _ _ _ _) fun _ =>
    stopsIn_adds_bind (mild_valuesOf _) fun _ => .followed (stopsIn_writeList _) _

theorem stopsIn_setDictItem (k : ObjRef) (value : Option ObjRef) :
    (setDictItem d k value).StopsIn (Bridge.IsShut (.dict d)) := by
  refine stopsIn_adds_bind (.mapError (Convert.mild_keyOf k)) fun key => ?_
  cases value with
  | none => exact stopsIn_adds_bind .get fun _ => .followed (stopsIn_writeDict _) _
  | some v =>
    exact stopsIn_adds_bind (.mapError (Convert.mild_toHost v)) fun _ => stopsIn_writeDict _

/-- Entries that are put into a shut dictionary are refused with the first of them. -/
theorem stopsIn_insertAll {entries : List (String × Value)} (h : entries ≠ []) :
    (insertAll d entries).StopsIn (Bridge.IsShut (.dict d)) := by
  cases entries with
  | nil => exact absurd rfl h
  | cons e rest => exact .followed (stopsIn_writeDict _) _

/-- A mapping that has entries for a shut dictionary is refused. -/
theorem stops_updateDict {other : ObjRef} {b b' : Bridge} {source : DictRef}
    {skipped : List (String × ConvertError)} (hb : b.IsShut (.dict d))
    (hmapping : Convert.toHostWith true other b = .ok (.dict source, skipped) b')
    (hentries : (b'.editor.store.dict source).entries ≠ []) :
    Stops (updateDict d other) b := by
  have hshut := Act.Adds.isShut_ok (Convert.mild_toHostWith true other) hb hmapping
  have hfirst : (Convert.toHostWith true other).mapError ProxyError.convert b =
      .ok (.dict source, skipped) b' := by
    rw [Act.mapError, hmapping]
  exact .next hfirst (.next rfl (stopsIn_insertAll hentries b' hshut).bind)

/-- The target of the proxies of a container. -/
def targetOf : Container → Target
  | .list l => .list l
  | .dict d => .dict d

variable (cls : ProxyClass) (c : Container)

theorem stopsIn_assignItem (i : Int) (value : Option ObjRef) :
    (assignItem cls (targetOf c) i value).StopsIn (Bridge.IsShut c) := by
  cases c with
  | list l => exact stopsIn_setListItem i value
  | dict d => exact .fail

theorem stopsIn_assign (k : ObjRef) (value : Option ObjRef) :
    (assign cls (targetOf c) k value).StopsIn (Bridge.IsShut c) := by
  cases c with
  | dict d => exact stopsIn_setDictItem k value
  | list l =>
    refine stopsIn_adds_bind (.mapError (Mild.inspect k)) fun shape => ?_
    split
    · refine stopsIn_adds_bind (adds_length cls _) fun len => ?_
      dsimp only
      split
      · exact stopsIn_assignItem cls (.list l) len value
      · exact stopsIn_adds_bind Mild.ofExcept fun i => stopsIn_assignItem cls (.list l) i value
    · refine stopsIn_adds_bind (adds_length cls _) fun len => ?_
      split
      · exact .fail
      · exact stopsIn_setListSlice _ _ value
    · exact .fail

/-- A function of the host that adds to a shut list fails. -/
theorem stops_callHostFunction {b b' : Bridge} {l : ListRef} {bound given : List Value}
    {args : List ObjRef} {v : Value} (hb : b.IsShut (.list l))
    (hname : b.functions "add" = none)
    (hgiven : args.mapM (fun r => (Convert.toHost r).mapError ProxyError.convert) b = .ok given b')
    (hvalues : bound ++ given = [.list l, v]) : Stops (callHostFunction "add" bound args) b := by
  have hadds : (args.mapM fun r => (Convert.toHost r).mapError ProxyError.convert).Adds :=
    Mild.mapM (fun r => .mapError (Convert.mild_toHost r)) args
  have hshut := hadds.isShut_ok hb hgiven
  have hfirst := hadds b
  rw [hgiven] at hfirst
  refine .next hgiven (.next rfl (.bind (Bridge.stops_serve ?_)))
  rw [hvalues]
  exact Host.stops_add (hfirst.functions ▸ hname) v hshut

variable {command : String → Act BridgeError Unit} {r : ObjRef} {text : String} {b b' b'' : Bridge}

/-- An expression that a script gives fails. -/
theorem stops_callEval {f : Foreign.Builtin} (hf : f ≠ .command)
    (htext : Convert.stringOf r b = .ok text b')
    (h : Stops (Host.evalText b'.functions text) b'.editor) :
    Stops (callBuiltin command f [r]) b := by
  have hargument : (Convert.stringOf r).mapError ProxyError.convert b = .ok text b' := by
    rw [Act.mapError, htext]
  refine .next rfl (.next hargument (.next rfl ?_))
  cases f with
  | command => exact absurd rfl hf
  | eval | bindEval => exact .bind (Bridge.stops_serve h)

/-- A command line that a script gives fails. -/
theorem stops_callCommand (htext : Convert.stringOf r b = .ok text b')
    (hflush : (flush : Act ProxyError Unit) b' = .ok () b'') (h : Stops (command text) b'') :
    Stops (callBuiltin command .command [r]) b := by
  have hargument : (Convert.stringOf r).mapError ProxyError.convert b = .ok text b' := by
    rw [Act.mapError, htext]
  exact .next rfl (.next hargument (.next rfl (.next hflush h.mapError.bind)))

/-- The lock of a fixed container cannot be assigned. -/
theorem stopsIn_setLocked (value : Option ObjRef) :
    (setAttr cls (targetOf c) "locked" value).StopsIn (Bridge.IsFixed c) := by
  have hwrite (v : ObjRef) :
      (writeAttr (targetOf c) "locked" v).StopsIn (Bridge.IsFixed c) := by
    have htruth (b : Bridge) (hb : b.IsFixed c) : (final (truthOf v b)).IsFixed c :=
      Act.Adds.isFixed (mild_truthOf v) hb
    cases c with
    | list l =>
      exact .bind htruth fun flag => .followed
        (stopsIn_store fun _ hb => ⟨_, Container.lockList_fixed hb _⟩) _
    | dict d =>
      exact .bind htruth fun flag => .followed
        (stopsIn_store fun _ hb => ⟨_, Container.lockDict_fixed hb _⟩) _
  have hchange : (changeAttr (targetOf c) "locked" value).StopsIn (Bridge.IsFixed c) := by
    cases value with
    | none => cases c <;> exact .fail
    | some v => cases c <;> exact hwrite v
  unfold setAttr
  exact .guard (.followed hchange _)

end Attempts

end ScriptBridge.Proxy
