import ScriptBridge.Proofs.Proxy.Stays
import ScriptBridge.Script.Run

/-!
# Operations of scripts leave the frame as it is

What scripts read, write and build, what they convert, and what they do to the editor and to host
values. Only the scripted interpreter is treated.
-/

namespace ScriptBridge.Script

open Foreign (ObjRef Object ProxyClass Target)
open Host (Value Store LockError Change)
open ScriptBridge.Computation

variable {ε α : Type} {b : Bridge}

/-! ### Kinds of interpreters -/

theorem stays_kind : (kind : Act ε Foreign.InterpreterKind).Stays := .bind .get fun _ => .pure

theorem stays_object (r : ObjRef) : (Bridge.object r : Act ε Object).Stays :=
  .bind .get fun _ => .pure

/-- The interpreter is the scripted one. -/
theorem staysFrom_bind_kind {f : Foreign.InterpreterKind → Act ε α} (hb : b.Ordinary)
    (hf : (f .scripted).Stays) : (kind >>= f).StaysFrom b := by
  have h := hf b hb
  rw [← hb.scripted] at h
  exact h

theorem stays_bind_kind {f : Foreign.InterpreterKind → Act ε α} (hf : (f .scripted).Stays) :
    (kind >>= f).Stays :=
  fun _ hb => staysFrom_bind_kind hb hf

/-! ### Failures -/

theorem stays_refuse (r : ObjRef) (what : String) : (refuse r what : Act ForeignError α).Stays :=
  .bind (Bridge.stays_qualifiedType r) fun _ => .fail

theorem stays_missingAttribute (r : ObjRef) (name : String) :
    (missingAttribute r name : Act ForeignError α).Stays := by
  refine .bind (stays_object r) fun x => .bind stays_kind fun k => ?_
  dsimp only
  split
  iterate 2 exact .fail
  · exact .bind (Bridge.stays_qualifiedType r) fun _ => .fail

/-- An object that was read is used. -/
theorem stays_hold (r : ObjRef) : Act.Stays (do Bridge.hold r; pure r : Act ε ObjRef) :=
  .bind .hold fun _ => .pure

/-! ### Attributes -/

theorem stays_getAttr (r : ObjRef) (name : String) : (getAttr r name).Stays := by
  refine .bind_object fun b hb => staysFrom_bind_kind hb ?_
  cases b.objects.get r with
  | proxy cls t =>
    refine .bind (Proxy.stays_slot (Proxy.stays_getAttr? cls t name)) fun found => ?_
    cases found with
    | some v => exact .pure
    | none => exact stays_missingAttribute r name
  | module m members =>
    dsimp only
    split
    · exact stays_hold _
    · exact stays_missingAttribute r name
  | _ => exact stays_missingAttribute r name

theorem stays_setAttr (r : ObjRef) (name : String) (value : Option ObjRef) :
    (setAttr r name value).Stays := by
  refine .bind_object fun b hb => staysFrom_bind_kind hb ?_
  cases b.objects.get r with
  | proxy cls t => exact Proxy.stays_slot (Proxy.stays_setAttr cls t name value)
  | _ => exact .bind (Bridge.stays_typeName r) fun _ => .fail

/-! ### Items -/

theorem stays_demandIndex (i : Int) : (demandIndex i).Stays := by
  refine .bind stays_kind fun k => ?_
  split
  · exact .fail
  · exact .pure

theorem stays_sequenceItem (x : Object) (items : List ObjRef) (k : ObjRef) :
    (sequenceItem x items k).Stays := by
  refine .bind_get fun b hb => ?_
  rw [hb.scripted]
  cases intKey? b k with
  | some i =>
    refine Act.Stays.bind (stays_demandIndex i) (fun _ => ?_) b hb
    dsimp only
    split
    · exact stays_hold _
    · exact .fail
  | none =>
    dsimp only
    split
    iterate 2 contradiction
    · exact .refl hb
    · contradiction

theorem stays_dictItem (entries : List (ObjRef × ObjRef)) (k : ObjRef) :
    (dictItem entries k).Stays := by
  refine stays_bind_kind (.bind .get fun b => ?_)
  split
  · exact stays_hold _
  · refine .bind_get fun b hb => ?_
    rw [hb.scripted]
    exact .refl hb

theorem stays_getItem (r k : ObjRef) : (getItem r k).Stays := by
  refine .bind_object fun b hb => staysFrom_bind_kind hb ?_
  have hordinary := hb.objects r
  cases hr : b.objects.get r with
  | proxy cls t => exact Proxy.stays_slot (Proxy.stays_subscript cls t k)
  | dict entries => exact stays_dictItem entries k
  | mirror c =>
    rw [hr] at hordinary
    exact hordinary.elim
  | list items | tuple items | sequence items => exact stays_sequenceItem _ items k
  | _ => exact stays_refuse r _

theorem stays_length (r : ObjRef) : (length r).Stays := by
  refine .bind_object fun b hb => staysFrom_bind_kind hb ?_
  have hordinary := hb.objects r
  cases hr : b.objects.get r with
  | proxy cls t => exact Proxy.stays_slot (Proxy.stays_length cls t)
  | mirror c | view sort d =>
    rw [hr] at hordinary
    exact hordinary.elim
  | str s | halved places | bytes bs | dict entries | mapping entries | list items | tuple items
    | sequence items => exact .pure
  | _ => exact .bind (Bridge.stays_qualifiedType r) fun _ => .fail

/-! ### Iteration -/

theorem stays_iterate (r : ObjRef) : (iterate r).Stays := by
  refine .bind_object fun b hb => staysFrom_bind_kind hb ?_
  have hordinary := hb.objects r
  cases hr : b.objects.get r with
  | proxy cls t =>
    dsimp only
    split
    · exact .bind (Proxy.stays_slot (Proxy.stays_iterate cls t)) fun list =>
        .bind (stays_object list) fun _ => .pure
    · exact .bind (Proxy.stays_slot (Proxy.stays_length cls t)) fun n =>
        .mapM (fun (i : Nat) => Proxy.stays_slot (Proxy.stays_item cls t i)) _
  | mirror c | view sort d | iterator typeName rest =>
    rw [hr] at hordinary
    exact hordinary.elim
  | dict entries | list items | tuple items | sequence items => exact .pure
  | _ => exact stays_refuse r _

theorem stays_demandHashable (r : ObjRef) : (demandHashable r).Stays := by
  refine .bind .get fun b => ?_
  split
  · exact .bind (Bridge.stays_qualifiedType _) fun _ => .fail
  · exact .pure

theorem stays_bytesContain (bs : List UInt8) (v : ObjRef) : (bytesContain bs v).Stays := by
  refine .bind .get fun b => ?_
  split
  · exact .pure
  · split
    · exact .pure
    · exact .fail
  · exact .bind (Bridge.stays_qualifiedType v) fun _ => .fail

theorem stays_iterationContains (r v : ObjRef) : (iterationContains r v).Stays := by
  refine .bind (.attempt (stays_iterate r)) fun items => ?_
  split
  · exact .bind .get fun _ => .pure
  · exact .bind (Bridge.stays_qualifiedType r) fun _ => .fail
  · exact .fail

theorem stays_contains (r v : ObjRef) : (contains r v).Stays := by
  refine .bind .get fun b => ?_
  split
  · exact .bind (stays_demandHashable v) fun _ => .pure
  · exact .pure
  · exact .bind (stays_demandHashable v) fun _ => .pure
  · exact stays_bytesContain _ v
  · split
    · exact .pure
    · exact stays_iterationContains r v
  · split
    · exact .pure
    · exact .bind (Bridge.stays_qualifiedType v) fun _ => .fail
    · exact stays_iterationContains r v

/-! ### Changes -/

theorem stays_setList (r : ObjRef) (items : List ObjRef) :
    (Bridge.setObject r (.list items) : Act ε Unit).Stays := .setObject r trivial

theorem stays_setDict (r : ObjRef) (entries : List (ObjRef × ObjRef)) :
    (Bridge.setObject r (.dict entries) : Act ε Unit).Stays := .setObject r trivial

theorem stays_setListItem (r : ObjRef) (items : List ObjRef) (k : ObjRef) (value : Option ObjRef) :
    (setListItem r items k value).Stays := by
  refine .bind_get fun b hb => ?_
  rw [hb.scripted]
  cases intKey? b k with
  | none => exact .refl hb
  | some i =>
    refine Act.Stays.bind (stays_demandIndex i) (fun _ => .guard ?_) b hb
    cases value with
    | none => exact stays_setList r _
    | some v => exact stays_setList r _

theorem stays_setDictItem (r : ObjRef) (entries : List (ObjRef × ObjRef)) (k : ObjRef)
    (value : Option ObjRef) : (setDictItem r entries k value).Stays := by
  refine .bind_get fun b hb => ?_
  rw [hb.scripted]
  cases value with
  | none => exact stays_setDict r _ b hb
  | some v => exact stays_setDict r _ b hb

theorem stays_refuseItem (r k : ObjRef) (deleting : Bool) : (refuseItem r k deleting).Stays := by
  refine .bind .get fun b => ?_
  dsimp only
  generalize (if mayHavePositions (b.objects.get r) then intKey? b k else none) = position
  cases position with
  | none => split <;> exact stays_refuse r _
  | some i =>
    refine .bind (stays_demandIndex i) fun _ => ?_
    split <;> exact stays_refuse r _

theorem stays_setItem (r k : ObjRef) (value : Option ObjRef) : (setItem r k value).Stays := by
  refine .bind_object fun b hb => staysFrom_bind_kind hb ?_
  cases b.objects.get r with
  | proxy cls t => exact Proxy.stays_slot (Proxy.stays_assign cls t k value)
  | dict entries => exact stays_setDictItem r entries k value
  | list items => exact stays_setListItem r items k value
  | _ => exact stays_refuseItem r k _

/-! ### What has a name -/

theorem stays_readVariable (name : String) : (readVariable name).Stays := by
  refine .bind .get fun b => ?_
  split
  · exact stays_hold _
  · exact .fail

theorem stays_readModule (name : String) : (readModule name).Stays := by
  refine .bind .get fun b => ?_
  split
  · exact stays_hold _
  · exact .fail

theorem stays_readStream (s : Foreign.Stream) : (readStream s).Stays := by
  refine .bind .get fun b => ?_
  dsimp only
  split
  · exact stays_hold _
  · exact .fail

/-! ### New objects -/

theorem stays_newSlice (start stop step : Option Int) : (newSlice start stop step).Stays := by
  refine .bind .get fun b => ?_
  split
  · exact .alloc trivial
  · exact .bind .ofExcept fun _ => .alloc trivial

theorem stays_newDict (entries : List (ObjRef × ObjRef)) : (newDict entries).Stays := by
  have hnew : (Bridge.alloc (.dict entries) : Act ForeignError ObjRef).Stays := .alloc trivial
  refine .bind_get fun b hb => ?_
  rw [hb.scripted]
  exact hnew b hb

theorem stays_buildConstant {x : Object} (hx : x.Ordinary) : (buildConstant x).Stays := by
  have hnew : (Bridge.alloc x : Act ForeignError ObjRef).Stays := .alloc hx
  refine .bind_get fun b hb => ?_
  dsimp only
  rw [hb.scripted]
  exact hnew b hb

theorem stays_newInt (n : Int) : (Bridge.alloc (.int n) : Act ε ObjRef).Stays := .alloc trivial

/-- Three numbers, as the items of another object. -/
theorem stays_newTriple :
    (Bridge.allocAll [.int 1, .int 2, .int 3] : Act ε (List ObjRef)).Stays := by
  have hnew (ns : List Int) : (Bridge.allocAll (ns.map .int) : Act ε (List ObjRef)).Stays := by
    unfold Bridge.allocAll
    rw [List.mapM_map]
    exact .mapM stays_newInt ns
  exact hnew [1, 2, 3]

mutual

theorem stays_build (t : Term) : (build t).Stays := by
  cases t with
  | null | bool x | int n | str s | halved places =>
    rw [build]
    exact stays_buildConstant trivial
  | float x | bytes x | counting n | unsized =>
    rw [build]
    exact .alloc trivial
  | list items | sequence items =>
    rw [build]
    exact .confine (.bind (stays_buildAll items) fun _ => .alloc trivial)
  | tuple items =>
    rw [build]
    refine .confine (.bind (stays_buildAll items) fun rs => ?_)
    dsimp only
    split
    · exact stays_buildConstant trivial
    · exact .alloc trivial
  | dict entries =>
    rw [build]
    exact .confine (.bind (stays_buildPairs entries) stays_newDict)
  | mapping entries =>
    rw [build]
    exact .confine (.bind (stays_buildPairs entries) fun _ => .alloc trivial)
  | slice start stop step =>
    rw [build]
    exact stays_newSlice start stop step
  | plain typeName text =>
    rw [build]
    exact .bind .get fun _ => .alloc trivial
  | set item =>
    rw [build]
    exact .confine (.bind (stays_build item) fun r => .bind (stays_demandHashable r) fun _ =>
      .alloc trivial)
  | triples =>
    rw [build]
    exact .confine (.bind stays_newTriple fun _ => .alloc trivial)
  | var name =>
    rw [build]
    exact stays_readVariable name
  | member name =>
    rw [build]
    exact .confine (.bind (stays_readModule "vim") fun r => stays_getAttr r name)
  | module name =>
    rw [build]
    exact stays_readModule name
  | stream s =>
    rw [build]
    exact stays_readStream s
  | attr o name =>
    rw [build]
    exact .confine (.bind (stays_build o) fun r => stays_getAttr r name)
  | item o k =>
    rw [build]
    exact .confine (.bind (stays_build o) fun r => .bind (stays_build k) fun key =>
      stays_getItem r key)

theorem stays_buildAll (ts : List Term) : (buildAll ts).Stays := by
  cases ts with
  | nil => rw [buildAll]; exact .pure
  | cons t ts =>
    rw [buildAll]
    exact .bind (stays_build t) fun _ => .bind (stays_buildAll ts) fun _ => .pure

theorem stays_buildPairs (ts : List (Term × Term)) : (buildPairs ts).Stays := by
  cases ts with
  | nil => rw [buildPairs]; exact .pure
  | cons t rest =>
    obtain ⟨k, v⟩ := t
    rw [buildPairs]
    exact .bind (stays_build k) fun _ => .bind (stays_build v) fun _ =>
      .bind (stays_buildPairs rest) fun _ => .pure

end

theorem stays_buildOption (t : Option Term) : (buildOption t).Stays := by
  cases t with
  | none => exact .pure
  | some t => exact .map (stays_build t)

theorem stays_buildNamed (entries : List (String × Term)) : (buildNamed entries).Stays :=
  .mapM (fun (e : String × Term) => .bind (stays_build e.2) fun _ => .pure) entries

/-! ### Host values -/

mutual

theorem stays_buildHost (h : HostTerm) : (buildHost h : Act ε Value).Stays := by
  cases h with
  | null | number n | float x | str s =>
    rw [buildHost]
    exact .pure
  | list items =>
    rw [buildHost]
    exact .bind (stays_buildHostAll items) fun _ => .bind .newList fun _ => .pure
  | dict entries =>
    rw [buildHost]
    exact .bind (stays_buildHostEntries entries) fun _ => .bind .newDict fun _ => .pure
  | func name bound =>
    rw [buildHost]
    exact .bind (stays_buildHostAll bound) fun _ => .pure
  | var name =>
    rw [buildHost]
    exact .bind .get fun _ => .pure
  | scope s =>
    rw [buildHost]
    exact .bind .newDict fun _ => .pure

theorem stays_buildHostAll (hs : List HostTerm) :
    (buildHostAll hs : Act ε (List Value)).Stays := by
  cases hs with
  | nil => rw [buildHostAll]; exact .pure
  | cons h hs =>
    rw [buildHostAll]
    exact .bind (stays_buildHost h) fun _ => .bind (stays_buildHostAll hs) fun _ => .pure

theorem stays_buildHostEntries (hs : List (String × HostTerm)) :
    (buildHostEntries hs : Act ε (List (String × Value))).Stays := by
  cases hs with
  | nil => rw [buildHostEntries]; exact .pure
  | cons h hs =>
    obtain ⟨k, t⟩ := h
    rw [buildHostEntries]
    exact .bind (stays_buildHost t) fun _ => .bind (stays_buildHostEntries hs) fun _ => .pure

end

/-! ### Statements -/

/-- An operation after which a statement answers. -/
theorem stays_answered {β : Type} {a : Act ε β} (ha : a.Stays) {f : β → Produced} :
    Act.Stays (do return f (← a) : Act ε Produced) :=
  .bind ha fun _ => .pure

/-- Keeping what was produced changes variables or names of host values. -/
theorem stays_keep (p : Produced) (name : String) : (p.keep name : Act ε Unit).Stays := by
  have hvariable (r : ObjRef) : (setVariable name r : Act ε Unit).Stays :=
    .modify (fun _ => rfl) fun _ => rfl
  refine .bind_get fun b hb => ?_
  rw [hb.scripted]
  cases p with
  | object r => exact hvariable r b hb
  | value v | shown v a => exact .of_objects hb rfl rfl
  | answer a => exact .refl hb

theorem stays_reprOf (r : ObjRef) : (reprOf r).Stays := by
  refine .bind stays_kind fun k => ?_
  split
  · exact Bridge.stays_textOf r
  · exact .bind .get fun _ => .pure

theorem stays_printTexts (texts : List String) : (printTexts texts).Stays :=
  .bind (stays_readStream .out) fun _ => .bind (.forIn fun _ =>
    .bind (Proxy.stays_slot (Proxy.stays_write .out _)) fun _ => .pure) fun _ => .pure

theorem stays_newList (items : List ObjRef) : (newList items : Act ε Produced).Stays :=
  .bind (.alloc trivial) fun _ => .pure

/-- In the scripted interpreter only lists change in place, and no method is called for it. -/
theorem stays_changeBy {command : String → Act BridgeError Unit} (r : ObjRef) (method : String)
    (given : List ObjRef) (f : List ObjRef → List ObjRef) :
    (changeBy command r method given f).Stays := by
  refine .bind_object fun b hb => staysFrom_bind_kind hb ?_
  cases b.objects.get r with
  | list items => exact stays_setList r _
  | _ => exact .pure

theorem stays_proxyOf (r : ObjRef) : (proxyOf r).Stays := by
  refine .bind (stays_object r) fun x => ?_
  split
  · exact .pure
  · exact .crash

theorem stays_construct (c : Constructor) : (construct c).Stays := by
  cases c with
  | null | bool b | int n | float x | str s => exact .alloc trivial
  | list items | tuple items => exact .bind (stays_buildAll items) fun _ => .alloc trivial
  | dict entries =>
    exact .bind .get fun _ => .bind (stays_buildNamed entries) fun entries =>
      .bind (.mapM (fun e => Convert.stays_newEntry _ e.1 e.2) entries) fun _ => .alloc trivial

theorem stays_demandStarted : demandStarted.Stays := by
  refine .bind .get fun b => ?_
  dsimp only
  split
  · exact .fail
  · exact .pure

theorem stays_link (library : String) : (link library).Stays := by
  have hset (binding : Library.Binding) : Act.Stays (do
      set { ← get with processBinding := some binding }
      pure binding : Act LinkError Library.Binding) := fun _ hb => .of_objects hb rfl rfl
  refine .bind_get fun b hb => ?_
  cases b.interpreter.loader.bind b.processBinding library [] with
  | error e => exact .refl hb
  | ok binding => exact hset binding b hb

theorem stays_performConversion (a : ConversionAction) : (performConversion a).Stays := by
  cases a with
  | copy h =>
    exact .bind (stays_buildHost h) fun v =>
      stays_answered (.mapError (Convert.stays_toForeign v))
  | bind h =>
    exact .bind (stays_buildHost h) fun v =>
      stays_answered (.mapError (Convert.stays_toForeignBound v))
  | strict o =>
    exact .bind (.mapError (stays_build o)) fun r =>
      stays_answered (.mapError (Convert.stays_toHost r))
  | toHost o skip =>
    exact .bind (.mapError (stays_build o)) fun r =>
      .bind (.mapError (Convert.stays_toHostWith skip r)) fun _ => .bind .get fun _ => .pure
  | key o =>
    exact .bind (.mapError (stays_build o)) fun r =>
      stays_answered (.mapError (Convert.stays_keyOf r))
  | string o =>
    exact .bind (.mapError (stays_build o)) fun r =>
      stays_answered (.mapError (Convert.stays_stringOf r))
  | lineToForeign text => exact stays_answered (.mapError (Convert.stays_lineToForeign text))
  | lineFromForeign o =>
    exact .bind (.mapError (stays_build o)) fun r =>
      stays_answered (.mapError (Convert.stays_lineFromForeign r))
  | linesFromForeign o =>
    exact .bind (.mapError (stays_build o)) fun r =>
      stays_answered (.mapError (Convert.stays_linesFromForeign r))
  | linesToForeign lines => exact stays_answered (.mapError (Convert.stays_linesToForeign lines))

theorem stays_performService (a : ServiceAction) : (performService a).Stays := by
  cases a with
  | command line =>
    exact .bind .get fun _ => .bind (.mapError .host) fun _ => .pure
  | eval text => exact .bind .get fun _ => stays_answered (.mapError .host)
  | call name given =>
    exact .bind (stays_buildHostAll given) fun _ => .bind .get fun _ =>
      stays_answered (.mapError .host)
  | resolve line =>
    refine .bind (.mapError .ofExcept) fun line => ?_
    split
    · exact .pure
    · exact .bind .get fun _ => .bind (.mapError .ofExcept) fun _ => .pure

theorem stays_changing (c : Change Unit) : (changing c).Stays :=
  .bind (.mapError .change) fun _ => .pure

theorem stays_creating (c : Change Nat) : (creating c).Stays :=
  .bind (.mapError .change) fun _ => .pure

theorem stays_modifyEditor (f : Host.Editor → Host.Editor) :
    (modifyEditor f : Act ε Unit).Stays :=
  fun _ hb => Bridge.stays_withEditor hb _

theorem stays_performEditor (a : EditorAction) : (performEditor a).Stays := by
  cases a with
  | state | numbers id | messages | debug => exact .bind .get fun _ => .pure
  | destroyed => exact fun _ hb => .of_objects hb rfl rfl
  | addBuffer | split | newTab => exact stays_creating _
  | rename | replace | insert | wipe | closeWindow | closeTab | setCursor | setWindow | setTab
    | setBuffer => exact stays_changing _
  | say | sayError => exact .bind (stays_modifyEditor _) fun _ => .pure
  | fresh => exact .pure

theorem stays_theList (h : HostTerm) : (theList h).Stays := by
  refine .bind (stays_buildHost h) fun v => ?_
  split
  · exact .pure
  · exact .crash

theorem stays_theDict (h : HostTerm) : (theDict h).Stays := by
  refine .bind (stays_buildHost h) fun v => ?_
  split
  · exact .pure
  · exact .crash

theorem stays_storing (f : Store → Except LockError Store) : (storing f).Stays :=
  .bind .store fun _ => .pure

theorem stays_performValue (a : ValueAction) : (performValue a).Stays := by
  cases a with
  | debugContents h | rebuild h | build h | readings h =>
    exact .bind (stays_buildHost h) fun _ => .bind .get fun _ => .pure
  | equal a b =>
    exact .bind (stays_buildHost a) fun _ => .bind (stays_buildHost b) fun _ => .bind .get fun _ =>
      .pure
  | same a b => exact .bind (stays_buildHost a) fun _ => .bind (stays_buildHost b) fun _ => .pure
  | arguments h given =>
    refine .bind (stays_buildHost h) fun v => .bind (stays_buildHostAll given) fun _ =>
      .bind .get fun _ => ?_
    dsimp only
    split
    · exact .pure
    · exact .crash
  | setLock h lock =>
    refine .bind (stays_buildHost h) fun v => ?_
    split
    iterate 2 exact stays_storing _
    · exact .crash
  | lock h | length h =>
    refine .bind (stays_buildHost h) fun v => .bind .get fun _ => ?_
    dsimp only
    split
    iterate 2 exact .pure
    · exact .crash
  | push h v | setItem h i v =>
    exact .bind (stays_theList h) fun _ => .bind (stays_buildHost v) fun _ => stays_storing _
  | getItem h i => exact .bind (stays_theList h) fun _ => .bind .get fun _ => .pure
  | removeItem h i =>
    exact .bind (stays_theList h) fun _ => .bind .get fun _ => .bind .store fun _ => .pure
  | splice h lo hi vs | extend h vs =>
    exact .bind (stays_theList h) fun _ => .bind (stays_buildHostAll vs) fun _ => stays_storing _
  | getEntry h key | keys h => exact .bind (stays_theDict h) fun _ => .bind .get fun _ => .pure
  | setEntry h key v =>
    exact .bind (stays_theDict h) fun _ => .bind (stays_buildHost v) fun _ => .bind .get fun _ =>
      .bind .store fun _ => .pure
  | removeEntry h key =>
    exact .bind (stays_theDict h) fun _ => .bind .get fun _ => .bind .store fun _ => .pure
  | setVariable scope key h =>
    exact .bind (stays_buildHost h) fun _ => .bind .get fun _ => .bind .store fun _ => .pure
  | scope scope => exact .bind .get fun _ => .pure

end ScriptBridge.Script
