import ScriptBridge.Proofs.Bridge.Session
import ScriptBridge.Proofs.Script.Building
import ScriptBridge.Script.Run

/-!
# Statements run by moves

What each kind of statement does, as long as the source texts that it runs do so.
-/

namespace ScriptBridge.Script

open Foreign (ObjRef Object ProxyClass Target)
open Host (Value Store LockError Change)
open ScriptBridge.Computation

variable {ε α : Type} {args : List ObjRef} {kept : α → List ObjRef} {b : Bridge}

/-! ### Objects -/

/-- A computation whose result is an object that a statement produces. -/
theorem runs_produced {a : Act ε ObjRef} (h : a.Runs args fun r => [r]) :
    Act.Runs args (do return .object (← a) : Act ε Produced) Produced.objects :=
  .bind h fun _ => .pure (List.subset_append_left _ _)

/-- A computation after which a statement answers without an object. -/
theorem runs_answered {β : Type} {a : Act ε β} {kept : β → List ObjRef} (h : a.Runs args kept)
    {f : β → Produced} (hf : ∀ x, (f x).objects = []) :
    Act.Runs args (do return f (← a) : Act ε Produced) Produced.objects :=
  .bind h fun x => .pure (hf x ▸ List.nil_subset _)

theorem runs_reprOf (r : ObjRef) : (reprOf r).Runs args fun _ => [] := by
  refine .bind runs_kind fun k => ?_
  split
  · exact Bridge.runs_textOf r
  · exact .bind .get fun _ => .pure (List.nil_subset _)

theorem runs_printTexts (texts : List String) : (printTexts texts).Runs args fun _ => [] :=
  .bind (runs_readStream .out) fun _ => .bind (.forIn fun _ _ =>
    .bind (Proxy.runs_slot (Proxy.runs_write .out _)) fun _ => .pure (List.nil_subset _)) fun _ =>
    .pure (List.nil_subset _)

theorem runs_newList {items : List ObjRef} (h : items ⊆ args) :
    (newList items : Act ε Produced).Runs args Produced.objects :=
  runs_produced (.alloc (.of_not_proxy trivial rfl) h)

/-- The items that iteration goes through, in a new list. -/
theorem runs_iterateToList (r : ObjRef) :
    (iterate r >>= newList).Runs [r] Produced.objects := by
  refine fun b hb hargs => Bridge.Reaches.bind hb (gives_iterate r hb (hargs List.mem_cons_self)) ?_
  intro items b' _ hb' _ hitems
  have hnew : (Bridge.alloc (.list items) : Act ForeignError ObjRef).RunsFrom b' fun r => [r] :=
    .alloc (.of_not_proxy trivial rfl) hitems
  exact Act.RunsFrom.bind hb' (List.nil_subset _) hnew fun r =>
    .pure (List.subset_append_left _ _)

/-- An entry of a new dictionary with text keys. -/
theorem runs_textEntry (key : String) {v : ObjRef} (hv : v ∈ args) :
    Act.Runs args (do return (← Bridge.alloc (.str key), v) : Act ε (ObjRef × ObjRef))
      fun e => [e.1, e.2] :=
  .bind (Proxy.runs_newText key) fun k => .pure (by simp [hv])

/-- Forgetting a variable. -/
theorem runs_forget (name : String) : (modify fun b => { b with interpreter :=
    { b.interpreter with names := b.interpreter.names.filter (·.1 ≠ name) } } :
    Act ε PUnit).Runs args fun _ => [] := by
  refine fun b _ _ => .modify (.roots rfl fun s hs => .inl ?_) (List.Subset.refl _)
  rw [Bridge.mem_roots] at hs ⊢
  refine hs.imp_right fun hs => hs.imp_left fun hs => ?_
  exact List.map_subset _ (List.filter_subset_self _) hs

/-- A list changes in place; its items come from what it had and what is in use. -/
theorem runs_changeBy {command : String → Act BridgeError Unit} (r : ObjRef) (method : String)
    (given : List ObjRef) {f : List ObjRef → List ObjRef} (hr : r ∈ args)
    (hf : ∀ items, f items ⊆ items ++ args) :
    (changeBy command r method given f).Runs args fun _ => [] := by
  refine .bind_object fun b hb hargs => bind_kind hb ?_
  cases hx : b.objects.get r with
  | list items =>
    refine runsFrom_setList hx fun s hs => ?_
    rcases List.mem_append.mp (hf items hs) with hs | hs
    · refine hb.alive_of_mem_references (hb.alive_of_mem_held (hargs hr)) ?_
      rw [hx]
      exact hs
    · exact hb.alive_of_mem_held (hargs hs)
  | _ => exact .pure (List.nil_subset _)

section Objects

variable {command : String → Act BridgeError Unit}
  (hcommand : ∀ line, (command line).Runs [] fun _ => [])

include hcommand

theorem runs_performObject (a : ObjectAction) :
    (performObject command a).Runs args Produced.objects := by
  cases a with
  | build v => exact runs_produced (runs_build v)
  | drop name =>
    exact .bind .get fun _ => .bind (runs_forget name) fun _ => .pure (List.nil_subset _)
  | getAttr o name =>
    exact .bind (runs_build o) fun r => runs_produced ((runs_getAttr r name).weaken (by simp))
  | setAttr o v name =>
    exact .bind (runs_build o) fun r => .bind (runs_build v) fun v =>
      .bind (runs_setAttr r name _) fun _ => .pure (List.nil_subset _)
  | deleteAttr o name =>
    exact .bind (runs_build o) fun r => .bind (runs_setAttr r name _) fun _ =>
      .pure (List.nil_subset _)
  | getItem o k =>
    exact .bind (runs_build o) fun r => .bind (runs_build k) fun k =>
      runs_produced ((runs_getItem r k).weaken (by simp))
  | setItem o k v =>
    exact .bind (runs_build o) fun r => .bind (runs_build k) fun k => .bind (runs_build v) fun v =>
      .bind ((runs_setItem r k (some v)).weaken (by simp)) fun _ => .pure (List.nil_subset _)
  | deleteItem o k =>
    exact .bind (runs_build o) fun r => .bind (runs_build k) fun k =>
      .bind ((runs_setItem r k none).weaken (by simp)) fun _ => .pure (List.nil_subset _)
  | length o =>
    exact .bind (runs_build o) fun r => runs_answered (runs_length r) fun _ => rfl
  | call o given keywords =>
    exact .bind (runs_build o) fun r => .bind (runs_buildAll given) fun given =>
      .bind (runs_buildNamed keywords) fun keywords =>
      runs_produced ((runs_call hcommand r given keywords).weaken (by simp))
  | callMethod o given keywords name =>
    exact .bind (runs_build o) fun r => .bind (runs_buildAll given) fun given =>
      .bind (runs_buildNamed keywords) fun keywords =>
      .bind ((runs_getAttr r name).weaken (by simp)) fun method =>
      runs_produced ((runs_call hcommand method given keywords).weaken fun s hs => by simp [hs])
  | iterate o =>
    exact .bind (runs_build o) fun r => (runs_iterateToList r).weaken (by simp)
  | contains o v =>
    exact .bind (runs_build o) fun r => .bind (runs_build v) fun v =>
      runs_answered ((runs_contains r v).weaken (by simp)) fun _ => rfl
  | repr o =>
    exact .bind (runs_build o) fun r => runs_answered (runs_reprOf r) fun _ => rfl
  | text o =>
    exact .bind (runs_build o) fun r => runs_answered (Bridge.runs_textOf r) fun _ => rfl
  | typeName o =>
    exact .bind (runs_build o) fun r => runs_answered (Bridge.runs_typeName r) fun _ => rfl
  | debug o | inspect o | validity o =>
    exact .bind (runs_build o) fun r => .bind .get fun _ => .pure (List.nil_subset _)
  | textDict entries =>
    refine .bind (runs_buildNamed entries) fun entries => .bind (.mapM fun e he =>
      runs_textEntry e.1 ?_) fun entries => runs_produced (.alloc (.of_not_proxy trivial rfl) ?_)
    · exact List.mem_append_left _ (List.mem_map_of_mem he)
    · exact List.subset_append_left _ _
  | identical a b =>
    exact .bind (runs_build a) fun r => .bind (runs_build b) fun s => .bind .get fun _ =>
      .pure (List.nil_subset _)
  | push o v =>
    refine .bind (runs_build o) fun r => .bind (runs_build v) fun v =>
      .bind (runs_changeBy r "append" [v] (by simp) fun items => ?_) fun _ => .pure ?_
    · exact List.append_subset.mpr ⟨List.subset_append_left _ _, by simp⟩
    · simp [Produced.objects]
  | clear o =>
    exact .bind (runs_build o) fun r => .bind (runs_changeBy r "clear" [] (by simp)
      fun items => List.nil_subset _) fun _ => .pure (List.nil_subset _)
  | print text =>
    exact .bind (runs_printTexts _) fun _ => .pure (List.nil_subset _)
  | printObject o =>
    exact .bind (runs_build o) fun r => .bind (Bridge.runs_textOf r) fun _ =>
      .bind (runs_printTexts _) fun _ => .pure (List.nil_subset _)
  | arguments =>
    exact .bind (Proxy.runs_newText "") fun r => runs_newList (by simp)

omit hcommand in
theorem runs_proxyOf (r : ObjRef) : (proxyOf r).Runs args fun _ => [] := by
  refine .bind (runs_object r) fun x => ?_
  split
  · exact .pure (List.nil_subset _)
  · exact .crash

omit hcommand in
theorem mapError_eq_ok {δ : Type} {a : Act ε α} {f : ε → δ} {x : α} {b' : Bridge}
    (h : a.mapError f b = .ok x b') : a b = .ok x b' := by
  unfold Act.mapError at h
  split at h
  · cases h
    assumption
  · cases h

omit hcommand in
/-- The target of a proxy fits its class. -/
theorem fits_of_proxyOf {r : ObjRef} {p : ProxyClass × Target} {b' : Bridge} (hb : b.Sound)
    (h : proxyOf r b = .ok p b') : p.1.fits p.2 = true := by
  have hscripted := hb.objects r
  have hobject : (Bridge.object r : Act ProxyError Object) b = .ok (b.objects.get r) b := rfl
  rw [proxyOf, bind_apply, hobject] at h
  cases hx : b.objects.get r with
  | proxy cls t =>
    rw [hx] at h hscripted
    cases h
    exact hscripted
  | _ =>
    rw [hx] at h
    cases h

/-- Each slot of a proxy that a statement calls. -/
theorem runs_performSlot (a : SlotAction) :
    (performSlot command a).Runs args Produced.objects := by
  cases a with
  | item o i =>
    exact .bind (.mapError (runs_build o)) fun r => .bind (.mapError (runs_proxyOf r)) fun p =>
      runs_produced (.mapError (Proxy.runs_item _ _ i))
  | assignItem o i v =>
    exact .bind (.mapError (runs_build o)) fun r => .bind (.mapError (runs_proxyOf r)) fun p =>
      .bind (.mapError (runs_buildOption v)) fun v =>
      .bind (.mapError (Proxy.runs_assignItem _ _ i v)) fun _ => .pure (List.nil_subset _)
  | iterate o =>
    exact .bind (.mapError (runs_build o)) fun r => .bind (.mapError (runs_proxyOf r)) fun p =>
      runs_produced (.mapError (Proxy.runs_iterate _ _))
  | getAttr o name =>
    refine .bind (.mapError (runs_build o)) fun r b hb hargs => ?_
    refine Bridge.Reaches.bind hb (Act.Runs.mapError (runs_proxyOf r) b hb hargs) ?_
    rintro ⟨cls, t⟩ b' h hb' hheld -
    have hattr : (Proxy.getAttr? cls t name).Runs ([r] ++ args) fun v => v.toList :=
      Proxy.runs_getAttr? (fits_of_proxyOf hb (mapError_eq_ok h)) name
    refine Act.RunsFrom.bind hb' (List.Subset.trans hargs hheld)
      (Act.Runs.mapError hattr b' hb' (List.Subset.trans hargs hheld)) ?_
    intro found
    cases found with
    | none => exact .pure (List.nil_subset _)
    | some v => exact .pure (List.subset_append_left _ _)
  | setAttr o v name =>
    exact .bind (.mapError (runs_build o)) fun r => .bind (.mapError (runs_proxyOf r)) fun p =>
      .bind (.mapError (runs_buildOption v)) fun v =>
      .bind (.mapError (Proxy.runs_setAttr _ _ name v)) fun _ => .pure (List.nil_subset _)
  | length o =>
    exact .bind (.mapError (runs_build o)) fun r => .bind (.mapError (runs_proxyOf r)) fun p =>
      runs_answered (.mapError (Proxy.runs_length _ _)) fun _ => rfl
  | subscript o k =>
    exact .bind (.mapError (runs_build o)) fun r => .bind (.mapError (runs_proxyOf r)) fun p =>
      .bind (.mapError (runs_build k)) fun k =>
      runs_produced (.mapError (Proxy.runs_subscript _ _ k))
  | call o given =>
    exact .bind (.mapError (runs_build o)) fun r => .bind (.mapError (runs_proxyOf r)) fun p =>
      .bind (.mapError (runs_buildAll given)) fun given =>
      runs_produced (.mapError ((Proxy.runs_call hcommand _ _ given).weaken (by simp)))

end Objects

/-! ### The interpreter and conversions -/

theorem runs_construct (c : Constructor) : (construct c).Runs args fun r => [r] := by
  cases c with
  | null | bool b | int n | float x | str s =>
    exact .alloc (.of_not_proxy trivial rfl) (List.nil_subset _)
  | list items =>
    exact .bind (runs_buildAll items) fun rs =>
      .alloc (.of_not_proxy trivial rfl) (List.subset_append_left _ _)
  | tuple items =>
    exact .bind (runs_buildAll items) fun rs =>
      .alloc (.of_not_proxy trivial rfl) (List.subset_append_left _ _)
  | dict entries =>
    refine .bind .get fun b => .bind (runs_buildNamed entries) fun entries => .bind
      (.mapM fun e he => Convert.runs_newEntry e.1 ?_) fun entries => ?_
    · exact List.mem_append_left _ (List.mem_map_of_mem he)
    · exact .alloc (.of_not_proxy trivial rfl) (List.subset_append_left _ _)

theorem runs_demandStarted : demandStarted.Runs args fun _ => [] := by
  refine .bind .get fun b => ?_
  dsimp only
  split
  · exact .fail
  · exact .pure (List.nil_subset _)

theorem runs_link (library : String) : (link library).Runs args fun _ => [] := by
  refine .bind_get fun b hb hargs => ?_
  cases b.interpreter.loader.bind b.processBinding library [] with
  | error e => exact .fail
  | ok binding =>
    refine .bind_eq rfl (.bind hb hargs (.set_frame rfl rfl rfl) fun _ => ?_)
    exact .pure (List.nil_subset _)

/-- A module that is in use is installed. -/
theorem runs_setModule (name : String) {r : ObjRef} (hr : r ∈ args) :
    (modify fun b => { b with interpreter := { b.interpreter with
      modules := assign name r b.interpreter.modules } } : Act ε PUnit).Runs args
      fun _ => [] := by
  refine fun b hb hargs => .modify (.roots rfl fun s hs => ?_) (List.Subset.refl _)
  rw [Bridge.mem_roots] at hs ⊢
  rcases hs with hs | hs | hs | hs
  · exact .inl (.inl hs)
  · exact .inl (.inr (.inl hs))
  · obtain ⟨e, he, rfl⟩ := List.mem_map.mp hs
    rcases List.mem_cons.mp he with rfl | he
    · exact .inl (.inl (hargs hr))
    · exact .inl (.inr (.inr (.inl (List.mem_map_of_mem (List.mem_of_mem_filter he)))))
  · exact .inl (.inr (.inr (.inr hs)))

section Engine

variable {engine : Engine} (hengine : engine.Runs)

include hengine

theorem runs_performRuntime (a : RuntimeAction) :
    (performRuntime engine a).Runs args Produced.objects := by
  cases a with
  | construct c => exact .bind runs_demandStarted fun _ => runs_produced (runs_construct c)
  | weaken o =>
    exact .bind .get fun _ => .bind (runs_build o) fun _ => .bind .get fun _ =>
      .pure (List.nil_subset _)
  | isInitialized | name | history | locks | linked =>
    exact .bind .get fun _ => .pure (List.nil_subset _)
  | probe =>
    intro b hb hargs
    obtain ⟨bound, hbound⟩ := Session.attempt_bind ForeignError hb
    refine .bind_eq hbound ?_
    cases bound <;> exact .pure (List.nil_subset _)
  | items o =>
    exact .bind (runs_build o) fun r => .bind (Proxy.runs_anyItems r) fun _ => .bind .get fun _ =>
      .pure (List.nil_subset _)
  | pairs o =>
    exact .bind (runs_build o) fun r => .bind (Bridge.runs_pairsOf r) fun _ => .bind .get fun _ =>
      .pure (List.nil_subset _)
  | run code =>
    exact .bind ((hengine.run code).weaken (List.nil_subset _)) fun _ =>
      .pure (List.nil_subset _)
  | eval code => exact runs_produced ((hengine.eval code).weaken (List.nil_subset _))
  | install name =>
    exact .bind runs_demandStarted fun _ => .bind (.alloc (.of_not_proxy trivial rfl)
      (List.nil_subset _)) fun r => .bind (runs_setModule name (by simp)) fun _ =>
      .pure (List.nil_subset _)
  | link library =>
    refine .bind (.attempt (runs_link library)) fun bound => ?_
    split <;> exact .pure (List.nil_subset _)

omit hengine in
theorem runs_performConversion (a : ConversionAction) :
    (performConversion a).Runs args Produced.objects := by
  cases a with
  | copy h =>
    exact .bind (runs_buildHost h) fun v => runs_produced (.mapError (Convert.runs_toForeign v))
  | bind h =>
    exact .bind (runs_buildHost h) fun v =>
      runs_produced (.mapError (Convert.runs_toForeignBound v))
  | strict o =>
    exact .bind (.mapError (runs_build o)) fun r =>
      runs_answered (.mapError (Convert.runs_toHost r)) fun _ => rfl
  | toHost o skip =>
    exact .bind (.mapError (runs_build o)) fun r =>
      .bind (.mapError (Convert.runs_toHostWith skip r)) fun _ => .bind .get fun _ =>
      .pure (List.nil_subset _)
  | key o =>
    exact .bind (.mapError (runs_build o)) fun r =>
      runs_answered (.mapError (Convert.runs_keyOf r)) fun _ => rfl
  | string o =>
    exact .bind (.mapError (runs_build o)) fun r =>
      runs_answered (.mapError (Convert.runs_stringOf r)) fun _ => rfl
  | lineToForeign text => exact runs_produced (.mapError (Convert.runs_lineToForeign text))
  | lineFromForeign o =>
    exact .bind (.mapError (runs_build o)) fun r =>
      runs_answered (.mapError (Convert.runs_lineFromForeign r)) fun _ => rfl
  | linesFromForeign o =>
    exact .bind (.mapError (runs_build o)) fun r =>
      runs_answered (.mapError (Convert.runs_linesFromForeign r)) fun _ => rfl
  | linesToForeign lines => exact runs_produced (.mapError (Convert.runs_linesToForeign lines))

theorem runs_performSession (a : SessionAction) :
    (performSession engine a).Runs args Produced.objects := by
  cases a with
  | execute code range =>
    exact .bind (Session.runs_execute hengine code range) fun _ => .pure (List.nil_subset _)
  | evaluate code => exact runs_answered (Session.runs_evaluate hengine code) fun _ => rfl
  | command line =>
    exact .bind (Session.runs_exCommand hengine line) fun _ => .pure (List.nil_subset _)
  | source text =>
    exact .bind (Session.runs_source hengine text) fun _ => .pure (List.nil_subset _)
  | runFile path range =>
    exact .bind (Session.runs_runFile hengine path range) fun _ => .pure (List.nil_subset _)
  | ensureReady => exact .bind Session.runs_ensureReady fun _ => .pure (List.nil_subset _)
  | probe => exact runs_answered Session.runs_probe fun _ => rfl
  | lifecycle | mode | liveProxies => exact .bind .get fun _ => .pure (List.nil_subset _)
  | shutdown => exact .bind Session.runs_shutdown fun _ => .pure (List.nil_subset _)
  | sameEditor => exact .pure (List.nil_subset _)

end Engine

/-! ### The host -/

/-- What the host does with the functions that the user defined. -/
theorem runs_hosted {β : Type} {kept : β → List ObjRef}
    {a : Host.UserFunctions → Host.Eval α} {f : α → Act Failure β}
    (ha : ∀ functions, functions.Orderly → Host.Orderly (a functions))
    (hf : ∀ x, (f x).Runs args kept) :
    Act.Runs args (do
      let functions := (← get).functions
      let x ← Bridge.host (a functions)
      f x : Act Failure β) kept := by
  refine .bind_get fun b hb hargs => ?_
  have hhost : (Bridge.host (a b.functions)).Runs args fun _ => [] := .host (ha _ hb.orderly)
  exact .bind hb hargs (Act.Runs.mapError hhost b hb hargs) hf

theorem runs_performService (a : ServiceAction) :
    (performService a).Runs args Produced.objects := by
  cases a with
  | command line =>
    exact runs_hosted (a := fun f => Host.runCommand f line)
      (fun _ hf => Host.orderly_runCommand hf line) fun _ => .pure (List.nil_subset _)
  | eval text =>
    exact runs_hosted (a := fun f => Host.evalText f text)
      (fun _ hf => Host.orderly_evalText hf text) fun _ => .pure (List.nil_subset _)
  | call name given =>
    exact .bind (runs_buildHostAll given) fun given =>
      runs_hosted (a := fun f => Host.callFunction f name given)
        (fun _ hf => Host.orderly_callFunction hf name given) fun _ => .pure (List.nil_subset _)
  | resolve line =>
    have hline : Act.Runs args (Act.ofExcept (Command.Line.parse line)) fun _ => [] :=
      .ofExcept fun _ _ => List.nil_subset _
    refine .bind (.mapError hline) fun line => ?_
    split
    · exact .pure (List.nil_subset _)
    · rename_i r _
      have hrange (e : Host.Editor) : Act.Runs ([] ++ ([] ++ args)) (Act.ofExcept (r.resolve e))
          fun _ => [] := .ofExcept fun _ _ => List.nil_subset _
      exact .bind .get fun b => .bind (.mapError (hrange b.editor)) fun _ =>
        .pure (List.nil_subset _)

theorem runs_changing {c : Change Unit} (hc : Host.Proceeds Host.Editor.Moves c) :
    (changing c).Runs args Produced.objects :=
  .bind (.mapError (.change hc.orderly)) fun _ => .pure (List.nil_subset _)

theorem runs_creating {c : Change Nat} (hc : Host.Proceeds Host.Editor.Moves c) :
    (creating c).Runs args Produced.objects :=
  .bind (.mapError (.change hc.orderly)) fun _ => .pure (List.nil_subset _)

theorem runs_sayToEditor (m : Host.Message) :
    (modifyEditor (·.say m) : Act ε Unit).Runs args fun _ => [] := by
  refine fun b hb _ => .modify (.edit (.single (.say m))) ?_
  rw [hb.held_withEditor]
  exact List.Subset.refl _

theorem runs_performEditor (a : EditorAction) : (performEditor a).Runs args Produced.objects := by
  cases a with
  | state | numbers id | messages | debug => exact .bind .get fun _ => .pure (List.nil_subset _)
  | destroyed =>
    exact .bind_get fun b hb hargs => .bind hb hargs (.set_frame rfl rfl rfl) fun _ =>
      .pure (List.nil_subset _)
  | addBuffer name lines => exact runs_creating (Change.proceeds_addBuffer name lines)
  | rename id name => exact runs_changing (Change.proceeds_renameBuffer id name)
  | replace id lo hi lines => exact runs_changing (Change.proceeds_replaceLines id lo hi lines)
  | insert id after lines => exact runs_changing (Change.proceeds_replaceLines id after after lines)
  | wipe id => exact runs_changing (Change.proceeds_wipeBuffer id)
  | split id => exact runs_creating (Change.proceeds_splitWindow id)
  | closeWindow id => exact runs_changing (Change.proceeds_closeWindow id)
  | newTab id => exact runs_creating (Change.proceeds_newTab id)
  | closeTab id => exact runs_changing (Change.proceeds_closeTab id)
  | setCursor id row col => exact runs_changing (Change.proceeds_setCursor id row col)
  | setWindow id => exact runs_changing (Change.proceeds_setCurrentWindow id)
  | setTab id => exact runs_changing (Change.proceeds_setCurrentTab id)
  | setBuffer id => exact runs_changing (Change.proceeds_setCurrentBuffer id)
  | say text => exact .bind (runs_sayToEditor _) fun _ => .pure (List.nil_subset _)
  | sayError text => exact .bind (runs_sayToEditor _) fun _ => .pure (List.nil_subset _)
  | fresh => exact .pure (List.nil_subset _)

/-! ### Host values -/

theorem runs_theList (h : HostTerm) : (theList h).Runs args fun _ => [] := by
  refine .bind (runs_buildHost h) fun v => ?_
  split
  · exact .pure (List.nil_subset _)
  · exact .crash

theorem runs_theDict (h : HostTerm) : (theDict h).Runs args fun _ => [] := by
  refine .bind (runs_buildHost h) fun v => ?_
  split
  · exact .pure (List.nil_subset _)
  · exact .crash

theorem runs_storing {f : Store → Except LockError Store} (hf : ∀ s s', f s = .ok s' → s.Step s') :
    (storing f).Runs args Produced.objects :=
  .bind (.store hf) fun _ => .pure (List.nil_subset _)

theorem runs_oldValue (v : Option Value) :
    (pure (oldValue v) : Act ε Produced).Runs args Produced.objects := by
  cases v <;> exact .pure (List.nil_subset _)

theorem runs_performValue (a : ValueAction) : (performValue a).Runs args Produced.objects := by
  cases a with
  | debugContents h | rebuild h | build h | readings h =>
    exact .bind (runs_buildHost h) fun _ => .bind .get fun _ => .pure (List.nil_subset _)
  | equal a b =>
    exact .bind (runs_buildHost a) fun _ => .bind (runs_buildHost b) fun _ => .bind .get fun _ =>
      .pure (List.nil_subset _)
  | same a b =>
    exact .bind (runs_buildHost a) fun _ => .bind (runs_buildHost b) fun _ =>
      .pure (List.nil_subset _)
  | arguments h given =>
    refine .bind (runs_buildHost h) fun v => .bind (runs_buildHostAll given) fun _ =>
      .bind .get fun _ => ?_
    dsimp only
    split
    · exact .pure (List.nil_subset _)
    · exact .crash
  | setLock h lock =>
    refine .bind (runs_buildHost h) fun v => ?_
    split
    · exact runs_storing fun _ _ h => .lockList _ _ h
    · exact runs_storing fun _ _ h => .lockDict _ _ h
    · exact .crash
  | lock h | length h =>
    refine .bind (runs_buildHost h) fun v => .bind .get fun _ => ?_
    dsimp only
    split
    · exact .pure (List.nil_subset _)
    · exact .pure (List.nil_subset _)
    · exact .crash
  | push h v =>
    exact .bind (runs_theList h) fun _ => .bind (runs_buildHost v) fun _ =>
      runs_storing fun _ _ h => .writeList _ _ h
  | getItem h i =>
    exact .bind (runs_theList h) fun _ => .bind .get fun _ =>
      runs_oldValue _
  | setItem h i v =>
    exact .bind (runs_theList h) fun _ => .bind (runs_buildHost v) fun _ =>
      runs_storing fun _ _ h => .writeList _ _ h
  | removeItem h i =>
    exact .bind (runs_theList h) fun _ => .bind .get fun _ =>
      .bind (.store fun _ _ h => .writeList _ _ h) fun _ =>
      runs_oldValue _
  | splice h lo hi vs | extend h vs =>
    exact .bind (runs_theList h) fun _ => .bind (runs_buildHostAll vs) fun _ =>
      runs_storing fun _ _ h => .writeList _ _ h
  | getEntry h key | keys h =>
    exact .bind (runs_theDict h) fun _ => .bind .get fun _ => .pure (List.nil_subset _)
  | setEntry h key v =>
    exact .bind (runs_theDict h) fun _ => .bind (runs_buildHost v) fun _ => .bind .get fun _ =>
      .bind (.store fun _ _ h => .writeDict _ _ h) fun _ =>
      runs_oldValue _
  | removeEntry h key =>
    exact .bind (runs_theDict h) fun _ => .bind .get fun _ =>
      .bind (.store fun _ _ h => .writeDict _ _ h) fun _ =>
      runs_oldValue _
  | setVariable scope key h =>
    exact .bind (runs_buildHost h) fun _ => .bind .get fun _ =>
      .bind (.store fun _ _ h => .writeDict _ _ h) fun _ => .pure (List.nil_subset _)
  | scope scope => exact .bind .get fun _ => .pure (List.nil_subset _)

end ScriptBridge.Script
