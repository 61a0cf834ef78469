import ScriptBridge.Proofs.Script.Objects

/-!
# Building what terms describe runs by moves

Of the objects that a term needs, only the one that it describes stays in use.
-/

namespace ScriptBridge.Script

open Foreign (ObjRef Object ProxyClass Target)
open Host (Value)
open ScriptBridge.Computation

variable {ε α : Type} {args : List ObjRef} {kept : α → List ObjRef} {b : Bridge}

/-! ### What has a name -/

theorem runs_readVariable (name : String) : (readVariable name).Runs args fun r => [r] := by
  refine .bind_get fun b hb _ => ?_
  cases h : b.interpreter.names.lookup name with
  | none => exact .fail
  | some r =>
    refine .hold (hb.alive_of_mem_roots (Bridge.mem_roots.mpr (.inr (.inl ?_))))
    exact List.mem_map_of_mem (f := (·.2)) (Lookup.mem_of_lookup h)

theorem runs_readModule (name : String) : (readModule name).Runs args fun r => [r] := by
  refine .bind_get fun b hb _ => ?_
  cases h : b.interpreter.modules.lookup name with
  | none => exact .fail
  | some r =>
    refine .hold (hb.alive_of_mem_roots (Bridge.mem_roots.mpr (.inr (.inr (.inl ?_)))))
    exact List.mem_map_of_mem (f := (·.2)) (Lookup.mem_of_lookup h)

theorem runs_readStream (s : Foreign.Stream) : (readStream s).Runs args fun r => [r] := by
  refine .bind_get fun b hb _ => ?_
  cases s with
  | out =>
    dsimp only
    cases h : b.interpreter.stdout with
    | none => exact .fail
    | some r =>
      exact .hold (hb.alive_of_mem_roots (Bridge.mem_roots.mpr (.inr (.inr (.inr (.inl h))))))
  | err =>
    dsimp only
    cases h : b.interpreter.stderr with
    | none => exact .fail
    | some r =>
      refine .hold (hb.alive_of_mem_roots (Bridge.mem_roots.mpr ?_))
      exact .inr (.inr (.inr (.inr (.inl h))))

/-! ### New objects -/

theorem runs_newSlice (start stop step : Option Int) :
    (newSlice start stop step).Runs args fun r => [r] := by
  refine .bind .get fun b => ?_
  split
  · exact .alloc (.of_not_proxy trivial rfl) (List.nil_subset _)
  · have hunpack : (Act.ofExcept (Foreign.Slice.unpack start stop step)).Runs ([] ++ args)
        fun _ => [] := .ofExcept fun _ _ => List.nil_subset _
    exact .bind hunpack fun s => .alloc (.of_not_proxy trivial rfl) (List.nil_subset _)

theorem runs_newDict (entries : List (ObjRef × ObjRef))
    (hentries : (Object.dict entries).references ⊆ args) :
    (newDict entries).Runs args fun r => [r] := by
  refine .bind_get fun b hb hargs => ?_
  rw [hb.scripted]
  have hnew : (Object.dict entries).Plain := .of_not_proxy trivial rfl
  exact Act.Runs.alloc hnew hentries b hb hargs

theorem runs_buildConstant {x : Object} (hx : x.Plain) (hreferences : x.references ⊆ args) :
    (buildConstant x).Runs args fun r => [r] := by
  refine .bind_get fun b hb hargs => ?_
  dsimp only
  rw [hb.scripted]
  exact Act.Runs.alloc hx hreferences b hb hargs

theorem runs_newInts (ns : List Int) :
    (Bridge.allocAll (ns.map .int) : Act ε (List ObjRef)).Runs args fun rs => rs := by
  have hnew {args : List ObjRef} : ∀ x ∈ ns.map Object.int,
      (Bridge.alloc x : Act ε ObjRef).Runs args fun r => [r] := by
    intro x hx
    obtain ⟨n, -, rfl⟩ := List.mem_map.mp hx
    exact .alloc (.of_not_proxy trivial rfl) (List.nil_subset _)
  exact (Act.Runs.mapM hnew).mono (List.Subset.refl _) (by simp)

/-- Only the result of building stays in use. -/
theorem runs_kept {a : Act ForeignError ObjRef} (ha : a.Runs args fun r => [r]) :
    (build.kept a).Runs args fun r => [r] :=
  .confine ha fun _ => List.Subset.refl _

mutual

theorem runs_build {args : List ObjRef} (t : Term) : (build t).Runs args fun r => [r] := by
  cases t with
  | null | bool x | int n | str s | halved places =>
    rw [build]
    exact runs_buildConstant (.of_not_proxy trivial rfl) (List.nil_subset _)
  | float x | bytes x =>
    rw [build]
    exact .alloc (.of_not_proxy trivial rfl) (List.nil_subset _)
  | list items =>
    rw [build]
    exact runs_kept (.bind (runs_buildAll items) fun rs =>
      .alloc (.of_not_proxy trivial rfl) (List.subset_append_left _ _))
  | sequence items =>
    rw [build]
    exact runs_kept (.bind (runs_buildAll items) fun rs =>
      .alloc (.of_not_proxy trivial rfl) (List.subset_append_left _ _))
  | tuple items =>
    rw [build]
    refine runs_kept (.bind (runs_buildAll items) fun rs => ?_)
    dsimp only
    split
    · exact runs_buildConstant (.of_not_proxy trivial rfl) (List.subset_append_left _ _)
    · exact .alloc (.of_not_proxy trivial rfl) (List.subset_append_left _ _)
  | dict entries =>
    rw [build]
    exact runs_kept (.bind (runs_buildPairs entries) fun es =>
      runs_newDict es (List.subset_append_left _ _))
  | mapping entries =>
    rw [build]
    exact runs_kept (.bind (runs_buildPairs entries) fun es =>
      .alloc (.of_not_proxy trivial rfl) (List.subset_append_left _ _))
  | slice start stop step =>
    rw [build]
    exact runs_newSlice start stop step
  | plain typeName text =>
    rw [build]
    exact .bind .get fun _ => .alloc (.of_not_proxy trivial rfl) (List.nil_subset _)
  | set item =>
    rw [build]
    exact runs_kept (.bind (runs_build item) fun r => .bind (runs_demandHashable r) fun _ =>
      .alloc (.of_not_proxy trivial rfl) (by simp [Object.references]))
  | counting n | unsized =>
    rw [build]
    exact .alloc (.of_not_proxy trivial rfl) (List.nil_subset _)
  | triples =>
    rw [build]
    refine runs_kept (.bind (runs_newInts [1, 2, 3]) fun rs => ?_)
    exact .alloc (.of_not_proxy trivial rfl) (List.subset_append_left _ _)
  | var name =>
    rw [build]
    exact runs_readVariable name
  | member name =>
    rw [build]
    exact runs_kept (.bind (runs_readModule "vim") fun r => (runs_getAttr r name).weaken (by simp))
  | module name =>
    rw [build]
    exact runs_readModule name
  | stream s =>
    rw [build]
    exact runs_readStream s
  | attr o name =>
    rw [build]
    exact runs_kept (.bind (runs_build o) fun r => (runs_getAttr r name).weaken (by simp))
  | item o k =>
    rw [build]
    exact runs_kept (.bind (runs_build o) fun r => .bind (runs_build k) fun key =>
      (runs_getItem r key).weaken (by simp))

theorem runs_buildAll {args : List ObjRef} (ts : List Term) :
    (buildAll ts).Runs args fun rs => rs := by
  cases ts with
  | nil => rw [buildAll]; exact .pure (List.nil_subset _)
  | cons t ts =>
    rw [buildAll]
    refine .bind (runs_build t) fun r => .bind (runs_buildAll ts) fun rs => .pure ?_
    simp

theorem runs_buildPairs {args : List ObjRef} (ts : List (Term × Term)) :
    (buildPairs ts).Runs args fun es => (Object.dict es).references := by
  cases ts with
  | nil => rw [buildPairs]; exact .pure (List.nil_subset _)
  | cons t rest =>
    obtain ⟨k, v⟩ := t
    rw [buildPairs]
    refine .bind (runs_build k) fun k => .bind (runs_build v) fun v =>
      .bind (runs_buildPairs rest) fun es => .pure ?_
    simp [Object.references]

end

theorem runs_buildOption (t : Option Term) : (buildOption t).Runs args fun r => r.toList := by
  cases t with
  | none => exact .pure (List.nil_subset _)
  | some t => exact .map (runs_build t) fun _ => List.Subset.refl _

theorem runs_buildNamed (entries : List (String × Term)) :
    (buildNamed entries).Runs args fun es => es.map (·.2) := by
  have hentry {args : List ObjRef} (e : String × Term) : Act.Runs args (do
      return (e.1, ← build e.2) : Act ForeignError (String × ObjRef)) fun e => [e.2] :=
    .bind (runs_build e.2) fun r => .pure (List.subset_append_left _ _)
  refine (Act.Runs.mapM fun e _ => hentry e).mono (List.Subset.refl _) fun es => ?_
  simp [List.map_eq_flatMap]

/-! ### Host values -/

mutual

theorem runs_buildHost {args : List ObjRef} (h : HostTerm) :
    (buildHost h : Act ε Value).Runs args fun _ => [] := by
  cases h with
  | null | number n | float x | str s =>
    rw [buildHost]
    exact .pure (List.nil_subset _)
  | list items =>
    rw [buildHost]
    exact .bind (runs_buildHostAll items) fun _ => .bind .newList fun _ =>
      .pure (List.nil_subset _)
  | dict entries =>
    rw [buildHost]
    exact .bind (runs_buildHostEntries entries) fun _ => .bind .newDict fun _ =>
      .pure (List.nil_subset _)
  | func name bound =>
    rw [buildHost]
    exact .bind (runs_buildHostAll bound) fun _ => .pure (List.nil_subset _)
  | var name =>
    rw [buildHost]
    exact .bind .get fun _ => .pure (List.nil_subset _)
  | scope s =>
    rw [buildHost]
    exact .bind .newDict fun _ => .pure (List.nil_subset _)

theorem runs_buildHostAll {args : List ObjRef} (hs : List HostTerm) :
    (buildHostAll hs : Act ε (List Value)).Runs args fun _ => [] := by
  cases hs with
  | nil => rw [buildHostAll]; exact .pure (List.nil_subset _)
  | cons h hs =>
    rw [buildHostAll]
    exact .bind (runs_buildHost h) fun _ => .bind (runs_buildHostAll hs) fun _ =>
      .pure (List.nil_subset _)

theorem runs_buildHostEntries {args : List ObjRef} (hs : List (String × HostTerm)) :
    (buildHostEntries hs : Act ε (List (String × Value))).Runs args fun _ => [] := by
  cases hs with
  | nil => rw [buildHostEntries]; exact .pure (List.nil_subset _)
  | cons h hs =>
    obtain ⟨k, t⟩ := h
    rw [buildHostEntries]
    exact .bind (runs_buildHost t) fun _ => .bind (runs_buildHostEntries hs) fun _ =>
      .pure (List.nil_subset _)

end

/-! ### What statements produce -/

/-- The object that was produced. -/
def Produced.objects : Produced → List ObjRef
  | .object r => [r]
  | _ => []

theorem runs_setVariable {name : String} {r : ObjRef} (hr : r ∈ args) :
    (setVariable name r : Act ε Unit).Runs args fun _ => [] := by
  refine fun b hb hargs => .modify (.roots rfl fun s hs => ?_) (List.Subset.refl _)
  rw [Bridge.mem_roots] at hs ⊢
  rcases hs with hs | hs | hs
  · exact .inl (.inl hs)
  · obtain ⟨e, he, rfl⟩ := List.mem_map.mp hs
    rcases List.mem_cons.mp he with rfl | he
    · exact .inl (.inl (hargs hr))
    · exact .inl (.inr (.inl (List.mem_map_of_mem (List.mem_of_mem_filter he))))
  · exact .inl (.inr (.inr hs))

/-- What is kept under a name was in use. -/
theorem runs_keep (p : Produced) (name : String) :
    (p.keep name : Act ε Unit).Runs p.objects fun _ => [] := by
  refine .bind_get fun b hb hargs => ?_
  rw [hb.scripted]
  cases p with
  | object r => exact runs_setVariable List.mem_cons_self b hb hargs
  | value v | shown v a => exact .modify (.roots rfl fun _ hr => .inl hr) (List.Subset.refl _)
  | answer a => exact .pure (List.nil_subset _)

end ScriptBridge.Script
