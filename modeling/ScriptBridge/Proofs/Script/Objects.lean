import ScriptBridge.Proofs.Proxy.Runs
import ScriptBridge.Script.Perform.Object

/-!
# Operations of scripts on objects run by moves

What scripts read from objects, put into them, and build. Only the scripted interpreter is treated,
whose objects are proxies and plain values.
-/

namespace ScriptBridge.Script

open Foreign (ObjRef Object ProxyClass Target)
open ScriptBridge.Computation

variable {ε α : Type} {args : List ObjRef} {kept : α → List ObjRef} {b : Bridge}

/-! ### Kinds of interpreters -/

theorem runs_kind : (kind : Act ε Foreign.InterpreterKind).Runs args fun _ => [] :=
  .bind .get fun _ => .pure (List.nil_subset _)

theorem runs_object (r : ObjRef) : (Bridge.object r : Act ε Object).Runs args fun _ => [] :=
  .bind .get fun _ => .pure (List.nil_subset _)

/-- A sound bridge has the scripted interpreter. -/
theorem bind_kind {f : Foreign.InterpreterKind → Act ε α} (hb : b.Sound)
    (hf : (f .scripted).RunsFrom b kept) : (kind >>= f).RunsFrom b kept := by
  rw [← hb.scripted] at hf
  exact hf

theorem gives_kind {f : Foreign.InterpreterKind → Act ε (List ObjRef)} (hb : b.Sound)
    (hf : (f .scripted).Gives b) : (kind >>= f).Gives b := by
  rw [← hb.scripted] at hf
  exact hf

theorem gives_object {r : ObjRef} {f : Object → Act ε (List ObjRef)}
    (hf : (f (b.objects.get r)).Gives b) : (Bridge.object r >>= f).Gives b := hf

/-! ### Failures -/

theorem runs_refuse (r : ObjRef) (what : String) :
    (refuse r what : Act ForeignError α).Runs args kept :=
  .bind (Bridge.runs_qualifiedType r) fun _ => .fail

theorem runs_missingAttribute (r : ObjRef) (name : String) :
    (missingAttribute r name : Act ForeignError α).Runs args kept := by
  refine .bind (runs_object r) fun x => .bind runs_kind fun k => ?_
  dsimp only
  split
  iterate 2 exact .fail
  · exact .bind (Bridge.runs_qualifiedType r) fun _ => .fail

/-! ### Attributes -/

theorem runs_getAttr (r : ObjRef) (name : String) : (getAttr r name).Runs [r] fun v => [v] := by
  refine .bind_object fun b hb hargs => bind_kind hb ?_
  have hscripted := hb.objects r
  cases hr : b.objects.get r with
  | proxy cls t =>
    rw [hr] at hscripted
    refine .bind hb hargs (Proxy.runs_slot (Proxy.runs_getAttr? hscripted name) b hb hargs) ?_
    intro found
    cases found with
    | some v => exact .pure (List.subset_append_left _ _)
    | none => exact runs_missingAttribute r name
  | module m members =>
    dsimp only
    cases hlookup : members.lookup name with
    | some v =>
      refine .hold (hb.alive_of_mem_references (hb.alive_of_mem_held (hargs List.mem_cons_self)) ?_)
      rw [hr]
      exact List.mem_map_of_mem (f := (·.2)) (Lookup.mem_of_lookup hlookup)
    | none => exact runs_missingAttribute r name b hb hargs
  | _ => exact runs_missingAttribute r name b hb hargs

theorem runs_setAttr (r : ObjRef) (name : String) (value : Option ObjRef) :
    (setAttr r name value).Runs args fun _ => [] := by
  refine .bind_object fun b hb hargs => bind_kind hb ?_
  cases b.objects.get r with
  | proxy cls t => exact Proxy.runs_slot (Proxy.runs_setAttr cls t name value) b hb hargs
  | _ => exact Act.Runs.bind (Bridge.runs_typeName r) (fun _ => .fail) b hb hargs

/-! ### Items -/

theorem runs_demandIndex (i : Int) : (demandIndex i).Runs args fun _ => [] := by
  refine .bind runs_kind fun k => ?_
  split
  · exact .fail
  · exact .pure (List.nil_subset _)

theorem demandIndex_apply (hb : b.Sound) (i : Int) : demandIndex i b = .ok () b := by
  have hkind : (kind : Act ForeignError _) b = .ok .scripted b := by
    rw [← hb.scripted]
    rfl
  simp [demandIndex, bind_apply, hkind, pure_apply]

/-- The item of a sequence that is alive. -/
theorem runsFrom_sequenceItem {x : Object} {items : List ObjRef} (hb : b.Sound)
    (hitems : ∀ s ∈ items, b.Alive s) (k : ObjRef) :
    (sequenceItem x items k).RunsFrom b fun s => [s] := by
  refine .bind_get ?_
  rw [hb.scripted]
  cases intKey? b k with
  | some i =>
    have hmem {j : Int} {s : ObjRef} (hs : (if 0 ≤ j then items[j.toNat]? else none) = some s) :
        s ∈ items := by
      split at hs
      · exact List.mem_of_getElem? hs
      · cases hs
    refine .bind_eq (demandIndex_apply hb i) ?_
    dsimp only
    split
    · rename_i s hs
      exact .hold (hitems s (hmem hs))
    · exact .fail
  | none =>
    dsimp only
    split
    · contradiction
    · contradiction
    · exact .fail
    · contradiction

/-- The value under a key of a dictionary that is alive. -/
theorem runsFrom_dictItem {entries : List (ObjRef × ObjRef)} (hb : b.Sound)
    (hentries : ∀ e ∈ entries, b.Alive e.2) (k : ObjRef) :
    (dictItem entries k).RunsFrom b fun s => [s] := by
  refine bind_kind hb (.bind_get ?_)
  split
  · rename_i e he
    exact .hold (hentries e (List.mem_of_find?_eq_some he))
  · refine .bind_get ?_
    rw [hb.scripted]
    exact .fail

theorem runs_getItem (r k : ObjRef) : (getItem r k).Runs [r] fun s => [s] := by
  refine .bind_object fun b hb hargs => bind_kind hb ?_
  have halive (s : ObjRef) (hs : s ∈ (b.objects.get r).references) : b.Alive s :=
    hb.alive_of_mem_references (hb.alive_of_mem_held (hargs List.mem_cons_self)) hs
  cases hr : b.objects.get r with
  | proxy cls t => exact Proxy.runs_slot (Proxy.runs_subscript cls t k) b hb hargs
  | dict entries =>
    refine runsFrom_dictItem hb (fun e he => halive _ ?_) k
    rw [hr]
    exact List.mem_flatMap.mpr ⟨e, he, by simp⟩
  | mirror c =>
    have hscripted := hb.objects r
    rw [hr] at hscripted
    exact hscripted.elim
  | list items | tuple items | sequence items =>
    exact runsFrom_sequenceItem hb (fun s hs => halive s (hr ▸ hs)) k
  | _ => exact runs_refuse r _ b hb hargs

theorem runs_length (r : ObjRef) : (length r).Runs args fun _ => [] := by
  have hnone : Act.Runs args (do Act.fail (noLength (← Bridge.qualifiedType r)) :
      Act ForeignError Nat) fun _ => [] := .bind (Bridge.runs_qualifiedType r) fun _ => .fail
  refine .bind_object fun b hb hargs => bind_kind hb ?_
  have hscripted := hb.objects r
  cases hr : b.objects.get r with
  | proxy cls t => exact Proxy.runs_slot (Proxy.runs_length cls t) b hb hargs
  | mirror c | view sort d =>
    rw [hr] at hscripted
    exact hscripted.elim
  | str s | halved places | bytes bs | dict entries | mapping entries | list items | tuple items
    | sequence items => exact .pure (List.nil_subset _)
  | _ => exact hnone b hb hargs

/-! ### Iteration -/

theorem elements_subset_references (x : Object) : x.elements?.getD [] ⊆ x.references := by
  cases x with
  | list items | tuple items | sequence items => exact List.Subset.refl _
  | _ => exact List.nil_subset _

/-- What iteration goes through is alive. -/
theorem gives_iterate (r : ObjRef) (hb : b.Sound) (hr : r ∈ b.held) : (iterate r).Gives b := by
  have halive (s : ObjRef) (hs : s ∈ (b.objects.get r).references) : b.Alive s :=
    hb.alive_of_mem_references (hb.alive_of_mem_held hr) hs
  have hscripted := hb.objects r
  have hrefuse : (refuse r "is not iterable" : Act ForeignError (List ObjRef)).Gives b :=
    .of_runsFrom hb (runs_refuse r _ b hb (List.nil_subset _))
  refine gives_object (gives_kind hb ?_)
  cases hx : b.objects.get r with
  | proxy cls t =>
    dsimp only
    split
    · refine Bridge.Reaches.bind hb (Proxy.runs_slot (Proxy.runs_iterate cls t) b hb
        (List.nil_subset _)) fun list b' _ hb' _ hlist => Act.Gives.pure fun s hs => ?_
      exact hb'.alive_of_mem_references (hb'.alive_of_mem_held (hlist List.mem_cons_self))
        (elements_subset_references _ hs)
    · refine .of_runsFrom hb (.bind hb (List.nil_subset _) (Proxy.runs_slot
        (Proxy.runs_length cls t) b hb (List.nil_subset _)) fun n => ?_)
      have hitem (args : List ObjRef) (i : Nat) : (Proxy.slot (Proxy.item cls t i)).Runs args
          fun s => [s] := Proxy.runs_slot (Proxy.runs_item cls t i)
      exact (Act.Runs.mapM fun i _ => hitem _ i).mono (List.Subset.refl _) (by simp)
  | mirror c | view sort d | iterator typeName rest =>
    rw [hx] at hscripted
    exact hscripted.elim
  | dict entries =>
    refine .pure fun s hs => halive s ?_
    obtain ⟨e, he, rfl⟩ := List.mem_map.mp hs
    rw [hx]
    exact List.mem_flatMap.mpr ⟨e, he, by simp⟩
  | list items | tuple items | sequence items => exact .pure fun s hs => halive s (hx ▸ hs)
  | _ => exact hrefuse

theorem runs_iterate (r : ObjRef) : (iterate r).Runs [r] fun _ => [] :=
  fun _ hb hargs => Bridge.Reaches.mono (gives_iterate r hb (hargs List.mem_cons_self))
    fun _ _ _ => List.nil_subset _

theorem runs_demandHashable (r : ObjRef) : (demandHashable r).Runs args fun _ => [] := by
  refine .bind .get fun b => ?_
  split
  · exact .bind (Bridge.runs_qualifiedType _) fun _ => .fail
  · exact .pure (List.nil_subset _)

theorem runs_bytesContain (bs : List UInt8) (v : ObjRef) :
    (bytesContain bs v).Runs args fun _ => [] := by
  refine .bind .get fun b => ?_
  split
  · exact .pure (List.nil_subset _)
  · split
    · exact .pure (List.nil_subset _)
    · exact .fail
  · exact .bind (Bridge.runs_qualifiedType v) fun _ => .fail

theorem runs_iterationContains (r v : ObjRef) :
    (iterationContains r v).Runs [r] fun _ => [] := by
  refine .bind (.attempt (runs_iterate r)) fun items => ?_
  split
  · exact .bind .get fun _ => .pure (List.nil_subset _)
  · exact .bind (Bridge.runs_qualifiedType r) fun _ => .fail
  · exact .fail

theorem runs_contains (r v : ObjRef) : (contains r v).Runs [r] fun _ => [] := by
  have hiteration : (iterationContains r v).Runs ([] ++ [r]) fun _ => [] :=
    runs_iterationContains r v
  refine .bind .get fun b => ?_
  split
  · exact .bind (runs_demandHashable v) fun _ => .pure (List.nil_subset _)
  · exact .pure (List.nil_subset _)
  · exact .bind (runs_demandHashable v) fun _ => .pure (List.nil_subset _)
  · exact runs_bytesContain _ v
  · split
    · exact .pure (List.nil_subset _)
    · exact hiteration
  · split
    · exact .pure (List.nil_subset _)
    · exact .bind (Bridge.runs_qualifiedType v) fun _ => .fail
    · exact hiteration

/-! ### Changes -/

/-- A list that is alive gets other items, which are alive. -/
theorem runsFrom_setList {r : ObjRef} {items new : List ObjRef}
    (hr : b.objects.get r = .list items) (hnew : ∀ s ∈ new, b.Alive s) :
    (Bridge.setObject r (.list new) : Act ε Unit).RunsFrom b fun _ => [] :=
  .setObject trivial rfl (by simp [hr]) hnew

theorem runsFrom_setListItem {r : ObjRef} {items : List ObjRef} (hb : b.Sound)
    (hr : b.objects.get r = .list items) (hitems : ∀ s ∈ items, b.Alive s) (k : ObjRef)
    {value : Option ObjRef} (hvalue : ∀ v ∈ value, b.Alive v) :
    (setListItem r items k value).RunsFrom b fun _ => [] := by
  refine .bind_get ?_
  rw [hb.scripted]
  cases intKey? b k with
  | none => exact .fail
  | some i =>
    refine .bind_eq (demandIndex_apply hb i) (.guard ?_)
    cases value with
    | none => exact runsFrom_setList hr fun s hs => hitems s (List.mem_of_mem_eraseIdx hs)
    | some v =>
      refine runsFrom_setList hr fun s hs => ?_
      rcases List.mem_or_eq_of_mem_set hs with hs | rfl
      · exact hitems s hs
      · exact hvalue s rfl

theorem runsFrom_setDictItem {r : ObjRef} {entries : List (ObjRef × ObjRef)} (hb : b.Sound)
    (hr : b.objects.get r = .dict entries)
    (hentries : ∀ s ∈ (Object.dict entries).references, b.Alive s) {k : ObjRef} (hk : b.Alive k)
    {value : Option ObjRef} (hvalue : ∀ v ∈ value, b.Alive v) :
    (setDictItem r entries k value).RunsFrom b fun _ => [] := by
  refine .bind_get ?_
  rw [hb.scripted]
  have hothers (s : ObjRef) (hs : s ∈ (Object.dict
      (entries.filter fun e => !b.sameKey e.1 k)).references) : b.Alive s := by
    obtain ⟨e, he, hs⟩ := List.mem_flatMap.mp hs
    exact hentries s (List.mem_flatMap.mpr ⟨e, List.mem_of_mem_filter he, hs⟩)
  cases value with
  | none => exact .setObject trivial rfl (by simp [hr]) hothers
  | some v =>
    refine .setObject trivial rfl (by simp [hr]) fun s hs => ?_
    simp only [Object.references, List.flatMap_append, List.mem_append] at hs
    rcases hs with hs | hs
    · exact hothers s hs
    · have hs : s = k ∨ s = v := by simpa using hs
      rcases hs with rfl | rfl
      · exact hk
      · exact hvalue s rfl

theorem runs_refuseItem (r k : ObjRef) (deleting : Bool) :
    (refuseItem r k deleting).Runs args fun _ => [] := by
  refine .bind .get fun b => ?_
  dsimp only
  generalize (if mayHavePositions (b.objects.get r) then intKey? b k else none) = position
  cases position with
  | none => split <;> exact runs_refuse r _
  | some i =>
    refine .bind (runs_demandIndex i) fun _ => ?_
    split <;> exact runs_refuse r _

theorem runs_setItem (r k : ObjRef) (value : Option ObjRef) :
    (setItem r k value).Runs (r :: k :: value.toList) fun _ => [] := by
  refine .bind_object fun b hb hargs => bind_kind hb ?_
  have hvalue : ∀ v ∈ value, b.Alive v := fun v hv =>
    hb.alive_of_mem_held (hargs (by simp [Option.mem_toList.mpr hv]))
  have halive (s : ObjRef) (hs : s ∈ (b.objects.get r).references) : b.Alive s :=
    hb.alive_of_mem_references (hb.alive_of_mem_held (hargs (by simp))) hs
  cases hr : b.objects.get r with
  | proxy cls t => exact Proxy.runs_slot (Proxy.runs_assign cls t k value) b hb hargs
  | dict entries =>
    exact runsFrom_setDictItem hb hr (fun s hs => halive s (hr ▸ hs))
      (hb.alive_of_mem_held (hargs (by simp))) hvalue
  | list items => exact runsFrom_setListItem hb hr (fun s hs => halive s (hr ▸ hs)) k hvalue
  | _ => exact runs_refuseItem r k _ b hb hargs

/-! ### Calls -/

section Calls

variable {command : String → Act BridgeError Unit}
  (hcommand : ∀ line, (command line).Runs [] fun _ => [])

include hcommand

theorem runs_callPlain (r : ObjRef) (given : List ObjRef) (keywords : Keywords) :
    (callPlain command r given keywords).Runs given fun v => [v] := by
  refine .bind_object fun b hb hargs => bind_kind hb ?_
  cases b.objects.get r with
  | proxy cls t => exact Proxy.runs_slot (Proxy.runs_call hcommand cls t given) b hb hargs
  | _ => exact runs_refuse r _ b hb hargs

theorem runs_call (r : ObjRef) (given : List ObjRef) (keywords : Keywords) :
    (call command r given keywords).Runs given fun v => [v] := by
  refine .bind_object fun b hb hargs => ?_
  have hscripted := hb.objects r
  cases hr : b.objects.get r with
  | wrapper owner name | descriptor definer name sort =>
    rw [hr] at hscripted
    exact hscripted.elim
  | _ => exact runs_callPlain hcommand r given keywords b hb hargs

end Calls

end ScriptBridge.Script
