import Mathlib.Data.List.Nodup
import ScriptBridge.Proofs.Convert.Steps

/-!
# Strict conversions

A strict conversion goes through the objects that hold each other. It notes each container that is
done with the list or dictionary made of it, so what it has noted is a part of the result. It fails
only because of a cycle, or of an object or a key that it reaches and that cannot be converted.
-/

namespace ScriptBridge

open Foreign (ObjRef Object Objects Contents)
open Host (Value Store)
open ScriptBridge.Computation
open Relation (ReflTransGen TransGen)

/-- Containers that were there before are the same afterwards. -/
structure Host.Store.Grown (s s' : Store) : Prop where
  lists_le : s.lists.size ≤ s'.lists.size
  dicts_le : s.dicts.size ≤ s'.dicts.size
  list : ∀ l : Host.ListRef, l.id < s.lists.size → s'.list l = s.list l
  dict : ∀ d : Host.DictRef, d.id < s.dicts.size → s'.dict d = s.dict d

namespace Host.Store.Grown

variable {s s' s'' : Store}

theorem refl : s.Grown s := ⟨Nat.le_refl _, Nat.le_refl _, fun _ _ => rfl, fun _ _ => rfl⟩

theorem trans (h : s.Grown s') (h' : s'.Grown s'') : s.Grown s'' := by
  refine ⟨Nat.le_trans h.lists_le h'.lists_le, Nat.le_trans h.dicts_le h'.dicts_le, ?_, ?_⟩
  · exact fun l hl => (h'.list l (Nat.lt_of_lt_of_le hl h.lists_le)).trans (h.list l hl)
  · exact fun d hd => (h'.dict d (Nat.lt_of_lt_of_le hd h.dicts_le)).trans (h.dict d hd)

theorem newList (items : List Value) : s.Grown (s.newList items).2 := by
  refine ⟨?_, Nat.le_refl _, fun l hl => ?_, fun _ _ => rfl⟩
  · simp [Store.newList]
  · simp [Store.newList, Store.list, Array.getD_eq_getD_getElem?, Array.getElem?_push_lt hl,
      Array.getElem?_eq_getElem hl]

theorem newDict (entries : List (String × Value)) (scope : Host.Scope := .plain) :
    s.Grown (s.newDict entries scope).2 := by
  refine ⟨Nat.le_refl _, ?_, fun _ _ => rfl, fun d hd => ?_⟩
  · simp [Store.newDict]
  · simp [Store.newDict, Store.dict, Array.getD_eq_getD_getElem?, Array.getElem?_push_lt hd,
      Array.getElem?_eq_getElem hd]

/-- A container that exists goes on to exist. -/
theorem container_exists (h : s.Grown s') {c : Convert.Container} (hc : c.Exists s) : c.Exists s' := by
  cases c with
  | list l => exact Nat.lt_of_lt_of_le hc h.lists_le
  | dict d => exact Nat.lt_of_lt_of_le hc h.dicts_le

end Host.Store.Grown

namespace Convert

/-! ### What is converted -/

/-- The containers that are done, with what was made of them. -/
abbrev Done := List (ObjRef × Value)

/-- The value of an object: for a container it is what was made of it. -/
inductive Stands (b : Bridge) (done : Done) (r : ObjRef) (v : Value) : Prop where
  | container (hcontents : (b.objects.get r).contents?.isSome) (hdone : (r, v) ∈ done)
  | leaf (hcontents : (b.objects.get r).contents? = none) (hvalue : b.leafValue? r = some v)

/-- The key and the value of an entry. -/
structure EntryStands (b : Bridge) (done : Done) (p : ObjRef × ObjRef) (e : String × Value) :
    Prop where
  key : (b.objects.get p.1).keyText? = some e.1
  nonempty : e.1 ≠ ""
  value : Stands b done p.2 e.2

/-- A list or a dictionary has what a container of the interpreter holds. -/
inductive Filled (b : Bridge) (s : Store) (done : Done) (r : ObjRef) : Value → Prop where
  | list {rs : List ObjRef} {vs : List Value} {l : Host.ListRef}
      (hcontents : (b.objects.get r).contents? = some (.items rs))
      (hexists : l.id < s.lists.size) (hitems : (s.list l).items = vs)
      (hstands : List.Forall₂ (Stands b done) rs vs) : Filled b s done r (.list l)
  | dict {ps : List (ObjRef × ObjRef)} {es : List (String × Value)} {d : Host.DictRef}
      (hcontents : (b.objects.get r).contents? = some (.entries ps))
      (hexists : d.id < s.dicts.size) (hentries : (s.dict d).entries = Host.Entries.ofList es)
      (hstands : List.Forall₂ (EntryStands b done) ps es) : Filled b s done r (.dict d)

/-- A new list or dictionary is made of a container. -/
structure Made (b : Bridge) (s : Store) (done : Done) (r : ObjRef) (v : Value) : Prop where
  filled : Filled b s done r v
  fresh : ∀ q, (q, v) ∉ done
  new : ∀ c, Container.ofValue? v = some c → ¬c.Exists b.editor.store

/-- What was made of containers: each has its own new list or dictionary, filled with what was done
before. -/
inductive Finished (b : Bridge) (s : Store) : Done → Prop where
  | nil : Finished b s []
  | cons {r : ObjRef} {v : Value} {done : Done} (hrest : Finished b s done)
      (hmade : Made b s done r v) (hobject : ∀ w, (r, w) ∉ done) : Finished b s ((r, v) :: done)

variable {b : Bridge} {s s' : Store} {done done' : Done} {r q : ObjRef} {v : Value}

theorem Stands.mono (h : Stands b done r v) (hdone : done ⊆ done') : Stands b done' r v := by
  cases h with
  | container hcontents hmem => exact .container hcontents (hdone hmem)
  | leaf hcontents hvalue => exact .leaf hcontents hvalue

theorem EntryStands.mono {p : ObjRef × ObjRef} {e : String × Value}
    (h : EntryStands b done p e) (hdone : done ⊆ done') : EntryStands b done' p e :=
  ⟨h.key, h.nonempty, h.value.mono hdone⟩

theorem Filled.mono (h : Filled b s done r v) (hs : s.Grown s') (hdone : done ⊆ done') :
    Filled b s' done' r v := by
  cases h with
  | list hcontents hexists hitems hstands =>
    refine .list hcontents (Nat.lt_of_lt_of_le hexists hs.lists_le) ?_
      (hstands.imp fun _ _ h => h.mono hdone)
    rw [hs.list _ hexists, hitems]
  | dict hcontents hexists hentries hstands =>
    refine .dict hcontents (Nat.lt_of_lt_of_le hexists hs.dicts_le) ?_
      (hstands.imp fun _ _ h => h.mono hdone)
    rw [hs.dict _ hexists, hentries]

theorem Filled.exists_container (h : Filled b s done r v) :
    ∃ c, Container.ofValue? v = some c ∧ c.Exists s := by
  cases h with
  | list _ hexists => exact ⟨_, rfl, hexists⟩
  | dict _ hexists => exact ⟨_, rfl, hexists⟩

theorem Filled.contents (h : Filled b s done r v) : (b.objects.get r).contents?.isSome := by
  cases h with
  | list hcontents => rw [hcontents]; rfl
  | dict hcontents => rw [hcontents]; rfl

namespace Finished

theorem mono (h : Finished b s done) (hs : s.Grown s') : Finished b s' done := by
  induction h with
  | nil => exact .nil
  | cons _ hmade hobject ih =>
    exact .cons ih ⟨hmade.filled.mono hs (List.Subset.refl _), hmade.fresh, hmade.new⟩ hobject

/-- What was made of a container has what the container holds. -/
theorem filled (h : Finished b s done) (hmem : (r, v) ∈ done) : Filled b s done r v := by
  induction h with
  | nil => cases hmem
  | cons hrest hmade hobject ih =>
    rcases List.mem_cons.mp hmem with heq | hmem
    · cases heq
      exact hmade.filled.mono .refl (List.subset_cons_self _ _)
    · exact (ih hmem).mono .refl (List.subset_cons_self _ _)

/-- A container gives one list or dictionary. -/
theorem value_unique {w : Value} (h : Finished b s done) (hv : (r, v) ∈ done)
    (hw : (r, w) ∈ done) : v = w := by
  induction h with
  | nil => cases hv
  | cons hrest hmade hobject ih =>
    rcases List.mem_cons.mp hv with heq | hv'
    · cases heq
      rcases List.mem_cons.mp hw with heq | hw'
      · exact (Prod.mk.inj heq).2.symm
      · exact absurd hw' (hobject w)
    · rcases List.mem_cons.mp hw with heq | hw'
      · cases heq
        exact absurd hv' (hobject v)
      · exact ih hv' hw'

/-- A list or dictionary is made of one container. -/
theorem object_unique (h : Finished b s done) (hr : (r, v) ∈ done) (hq : (q, v) ∈ done) :
    r = q := by
  induction h with
  | nil => cases hr
  | cons hrest hmade hobject ih =>
    rcases List.mem_cons.mp hr with heq | hr'
    · cases heq
      rcases List.mem_cons.mp hq with heq | hq'
      · exact (Prod.mk.inj heq).1.symm
      · exact absurd hq' (hmade.fresh q)
    · rcases List.mem_cons.mp hq with heq | hq'
      · cases heq
        exact absurd hr' (hmade.fresh r)
      · exact ih hr' hq'

/-- What was made is in the store. -/
theorem container_exists (h : Finished b s done) (hmem : (r, v) ∈ done) {c : Container}
    (hc : Container.ofValue? v = some c) : c.Exists s := by
  obtain ⟨c', hc', hexists⟩ := (h.filled hmem).exists_container
  rw [hc'] at hc
  exact Option.some.inj hc ▸ hexists

/-- What was made was not there before. -/
theorem new (h : Finished b s done) (hmem : (r, v) ∈ done) {c : Container}
    (hc : Container.ofValue? v = some c) : ¬c.Exists b.editor.store := by
  induction h with
  | nil => cases hmem
  | cons hrest hmade hobject ih =>
    rcases List.mem_cons.mp hmem with heq | hmem
    · cases heq
      exact hmade.new c hc
    · exact ih hmem

end Finished

/-! ### What is not converted -/

/-- An object that cannot be converted, or that has a key without a text. -/
inductive Fault (b : Bridge) (r : ObjRef) : ConvertError → Prop where
  | leaf (hcontents : (b.objects.get r).contents? = none) (hvalue : b.leafValue? r = none)
      (e : ConvertError) : Fault b r e
  | key {ps : List (ObjRef × ObjRef)} (hcontents : (b.objects.get r).contents? = some (.entries ps))
      {p : ObjRef × ObjRef} (hp : p ∈ ps) (htext : (b.objects.get p.1).keyText? = none)
      (e : ConvertError) : Fault b r e
  | emptyKey {ps : List (ObjRef × ObjRef)}
      (hcontents : (b.objects.get r).contents? = some (.entries ps)) {p : ObjRef × ObjRef}
      (hp : p ∈ ps) (htext : (b.objects.get p.1).keyText? = some "") : Fault b r .emptyKey

/-- The reasons for which an object is not converted: a cycle, or something that it reaches. -/
inductive Blame (b : Bridge) (r : ObjRef) : ConvertError → Prop where
  | cycle (h : LeadsToCycle b.objects.Holds r) : Blame b r .recursive
  | fault {q : ObjRef} {e : ConvertError} (hreach : ReflTransGen b.objects.Holds r q)
      (hfault : Fault b q e) : Blame b r e

theorem Blame.head {e : ConvertError} (hedge : b.objects.Holds r q) (h : Blame b q e) :
    Blame b r e := by
  cases h with
  | cycle h => exact .cycle (h.head hedge)
  | fault hreach hfault => exact .fault (.head hedge hreach) hfault

/-- The containers in which an object lies, while it is converted. -/
structure Within (b : Bridge) (active : List ObjRef) (r : ObjRef) : Prop where
  nodup : active.Nodup
  leads : ∀ q ∈ active, TransGen b.objects.Holds q r

theorem Within.length_le {active : List ObjRef} (h : Within b active r) :
    active.length ≤ b.objects.cells.size := by
  have hinjective : Function.Injective ObjRef.id := fun p q heq => by
    cases p
    cases q
    exact congrArg ObjRef.mk heq
  have hnodup : (active.map ObjRef.id).Nodup := List.Nodup.map hinjective h.nodup
  have hsubset : active.map ObjRef.id ⊆ List.range b.objects.cells.size := by
    intro i hi
    obtain ⟨q, hq, rfl⟩ := List.mem_map.mp hi
    obtain ⟨q', hedge, -⟩ := TransGen.head'_iff.mp (h.leads q hq)
    obtain ⟨c, hc, -⟩ := hedge
    exact List.mem_range.mpr (Objects.lt_size_of_contents hc)
  have hle := (hnodup.subperm hsubset).length_le
  rwa [List.length_map, List.length_range] at hle

/-- What a container holds lies in it and in what the container lies in. -/
theorem Within.push {active : List ObjRef} (h : Within b active r) (hr : r ∉ active)
    (hedge : b.objects.Holds r q) : Within b (r :: active) q := by
  refine ⟨List.nodup_cons.mpr ⟨hr, h.nodup⟩, fun p hp => ?_⟩
  rcases List.mem_cons.mp hp with rfl | hp
  · exact .single hedge
  · exact .tail (h.leads p hp) hedge

/-! ### The run of a conversion -/

/-- A state of a strict conversion. -/
structure Ready (b : Bridge) (c : Conversion) (s : Store) : Prop where
  strict : c.skip = false
  grown : b.editor.store.Grown s
  finished : Finished b s c.done

/-- A later state of a conversion, in which the same containers are being converted. -/
structure After (b : Bridge) (c : Conversion) (s : Store) (c' : Conversion) (s' : Store) :
    Prop where
  eq : c' = { c with done := c'.done }
  grown : s.Grown s'
  finished : Finished b s' c'.done
  /-- What was done meanwhile was not being converted before. -/
  done : ∃ new : Done, c'.done = new ++ c.done ∧ ∀ e ∈ new, e.1 ∉ c.active

/-- How a part of a strict conversion ends: in a later state, in which something holds of what it
gives, or with a failure that something is to blame for. -/
inductive Converts {α : Type} (b : Bridge) (c : Conversion) (s : Store) (blame : ConvertError → Prop)
    (post : Done → Store → α → Prop) :
    EStateM.Result (Stop ConvertError) (Conversion × Bridge) α → Prop
  | ok {x : α} {c' : Conversion} {s' : Store} (hafter : After b c s c' s')
      (hpost : post c'.done s' x) : Converts b c s blame post (.ok x (c', b.withStore s'))
  | error {e : ConvertError} {t : Conversion × Bridge} (hblame : blame e)
      (hstrict : t.1.skip = false) : Converts b c s blame post (.error (.error e) t)

variable {α β : Type} {c c' c'' : Conversion} {s'' : Store} {blame : ConvertError → Prop}
  {post : Done → Store → α → Prop}

theorem After.refl (h : Ready b c s) : After b c s c s := ⟨rfl, .refl, h.finished, [], rfl, nofun⟩

theorem After.trans (h : After b c s c' s') (h' : After b c' s' c'' s'') :
    After b c s c'' s'' := by
  obtain ⟨new, hnew, hfree⟩ := h.done
  obtain ⟨new', hnew', hfree'⟩ := h'.done
  have hactive : c'.active = c.active := by rw [h.eq]
  refine ⟨?_, h.grown.trans h'.grown, h'.finished, new' ++ new, ?_, fun e he => ?_⟩
  · have heq := h'.eq
    rw [h.eq] at heq
    exact heq
  · rw [hnew', hnew, List.append_assoc]
  · rcases List.mem_append.mp he with he | he
    · exact hactive ▸ hfree' e he
    · exact hfree e he

theorem After.ready (h : After b c s c' s') (hready : Ready b c s) : Ready b c' s' := by
  refine ⟨?_, hready.grown.trans h.grown, h.finished⟩
  rw [h.eq]
  exact hready.strict

theorem After.done_subset (h : After b c s c' s') : c.done ⊆ c'.done := by
  obtain ⟨new, hnew, -⟩ := h.done
  rw [hnew]
  exact List.subset_append_right _ _

theorem Converts.bind {a : Converting α} {f : α → Converting β} {post' : Done → Store → β → Prop}
    (ha : Converts b c s blame post (a (c, b.withStore s)))
    (hf : ∀ x c' s', After b c s c' s' → post c'.done s' x →
      Converts b c' s' blame post' (f x (c', b.withStore s'))) :
    Converts b c s blame post' ((a >>= f) (c, b.withStore s)) := by
  rw [bind_apply]
  generalize a (c, b.withStore s) = outcome at ha
  cases ha with
  | @ok x c' s' hafter hpost =>
    have hrest := hf x c' s' hafter hpost
    dsimp only
    generalize f x (c', b.withStore s') = outcome at hrest ⊢
    cases hrest with
    | ok hafter' hpost' => exact .ok (hafter.trans hafter') hpost'
    | error hblame hstrict => exact .error hblame hstrict
  | error hblame hstrict => exact .error hblame hstrict

theorem Converts.of_blame {blame' : ConvertError → Prop}
    {outcome : EStateM.Result (Stop ConvertError) (Conversion × Bridge) α}
    (h : Converts b c s blame post outcome) (hblame : ∀ e, blame e → blame' e) :
    Converts b c s blame' post outcome := by
  cases h with
  | ok hafter hpost => exact .ok hafter hpost
  | error hb hstrict => exact .error (hblame _ hb) hstrict

namespace Converting

/-- An entry is converted, or the conversion fails. -/
theorem entry_converts {label : Act ConvertError String}
    {a : Converting α} (ha : Converts b c s blame post (a (c, b.withStore s))) :
    Converts b c s blame (fun done s x? => ∃ x, x? = some x ∧ post done s x)
      (entry label a (c, b.withStore s)) := by
  generalize h : a (c, b.withStore s) = outcome at ha
  cases ha with
  | ok hafter hpost =>
    rw [entry_ok h]
    exact .ok hafter ⟨_, rfl, hpost⟩
  | error hblame hstrict =>
    rw [entry_error h hstrict]
    exact .error hblame hstrict

/-- The items of a sequence are converted in order. -/
theorem itemsFrom_converts {convert : ObjRef → Converting Value} {rs : List ObjRef} (i : Nat)
    (hready : Ready b c s)
    (hconvert : ∀ q ∈ rs, ∀ c' s', After b c s c' s' →
      Converts b c' s' blame (fun done _ v => Stands b done q v) (convert q (c', b.withStore s'))) :
    Converts b c s blame (fun done _ vs => List.Forall₂ (Stands b done) rs vs)
      (itemsFrom convert i rs (c, b.withStore s)) := by
  induction rs generalizing i c s with
  | nil => exact .ok (.refl hready) .nil
  | cons q rest ih =>
    unfold itemsFrom
    have hfirst := hconvert q List.mem_cons_self c s (.refl hready)
    refine .bind (entry_converts hfirst) fun v? c₁ s₁ hafter₁ hv? => ?_
    obtain ⟨v, rfl, hv⟩ := hv?
    have hrest := ih (i + 1) (hafter₁.ready hready) fun p hp c' s' hafter' =>
      hconvert p (List.mem_cons_of_mem _ hp) c' s' (hafter₁.trans hafter')
    refine .bind hrest fun vs c₂ s₂ hafter₂ hvs => ?_
    exact .ok (.refl (hafter₂.ready (hafter₁.ready hready))) (.cons (hv.mono hafter₂.done_subset) hvs)

/-- A list is made of what a sequence holds. -/
theorem sequence_converts (hkind : b.interpreter.kind = .scripted) {rs : List ObjRef}
    {convert : ObjRef → Converting Value}
    (hcontents : (b.objects.get r).contents? = some (.items rs)) (hready : Ready b c s)
    (hconvert : ∀ q ∈ rs, ∀ c' s', After b c s c' s' →
      Converts b c' s' blame (fun done _ v => Stands b done q v) (convert q (c', b.withStore s'))) :
    Converts b c s blame (fun done s v => Made b s done r v)
      (sequence convert r (c, b.withStore s)) := by
  have helements : ((b.withStore s).objects.get r).elements? = some rs := by
    change (b.objects.get r).elements? = some rs
    generalize b.objects.get r = x at hcontents
    cases x <;> cases hcontents <;> rfl
  have hscripted : (b.withStore s).interpreter.kind = .scripted := hkind
  unfold sequence
  rw [bind_apply, itemsOf_apply hscripted, helements]
  dsimp only
  refine .bind (itemsFrom_converts 0 hready hconvert) fun vs c₁ s₁ hafter hvs => ?_
  have hfinished := hafter.finished
  have hgrown : s₁.Grown (s₁.newList vs).2 := .newList vs
  have hlist : ((s₁.newList vs).2.list ⟨s₁.lists.size⟩).items = vs := by
    simp [Store.newList, Store.list]
  have hnot : ¬(Container.list ⟨s₁.lists.size⟩).Exists s₁ := Nat.lt_irrefl _
  have hlast : After b c₁ s₁ c₁ (s₁.newList vs).2 :=
    ⟨rfl, hgrown, hfinished.mono hgrown, [], rfl, nofun⟩
  have hmade : Made b (s₁.newList vs).2 c₁.done r (.list ⟨s₁.lists.size⟩) := by
    refine ⟨.list hcontents ?_ hlist hvs, fun q hq => hnot (hfinished.container_exists hq rfl), ?_⟩
    · simp [Store.newList]
    · intro c' hc' hexists
      cases hc'
      exact hnot ((hready.grown.trans hafter.grown).container_exists hexists)
  exact .ok hlast hmade

/-- The entries of a mapping are converted in order, and each is put under its key. -/
theorem entriesOnto_converts {convert : ObjRef → Converting Value} {ps : List (ObjRef × ObjRef)}
    (entries : List (String × Value)) (hready : Ready b c s)
    (hfault : ∀ e, (∃ p ∈ ps, (b.objects.get p.1).keyText? = none) ∨
      ((∃ p ∈ ps, (b.objects.get p.1).keyText? = some "") ∧ e = .emptyKey) → blame e)
    (hconvert : ∀ p ∈ ps, ∀ c' s', After b c s c' s' →
      Converts b c' s' blame (fun done _ v => Stands b done p.2 v)
        (convert p.2 (c', b.withStore s'))) :
    Converts b c s blame (fun done _ result => ∃ es, List.Forall₂ (EntryStands b done) ps es ∧
        result = es.foldl (fun entries e => Host.Entries.insert e.1 e.2 entries) entries)
      (entriesOnto convert entries ps (c, b.withStore s)) := by
  induction ps generalizing entries c s with
  | nil => exact .ok (.refl hready) ⟨[], .nil, rfl⟩
  | cons p rest ih =>
    obtain ⟨k, q⟩ := p
    have hkey := keyOf_apply (b.withStore s) k
    have hobject : (b.withStore s).objects.get k = b.objects.get k := rfl
    have hlift (x : Act ConvertError String) : (liftM x : Converting String) = lift x := rfl
    have hfirst : Converts b c s blame
        (fun done _ (e : String × Value) => EntryStands b done (k, q) e)
        ((do
          let key ← keyOf k
          let v ← convert q
          pure (key, v) : Converting (String × Value)) (c, b.withStore s)) := by
      cases htext : (b.objects.get k).keyText? with
      | none =>
        rw [hobject, htext] at hkey
        obtain ⟨e, he⟩ := hkey
        rw [bind_apply, hlift, lift_apply, he]
        exact .error (hfault e (.inl ⟨(k, q), List.mem_cons_self, htext⟩)) hready.strict
      | some key =>
        rw [hobject, htext] at hkey
        dsimp only at hkey
        by_cases hempty : key.isEmpty = true
        · rw [if_pos hempty] at hkey
          rw [bind_apply, hlift, lift_apply, hkey]
          have hkey' : key = "" := by simpa using hempty
          refine .error (hfault _ (.inr ⟨⟨(k, q), List.mem_cons_self, ?_⟩, rfl⟩)) hready.strict
          rw [htext, hkey']
        · rw [if_neg hempty] at hkey
          rw [bind_apply, hlift, lift_apply, hkey]
          have hvalue := hconvert (k, q) List.mem_cons_self c s (.refl hready)
          refine .bind hvalue fun v c₁ s₁ hafter₁ hv => ?_
          refine .ok (.refl (hafter₁.ready hready)) ⟨htext, fun h => hempty ?_, hv⟩
          rw [show key = "" from h]
          rfl
    unfold entriesOnto
    refine .bind (entry_converts hfirst) fun e? c₁ s₁ hafter₁ he? => ?_
    obtain ⟨e, rfl, he⟩ := he?
    have hfault' : ∀ e, (∃ p ∈ rest, (b.objects.get p.1).keyText? = none) ∨
        ((∃ p ∈ rest, (b.objects.get p.1).keyText? = some "") ∧ e = .emptyKey) → blame e := by
      rintro e (⟨p, hp, htext⟩ | ⟨⟨p, hp, htext⟩, he⟩)
      · exact hfault e (.inl ⟨p, List.mem_cons_of_mem _ hp, htext⟩)
      · exact hfault e (.inr ⟨⟨p, List.mem_cons_of_mem _ hp, htext⟩, he⟩)
    have hrest := ih (Host.Entries.insert e.1 e.2 entries) (hafter₁.ready hready) hfault'
      fun p hp c' s' hafter' =>
        hconvert p (List.mem_cons_of_mem _ hp) c' s' (hafter₁.trans hafter')
    dsimp only
    generalize entriesOnto convert (Host.Entries.insert e.1 e.2 entries) rest
      (c₁, b.withStore s₁) = outcome at hrest ⊢
    cases hrest with
    | error hblame hstrict => exact .error hblame hstrict
    | @ok result c₂ s₂ hafter₂ hpost =>
      obtain ⟨es, hes, rfl⟩ := hpost
      exact .ok hafter₂ ⟨e :: es, .cons (he.mono hafter₂.done_subset) hes, rfl⟩

/-- A dictionary is made of what a mapping holds. -/
theorem mapping_converts (hkind : b.interpreter.kind = .scripted) {ps : List (ObjRef × ObjRef)}
    {convert : ObjRef → Converting Value}
    (hcontents : (b.objects.get r).contents? = some (.entries ps)) (hready : Ready b c s)
    (hfault : ∀ e, Fault b r e → blame e)
    (hconvert : ∀ p ∈ ps, ∀ c' s', After b c s c' s' →
      Converts b c' s' blame (fun done _ v => Stands b done p.2 v)
        (convert p.2 (c', b.withStore s'))) :
    Converts b c s blame (fun done s v => Made b s done r v)
      (mapping convert r (c, b.withStore s)) := by
  have hcontents' : ((b.withStore s).objects.get r).contents? = some (.entries ps) := hcontents
  have hscripted : (b.withStore s).interpreter.kind = .scripted := hkind
  have hkeys (e : ConvertError) (h : (∃ p ∈ ps, (b.objects.get p.1).keyText? = none) ∨
      ((∃ p ∈ ps, (b.objects.get p.1).keyText? = some "") ∧ e = .emptyKey)) : blame e := by
    rcases h with ⟨p, hp, htext⟩ | ⟨⟨p, hp, htext⟩, rfl⟩
    · exact hfault e (.key hcontents hp htext e)
    · exact hfault _ (.emptyKey hcontents hp htext)
  unfold mapping
  rw [bind_apply, pairsOf_apply hscripted, hcontents']
  dsimp only
  refine .bind (entriesOnto_converts [] hready hkeys hconvert) fun entries c₁ s₁ hafter hes => ?_
  obtain ⟨es, hes, hentries⟩ := hes
  have hfinished := hafter.finished
  have hgrown : s₁.Grown (s₁.newDict entries).2 := .newDict entries
  have hdict : ((s₁.newDict entries).2.dict ⟨s₁.dicts.size⟩).entries = Host.Entries.ofList es := by
    rw [hentries]
    simp [Store.newDict, Store.dict, Host.Entries.ofList]
  have hnot : ¬(Container.dict ⟨s₁.dicts.size⟩).Exists s₁ := Nat.lt_irrefl _
  have hlast : After b c₁ s₁ c₁ (s₁.newDict entries).2 :=
    ⟨rfl, hgrown, hfinished.mono hgrown, [], rfl, nofun⟩
  have hmade : Made b (s₁.newDict entries).2 c₁.done r (.dict ⟨s₁.dicts.size⟩) := by
    refine ⟨.dict hcontents ?_ hdict hes, fun q hq => hnot (hfinished.container_exists hq rfl), ?_⟩
    · simp [Store.newDict]
    · intro c' hc' hexists
      cases hc'
      exact hnot ((hready.grown.trans hafter.grown).container_exists hexists)
  exact .ok hlast hmade

/-- A container is converted once: what was made of it is noted. -/
theorem container_converts (hkind : b.interpreter.kind = .scripted)
    (hcontents : (b.objects.get r).contents?.isSome) (hready : Ready b c s)
    (hwithin : Within b c.active r) {body : ObjRef → Converting Value}
    (hbody : r ∉ c.active → Ready b { c with active := r :: c.active } s →
      Converts b { c with active := r :: c.active } s (Blame b r)
        (fun done s v => Made b s done r v)
        (body r ({ c with active := r :: c.active }, b.withStore s))) :
    Converts b c s (Blame b r) (fun done _ v => Stands b done r v)
      (container body r (c, b.withStore s)) := by
  have hscripted : (b.withStore s).interpreter.kind = .scripted := hkind
  rw [container_apply hscripted]
  cases hfind : c.done.find? fun e => e.1 = r with
  | some e =>
    obtain ⟨q, v⟩ := e
    have hq : q = r := by simpa using List.find?_some hfind
    exact .ok (.refl hready) (.container hcontents (hq ▸ List.mem_of_find?_eq_some hfind))
  | none =>
    dsimp only
    by_cases hactive : r ∈ c.active
    · rw [if_pos hactive]
      exact .error (.cycle ⟨r, .refl, hwithin.leads r hactive⟩) hready.strict
    · rw [if_neg hactive]
      have hnotdone (w : Value) : (r, w) ∉ c.done := by
        intro hmem
        have := List.find?_eq_none.mp hfind _ hmem
        simp at this
      have hrun := hbody hactive ⟨hready.strict, hready.grown, hready.finished⟩
      generalize body r ({ c with active := r :: c.active }, b.withStore s) = outcome at hrun ⊢
      cases hrun with
      | error hblame hstrict => exact .error hblame hstrict
      | @ok v c₁ s₁ hafter hmade =>
        obtain ⟨new, hnew, hfree⟩ := hafter.done
        have herase : c₁.active.erase r = c.active := by
          rw [hafter.eq]
          simp
        have hobject (w : Value) : (r, w) ∉ c₁.done := by
          rw [hnew]
          intro hmem
          rcases List.mem_append.mp hmem with hmem | hmem
          · exact hfree _ hmem List.mem_cons_self
          · exact hnotdone w hmem
        refine .ok ⟨?_, hafter.grown, .cons hafter.finished hmade hobject, (r, v) :: new, ?_, ?_⟩
          (.container hcontents List.mem_cons_self)
        · dsimp only
          rw [herase, hafter.eq]
        · dsimp only
          rw [hnew, List.cons_append]
        · intro e he
          rcases List.mem_cons.mp he with rfl | he
          · exact hactive
          · exact fun h => hfree e he (List.mem_cons_of_mem _ h)

/-- The strict conversion of an object. The containers in which it lies are different, so there are
never more of them than the depth that is left. -/
theorem convertWithin_converts (hkind : b.interpreter.kind = .scripted) (depth : Nat)
    (hready : Ready b c s) (hwithin : Within b c.active r)
    (hdepth : b.objects.cells.size < depth + c.active.length) :
    Converts b c s (Blame b r) (fun done _ v => Stands b done r v)
      (convertWithin depth r (c, b.withStore s)) := by
  induction depth generalizing c s r with
  | zero =>
    have hlength := hwithin.length_le
    omega
  | succ depth ih =>
    -- what a container holds is converted while the container is
    have hinner {q : ObjRef} (hedge : b.objects.Holds r q) (hr : r ∉ c.active) {c' : Conversion}
        {s' : Store} (hready' : Ready b { c with active := r :: c.active } s)
        (hafter : After b { c with active := r :: c.active } s c' s') :
        Converts b c' s' (Blame b r) (fun done _ v => Stands b done q v)
          (convertWithin depth q (c', b.withStore s')) := by
      have hactive : c'.active = r :: c.active := by rw [hafter.eq]
      refine .of_blame (ih (hafter.ready hready') ?_ ?_) fun e => Blame.head hedge
      · rw [hactive]
        exact hwithin.push hr hedge
      · rw [hactive, List.length_cons]
        omega
    cases hcontents : (b.objects.get r).contents? with
    | none =>
      have hdone (v : Value) : (r, v) ∉ c.done := by
        intro hmem
        have hsome := (hready.finished.filled hmem).contents
        rw [hcontents] at hsome
        cases hsome
      have hends := convertWithin_leaf (b := b.withStore s) hkind depth hcontents hdone
      unfold LeafEnds at hends
      rw [Bridge.leafValue?_withStore] at hends
      cases hvalue : b.leafValue? r with
      | some v =>
        rw [hvalue] at hends
        dsimp only at hends
        rw [hends]
        exact .ok (.refl hready) (.leaf hcontents hvalue)
      | none =>
        rw [hvalue] at hends
        obtain ⟨e, t, ht, hstrict⟩ := hends
        rw [ht]
        exact .error (.fault .refl (.leaf hcontents hvalue e)) (hstrict.trans hready.strict)
    | some contents =>
      have hsome : (b.objects.get r).contents?.isSome := by rw [hcontents]; rfl
      cases contents with
      | items rs =>
        rw [convertWithin_items (b := b.withStore s) hcontents]
        refine container_converts hkind hsome hready hwithin fun hr hready' => ?_
        refine sequence_converts hkind hcontents hready' fun q hq c' s' hafter => ?_
        exact hinner ⟨_, hcontents, hq⟩ hr hready' hafter
      | entries ps =>
        rw [convertWithin_entries (b := b.withStore s) hcontents]
        refine container_converts hkind hsome hready hwithin fun hr hready' => ?_
        refine mapping_converts hkind hcontents hready' (fun e h => .fault .refl h) ?_
        exact fun p hp c' s' hafter =>
          hinner ⟨_, hcontents, List.mem_map_of_mem hp⟩ hr hready' hafter

end Converting

/-! ### Whole conversions -/

/-- How a strict conversion ends: with a value that stands for the object, or with a failure that
something is to blame for. -/
inductive ToHost (b : Bridge) (r : ObjRef) : EStateM.Result (Stop ConvertError) Bridge Value → Prop
  | ok {v : Value} {s : Store} {done : Done} (hgrown : b.editor.store.Grown s)
      (hfinished : Finished b s done) (hstands : Stands b done r v) :
      ToHost b r (.ok v (b.withStore s))
  | error {e : ConvertError} {b' : Bridge} (hblame : Blame b r e) : ToHost b r (.error (.error e) b')

theorem toHost_ends (hkind : b.interpreter.kind = .scripted) (r : ObjRef) :
    ToHost b r (toHost r b) := by
  have hready : Ready b { skip := false } b.editor.store := ⟨rfl, .refl, .nil⟩
  have hwithin : Within b [] r := ⟨List.nodup_nil, nofun⟩
  have hrun := Converting.convertWithin_converts hkind _ hready hwithin (Nat.lt_succ_self _)
  have happly : toHost r b = match Converting.convertWithin (b.objects.cells.size + 1) r
      ({ skip := false }, b.withStore b.editor.store) with
      | .ok v t => .ok v t.2
      | .error e t => .error e t.2 := by
    change (toHostWith false r >>= fun x => pure x.1) b = _
    rw [bind_apply, toHostWith]
    change _ = match Converting.convertWithin (b.objects.cells.size + 1) r ({ skip := false }, b) with
      | .ok v t => _
      | .error e t => _
    cases Converting.convertWithin (b.objects.cells.size + 1) r ({ skip := false }, b) <;> rfl
  rw [happly]
  generalize Converting.convertWithin (b.objects.cells.size + 1) r
    ({ skip := false }, b.withStore b.editor.store) = outcome at hrun ⊢
  cases hrun with
  | ok hafter hpost => exact .ok hafter.grown hafter.finished hpost
  | error hblame _ => exact .error hblame

end Convert

end ScriptBridge
