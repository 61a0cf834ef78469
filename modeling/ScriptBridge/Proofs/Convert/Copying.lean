import ScriptBridge.Proofs.Convert.Graph
import ScriptBridge.Proofs.Session.Course

/-!
# Copies of host values

A copy spells out the lists and dictionaries that a value leads to. It is made unless the value
leads to a container that reaches itself; containers that are merely shared are copied again each
time they are met.
-/

namespace ScriptBridge

open Foreign (ObjRef Object Objects EndRef)
open Host (Value Store)
open ScriptBridge.Computation

/-- Objects that were there before are the same afterwards. -/
structure Foreign.Objects.Extends (o o' : Objects) : Prop where
  size_le : o.cells.size ≤ o'.cells.size
  get : ∀ r : ObjRef, r.id < o.cells.size → o'.get r = o.get r

theorem Foreign.Objects.Extends.trans {o o' o'' : Objects} (h : o.Extends o')
    (h' : o'.Extends o'') : o.Extends o'' :=
  ⟨Nat.le_trans h.size_le h'.size_le, fun r hr =>
    (h'.get r (Nat.lt_of_lt_of_le hr h.size_le)).trans (h.get r hr)⟩

namespace Bridge

/-- New objects are there, and in use, and nothing else has changed. -/
structure Grown (b b' : Bridge) : Prop where
  eq : b' = { b with objects := b'.objects, held := b'.held }
  objects : b.objects.Extends b'.objects

variable {b b' b'' : Bridge}

theorem Grown.refl : b.Grown b := ⟨rfl, Nat.le_refl _, fun _ _ => rfl⟩

theorem Grown.trans (h : b.Grown b') (h' : b'.Grown b'') : b.Grown b'' := by
  refine ⟨?_, h.objects.trans h'.objects⟩
  have heq := h'.eq
  rw [h.eq] at heq
  exact heq

theorem Grown.editor (h : b.Grown b') : b'.editor = b.editor := by rw [h.eq]

theorem Grown.interpreter (h : b.Grown b') : b'.interpreter = b.interpreter := by rw [h.eq]

theorem grown_withNew (x : Object) : b.Grown (b.withNew x) :=
  ⟨rfl, Nat.le_of_lt (Nat.lt_of_lt_of_eq (Nat.lt_succ_self _) size_withNew.symm),
    fun _ => get_withNew_of_lt⟩

end Bridge

namespace Convert

/-- An object spells out a value, down to a number of levels. -/
def Copy (s : Store) (o : Objects) : Nat → Value → ObjRef → Prop
  | 0, _, _ => False
  | n + 1, v, r => r.id < o.cells.size ∧
    match v with
    | .null => o.get r = .null
    | .number k => o.get r = .int k.toInt
    | .float x => o.get r = .float x
    | .str t => o.get r = .str t
    | .func name bound => o.get r = functionProxy name bound
    | .list l => ∃ rs, o.get r = .list rs ∧ List.Forall₂ (Copy s o n) (s.list l).items rs
    | .dict d => ∃ pairs, o.get r = .dict pairs ∧
      List.Forall₂ (fun e p => o.get p.1 = .str e.1 ∧ p.1.id < o.cells.size ∧ Copy s o n e.2 p.2)
        (s.dict d).entries pairs

variable {s : Store} {o o' : Objects}

/-- More objects do not change what a copy spells out. -/
theorem Copy.extends (h : o.Extends o') {n : Nat} {v : Value} {r : ObjRef}
    (hcopy : Copy s o n v r) : Copy s o' n v r := by
  induction n generalizing v r with
  | zero => exact hcopy
  | succ n ih =>
    obtain ⟨hlt, hspells⟩ := hcopy
    refine ⟨Nat.lt_of_lt_of_le hlt h.size_le, ?_⟩
    cases v with
    | null | number k | float x | str t | func name bound => exact (h.get r hlt).trans hspells
    | list l =>
      obtain ⟨rs, hget, hitems⟩ := hspells
      exact ⟨rs, (h.get r hlt).trans hget, hitems.imp fun _ _ => ih⟩
    | dict d =>
      obtain ⟨pairs, hget, hentries⟩ := hspells
      refine ⟨pairs, (h.get r hlt).trans hget, hentries.imp fun e p hp => ?_⟩
      exact ⟨(h.get _ hp.2.1).trans hp.1, Nat.lt_of_lt_of_le hp.2.1 h.size_le, ih hp.2.2⟩

/-- What is in a value that is spelled out is spelled out with one level less. -/
theorem Copy.of_mem {n : Nat} {v u : Value} {r : ObjRef} {c : Container} (h : Copy s o (n + 1) v r)
    (hv : Container.ofValue? v = some c) (hu : u ∈ c.values s) : ∃ q, Copy s o n u q := by
  obtain ⟨-, hspells⟩ := h
  cases v with
  | null | number k | float x | str t | func name bound => cases hv
  | list l =>
    cases hv
    obtain ⟨rs, -, hitems⟩ := hspells
    obtain ⟨q, -, hq⟩ := exists_of_mem hitems hu
    exact ⟨q, hq⟩
  | dict d =>
    cases hv
    obtain ⟨e, he, rfl⟩ := List.mem_map.mp hu
    obtain ⟨pairs, -, hentries⟩ := hspells
    obtain ⟨p, -, hp⟩ := exists_of_mem hentries he
    exact ⟨p.2, hp.2.2⟩

/-- What is spelled out leads to no cycle. -/
theorem Copy.not_cyclic {n : Nat} {v : Value} {r : ObjRef} (h : Copy s o n v r) :
    ¬Cyclic s v := by
  have hacc : ∀ c, Container.ofValue? v = some c → Acc (fun x y => Container.Holds s y x) c := by
    induction n generalizing v r with
    | zero => exact absurd h id
    | succ n ih =>
      intro c hc
      refine .intro c fun c' hheld => ?_
      obtain ⟨u, hu, hc'⟩ := hheld
      obtain ⟨q, hq⟩ := h.of_mem hc hu
      exact ih hq c' hc'
  rintro ⟨c, hc, hcycle⟩
  exact not_leadsToCycle_of_acc (hacc c hc) hcycle

/-! ### The run of a copy -/

/-- How a part of a copy ends: with objects, of which something holds, or because of a cycle. -/
inductive Copies {α : Type} (b : Bridge) (cyclic : Prop) (post : Objects → α → Prop) :
    EStateM.Result (Stop ConvertError) Bridge α → Prop
  | ok {x : α} {b' : Bridge} (hgrown : b.Grown b') (hpost : post b'.objects x) :
    Copies b cyclic post (.ok x b')
  | recursive {b' : Bridge} (hgrown : b.Grown b') (hcyclic : cyclic) :
    Copies b cyclic post (.error (.error .recursive) b')

variable {α β γ : Type} {b : Bridge} {cyclic : Prop} {post : Objects → α → Prop}

theorem Copies.alloc {x : Object} {post : Objects → ObjRef → Prop}
    (hpost : post (b.withNew x).objects (b.objects.alloc x).1) :
    Copies b cyclic post (Bridge.alloc x b) :=
  .ok (b.grown_withNew x) hpost

theorem Copies.bind {a : Act ConvertError α} {f : α → Act ConvertError β}
    {post' : Objects → β → Prop} (ha : Copies b cyclic post (a b))
    (hf : ∀ x b', b.Grown b' → post b'.objects x → Copies b' cyclic post' (f x b')) :
    Copies b cyclic post' ((a >>= f) b) := by
  rw [bind_apply]
  generalize a b = outcome at ha
  cases ha with
  | @ok x b' hgrown hpost =>
    have hrest := hf x b' hgrown hpost
    dsimp only
    generalize f x b' = outcome at hrest ⊢
    cases hrest with
    | ok hgrown' hpost' => exact .ok (hgrown.trans hgrown') hpost'
    | recursive hgrown' hcyclic => exact .recursive (hgrown.trans hgrown') hcyclic
  | recursive hgrown hcyclic => exact .recursive hgrown hcyclic

theorem Copies.of_cyclic {cyclic' : Prop} {outcome : EStateM.Result (Stop ConvertError) Bridge α}
    (h : Copies b cyclic post outcome) (hcyclic : cyclic → cyclic') :
    Copies b cyclic' post outcome := by
  cases h with
  | ok hgrown hpost => exact .ok hgrown hpost
  | recursive hgrown hc => exact .recursive hgrown (hcyclic hc)

/-- Several parts of a copy, one after another. -/
theorem Copies.mapM {f : γ → Act ConvertError α} {R : Objects → γ → α → Prop}
    (hextends : ∀ {o o' : Objects}, o.Extends o' → ∀ x y, R o x y → R o' x y) {xs : List γ}
    (hf : ∀ x ∈ xs, ∀ b', b.Grown b' → Copies b' cyclic (fun o => R o x) (f x b')) :
    Copies b cyclic (fun o => List.Forall₂ (R o) xs) (xs.mapM f b) := by
  induction xs generalizing b with
  | nil =>
    rw [List.mapM_nil]
    exact .ok .refl .nil
  | cons x xs ih =>
    rw [List.mapM_cons]
    refine .bind (hf x List.mem_cons_self b .refl) fun y b₁ hgrown₁ hy => ?_
    refine .bind (ih fun x' hx' b' hgrown' => ?_) fun ys b₂ hgrown₂ hys => ?_
    · exact hf x' (List.mem_cons_of_mem _ hx') b' (hgrown₁.trans hgrown')
    · exact .ok .refl (.cons (hextends hgrown₂.objects x y hy) hys)

/-- A new object under which something is found. -/
theorem new_apply (x : Object) :
    (b.objects.alloc x).1.id < (b.withNew x).objects.cells.size ∧
      (b.withNew x).objects.get (b.objects.alloc x).1 = x :=
  ⟨Nat.lt_of_lt_of_eq (Nat.lt_succ_self _) Bridge.size_withNew.symm,
    Bridge.get_withNew.trans (if_pos rfl)⟩

/-- A key of a dictionary, with the copy of the value under it. -/
def CopiedEntry (s : Store) (n : Nat) (o : Objects) (e : String × Value) (q : String × ObjRef) :
    Prop :=
  q.1 = e.1 ∧ Copy s o n e.2 q.2

/-- The entry of a new dictionary, with a key and a value. -/
def IsEntry (o : Objects) (e : String × ObjRef) (p : ObjRef × ObjRef) : Prop :=
  p.2 = e.2 ∧ o.get p.1 = .str e.1 ∧ p.1.id < o.cells.size

theorem newEntries_copies (copies : List (String × ObjRef)) :
    Copies b cyclic (fun o => List.Forall₂ (IsEntry o) copies)
      (copies.mapM (fun e => (liftM (newEntry .scripted e.1 e.2) : Act ConvertError _)) b) := by
  refine .mapM (R := IsEntry) (fun h e p hp => ?_) fun e _ b' _ => ?_
  · exact ⟨hp.1, (h.get _ hp.2.2).trans hp.2.1, Nat.lt_of_lt_of_le hp.2.2 h.size_le⟩
  · have hnew := new_apply (b := b') (.str e.1)
    exact .ok (b'.grown_withNew _) ⟨rfl, hnew.2, hnew.1⟩

/-- The entries of a copied dictionary, from the copies of its values and its new keys. -/
theorem forall₂_entries {n : Nat} {o₁ o₂ o' : Objects} (h₁ : o₁.Extends o') (h₂ : o₂.Extends o')
    {entries : List (String × Value)} {copies : List (String × ObjRef)}
    {pairs : List (ObjRef × ObjRef)}
    (hcopies : List.Forall₂ (CopiedEntry s n o₁) entries copies)
    (hpairs : List.Forall₂ (IsEntry o₂) copies pairs) :
    List.Forall₂ (fun e p => o'.get p.1 = .str e.1 ∧ p.1.id < o'.cells.size ∧ Copy s o' n e.2 p.2)
      entries pairs := by
  induction hcopies generalizing pairs with
  | nil =>
    cases hpairs
    exact .nil
  | @cons e q entries copies hq _ ih =>
    cases hpairs with
    | @cons _ p _ pairs hp hpairs =>
      obtain ⟨hvalue, hkey, hlt⟩ := hp
      refine .cons ⟨?_, Nat.lt_of_lt_of_le hlt h₂.size_le, ?_⟩ (ih hpairs)
      · rw [h₂.get _ hlt, hkey, hq.1]
      · rw [hvalue]
        exact hq.2.extends h₁

/-- A copy of a value within the containers of a path is made, unless there is a cycle. The path
holds different containers of the editor, so it never gets longer than the depth that is left. -/
theorem copyWithin_copies (depth : Nat) {s : Store} {path : List Container} {v : Value}
    (hstore : b.editor.store = s) (hkind : b.interpreter.kind = .scripted)
    (hpath : OnPath s path v) (hdepth : s.lists.size + s.dicts.size < depth + path.length) :
    Copies b (Cyclic s v) (fun o r => Copy s o (depth + 1) v r) (copyWithin depth path v b) := by
  induction depth generalizing b path v with
  | zero =>
    cases v with
    | null | number n | float x | str t | func name bound =>
      rw [copyWithin]
      exact .alloc (new_apply _)
    | list l | dict d =>
      have hlength := hpath.length_le
      omega
  | succ depth ih =>
    -- what is in a container is copied with the container on the path
    have hinner {c : Container} (hv : Container.ofValue? v = some c) (hc : c ∉ path) {u : Value}
        (hu : u ∈ c.values s) {b' : Bridge} (hgrown : b.Grown b') :
        Copies b' (Cyclic s v) (fun o r => Copy s o (depth + 1) u r)
          (copyWithin depth (c :: path) u b') := by
      refine .of_cyclic (ih ?_ ?_ (hpath.push hv hc hu) ?_) (Cyclic.of_mem hv hu)
      · rw [hgrown.editor, hstore]
      · rw [hgrown.interpreter, hkind]
      · rw [List.length_cons]
        omega
    cases v with
    | null | number n | float x | str t | func name bound =>
      rw [copyWithin]
      exact .alloc (new_apply _)
    | list l =>
      rw [copyWithin]
      by_cases hc : .list l ∈ path
      · rw [if_pos hc]
        exact .recursive .refl (hpath.cyclic rfl hc)
      · rw [if_neg hc]
        dsimp only
        rw [bind_apply, get_apply]
        dsimp only
        rw [hstore]
        refine .bind (.mapM (R := fun o => Copy s o (depth + 1)) (fun h _ _ => Copy.extends h)
          fun u hu b' hgrown => hinner rfl hc hu hgrown) fun rs b' hgrown hrs => ?_
        have hnew := new_apply (b := b') (.list rs)
        refine .alloc ⟨hnew.1, rs, hnew.2, hrs.imp fun _ _ => Copy.extends ?_⟩
        exact (b'.grown_withNew _).objects
    | dict d =>
      rw [copyWithin]
      by_cases hc : .dict d ∈ path
      · rw [if_pos hc]
        exact .recursive .refl (hpath.cyclic rfl hc)
      · rw [if_neg hc]
        dsimp only
        rw [bind_apply, get_apply]
        dsimp only
        rw [hstore]
        refine .bind (.mapM (R := CopiedEntry s (depth + 1))
          (fun h _ _ hq => ⟨hq.1, hq.2.extends h⟩) fun e he b₁ hgrown => ?_) fun qs b₁ hgrown hqs => ?_
        · refine .bind (hinner rfl hc (List.mem_map_of_mem he) hgrown) fun r b₂ _ hr => ?_
          exact .ok .refl ⟨rfl, hr⟩
        · rw [bind_apply, get_apply]
          dsimp only
          rw [hgrown.interpreter, hkind]
          refine .bind (newEntries_copies qs) fun pairs b₂ hgrown₂ hpairs => ?_
          have hnew := new_apply (b := b₂) (.dict pairs)
          refine .alloc ⟨hnew.1, pairs, hnew.2, ?_⟩
          have hextends := (b₂.grown_withNew (.dict pairs)).objects
          exact forall₂_entries (hgrown₂.objects.trans hextends) hextends hqs hpairs

/-- A value is copied exactly when it does not lead to a container that reaches itself. -/
theorem toForeign_copies (hkind : b.interpreter.kind = .scripted) (v : Value) :
    Copies b (Cyclic b.editor.store v)
      (fun o r => Copy b.editor.store o (containerCount b + 2) v r) (toForeign v b) :=
  copyWithin_copies _ rfl hkind .nil (Nat.lt_succ_self _)

/-- For every store of containers, a value is copied or fails as recursive: it fails exactly when a
list or a dictionary that it leads to reaches itself. -/
theorem toForeign_ends (hkind : b.interpreter.kind = .scripted) (v : Value) :
    ((∃ b', toForeign v b = .error (.error .recursive) b') ↔ Cyclic b.editor.store v) ∧
      ((∃ r b', toForeign v b = .ok r b') ↔ ¬Cyclic b.editor.store v) := by
  have hcopies := toForeign_copies hkind v
  generalize toForeign v b = outcome at hcopies ⊢
  cases hcopies with
  | ok _ hcopy =>
    have hnot := hcopy.not_cyclic
    refine ⟨⟨?_, fun h => absurd h hnot⟩, ⟨fun _ => hnot, fun _ => ⟨_, _, rfl⟩⟩⟩
    rintro ⟨b', h⟩
    cases h
  | recursive _ hcyclic =>
    refine ⟨⟨fun _ => hcyclic, fun _ => ⟨_, rfl⟩⟩, ⟨?_, fun h => absurd hcyclic h⟩⟩
    rintro ⟨r, b', h⟩
    cases h

/-- A list that holds itself is not copied, and a list that holds another one twice is. -/
theorem toForeign_loop_and_diamond :
    let store : Store := { lists := #[{ items := [.list ⟨0⟩] },
      { items := [.list ⟨2⟩, .list ⟨2⟩] }, { items := [] }] }
    let b : Bridge := { Bridge.fresh with editor := { Bridge.fresh.editor with store } }
    (∃ b', toForeign (.list ⟨0⟩) b = .error (.error .recursive) b') ∧
      ∃ r b', toForeign (.list ⟨1⟩) b = .ok r b' := by
  intro store b
  have hloop : Container.Holds store (.list ⟨0⟩) (.list ⟨0⟩) := ⟨.list ⟨0⟩, .head _, rfl⟩
  have hempty (c : Container) : ¬Container.Holds store (.list ⟨2⟩) c := by
    rintro ⟨v, hv, -⟩
    cases hv
  have hdiamond (c : Container) (h : Container.Holds store (.list ⟨1⟩) c) : c = .list ⟨2⟩ := by
    obtain ⟨v, hv, hc⟩ := h
    have hv : v = .list ⟨2⟩ := by
      rcases List.mem_cons.mp hv with rfl | hv
      · rfl
      · exact List.mem_singleton.mp hv
    rw [hv] at hc
    exact (Option.some.inj hc).symm
  refine ⟨(toForeign_ends rfl _).1.mpr ⟨.list ⟨0⟩, rfl, .list ⟨0⟩, .refl, .single hloop⟩,
    (toForeign_ends rfl _).2.mpr ?_⟩
  rintro ⟨c, hc, hcycle⟩
  cases hc
  refine not_leadsToCycle_of_acc (.intro _ fun c hheld => ?_) hcycle
  rw [hdiamond c hheld]
  exact .intro _ fun c' hheld' => absurd hheld' (hempty c')

end Convert

end ScriptBridge
