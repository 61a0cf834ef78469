import ScriptBridge.Proofs.Bridge.Runs
import ScriptBridge.Proofs.Host.Evaluation

/-!
# The operations of the bridge run by moves

Objects, the registry, and what a script does to the editor and its containers.
-/

namespace ScriptBridge

open Foreign (ObjRef Object Objects ProxyClass Target)
open Host (Editor Entity Store LockError)
open ScriptBridge.Computation

namespace Foreign

/-- Whether an object is a proxy. -/
def Object.isProxy : Object → Bool
  | .proxy .. => true
  | _ => false

theorem Object.ne_proxy {x : Object} (hx : x.isProxy = false) (cls : ProxyClass) (t : Target) :
    x ≠ .proxy cls t := by
  rintro rfl
  cases hx

theorem Object.Plain.of_not_proxy {x : Object} (h : x.Scripted) (hx : x.isProxy = false) :
    x.Plain :=
  ⟨h, fun cls t heq => absurd heq (Object.ne_proxy hx cls t)⟩

theorem Object.plain_proxy {cls : ProxyClass} {t : Target} (hfits : cls.fits t)
    (hentity : t.entity? = none) : (Object.proxy cls t).Plain :=
  ⟨hfits, fun _ _ h => by cases h; exact hentity⟩

end Foreign

namespace Bridge

variable {b : Bridge} {r : ObjRef}

/-! ### The editor -/

/-- What was destroyed by a change of the editor is invalidated by it. -/
theorem Sound.invalidated (hb : b.Sound) (e : Editor) :
    Invalidated { b with editor := e } (b.withEditor e)
      (e.departed.drop b.editor.departed.length) :=
  invalidated_all (b := { b with editor := e }) hb.registered _

theorem Sound.held_withEditor (hb : b.Sound) (e : Editor) : (b.withEditor e).held = b.held := by
  rw [(hb.invalidated e).eq]

theorem withEditor_eq {e : Editor} (h : e.departed = b.editor.departed) :
    b.withEditor e = { b with editor := e } := by
  simp [withEditor, h]

/-- The editor changes by moves, and nothing is destroyed. -/
theorem Move.editor {e : Editor} (h : b.editor.Moves e) (hdeparted : e.departed = b.editor.departed) :
    b.Move { b with editor := e } :=
  withEditor_eq hdeparted ▸ .edit h

/-! ### The registry -/

/-- What a request for the proxy of an entity does. -/
theorem entity_apply (b : Bridge) (key : Entity) : Bridge.entity key b =
    if b.loan = .exclusive then .error (.error (.host busyText)) b
    else if !b.editor.has key then .error (.error (.deleted key.kind)) b
    else match b.liveEntries.lookup key with
      | some r => .ok r { b with held := r :: b.held }
      | none =>
        let r := (b.objects.alloc (proxyOf key)).1
        .ok r { b.withNew (proxyOf key) with registry := b.liveEntries ++ [(key, r)] } := by
  unfold Bridge.entity Bridge.readEditor
  simp only [bind_apply, get_apply]
  by_cases hloan : b.loan = .exclusive
  · simp only [hloan, if_true]
    rfl
  simp only [hloan, if_false, pure_apply]
  by_cases hhas : b.editor.has key = true
  · simp only [hhas, Bool.not_true, Bool.false_eq_true, if_false, bind_apply, get_apply]
    cases b.liveEntries.lookup key <;> rfl
  · simp only [hhas, Bool.not_false, if_true]
    rfl

end Bridge

namespace Act.RunsFrom

variable {ε α : Type} {b : Bridge} {r : ObjRef}

theorem alloc {x : Object} (hx : x.Plain) (hreferences : ∀ s ∈ x.references, b.Alive s) :
    (Bridge.alloc x : Act ε ObjRef).RunsFrom b fun r => [r] :=
  .ok (.single (.alloc hx hreferences)) (List.subset_cons_self _ _)
    (List.cons_subset.mpr ⟨List.mem_cons_self, List.nil_subset _⟩)

/-- An object that is alive is used. -/
theorem hold (hr : b.Alive r) :
    (do Bridge.hold r; Pure.pure r : Act ε ObjRef).RunsFrom b fun r => [r] := by
  refine .ok (.single (.roots rfl fun s hs => ?_)) (List.subset_cons_self _ _)
    (List.cons_subset.mpr ⟨List.mem_cons_self, List.nil_subset _⟩)
  rcases List.mem_cons.mp hs with rfl | hs
  · exact .inr hr
  · exact .inl hs

theorem setObject {x : Object} (hx : x.Scripted) (hnew : x.isProxy = false)
    (hold : ∀ cls t, b.objects.get r ≠ .proxy cls t) (hreferences : ∀ s ∈ x.references, b.Alive s) :
    (Bridge.setObject r x : Act ε Unit).RunsFrom b fun _ => [] :=
  .modify (.set (.of_not_proxy hx hnew) (Object.ne_proxy hnew) hold hreferences) (List.Subset.refl _)

end Act.RunsFrom

namespace Act.Runs

variable {ε δ α β γ : Type} {args : List ObjRef} {kept : α → List ObjRef}

/-! ### Sequences -/

theorem fail_bind {e : ε} {f : β → Act ε α} : (Act.fail e >>= f).Runs args kept :=
  fun _ _ _ => .fail

/-- A check in front of a computation. -/
theorem guard {c : Prop} [Decidable c] {e : ε} {f : Unit → Act ε α} (hf : (f ()).Runs args kept) :
    (if c then Act.fail e >>= f else f ()).Runs args kept :=
  fun b hb hargs => .guard (hf b hb hargs)

theorem mapM {xs : List γ} {f : γ → Act ε α} (hf : ∀ x ∈ xs, (f x).Runs args kept) :
    (xs.mapM f).Runs args fun ys => ys.flatMap kept := by
  induction xs generalizing args with
  | nil =>
    rw [List.mapM_nil]
    exact .pure (List.nil_subset _)
  | cons x xs ih =>
    rw [List.mapM_cons]
    refine .bind (hf x List.mem_cons_self) fun y => .bind (ih fun x' hx' => ?_) fun ys => .pure ?_
    · exact (hf x' (List.mem_cons_of_mem _ hx')).weaken (List.subset_append_right _ _)
    · rw [List.flatMap_cons]
      refine List.append_subset.mpr ⟨?_, List.subset_append_left _ _⟩
      exact List.subset_append_of_subset_right _ (List.subset_append_left _ _)

/-- A loop without results. -/
theorem forIn {xs : List γ} {f : γ → PUnit → Act ε (ForInStep PUnit)}
    (hf : ∀ x ∈ xs, (f x ⟨⟩).Runs args fun _ => []) :
    (ForIn.forIn xs PUnit.unit f).Runs args fun _ => [] := by
  induction xs with
  | nil =>
    rw [List.forIn_nil]
    exact .pure (List.nil_subset _)
  | cons x xs ih =>
    rw [List.forIn_cons]
    refine .bind (hf x List.mem_cons_self) fun step => ?_
    cases step with
    | done _ => exact .pure (List.nil_subset _)
    | yield _ => exact ih fun x' hx' => hf x' (List.mem_cons_of_mem _ hx')

/-- A state change after a computation that nothing depends on. -/
theorem ensuring {a : Act ε α} {f : Bridge → Bridge} (ha : a.Runs args kept)
    (hcore : ∀ b, (f b).core = b.core) (hroots : ∀ b, (f b).roots = b.roots)
    (hheld : ∀ b, (f b).held = b.held) : Act.Runs args (Act.ensuring f a : Act ε α) kept := by
  intro b hb hargs
  have hreaches : b.Reaches (fun x b' => kept x ⊆ b'.held) (a b) := ha b hb hargs
  have hmove (b : Bridge) : b.Move (f b) := .roots (hcore b) fun r hr => .inl (hroots b ▸ hr)
  unfold RunsFrom Act.ensuring
  generalize a b = outcome at hreaches ⊢
  cases hreaches with
  | @ok x b' hmoves hheld' hx =>
    exact .ok (hmoves.tail (hmove b')) ((hheld b').symm ▸ hheld') fun _ hr =>
      (hheld b').symm ▸ hx hr
  | @error stop b' hmoves hheld' =>
    exact .error (hmoves.tail (hmove b')) ((hheld b').symm ▸ hheld')

/-! ### Objects -/

theorem alloc {x : Object} (hx : x.Plain) (hreferences : x.references ⊆ args) :
    (Bridge.alloc x : Act ε ObjRef).Runs args fun r => [r] :=
  fun _ hb hargs => .alloc hx fun _ hs => hb.alive_of_mem_held (hargs (hreferences hs))

theorem wrap {cls : ProxyClass} {t : Target} (hfits : cls.fits t) (hentity : t.entity? = none) :
    (Bridge.wrap cls t : Act ε ObjRef).Runs args fun r => [r] :=
  .alloc (Object.plain_proxy hfits hentity) (List.nil_subset _)

/-! ### The editor -/

theorem readEditor : Bridge.readEditor.Runs args fun _ => [] := by
  refine .bind .get fun b => ?_
  split
  · exact .fail
  · exact .pure (List.nil_subset _)

theorem demandEditor : Bridge.demandEditor.Runs args fun _ => [] := by
  refine .bind .get fun b => ?_
  split
  · exact .fail
  · exact .pure (List.nil_subset _)

theorem host {a : Host.Eval α} (ha : Host.Orderly a) :
    (Bridge.host a).Runs args fun _ => [] := by
  intro b hb _
  have hmoves := ha b.editor hb.wellFormed
  unfold RunsFrom Bridge.host
  cases h : a b.editor with
  | ok x e =>
    rw [h] at hmoves
    exact .ok (.single (.edit hmoves)) ((hb.held_withEditor e).symm ▸ List.Subset.refl _)
      (List.nil_subset _)
  | error stop e =>
    rw [h] at hmoves
    exact .error (.single (.edit hmoves)) ((hb.held_withEditor e).symm ▸ List.Subset.refl _)

theorem change {c : Host.Change α} (hc : Host.Orderly c) :
    (Bridge.change c).Runs args fun _ => [] := by
  intro b hb _
  have hmoves := hc b.editor hb.wellFormed
  unfold RunsFrom Bridge.change
  cases h : c b.editor with
  | ok x e =>
    rw [h] at hmoves
    exact .ok (.single (.edit hmoves)) ((hb.held_withEditor e).symm ▸ List.Subset.refl _)
      (List.nil_subset _)
  | error err e =>
    rw [h] at hmoves
    exact .error (.single (.edit hmoves)) ((hb.held_withEditor e).symm ▸ List.Subset.refl _)

theorem serve {a : Host.Eval α} (ha : Host.Orderly a) : (Bridge.serve a).Runs args fun _ => [] :=
  .bind demandEditor fun _ => .mapError (.host ha)

theorem hostWrite {c : Host.Change α} (hc : Host.Orderly c) :
    (Bridge.hostWrite c).Runs args fun _ => [] :=
  .bind .get fun _ => .guard (.bind demandEditor fun _ => .mapError (.change hc))

theorem store {f : Store → Except LockError Store} (hf : ∀ s s', f s = .ok s' → s.Step s') :
    (Bridge.store f).Runs args fun _ => [] := by
  refine .bind_get fun b hb hargs => ?_
  cases h : f b.editor.store with
  | ok s =>
    exact .ok (.single (.editor (.single (.store (hf _ _ h))) rfl)) (List.Subset.refl _)
      (List.nil_subset _)
  | error e => exact .fail

theorem say {m : Host.Message} : (Bridge.say m : Act ε Unit).Runs args fun _ => [] := by
  intro b _ _
  unfold RunsFrom Bridge.say
  rw [modify_apply]
  split
  · exact .ok (.single (.editor (.single (.say m)) rfl)) (List.Subset.refl _) (List.nil_subset _)
  · exact .ok .refl (List.Subset.refl _) (List.nil_subset _)

theorem newList {items : List Host.Value} :
    (Bridge.newList items : Act ε Host.ListRef).Runs args fun _ => [] :=
  fun _ _ _ => .ok (.single (.editor (.single (.store (.newList items))) rfl))
    (List.Subset.refl _) (List.nil_subset _)

theorem newDict {entries : List (String × Host.Value)} {scope : Host.Scope} :
    (Bridge.newDict entries scope : Act ε Host.DictRef).Runs args fun _ => [] :=
  fun _ _ _ => .ok (.single (.editor (.single (.store (.newDict entries scope))) rfl))
    (List.Subset.refl _) (List.nil_subset _)

/-! ### The registry -/

/-- A request for the proxy of an entity. -/
theorem entity {key : Entity} : (Bridge.entity key).Runs args fun r => [r] := by
  intro b _ _
  unfold RunsFrom
  rw [Bridge.entity_apply]
  split
  · exact .error .refl (List.Subset.refl _)
  split
  · exact .error .refl (List.Subset.refl _)
  rename_i hkey
  have hhas : b.editor.has key = true := by simpa using hkey
  cases hlookup : b.liveEntries.lookup key with
  | none =>
    exact .ok (.single (.register hhas hlookup)) (List.subset_cons_self _ _)
      (List.cons_subset.mpr ⟨List.mem_cons_self, List.nil_subset _⟩)
  | some r => exact RunsFrom.hold (Bridge.mem_liveEntries.mp (Lookup.mem_of_lookup hlookup)).2

end Act.Runs

end ScriptBridge
