import ScriptBridge.Proofs.Bridge.Move

/-!
# Running by moves

A computation runs by moves when it changes a sound bridge only so, keeps in use what was in use,
and ends with what it hands on in use. The objects that it is given have to be in use.
-/

namespace ScriptBridge

open Foreign (ObjRef Object Objects ProxyClass Target)
open Host (Editor Entity)
open ScriptBridge.Computation

/-- An outcome that a bridge reaches by moves, with all in use that was, and what holds of a
result. -/
inductive Bridge.Reaches {ε α : Type} (b : Bridge) (post : α → Bridge → Prop) :
    EStateM.Result (Stop ε) Bridge α → Prop
  | ok {x : α} {b' : Bridge} (hmoves : b.Moves b') (hheld : b.held ⊆ b'.held) (hpost : post x b') :
    b.Reaches post (.ok x b')
  | error {stop : Stop ε} {b' : Bridge} (hmoves : b.Moves b') (hheld : b.held ⊆ b'.held) :
    b.Reaches post (.error stop b')

/-- A computation that from one bridge changes it by moves, and keeps something of its result in
use. -/
def Act.RunsFrom {ε α : Type} (b : Bridge) (a : Act ε α) (kept : α → List ObjRef) : Prop :=
  b.Reaches (fun x b' => kept x ⊆ b'.held) (a b)

/-- A computation that from one bridge changes it by moves, and gives objects that are alive. -/
def Act.Gives {ε : Type} (b : Bridge) (a : Act ε (List ObjRef)) : Prop :=
  b.Reaches (fun rs b' => ∀ r ∈ rs, b'.Alive r) (a b)

/-- A computation that does so from each sound bridge in which what it is given is in use. -/
def Act.Runs {ε α : Type} (args : List ObjRef) (a : Act ε α) (kept : α → List ObjRef) : Prop :=
  ∀ b : Bridge, b.Sound → args ⊆ b.held → a.RunsFrom b kept

namespace Bridge

variable {ε α β : Type} {b b' : Bridge} {post post' : α → Bridge → Prop}

theorem Moves.sound (h : b.Moves b') (hb : b.Sound) : b'.Sound := (h.later hb).sound

theorem mem_roots {r : ObjRef} : r ∈ b.roots ↔ r ∈ b.held ∨ r ∈ b.interpreter.names.map (·.2) ∨
    r ∈ b.interpreter.modules.map (·.2) ∨ r ∈ b.interpreter.stdout ∨ r ∈ b.interpreter.stderr ∨
    r ∈ b.objects.classDictionaries := by
  simp [roots]

/-- Less is in use. -/
theorem Moves.release (h : b.Moves b') {held : List ObjRef} (hheld : held ⊆ b'.held) :
    b.Moves { b' with held } := by
  refine h.tail (.roots rfl fun r hr => .inl ?_)
  rw [mem_roots] at hr ⊢
  exact hr.imp_left fun h => hheld h

/-- The same outcome after a first part of the way. -/
theorem Reaches.trans {outcome : EStateM.Result (Stop ε) Bridge α} (hmoves : b.Moves b')
    (hheld : b.held ⊆ b'.held) (h : b'.Reaches post outcome) : b.Reaches post outcome := by
  cases h with
  | ok hmoves' hheld' hpost =>
    exact .ok (hmoves.trans hmoves') (List.Subset.trans hheld hheld') hpost
  | error hmoves' hheld' =>
    exact .error (hmoves.trans hmoves') (List.Subset.trans hheld hheld')

/-- Less holds of a result. -/
theorem Reaches.mono {outcome : EStateM.Result (Stop ε) Bridge α} (h : b.Reaches post outcome)
    (hpost : ∀ x b', post x b' → post' x b') : b.Reaches post' outcome := by
  cases h with
  | ok hmoves hheld hx => exact .ok hmoves hheld (hpost _ _ hx)
  | error hmoves hheld => exact .error hmoves hheld

/-- What follows a computation is described from a bridge in front of both. -/
theorem Reaches.followed {a : Act ε α} {f : α → Act ε β} {post' : β → Bridge → Prop} {s : Bridge}
    (ha : b.Reaches post (a s))
    (hf : ∀ x b', a s = .ok x b' → b.Moves b' → b.held ⊆ b'.held → post x b' →
      b.Reaches post' (f x b')) : b.Reaches post' ((a >>= f) s) := by
  rw [bind_apply]
  generalize h : a s = outcome at ha
  cases ha with
  | ok hmoves hheld hx => exact hf _ _ h hmoves hheld hx
  | error hmoves hheld => exact .error hmoves hheld

/-- What follows a computation goes on from where that ended. -/
theorem Reaches.bind {a : Act ε α} {f : α → Act ε β} {post' : β → Bridge → Prop} (hb : b.Sound)
    (ha : b.Reaches post (a b))
    (hf : ∀ x b', a b = .ok x b' → b'.Sound → b.held ⊆ b'.held → post x b' →
      b'.Reaches post' (f x b')) : b.Reaches post' ((a >>= f) b) :=
  ha.followed fun x b' h hmoves hheld hx =>
    .trans hmoves hheld (hf x b' h (hmoves.sound hb) hheld hx)

end Bridge

namespace Act.RunsFrom

variable {ε α β : Type} {b : Bridge} {kept : α → List ObjRef} {args : List ObjRef}

theorem pure {x : α} (hkept : kept x ⊆ b.held) :
    (Pure.pure x : Act ε α).RunsFrom b kept :=
  .ok .refl (List.Subset.refl _) hkept

theorem fail {e : ε} : (Act.fail e : Act ε α).RunsFrom b kept :=
  .error .refl (List.Subset.refl _)

theorem crash : (Act.crash : Act ε α).RunsFrom b kept :=
  .error .refl (List.Subset.refl _)

/-- What follows a computation starts with what it kept in use. -/
theorem bind {a : Act ε α} {f : α → Act ε β} {kept' : β → List ObjRef} (hb : b.Sound)
    (hargs : args ⊆ b.held) (ha : a.RunsFrom b kept)
    (hf : ∀ x, (f x).Runs (kept x ++ args) kept') : (a >>= f).RunsFrom b kept' :=
  Bridge.Reaches.bind hb ha fun x b' _ hb' hheld hx =>
    hf x b' hb' (List.append_subset.mpr ⟨hx, List.Subset.trans hargs hheld⟩)

/-- A check in front of a computation. -/
theorem guard {c : Prop} [Decidable c] {e : ε} {f : Unit → Act ε α}
    (hf : (f ()).RunsFrom b kept) : (if c then Act.fail e >>= f else f ()).RunsFrom b kept := by
  split
  · exact .error .refl (List.Subset.refl _)
  · exact hf

theorem bind_get {f : Bridge → Act ε β} {kept : β → List ObjRef} (hf : (f b).RunsFrom b kept) :
    (MonadState.get >>= f).RunsFrom b kept := hf

/-- A computation that starts with a step that changes nothing. -/
theorem bind_eq {a : Act ε α} {f : α → Act ε β} {kept : β → List ObjRef} {x : α}
    (ha : a b = .ok x b) (hf : (f x).RunsFrom b kept) : (a >>= f).RunsFrom b kept := by
  unfold RunsFrom
  rw [bind_apply, ha]
  exact hf

/-- One move that keeps what was in use. -/
theorem modify {f : Bridge → Bridge} (hmove : b.Move (f b)) (hheld : b.held ⊆ (f b).held) :
    (modify f : Act ε PUnit).RunsFrom b fun _ => [] :=
  .ok (.single hmove) hheld (List.nil_subset _)

/-- Another bridge of which the invariant depends on nothing else. -/
theorem set_frame {b' : Bridge} (hcore : b'.core = b.core) (hroots : b'.roots = b.roots)
    (hheld : b'.held = b.held) : (set b' : Act ε PUnit).RunsFrom b fun _ => [] :=
  .ok (.single (.roots hcore fun _ hr => .inl (hroots ▸ hr))) (hheld ▸ List.Subset.refl _)
    (List.nil_subset _)

end Act.RunsFrom

namespace Act.Gives

variable {ε α : Type} {b : Bridge} {rs : List ObjRef}

theorem pure (hrs : ∀ r ∈ rs, b.Alive r) : (Pure.pure rs : Act ε (List ObjRef)).Gives b :=
  .ok .refl (List.Subset.refl _) hrs

/-- What is in use is alive. -/
theorem of_runsFrom {a : Act ε (List ObjRef)} (hb : b.Sound) (h : a.RunsFrom b id) :
    a.Gives b := by
  unfold RunsFrom at h
  unfold Gives
  generalize a b = outcome at h ⊢
  cases h with
  | ok hmoves hheld hrs =>
    exact .ok hmoves hheld fun r hr => (hmoves.sound hb).alive_of_mem_held (hrs hr)
  | error hmoves hheld => exact .error hmoves hheld

end Act.Gives

namespace Act.Runs

variable {ε δ α β : Type} {args args' : List ObjRef} {kept kept' : α → List ObjRef}

/-- More is given, and less is kept. -/
theorem mono {a : Act ε α} (h : a.Runs args kept) (hargs : args ⊆ args')
    (hkept : ∀ x, kept' x ⊆ kept x) : a.Runs args' kept' :=
  fun b hb hb' => Bridge.Reaches.mono (h b hb (List.Subset.trans hargs hb')) fun x _ hx =>
    List.Subset.trans (hkept x) hx

theorem weaken {a : Act ε α} (h : a.Runs args kept) (hargs : args ⊆ args') : a.Runs args' kept :=
  h.mono hargs fun _ => List.Subset.refl _

theorem pure {x : α} (hkept : kept x ⊆ args) : (Pure.pure x : Act ε α).Runs args kept :=
  fun _ _ hargs => .pure (List.Subset.trans hkept hargs)

theorem fail {e : ε} : (Act.fail e : Act ε α).Runs args kept := fun _ _ _ => .fail

theorem crash : (Act.crash : Act ε α).Runs args kept := fun _ _ _ => .crash

theorem get : (MonadState.get : Act ε Bridge).Runs args fun _ => [] :=
  fun _ _ _ => .ok .refl (List.Subset.refl _) (List.nil_subset _)

theorem bind {a : Act ε α} {f : α → Act ε β} {kept' : β → List ObjRef} (ha : a.Runs args kept)
    (hf : ∀ x, (f x).Runs (kept x ++ args) kept') : (a >>= f).Runs args kept' :=
  fun b hb hargs => .bind hb hargs (ha b hb hargs) hf

/-- A computation that starts by reading the bridge. -/
theorem bind_get {f : Bridge → Act ε α}
    (hf : ∀ b : Bridge, b.Sound → args ⊆ b.held → (f b).RunsFrom b kept) :
    (MonadState.get >>= f).Runs args kept :=
  fun b hb hargs => hf b hb hargs

/-- A computation that starts by reading an object. -/
theorem bind_object {r : ObjRef} {f : Object → Act ε α}
    (hf : ∀ b : Bridge, b.Sound → args ⊆ b.held → (f (b.objects.get r)).RunsFrom b kept) :
    (Bridge.object r >>= f).Runs args kept :=
  fun b hb hargs => hf b hb hargs

theorem map {a : Act ε α} {f : α → β} {kept' : β → List ObjRef} (ha : a.Runs args kept)
    (hkept : ∀ x, kept' (f x) ⊆ kept x) : (f <$> a).Runs args kept' := by
  have h : (a >>= fun x => Pure.pure (f x)).Runs args kept' :=
    .bind ha fun x => .pure (List.subset_append_of_subset_left _ (hkept x))
  exact h

theorem mapError {a : Act ε α} {f : ε → δ} (h : a.Runs args kept) :
    (a.mapError f).Runs args kept := by
  intro b hb hargs
  have hreaches : b.Reaches (fun x b' => kept x ⊆ b'.held) (a b) := h b hb hargs
  unfold RunsFrom Act.mapError
  generalize a b = outcome at hreaches ⊢
  cases hreaches with
  | ok hmoves hheld hx => exact .ok hmoves hheld hx
  | error hmoves hheld => exact .error hmoves hheld

theorem attempt {a : Act ε α} (h : a.Runs args kept) :
    Act.Runs args (Act.attempt a : Act δ (Except ε α))
      fun result => (result.toOption.map kept).getD [] := by
  intro b hb hargs
  have hreaches : b.Reaches (fun x b' => kept x ⊆ b'.held) (a b) := h b hb hargs
  unfold RunsFrom Act.attempt
  generalize a b = outcome at hreaches ⊢
  cases hreaches with
  | ok hmoves hheld hx => exact .ok hmoves hheld hx
  | @error stop b' hmoves hheld =>
    cases stop with
    | error e => exact .ok hmoves hheld (List.nil_subset _)
    | crash => exact .error hmoves hheld

theorem ofExcept {x : Except ε α} (hkept : ∀ y, x = .ok y → kept y ⊆ args) :
    (Act.ofExcept x).Runs args kept := by
  cases x with
  | ok y => exact .pure (hkept y rfl)
  | error e => exact .fail

/-- A change of nothing that the invariant depends on. -/
theorem modify_frame {f : Bridge → Bridge} (hcore : ∀ b, (f b).core = b.core)
    (hroots : ∀ b, (f b).roots = b.roots) (hheld : ∀ b, (f b).held = b.held) :
    (modify f : Act ε PUnit).Runs args fun _ => [] :=
  fun b _ _ => .modify (.roots (hcore b) fun _ hr => .inl (hroots b ▸ hr))
    (hheld b ▸ List.Subset.refl _)

/-- Of what a computation used only a part stays in use. -/
theorem confine {a : Act ε α} (h : a.Runs args kept) (hkept : ∀ x, kept' x ⊆ kept x) :
    (Bridge.confine kept' a).Runs args kept' := by
  intro b hb hargs
  have hreaches : b.Reaches (fun x b' => kept x ⊆ b'.held) (a b) := h b hb hargs
  unfold RunsFrom Bridge.confine
  generalize a b = outcome at hreaches ⊢
  cases hreaches with
  | ok hmoves hheld hx =>
    have hx' := List.Subset.trans (hkept _) hx
    refine .ok (hmoves.release (List.append_subset.mpr ⟨hx', hheld⟩)) ?_ ?_
    · exact List.subset_append_right _ _
    · exact List.subset_append_left _ _
  | error hmoves hheld => exact .error (hmoves.release hheld) (List.Subset.refl _)

end Act.Runs

end ScriptBridge
