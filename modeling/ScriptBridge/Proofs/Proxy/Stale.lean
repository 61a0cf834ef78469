import ScriptBridge.Proofs.Proxy.Refusal
import ScriptBridge.Proofs.Proxy.Span

/-!
# Where operations of lines break down

Only one step of the operations on the lines of a buffer or a range can break down: resolving a
range that starts past the line after the last one of its buffer. An operation that resolves the
range breaks down exactly then, and reading the attributes of a range never does.
-/

namespace ScriptBridge

open Foreign (ObjRef Object EndRef ProxyClass Target Slice Shape)
open Host (Change)
open ScriptBridge.Computation

variable {ε δ α β γ : Type}

/-- A computation breaks down, and gives neither a result nor a failure. -/
def Breaks (a : Act ε α) (b : Bridge) : Prop := ∃ b', a b = .error .crash b'

/-- A computation never breaks down. -/
def Act.Steady (a : Act ε α) : Prop := ∀ b, ¬Breaks a b

theorem breaks_mapError_iff {a : Act ε α} {f : ε → δ} {b : Bridge} :
    Breaks (a.mapError f) b ↔ Breaks a b := by
  unfold Breaks Act.mapError
  cases a b with
  | ok x b' => simp
  | error stop b' => cases stop <;> simp [Stop.map]

/-- A sequence breaks down in its first or in its second part. -/
theorem breaks_bind_iff {a : Act ε α} {f : α → Act ε β} {b : Bridge} :
    Breaks (a >>= f) b ↔ Breaks a b ∨ ∃ x b', a b = .ok x b' ∧ Breaks (f x) b' := by
  unfold Breaks
  rw [bind_apply]
  cases a b with
  | ok x b' => simp
  | error stop b' => simp

theorem Breaks.of_eq {a a' : Act ε α} {b : Bridge} (heq : a b = a' b) :
    Breaks a b ↔ Breaks a' b := by
  unfold Breaks
  rw [heq]

namespace Act.Steady

theorem pure (x : α) : (Pure.pure x : Act ε α).Steady := by
  rintro b ⟨b', h⟩
  cases h

theorem fail (e : ε) : (Act.fail e : Act ε α).Steady := by
  rintro b ⟨b', h⟩
  cases h

theorem get : (MonadState.get : Act ε Bridge).Steady := by
  rintro b ⟨b', h⟩
  cases h

theorem modify (f : Bridge → Bridge) : (modify f : Act ε PUnit).Steady := by
  rintro b ⟨b', h⟩
  cases h

theorem modifyGet (f : Bridge → α × Bridge) : (modifyGet f : Act ε α).Steady := by
  rintro b ⟨b', h⟩
  cases h

theorem bind {a : Act ε α} {f : α → Act ε β} (ha : a.Steady) (hf : ∀ x, (f x).Steady) :
    (a >>= f).Steady := by
  intro b h
  rcases breaks_bind_iff.mp h with h | ⟨x, b', -, h⟩
  · exact ha b h
  · exact hf x b' h

theorem map {a : Act ε α} (ha : a.Steady) (f : α → β) : (f <$> a).Steady := by
  rw [map_eq_pure_bind]
  exact .bind ha fun _ => .pure _

theorem mapError {a : Act ε α} (ha : a.Steady) (f : ε → δ) : (a.mapError f).Steady :=
  fun b h => ha b (breaks_mapError_iff.mp h)

theorem ofExcept (x : Except ε α) : (Act.ofExcept x).Steady := by
  cases x with
  | ok y => exact .pure y
  | error e => exact .fail e

theorem mapM {f : γ → Act ε α} (hf : ∀ x, (f x).Steady) (xs : List γ) : (xs.mapM f).Steady :=
  of_mapM (P := Steady) .pure .bind hf xs

/-- A check in front of a computation. -/
theorem guard {c : Prop} [Decidable c] {e : ε} {f : Unit → Act ε α} (hf : (f ()).Steady) :
    (if c then Act.fail e >>= f else f ()).Steady := by
  split
  · exact .bind (.fail e) fun _ => hf
  · exact hf

end Act.Steady

namespace Bridge

theorem steady_inspect (r : ObjRef) : (inspect r).Steady := .bind .get fun _ => .ofExcept _

theorem steady_typeName (r : ObjRef) : (typeName r : Act ε String).Steady :=
  .bind .get fun _ => .pure _

theorem steady_alloc (x : Object) : (alloc x : Act ε ObjRef).Steady := .modifyGet _

theorem steady_itemsOf (r : ObjRef) : (itemsOf r).Steady := by
  refine .bind .get fun b => ?_
  dsimp only
  split
  · exact .pure _
  · exact .fail _
  · split
    · exact .mapM steady_alloc _
    · exact .mapM steady_alloc _
    · exact .mapM steady_alloc _
    · split
      · exact .mapM steady_alloc _
      · exact .fail _
    · exact .fail _
    · exact .fail _
    · split
      · exact .pure _
      · exact .fail _
    · exact .fail _
    · exact .fail _

theorem steady_readEditor : readEditor.Steady := by
  refine .bind .get fun b => ?_
  split
  · exact .fail _
  · exact .pure _

theorem steady_demandEditor : demandEditor.Steady := by
  refine .bind .get fun b => ?_
  split
  · exact .fail _
  · exact .pure _

theorem steady_change (c : Change α) : (change c).Steady := by
  rintro b ⟨b', h⟩
  unfold change at h
  split at h <;> cases h

theorem steady_hostWrite (c : Change α) : (hostWrite c).Steady :=
  .bind .get fun _ => .guard (.bind steady_demandEditor fun _ =>
    .mapError (steady_change c) _)

end Bridge

namespace Convert

theorem steady_stringOf (r : ObjRef) : (stringOf r).Steady := by
  refine .bind (.mapError (Bridge.steady_inspect r) _) fun shape => ?_
  split
  · exact .pure _
  · exact .pure _
  · exact .bind (Bridge.steady_typeName r) fun _ => .fail _

theorem steady_lineFromForeign (r : ObjRef) : (lineFromForeign r).Steady := by
  refine .bind (steady_stringOf r) fun text => ?_
  split
  · exact .fail _
  · exact .pure _

theorem steady_linesFromForeign (r : ObjRef) : (linesFromForeign r).Steady := by
  have hitems : Act.Steady (do
      let items ← Bridge.itemsOf r
      items.mapM lineFromForeign : Act ConvertError (List String)) :=
    .bind (.mapError (Bridge.steady_itemsOf r) _) fun items => .mapM steady_lineFromForeign items
  refine .bind (.mapError (Bridge.steady_inspect r) _) fun shape => ?_
  split
  · exact .bind (steady_lineFromForeign r) fun _ => .pure _
  · exact .bind (steady_lineFromForeign r) fun _ => .pure _
  · exact hitems
  · exact hitems
  · exact hitems
  · exact .bind (Bridge.steady_typeName r) fun _ => .fail _

end Convert

namespace Proxy

theorem steady_intOf (r : ObjRef) : (intOf r).Steady := by
  refine .bind (.mapError (Bridge.steady_inspect r) _) fun shape => ?_
  split
  · exact .pure _
  · exact .pure _
  · exact .bind (Bridge.steady_typeName r) fun _ => .fail _

theorem steady_arity (name : String) (args : List ObjRef) (least most : Nat) :
    (arity name args least most).Steady := by
  unfold arity
  split
  · exact .fail _
  · exact .pure _

namespace Span

variable (s : Span)

theorem steady_check (i : Int) : (s.check i).Steady := by
  unfold check
  split
  · exact .pure _
  · exact .fail _

theorem steady_lines (lo hi : Nat) : (s.lines lo hi).Steady := by
  refine .bind Bridge.steady_readEditor fun e => ?_
  split
  · exact .pure _
  · exact .fail _

theorem steady_item (i : Int) : (s.item i).Steady :=
  .bind (s.steady_check i) fun _ => .bind (s.steady_lines _ _) fun _ =>
    .mapError (Bridge.steady_alloc _) _

theorem steady_slice (bounds : Slice) : (s.slice bounds).Steady := by
  unfold slice
  split
  · exact .fail _
  · exact .bind (s.steady_lines _ _) fun _ => .mapError
      (.bind (.mapM (fun _ => Bridge.steady_alloc _) _) fun _ => Bridge.steady_alloc _) _

theorem steady_replace (lo hi : Nat) (new : List String) : (s.replace lo hi new).Steady := by
  refine .bind (Bridge.steady_hostWrite _) fun _ => ?_
  unfold moveEnd
  split
  · exact .modify _
  · exact .pure _

theorem steady_assignItem (i : Int) (value : Option ObjRef) : (s.assignItem i value).Steady := by
  refine .bind (s.steady_check i) fun n => ?_
  cases value with
  | none => exact s.steady_replace _ _ _
  | some v =>
    exact .bind (.mapError (Convert.steady_lineFromForeign v) _) fun _ => s.steady_replace _ _ _

theorem steady_assignSlice (lo hi : Nat) (value : Option ObjRef) :
    (s.assignSlice lo hi value).Steady := by
  unfold assignSlice
  cases value with
  | none => exact s.steady_replace _ _ _
  | some v =>
    exact .bind (.mapError (Convert.steady_linesFromForeign v) _) fun _ => s.steady_replace _ _ _

theorem steady_append (args : List ObjRef) : (s.append args).Steady := by
  have hinsert (i : Int) (new : List String) : (s.insertAt i new).Steady := by
    unfold Span.insertAt
    exact .guard (.bind (s.steady_replace _ _ _) fun _ => Bridge.steady_alloc _)
  have hposition (new : List String) : (s.insert args[1]? new).Steady := by
    unfold Span.insert
    split
    · exact .bind (steady_intOf _) fun n => hinsert n.toInt new
    · exact hinsert s.size new
  refine .bind (steady_arity _ _ _ _) fun _ => ?_
  dsimp only
  split
  · exact .bind (.mapError (Convert.steady_linesFromForeign _) _) fun new => hposition new
  · exact hposition []

theorem steady_range (args : List ObjRef) : (s.range args).Steady := by
  refine .bind (steady_arity _ _ _ _) fun _ => ?_
  split
  · refine .bind (steady_intOf _) fun start => .bind (steady_intOf _) fun last => .guard ?_
    exact .bind (.modifyGet _) fun _ => Bridge.steady_alloc _
  · exact .fail _

end Span

/-! ### Ranges -/

section Ranges

variable {b : Bridge} {id : Nat} {start : Int64} {last : EndRef} {k : ObjRef}

/-- What follows the resolution of a range adds nothing to where it breaks down. -/
theorem breaks_span_bind_iff {f : Span → Act ProxyError α} (hf : ∀ s, (f s).Steady) :
    Breaks (span (.range id start last) >>= f) b ↔ Stale b id start := by
  rw [breaks_bind_iff]
  constructor
  · rintro (h | ⟨s, b', -, h⟩)
    · exact span_range_crashes_iff.mp h
    · exact absurd h (hf s b')
  · exact fun h => .inl (span_range_crashes_iff.mpr h)

theorem range_length_breaks_iff :
    Breaks (length .range (.range id start last)) b ↔ Stale b id start :=
  breaks_span_bind_iff fun _ => .pure _

theorem range_item_breaks_iff (i : Int) :
    Breaks (item .range (.range id start last) i) b ↔ Stale b id start :=
  breaks_span_bind_iff fun s => s.steady_item i

theorem range_sliceOf_breaks_iff (bounds : Slice) :
    Breaks (sliceOf .range (.range id start last) bounds) b ↔ Stale b id start :=
  breaks_span_bind_iff fun s => s.steady_slice bounds

theorem range_assignItem_breaks_iff (i : Int) (value : Option ObjRef) :
    Breaks (assignItem .range (.range id start last) i value) b ↔ Stale b id start :=
  breaks_span_bind_iff fun s => s.steady_assignItem i value

theorem spanMethod_breaks_iff (name : String) (args : List ObjRef) :
    Breaks (spanMethod (.range id start last) name args) b ↔ Stale b id start := by
  refine breaks_span_bind_iff fun s => ?_
  split
  · exact s.steady_append args
  · exact s.steady_range args
  · exact .fail _

/-- The length of a range changes nothing. -/
theorem range_length_ok {n : Nat} {b' : Bridge}
    (h : length .range (.range id start last) b = .ok n b') : b' = b := by
  change (span (.range id start last) >>= fun s => pure s.size) b = .ok n b' at h
  rw [bind_apply] at h
  cases hspan : span (.range id start last) b with
  | error e b₁ =>
    rw [hspan] at h
    cases h
  | ok s b₁ =>
    rw [hspan] at h
    obtain ⟨rfl, -⟩ := span_range_inside hspan
    exact (EStateM.Result.ok.inj h).2.symm

/-- A step that is asked for the length first and breaks down in the same bridges as the length. -/
theorem range_length_bind_breaks_iff {f : Nat → Act ProxyError α}
    (hf : ∀ n, Breaks (f n) b → Stale b id start) :
    Breaks (length .range (.range id start last) >>= f) b ↔ Stale b id start := by
  rw [breaks_bind_iff]
  constructor
  · rintro (h | ⟨n, b', hlength, h⟩)
    · exact range_length_breaks_iff.mp h
    · rw [range_length_ok hlength] at h
      exact hf n h
  · exact fun h => .inl (range_length_breaks_iff.mpr h)

theorem range_position_breaks {f : Nat → Act ProxyError α} {n : Int} {len : Nat}
    (hf : ∀ i, Breaks (f i) b → Stale b id start)
    (h : Breaks (Act.ofExcept (position n len) >>= f) b) : Stale b id start := by
  rcases breaks_bind_iff.mp h with h | ⟨i, b', hposition, h⟩
  · exact absurd h (Act.Steady.ofExcept _ b)
  · cases hi : position n len with
    | error e =>
      rw [hi] at hposition
      cases hposition
    | ok j =>
      rw [hi] at hposition
      obtain ⟨rfl, rfl⟩ := EStateM.Result.ok.inj hposition
      exact hf j h

theorem range_assignSlice_breaks_iff (bounds : Slice) (value : Option ObjRef) :
    Breaks (assignSlice .range (.range id start last) bounds value) b ↔ Stale b id start := by
  refine range_length_bind_breaks_iff fun len h => ?_
  split at h
  · exact absurd h (Act.Steady.fail _ b)
  · exact (breaks_span_bind_iff fun s => s.steady_assignSlice _ _ value).mp h

/-- Reading under a position or a slice. -/
theorem range_subscript_breaks_iff {x : Shape} (hk : (b.objects.get k).shape = .ok x)
    (hx : x.IsIndex) :
    Breaks (subscript .range (.range id start last) k) b ↔ Stale b id start := by
  cases hx with
  | int n =>
    rw [Breaks.of_eq (subscript_int rfl rfl hk)]
    refine range_length_bind_breaks_iff fun len h => ?_
    exact range_position_breaks (fun i hi => (range_item_breaks_iff _).mp hi) h
  | bool y =>
    rw [Breaks.of_eq (subscript_bool rfl rfl hk)]
    exact range_item_breaks_iff _
  | slice bounds =>
    rw [Breaks.of_eq (subscript_slice rfl rfl hk)]
    exact range_sliceOf_breaks_iff bounds

/-- Looking at a key does not break down. -/
theorem breaks_of_inspect_bind {f : Shape → Act ProxyError α}
    (h : Breaks ((liftM (Bridge.inspect k) : Act ProxyError Shape) >>= f) b) :
    ∃ x, (b.objects.get k).shape = .ok x ∧ Breaks (f x) b := by
  cases hshape : (b.objects.get k).shape with
  | ok x => exact ⟨x, rfl, by rwa [Breaks.of_eq (by rw [bind_apply, inspect_apply hshape])] at h⟩
  | error e =>
    have hsteady : Act.Steady (liftM (Bridge.inspect k) : Act ProxyError Shape) :=
      .mapError (Bridge.steady_inspect k) _
    obtain ⟨e', he⟩ := inspect_fails hshape
    rcases breaks_bind_iff.mp h with h | ⟨x, b', hx, -⟩
    · exact absurd h (hsteady b)
    · rw [he] at hx
      cases hx

/-- Any other key is refused before the range is resolved. -/
theorem range_subscript_not_breaks (hk : ∀ x, (b.objects.get k).shape = .ok x → ¬x.IsIndex) :
    ¬Breaks (subscript .range (.range id start last) k) b := by
  rw [subscript_eq rfl rfl]
  intro h
  obtain ⟨x, hshape, h⟩ := breaks_of_inspect_bind h
  cases x with
  | int n => exact hk _ hshape (.int n)
  | bool y => exact hk _ hshape (.bool y)
  | slice bounds => exact hk _ hshape (.slice bounds)
  | _ => exact Act.Steady.fail _ b h

theorem range_assign_not_breaks (value : Option ObjRef)
    (hk : ∀ x, (b.objects.get k).shape = .ok x → (∀ y, x ≠ .bool y) → ¬x.IsIndex) :
    ¬Breaks (assign .range (.range id start last) k value) b := by
  rw [(Lines.range start last).assign_eq]
  intro h
  obtain ⟨x, hshape, h⟩ := breaks_of_inspect_bind h
  cases x with
  | int n => exact hk _ hshape nofun (.int n)
  | slice bounds => exact hk _ hshape nofun (.slice bounds)
  | _ => exact Act.Steady.fail _ b h

/-- Writing or deleting under a position or a slice. -/
theorem range_assign_breaks_iff {x : Shape} (hk : (b.objects.get k).shape = .ok x)
    (hx : x.IsIndex) (hbool : ∀ y, x ≠ .bool y) (value : Option ObjRef) :
    Breaks (assign .range (.range id start last) k value) b ↔ Stale b id start := by
  rw [(Lines.range start last).assign_eq]
  cases hx with
  | int n =>
    rw [Breaks.of_eq (by rw [bind_apply, inspect_apply hk])]
    refine range_length_bind_breaks_iff fun len h => ?_
    exact range_position_breaks (fun i hi => (range_assignItem_breaks_iff _ _).mp hi) h
  | bool y => exact absurd rfl (hbool y)
  | slice bounds =>
    rw [Breaks.of_eq (by rw [bind_apply, inspect_apply hk])]
    exact range_assignSlice_breaks_iff bounds value

/-- Reading an attribute breaks down only where reading one of the target does. -/
theorem steady_getAttr {cls : ProxyClass} {t : Target} {name : String} (hvalid : t.isValid = true)
    (ht : (targetAttr t name).Steady) : (getAttr? cls t name).Steady := by
  unfold getAttr?
  simp only [hvalid, Bool.not_true, Bool.false_eq_true, if_false]
  refine .bind ht fun v => ?_
  split
  · exact .pure _
  · split
    · exact .map (Bridge.steady_alloc _) _
    · split
      · exact .map (.bind (.mapM (fun _ => Bridge.steady_alloc _) _) fun _ =>
          Bridge.steady_alloc _) _
      · exact .pure _

/-- No attribute of a range needs the range to be resolved. -/
theorem steady_range_targetAttr (name : String) :
    (targetAttr (.range id start last) name).Steady := by
  have hattr (e : Int64) : (rangeAttr id start e name).Steady := by
    refine .bind Bridge.steady_readEditor fun e => .guard ?_
    split
    · exact .map (Bridge.steady_alloc _) _
    · exact .map (Bridge.steady_alloc _) _
    · exact .pure _
  exact .bind .get fun _ => .bind .get fun _ => hattr _

end Ranges

end Proxy

end ScriptBridge
