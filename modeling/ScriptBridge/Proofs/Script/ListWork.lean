import Mathlib.Data.List.GetD
import ScriptBridge.Proofs.Proxy.ListHandle

/-!
# Work on lists

A script works on a list of the editor through proxies of it, and through methods that it took from
them. Whatever the kind of the interpreter, it sees the work on a list of values.
-/

namespace ScriptBridge

open Foreign (ObjRef Object Objects ProxyClass Target InterpreterKind)
open Host (Value ListRef)
open ValueList (mapM_forall₂)
open ScriptBridge.Computation

namespace Script

/-! ### Iteration -/

/-- A proxy makes these objects for its items, whatever else has been made before. -/
structure Yields (b : Bridge) (cls : ProxyClass) (t : Target) (xs : List Object) : Prop where
  length : Proxy.length cls t b = .ok xs.length b
  item : ∀ {b'}, b.Adds b' → ∀ {i : Nat} (hi : i < xs.length),
    Proxy.item cls t i b' = .ok (b'.objects.alloc xs[i]).1 (b'.withNew xs[i])
  outside : ∀ {b'}, b.Adds b' →
    ∃ text, Proxy.item cls t xs.length b' = .error (.error (.index text)) b'

/-- An object that is there. -/
def Is (b : Bridge) (x : Object) (r : ObjRef) : Prop :=
  r.id < b.objects.cells.size ∧ b.objects.get r = x

variable {b b' : Bridge} {cls : ProxyClass} {t : Target} {o : ObjRef} {xs : List Object}

theorem Is.extends {x : Object} {r : ObjRef} (h : Is b x r)
    (hextends : b.objects.Extends b'.objects) : Is b' x r :=
  ⟨Nat.lt_of_lt_of_le h.1 hextends.size_le, (hextends.get r h.1).trans h.2⟩

theorem Yields.slot_item (h : Yields b cls t xs) (hattached : b.attached = true)
    (hadds : b.Adds b') {i : Nat} (hi : i < xs.length) :
    Proxy.slot (Proxy.item cls t i) b' = .ok (b'.objects.alloc xs[i]).1 (b'.withNew xs[i]) :=
  Proxy.slot_ok (hadds.attached.trans hattached) (h.item hadds hi)

/-- A library's interpreter goes on until there is no item. -/
theorem Yields.itemsUntilEnd (h : Yields b cls t xs) (hattached : b.attached = true)
    (hkind : b.interpreter.kind = .library) {n i : Nat} (hi : i + n = xs.length)
    (hadds : b.Adds b') :
    ∃ rs b'', Script.itemsUntilEnd cls t (n + 1) i b' = .ok rs b'' ∧ b.Adds b'' ∧
      b'.objects.Extends b''.objects ∧ List.Forall₂ (Is b'') (xs.drop i) rs := by
  induction n generalizing i b' with
  | zero =>
    obtain ⟨text, houtside⟩ := h.outside hadds
    have hend : Proxy.slot (Proxy.item cls t i) b' =
        .error (.error (Proxy.raised (.index text))) b' := by
      unfold Proxy.slot
      rw [bind_apply, get_apply]
      dsimp only
      rw [hadds.attached, hattached, hadds.interpreter, hkind]
      change Proxy.guarded _ b' = _
      rw [Nat.add_zero] at hi
      rw [Proxy.guarded, hi, houtside]
    refine ⟨[], b', ?_, hadds, ⟨Nat.le_refl _, fun _ _ => rfl⟩, ?_⟩
    · rw [Script.itemsUntilEnd, bind_apply, Act.attempt, hend]
      rfl
    · rw [List.drop_eq_nil_of_le (by omega)]
      exact .nil
  | succ n ih =>
    have hlt : i < xs.length := by omega
    have hitem := h.slot_item hattached hadds hlt
    have hnew := Convert.new_apply (b := b') xs[i]
    obtain ⟨rs, b'', hrest, hadds', hextends, hall⟩ :=
      ih (i := i + 1) (by omega) (hadds.trans (.withNew xs[i]))
    refine ⟨(b'.objects.alloc xs[i]).1 :: rs, b'', ?_, hadds',
      (b'.grown_withNew _).objects.trans hextends, ?_⟩
    · rw [Script.itemsUntilEnd, bind_apply, Act.attempt, hitem]
      dsimp only
      have hnext : (i : Int) + 1 = (i + 1 : Nat) := rfl
      rw [bind_apply, hnext, hrest]
      rfl
    · rw [List.drop_eq_getElem_cons hlt]
      exact .cons (Is.extends hnew hextends) hall

/-- Iteration goes through the objects that a sequence makes for its items, one after another. -/
theorem Yields.iterate (h : Yields b cls t xs) (hattached : b.attached = true)
    (ho : b.objects.get o = .proxy cls t) (hcls : cls.isSequence = true)
    (hkeys : cls.isIterable = false) :
    ∃ rs b', Script.iterate o b = .ok rs b' ∧ b.Adds b' ∧ List.Forall₂ (Is b') xs rs := by
  have hlength := Proxy.slot_ok hattached h.length
  unfold Script.iterate
  rw [object_kind_bind, ho]
  cases hkind : b.interpreter.kind with
  | scripted =>
    obtain ⟨rs, b', hrs, hadds, -, hall⟩ :=
      mapM_forall₂ (Q := fun b i r => Is b (xs.getD i .null) r) Is.extends (List.range xs.length)
        (fun i hi b' hadds => by
          have hlt := List.mem_range.mp hi
          rw [List.getD_eq_getElem _ _ hlt]
          exact ⟨_, _, h.slot_item hattached hadds hlt, .withNew _, Convert.new_apply _⟩)
        (.refl : b.Adds b)
    have hxs : (List.range xs.length).map (fun i => xs.getD i .null) = xs :=
      List.ext_getElem (by simp) fun i hi hi' => by simp [List.getElem?_eq_getElem hi']
    have hall' := List.forall₂_map_left_iff (f := fun i => xs.getD i .null).mpr hall
    rw [hxs] at hall'
    refine ⟨rs, b', ?_, hadds, hall'⟩
    dsimp only
    rw [hkeys, if_neg Bool.false_ne_true, bind_apply, hlength]
    exact hrs
  | library =>
    obtain ⟨rs, b', hrs, hadds, -, hall⟩ :=
      h.itemsUntilEnd hattached hkind (i := 0) (Nat.zero_add _) .refl
    refine ⟨rs, b', ?_, hadds, hall⟩
    change iterateProxy o cls t b = _
    unfold iterateProxy
    rw [hkeys, hcls, if_neg Bool.false_ne_true, if_pos rfl, bind_apply, hlength]
    exact hrs

end Script

namespace ValueList

/-- An operation of a script on a proxy of a list. -/
inductive Operation where
  | length (o : ObjRef)
  | get (o k : ObjRef)
  | set (o k value : ObjRef)
  | delete (o k : ObjRef)
  /-- A call of the method that extends, which was taken from the proxy. -/
  | extend (m value : ObjRef)
  | iterate (o : ObjRef)

/-- What an operation leaves the script with. -/
inductive Answer where
  | done
  | count (n : Nat)
  | object (r : ObjRef)
  | objects (rs : List ObjRef)

/-- How an operation ends. -/
abbrev Outcome := EStateM.Result (Stop ForeignError) Bridge Answer

/-- What a script does for an operation; `command` runs a command line. -/
def Operation.perform (command : String → Act BridgeError Unit) : Operation → Act ForeignError Answer
  | .length o => .count <$> Script.length o
  | .get o k => .object <$> Script.getItem o k
  | .set o k value => (fun _ => .done) <$> Script.setItem o k (some value)
  | .delete o k => (fun _ => .done) <$> Script.setItem o k none
  | .extend m value => .object <$> Script.call command m [value] []
  | .iterate o => .objects <$> Script.iterate o

/-- What an operation means for the values of a list, by the objects that the script uses for it. -/
inductive Means (b : Bridge) (l : ListRef) : Operation → Request → Prop
  | length {o : ObjRef} (ho : b.objects.get o = .proxy .list (.list l)) :
    Means b l (.length o) .length
  | get {o k : ObjRef} {key : Key} (ho : b.objects.get o = .proxy .list (.list l))
      (hk : b.objects.get k = key.object) : Means b l (.get o k) (.get key)
  | set {o k : ObjRef} {key : Key} (ho : b.objects.get o = .proxy .list (.list l))
      (hk : b.objects.get k = key.object) (value : ObjRef) :
    Means b l (.set o k value) (.set key (newOf b key value))
  | delete {o k : ObjRef} {key : Key} (ho : b.objects.get o = .proxy .list (.list l))
      (hk : b.objects.get k = key.object) : Means b l (.delete o k) (.delete key)
  | extend {m : ObjRef} (hm : b.objects.get m = .proxy .method (.method (.list l) .list "extend"))
      (value : ObjRef) : Means b l (.extend m value) (.extend (valuesOf b value))
  | iterate {o : ObjRef} (ho : b.objects.get o = .proxy .list (.list l)) :
    Means b l (.iterate o) .items

/-- What an answer gives. -/
inductive Gives (b : Bridge) : Given → Answer → Prop
  | nothing : Gives b .nothing .done
  | count (n : Nat) : Gives b (.count n) (.count n)
  | object {g : Given} {r : ObjRef} (h : Answers b g r) : Gives b g (.object r)
  | objects {vs : List Value} {rs : List ObjRef} (h : List.Forall₂ (Script.Bound b) vs rs) :
    Gives b (.values vs) (.objects rs)

/-- An operation gives what the operation on the values gives, and the list has the values after
it. -/
structure Worked (b : Bridge) (l : ListRef) (p : Given × List Value) (a : Answer) (b' : Bridge) :
    Prop where
  gives : Gives b' p.1 a
  holds : Holds b' l p.2
  objects : b.objects.Extends b'.objects

variable {command : String → Act BridgeError Unit} {b b' : Bridge} {l : ListRef} {o : ObjRef}
  {items : List Value} {op : Operation} {q : Request}

/-! ### Iteration -/

theorem iterate_bound (h : Holds b l items) (ho : b.objects.get o = .proxy .list (.list l)) :
    ∃ rs b', Script.iterate o b = .ok rs b' ∧ b.Adds b' ∧
      List.Forall₂ (Script.Bound b') items rs := by
  have hyields : Script.Yields b .list (.list l) (items.map Convert.boundObject) := by
    refine ⟨?_, fun {b'} hadds i hi => ?_, fun hadds => ⟨_, item_outside (h.adds hadds) ?_⟩⟩
    · rw [length_apply h, List.length_map]
    · rw [List.length_map] at hi
      rw [item_apply (h.adds hadds) hi, List.getElem_map, List.getD_eq_getElem _ _ hi]
    · exact Nat.le_of_eq (List.length_map _).symm
  obtain ⟨rs, b', hiterate, hadds, hall⟩ := hyields.iterate h.attached ho rfl rfl
  exact ⟨rs, b', hiterate, hadds,
    (List.forall₂_map_left_iff.mp hall).imp fun _ _ hr => ⟨hr.1, hr.2⟩⟩

/-! ### One operation -/

/-- An operation of a script comes to what the operation on the values comes to. -/
theorem perform_settles (command : String → Act BridgeError Unit) (h : Holds b l items)
    (hcount : (items.length : Int) ≤ Text.maxInt64) (hmeans : Means b l op q) :
    Settles ForeignError.exceptionKind b (Worked b l) (apply items q) (op.perform command b) := by
  have hanswered (p : Given × List Value) (r : ObjRef) (b' : Bridge) (h : Answered b l p r b') :
      Worked b l p (.object r) b' := ⟨.object h.answers, h.holds, h.objects⟩
  have hdone (p : Given × List Value) (x : Unit) (b' : Bridge) (h : Done b l p x b') :
      Worked b l p .done b' := ⟨by rw [h.nothing]; exact .nothing, h.holds, h.objects⟩
  cases hmeans with
  | length ho =>
    change Settles _ _ _ _ ((Answer.count <$> Script.length _) b)
    rw [map_eq_pure_bind, bind_apply, Script.length_container ho rfl,
      Proxy.slot_ok h.attached (length_apply h)]
    exact .ok ⟨.count _, h, ⟨Nat.le_refl _, fun _ _ => rfl⟩⟩
  | get ho hk =>
    refine .map ?_ hanswered
    rw [Script.getItem_container ho rfl]
    exact Proxy.slot_settles h.attached (subscript_settles h hcount hk)
  | set ho hk value =>
    refine .map ?_ hdone
    rw [Script.setItem_container ho rfl]
    exact Proxy.slot_settles h.attached (assign_settles h hcount hk value)
  | delete ho hk =>
    refine .map ?_ hdone
    rw [Script.setItem_container ho rfl]
    exact Proxy.slot_settles h.attached (delete_settles h hcount hk)
  | extend hm value =>
    refine .map ?_ hanswered
    rw [Script.call_callable hm rfl]
    exact Proxy.slot_settles h.attached (extend_settles h command value)
  | iterate ho =>
    obtain ⟨rs, b', hiterate, hadds, hbound⟩ := iterate_bound h ho
    change Settles _ _ _ _ ((Answer.objects <$> Script.iterate _) b)
    rw [map_eq_pure_bind, bind_apply, hiterate]
    exact .ok ⟨.objects hbound, h.adds hadds, hadds.objects⟩

/-! ### Several operations -/

/-- What a script sees of how an operation ends, and what the list holds then. It never breaks
down. -/
inductive Sees (l : ListRef) : Except ExceptionKind Given × List Value → Outcome → Prop
  | ok {g : Given} {items : List Value} {a : Answer} {b : Bridge} (hgives : Gives b g a)
      (hholds : Holds b l items) : Sees l (.ok g, items) (.ok a b)
  | error {e : ForeignError} {items : List Value} {b : Bridge} (hholds : Holds b l items) :
    Sees l (.error e.exceptionKind, items) (.error (.error e) b)

/-- Something else happens, and the list stays as it is. -/
structure Elsewhere (l : ListRef) (b b' : Bridge) : Prop where
  attached : b'.attached = b.attached
  lists_le : b.editor.store.lists.size ≤ b'.editor.store.lists.size
  list : b'.editor.store.list l = b.editor.store.list l

/-- A script works on a list through proxies of it. The log says what each operation means for the
values of the list, and how it ends. -/
inductive Work (command : String → Act BridgeError Unit) (l : ListRef) (b : Bridge) :
    List (Request × Outcome) → Bridge → Prop
  | start : Work command l b [] b
  | perform {log : List (Request × Outcome)} {b' : Bridge} {op : Operation} {q : Request}
      (hwork : Work command l b log b')
      (hcount : ((b'.editor.store.list l).items.length : Int) ≤ Text.maxInt64)
      (hmeans : Means b' l op q) :
    Work command l b (log ++ [(q, op.perform command b')]) (final (op.perform command b'))
  | elsewhere {log : List (Request × Outcome)} {b' b'' : Bridge}
      (hwork : Work command l b log b') (helsewhere : Elsewhere l b' b'') :
    Work command l b log b''

variable {log : List (Request × Outcome)}

theorem Holds.elsewhere (h : Holds b l items) (helsewhere : Elsewhere l b b') : Holds b' l items :=
  ⟨helsewhere.attached.trans h.attached, Nat.lt_of_lt_of_le h.exists_list helsewhere.lists_le,
    helsewhere.list.trans h.cell⟩

/-- One operation: the script sees what it would see of the values, and the list holds the values
after it. An operation that fails leaves them as they were. -/
theorem perform_step (command : String → Act BridgeError Unit) (h : Holds b l items)
    (hcount : (items.length : Int) ≤ Text.maxInt64) (hmeans : Means b l op q) :
    Sees l (step items q) (op.perform command b) ∧
      Holds (final (op.perform command b)) l (step items q).2 ∧
      b.objects.Extends (final (op.perform command b)).objects := by
  have hsettles := perform_settles command h hcount hmeans
  unfold step
  generalize op.perform command b = outcome at hsettles ⊢
  generalize apply items q = x at hsettles ⊢
  cases hsettles with
  | ok hworked => exact ⟨.ok hworked.gives hworked.holds, hworked.holds, hworked.objects⟩
  | error e hadds => exact ⟨.error (h.adds hadds), h.adds hadds, hadds.objects⟩

/-- Proxies of a list that is not locked behave like the list of its values, whatever a script does
with them. It sees the same results, and the list holds the same values after each operation. -/
theorem proxies_behave_as_list (h : Holds b l items) (hwork : Work command l b log b') :
    List.Forall₂ (Sees l) (run items (log.map (·.1))) (log.map (·.2)) ∧
      Holds b' l (after items (log.map (·.1))) := by
  induction hwork with
  | start => exact ⟨.nil, h⟩
  | perform _ hcount hmeans ih =>
    obtain ⟨hsees, hholds⟩ := ih
    rw [hholds.cell] at hcount
    obtain ⟨hsees', hholds', -⟩ := perform_step command hholds hcount hmeans
    rw [List.map_append, List.map_append, List.map_singleton, List.map_singleton, run_append,
      after_append]
    exact ⟨List.rel_append hsees (.cons hsees' .nil), hholds'⟩
  | elsewhere _ helsewhere ih => exact ⟨ih.1, ih.2.elsewhere helsewhere⟩

/-- A list gets an item behind the last one, and then all its items once more. There is no item at
position nine, and a slice reads the list backwards. -/
theorem proxies_behave_as_list_twice :
    let l : ListRef := ⟨0⟩
    let cells : Array Object := #[.proxy .list (.list l),
      .proxy .method (.method (.list l) .list "extend"), .int 1, .str "x", .int 9,
      .slice none none (some (-1))]
    let b : Bridge := { Bridge.fresh with
      editor := { Bridge.fresh.editor with store := { lists := #[{ items := [.str "a"] }] } }
      objects := { cells } }
    let command : String → Act BridgeError Unit := fun _ => pure ()
    let all : List Value := [.str "a", .str "x", .str "a", .str "x"]
    ∃ log b', Work command l b log b' ∧ List.Forall₂ (Sees l)
      [(.ok .nothing, [.str "a", .str "x"]), (.ok (.value .null), all), (.error .index, all),
        (.ok (.values all.reverse), all)] (log.map (·.2)) := by
  intro l cells b command all
  have hholds : Holds b l [.str "a"] := ⟨rfl, by decide, rfl⟩
  -- Assigning at the index behind the last item appends.
  have hset : Means b l (.set ⟨0⟩ ⟨2⟩ ⟨3⟩) (.set (.at 1) (.ok [.str "x"])) :=
    @Means.set b l ⟨0⟩ ⟨2⟩ (.at 1) rfl rfl ⟨3⟩
  obtain ⟨-, hholds₁, hextends₁⟩ := perform_step command hholds (by decide) hset
  have hwork₁ : Work command l b _ _ := .perform .start (by decide) hset
  generalize (Operation.set ⟨0⟩ ⟨2⟩ ⟨3⟩).perform command b = outcome₁
    at hholds₁ hextends₁ hwork₁
  replace hholds₁ : Holds (final outcome₁) l [.str "a", .str "x"] := hholds₁
  -- The list is extended by itself.
  have hself : (final outcome₁).objects.get ⟨0⟩ = .proxy .list (.list l) :=
    hextends₁.get ⟨0⟩ (by decide)
  have hextend := Means.extend (b := final outcome₁) (l := l) (hextends₁.get ⟨1⟩ (by decide)) ⟨0⟩
  rw [valuesOf_proxy hself, hholds₁.cell] at hextend
  obtain ⟨-, hholds₂, hextends₂⟩ := perform_step command hholds₁ (by decide) hextend
  have hwork₂ := hwork₁.perform (by rw [hholds₁.cell]; decide) hextend
  generalize (Operation.extend ⟨1⟩ ⟨0⟩).perform command _ = outcome₂ at hholds₂ hextends₂ hwork₂
  replace hholds₂ : Holds (final outcome₂) l all := hholds₂
  replace hextends₂ := hextends₁.trans hextends₂
  -- There is no item at position nine.
  have houtside : Means (final outcome₂) l (.get ⟨0⟩ ⟨4⟩) (.get (.at 9)) :=
    .get (hextends₂.get ⟨0⟩ (by decide)) (hextends₂.get ⟨4⟩ (by decide))
  obtain ⟨-, hholds₃, hextends₃⟩ := perform_step command hholds₂ (by decide) houtside
  have hwork₃ := hwork₂.perform (by rw [hholds₂.cell]; decide) houtside
  generalize (Operation.get ⟨0⟩ ⟨4⟩).perform command _ = outcome₃ at hholds₃ hextends₃ hwork₃
  replace hholds₃ : Holds (final outcome₃) l all := hholds₃
  replace hextends₃ := hextends₂.trans hextends₃
  -- A slice goes backwards.
  have hslice : Means (final outcome₃) l (.get ⟨0⟩ ⟨5⟩) (.get (.slice none none (some (-1)))) :=
    .get (hextends₃.get ⟨0⟩ (by decide)) (hextends₃.get ⟨5⟩ (by decide))
  have hwork₄ := hwork₃.perform (by rw [hholds₃.cell]; decide) hslice
  exact ⟨_, _, hwork₄, (proxies_behave_as_list hholds hwork₄).1⟩

/-- A library has integers of more than 64 bits. As an index of a list such an integer is not outside
of the list, but too large. -/
theorem large_index_overflows :
    let l : ListRef := ⟨0⟩
    let b : Bridge := { Bridge.fresh with
      editor := { Bridge.fresh.editor with store := { lists := #[{ items := [.str "a"] }] } }
      interpreter := { kind := .library }
      objects := { cells := #[.proxy .list (.list l), .int 9223372036854775808] } }
    Holds b l [.str "a"] ∧ ∃ e, Script.getItem ⟨0⟩ ⟨1⟩ b = .error (.error e) b ∧
      e.exceptionKind = .overflow ∧ e.exceptionKind ≠ .index :=
  ⟨⟨rfl, by decide, rfl⟩, _, rfl, rfl, by decide⟩

end ValueList

end ScriptBridge
