import ScriptBridge.Proofs.Proxy.DictHandle

/-!
# Work on dictionaries

A script works on a dictionary of the editor through proxies of it, and through methods that it took
from them. Whatever the kind of the interpreter, it sees the work on a map of values, and every way
to look at the entries shows the same ones in the same order.
-/

namespace ScriptBridge

open Foreign (ObjRef Object Objects ProxyClass Target)
open Host (Value DictRef)
open ScriptBridge.Computation

namespace ValueMap

/-- An operation of a script on a proxy of a dictionary, or a call of a method that was taken from
it. -/
inductive Operation where
  | length (o : ObjRef)
  | get (o k : ObjRef)
  | set (o k value : ObjRef)
  | delete (o k : ObjRef)
  | iterate (o : ObjRef)
  | getOr (f k : ObjRef) (other : Option ObjRef)
  | hasKey (f k : ObjRef)
  | keys (f : ObjRef)
  | values (f : ObjRef)
  | items (f : ObjRef)

/-- What an operation leaves the script with. -/
inductive Answer where
  | done
  | count (n : Nat)
  | object (r : ObjRef)
  | objects (rs : List ObjRef)

/-- How an operation ends. -/
abbrev Outcome := EStateM.Result (Stop ForeignError) Bridge Answer

/-- What a script does for an operation; `command` runs a command line. -/
def Operation.perform (command : String → Act BridgeError Unit) : Operation → Act ForeignError Answer
  | .length o => .count <$> Script.length o
  | .get o k => .object <$> Script.getItem o k
  | .set o k value => (fun _ => .done) <$> Script.setItem o k (some value)
  | .delete o k => (fun _ => .done) <$> Script.setItem o k none
  | .iterate o => .objects <$> Script.iterate o
  | .getOr f k other => .object <$> Script.call command f (k :: other.toList) []
  | .hasKey f k => .object <$> Script.call command f [k] []
  | .keys f | .values f | .items f => .object <$> Script.call command f [] []

/-- An object that is a method of a dictionary. -/
def IsMethod (b : Bridge) (d : DictRef) (f : ObjRef) (name : String) : Prop :=
  b.objects.get f = .proxy .method (.method (.dict d) .dictionary name)

/-- What an operation means for the values of a dictionary, by the objects that the script uses for
it. -/
inductive Means (b : Bridge) (d : DictRef) : Operation → Request → Prop
  | length {o : ObjRef} (ho : b.objects.get o = .proxy .dictionary (.dict d)) :
    Means b d (.length o) .length
  | get {o : ObjRef} (ho : b.objects.get o = .proxy .dictionary (.dict d)) (k : ObjRef) :
    Means b d (.get o k) (.get (keyOf b.objects k))
  | set {o : ObjRef} (ho : b.objects.get o = .proxy .dictionary (.dict d)) (k value : ObjRef) :
    Means b d (.set o k value) (.set (keyOf b.objects k) (ValueList.valueOf b value))
  | delete {o : ObjRef} (ho : b.objects.get o = .proxy .dictionary (.dict d)) (k : ObjRef) :
    Means b d (.delete o k) (.delete (keyOf b.objects k))
  | iterate {o : ObjRef} (ho : b.objects.get o = .proxy .dictionary (.dict d)) :
    Means b d (.iterate o) .keys
  | getOr {f : ObjRef} (hf : IsMethod b d f "get") (k : ObjRef) (other : Option ObjRef) :
    Means b d (.getOr f k other) (.getOr (keyOf b.objects k) other)
  | hasKey {f : ObjRef} (hf : IsMethod b d f "has_key") (k : ObjRef) :
    Means b d (.hasKey f k) (.hasKey (keyOf b.objects k))
  | keys {f : ObjRef} (hf : IsMethod b d f "keys") : Means b d (.keys f) .keys
  | values {f : ObjRef} (hf : IsMethod b d f "values") : Means b d (.values f) .values
  | items {f : ObjRef} (hf : IsMethod b d f "items") : Means b d (.items f) .items

/-- What an answer gives. -/
inductive Gives (b : Bridge) (m : Map) : Given → Answer → Prop
  | nothing : Gives b m .nothing .done
  | count {es : List (String × Value)} (hes : Lists m es) : Gives b m .count (.count es.length)
  | object {g : Given} {r : ObjRef} (h : Answers b m g r) : Gives b m g (.object r)
  | objects {g : Given} {rs : List ObjRef} (h : Shows b m g rs) : Gives b m g (.objects rs)

/-- An operation gives what the operation on the map gives, and the dictionary has the values after
it. -/
structure Worked (b : Bridge) (d : DictRef) (p : Given × Map) (a : Answer) (b' : Bridge) :
    Prop where
  gives : Gives b' p.2 p.1 a
  holds : Holds b' d p.2
  objects : b.objects.Extends b'.objects

variable {command : String → Act BridgeError Unit} {b b' : Bridge} {d : DictRef} {o : ObjRef}
  {m m' : Map} {op : Operation} {q : Request}

/-! ### One operation -/

/-- Iteration goes through the keys. -/
theorem iterate_worked (h : Holds b d m) (ho : b.objects.get o = .proxy .dictionary (.dict d)) :
    Settles ForeignError.exceptionKind b (Worked b d) (apply m .keys)
      ((Answer.objects <$> Script.iterate o) b) := by
  have hslot : Script.iterate o b = (do
      let list ← Proxy.slot (Proxy.iterate .dictionary (.dict d))
      return ((← Bridge.object list).elements?).getD [] : Act ForeignError (List ObjRef)) b := by
    unfold Script.iterate
    rw [Script.object_kind_bind, ho]
    cases b.interpreter.kind <;> rfl
  have hsettles := Proxy.slot_settles h.attached (iterate_settles h)
  rw [map_eq_pure_bind, bind_apply, hslot, bind_apply]
  generalize Proxy.slot (Proxy.iterate .dictionary (.dict d)) b = outcome at hsettles ⊢
  cases hsettles with
  | ok hanswered =>
    rename_i list b'
    cases hanswered.answers with
    | list hr hrs =>
      have hobject : (Bridge.object list : Act ForeignError Object) b' = .ok (b'.objects.get list) b' :=
        rfl
      dsimp only
      rw [bind_apply, hobject]
      dsimp only
      rw [hr]
      exact .ok ⟨.objects hrs, hanswered.holds, hanswered.objects⟩

/-- An operation of a script comes to what the operation on the map comes to. -/
theorem perform_settles (command : String → Act BridgeError Unit) (h : Holds b d m)
    (hmeans : Means b d op q) :
    Settles ForeignError.exceptionKind b (Worked b d) (apply m q) (op.perform command b) := by
  have hanswered (p : Given × Map) (r : ObjRef) (b' : Bridge) (h : Answered b d p r b') :
      Worked b d p (.object r) b' := ⟨.object h.answers, h.holds, h.objects⟩
  have hdone (p : Given × Map) (x : Unit) (b' : Bridge) (h : Done b d p x b') :
      Worked b d p .done b' := ⟨by rw [h.nothing]; exact .nothing, h.holds, h.objects⟩
  have hmethod {f : ObjRef} {name : String} (args : List ObjRef) {x : Except ExceptionKind _}
      (hf : IsMethod b d f name) (hcall : Settles ProxyError.exceptionKind b (Answered b d) x
        (Proxy.call command .method (.method (.dict d) .dictionary name) args b)) :
      Settles ForeignError.exceptionKind b (Worked b d) x
        ((Answer.object <$> Script.call command f args []) b) := by
    refine .map ?_ hanswered
    rw [Script.call_callable hf rfl]
    exact Proxy.slot_settles h.attached hcall
  cases hmeans with
  | length ho =>
    obtain ⟨es, hes, hlength⟩ := length_apply h
    change Settles _ _ _ _ ((Answer.count <$> Script.length _) b)
    rw [map_eq_pure_bind, bind_apply, Script.length_container ho rfl,
      Proxy.slot_ok h.attached hlength]
    exact .ok ⟨.count hes, h, ⟨Nat.le_refl _, fun _ _ => rfl⟩⟩
  | get ho k =>
    refine .map ?_ hanswered
    rw [Script.getItem_container ho rfl]
    exact Proxy.slot_settles h.attached (dictItem_settles h k)
  | set ho k value =>
    refine .map ?_ hdone
    rw [Script.setItem_container ho rfl]
    exact Proxy.slot_settles h.attached (assign_settles h k value)
  | delete ho k =>
    refine .map ?_ hdone
    rw [Script.setItem_container ho rfl]
    exact Proxy.slot_settles h.attached (delete_settles h k)
  | iterate ho => exact iterate_worked h ho
  | getOr hf k other => exact hmethod _ hf (get_settles h command k other)
  | hasKey hf k => exact hmethod _ hf (hasKey_settles h command k)
  | keys hf => exact hmethod _ hf (keys_settles h command)
  | values hf => exact hmethod _ hf (values_settles h command)
  | items hf => exact hmethod _ hf (items_settles h command)

/-! ### Several operations -/

/-- What a script sees of how an operation ends, and what the dictionary holds then. It never breaks
down. -/
inductive Sees (d : DictRef) : Except ExceptionKind Given × Map → Outcome → Prop
  | ok {g : Given} {m : Map} {a : Answer} {b : Bridge} (hgives : Gives b m g a)
      (hholds : Holds b d m) : Sees d (.ok g, m) (.ok a b)
  | error {e : ForeignError} {m : Map} {b : Bridge} (hholds : Holds b d m) :
    Sees d (.error e.exceptionKind, m) (.error (.error e) b)

/-- Something else happens, and the dictionary stays as it is. -/
structure Elsewhere (d : DictRef) (b b' : Bridge) : Prop where
  attached : b'.attached = b.attached
  dicts_le : b.editor.store.dicts.size ≤ b'.editor.store.dicts.size
  dict : b'.editor.store.dict d = b.editor.store.dict d

/-- A script works on a dictionary through proxies of it. The log says what each operation means for
the values of the dictionary, and how it ends. -/
inductive Work (command : String → Act BridgeError Unit) (d : DictRef) (b : Bridge) :
    List (Request × Outcome) → Bridge → Prop
  | start : Work command d b [] b
  | perform {log : List (Request × Outcome)} {b' : Bridge} {op : Operation} {q : Request}
      (hwork : Work command d b log b') (hmeans : Means b' d op q) :
    Work command d b (log ++ [(q, op.perform command b')]) (final (op.perform command b'))
  | elsewhere {log : List (Request × Outcome)} {b' b'' : Bridge}
      (hwork : Work command d b log b') (helsewhere : Elsewhere d b' b'') :
    Work command d b log b''

/-- What is seen of several operations, one after another, is what they come to on a map. -/
inductive Behaves (d : DictRef) (m : Map) : List (Request × Outcome) → Map → Prop
  | start : Behaves d m [] m
  | next {log : List (Request × Outcome)} {m' : Map} {q : Request} {outcome : Outcome}
      (h : Behaves d m log m') (hsees : Sees d (step m' q) outcome) :
    Behaves d m (log ++ [(q, outcome)]) (step m' q).2

variable {log : List (Request × Outcome)}

/-- Every unlocked dictionary holds what is found under its keys. -/
theorem holds_of_unlocked (hattached : b.attached = true)
    (hexists : d.id < b.editor.store.dicts.size)
    (hunlocked : (b.editor.store.dict d).lock = .unlocked)
    (hordered : Host.Entries.Ordered (b.editor.store.dict d).entries) :
    Holds b d (b.editor.store.get? d) :=
  ⟨hattached, hexists, hunlocked, .of_get? hordered fun _ => rfl⟩

theorem Holds.elsewhere (h : Holds b d m) (helsewhere : Elsewhere d b b') : Holds b' d m := by
  refine ⟨helsewhere.attached.trans h.attached,
    Nat.lt_of_lt_of_le h.exists_dict helsewhere.dicts_le, ?_, ?_⟩
  · rw [helsewhere.dict]
    exact h.unlocked
  · rw [helsewhere.dict]
    exact h.lists

/-- One operation: the script sees what it would see of the map, and the dictionary holds the values
after it. An operation that fails leaves them as they were. -/
theorem perform_step (command : String → Act BridgeError Unit) (h : Holds b d m)
    (hmeans : Means b d op q) :
    Sees d (step m q) (op.perform command b) ∧
      Holds (final (op.perform command b)) d (step m q).2 ∧
      b.objects.Extends (final (op.perform command b)).objects := by
  have hsettles := perform_settles command h hmeans
  unfold step
  generalize op.perform command b = outcome at hsettles ⊢
  generalize apply m q = x at hsettles ⊢
  cases hsettles with
  | ok hworked => exact ⟨.ok hworked.gives hworked.holds, hworked.holds, hworked.objects⟩
  | error e hadds => exact ⟨.error (h.adds hadds), h.adds hadds, hadds.objects⟩

/-- Proxies of a dictionary that is not locked behave like the map of its values, whatever a script
does with them. A key is the text that an object gives. What shows the entries shows them all, in the
order of their keys. -/
theorem proxies_behave_as_map (h : Holds b d m) (hwork : Work command d b log b') :
    ∃ m', Behaves d m log m' ∧ Holds b' d m' ∧ Coherent m' := by
  induction hwork with
  | start => exact ⟨m, .start, h, coherent m⟩
  | perform _ hmeans ih =>
    obtain ⟨m', hbehaves, hholds, -⟩ := ih
    obtain ⟨hsees, hholds', -⟩ := perform_step command hholds hmeans
    exact ⟨_, hbehaves.next hsees, hholds', coherent _⟩
  | elsewhere _ helsewhere ih =>
    obtain ⟨m', hbehaves, hholds, hcoherent⟩ := ih
    exact ⟨m', hbehaves, hholds.elsewhere helsewhere, hcoherent⟩

/-- An integer and a text are one key. There is nothing under another key, which changes nothing, and
the keys are shown in order. -/
theorem proxies_behave_as_map_twice :
    let d : DictRef := ⟨0⟩
    let cells : Array Object := #[.proxy .dictionary (.dict d),
      .proxy .method (.method (.dict d) .dictionary "keys"), .int 1, .str "1", .str "v", .str "z"]
    let b : Bridge := { Bridge.fresh with
      editor := { Bridge.fresh.editor with
        store := { dicts := #[{ entries := [("a", .str "x")] }] } }
      objects := { cells } }
    let command : String → Act BridgeError Unit := fun _ => pure ()
    let m : Map := Function.update (b.editor.store.get? d) "1" (some (.str "v"))
    ∃ log b', Work command d b log b' ∧ log.map (·.1) = [.set (.ok "1") (.ok (.str "v")),
        .get (.ok "1"), .delete (.ok "z"), .keys] ∧
      List.Forall₂ (Sees d) [(.ok .nothing, m), (.ok (.value (.str "v")), m), (.error .key, m),
        (.ok .keys, m)] (log.map (·.2)) ∧
      Lists m [("1", .str "v"), ("a", .str "x")] ∧ ∃ m', Behaves d (b.editor.store.get? d) log m' ∧
        Holds b' d m' ∧ Coherent m' := by
  intro d cells b command m
  have hholds : Holds b d (b.editor.store.get? d) :=
    holds_of_unlocked rfl (by decide) rfl (List.pairwise_singleton _ _)
  have hlists : Lists m [("1", .str "v"), ("a", .str "x")] := hholds.lists.insert "1" (.str "v")
  -- A value is put under the key that the integer gives.
  have hset : Means b d (.set ⟨0⟩ ⟨2⟩ ⟨4⟩) (.set (.ok "1") (.ok (.str "v"))) :=
    @Means.set b d ⟨0⟩ rfl ⟨2⟩ ⟨4⟩
  obtain ⟨hsees₁, hholds₁, hextends₁⟩ := perform_step command hholds hset
  have hwork₁ : Work command d b _ _ := .perform .start hset
  generalize (Operation.set ⟨0⟩ ⟨2⟩ ⟨4⟩).perform command b = outcome₁
    at hsees₁ hholds₁ hextends₁ hwork₁
  replace hsees₁ : Sees d (.ok .nothing, m) outcome₁ := hsees₁
  replace hholds₁ : Holds (final outcome₁) d m := hholds₁
  -- The text is the same key.
  have hget := Means.get (d := d) (hextends₁.get ⟨0⟩ (by decide)) ⟨3⟩
  have hone : keyOf (final outcome₁).objects ⟨3⟩ = .ok "1" :=
    keyOf_congr (hextends₁.get ⟨3⟩ (by decide))
  rw [hone] at hget
  obtain ⟨hsees₂, hholds₂, hextends₂⟩ := perform_step command hholds₁ hget
  have hwork₂ := hwork₁.perform hget
  generalize (Operation.get ⟨0⟩ ⟨3⟩).perform command _ = outcome₂
    at hsees₂ hholds₂ hextends₂ hwork₂
  replace hsees₂ : Sees d (.ok (.value (.str "v")), m) outcome₂ := hsees₂
  replace hholds₂ : Holds (final outcome₂) d m := hholds₂
  replace hextends₂ := hextends₁.trans hextends₂
  -- Nothing is under another key.
  have hdelete := Means.delete (d := d) (hextends₂.get ⟨0⟩ (by decide)) ⟨5⟩
  have hother : keyOf (final outcome₂).objects ⟨5⟩ = .ok "z" :=
    keyOf_congr (hextends₂.get ⟨5⟩ (by decide))
  rw [hother] at hdelete
  obtain ⟨hsees₃, hholds₃, hextends₃⟩ := perform_step command hholds₂ hdelete
  have hwork₃ := hwork₂.perform hdelete
  generalize (Operation.delete ⟨0⟩ ⟨5⟩).perform command _ = outcome₃
    at hsees₃ hholds₃ hextends₃ hwork₃
  replace hsees₃ : Sees d (.error .key, m) outcome₃ := hsees₃
  replace hholds₃ : Holds (final outcome₃) d m := hholds₃
  replace hextends₃ := hextends₂.trans hextends₃
  -- The keys are shown.
  have hkeys : Means (final outcome₃) d (.keys ⟨1⟩) .keys := .keys (hextends₃.get ⟨1⟩ (by decide))
  obtain ⟨hsees₄, -, -⟩ := perform_step command hholds₃ hkeys
  have hwork₄ := hwork₃.perform hkeys
  exact ⟨_, _, hwork₄, rfl, .cons hsees₁ (.cons hsees₂ (.cons hsees₃ (.cons hsees₄ .nil))), hlists,
    proxies_behave_as_map hholds hwork₄⟩

end ValueMap

end ScriptBridge
