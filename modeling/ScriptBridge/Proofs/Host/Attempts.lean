import ScriptBridge.Proofs.Host.Locks

/-!
# Attempts of the host interpreter on a container that is shut

An expression can add to a list wherever a part of it is a call of `add()`, and `:let` and `:unlet`
change the dictionary of a scope. What stands in front of the attempt is evaluated first. If the
container is shut when the attempt is made, the attempt is refused, and nothing in an expression or
a command goes on after a failure.
-/

namespace ScriptBridge.Host

open ScriptBridge.Convert (Container)
open ScriptBridge.Computation

/-! ### Requests -/

/-- A change of what a container holds, as host code asks for it. -/
inductive Request where
  | push (l : ListRef) (v : Value)
  | setItem (l : ListRef) (i : Nat) (v : Value)
  | removeItem (l : ListRef) (i : Nat)
  | splice (l : ListRef) (lo hi : Nat) (vs : List Value)
  | extend (l : ListRef) (vs : List Value)
  | insert (d : DictRef) (key : String) (v : Value)
  | erase (d : DictRef) (key : String)

namespace Request

/-- The container that a request is about. -/
def container : Request → Container
  | push l _ | setItem l _ _ | removeItem l _ | splice l _ _ _ | extend l _ => .list l
  | insert d _ _ | erase d _ => .dict d

/-- What the store does on a request. -/
def apply (s : Store) : Request → Except LockError Store
  | push l v => s.push l v
  | setItem l i v => s.setItem l i v
  | removeItem l i => s.removeItem l i
  | splice l lo hi vs => s.splice l lo hi vs
  | extend l vs => s.extend l vs
  | insert d key v => s.insert d key v
  | erase d key => s.erase d key

variable {r : Request} {s s' : Store}

/-- No request puts the entries of a dictionary out of order. -/
theorem ordered (hs : s.Ordered) (h : r.apply s = .ok s') : s'.Ordered := by
  cases r <;> rw [apply] at h
  case push | setItem | removeItem | splice | extend =>
    obtain ⟨-, items, -, rfl⟩ := Store.writeList_eq_ok.mp h
    exact hs
  case insert => exact hs.insert h
  case erase => exact hs.erase h

/-- Entries are in order after any number of requests. -/
theorem ordered_of_requests {requests : List Request} (hs : s.Ordered)
    (h : requests.foldlM apply s = .ok s') : s'.Ordered := by
  induction requests generalizing s with
  | nil =>
    cases h
    exact hs
  | cons r rest ih =>
    rw [List.foldlM_cons] at h
    cases hr : r.apply s with
    | error e =>
      rw [hr] at h
      cases h
    | ok s₁ =>
      rw [hr] at h
      exact ih (ordered hs hr) h

/-- Every request on a shut container is refused. -/
theorem refused (h : r.container.Shut s) : ∃ e, r.apply s = .error e := by
  cases r <;> rw [apply]
  case push | setItem | removeItem | splice | extend => exact ⟨_, Container.writeList_shut h _⟩
  case insert | erase => exact ⟨_, Container.writeDict_shut h _⟩

end Request

/-- The store with another lock on a container, unless its lock is fixed. -/
def Store.relock (s : Store) (c : Container) (lock : Lock) : Except LockError Store :=
  match c with
  | .list l => s.lockList l lock
  | .dict d => s.lockDict d lock

/-- Another lock leaves the entries in order. -/
theorem Store.Ordered.relock {s s' : Store} {c : Container} {lock : Lock} (hs : s.Ordered)
    (h : s.relock c lock = .ok s') : s'.Ordered := by
  cases c with
  | list l =>
    obtain ⟨-, rfl⟩ := Store.lockList_eq_ok.mp h
    exact hs
  | dict d => exact hs.lockDict h

/-- A fixed lock stays. -/
theorem Store.relock_fixed {s : Store} {c : Container} (h : c.lock s = .fixed) (lock : Lock) :
    ∃ e, s.relock c lock = .error e := by
  cases c with
  | list l => exact ⟨_, Container.lockList_fixed h lock⟩
  | dict d => exact ⟨_, Container.lockDict_fixed h lock⟩

/-! ### Expressions -/

section Expressions

variable {functions : UserFunctions} {l : ListRef} {c : Container} {e e' : Editor}

/-- Evaluating trees one after another comes to a call of the built-in `add()` for a list that is
shut at that moment. -/
inductive Adds (functions : UserFunctions) (l : ListRef) : List Expr → Editor → Prop where
  | here {args rest : List Expr} {e e' : Editor} {v : Value} (hname : functions "add" = none)
      (hargs : Expr.evalItems functions args e = .ok [.list l, v] e')
      (hshut : (Container.list l).Shut e'.store) : Adds functions l (.call "add" args :: rest) e
  | argument {function : String} {args rest : List Expr} {e : Editor}
      (h : Adds functions l args e) : Adds functions l (.call function args :: rest) e
  | list {items rest : List Expr} {e : Editor} (h : Adds functions l items e) :
    Adds functions l (.list items :: rest) e
  | dict {entries : List (Expr × Expr)} {rest : List Expr} {e : Editor}
      (h : Adds functions l (entries.flatMap fun p => [p.1, p.2]) e) :
    Adds functions l (.dict entries :: rest) e
  | negate {x : Expr} {rest : List Expr} {e : Editor} (h : Adds functions l [x] e) :
    Adds functions l (.negate x :: rest) e
  | binary {op : Operator} {left right : Expr} {rest : List Expr} {e : Editor}
      (h : Adds functions l [left, right] e) : Adds functions l (.binary op left right :: rest) e
  | unfinished {x : Expr} {error : HostError} {rest : List Expr} {e : Editor}
      (h : Adds functions l [x] e) : Adds functions l (.unfinished x error :: rest) e
  | next {x : Expr} {rest : List Expr} {e e' : Editor} {v : Value}
      (hfirst : x.eval functions e = .ok v e') (h : Adds functions l rest e') :
    Adds functions l (x :: rest) e

/-- Trees one of which fails: the first one or one of the rest. -/
theorem stops_evalItems {x : Expr} {xs : List Expr}
    (h : Stops (Expr.evalItems functions (x :: xs)) e) :
    Stops (x.eval functions) e ∨
      ∃ v e', x.eval functions e = .ok v e' ∧ Stops (Expr.evalItems functions xs) e' := by
  rw [Expr.evalItems] at h
  obtain hfirst | ⟨v, e', hfirst, hrest⟩ := h.cases
  · exact .inl hfirst
  · obtain hrest | ⟨vs, e'', -, hpure⟩ := hrest.cases
    · exact .inr ⟨v, e', hfirst, hrest⟩
    · exact absurd hpure Stops.not_pure

theorem stops_evalItems_single {x : Expr} (h : Stops (Expr.evalItems functions [x]) e) :
    Stops (x.eval functions) e := by
  obtain hfirst | ⟨v, e', -, hrest⟩ := stops_evalItems h
  · exact hfirst
  · rw [Expr.evalItems] at hrest
    exact absurd hrest Stops.not_pure

/-- The keys and values of a dictionary are evaluated in turn. -/
theorem stops_evalEntries {entries : List (Expr × Expr)} (done : List (String × Value))
    (h : Stops (Expr.evalItems functions (entries.flatMap fun p => [p.1, p.2])) e) :
    Stops (Expr.evalEntries functions entries done) e := by
  induction entries generalizing e done with
  | nil =>
    rw [List.flatMap_nil, Expr.evalItems] at h
    exact absurd h Stops.not_pure
  | cons p rest ih =>
    obtain ⟨k, v⟩ := p
    rw [Expr.evalEntries]
    obtain hkey | ⟨key, e₁, hkey, h⟩ := stops_evalItems h
    · exact hkey.bind
    · refine .next hkey (.next rfl ?_)
      obtain hvalue | ⟨value, e₂, hvalue, h⟩ := stops_evalItems h
      · exact hvalue.bind
      · exact .next hvalue (ih _ h)

/-- The texts of expressions are made as the expressions are evaluated. -/
theorem stops_echoAll {trees : List Expr} (h : Stops (Expr.evalItems functions trees) e) :
    Stops (echoAll functions trees) e := by
  induction trees generalizing e with
  | nil =>
    rw [Expr.evalItems] at h
    exact absurd h Stops.not_pure
  | cons x xs ih =>
    obtain hfirst | ⟨v, e', hfirst, hrest⟩ := stops_evalItems h
    · exact hfirst.bind
    · exact .next hfirst (.next rfl (ih hrest).bind)

/-- A write of a shut container fails. -/
theorem stops_store {f : Store → Except LockError Store} {err : LockError}
    (h : f e.store = .error err) : Stops (Eval.store f) e := by
  refine .next rfl ?_
  rw [h]
  exact .throw

/-- The built-in `add()` fails for a shut list. -/
theorem stops_add (hname : functions "add" = none) (v : Value)
    (hshut : (Container.list l).Shut e.store) :
    Stops (callFunction functions "add" [.list l, v]) e := by
  unfold callFunction
  rw [hname]
  exact .next rfl (.bind (stops_store (Container.writeList_shut hshut _)))

/-- Trees that come to an attempt on a shut list fail. -/
theorem Adds.stops {trees : List Expr} (h : Adds functions l trees e) :
    Stops (Expr.evalItems functions trees) e := by
  induction h with
  | here hname hargs hshut =>
    rw [Expr.evalItems, Expr.eval]
    exact .bind (.next hargs (stops_add hname _ hshut))
  | argument _ ih | list _ ih =>
    rw [Expr.evalItems, Expr.eval]
    exact .bind (.bind ih)
  | dict _ ih =>
    rw [Expr.evalItems, Expr.eval]
    exact .bind (.bind (stops_evalEntries [] ih))
  | negate _ ih | unfinished _ ih =>
    rw [Expr.evalItems, Expr.eval]
    exact .bind (.bind (stops_evalItems_single ih))
  | binary _ ih =>
    rw [Expr.evalItems, Expr.eval]
    refine .bind ?_
    obtain hleft | ⟨v, e', hleft, hright⟩ := stops_evalItems ih
    · exact .bind hleft
    · exact .next hleft (.bind (stops_evalItems_single hright))
  | next hfirst _ ih =>
    rw [Expr.evalItems]
    exact .next hfirst (.bind ih)

/-- Evaluating trees comes to a call of the built-in `add()` for the list that a container is. -/
def AddsIn (functions : UserFunctions) (c : Container) (trees : List Expr) (e : Editor) : Prop :=
  ∃ l, c = .list l ∧ Adds functions l trees e

theorem AddsIn.stops {trees : List Expr} (h : AddsIn functions c trees e) :
    Stops (Expr.evalItems functions trees) e := by
  obtain ⟨l, -, h⟩ := h
  exact h.stops

theorem AddsIn.stops_evalText {src : String} (h : AddsIn functions c [Expr.ofText src] e) :
    Stops (evalText functions src) e :=
  stops_evalItems_single h.stops

end Expressions

/-! ### Commands -/

section Commands

variable {functions : UserFunctions} {c : Container} {e : Editor} {line word arg : String}

/-- What `:let` evaluates. -/
def operand (arg : String) : String :=
  String.ofList ((arg.toList.dropWhile (· ≠ '=')).drop 1)

/-- The variable that `:let` assigns. -/
def assigned (arg : String) : String :=
  Text.trim (String.ofList (arg.toList.takeWhile (· ≠ '=')))

/-- A command line that comes to an attempt to change what a container holds, while the container
is shut. -/
inductive Attempts (functions : UserFunctions) (c : Container) (line : String) (e : Editor) :
    Prop where
  | echo {word arg : String} (hline : splitCommand (commandText line) = (word, arg))
      (hword : word ∈ ["echo", "echom", "echomsg"])
      (h : AddsIn functions c (Expr.readAll arg) e)
  | value {word arg : String} (hline : splitCommand (commandText line) = (word, arg))
      (hword : word ∈ ["echoe", "echoerr", "cal", "call"])
      (h : AddsIn functions c [Expr.ofText arg] e)
  | operand {arg : String} (hline : splitCommand (commandText line) = ("let", arg))
      (h : AddsIn functions c [Expr.ofText (operand arg)] e)
  | assign {arg key : String} {d : DictRef} {v : Value} {e' : Editor}
      (hline : splitCommand (commandText line) = ("let", arg))
      (hvalue : evalText functions (Host.operand arg) e = .ok v e')
      (hscope : e'.scopeOf (assigned arg) = .ok (d, key)) (hc : c = .dict d)
      (hshut : c.Shut e'.store)
  | unassign {word arg key : String} {d : DictRef}
      (hline : splitCommand (commandText line) = (word, arg)) (hword : word ∈ ["unl", "unlet"])
      (hscope : e.scopeOf arg = .ok (d, key)) (hc : c = .dict d) (hshut : c.Shut e.store)

/-- A line with a command word is neither blank nor a comment. -/
theorem not_blank (hline : splitCommand (commandText line) = (word, arg)) (hword : word ≠ "") :
    ¬((commandText line).isEmpty || (commandText line).head? = some '"') = true := by
  intro hblank
  refine hword ?_
  have hfirst := congrArg Prod.fst hline
  rw [← show _ = word from hfirst, splitCommand]
  cases htext : commandText line with
  | nil => rfl
  | cons first rest =>
    rw [htext] at hblank
    obtain rfl : first = '"' := by simpa using hblank
    rfl

theorem scopeOf_eq {name : String} {r : DictRef × String} (h : e.scopeOf name = .ok r) :
    Eval.scopeOf name e = .ok r e := by
  unfold Eval.scopeOf
  rw [bind_apply, get_apply]
  dsimp only
  rw [h]
  rfl

/-- An attempt that comes after the value is known. -/
theorem stops_assign_store {key : String} {d : DictRef} {v : Value} {e' : Editor}
    (hvalue : evalText functions (operand arg) e = .ok v e')
    (hscope : e'.scopeOf (assigned arg) = .ok (d, key))
    (hshut : (Container.dict d).Shut e'.store) : Stops (assign functions arg) e := by
  have hrest : Stops (do
      let value ← evalText functions (operand arg)
      let place ← Eval.scopeOf (assigned arg)
      Eval.store fun s => s.insert place.1 place.2 value : Eval Unit) e :=
    .next hvalue (.next (scopeOf_eq hscope) (stops_store (Container.writeDict_shut hshut _)))
  unfold assign
  dsimp only
  split
  · exact .bind .throw
  · exact hrest

theorem stops_assign_operand (h : Stops (evalText functions (operand arg)) e) :
    Stops (assign functions arg) e := by
  unfold assign
  dsimp only
  split
  · exact .bind .throw
  · exact .bind h

theorem stops_unassign {key : String} {d : DictRef} (hscope : e.scopeOf arg = .ok (d, key))
    (hshut : (Container.dict d).Shut e.store) : Stops (unassign arg) e :=
  .next (scopeOf_eq hscope) (.next rfl (.bind (stops_store (Container.writeDict_shut hshut _))))

/-- A command line that comes to an attempt on a shut container fails. -/
theorem Attempts.stops (h : Attempts functions c line e) :
    Stops (runCommand functions line) e := by
  unfold runCommand
  dsimp only
  cases h with
  | echo hline hword h =>
    rw [if_neg (not_blank hline (by rintro rfl; simp at hword)), hline]
    simp only [List.mem_cons, List.not_mem_nil, or_false] at hword
    rcases hword with rfl | rfl | rfl
    all_goals exact .bind (stops_echoAll h.stops)
  | value hline hword h =>
    rw [if_neg (not_blank hline (by rintro rfl; simp at hword)), hline]
    simp only [List.mem_cons, List.not_mem_nil, or_false] at hword
    rcases hword with rfl | rfl | rfl | rfl
    all_goals exact .bind h.stops_evalText
  | operand hline h =>
    rw [if_neg (not_blank hline (by decide)), hline]
    exact stops_assign_operand h.stops_evalText
  | assign hline hvalue hscope hc hshut =>
    subst hc
    rw [if_neg (not_blank hline (by decide)), hline]
    exact stops_assign_store hvalue hscope hshut
  | unassign hline hword hscope hc hshut =>
    subst hc
    rw [if_neg (not_blank hline (by rintro rfl; simp at hword)), hline]
    simp only [List.mem_cons, List.not_mem_nil, or_false] at hword
    rcases hword with rfl | rfl
    all_goals exact stops_unassign hscope hshut

end Commands

end ScriptBridge.Host
