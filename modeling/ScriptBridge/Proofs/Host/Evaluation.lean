import ScriptBridge.Host.Command
import ScriptBridge.Host.Functions
import ScriptBridge.Proofs.Host.Evolution

/-!
# What the host interpreter does by itself

It edits, shows messages, makes containers and changes what they hold. It neither locks a container
nor unlocks one; only the functions that the user defines can do so. A relation between editors that
all of this keeps to is a progress, and every expression and every command keeps to it, provided
that the functions the user defines do. So they change the editor by moves only. An expression alone
only adds to the containers, so it keeps to more relations, those that are a growth.
-/

namespace ScriptBridge.Host

open ScriptBridge.Computation

/-- The ways in which the containers change without a change of their locks. -/
inductive Store.Write (s : Store) : Store → Prop where
  | newList (items : List Value) : Write s (s.newList items).2
  | newDict (entries : List (String × Value)) (scope : Scope) : Write s (s.newDict entries scope).2
  | writeList {s' : Store} (l : ListRef) (change : List Value → Except LockError (List Value))
      (h : s.writeList l change = .ok s') : Write s s'
  | writeDict {s' : Store} (d : DictRef)
      (change : List (String × Value) → List (String × Value))
      (h : s.writeDict d change = .ok s') : Write s s'

theorem Store.Write.step {s s' : Store} (h : s.Write s') : s.Step s' := by
  cases h with
  | newList items => exact .newList items
  | newDict entries scope => exact .newDict entries scope
  | writeList l change h => exact .writeList l change h
  | writeDict d change h => exact .writeDict d change h

/-- The ways in which an expression changes the containers: it makes new ones and appends to
lists. -/
inductive Store.Addition (s : Store) : Store → Prop where
  | newList (items : List Value) : Addition s (s.newList items).2
  | newDict (entries : List (String × Value)) (scope : Scope) :
      Addition s (s.newDict entries scope).2
  | push {s' : Store} (l : ListRef) (v : Value) (h : s.push l v = .ok s') : Addition s s'

theorem Store.Addition.write {s s' : Store} (h : s.Addition s') : s.Write s' := by
  cases h with
  | newList items => exact .newList items
  | newDict entries scope => exact .newDict entries scope
  | push l v h => exact .writeList l _ h

/-- A relation between an editor and a later one that expressions keep to. -/
class Editor.Growth (R : Editor → Editor → Prop) : Prop where
  refl (e : Editor) : R e e
  trans {e e' e'' : Editor} (h : R e e') (h' : R e' e'') : R e e''
  add {e : Editor} {s : Store} (h : e.store.Addition s) : R e { e with store := s }

/-- A relation between an editor and a later one that the host interpreter keeps to. -/
class Editor.Progress (R : Editor → Editor → Prop) : Prop where
  refl (e : Editor) : R e e
  trans {e e' e'' : Editor} (h : R e e') (h' : R e' e'') : R e e''
  edit {e e' : Editor} (h : e.Edit e') : R e e'
  store {e : Editor} {s : Store} (h : e.store.Write s) : R e { e with store := s }
  say (e : Editor) (m : Message) : R e (e.say m)

instance {R : Editor → Editor → Prop} [Editor.Progress R] : Editor.Growth R where
  refl := Editor.Progress.refl
  trans := Editor.Progress.trans
  add h := Editor.Progress.store h.write

instance : Editor.Progress Editor.Moves where
  refl _ := .refl
  trans h h' := h.trans h'
  edit h := .single (.edit h)
  store h := .single (.store h.step)
  say _ m := .single (.say m)

/-- The containers do not matter for the shape of the editor. -/
theorem Editor.WellFormed.withStore {e : Editor} (he : e.WellFormed) (s : Store) :
    { e with store := s }.WellFormed := ⟨he.texts, he.layout, he.shown⟩

/-- A computation that keeps editors well formed, and keeps to a relation. -/
def Proceeds {ε α : Type} (R : Editor → Editor → Prop) (a : EStateM ε Editor α) : Prop :=
  ∀ e : Editor, e.WellFormed → (final (a e)).WellFormed ∧ R e (final (a e))

/-- User-defined functions that keep to a relation. -/
def UserFunctions.Proceed (functions : UserFunctions) (R : Editor → Editor → Prop) : Prop :=
  ∀ name f, functions name = some f → ∀ args, Proceeds R (f args)

theorem Orderly.proceeds {ε α : Type} {a : EStateM ε Editor α} (ha : Orderly a) :
    Proceeds Editor.Moves a :=
  fun e he => ⟨(ha e he).wellFormed he, ha e he⟩

theorem UserFunctions.Orderly.proceed {functions : UserFunctions} (hf : functions.Orderly) :
    functions.Proceed Editor.Moves :=
  fun name f h args => (hf name f h args).proceeds

namespace Proceeds

variable {ε α β : Type} {R : Editor → Editor → Prop}

theorem orderly {a : EStateM ε Editor α} (ha : Proceeds Editor.Moves a) : Orderly a :=
  fun e he => (ha e he).2

section Growth

variable [Editor.Growth R]

theorem pure (x : α) : Proceeds R (Pure.pure x : EStateM ε Editor α) :=
  fun e he => ⟨he, Editor.Growth.refl e⟩

theorem throw (err : ε) : Proceeds R (MonadExcept.throw err : EStateM ε Editor α) :=
  fun e he => ⟨he, Editor.Growth.refl e⟩

theorem get : Proceeds R (MonadState.get : EStateM ε Editor Editor) :=
  fun e he => ⟨he, Editor.Growth.refl e⟩

theorem bind {a : EStateM ε Editor α} {f : α → EStateM ε Editor β} (ha : Proceeds R a)
    (hf : ∀ x, Proceeds R (f x)) : Proceeds R (a >>= f) := by
  intro e he
  have hfirst := ha e he
  rw [bind_apply]
  cases h : a e with
  | ok x e' =>
    rw [h] at hfirst
    obtain ⟨hwell, hrest⟩ := hf x e' hfirst.1
    exact ⟨hwell, Editor.Growth.trans hfirst.2 hrest⟩
  | error err e' =>
    rw [h] at hfirst
    exact hfirst

end Growth

/-- An operation whose outcome is at most one edit. -/
theorem of_edits [Editor.Progress R] {c : Change α}
    (h : ∀ e : Editor, e.WellFormed → Change.Edits e (c e)) : Proceeds R c := by
  intro e he
  have hedits := h e he
  cases hc : c e with
  | ok x e' =>
    rw [hc] at hedits
    exact ⟨Editor.Edit.wellFormed hedits he, Editor.Progress.edit hedits⟩
  | error err e' =>
    rw [hc] at hedits
    cases (hedits : e' = e)
    exact ⟨he, Editor.Progress.refl e⟩

end Proceeds

/-! ### Expressions and commands keep to every progress -/

variable {R : Editor → Editor → Prop}

namespace Change

/-! ### Operations -/

variable [Editor.Progress R]

theorem proceeds_addBuffer (name : String) (lines : List String) :
    Proceeds R (addBuffer name lines) :=
  .of_edits fun _ _ => addBuffer_edits name lines

theorem proceeds_renameBuffer (id : Nat) (name : String) : Proceeds R (renameBuffer id name) :=
  .of_edits fun _ _ => renameBuffer_edits id name

theorem proceeds_replaceLines (id lo hi : Nat) (new : List String) :
    Proceeds R (replaceLines id lo hi new) :=
  .of_edits fun _ _ => replaceLines_edits id lo hi new

theorem proceeds_wipeBuffer (id : Nat) : Proceeds R (wipeBuffer id) :=
  .of_edits fun _ _ => wipeBuffer_edits id

theorem proceeds_splitWindow (buffer : Nat) : Proceeds R (splitWindow buffer) :=
  .of_edits fun _ he => splitWindow_edits he buffer

theorem proceeds_closeTab (id : Nat) : Proceeds R (closeTab id) :=
  .of_edits fun _ he => closeTab_edits he id

theorem proceeds_closeWindow (id : Nat) : Proceeds R (closeWindow id) :=
  .of_edits fun _ he => closeWindow_edits he id

theorem proceeds_setCursor (id row col : Nat) : Proceeds R (setCursor id row col) :=
  .of_edits fun _ he => setCursor_edits he id row col

theorem proceeds_newTab (buffer : Nat) : Proceeds R (newTab buffer) :=
  .of_edits fun _ _ => newTab_edits buffer

theorem proceeds_setCurrentWindow (id : Nat) : Proceeds R (setCurrentWindow id) :=
  .of_edits fun _ he => setCurrentWindow_edits he id

theorem proceeds_setCurrentTab (id : Nat) : Proceeds R (setCurrentTab id) :=
  .of_edits fun _ he => setCurrentTab_edits he id

theorem proceeds_setCurrentBuffer (id : Nat) : Proceeds R (setCurrentBuffer id) :=
  .of_edits fun _ _ => setCurrentBuffer_edits id

theorem proceeds_setHeight (id height : Nat) : Proceeds R (setHeight id height) :=
  .of_edits fun _ _ => setHeight_edits id height

theorem proceeds_setWidth (id width : Nat) : Proceeds R (setWidth id width) :=
  .of_edits fun _ _ => setWidth_edits id width

end Change

namespace Eval

/-! ### Steps of the interpreter -/

theorem proceeds_change {α : Type} {c : Change α} (h : Proceeds R c) : Proceeds R (change c) := by
  intro e he
  have hproceeds := h e he
  unfold change
  cases hc : c e with
  | ok x e' =>
    rw [hc] at hproceeds
    exact hproceeds
  | error err e' =>
    rw [hc] at hproceeds
    exact hproceeds

theorem proceeds_say [Editor.Progress R] (m : Message) : Proceeds R (say m) :=
  fun e he => ⟨⟨he.texts, he.layout, he.shown⟩, Editor.Progress.say e m⟩

section Growth

variable [Editor.Growth R]

theorem proceeds_fail {α : Type} (e : HostError) : Proceeds R (fail e : Eval α) := .throw _

/-- A check in front of a computation. -/
theorem proceeds_guard {α : Type} {c : Prop} [Decidable c] {e : HostError} {f : Unit → Eval α}
    (hf : Proceeds R (f ())) : Proceeds R (if c then fail e >>= f else f ()) := by
  split
  · exact .bind (proceeds_fail e) fun _ => hf
  · exact hf

/-- A checked change of the containers that the relation allows. -/
theorem proceeds_store_of {f : Store → Except LockError Store}
    (h : ∀ e s, f e.store = .ok s → R e { e with store := s }) : Proceeds R (store f) := by
  refine fun e he => ?_
  simp only [store, bind_apply, get_apply]
  cases hf : f e.store with
  | ok s => exact ⟨he.withStore s, h e s hf⟩
  | error reason => exact ⟨he, Editor.Growth.refl e⟩

theorem proceeds_push (l : ListRef) (v : Value) : Proceeds R (store fun s => s.push l v) :=
  proceeds_store_of fun _ _ h => Editor.Growth.add (.push l v h)

theorem proceeds_newList (items : List Value) : Proceeds R (newList items) :=
  fun _ he => ⟨he.withStore _, Editor.Growth.add (.newList items)⟩

theorem proceeds_newDict (entries : List (String × Value)) : Proceeds R (newDict entries) :=
  fun _ he => ⟨he.withStore _, Editor.Growth.add (.newDict entries .plain)⟩

theorem proceeds_scopeOf (name : String) : Proceeds R (scopeOf name) := by
  refine .bind .get fun e => ?_
  split
  · exact .pure _
  · exact proceeds_fail _

end Growth

/-- A checked change of what containers hold. -/
theorem proceeds_store [Editor.Progress R] {f : Store → Except LockError Store}
    (h : ∀ s s', f s = .ok s' → s.Write s') : Proceeds R (store f) :=
  proceeds_store_of fun _ _ hf => Editor.Progress.store (h _ _ hf)

end Eval

open Eval

section Growth

variable [Editor.Growth R]

/-! ### Functions -/

theorem proceeds_callBuiltin (name : String) (args : List Value) :
    Proceeds R (callBuiltin name args) := by
  refine .bind .get fun e => ?_
  dsimp only
  split
  all_goals first
    | exact .pure _
    | exact proceeds_fail _
    | exact proceeds_newList _
    | skip
  · split
    · exact .pure _
    · exact proceeds_fail _
  · split
    · exact .pure _
    · exact .pure _
    · exact proceeds_fail _
  · exact .bind (proceeds_push _ _) fun _ => .pure _
  · split
    · exact proceeds_fail _
    · exact proceeds_fail _

theorem proceeds_callFunction {functions : UserFunctions} (hf : functions.Proceed R) (name : String)
    (args : List Value) : Proceeds R (callFunction functions name args) := by
  unfold callFunction
  cases h : functions name with
  | none => exact proceeds_callBuiltin name args
  | some f => exact hf name f h args

/-! ### Expressions -/

theorem proceeds_asFloat (v : Value) : Proceeds R (asFloat v) := by
  unfold asFloat
  split
  · exact .pure _
  · exact .pure _
  · exact proceeds_fail _

theorem proceeds_asNumber (v : Value) : Proceeds R (asNumber v) := by
  unfold asNumber
  split
  · exact .pure _
  · exact proceeds_fail _

theorem proceeds_floatArith (op : Operator) (a b : Float) : Proceeds R (floatArith op a b) := by
  cases op with
  | add | subtract | multiply | divide => exact .pure _
  | concat | remainder => exact proceeds_fail _

theorem proceeds_numberArith (op : Operator) (a b : Int64) : Proceeds R (numberArith op a b) := by
  unfold numberArith
  split
  · exact .pure _
  · exact .pure _
  · exact .pure _
  all_goals
    split
    · exact .pure _
    · split
      · exact .throw _
      · exact .pure _

theorem proceeds_arith (op : Operator) (a b : Value) : Proceeds R (arith op a b) := by
  unfold arith
  split
  · exact .bind .get fun _ => .pure _
  · exact .bind (proceeds_asFloat _) fun _ => proceeds_floatArith _ _ _
  · exact .bind (proceeds_asFloat _) fun _ => proceeds_floatArith _ _ _
  · exact .bind .get fun _ => proceeds_newList _
  · exact .bind (proceeds_asNumber _) fun _ => .bind (proceeds_asNumber _) fun _ =>
      proceeds_numberArith _ _ _

theorem proceeds_readVariable (name : String) : Proceeds R (readVariable name) := by
  refine .bind (proceeds_scopeOf name) fun place => .bind .get fun e => ?_
  split
  · exact .pure _
  · exact proceeds_fail _

namespace Expr

variable {functions : UserFunctions}

mutual

theorem proceeds_eval (hf : functions.Proceed R) (tree : Expr) :
    Proceeds R (eval functions tree) := by
  cases tree with
  | number n | float x | str s => rw [eval]; exact .pure _
  | list items =>
    rw [eval]
    exact .bind (proceeds_evalItems hf items) fun _ => proceeds_newList _
  | dict entries =>
    rw [eval]
    exact .bind (proceeds_evalEntries hf entries []) fun _ => proceeds_newDict _
  | «variable» name =>
    rw [eval]
    exact proceeds_readVariable name
  | call function args =>
    rw [eval]
    exact .bind (proceeds_evalItems hf args) fun _ => proceeds_callFunction hf _ _
  | negate e =>
    rw [eval]
    exact .bind (proceeds_eval hf e) fun _ => proceeds_arith _ _ _
  | binary op left right =>
    rw [eval]
    exact .bind (proceeds_eval hf left) fun _ => .bind (proceeds_eval hf right) fun _ =>
      proceeds_arith _ _ _
  | unfinished e error =>
    rw [eval]
    exact .bind (proceeds_eval hf e) fun _ => proceeds_fail _
  | malformed error =>
    rw [eval]
    exact proceeds_fail _

theorem proceeds_evalItems (hf : functions.Proceed R) (trees : List Expr) :
    Proceeds R (evalItems functions trees) := by
  cases trees with
  | nil => rw [evalItems]; exact .pure _
  | cons e es =>
    rw [evalItems]
    exact .bind (proceeds_eval hf e) fun _ => .bind (proceeds_evalItems hf es) fun _ => .pure _

theorem proceeds_evalEntries (hf : functions.Proceed R) (trees : List (Expr × Expr))
    (done : List (String × Value)) :
    Proceeds R (evalEntries functions trees done) := by
  cases trees with
  | nil => rw [evalEntries]; exact .pure _
  | cons entry rest =>
    obtain ⟨k, v⟩ := entry
    rw [evalEntries]
    exact .bind (proceeds_eval hf k) fun _ => .bind .get fun _ =>
      .bind (proceeds_eval hf v) fun _ => proceeds_evalEntries hf rest _

end

end Expr

/-! ### Commands -/

section Texts

variable {functions : UserFunctions}

theorem proceeds_evalText (hf : functions.Proceed R) (src : String) :
    Proceeds R (evalText functions src) :=
  Expr.proceeds_eval hf _

theorem proceeds_bufferNumber (s : String) : Proceeds R (bufferNumber s) := by
  unfold bufferNumber
  split
  · exact .pure _
  · exact proceeds_fail _

theorem proceeds_echoAll (hf : functions.Proceed R) (trees : List Expr) :
    Proceeds R (echoAll functions trees) := by
  induction trees with
  | nil => exact .pure _
  | cons e es ih =>
    exact .bind (Expr.proceeds_eval hf e) fun _ => .bind .get fun _ => .bind ih fun _ => .pure _

end Texts

end Growth

variable [Editor.Progress R]

section Commands

variable {functions : UserFunctions}

theorem proceeds_assign (hf : functions.Proceed R) (arg : String) :
    Proceeds R (assign functions arg) := by
  unfold assign
  refine proceeds_guard ?_
  refine .bind (proceeds_evalText hf _) fun _ => .bind (proceeds_scopeOf _) fun _ => ?_
  exact proceeds_store fun _ _ h => .writeDict _ _ h

theorem proceeds_unassign (name : String) : Proceeds R (unassign name) := by
  refine .bind (proceeds_scopeOf name) fun place => .bind .get fun e => ?_
  refine .bind (proceeds_store fun _ _ h => .writeDict _ _ h) fun _ => ?_
  split
  · exact proceeds_fail _
  · exact .pure _

/-- Every command keeps to the relation. -/
theorem proceeds_runCommand (hf : functions.Proceed R) (line : String) :
    Proceeds R (runCommand functions line) := by
  unfold runCommand
  dsimp only
  split
  · exact .pure _
  generalize splitCommand (commandText line) = parts
  obtain ⟨word, arg⟩ := parts
  dsimp only
  split
  iterate 3 exact .bind (proceeds_echoAll hf _) fun _ => proceeds_say _
  iterate 2 exact .bind (proceeds_evalText hf _) fun _ => .bind .get fun _ => proceeds_say _
  · exact proceeds_assign hf _
  iterate 2 exact proceeds_unassign _
  iterate 2 exact .bind (proceeds_evalText hf _) fun _ => .pure _
  · exact proceeds_change (.bind (Change.proceeds_addBuffer _ _) fun _ =>
      .bind (Change.proceeds_splitWindow _) fun _ => .pure _)
  iterate 2 exact proceeds_change (.bind .get fun _ =>
    .bind (Change.proceeds_splitWindow _) fun _ => .pure _)
  iterate 2 exact proceeds_change (.bind .get fun _ => Change.proceeds_closeWindow _)
  · exact proceeds_change (.bind (Change.proceeds_addBuffer _ _) fun _ =>
      .bind (Change.proceeds_newTab _) fun _ => .pure _)
  iterate 2 exact proceeds_change (.bind .get fun _ => Change.proceeds_closeTab _)
  iterate 2
    exact .bind (proceeds_bufferNumber _) fun _ =>
      proceeds_change (Change.proceeds_setCurrentBuffer _)
  iterate 3
    split
    · exact .bind .get fun _ => proceeds_change (Change.proceeds_wipeBuffer _)
    · exact .bind (proceeds_bufferNumber _) fun _ => proceeds_change (Change.proceeds_wipeBuffer _)
  · exact proceeds_fail _

end Commands

/-! ### User functions -/

theorem Functions.proceeds_say (args : List Value) : Proceeds R (Functions.say args) :=
  .bind .get fun _ => .bind (Eval.proceeds_say _) fun _ => .pure _

theorem Functions.proceeds_wipe (args : List Value) : Proceeds R (Functions.wipe args) :=
  .bind (proceeds_change (Change.proceeds_wipeBuffer _)) fun _ => .pure _

theorem Functions.proceeds_cycle : Proceeds R Functions.cycle := by
  refine .bind (proceeds_newList _) fun v => ?_
  split
  · exact .bind (proceeds_store fun _ _ h => .writeList _ _ h) fun _ => .pure _
  · exact .pure _

theorem Functions.proceeds_keysBackwards (args : List Value) :
    Proceeds R (Functions.keysBackwards args) := by
  refine .bind .get fun e => ?_
  dsimp only
  split
  · exact proceeds_newList _
  · exact proceeds_fail _

theorem Functions.proceeds_double (args : List Value) : Proceeds R (Functions.double args) := by
  unfold Functions.double
  split
  · exact .pure _
  · exact proceeds_fail _

/-- The functions of the sample configuration neither lock nor unlock a container. -/
theorem Functions.proceeds_all : Functions.all.Proceed R := by
  intro name f h args
  unfold Functions.all at h
  split at h <;> cases h
  · exact proceeds_double args
  · exact proceeds_newList args
  · exact proceeds_fail _
  · exact .pure _
  · exact proceeds_say args
  · exact proceeds_wipe args
  · exact proceeds_cycle
  · exact proceeds_keysBackwards args

/-! ### Moves -/

section Orderly

variable {functions : UserFunctions}

theorem orderly_callFunction (hf : functions.Orderly) (name : String) (args : List Value) :
    Orderly (callFunction functions name args) :=
  (proceeds_callFunction hf.proceed name args).orderly

theorem orderly_evalText (hf : functions.Orderly) (src : String) :
    Orderly (evalText functions src) :=
  (proceeds_evalText hf.proceed src).orderly

/-- Every command changes the editor by moves only. -/
theorem orderly_runCommand (hf : functions.Orderly) (line : String) :
    Orderly (runCommand functions line) :=
  (proceeds_runCommand hf.proceed line).orderly

/-- The functions of the sample configuration act on the editor by moves only. -/
theorem Functions.orderly_all : Functions.all.Orderly :=
  fun name f h args => (proceeds_all name f h args).orderly

end Orderly

end ScriptBridge.Host
