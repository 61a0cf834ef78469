import Mathlib.Data.List.Chain
import ScriptBridge.Proofs.Proxy.Locks
import ScriptBridge.Proofs.Proxy.Sides
import ScriptBridge.Proofs.Session.Course

/-!
# Locks of containers in the course of a session

A run of a session is a list of states, each of which comes from the one before it by a single
operation of the host or of a proxy, or by one change of the containers in host code. Between two
states of a run a container keeps what it holds if it is shut in all the states from the first one
on, and a lock that is fixed stays. An attempt on a shut container fails.
-/

namespace ScriptBridge.Session

open Foreign (ObjRef ProxyClass Target)
open Host (Value Store Lock Request ListRef DictRef AddsIn)
open ScriptBridge.Convert (Container)
open Proxy (targetOf)
open ScriptBridge.Computation

/-! ### Operations -/

/-- A single operation that can concern a container. Command lines are those of the host; a script
that runs inside an operation is a run of its own. -/
inductive Deed where
  | command (line : String)
  | expression (src : String)
  | function (name : String) (args : List Value)
  | attr (cls : ProxyClass) (t : Target) (name : String) (value : Option ObjRef)
  | item (cls : ProxyClass) (t : Target) (k : ObjRef) (value : Option ObjRef)
  /-- An item by its position, as a library asks for it. -/
  | position (cls : ProxyClass) (t : Target) (i : Int) (value : Option ObjRef)
  | call (cls : ProxyClass) (t : Target) (args : List ObjRef)
  | convert (r : ObjRef)

namespace Deed

/-- What an operation does. -/
def perform : Deed → Act BridgeError Unit
  | command line => hostCommand line
  | expression src => do
    let functions := (← get).functions
    let _ ← (Bridge.host (Host.evalText functions src)).mapError .host
  | function name args => do
    let functions := (← get).functions
    let _ ← (Bridge.host (Host.callFunction functions name args)).mapError .host
  | attr cls t name value => (Proxy.slot (Proxy.setAttr cls t name value)).mapError .execute
  | item cls t k value => (Proxy.slot (Proxy.assign cls t k value)).mapError .execute
  | position cls t i value => (Proxy.slot (Proxy.assignItem cls t i value)).mapError .execute
  | call cls t args => do
    let _ ← (Proxy.slot (Proxy.call hostCommand cls t args)).mapError .execute
  | convert r => do
    let _ ← (Convert.toHost r).mapError .convert

/-- An operation that attempts to change what a container holds. What the host evaluates comes to the
attempt while the container is shut. -/
inductive Attempts (c : Container) (b : Bridge) : Deed → Prop where
  /-- An item, a slice or an entry is assigned or deleted. -/
  | item (cls : ProxyClass) (k : ObjRef) (value : Option ObjRef) :
    Attempts c b (.item cls (targetOf c) k value)
  | position (cls : ProxyClass) (i : Int) (value : Option ObjRef) :
    Attempts c b (.position cls (targetOf c) i value)
  | extend (cls : ProxyClass) {l : ListRef} (args : List ObjRef) (hc : c = .list l) :
    Attempts c b (.call cls (.method (.list l) .list "extend") args)
  /-- A mapping with entries is put into a dictionary. -/
  | update (cls : ProxyClass) {d source : DictRef} {other : ObjRef}
      {skipped : List (String × ConvertError)} {b' : Bridge} (hc : c = .dict d)
      (hmapping : Convert.toHostWith true other b = .ok (.dict source, skipped) b')
      (hentries : (b'.editor.store.dict source).entries ≠ []) :
    Attempts c b (.call cls (.method (.dict d) .dictionary "update") [other])
  /-- The proxy of the built-in `add()` is called. -/
  | callAdd (cls : ProxyClass) {l : ListRef} {bound given : List Value} {args : List ObjRef}
      {v : Value} {b' : Bridge} (hc : c = .list l) (hname : b.functions "add" = none)
      (hgiven : args.mapM (fun r => (Convert.toHost r).mapError ProxyError.convert) b =
        .ok given b')
      (hvalues : bound ++ given = [.list l, v]) :
    Attempts c b (.call cls (.function "add" bound) args)
  /-- A script has an expression evaluated. -/
  | callEval (cls : ProxyClass) {f : Foreign.Builtin} {r : ObjRef} {text : String} {b' : Bridge}
      (hf : f ≠ .command) (htext : Convert.stringOf r b = .ok text b')
      (h : AddsIn b'.functions c [Host.Expr.ofText text] b'.editor) :
    Attempts c b (.call cls (.builtin f) [r])
  /-- A script has a command line run. -/
  | callCommand (cls : ProxyClass) {r : ObjRef} {text : String} {b' b'' : Bridge}
      (htext : Convert.stringOf r b = .ok text b')
      (hflush : (Proxy.flush : Act ProxyError Unit) b' = .ok () b'')
      (h : Host.Attempts b''.functions c text b''.editor) :
    Attempts c b (.call cls (.builtin .command) [r])
  | command {line : String} (h : Host.Attempts b.functions c line b.editor) :
    Attempts c b (.command line)
  | expression {src : String} (h : AddsIn b.functions c [Host.Expr.ofText src] b.editor) :
    Attempts c b (.expression src)
  | function {l : ListRef} (v : Value) (hc : c = .list l) (hname : b.functions "add" = none) :
    Attempts c b (.function "add" [.list l, v])

variable {c : Container} {b : Bridge} {d : Deed}

theorem spares_hostCommand (line : String) : (hostCommand line).Spares c := by
  have hdemand : demandEditor.Spares c := by
    refine .bind .get fun b => ?_
    split
    · exact .fail
    · exact .pure
  refine .bind hdemand fun _ b hb => ?_
  exact Act.Spares.mapError (.host (Host.proceeds_runCommand hb.functions line)) b hb

/-- No operation changes what a shut container holds, or a fixed lock. -/
theorem guards (d : Deed) : d.perform.Guards c := by
  cases d with
  | command line => exact (spares_hostCommand line).guards
  | expression src =>
    intro b hb
    have hhost : (Bridge.host (Host.evalText b.functions src)).Spares c :=
      .host (Host.proceeds_evalText hb.functions src)
    exact (hhost.mapError.bind fun _ => .pure).guards b hb
  | function name args =>
    intro b hb
    have hhost : (Bridge.host (Host.callFunction b.functions name args)).Spares c :=
      .host (Host.proceeds_callFunction hb.functions name args)
    exact (hhost.mapError.bind fun _ => .pure).guards b hb
  | attr cls t name value =>
    refine .mapError (Proxy.guards_slot ?_)
    by_cases hname : name = "locked"
    · subst hname
      exact Proxy.guards_setLocked cls t value
    · exact (Proxy.spares_setAttr cls t hname value).guards
  | item cls t k value =>
    exact (Act.Spares.mapError (Proxy.reading_slot (Proxy.spares_assign cls t k value))).guards
  | position cls t i value =>
    exact (Act.Spares.mapError (Proxy.reading_slot (Proxy.spares_assignItem cls t i value))).guards
  | call cls t args =>
    have hcall := Proxy.spares_call (c := c) spares_hostCommand cls t args
    exact (Act.Spares.bind (.mapError (Proxy.reading_slot hcall)) fun _ => .pure).guards
  | convert r =>
    have hconvert : (Convert.toHost r).Spares c := Convert.mild_toHost r
    exact (hconvert.mapError.bind fun _ => .pure).guards

theorem stops_hostCommand {line : String} (h : Stops (Host.runCommand b.functions line) b.editor) :
    Stops (hostCommand line) b := by
  have hdemand : final (demandEditor b) = b := by
    unfold demandEditor
    rw [bind_apply, get_apply]
    dsimp only
    split <;> rfl
  exact .after hdemand fun _ => .next rfl (Bridge.stops_host h).mapError

/-- An attempt on a shut container fails. -/
theorem Attempts.stops (h : d.Attempts c b) (hb : b.IsShut c) : Stops d.perform b := by
  cases h with
  | item cls k value =>
    exact (Proxy.stops_slot (Proxy.stopsIn_assign cls c k value b hb)).mapError
  | position cls i value =>
    exact (Proxy.stops_slot (Proxy.stopsIn_assignItem cls c i value b hb)).mapError
  | extend cls args hc =>
    subst hc
    exact (Proxy.stops_slot (Proxy.stopsIn_extend args b hb)).mapError.bind
  | update cls hc hmapping hentries =>
    subst hc
    have hupdate := Proxy.stops_updateDict hb hmapping hentries
    exact (Proxy.stops_slot (.next rfl hupdate.bind)).mapError.bind
  | callAdd cls hc hname hgiven hvalues =>
    subst hc
    exact (Proxy.stops_slot (Proxy.stops_callHostFunction hb hname hgiven hvalues)).mapError.bind
  | callEval cls hf htext h =>
    exact (Proxy.stops_slot (Proxy.stops_callEval hf htext h.stops_evalText)).mapError.bind
  | callCommand cls htext hflush h =>
    have hcommand := Proxy.stops_callCommand htext hflush (stops_hostCommand h.stops)
    exact (Proxy.stops_slot hcommand).mapError.bind
  | command h => exact stops_hostCommand h.stops
  | expression h => exact .next rfl (Bridge.stops_host h.stops_evalText).mapError.bind
  | function v hc hname =>
    subst hc
    exact .next rfl (Bridge.stops_host (Host.stops_add hname v hb)).mapError.bind

/-- A fixed lock cannot be assigned. -/
theorem stops_setLocked (hb : b.IsFixed c) (cls : ProxyClass) (value : Option ObjRef) :
    Stops (Deed.attr cls (targetOf c) "locked" value).perform b :=
  (Proxy.stops_slot (Proxy.stopsIn_setLocked cls c value b hb)).mapError

end Deed

/-! ### Runs -/

/-- What happens between two states of a run, seen from a container. -/
inductive Activity (c : Container) (b : Bridge) : Bridge → Prop where
  /-- An operation, in which no function of the user opens the container. -/
  | deed (d : Deed) (hb : b.Respects c) : Activity c b (final (d.perform b))
  /-- One change of the containers by host code. -/
  | code {b' : Bridge} (h : b.editor.store.Step b'.editor.store) : Activity c b b'
  /-- Something that does not concern the containers. -/
  | elsewhere {b' : Bridge} (h : b'.editor.store = b.editor.store) : Activity c b b'

variable {c : Container} {b b' : Bridge}

theorem Activity.guarded (h : Activity c b b') :
    c.Guarded b.editor.store b'.editor.store := by
  cases h with
  | deed d hb => exact d.guards b hb
  | code h => exact .of_step h
  | elsewhere h =>
    rw [h]
    exact Container.Spared.refl.guarded

/-- What a container holds between two states of a run, if it is shut from the first one on. -/
theorem contents_of_shut {points : List Bridge} (hrun : points.IsChain (Activity c)) {i n : Nat}
    (hi : points[i]? = some b) (hn : points[i + n]? = some b')
    (hshut : ∀ k < n, ∀ p, points[i + k]? = some p → c.Shut p.editor.store) :
    c.contents b'.editor.store = c.contents b.editor.store := by
  induction n generalizing b' with
  | zero =>
    rw [Nat.add_zero, hi] at hn
    cases hn
    rfl
  | succ n ih =>
    rw [← Nat.add_assoc] at hn
    obtain ⟨hlt, rfl⟩ := List.getElem?_eq_some_iff.mp hn
    have hprev : points[i + n]? = some points[i + n] := List.getElem?_eq_getElem (by omega)
    have hstep := hrun.getElem (i + n) hlt
    rw [hstep.guarded.contents (hshut n (Nat.lt_succ_self n) _ hprev)]
    exact ih hprev fun k hk => hshut k (Nat.lt_succ_of_lt hk)

/-- A fixed lock stays to the end of a run. -/
theorem fixed_of_fixed {points : List Bridge} (hrun : points.IsChain (Activity c)) {i n : Nat}
    (hi : points[i]? = some b) (hn : points[i + n]? = some b')
    (hfixed : c.lock b.editor.store = .fixed) : c.lock b'.editor.store = .fixed := by
  induction n generalizing b' with
  | zero =>
    rw [Nat.add_zero, hi] at hn
    cases hn
    exact hfixed
  | succ n ih =>
    rw [← Nat.add_assoc] at hn
    obtain ⟨hlt, rfl⟩ := List.getElem?_eq_some_iff.mp hn
    have hstep := hrun.getElem (i + n) hlt
    exact hstep.guarded.fixed (ih (List.getElem?_eq_getElem (by omega)))

/-! ### Courses are runs -/

theorem steps_of_move (h : b.Move b') :
    Relation.ReflTransGen Store.Step b.editor.store b'.editor.store := by
  cases h with
  | roots hcore => exact congrArg (fun core => core.editor.store) hcore ▸ .refl
  | alloc | register | set | lifecycle => exact .refl
  | edit h =>
    rw [(b.withEditor_frame _).1]
    exact h.steps
  | shutdown =>
    rw [Bridge.clearRegistry_eq]
    exact (Bridge.foldl_invalidate_frame _ b).1 ▸ .refl

/-- Containers that change step by step change in a run. -/
theorem activities_of_steps {s : Store} (h : Relation.ReflTransGen Store.Step b.editor.store s)
    (hs : b'.editor.store = s) : Relation.ReflTransGen (Activity c) b b' := by
  induction h generalizing b' with
  | refl => exact .single (.elsewhere hs)
  | @tail s₁ s₂ _ hstep ih =>
    have hmid : Relation.ReflTransGen (Activity c) b
        { b with editor := { b.editor with store := s₁ } } := ih rfl
    exact hmid.tail (.code (hs ▸ hstep))

/-- Each course of a session is a run. -/
theorem Course.activities (h : Course b b') (hb : b.Sound) :
    Relation.ReflTransGen (Activity c) b b' := by
  have hmoves (b₁ : Bridge) (hmoves : b.Moves b₁) :
      Relation.ReflTransGen Store.Step b.editor.store b₁.editor.store := by
    induction hmoves with
    | refl => exact .refl
    | tail _ hmove ih => exact ih.trans (steps_of_move hmove)
  have hcourse : b.Moves b' := by
    induction h with
    | refl => exact .refl
    | tail hbefore hstep ih => exact ih.trans (hstep.moves (Course.later hbefore hb).sound)
  exact activities_of_steps (hmoves b' hcourse) rfl

/-- Between two states of a run, a container that is shut meanwhile keeps what it holds, and a fixed
lock stays. Every attempt to change what a shut container holds is refused, and so is every attempt
to change a fixed lock, by an operation or by host code. Every course of a session is a run. -/
theorem shut_container_stays (c : Container) :
    (∀ points : List Bridge, points.IsChain (Activity c) → ∀ (i n : Nat) (b b' : Bridge),
      points[i]? = some b → points[i + n]? = some b' →
        ((∀ k < n, ∀ p, points[i + k]? = some p → c.Shut p.editor.store) →
          c.contents b'.editor.store = c.contents b.editor.store) ∧
        (c.lock b.editor.store = .fixed → c.lock b'.editor.store = .fixed)) ∧
    (∀ (b : Bridge) (d : Deed), b.IsShut c → d.Attempts c b → Stops d.perform b) ∧
    (∀ (s : Store) (r : Request), r.container = c → c.Shut s → ∃ e, r.apply s = .error e) ∧
    (∀ (b : Bridge) (cls : ProxyClass) (value : Option ObjRef), b.IsFixed c →
      Stops (Deed.attr cls (targetOf c) "locked" value).perform b) ∧
    (∀ (s : Store) (lock : Lock), c.lock s = .fixed → ∃ e, s.relock c lock = .error e) ∧
    ∀ b b' : Bridge, b.Sound → Course b b' → ∃ points : List Bridge,
      points.IsChain (Activity c) ∧ points.head? = some b ∧ points.getLast? = some b' := by
  refine ⟨fun points hrun i n b b' hi hn => ⟨?_, ?_⟩, fun b d hb h => h.stops hb, ?_, ?_, ?_, ?_⟩
  · exact contents_of_shut hrun hi hn
  · exact fixed_of_fixed hrun hi hn
  · rintro s r rfl hshut
    exact r.refused hshut
  · exact fun b cls value hb => Deed.stops_setLocked hb cls value
  · exact fun s lock hfixed => Store.relock_fixed hfixed lock
  · intro b b' hb h
    obtain ⟨rest, hrun, hlast⟩ :=
      List.exists_isChain_cons_of_relationReflTransGen (h.activities (c := c) hb)
    refine ⟨b :: rest, hrun, rfl, ?_⟩
    rw [List.getLast?_eq_some_getLast (List.cons_ne_nil _ _), hlast]

/-- A session in which the global variables are fixed. -/
def fixedVariables : Bridge :=
  let e := Bridge.fresh.editor
  { Bridge.fresh with editor := { e with
      store := e.store.setDict e.globals { entries := [("x", .number 1)], lock := .fixed } } }

/-- A variable that is fixed is neither removed nor unlocked, and a new session runs. -/
theorem fixed_variables_stay :
    let c := Container.dict fixedVariables.editor.globals
    let d := Deed.command "unlet x"
    (c.contents (final (d.perform fixedVariables)).editor.store = .inr [("x", .number 1)] ∧
      c.lock (final (d.perform fixedVariables)).editor.store = .fixed) ∧
    Stops d.perform fixedVariables ∧
    (∃ e, (Request.erase fixedVariables.editor.globals "x").apply fixedVariables.editor.store =
      .error e) ∧
    Stops (Deed.attr .dictionary (targetOf c) "locked" none).perform fixedVariables ∧
    (∃ e, fixedVariables.editor.store.relock c .unlocked = .error e) ∧
    ∃ points : List Bridge, points.IsChain (Activity c) ∧ points.head? = some Bridge.fresh ∧
      points.getLast? =
        some (after [.mk (.session .ensureReady) none false false] Bridge.fresh) := by
  intro c d
  have hfixed : c.lock fixedVariables.editor.store = .fixed := by decide +kernel
  have hrespects : fixedVariables.Respects c :=
    ⟨(Host.Editor.run_wellFormed []).withStore _, Host.Functions.proceeds_all⟩
  have hline : Host.splitCommand (Host.commandText "unlet x") = ("unlet", "x") := by
    decide +kernel
  have hscope : fixedVariables.editor.scopeOf "x" = .ok (fixedVariables.editor.globals, "x") := by
    rfl
  have hattempt : d.Attempts c fixedVariables :=
    .command (.unassign hline (by decide) hscope rfl (.of_fixed hfixed))
  obtain ⟨hrun, hstops, hrequest, hlocked, hrelock, hcourse⟩ := shut_container_stays c
  have hrun := hrun [fixedVariables, final (d.perform fixedVariables)]
    (.cons_cons (.deed d hrespects) (.singleton _)) 0 1 _ _ rfl rfl
  refine ⟨⟨hrun.1 ?_, hrun.2 hfixed⟩, hstops _ d (.of_fixed hfixed) hattempt,
    hrequest _ _ rfl (.of_fixed hfixed), hlocked _ _ _ hfixed, hrelock _ _ hfixed,
    hcourse _ _ Bridge.fresh_initial.sound (course_after _ _)⟩
  rintro k hk p hp
  obtain rfl : k = 0 := by omega
  cases hp
  exact .of_fixed hfixed

/-!
### What changes without a script

Windows and the lines of buffers are changed through a gate, which refuses all changes while no
script runs. Containers are not behind it, nor is what the host does for a function of the module:
such an operation does the same whichever side owns execution.
-/

/-- An operation on a container, or the call of a function. -/
def Deed.Ungated : Deed → Prop
  | .attr _ t _ _ | .item _ t _ _ | .position _ t _ _ => Proxy.IsContainer t
  | .call _ t _ => Proxy.IsFunction t
  | .command _ | .expression _ | .function .. | .convert _ => True

theorem blind_hostCommand (line : String) : (hostCommand line).Blind := by
  have hdemand : demandEditor.Blind := by
    refine .get_bind (fun b => ?_) fun _ _ => rfl
    split
    · exact .fail
    · exact .pure
  exact .bind hdemand fun _ => .get_bind (fun _ => .mapError .host) fun _ _ => rfl

theorem Deed.blind {d : Deed} (hd : d.Ungated) : d.perform.Blind := by
  cases d with
  | command line => exact blind_hostCommand line
  | expression src =>
    exact .get_bind (fun _ => .bind (.mapError .host) fun _ => .pure) fun _ _ => rfl
  | function name args =>
    exact .get_bind (fun _ => .bind (.mapError .host) fun _ => .pure) fun _ _ => rfl
  | attr cls t name value =>
    exact .mapError (Proxy.blind_slot (Proxy.blind_setAttr cls hd name value))
  | item cls t k value => exact .mapError (Proxy.blind_slot (Proxy.blind_assign cls hd k value))
  | position cls t i value =>
    exact .mapError (Proxy.blind_slot (Proxy.blind_assignItem cls hd i value))
  | call cls t args =>
    have hcall := Proxy.blind_call cls blind_hostCommand hd args
    exact .bind (.mapError (Proxy.blind_slot hcall)) fun _ => .pure
  | convert r => exact .bind (.mapError (Convert.mild_toHost r)) fun _ => .pure

/-- The gate refuses every change of the editor while no script runs. -/
theorem gate_refuses {α : Type} {b : Bridge} (hside : b.handoff.side ≠ .foreign)
    (w : Host.Change α) : ∃ e, Bridge.hostWrite w b = .error e b := by
  unfold Bridge.hostWrite
  rw [bind_apply, get_apply]
  dsimp only
  rw [if_pos hside]
  exact ⟨_, rfl⟩

/-- An operation on a container and the call of a function end in the same way whichever side owns
execution, and so they change the editor without a script just as a script does. What passes the
gate is refused without a script. -/
theorem ungated_on_either_side (b : Bridge) (side : Side) :
    (∀ d : Deed, d.Ungated →
      d.perform (b.handing { b.handoff with side }) =
        onState (·.handing { b.handoff with side }) (d.perform b) ∧
      (final (d.perform (b.handing { b.handoff with side }))).editor =
        (final (d.perform b)).editor) ∧
    ∀ (α : Type) (w : Host.Change α), side ≠ .foreign →
      ∃ e, Bridge.hostWrite w (b.handing { b.handoff with side }) =
        .error e (b.handing { b.handoff with side }) := by
  refine ⟨fun d hd => ?_, fun α w hside => gate_refuses hside w⟩
  have houtcome := d.blind hd { b.handoff with side } b
  refine ⟨houtcome, ?_⟩
  rw [houtcome, final_onState]
  rfl

/-- A session with a text and a number as objects of the interpreter. -/
def withArguments : Bridge :=
  ((Bridge.fresh.withNew (.str "x")).withNew (.int 1))

/-- An item assignment on the global variables defines one although no script runs, as it would in a
script. -/
theorem variable_defined_by_host :
    let b := withArguments
    let d := Deed.item .dictionary (.dict b.editor.globals) ⟨0⟩ (some ⟨1⟩)
    b.handoff.side = .host ∧
    (b.editor.store.get? b.editor.globals "x").isNone ∧
    ((final (d.perform b)).editor.store.get? b.editor.globals "x").map Host.Value.asNumber? =
      some (some 1) ∧
    (final (d.perform (b.handing { b.handoff with side := .foreign }))).editor =
      (final (d.perform b)).editor := by
  intro b d
  exact ⟨rfl, by decide +kernel, by decide +kernel,
    ((ungated_on_either_side b .foreign).1 d trivial).2⟩

end ScriptBridge.Session
