import ScriptBridge.Proofs.Script.Running

/-!
# The course of a session

A session starts with an editor and an interpreter that has run nothing. It goes on by statements
and command lines. Scripts nest: between two statements of a nested script, the statements around
it are under way, so the steps of a session are also the parts of which a statement consists.
-/

namespace ScriptBridge

open Foreign (ObjRef)
open Script (Term HostTerm Produced ScriptLog engine)
open ScriptBridge.Computation

/-- A session that has not run anything, over the scripted interpreter. -/
structure Bridge.Initial (b : Bridge) : Prop where
  scripted : b.interpreter.kind = .scripted
  orderly : b.functions.Orderly
  edited : ∃ ops, b.editor = Host.Editor.run ops
  attached : b.attached = true
  objects : b.objects = {}
  registry : b.registry = []
  /-- Nothing has a name, and nothing is in use. -/
  idle : b.roots = []
  lifecycle : b.lifecycle = .uninitialized

/-- A session with one buffer, and with the functions of the sample configuration. -/
def Bridge.fresh : Bridge where
  editor := Host.Editor.run []
  functions := Host.Functions.all
  interpreter := { kind := .scripted }
  handoff := { mode := .reentrant }

theorem Bridge.fresh_initial : Bridge.fresh.Initial :=
  ⟨rfl, Host.Functions.orderly_all, ⟨[], rfl⟩, rfl, rfl, rfl, rfl, rfl⟩

namespace Session

/-- What happens to a session in one step. -/
inductive Step (b : Bridge) : Bridge → Prop where
  | statement (depth : Nat) (s : Script.Step) : Step b (final (Script.runStep (engine depth) s b))
  | command (depth : Nat) (input : Command.Input) : Step b (final (runInput (engine depth) input b))
  /-- A statement builds an object, which is in use while it runs. -/
  | build (t : Term) : Step b (final (Script.build t b))
  | buildHost (t : HostTerm) : Step b (final ((Script.buildHost t : Act ForeignError _) b))
  /-- The value of a script is converted for the host. -/
  | convert {r : ObjRef} (hr : r ∈ b.held) : Step b (final (Convert.toHost r b))
  /-- What a statement produced is kept under a name. -/
  | keep {p : Produced} (hp : p.objects ⊆ b.held) (name : String) :
    Step b (final ((p.keep name : Act ForeignError Unit) b))
  /-- Something is no longer in use. -/
  | release {held : List ObjRef} (hheld : held ⊆ b.held) : Step b { b with held }
  | say (m : Host.Message) : Step b (final ((Bridge.say m : Act ForeignError Unit) b))
  /-- The messages of the editor are taken. -/
  | taken : Step b { b with editor := { b.editor with messages := [] } }
  /-- A script is entered or left, or the editor is lent out or given back. -/
  | handOver (handoff : Handoff) (loan : Loan) (range : Int64 × Int64) (logs : List ScriptLog)
      (pendingOut pendingErr : String) (history : List String) (files : Files.Tree) :
    Step b { b with
      handoff, loan, range, logs, pendingOut, pendingErr
      interpreter := { b.interpreter with history, files, constants := [] } }

/-- One state of a session comes after another one. -/
def Course : Bridge → Bridge → Prop := Relation.ReflTransGen Step

end Session

namespace Bridge

variable {b b' : Bridge}

/-- A session starts soundly. -/
theorem Initial.sound (hb : b.Initial) : b.Sound := by
  obtain ⟨ops, hops⟩ := hb.edited
  have hget (r : ObjRef) : b.objects.get r = .null := by
    rw [hb.objects]
    exact Foreign.Objects.get_eq_null (Nat.zero_le _)
  refine ⟨hb.scripted, hb.orderly, hops ▸ Host.Editor.run_wellFormed ops, by rw [hb.objects], ?_, ?_,
    ?_, ⟨?_, ?_⟩, ?_, ?_⟩
  · exact fun r => hget r ▸ trivial
  · simp [hb.idle]
  · exact fun r s hs => by simp [hget, Foreign.Object.references] at hs
  · simp [hb.registry]
  · simp [hb.registry]
  · simp [hb.registry]
  · exact fun r cls t key _ hproxy => by simp [hget] at hproxy

theorem Moves.of_runs {ε α : Type} {a : Act ε α} {args : List ObjRef} {kept : α → List ObjRef}
    (ha : a.Runs args kept) (hb : b.Sound) (hargs : args ⊆ b.held) : b.Moves (final (a b)) := by
  have hreaches := ha b hb hargs
  unfold Act.RunsFrom at hreaches
  generalize a b = outcome at hreaches
  cases hreaches with
  | ok hmoves _ _ => exact hmoves
  | error hmoves _ => exact hmoves

end Bridge

namespace Session

variable {b b' : Bridge}

/-- What happens in a session is done by moves. -/
theorem Step.moves (h : Step b b') (hb : b.Sound) : b.Moves b' := by
  cases h with
  | statement depth s =>
    exact .of_runs (Script.runs_runStep (Script.engine_runs depth) s) hb (List.nil_subset _)
  | command depth input =>
    exact .of_runs (runs_runInput (Script.engine_runs depth) input) hb (List.nil_subset _)
  | build t => exact .of_runs (Script.runs_build t) hb (List.nil_subset _)
  | buildHost t => exact .of_runs (Script.runs_buildHost t) hb (List.nil_subset _)
  | @convert r hr => exact .of_runs (Convert.runs_toHost r) hb (List.nil_subset _)
  | @keep p hp name => exact .of_runs (Script.runs_keep p name) hb hp
  | release hheld => exact Bridge.Moves.release .refl hheld
  | say m => exact .of_runs .say hb (List.nil_subset _)
  | taken => exact .single (.editor (.single .taken) rfl)
  | handOver => exact .single (.roots rfl fun _ hr => .inl hr)

/-- A later state of a sound session. -/
theorem Course.later (h : Course b b') (hb : b.Sound) : b.Later b' := by
  induction h with
  | refl => exact .refl hb
  | tail _ hstep ih => exact ih.trans ((hstep.moves ih.sound).later ih.sound)

/-- All that a session reaches from its start is sound. -/
theorem Course.sound (h : Course b b') (hb : b.Initial) : b'.Sound := (h.later hb.sound).sound

/-! ### Statements of the caller -/

/-- A session after statements of the caller. -/
def after (steps : List Script.Step) (b : Bridge) : Bridge :=
  steps.foldl (fun b s => (Script.runTop s b).2.2) b

theorem course_runTop (s : Script.Step) (b : Bridge) : Course b (Script.runTop s b).2.2 := by
  have hstep : Step b (final (Script.runStep (engine Script.maxDepth) s b)) := .statement _ s
  unfold Script.runTop
  cases h : Script.runStep (engine Script.maxDepth) s b with
  | ok entry b' =>
    rw [h] at hstep
    exact .tail (.single hstep) .taken
  | error stop b' =>
    rw [h] at hstep
    exact .single hstep

/-- Statements of the caller, one after another, are a course of a session. -/
theorem course_after (steps : List Script.Step) (b : Bridge) : Course b (after steps b) := by
  induction steps generalizing b with
  | nil => exact .refl
  | cons s rest ih => exact (course_runTop s b).trans (ih _)

end Session

end ScriptBridge
