import ScriptBridge.Proofs.Session.SingleCall

/-!
# One source text at a time

In single-call mode, a source text that the interpreter starts has ended before the next one starts:
its statements start none. So a call from outside starts as many source texts as it has commands, at
most.
-/

namespace ScriptBridge

open Foreign (ObjRef Object)
open ScriptBridge.Computation

/-- The scripts run source texts only through the session, which they do not shut down. -/
def Bridge.Regular (b : Bridge) : Prop := b.interpreter.scripts.all (·.2.regular) = true

/-- A session in single-call mode, outside of scripts. -/
structure Bridge.Idle (b : Bridge) : Prop where
  ordinary : b.Ordinary
  mode : b.handoff.mode = .singleCall
  outside : b.handoff.depth = 0
  regular : b.Regular

/-- What is idle again has started some source texts. -/
structure Bridge.Started (new : List String) (b b' : Bridge) : Prop where
  idle : b'.Idle
  history : b'.interpreter.history = b.interpreter.history ++ new

/-- A computation that starts a limited number of source texts, however it ends. -/
def Act.Starts {ε α : Type} (limit : Nat) (a : Act ε α) : Prop :=
  ∀ b : Bridge, b.Idle → ∃ new, b.Started new (final (a b)) ∧ new.length ≤ limit

/-- A computation inside the interpreter that starts some source texts, however it ends. -/
def Act.Notes {ε α : Type} (new : List String) (a : Act ε α) : Prop :=
  ∀ b : Bridge, b.Ordinary → b.Occupied → b.Regular → (final (a b)).Ordinary ∧
    (final (a b)).standing =
      (b.handoff, b.lifecycle, b.interpreter.scripts, b.interpreter.history ++ new)

/-- An interpreter that starts no source text beside the one that it is given. -/
structure Engine.Single (engine : Engine) : Prop where
  run : ∀ code, ∃ new, (engine.run code).Notes new ∧ new.length ≤ 1
  eval : ∀ code, ∃ new, (engine.eval code).Notes new ∧ new.length ≤ 1

variable {ε δ α β : Type} {b b' b'' : Bridge} {limit limit' : Nat} {new new' : List String}

namespace Bridge

theorem Regular.of_lookup (h : b.Regular) {code : String} {script : Script.Content}
    (hscript : b.interpreter.scripts.lookup code = some script) : script.regular = true :=
  List.all_eq_true.mp h _ (Lookup.mem_of_lookup hscript)

theorem Stays.idle (h : b.Stays b') (hb : b.Idle) : b'.Idle where
  ordinary := h.ordinary
  mode := h.handoff ▸ hb.mode
  outside := h.handoff ▸ hb.outside
  regular := by
    unfold Regular
    rw [h.scripts]
    exact hb.regular

theorem Started.of_stays (hb : b.Idle) (h : b.Stays b') : b.Started [] b' :=
  ⟨h.idle hb, by rw [h.history, List.append_nil]⟩

theorem Started.trans (h : b.Started new b') (h' : b'.Started new' b'') :
    b.Started (new ++ new') b'' :=
  ⟨h'.idle, by rw [h'.history, h.history, List.append_assoc]⟩

/-- Nothing more is started. -/
theorem Started.stays (h : b.Started new b') (hstays : b'.Stays b'') : b.Started new b'' :=
  ⟨hstays.idle h.idle, hstays.history.trans h.history⟩

/-- What comes after it starts nothing. -/
theorem Started.then_stays {a : Act ε α} {f : α → Act ε β} (h : b.Started new (final (a b)))
    (hf : ∀ x, (f x).Stays) : b.Started new (final ((a >>= f) b)) := by
  rw [bind_apply]
  cases hfirst : a b with
  | ok x b' =>
    rw [hfirst] at h
    exact h.stays (hf x b' h.idle.ordinary)
  | error stop b' =>
    rw [hfirst] at h
    exact h

end Bridge

namespace Act.Starts

theorem of_stays {a : Act ε α} (ha : a.Stays) : a.Starts limit :=
  fun b hb => ⟨[], .of_stays hb (ha b hb.ordinary), Nat.zero_le _⟩

theorem bind {a : Act ε α} {f : α → Act ε β} (ha : a.Starts limit)
    (hf : ∀ x, (f x).Starts limit') : (a >>= f).Starts (limit + limit') := by
  intro b hb
  obtain ⟨new, hfirst, hle⟩ := ha b hb
  rw [bind_apply]
  cases h : a b with
  | ok x b' =>
    rw [h] at hfirst
    obtain ⟨new', hrest, hle'⟩ := hf x b' hfirst.idle
    refine ⟨new ++ new', hfirst.trans hrest, ?_⟩
    rw [List.length_append]
    exact Nat.add_le_add hle hle'
  | error stop b' =>
    rw [h] at hfirst
    exact ⟨new, hfirst, Nat.le_add_right_of_le hle⟩

/-- What comes in front starts nothing. -/
theorem bind_stays {a : Act ε α} {f : α → Act ε β} (ha : a.Stays) (hf : ∀ x, (f x).Starts limit) :
    (a >>= f).Starts limit := by
  have hfirst : a.Starts 0 := of_stays ha
  have h := hfirst.bind hf
  rwa [Nat.zero_add] at h

theorem then_stays {a : Act ε α} {f : α → Act ε β} (ha : a.Starts limit) (hf : ∀ x, (f x).Stays) :
    (a >>= f).Starts limit :=
  fun b hb => (ha b hb).imp fun _ h => ⟨h.1.then_stays hf, h.2⟩

theorem mapError {a : Act ε α} {f : ε → δ} (ha : a.Starts limit) : (a.mapError f).Starts limit := by
  intro b hb
  rw [final_mapError]
  exact ha b hb

theorem attempt {a : Act ε α} (ha : a.Starts limit) :
    Act.Starts limit (Act.attempt a : Act δ (Except ε α)) := by
  intro b hb
  rw [final_attempt]
  exact ha b hb

end Act.Starts

/-! ### Under a script -/

namespace Act.Notes

theorem of_stays {a : Act ε α} (ha : a.Stays) : a.Notes [] := by
  intro b hb _ _
  have hstays := ha b hb
  rw [List.append_nil]
  exact ⟨hstays.ordinary, hstays.standing⟩

theorem mapError {a : Act ε α} {f : ε → δ} (ha : a.Notes new) : (a.mapError f).Notes new := by
  intro b hb hoccupied hregular
  rw [final_mapError]
  exact ha b hb hoccupied hregular

theorem then_stays {a : Act ε α} {f : α → Act ε β} (ha : a.Notes new) (hf : ∀ x, (f x).Stays) :
    (a >>= f).Notes new := by
  intro b hb hoccupied hregular
  have hfirst := ha b hb hoccupied hregular
  rw [bind_apply]
  cases h : a b with
  | ok x b' =>
    rw [h] at hfirst
    have hrest := hf x b' hfirst.1
    exact ⟨hrest.ordinary, hrest.standing.trans hfirst.2⟩
  | error stop b' =>
    rw [h] at hfirst
    exact hfirst

end Act.Notes

namespace Script

variable {code : String}

/-- A source text is noted, and what it does leaves the session as it stands then. -/
theorem notes_noted {a : Act ε α} (ha : ∀ b : Bridge, b.Ordinary → b.Occupied → b.Regular →
      (Regime.occupied b).Reaches b (a b)) :
    Act.Notes [code] (noteSource code >>= fun _ => a) := by
  intro b hb hoccupied hregular
  have hreaches := ha
    { b with interpreter := { b.interpreter with history := b.interpreter.history ++ [code] } }
    ⟨hb.scripted, hb.objects⟩ ⟨hoccupied.mode, hoccupied.entered, hoccupied.ready⟩ hregular
  exact hreaches.always

theorem notes_runScripted (inner : Engine) (code : String) :
    (runScripted inner code).Notes [code] := by
  refine notes_noted fun b hb hoccupied hregular => ?_
  have hserves := Session.serves_of_occupied hoccupied inner
  rw [bind_apply, get_apply]
  dsimp only
  cases hscript : b.interpreter.scripts.lookup code with
  | some script =>
    have hknown := hserves.runKnown code script (.inr (hregular.of_lookup hscript))
    exact Regime.Obeys.bind hknown (fun _ => .pure) b ⟨hb, rfl⟩
  | none => exact .of_stays ⟨hb, rfl⟩ (.refl hb)

theorem notes_evalScripted (inner : Engine) (code : String) :
    (evalScripted inner code).Notes [code] := by
  refine notes_noted fun b hb hoccupied hregular => ?_
  have hserves := Session.serves_of_occupied hoccupied inner
  rw [bind_apply, get_apply]
  dsimp only
  cases hscript : b.interpreter.scripts.lookup code with
  | some script =>
    exact hserves.runKnown code script (.inr (hregular.of_lookup hscript)) b ⟨hb, rfl⟩
  | none =>
    cases hliteral : literal? code with
    | some x =>
      exact .of_stays ⟨hb, rfl⟩ (Act.Stays.alloc (plain_literal hliteral).1.1.ordinary b hb)
    | none => exact .of_stays ⟨hb, rfl⟩ (.refl hb)

/-- However deep scripts could nest, just the source text that is run is started. -/
theorem notes_run (depth : Nat) (code : String) : ((engine (depth + 1)).run code).Notes [code] := by
  intro b hb
  have hrun : (engine (depth + 1)).run code b = runScripted (engine depth) code b := by
    simp only [engine, engineOver, bind_apply, get_apply, hb.scripted]
  rw [hrun]
  exact notes_runScripted (engine depth) code b hb

theorem notes_eval (depth : Nat) (code : String) :
    ((engine (depth + 1)).eval code).Notes [code] := by
  intro b hb
  have heval : (engine (depth + 1)).eval code b = evalScripted (engine depth) code b := by
    simp only [engine, engineOver, bind_apply, get_apply, hb.scripted]
  rw [heval]
  exact notes_evalScripted (engine depth) code b hb

theorem single_engine (depth : Nat) : (engine depth).Single := by
  cases depth with
  | zero =>
    exact ⟨fun _ => ⟨[], .of_stays .crash, Nat.zero_le 1⟩,
      fun _ => ⟨[], .of_stays .crash, Nat.zero_le 1⟩⟩
  | succ depth =>
    exact ⟨fun code => ⟨[code], notes_run depth code, Nat.le_refl 1⟩,
      fun code => ⟨[code], notes_eval depth code, Nat.le_refl 1⟩⟩

end Script

/-! ### From outside -/

/-- The regime of an idle session that starts no source text. -/
def Regime.idle (history : List String) : Regime where
  always b := b.Idle ∧ b.interpreter.history = history
  calm _ := True
  free := False
  ordinary hb := hb.1.ordinary
  stays hb h := ⟨h.idle hb.1, h.history.trans hb.2⟩
  stays_calm _ _ := trivial
  relogged hb := ⟨⟨⟨hb.1.ordinary.scripted, hb.1.ordinary.objects⟩, hb.1.mode, hb.1.outside,
    hb.1.regular⟩, hb.2⟩
  relogged_calm _ := trivial

theorem Regime.lenient_idle (history : List String) : (Regime.idle history).Lenient where
  always hb := ⟨⟨⟨hb.1.ordinary.scripted, hb.1.ordinary.objects⟩, hb.1.mode, hb.1.outside,
    hb.1.regular⟩, hb.2⟩
  calm _ := trivial

namespace Session

theorem started_ensureReady (hb : b.Idle) : b.Started [] (final (ensureReady b)) := by
  have hafter := (lenient_ensureReady (Regime.lenient_idle _) b ⟨hb, rfl⟩).always
  exact ⟨hafter.1, by rw [hafter.2, List.append_nil]⟩

/-- The interpreter runs once it has been made ready. -/
theorem ready_of_ensureReady (h : ensureReady b = .ok () b') : b'.lifecycle = .ready := by
  have hlast {α : Type} {a : Act BridgeError α} {f : α → Act BridgeError Unit}
      (hf : ∀ x b b', f x b = .ok () b' → b'.lifecycle = .ready) (b b' : Bridge)
      (h : (a >>= f) b = .ok () b') : b'.lifecycle = .ready := by
    rw [bind_apply] at h
    cases hfirst : a b with
    | ok x b₁ =>
      rw [hfirst] at h
      exact hf x b₁ b' h
    | error stop b₁ =>
      rw [hfirst] at h
      cases h
  have hstart : ∀ b b', start b = .ok () b' → b'.lifecycle = .ready := by
    refine hlast fun bound => ?_
    cases bound with
    | error e => exact hlast fun _ _ _ h => by cases h
    | ok _ =>
      refine hlast fun _ => hlast fun installed => hlast fun _ b b' h => ?_
      cases installed with
      | ok _ =>
        cases h
        rfl
      | error e => exact hlast (fun _ _ _ h => by cases h) b b' h
  unfold ensureReady at h
  rw [bind_apply, get_apply] at h
  dsimp only at h
  cases hl : b.lifecycle <;> rw [hl] at h
  case ready =>
    cases h
    exact hl
  case uninitialized => exact hstart b b' h
  all_goals cases h

/-- What enters an idle session occupies it. -/
theorem enter_of_idle (hmode : b.handoff.mode = .singleCall) (houtside : b.handoff.depth = 0)
    (hready : b.lifecycle = .ready) : ∃ g entered, b.handoff.enter = .ok (g, entered) ∧
      entered.depth = 1 ∧ ({ b with handoff := entered } : Bridge).Occupied := by
  have hfree : ¬ (b.handoff.mode = .singleCall ∧ 0 < b.handoff.depth) := by
    rw [houtside]
    exact fun h => Nat.lt_irrefl 0 h.2
  exact ⟨_, _, Handoff.enter_of_free hfree, congrArg (· + 1) houtside, hmode, Nat.succ_pos _,
    hready⟩

/-- What enters comes back from the source texts that it starts. -/
theorem started_inside {a : Act ε α} (ha : a.Notes new) (hb : b.Idle)
    (hready : b.lifecycle = .ready) :
    b.Started new (final ((inside a : Act δ (Except HandoffError (Except ε α))) b)) := by
  obtain ⟨g, entered, hentered, hdepth, hoccupied⟩ := enter_of_idle hb.mode hb.outside hready
  obtain ⟨hordinary, hstanding⟩ := ha { b with handoff := entered }
    ⟨hb.ordinary.scripted, hb.ordinary.objects⟩ hoccupied hb.regular
  rw [inside_of_entered hentered, final_handedOn]
  generalize final (a { b with handoff := entered }) = b' at hordinary hstanding
  obtain ⟨hhandoff, hrest⟩ := Prod.mk.inj hstanding
  obtain ⟨-, hrest⟩ := Prod.mk.inj hrest
  obtain ⟨hscripts, hhistory⟩ := Prod.mk.inj hrest
  refine ⟨⟨⟨hordinary.scripted, hordinary.objects⟩, ?_, ?_, ?_⟩, hhistory⟩
  · exact (congrArg Handoff.mode hhandoff).trans hoccupied.mode
  · exact (congrArg (·.depth - 1) hhandoff).trans (by rw [hdepth])
  · unfold Bridge.Regular
    dsimp only
    rw [hscripts]
    exact hb.regular

/-- What makes the interpreter ready first starts what it starts where that is ready. -/
theorem starts_after_ready {f : Unit → Act BridgeError α} (hle : new.length ≤ limit)
    (hf : ∀ b : Bridge, b.Idle → b.lifecycle = .ready →
      b.Started new (final ((ensureReady >>= f) b))) : (ensureReady >>= f).Starts limit := by
  intro b hb
  have hfirst := started_ensureReady hb
  cases h : ensureReady b with
  | ok x b' =>
    rw [h] at hfirst
    have hready := ready_of_ensureReady h
    have hrest := hf b' hfirst.idle hready
    rw [bind_apply, ensureReady_of_ready hready] at hrest
    rw [bind_apply, h]
    exact ⟨new, hfirst.trans hrest, hle⟩
  | error stop b' =>
    rw [h] at hfirst
    rw [bind_apply, h]
    exact ⟨[], hfirst, Nat.zero_le limit⟩

section

variable {engine : Engine} {code : String}

theorem started_execute (hrun : (engine.run code).Notes new) (hb : b.Idle)
    (hready : b.lifecycle = .ready) (range : Option (Int64 × Int64)) :
    b.Started new (final (execute engine code range b)) := by
  have hgiven : ({ b with range := linesFor b range } : Bridge).Idle :=
    ⟨⟨hb.ordinary.scripted, hb.ordinary.objects⟩, hb.mode, hb.outside, hb.regular⟩
  have hinside := started_inside (δ := BridgeError) hrun hgiven hready
  unfold execute
  simp only [bind_apply, ensureReady_of_ready hready, get_apply, modify_apply]
  cases h : (inside (engine.run code) : Act BridgeError _)
      { b with range := linesFor b range } with
  | ok r b₁ =>
    rw [h] at hinside
    have hback : b.Started new { b₁ with range := b.range } :=
      ⟨⟨⟨hinside.idle.ordinary.scripted, hinside.idle.ordinary.objects⟩, hinside.idle.mode,
        hinside.idle.outside, hinside.idle.regular⟩, hinside.history⟩
    exact hback.stays (stays_executed r _ hback.idle.ordinary)
  | error stop b₁ =>
    rw [h] at hinside
    exact ⟨hinside.idle, hinside.history⟩

theorem started_evaluate (heval : (engine.eval code).Notes new) (hb : b.Idle)
    (hready : b.lifecycle = .ready) : b.Started new (final (evaluate engine code b)) := by
  have hconverted : (evalAndConvert engine code).Notes new :=
    heval.mapError.then_stays fun r => .mapError (Convert.stays_toHost r)
  unfold evaluate
  rw [bind_apply, ensureReady_of_ready hready]
  exact (started_inside hconverted hb hready).then_stays stays_evaluated

theorem starts_execute (hengine : engine.Single) (range : Option (Int64 × Int64)) :
    (execute engine code range).Starts 1 := by
  obtain ⟨new, hrun, hle⟩ := hengine.run code
  exact starts_after_ready hle fun b hb hready => started_execute hrun hb hready range

theorem starts_evaluate (hengine : engine.Single) : (evaluate engine code).Starts 1 := by
  obtain ⟨new, heval, hle⟩ := hengine.eval code
  exact starts_after_ready hle fun b hb hready => started_evaluate heval hb hready

end

/-! ### Commands -/

/-- A command starts its source text, once its lines are found. -/
theorem started_runInput {engine : Engine} {code : String} (hrun : (engine.run code).Notes new)
    (heval : (engine.eval code).Notes new) (hb : b.Idle) (hready : b.lifecycle = .ready)
    {input : Command.Input} (hsource : input.sourceText? = some code)
    {range : Option (Int64 × Int64)} (hrange : (input.line.range.mapM resolve) b = .ok range b) :
    b.Started new (final (runInput engine input b)) := by
  have hcourse : runInput engine input b = execute engine code range b ∨
      ∃ f, (∀ v, (f v).Stays) ∧ runInput engine input b = (evaluate engine code >>= f) b :=
    runInput_of_source hsource hrange
  obtain h | ⟨f, hf, h⟩ := hcourse
  · rw [h]
    exact started_execute hrun hb hready range
  · rw [h]
    exact (started_evaluate heval hb hready).then_stays hf

section

variable {engine : Engine} (hengine : engine.Single)

include hengine

theorem starts_runFile (path : String) (range : Option (Int64 × Int64)) :
    (runFile engine path range).Starts 1 := by
  unfold runFile
  split
  · exact .of_stays .fail_bind
  · exact .bind_stays .ofExcept fun code => starts_execute hengine range

theorem starts_runInput (input : Command.Input) : (runInput engine input).Starts 1 := by
  refine .bind_stays (stays_lines _) fun range => ?_
  split
  · exact starts_execute hengine range
  · exact starts_runFile hengine _ range
  · exact .then_stays (starts_evaluate hengine) fun _ =>
      .bind stays_demandEditor fun _ => .bind .get fun _ => .say
  · exact .of_stays (stays_hostCommand _)

theorem starts_exCommand (text : String) : (exCommand engine text).Starts 1 :=
  .bind_stays .ofExcept fun _ => starts_runInput hengine _

theorem starts_runRead (input : Except ParseError (Option Command.Input)) :
    (runRead engine input : Act ε Nat).Starts 1 := by
  refine .then_stays (.attempt ?_) fun outcome => ?_
  · split
    · exact starts_runInput hengine _
    · exact .of_stays .pure
    · exact .of_stays .fail
  · cases outcome with
    | ok _ => exact .pure
    | error e => exact .bind (stays_report e) fun _ => .pure

/-- Each line of a command script completes one command at most, and so does its end. -/
theorem starts_sourceLines (reader : Command.Reader) (lines : List String) :
    (sourceLines engine reader lines : Act ε Nat).Starts (lines.length + 1) := by
  induction lines generalizing reader with
  | nil => exact starts_runRead hengine _
  | cons line rest ih =>
    have h : (sourceLines engine reader (line :: rest) : Act ε Nat).Starts
        (1 + (rest.length + 1)) :=
      -- What the line completes runs first, and leaves the session idle for the rest.
      .bind (starts_runRead hengine _) fun _ => .then_stays (ih _) fun _ => .pure
    rwa [Nat.add_comm] at h

theorem starts_callBuiltin (given : List ObjRef) :
    (Proxy.callBuiltin (exCommand engine) .command given).Starts 1 :=
  .bind_stays (Proxy.stays_arity _ _ _ _) fun _ =>
    .bind_stays (.mapError (Convert.stays_stringOf _)) fun text => .bind_stays .get fun _ =>
    .bind_stays Proxy.stays_flush fun _ =>
    .then_stays (.mapError (starts_exCommand hengine text)) fun _ => .alloc trivial

end

end Session

end ScriptBridge
