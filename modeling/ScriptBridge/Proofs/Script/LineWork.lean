import ScriptBridge.Proofs.Proxy.LineOperations

/-!
# Work on lines

A script works on the lines of a buffer through a proxy of the buffer or of a range of its lines,
and through methods that it took from the proxy. What it sees is the work on a list of texts.
-/

namespace ScriptBridge

open Foreign (ObjRef EndRef Object Objects ProxyClass Target)
open ScriptBridge.Computation

namespace LineList

/-- An operation of a script on a handle to lines. -/
inductive Operation where
  | length
  | get (k : ObjRef)
  | set (k value : ObjRef)
  | delete (k : ObjRef)
  /-- A call of the method that appends, which was taken from the handle. -/
  | append (m value : ObjRef) (position? : Option ObjRef)

/-- What an operation leaves the script with. -/
inductive Answer where
  | done
  | count (n : Nat)
  | object (r : ObjRef)

/-- What a script does for an operation; `command` runs a command line. -/
def Operation.perform (command : String → Act BridgeError Unit) (o : ObjRef) :
    Operation → Act ForeignError Answer
  | .length => .count <$> Script.length o
  | .get k => .object <$> Script.getItem o k
  | .set k value => (fun _ => .done) <$> Script.setItem o k (some value)
  | .delete k => (fun _ => .done) <$> Script.setItem o k none
  | .append m value position? =>
    .object <$> Script.call command m (value :: position?.toList) []

/-- What an answer gives. -/
def Answer.given? (o : Objects) : Answer → Option Given
  | .done => some .nothing
  | .count n => some (.count n)
  | .object r => LineList.given? o r

/-- What an operation means for a list, by the objects that the script uses for it. -/
inductive Means (b : Bridge) (o : ObjRef) : Operation → Request → Prop
  | length : Means b o .length .length
  | get {k : ObjRef} {key : Key} (hk : keyOf? (b.objects.get k) = some key) :
    Means b o (.get k) (.get key)
  | set {k value : ObjRef} {key : Key} (hk : keyOf? (b.objects.get k) = some key) :
    Means b o (.set k value) (.set key (newOf b.objects key (some value)))
  | delete {k : ObjRef} {key : Key} (hk : keyOf? (b.objects.get k) = some key) :
    Means b o (.delete k) (.delete key)
  | append {m value : ObjRef} {position? : Option ObjRef} {cls : ProxyClass} {t : Target}
      (ho : b.objects.get o = .proxy cls t)
      (hm : b.objects.get m = .proxy .method (.method t cls "append")) :
    Means b o (.append m value position?)
      (.append (linesOf b.objects value) (position?.map (numberOf b.objects)))

/-- A script runs, and an object of it is a handle to the lines of a list. -/
structure Handled (b : Bridge) (id : Nat) (o : ObjRef) (v : LineList) : Prop where
  inScript : b.InScript
  exists_target : ∃ cls t, b.objects.get o = .proxy cls t ∧ v.Shown b id cls t

/-- An operation gives what the operation on the list gives, the list is as after it, and everything
else is as before. -/
structure Worked (b : Bridge) (id : Nat) (o : ObjRef) (p : Given × LineList) (a : Answer)
    (b' : Bridge) : Prop where
  given : a.given? b'.objects = some p.1
  handled : p.2.Handled b' id o
  beside : b.Beside id b'

variable {command : String → Act BridgeError Unit} {b b' : Bridge} {id : Nat} {o : ObjRef}
  {v v' : LineList} {op : Operation} {q : Request}

theorem Changed.worked {cls : ProxyClass} {t : Target} {a : Answer} {g : Given}
    (h : v'.Changed b id cls t b') (hscript : b.InScript)
    (ho : b.objects.get o = .proxy cls t) (hgiven : a.given? b'.objects = some g) :
    Worked b id o (g, v') a b' := by
  have ho' : b'.objects.get o = .proxy cls t :=
    (h.beside.objects.get o (Bridge.lt_size_of_proxy ho)).trans ho
  exact ⟨hgiven, ⟨h.beside.inScript hscript, cls, t, ho', h.shown⟩, h.beside⟩

/-- The length of a handle is that of the list. -/
theorem Shown.script_length {cls : ProxyClass} {t : Target} (h : v.Shown b id cls t)
    (hscript : b.InScript) (hfits : v.Fits) (ho : b.objects.get o = .proxy cls t) :
    Script.length o b = .ok v.lines.length b := by
  rw [Script.length_apply hscript.scripted hscript.attached ho, Act.mapError,
    length_apply hscript.writable.not_exclusive h hfits]

/-- An operation of a script comes to what the operation on the list comes to. -/
theorem perform_obeys (command : String → Act BridgeError Unit) (h : v.Handled b id o)
    (hfits : v.Fits) (hmeans : Means b o op q) :
    Obeys ForeignError.exceptionKind b (Worked b id o) (v.apply q) (op.perform command o b) := by
  obtain ⟨hscript, cls, t, ho, hshown⟩ := h
  have hraised (e : ProxyError) : e.toForeign.exceptionKind = e.exceptionKind :=
    e.toForeign_exceptionKind
  have hanswered (p : Given × LineList) (r : ObjRef) (b' : Bridge)
      (h : Answered b id cls t p r b') : Worked b id o p (.object r) b' :=
    h.changed.worked hscript ho h.given
  have hdone (p : Given × LineList) (x : Unit) (b' : Bridge)
      (h : Done b id cls t p x b') : Worked b id o p .done b' :=
    h.2.worked hscript ho (congrArg some h.1.symm)
  cases hmeans with
  | length =>
    have hlength := hshown.script_length hscript hfits ho
    have hsame : v.Changed b id cls t b := ⟨hshown, .refl⟩
    change Obeys _ _ _ _ ((Answer.count <$> Script.length o) b)
    rw [map_eq_pure_bind, bind_apply, hlength]
    exact .ok (hsame.worked hscript ho rfl)
  | get hk =>
    refine .map ?_ hanswered
    rw [Script.getItem_apply hscript.scripted hscript.attached ho]
    exact (subscript_obeys hscript hshown hfits hk).mapError hraised
  | set hk =>
    refine .map ?_ hdone
    rw [Script.setItem_apply hscript.scripted hscript.attached ho]
    exact (assign_obeys hscript hshown hfits hk _).mapError hraised
  | delete hk =>
    refine .map ?_ hdone
    rw [Script.setItem_apply hscript.scripted hscript.attached ho]
    exact (assign_obeys hscript hshown hfits hk none).mapError hraised
  | append ho' hm =>
    cases ho.symm.trans ho'
    refine .map ?_ hanswered
    rw [Script.call_apply hscript.scripted hscript.attached hm]
    exact (append_obeys hscript hshown hfits command _ _).mapError hraised

/-! ### Several operations -/

/-- What a script sees of how an operation ends. It sees nothing if the operation breaks down. -/
def seen? : EStateM.Result (Stop ForeignError) Bridge Answer → Option (Except ExceptionKind Given)
  | .ok a b => (a.given? b.objects).map .ok
  | .error (.error e) _ => some (.error e.exceptionKind)
  | .error .crash _ => none

/-- A script does something else, and does not change what it has of a handle. -/
structure Elsewhere (o : ObjRef) (b b' : Bridge) : Prop where
  inScript : b.InScript → b'.InScript
  lines : ∀ id, (b'.editor.buffer? id).map (·.lines) = (b.editor.buffer? id).map (·.lines)
  handle : b'.objects.get o = b.objects.get o
  ends : ∀ last : EndRef, last.id < b.objects.ends.size →
    last.id < b'.objects.ends.size ∧ b'.objects.endOf last = b.objects.endOf last

/-- The lines of a buffer can be counted in 64 bits. -/
def Countable (b : Bridge) (id : Nat) : Prop :=
  ∀ x, b.editor.buffer? id = some x → (x.lines.length : Int) ≤ Text.maxInt64

/-- A script works on the lines of a buffer through a handle. The log says what each operation means
for a list, and what the script saw of it. -/
inductive Work (command : String → Act BridgeError Unit) (id : Nat) (o : ObjRef) (b : Bridge) :
    List (Request × Option (Except ExceptionKind Given)) → Bridge → Prop
  | start : Work command id o b [] b
  | perform {log : List (Request × Option (Except ExceptionKind Given))} {b' : Bridge}
      {op : Operation} {q : Request} (hwork : Work command id o b log b')
      (hcount : Countable b' id) (hmeans : Means b' o op q) :
    Work command id o b (log ++ [(q, seen? (op.perform command o b'))])
      (final (op.perform command o b'))
  | elsewhere {log : List (Request × Option (Except ExceptionKind Given))} {b' b'' : Bridge}
      (hwork : Work command id o b log b') (helsewhere : Elsewhere o b' b'') :
    Work command id o b log b''

variable {log : List (Request × Option (Except ExceptionKind Given))}

theorem Handled.fits (h : v.Handled b id o) (hcount : Countable b id) : v.Fits := by
  obtain ⟨-, cls, t, -, ⟨x, hx, hall⟩, -⟩ := h
  have hle := hcount x hx
  rwa [hall] at hle

theorem Handled.countable (h : v.Handled b id o) (hfits : v.Fits) : Countable b id := by
  obtain ⟨-, cls, t, -, ⟨x, hx, hall⟩, -⟩ := h
  intro x' hx'
  cases hx.symm.trans hx'
  rw [hall]
  exact hfits

theorem Elsewhere.withNew (ho : o.id < b.objects.cells.size) (x : Object) :
    Elsewhere o b (b.withNew x) :=
  ⟨fun h => ⟨h.scripted, h.attached, h.writable.side, h.writable.loan⟩, fun _ => rfl,
    Bridge.get_withNew_of_lt ho, fun _ hexists => ⟨hexists, rfl⟩⟩

/-- The list stays when a script does something else. -/
theorem Handled.elsewhere (h : v.Handled b id o) (helsewhere : Elsewhere o b b') :
    v.Handled b' id o := by
  obtain ⟨hscript, cls, t, ho, ⟨x, hx, hall⟩, hbounds⟩ := h
  refine ⟨helsewhere.inScript hscript, cls, t, helsewhere.handle.trans ho, ?_, ?_⟩
  · have hlines := helsewhere.lines id
    rw [hx, Option.map_some, Option.map_eq_some_iff] at hlines
    obtain ⟨x', hx', hsame⟩ := hlines
    exact ⟨x', hx', hsame.trans hall⟩
  · cases hbounds with
    | buffer hwhole hfront hback => exact .buffer hwhole hfront hback
    | range hwhole hstart hexists hlast =>
      obtain ⟨hexists', hlast'⟩ := helsewhere.ends _ hexists
      exact .range hwhole hstart hexists' (hlast'.trans hlast)

/-- One operation: the script sees what the list gives, and an operation that fails changes
nothing. -/
theorem perform_step (command : String → Act BridgeError Unit) (h : v.Handled b id o)
    (hcount : Countable b id) (hmeans : Means b o op q) :
    seen? (op.perform command o b) = some (v.step q).1 ∧
      (v.step q).2.Handled (final (op.perform command o b)) id o ∧
      b.Beside id (final (op.perform command o b)) := by
  have hobeys := perform_obeys command h (h.fits hcount) hmeans
  unfold step
  generalize op.perform command o b = outcome at hobeys ⊢
  generalize v.apply q = x at hobeys ⊢
  cases hobeys with
  | ok hworked =>
    exact ⟨congrArg (Option.map Except.ok) hworked.given, hworked.handled, hworked.beside⟩
  | error e => exact ⟨rfl, h, .refl⟩

theorem perform_error {stop : Stop ForeignError} (h : v.Handled b id o) (hcount : Countable b id)
    (hmeans : Means b o op q) (herror : op.perform command o b = .error stop b') : b' = b := by
  have hobeys := perform_obeys command h (h.fits hcount) hmeans
  rw [herror] at hobeys
  generalize v.apply q = x at hobeys
  cases hobeys
  rfl

/-- All operations: the script sees what the list gives, one operation after another. -/
theorem Work.run (hwork : Work command id o b log b') (h : v.Handled b id o) :
    log.map (·.2) = (v.run (log.map (·.1))).1.map some ∧
      (v.run (log.map (·.1))).2.Handled b' id o ∧
      ∀ other ≠ id, (b'.editor.buffer? other).map (·.lines) =
        (b.editor.buffer? other).map (·.lines) := by
  induction hwork with
  | start => exact ⟨rfl, h, fun _ _ => rfl⟩
  | perform _ hcount hmeans ih =>
    obtain ⟨hseen, hhandled, hothers⟩ := ih
    obtain ⟨hseen', hhandled', hbeside⟩ := perform_step command hhandled hcount hmeans
    rw [List.map_append, List.map_append, List.map_singleton, List.map_singleton, run_append]
    refine ⟨?_, hhandled', fun other hother => ?_⟩
    · rw [hseen, hseen', List.map_append, List.map_singleton]
    · rw [hbeside.buffers other hother, hothers other hother]
  | elsewhere _ helsewhere ih =>
    obtain ⟨hseen, hhandled, hothers⟩ := ih
    exact ⟨hseen, hhandled.elsewhere helsewhere, fun other hother =>
      (helsewhere.lines other).trans (hothers other hother)⟩

end LineList

end ScriptBridge
