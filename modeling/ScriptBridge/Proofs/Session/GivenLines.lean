import ScriptBridge.Proofs.Command.Line
import ScriptBridge.Proofs.Host.Evolution
import ScriptBridge.Proofs.Script.ListWork
import ScriptBridge.Proofs.Session.Admitting
import ScriptBridge.Proofs.Session.LineHandles

/-!
# The lines that a script is given

A command line that runs a script addresses lines of the current buffer. It is refused if they are
not there, and then no script runs. Otherwise the script finds them as the range of what is current.
The cursor line and the last line of the buffer are always there, since a well-formed editor has its
cursor in the buffer.
-/

namespace ScriptBridge

open Foreign (ObjRef Object Target)
open Host (Editor)
open ScriptBridge.Computation

/-! ### Addressed lines -/

/-- The cursor is on a line of the current buffer. -/
theorem Host.Editor.WellFormed.exists_cursorLine {e : Editor} (he : e.WellFormed) :
    ∃ x, e.buffer? e.currentBuffer = some x ∧ e.lastLine = x.lines.length ∧
      1 ≤ e.cursorLine ∧ e.cursorLine ≤ e.lastLine := by
  obtain ⟨w, hw⟩ := Option.isSome_iff_exists.mp he.has_currentWindow
  obtain ⟨x, hx, hnumber, hrow⟩ := he.shown w (List.mem_of_find?_eq_some hw)
  have hcursor : e.cursorLine = w.row := by
    rw [Editor.cursorLine, hw]
    rfl
  have hcurrent : e.currentBuffer = w.buffer := by
    rw [Editor.currentBuffer, hw]
    rfl
  have hfound : e.buffer? e.currentBuffer = some x := by
    rw [hcurrent]
    exact he.buffer?_eq_some.mpr ⟨hx, hnumber⟩
  have hlast : e.lastLine = x.lines.length := by
    rw [Editor.lastLine, hfound]
    rfl
  rw [hlast, hcursor]
  exact ⟨x, hfound, rfl, hrow⟩

namespace Command

variable {e : Editor} {range : Option LineRange}

/-- The first and the last line that a command line addresses: those of the buffer, of one address
or of two, or else the cursor line. -/
def addressed (e : Editor) : Option LineRange → Nat × Nat
  | some .whole => (1, e.lastLine)
  | some (.single a) => (a.resolve e.cursorLine e.lastLine, a.resolve e.cursorLine e.lastLine)
  | some (.pair a b) => (a.resolve e.cursorLine e.lastLine, b.resolve e.cursorLine e.lastLine)
  | none => (e.cursorLine, e.cursorLine)

/-- The lines from one to another one are there in the current buffer, and there is one at least. -/
structure Present (e : Editor) (lines : Nat × Nat) : Prop where
  one_le : 1 ≤ lines.1
  le : lines.1 ≤ lines.2
  le_last : lines.2 ≤ e.lastLine

/-- A range that names all lines, the cursor line or the last line, and nothing else. -/
inductive Plain : Option LineRange → Prop
  | missing : Plain none
  | whole : Plain (some .whole)
  | cursor : Plain (some (.single .cursor))
  | last : Plain (some (.single .last))

theorem Plain.present (h : Plain range) (he : e.WellFormed) : Present e (addressed e range) := by
  obtain ⟨x, -, -, hone, hle⟩ := he.exists_cursorLine
  have hlast : 1 ≤ e.lastLine := Nat.le_trans hone hle
  cases h with
  | missing | cursor => exact ⟨hone, Nat.le_refl _, hle⟩
  | whole => exact ⟨Nat.le_refl _, hlast, Nat.le_refl _⟩
  | last => exact ⟨hlast, Nat.le_refl _, Nat.le_refl _⟩

theorem LineRange.resolve_eq (r : LineRange) (e : Editor) : r.resolve e =
    if (addressed e (some r)).1 = 0 ∨ e.lastLine < (addressed e (some r)).2 ∨
        (addressed e (some r)).2 < (addressed e (some r)).1
      then .error .invalidRange else .ok (addressed e (some r)) := by
  cases r <;> rfl

/-- A range resolves to the lines that it addresses, if they are there. -/
theorem LineRange.resolve_of_present {r : LineRange} (h : Present e (addressed e (some r))) :
    r.resolve e = .ok (addressed e (some r)) := by
  obtain ⟨hone, hle, hlast⟩ := h
  rw [resolve_eq, if_neg (by omega)]

theorem LineRange.resolve_of_absent {r : LineRange} (h : ¬Present e (addressed e (some r))) :
    r.resolve e = .error .invalidRange := by
  rw [resolve_eq, if_pos]
  by_contra hinside
  exact h ⟨by omega, by omega, by omega⟩

end Command

/-! ### The range of what is current -/

/-- An object is a range of lines of the current buffer, one at least, and this is what a script
finds of it. -/
structure ShowsLines (b : Bridge) (r : ObjRef) (texts : List String) (lines : Nat × Nat) :
    Prop where
  resolves : ∃ t s, b.objects.get r = .proxy .range t ∧ Proxy.span t b = .ok s b ∧
    s.buffer = b.editor.currentBuffer ∧ s.first = lines.1 ∧ s.last = lines.2 ∧ 0 < s.size
  /-- The attributes count from zero. -/
  start : ∃ n b', Script.getAttr r "start" b = .ok n b' ∧ b'.objects.get n = .int (lines.1 - 1)
  last : ∃ n b', Script.getAttr r "end" b = .ok n b' ∧ b'.objects.get n = .int (lines.2 - 1)
  items : ∃ rs b', Script.iterate r b = .ok rs b' ∧
    List.Forall₂ (fun line => Script.Is b' (.str (Convert.shownLine line))) texts rs

/-- A script finds lines of the current buffer as the range of what is current. -/
def FindsLines (b : Bridge) (lines : Nat × Nat) : Prop :=
  ∃ x, b.editor.buffer? b.editor.currentBuffer = some x ∧
    ∀ o, b.objects.get o = .proxy .current .current →
      ∃ r b', Script.getAttr o "range" b = .ok r b' ∧ b'.editor = b.editor ∧
        ShowsLines b' r ((x.lines.take lines.2).drop (lines.1 - 1)) lines

namespace LineList

variable {b b' : Bridge} {id : Nat} {cls : Foreign.ProxyClass} {t : Target} {v : LineList}
  {r : ObjRef}

theorem Shown.adds (h : v.Shown b id cls t) (hadds : b.Adds b') : v.Shown b' id cls t := by
  obtain ⟨⟨x, hx, hall⟩, hbounds⟩ := h
  refine ⟨⟨x, ?_, hall⟩, ?_⟩
  · rw [hadds.editor]
    exact hx
  · cases hbounds with
    | buffer hwhole hfront hback => exact .buffer hwhole hfront hback
    | range hwhole hstart hexists hlast =>
      refine .range hwhole hstart (hadds.ends ▸ hexists) ?_
      unfold Foreign.Objects.endOf at hlast ⊢
      rw [hadds.ends, hlast]

/-- A list of lines gives them as texts, whatever the kind of the interpreter. -/
theorem Shown.yields (h : v.Shown b id cls t) (hloan : b.loan ≠ .exclusive) (hfits : v.Fits) :
    Script.Yields b cls t (v.lines.map fun line => .str (Convert.shownLine line)) := by
  have hloan' {b' : Bridge} (hadds : b.Adds b') : b'.loan ≠ .exclusive := hadds.loan ▸ hloan
  refine ⟨?_, fun {b'} hadds i hi => ?_, fun {b'} hadds => ?_⟩
  · rw [length_apply hloan h hfits, List.length_map]
  · rw [List.length_map] at hi
    rw [item_apply (hloan' hadds) (h.adds hadds) hfits hi, List.getElem_map]
  · rw [List.length_map]
    exact ⟨_, item_outside (hloan' hadds) (h.adds hadds) hfits⟩

theorem Shown.showsLines (h : v.Shown b b.editor.currentBuffer .range t)
    (hattached : b.attached = true) (hloan : b.loan ≠ .exclusive) (hfits : v.Fits)
    (hr : b.objects.get r = .proxy .range t) (hne : 0 < v.lines.length) :
    ShowsLines b r v.lines (v.front.length + 1, v.front.length + v.lines.length) where
  resolves := ⟨t, _, hr, h.span_apply hfits hloan, rfl, rfl, rfl, hne⟩
  start := by
    refine ⟨_, _, h.getAttr_rangeStart hattached hloan hfits hr, (Convert.new_apply _).2.trans ?_⟩
    congr 1
    omega
  last := by
    refine ⟨_, _, h.getAttr_rangeEnd hattached hloan hfits hr, (Convert.new_apply _).2.trans ?_⟩
    congr 1
  items := by
    obtain ⟨rs, b', hiterate, -, hall⟩ := (h.yields hloan hfits).iterate hattached hr rfl rfl
    exact ⟨rs, b', hiterate, List.forall₂_map_left_iff.mp hall⟩

/-- The lines of a range from one line number to another one. -/
theorem ofRange_natCast {texts : List String} {first last : Nat} (hone : 1 ≤ first)
    (hle : first ≤ last) (hlast : last ≤ texts.length) :
    (ofRange texts first last).lines = (texts.take last).drop (first - 1) ∧
      (ofRange texts first last).front.length + 1 = first ∧
      (ofRange texts first last).front.length + (ofRange texts first last).lines.length = last := by
  have hbefore : ((first : Int) - 1).toNat = first - 1 := by omega
  have hlasts : (last : Int) ≤ texts.length := by omega
  have hfront := length_front_ofRange hlasts (show (first : Int) ≤ last + 1 by omega)
  have hlines := length_lines_ofRange (show 1 ≤ (first : Int) by omega) hlasts (by omega)
  refine ⟨?_, by omega, by omega⟩
  unfold ofRange
  dsimp only
  rw [hbefore, Int.toNat_natCast]

theorem shown_given {x : Host.Buffer} {first last : Nat} (hx : b.editor.buffer? id = some x)
    (hone : 1 ≤ first) (hle : first ≤ last) (hlast : last ≤ x.lines.length)
    (hcount : (x.lines.length : Int) ≤ Text.maxInt64) :
    (ofRange x.lines first last).Shown (withRange b id (Int64.ofNat first) (Int64.ofNat last)) id
      .range (.range id (Int64.ofNat first) (b.objects.newEnd (Int64.ofNat last)).1) := by
  have hread (n : Nat) (hn : n ≤ last) : (Int64.ofNat n).toInt = n := by
    unfold Text.maxInt64 at hcount
    rw [← Int64.ofInt_eq_ofNat]
    exact Int64.toInt_ofInt_of_le (by omega) (by omega)
  have hfirst := hread first hle
  have hsecond := hread last (Nat.le_refl _)
  have hshown : (ofRange x.lines (Int64.ofNat first).toInt (Int64.ofNat last).toInt).Shown
      (withRange b id (Int64.ofNat first) (Int64.ofNat last)) id .range
      (.range id (Int64.ofNat first) (b.objects.newEnd (Int64.ofNat last)).1) :=
    shown_withRange hx (by omega) (by omega) (by omega)
  rwa [hfirst, hsecond] at hshown

end LineList

section Current

variable {b : Bridge} {lines : Nat × Nat} {o : ObjRef}

/-- The range of what is current is made from the lines that the session keeps. -/
theorem Script.getAttr_currentRange (hattached : b.attached = true) (hloan : b.loan ≠ .exclusive)
    (ho : b.objects.get o = .proxy .current .current) : Script.getAttr o "range" b =
      .ok ⟨b.objects.cells.size⟩
        (LineList.withRange b b.editor.currentBuffer b.range.1 b.range.2) := by
  refine Script.getAttr_ok hattached ho ?_
  change (Proxy.currentAttr "range" >>= _) b = _
  unfold Proxy.currentAttr
  rw [bind_assoc, Proxy.readEditor_bind_apply hloan]
  rfl

/-- A script finds the lines that the session keeps, if they are there. -/
theorem finds_of_present (he : b.editor.WellFormed)
    (hcount : (b.editor.lastLine : Int) ≤ Text.maxInt64) (hloan : b.loan ≠ .exclusive)
    (hattached : b.attached = true) (hpresent : Command.Present b.editor lines)
    (hrange : b.range = (Int64.ofNat lines.1, Int64.ofNat lines.2)) : FindsLines b lines := by
  obtain ⟨x, hx, hlast, -⟩ := he.exists_cursorLine
  obtain ⟨hone, hle, hend⟩ := hpresent
  rw [hlast] at hcount hend
  refine ⟨x, hx, fun o ho => ⟨_, _, Script.getAttr_currentRange hattached hloan ho, rfl, ?_⟩⟩
  have hshown := LineList.shown_given hx hone hle hend hcount
  obtain ⟨htexts, hfirst, hsecond⟩ := LineList.ofRange_natCast hone hle hend
  have hfits : (LineList.ofRange x.lines lines.1 lines.2).Fits := by
    unfold LineList.Fits
    rw [LineList.all_ofRange x.lines (by omega)]
    exact hcount
  have hshows := hshown.showsLines hattached hloan hfits (LineList.get_withRange b _ _ _) (by omega)
  rw [hfirst, hsecond, htexts] at hshows
  rw [hrange]
  exact hshows

end Current

namespace Session

open Command (addressed Present Plain Written LineRange Kind)

variable {ε : Type} {engine : Engine} {b b' : Bridge} {g : Guard} {entered : Handoff}
  {code : String} {lines : Nat × Nat}

/-! ### Starting a script -/

/-- The bridge with which a script starts that is given lines. -/
def started (b : Bridge) (lines : Nat × Nat) (entered : Handoff) : Bridge :=
  { b with range := (Int64.ofNat lines.1, Int64.ofNat lines.2), handoff := entered }

/-- How a command ends whose script has ended. A breakdown of the script is one of the command. -/
def ended (b : Bridge) (g : Guard) :
    EStateM.Result (Stop ForeignError) Bridge Unit → EStateM.Result (Stop BridgeError) Bridge Unit
  | .ok _ b' => Proxy.flush (left b')
  | .error (.error e) b' => (Proxy.flush >>= fun _ => Act.fail (.execute e)) (left b')
  | .error .crash b' => .error .crash { b' with handoff := b'.handoff.leave g, held := b.held }
where
  /-- The script is left, and what it changed of the lines given to commands is undone. -/
  left (b' : Bridge) : Bridge :=
    { b' with handoff := b'.handoff.leave g, held := b.held, range := b.range }

/-- Running a source text is what the interpreter does with it where it was entered, and leaving. -/
theorem execute_of_entered {given : Option (Int64 × Int64)} (hready : ensureReady b = .ok () b')
    (hentered : b'.handoff.enter = .ok (g, entered))
    (hlines : linesFor b' given = (Int64.ofNat lines.1, Int64.ofNat lines.2)) :
    execute engine code given b = ended b' g (engine.run code (started b' lines entered)) := by
  have hgiven : ({ b' with range := linesFor b' given } : Bridge).handoff.enter =
      .ok (g, entered) := hentered
  have hinside : (inside (engine.run code) : Act BridgeError _)
      { b' with range := linesFor b' given } =
        handedOn g b'.held (engine.run code (started b' lines entered)) := by
    rw [inside_of_entered hgiven, hlines]
    rfl
  unfold execute
  simp only [bind_apply, hready, get_apply, modify_apply]
  rw [hinside]
  cases engine.run code (started b' lines entered) with
  | ok x b₁ =>
    change (Proxy.flush >>= pure) (ended.left b' g b₁) = _
    rw [bind_pure]
    rfl
  | error stop b₁ => cases stop <;> rfl

/-- Making the interpreter ready leaves the editor alone. -/
theorem ensureReady_keeps : ensureReady.Keeps fun b => (b.editor, b.loan, b.attached) := by
  have hbind : Session.bind.Keeps fun b => (b.editor, b.loan, b.attached) := by
    intro b
    unfold Session.bind
    rw [bind_apply, get_apply]
    dsimp only
    cases b.interpreter.kind with
    | scripted =>
      dsimp only
      split <;> rfl
    | library =>
      dsimp only
      split
      · rw [bind_apply]
        cases b.interpreter.loader.bind b.processBinding b.interpreter.libraryName
          b.interpreter.siblings <;> rfl
      · rfl
  have hstart : start.Keeps fun b => (b.editor, b.loan, b.attached) := by
    refine .bind (.attempt hbind) fun bound => ?_
    cases bound with
    | error e => exact .bind (.modify fun _ => rfl) fun _ => .fail _
    | ok _ =>
      refine .bind (.modify fun _ => rfl) fun _ =>
        .bind (.attempt (install_keeps fun _ _ _ _ => rfl)) fun installed =>
        .bind (.modify fun _ => rfl) fun _ => ?_
      cases installed with
      | ok _ => exact .modify fun _ => rfl
      | error e => exact .bind (.modify fun _ => rfl) fun _ => .fail _
  refine .bind .get fun b => ?_
  split
  · exact .pure _
  iterate 2 exact .fail _
  · exact hstart

/-- No failure of a script, or of starting it, is one of its range. -/
theorem avoids_execute (engine : Engine) (code : String) (given : Option (Int64 × Int64)) :
    (execute engine code given).Avoids (.parse .invalidRange) := by
  refine .bind (avoids_ensureReady ⟨nofun, nofun, nofun, nofun⟩) fun _ =>
    .bind (.of_unfailing .get) fun _ => .bind (.of_unfailing (.modify _)) fun _ =>
    .bind (.of_unfailing (unfailing_inside _)) fun result =>
    .bind (.of_unfailing (.modify _)) fun _ => ?_
  cases result with
  | error e => exact .fail nofun
  | ok outcome =>
    refine .bind (.of_unfailing Proxy.unfailing_flush) fun _ => ?_
    cases outcome with
    | ok _ => exact .of_unfailing (.pure _)
    | error e => exact .fail nofun

/-! ### Command lines -/

/-- A command is refused for its range. The interpreter is not asked, and nothing changes. -/
def RefusedForRange (run : Engine → Act BridgeError Unit) (b : Bridge) : Prop :=
  ∀ engine, run engine b = .error (.error (.parse .invalidRange)) b

/-- A command runs a script that is given lines. -/
structure Starts (run : Engine → Act BridgeError Unit) (b : Bridge) (code : String)
    (lines : Nat × Nat) : Prop where
  not_refused : ∀ engine b', run engine b ≠ .error (.error (.parse .invalidRange)) b'
  /-- In a session that is ready and that can be entered the script starts, and finds the lines. -/
  runs : ∀ {b' g entered}, ensureReady b = .ok () b' → b'.handoff.enter = .ok (g, entered) →
    b'.editor = b.editor ∧ FindsLines (started b' lines entered) lines ∧
      ∀ engine, run engine b = ended b' g (engine.run code (started b' lines entered))

/-- A command that runs a script with a range, or without one, is refused or starts the script,
depending on whether the lines that it addresses are there. -/
structure GivesLines (run : Engine → Act BridgeError Unit) (b : Bridge) (range : Option LineRange)
    (code : String) : Prop where
  refused : ¬Present b.editor (addressed b.editor range) → RefusedForRange run b
  starts : Present b.editor (addressed b.editor range) →
    Starts run b code (addressed b.editor range)

/-- The lines of a range are resolved where the editor can be read. -/
theorem resolve_apply (hloan : b.loan ≠ .exclusive) (r : LineRange) : resolve r b =
    match r.resolve b.editor with
    | .ok (first, last) => .ok (Int64.ofNat first, Int64.ofNat last) b
    | .error e => .error (.error (.parse e)) b := by
  unfold resolve
  rw [bind_apply, get_apply]
  dsimp only
  rw [if_neg hloan]
  cases r.resolve b.editor <;> rfl

/-- The lines that a script is given are those that the command addresses. -/
theorem range_given_of_present (hloan : b.loan ≠ .exclusive) {range : Option LineRange}
    (h : Present b.editor (addressed b.editor range)) : ∃ given,
      (range.mapM resolve) b = .ok given b ∧
      ∀ b' : Bridge, b'.editor = b.editor → b'.loan = b.loan → linesFor b' given =
        (Int64.ofNat (addressed b.editor range).1, Int64.ofNat (addressed b.editor range).2) := by
  cases range with
  | none =>
    refine ⟨none, rfl, fun b' heditor hloan' => ?_⟩
    unfold linesFor
    rw [if_neg (hloan' ▸ hloan), heditor]
    rfl
  | some r =>
    have hresolve := resolve_apply hloan r
    rw [LineRange.resolve_of_present h] at hresolve
    refine ⟨some _, ?_, fun _ _ _ => rfl⟩
    change (some <$> resolve r) b = _
    rw [map_eq_pure_bind, bind_apply, hresolve]
    rfl

theorem range_refused_of_absent (hloan : b.loan ≠ .exclusive) (he : b.editor.WellFormed)
    {range : Option LineRange} (h : ¬Present b.editor (addressed b.editor range)) :
    (range.mapM resolve) b = .error (.error (.parse .invalidRange)) b := by
  cases range with
  | none => exact absurd (Plain.missing.present he) h
  | some r =>
    have hresolve := resolve_apply hloan r
    rw [LineRange.resolve_of_absent h] at hresolve
    change (some <$> resolve r) b = _
    rw [map_eq_pure_bind, bind_apply, hresolve]

section

variable (hreached : Editor.new.Moves b.editor)
  (hcount : (b.editor.lastLine : Int) ≤ Text.maxInt64) (hloan : b.loan ≠ .exclusive)
  (hattached : b.attached = true)

include hreached hcount hloan hattached

/-- Where a script starts, the editor is the one for which the command was resolved. -/
theorem finds_of_ready (h : Present b.editor lines) (hready : ensureReady b = .ok () b') :
    b'.editor = b.editor ∧ b'.loan = b.loan ∧ FindsLines (started b' lines entered) lines := by
  have hkeeps := ensureReady_keeps b
  rw [hready] at hkeeps
  obtain ⟨heditor, hkeeps⟩ := Prod.mk.inj hkeeps
  obtain ⟨hloan', hattached'⟩ := Prod.mk.inj hkeeps
  rw [final_ok] at heditor hloan' hattached'
  have he := hreached.wellFormed Editor.wellFormed_new
  rw [← heditor] at h hcount he
  rw [← hloan'] at hloan
  rw [← hattached'] at hattached
  exact ⟨heditor, hloan', finds_of_present (b := started b' lines entered) he hcount hloan
    hattached h rfl⟩

theorem givesLines_runInput {input : Command.Input} (hkind : input.line.kind = .script) :
    GivesLines (runInput · input) b input.line.range (input.body.getD input.line.arg) := by
  have hrun (engine : Engine) : runInput engine input = input.line.range.mapM resolve >>=
      execute engine (input.body.getD input.line.arg) := by
    unfold runInput
    dsimp only
    rw [hkind]
  constructor
  · intro habsent engine
    dsimp only
    rw [hrun, bind_apply,
      range_refused_of_absent hloan (hreached.wellFormed Editor.wellFormed_new) habsent]
  · intro hpresent
    obtain ⟨given, hgiven, hlines⟩ := range_given_of_present hloan hpresent
    have hexecute (engine : Engine) : runInput engine input b =
        execute engine (input.body.getD input.line.arg) given b := by
      rw [hrun, bind_apply, hgiven]
    refine ⟨fun engine b' => ?_, fun {b' g entered} hready hentered => ?_⟩
    · rw [hexecute]
      exact avoids_execute engine _ given b b'
    · obtain ⟨heditor, hloan', hfinds⟩ :=
        finds_of_ready hreached hcount hloan hattached hpresent hready
      refine ⟨heditor, hfinds, fun engine => ?_⟩
      rw [hexecute]
      exact execute_of_entered hready hentered (hlines b' heditor hloan')

/-- Let the editor be reached from the first one, and let it be readable. A script that is run by a
command with a range, or without one, finds the lines that the command addresses as the range of
what is current: a span of the current buffer that is not empty, with attributes that count from
zero, and with the lines as its items.

If the addressed lines are not there, or if a line number cannot be read, the command is refused and
runs no script. That does not happen to a range that is a point, a dollar sign or a percent sign,
nor if there is no range. -/
theorem script_finds_given_lines :
    (∀ range, Plain range → Present b.editor (addressed b.editor range)) ∧
    (∀ input : Command.Input, input.line.kind = .script →
      GivesLines (runInput · input) b input.line.range (input.body.getD input.line.arg)) ∧
    ∀ text written word arg, Written text.toList written word arg →
      Kind.ofWord (String.ofList word) = .script →
      (∀ r, written = some r → r.Misnumbered → RefusedForRange (exCommand · text) b) ∧
      ∀ range, LineRange.NamedIfGiven written range →
        let input := Command.Input.ofLine ⟨range, .script, String.ofList arg, text⟩
        GivesLines (exCommand · text) b range (input.body.getD input.line.arg) := by
  refine ⟨fun range h => h.present (hreached.wellFormed Editor.wellFormed_new),
    fun input => givesLines_runInput hreached hcount hloan hattached,
    fun text written word arg hwritten hword => ?_⟩
  refine ⟨fun r hr hbad engine => ?_, fun range hrange => ?_⟩
  · have hparse : Command.Line.parse text = .error .invalidRange :=
      (Command.Line.parse_of_written hwritten).trans
        ((Command.Line.outcome_eq_invalidRange_iff hwritten).mpr ⟨r, hr, hbad⟩)
    dsimp only
    unfold exCommand
    rw [hparse]
    rfl
  · have hparse : Command.Line.parse text = .ok ⟨range, .script, String.ofList arg, text⟩ :=
      (Command.Line.parse_of_written hwritten).trans
        ((Command.Line.outcome_eq_ok_iff hwritten).mpr ⟨rfl, hrange, hword.symm, rfl⟩)
    have hrun : (exCommand · text) =
        (runInput · (.ofLine ⟨range, .script, String.ofList arg, text⟩)) :=
      funext fun engine => exCommand_of_line hparse
    rw [hrun]
    exact givesLines_runInput hreached hcount hloan hattached rfl

end

/-- Of three lines the last two are given to a script, but not in the other order. -/
theorem script_finds_given_lines_pair :
    let b : Bridge := { Bridge.fresh with
      editor := Editor.new.withLines 1 ["a", "b", "c"]
      lifecycle := .ready
      objects := { cells := #[.proxy .current .current] } }
    Editor.new.Moves b.editor ∧ (b.editor.lastLine : Int) ≤ Text.maxInt64 ∧ b.loan ≠ .exclusive ∧
    b.attached = true ∧ RefusedForRange (exCommand · "3,2py x") b ∧
    ∃ g entered r b', b.handoff.enter = .ok (g, entered) ∧
      (∀ engine, exCommand engine "2,3py x" b =
        ended b g (engine.run "x" (started b (2, 3) entered))) ∧
      Script.getAttr ⟨0⟩ "range" (started b (2, 3) entered) = .ok r b' ∧
      ShowsLines b' r ["b", "c"] (2, 3) := by
  intro b
  have hreached : Editor.new.Moves b.editor := .single (.edit (.lines rfl (List.cons_ne_nil _ _)))
  have hcount : (b.editor.lastLine : Int) ≤ Text.maxInt64 := by decide
  have hloan : b.loan ≠ .exclusive := nofun
  obtain ⟨-, hinputs, -⟩ := script_finds_given_lines hreached hcount hloan rfl
  have hgives (first last : Nat) (text : String) := hinputs
    (.ofLine ⟨some (.pair (.line first) (.line last)), .script, "x", text⟩) rfl
  have hpresent : Present b.editor (2, 3) := ⟨by decide, by decide, by decide⟩
  have hrefused := (hgives 3 2 "3,2py x").refused fun h => absurd h.le (by decide)
  have hstarts := (hgives 2 3 "2,3py x").starts hpresent
  obtain ⟨-, ⟨x, hx, hfinds⟩, hrun⟩ := hstarts.runs (ensureReady_of_ready rfl) rfl
  obtain ⟨r, b', hget, -, hshows⟩ := hfinds ⟨0⟩ rfl
  cases hx
  refine ⟨hreached, hcount, hloan, rfl, fun engine => ?_, _, _, r, b', rfl, fun engine => ?_, hget,
    hshows⟩
  · exact (congrFun (exCommand_of_line rfl) b).trans (hrefused engine)
  · exact (congrFun (exCommand_of_line rfl) b).trans (hrun engine)

end Session

end ScriptBridge
