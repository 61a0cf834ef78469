import ScriptBridge.Proofs.Script.LineWork
import ScriptBridge.Proofs.Session.Course

/-!
# Handles behave like lists

A proxy of a buffer and a range of its lines are handles to lines. Whatever a script does with one,
it sees a list of texts: the lines of the buffer, or those between the lines in front of the range
and the lines behind it, which stay.
-/

namespace ScriptBridge

open Foreign (ObjRef Object Objects ProxyClass Target)
open ScriptBridge.Computation

namespace LineList

variable {command : String → Act BridgeError Unit} {b b' : Bridge} {id : Nat} {o : ObjRef}
  {v v' : LineList} {log : List (Request × Option (Except ExceptionKind Given))}

/-! ### New ranges -/

/-- The bridge with a new range of lines of a buffer. -/
def withRange (b : Bridge) (id : Nat) (first last : Int64) : Bridge :=
  Bridge.withNew { b with objects := (b.objects.newEnd last).2 }
    (.proxy .range (.range id first (b.objects.newEnd last).1))

/-- A range is refused if it is not inside of the span. It can be empty, in front of its first
line. -/
theorem range_apply {s : Proxy.Span} {i j : ObjRef} {first last : Int64}
    (hi : Proxy.intOf i b = .ok first b) (hj : Proxy.intOf j b = .ok last b) :
    s.range [i, j] b =
      if first.toInt < 1 ∨ s.size < last.toInt ∨ last.toInt + 1 < first.toInt then
        .error (.error Proxy.lineOutside) b
      else .ok ⟨b.objects.cells.size⟩ (withRange b s.buffer first last) := by
  have houtside : (decide (first.toInt < 1) || decide ((s.size : Int) < last.toInt) ||
      decide (last.toInt + 1 < first.toInt)) = true ↔
        (first.toInt < 1 ∨ s.size < last.toInt ∨ last.toInt + 1 < first.toInt) := by
    simp only [Bool.or_eq_true, decide_eq_true_iff, or_assoc]
  unfold Proxy.Span.range
  change (Proxy.intOf i >>= _) b = _
  rw [bind_apply, hi]
  dsimp only
  rw [bind_apply, hj]
  dsimp only
  by_cases hout : first.toInt < 1 ∨ s.size < last.toInt ∨ last.toInt + 1 < first.toInt
  · rw [if_pos hout, if_pos (houtside.mpr hout)]
    rfl
  · rw [if_neg hout, if_neg (houtside.not.mpr hout)]
    rfl

/-- The call of the method of a buffer that makes ranges. -/
theorem call_range {x : Host.Buffer} {m i j : ObjRef} {first last : Int64} (hscript : b.InScript)
    (hx : b.editor.buffer? id = some x)
    (hm : b.objects.get m = .proxy .method (.method (.buffer id) .buffer "range"))
    (hi : Proxy.intOf i b = .ok first b) (hj : Proxy.intOf j b = .ok last b) :
    Script.call command m [i, j] [] b =
      if first.toInt < 1 ∨ x.lines.length < last.toInt ∨ last.toInt + 1 < first.toInt then
        .error (.error Proxy.lineOutside.toForeign) b
      else .ok ⟨b.objects.cells.size⟩ (withRange b id first last) := by
  have hspan := Proxy.span_buffer_apply hscript.writable.not_exclusive hx
  have hcall : Proxy.call command .method (.method (.buffer id) .buffer "range") [i, j] b =
      Proxy.Span.range { buffer := id, before := 0, size := x.lines.length } [i, j] b := by
    change (Proxy.span _ >>= _) b = _
    rw [bind_apply, hspan]
    rfl
  rw [Script.call_apply hscript.scripted hscript.attached hm, Act.mapError, hcall,
    range_apply hi hj]
  dsimp only
  by_cases hout : first.toInt < 1 ∨ x.lines.length < last.toInt ∨ last.toInt + 1 < first.toInt
  · rw [if_pos hout, if_pos hout]
    rfl
  · rw [if_neg hout, if_neg hout]

/-- A new range shows the lines that it was made for. -/
theorem shown_withRange {x : Host.Buffer} {first last : Int64}
    (hx : b.editor.buffer? id = some x) (hfirst : 1 ≤ first.toInt)
    (hlast : last.toInt ≤ x.lines.length) (hempty : first.toInt ≤ last.toInt + 1) :
    (ofRange x.lines first.toInt last.toInt).Shown (withRange b id first last) id .range
      (.range id first (b.objects.newEnd last).1) := by
  have hfront := length_front_ofRange hlast hempty
  have hlines := length_lines_ofRange hfirst hlast hempty
  refine ⟨⟨x, hx, (all_ofRange x.lines hempty).symm⟩, .range rfl ?_ ?_ ?_⟩
  · omega
  · exact Nat.lt_of_lt_of_eq (Nat.lt_succ_self _) (Array.size_push _).symm
  · have hend : ((withRange b id first last).objects.endOf (b.objects.newEnd last).1) = last := by
      unfold withRange Bridge.withNew Objects.endOf Objects.newEnd Objects.alloc
      simp [Array.getD_eq_getD_getElem?]
    have hcount : ((ofRange x.lines first.toInt last.toInt).front.length : Int) +
        (ofRange x.lines first.toInt last.toInt).lines.length = last.toInt := by
      omega
    rw [hend, hcount, Int64.ofInt_toInt]

theorem get_withRange (b : Bridge) (id : Nat) (first last : Int64) :
    (withRange b id first last).objects.get ⟨b.objects.cells.size⟩ =
      .proxy .range (.range id first (b.objects.newEnd last).1) :=
  (Convert.new_apply (b := { b with objects := (b.objects.newEnd last).2 }) _).2

theorem handled_withRange {x : Host.Buffer} {first last : Int64} (hscript : b.InScript)
    (hx : b.editor.buffer? id = some x) (hfirst : 1 ≤ first.toInt)
    (hlast : last.toInt ≤ x.lines.length) (hempty : first.toInt ≤ last.toInt + 1) :
    (ofRange x.lines first.toInt last.toInt).Handled (withRange b id first last) id
      ⟨b.objects.cells.size⟩ :=
  ⟨⟨hscript.scripted, hscript.attached, hscript.writable.side, hscript.writable.loan⟩,
    .range, _, get_withRange b id first last, shown_withRange hx hfirst hlast hempty⟩

/-! ### Attributes of handles -/

/-- Taking a method from a handle makes an object for it. -/
theorem Shown.getAttr_method {cls : ProxyClass} {t : Target} {name : String}
    (h : v.Shown b id cls t) (hscript : b.InScript) (ho : b.objects.get o = .proxy cls t)
    (hname : name ∈ cls.methods) :
    Script.getAttr o name b = .ok (b.objects.alloc (.proxy .method (.method t cls name))).1
      (b.withNew (.proxy .method (.method t cls name))) := by
  obtain ⟨x, hx, -⟩ := h.exists_lines
  have hread {f : Host.Editor → Act ProxyError (Option ObjRef)} :=
    Proxy.readEditor_bind_apply (f := f) hscript.writable.not_exclusive
  have hattr : Proxy.targetAttr t name b = .ok none b := by
    cases h.bounds with
    | buffer =>
      have hname' : name = "append" ∨ name = "range" := by
        simpa [ProxyClass.methods] using hname
      rcases hname' with rfl | rfl
      all_goals
        refine hread.trans ?_
        rw [hx]
        rfl
    | range =>
      have hname' : name = "append" := by simpa [ProxyClass.methods] using hname
      subst hname'
      refine hread.trans ?_
      rw [hx]
      rfl
  have hvalid : t.isValid = true := by
    cases h.bounds with
    | buffer | range => rfl
  have hget : Proxy.getAttr? cls t name b =
      .ok (some (b.objects.alloc (.proxy .method (.method t cls name))).1)
        (b.withNew (.proxy .method (.method t cls name))) := by
    unfold Proxy.getAttr?
    rw [hvalid]
    change (Proxy.targetAttr t name >>= _) b = _
    rw [bind_apply, hattr]
    dsimp only
    rw [if_pos hname]
    rfl
  exact Script.getAttr_ok hscript.attached ho hget

/-- Taking the method that appends leaves the list as it is. -/
theorem Handled.take_append (h : v.Handled b id o) :
    ∃ m x, Script.getAttr o "append" b = .ok m (b.withNew x) ∧ Elsewhere o b (b.withNew x) ∧
      ∀ value position?, Means (b.withNew x) o (.append m value position?)
        (.append (linesOf (b.withNew x).objects value)
          (position?.map (numberOf (b.withNew x).objects))) := by
  obtain ⟨hscript, cls, t, ho, hshown⟩ := h
  have hname : "append" ∈ cls.methods := by
    cases hshown.bounds with
    | buffer | range => decide
  have hnew := Convert.new_apply (b := b) (.proxy .method (.method t cls "append"))
  have helsewhere : Elsewhere o b (b.withNew (.proxy .method (.method t cls "append"))) :=
    .withNew (Bridge.lt_size_of_proxy ho) _
  exact ⟨_, _, hshown.getAttr_method hscript ho hname, helsewhere,
    fun _ _ => .append (helsewhere.handle.trans ho) hnew.2⟩

section

variable {t : Target} (h : v.Shown b id .range t) (hattached : b.attached = true)
  (hloan : b.loan ≠ .exclusive) (hfits : v.Fits) (ho : b.objects.get o = .proxy .range t)

include h hattached hloan hfits ho

/-- The start and the end of a range count from zero. -/
theorem Shown.getAttr_rangeStart : Script.getAttr o "start" b =
    .ok (b.objects.alloc (.int v.front.length)).1 (b.withNew (.int v.front.length)) := by
  obtain ⟨x, hx, -⟩ := h.exists_lines
  have hle := length_le_of_fits hfits
  cases h.bounds with
  | @range start last _ hstart _ _ =>
    have hfirst : (start - 1).toInt = v.front.length := by
      unfold Text.maxInt64 at hle
      have hone : (1 : Int64) = Int64.ofInt 1 := rfl
      rw [← Int64.ofInt_toInt start, hstart, hone, ← Int64.ofInt_sub, Int.add_sub_cancel]
      exact Int64.toInt_ofInt_of_le (by omega) (by omega)
    refine Script.getAttr_ok hattached ho ?_
    rw [← hfirst]
    change (Proxy.rangeAttr id start (b.objects.endOf last) "start" >>= _) b = _
    unfold Proxy.rangeAttr
    rw [bind_assoc, Proxy.readEditor_bind_apply hloan, hx]
    rfl

theorem Shown.getAttr_rangeEnd : Script.getAttr o "end" b =
    .ok (b.objects.alloc (.int (v.front.length + v.lines.length - 1))).1
      (b.withNew (.int (v.front.length + v.lines.length - 1))) := by
  obtain ⟨x, hx, -⟩ := h.exists_lines
  have hle := length_le_of_fits hfits
  cases h.bounds with
  | @range start last _ _ _ hlast =>
    have hend : (b.objects.endOf last - 1).toInt = v.front.length + v.lines.length - 1 := by
      unfold Text.maxInt64 at hle
      have hone : (1 : Int64) = Int64.ofInt 1 := rfl
      rw [hlast, hone, ← Int64.ofInt_sub]
      exact Int64.toInt_ofInt_of_le (by omega) (by omega)
    refine Script.getAttr_ok hattached ho ?_
    rw [← hend]
    change (Proxy.rangeAttr id start (b.objects.endOf last) "end" >>= _) b = _
    unfold Proxy.rangeAttr
    rw [bind_assoc, Proxy.readEditor_bind_apply hloan, hx]
    rfl

end

theorem Shown.getAttr_end {cls : ProxyClass} {t : Target} (h : v.Shown b id cls t)
    (hwhole : v.whole = false) (hscript : b.InScript) (hfits : v.Fits)
    (ho : b.objects.get o = .proxy cls t) :
    Script.getAttr o "end" b =
      .ok (b.objects.alloc (.int (v.front.length + v.lines.length - 1))).1
        (b.withNew (.int (v.front.length + v.lines.length - 1))) := by
  cases h.bounds with
  | buffer hbuffer =>
    rw [hwhole] at hbuffer
    cases hbuffer
  | range => exact h.getAttr_rangeEnd hscript.attached hscript.writable.not_exclusive hfits ho

/-- A script has a handle to lines of a buffer: a proxy of the buffer, or a range that the method of
such a proxy accepted. The list starts at the line with the number `first`. -/
inductive Handle (command : String → Act BridgeError Unit) (b : Bridge) (id : Nat) (o : ObjRef) :
    Int → LineList → Bridge → Prop
  | buffer {x : Host.Buffer} (ho : b.objects.get o = .proxy .buffer (.buffer id))
      (hx : b.editor.buffer? id = some x) : Handle command b id o 1 (ofBuffer x.lines) b
  | range {x : Host.Buffer} {m i j : ObjRef} {first last : Int} {b' : Bridge}
      (hm : b.objects.get m = .proxy .method (.method (.buffer id) .buffer "range"))
      (hx : b.editor.buffer? id = some x) (hfirst : numberOf b.objects i = .ok first)
      (hlast : numberOf b.objects j = .ok last)
      (haccepted : Script.call command m [i, j] [] b = .ok o b') :
    Handle command b id o first (ofRange x.lines first last) b'

/-- A handle shows the list that it was made for, and making it changes no line. -/
theorem Handle.handled {first : Int} (h : Handle command b id o first v b') (hscript : b.InScript) :
    v.Handled b' id o ∧ v.front.length = first - 1 ∧ b'.editor = b.editor := by
  cases h with
  | buffer ho hx =>
    refine ⟨⟨hscript, .buffer, .buffer id, ho, ⟨_, hx, ?_⟩, .buffer rfl rfl rfl⟩, rfl, rfl⟩
    exact (List.append_nil _).symm
  | @range x m i j first last _ hm hx hfirst hlast haccepted =>
    obtain ⟨first, hi, rfl⟩ := intOf_of_numberOf hfirst
    obtain ⟨last, hj, rfl⟩ := intOf_of_numberOf hlast
    rw [call_range hscript hx hm hi hj] at haccepted
    by_cases hout : first.toInt < 1 ∨ x.lines.length < last.toInt ∨ last.toInt + 1 < first.toInt
    · rw [if_pos hout] at haccepted
      cases haccepted
    · rw [if_neg hout] at haccepted
      cases haccepted
      have hinside : 1 ≤ first.toInt ∧ last.toInt ≤ x.lines.length ∧
          first.toInt ≤ last.toInt + 1 := by
        omega
      obtain ⟨hfirst, hlast, hempty⟩ := hinside
      have hfront := length_front_ofRange hlast hempty
      exact ⟨handled_withRange hscript hx hfirst hlast hempty, by omega, rfl⟩

/-! ### What scripts see -/

/-- What a script finds of a handle to the list `v` after work that turned the list to `v'`. -/
structure Shows (command : String → Act BridgeError Unit) (b : Bridge) (id : Nat) (o : ObjRef)
    (first : Int) (v v' : LineList) (b' : Bridge) : Prop where
  lines : ∃ x, b'.editor.buffer? id = some x ∧ x.lines = v'.front ++ v'.lines ++ v'.back
  around : v.Around v'
  length : Script.length o b' = .ok v'.lines.length b'
  /-- The end of a range counts from zero. -/
  last : v.whole = false → ∃ r b'', Script.getAttr o "end" b' = .ok r b'' ∧
    b''.objects.get r = .int (first - 2 + v'.lines.length)
  /-- An operation that fails changes nothing. -/
  failures : ∀ op q stop b'', Means b' o op q → op.perform command o b' = .error stop b'' → b'' = b'
  others : ∀ other ≠ id, (b'.editor.buffer? other).map (·.lines) =
    (b.editor.buffer? other).map (·.lines)

/-- A script that works on lines through a handle sees what it would see of a list of texts, and the
buffer has the lines of the list among those around it. -/
theorem handle_behaves_as_list {first : Int} {b₁ b₂ : Bridge} (hscript : b.InScript)
    (hhandle : Handle command b id o first v b₁) (hwork : Work command id o b₁ log b₂)
    (hcount : Countable b₂ id) :
    log.map (·.2) = (v.run (log.map (·.1))).1.map some ∧
      Shows command b id o first v (v.run (log.map (·.1))).2 b₂ := by
  obtain ⟨hhandled, hfirst, heditor⟩ := hhandle.handled hscript
  obtain ⟨hseen, hhandled', hothers⟩ := hwork.run hhandled
  have haround := around_run v (log.map (·.1))
  generalize (v.run (log.map (·.1))).2 = v' at hhandled' haround ⊢
  have hfits := hhandled'.fits hcount
  obtain ⟨hscript', cls, t, ho, hshown⟩ := hhandled'
  refine ⟨hseen, hshown.exists_lines, haround, hshown.script_length hscript' hfits ho, ?_, ?_, ?_⟩
  · intro hwhole
    have hend := hshown.getAttr_end (haround.whole.trans hwhole) hscript' hfits ho
    have hnew := Convert.new_apply (b := b₂) (.int (v'.front.length + v'.lines.length - 1))
    refine ⟨_, _, hend, hnew.2.trans ?_⟩
    rw [haround.front, hfirst]
    congr 1
    omega
  · intro op q stop b'' hmeans herror
    exact perform_error ⟨hscript', cls, t, ho, hshown⟩ hcount hmeans herror
  · intro other hother
    rw [hothers other hother, heditor]

/-- A range of the last two of three lines is emptied, refuses a position, and gets a line. -/
theorem handle_behaves_as_list_emptied :
    let cells : Array Object := #[.proxy .method (.method (.buffer 1) .buffer "range"), .int 2,
      .int 3, .slice none none none, .int 0, .str "d"]
    let b : Bridge := { Bridge.fresh with
      editor := Bridge.fresh.editor.withLines 1 ["a", "b", "c"]
      handoff := { mode := .reentrant, side := .foreign }
      objects := { cells } }
    let v := ofRange ["a", "b", "c"] 2 3
    let command : String → Act BridgeError Unit := fun _ => pure ()
    ∃ log b₂, Work command 1 ⟨6⟩ (withRange b 1 2 3) log b₂ ∧
      log.map (·.2) = [some (.ok .nothing), some (.error .index), some (.ok .nothing)] ∧
      Shows command b 1 ⟨6⟩ 2 v { v with lines := ["d"] } b₂ := by
  intro cells b v command
  have hscript : b.InScript := ⟨rfl, rfl, rfl, rfl⟩
  obtain ⟨x, hx, hlines⟩ : ∃ x, b.editor.buffer? 1 = some x ∧ x.lines = ["a", "b", "c"] :=
    ⟨_, rfl, rfl⟩
  have hhandle : Handle command b 1 ⟨6⟩ 2 (ofRange x.lines 2 3) (withRange b 1 2 3) :=
    .range (m := ⟨0⟩) (i := ⟨1⟩) (j := ⟨2⟩) rfl hx rfl rfl rfl
  rw [hlines] at hhandle
  have hhandled := (hhandle.handled hscript).1
  have hcountable (lines : List String) (hle : lines.length ≤ 2) {b' : Bridge}
      (h : ({ v with lines } : LineList).Handled b' 1 ⟨6⟩) : Countable b' 1 := by
    refine h.countable ?_
    unfold Fits all Text.maxInt64
    rw [List.length_append, List.length_append]
    change ((1 + lines.length + 0 : Nat) : Int) ≤ _
    omega
  -- All lines of the range go.
  have hcount := hcountable v.lines (Nat.le_refl 2) hhandled
  have hdelete : Means (withRange b 1 2 3) ⟨6⟩ (.delete ⟨3⟩) (.delete (.between none none)) :=
    .delete rfl
  obtain ⟨-, hhandled₁, hbeside₁⟩ := perform_step command hhandled hcount hdelete
  have hwork₁ : Work command 1 ⟨6⟩ (withRange b 1 2 3) _ _ := .perform .start hcount hdelete
  generalize seen? _ = entry₁, final _ = b₁ at hhandled₁ hbeside₁ hwork₁
  -- There is no line at position zero.
  have hcount₁ := hcountable [] (Nat.zero_le 2) hhandled₁
  have hget : Means b₁ ⟨6⟩ (.get ⟨4⟩) (.get (.at 0)) :=
    .get (congrArg keyOf? (hbeside₁.objects.get ⟨4⟩ (by decide)))
  obtain ⟨-, hhandled₂, hbeside₂⟩ := perform_step command hhandled₁ hcount₁ hget
  have hwork₂ := Work.perform hwork₁ hcount₁ hget
  generalize seen? _ = entry₂, final _ = b₂ at hhandled₂ hbeside₂ hwork₂
  -- A line comes in.
  obtain ⟨m, y, -, helsewhere, happend⟩ := Handled.take_append hhandled₂
  have hhandled₂' := hhandled₂.elsewhere helsewhere
  have htext : (b₂.withNew y).objects.get ⟨5⟩ = .str "d" := by
    have hextends := (hbeside₁.objects.trans hbeside₂.objects).trans (b₂.grown_withNew y).objects
    exact hextends.get ⟨5⟩ (by decide)
  have happend' := happend ⟨5⟩ none
  rw [linesOf_str htext (by decide)] at happend'
  have hcount₂ := hcountable [] (Nat.zero_le 2) hhandled₂'
  obtain ⟨-, hhandled₃, -⟩ := perform_step command hhandled₂' hcount₂ happend'
  have hwork₃ := (Work.elsewhere hwork₂ helsewhere).perform hcount₂ happend'
  have hcount₃ := hcountable ["d"] (by decide) hhandled₃
  obtain ⟨hseen, hshows⟩ := handle_behaves_as_list hscript hhandle hwork₃ hcount₃
  exact ⟨_, _, hwork₃, hseen, hshows⟩

end LineList

end ScriptBridge
