import ScriptBridge.Proofs.Convert.Copying
import ScriptBridge.Proofs.Proxy.Operand

/-!
# Handles to lines

A buffer and a range of lines, as proxies handle them, behave like the list of their lines. A change
of the list changes these lines in the buffer, and the range ends where the list does.
-/

namespace ScriptBridge

open Foreign (ObjRef EndRef Object Objects ProxyClass Target Shape Slice)
open Host (Editor Change)
open ScriptBridge.Computation

/-- A script of the scripted interpreter runs, and the editor can be changed. -/
structure Bridge.InScript (b : Bridge) : Prop where
  scripted : b.interpreter.kind = .scripted
  attached : b.attached = true
  writable : b.Writable

/-- What was there stays, apart from the lines of one buffer. -/
structure Bridge.Beside (id : Nat) (b b' : Bridge) : Prop where
  inScript : b.InScript → b'.InScript
  buffers : ∀ other ≠ id, b'.editor.buffer? other = b.editor.buffer? other
  objects : b.objects.Extends b'.objects

/-- The end of a range. -/
def Foreign.Target.end? : Target → Option EndRef
  | .range _ _ last => some last
  | _ => none

theorem Bridge.moved_editor (b : Bridge) (last? : Option EndRef) (by_ : Int) :
    (b.moved last? by_).editor = b.editor := by
  cases last? <;> rfl

namespace Bridge.Beside

variable {id : Nat} {b b' b'' : Bridge}

theorem refl : b.Beside id b := ⟨fun h => h, fun _ _ => rfl, Nat.le_refl _, fun _ _ => rfl⟩

theorem trans (h : b.Beside id b') (h' : b'.Beside id b'') : b.Beside id b'' :=
  ⟨fun hb => h'.inScript (h.inScript hb),
    fun other hother => (h'.buffers other hother).trans (h.buffers other hother),
    h.objects.trans h'.objects⟩

theorem withNew (x : Object) : b.Beside id (b.withNew x) :=
  ⟨fun h => ⟨h.scripted, h.attached, h.writable.side, h.writable.loan⟩, fun _ _ => rfl,
    (b.grown_withNew x).objects⟩

theorem withLines (lines : List String) : b.Beside id (b.withLines id lines) :=
  ⟨fun h => ⟨h.scripted, h.attached, h.writable.side, h.writable.loan⟩,
    fun _ hother => Editor.buffer?_withLines_of_ne hother lines, Nat.le_refl _, fun _ _ => rfl⟩

theorem moved (last? : Option EndRef) (by_ : Int) : b.Beside id (b.moved last? by_) := by
  cases last? with
  | none => exact .refl
  | some last =>
    exact ⟨fun h => ⟨h.scripted, h.attached, h.writable.side, h.writable.loan⟩, fun _ _ => rfl,
      Nat.le_refl _, fun _ _ => rfl⟩

end Bridge.Beside

theorem Foreign.Objects.endOf_moveEnd {o : Objects} {last : EndRef} (h : last.id < o.ends.size)
    (by_ : Int64) : (o.moveEnd last by_).endOf last = o.endOf last + by_ := by
  unfold Objects.moveEnd Objects.endOf
  simp [Array.getD_eq_getD_getElem?, h]

namespace LineList

/-- A target stands for the lines of a list, in a buffer that consists of them and of the lines
around them. -/
inductive Bounds (b : Bridge) (id : Nat) (v : LineList) : ProxyClass → Target → Prop
  | buffer (hwhole : v.whole = true) (hfront : v.front = []) (hback : v.back = []) :
    Bounds b id v .buffer (.buffer id)
  | range {start : Int64} {last : EndRef} (hwhole : v.whole = false)
      (hstart : start.toInt = v.front.length + 1) (hexists : last.id < b.objects.ends.size)
      (hlast : b.objects.endOf last = Int64.ofInt (v.front.length + v.lines.length)) :
    Bounds b id v .range (.range id start last)

/-- A target shows a list. -/
structure Shown (b : Bridge) (id : Nat) (cls : ProxyClass) (t : Target) (v : LineList) : Prop where
  exists_lines : ∃ x, b.editor.buffer? id = some x ∧ x.lines = v.all
  bounds : v.Bounds b id cls t

/-- A list was changed, and nothing else. -/
structure Changed (b : Bridge) (id : Nat) (cls : ProxyClass) (t : Target) (v : LineList)
    (b' : Bridge) : Prop where
  shown : v.Shown b' id cls t
  beside : b.Beside id b'

/-- The lines of a buffer can be counted in 64 bits. -/
def Fits (v : LineList) : Prop := (v.all.length : Int) ≤ Text.maxInt64

/-- The lines of a list as a span. -/
def span (v : LineList) (id : Nat) (t : Target) : Proxy.Span where
  buffer := id
  before := v.front.length
  size := v.lines.length
  moving := t.end?

variable {b b' : Bridge} {id : Nat} {cls : ProxyClass} {t : Target} {v : LineList} {lo hi : Nat}

theorem Bounds.lines (h : v.Bounds b id cls t) : Proxy.Lines id cls t := by
  cases h with
  | buffer => exact .buffer
  | range => exact .range _ _

/-- The bounds of a list stay when objects are made. -/
theorem Shown.withNew (h : v.Shown b id cls t) (x : Object) : v.Shown (b.withNew x) id cls t := by
  obtain ⟨hlines, hbounds⟩ := h
  refine ⟨hlines, ?_⟩
  cases hbounds with
  | buffer hwhole hfront hback => exact .buffer hwhole hfront hback
  | range hwhole hstart hexists hlast => exact .range hwhole hstart hexists hlast

theorem Changed.withNew (h : v.Changed b id cls t b') (x : Object) :
    v.Changed b id cls t (b'.withNew x) :=
  ⟨h.shown.withNew x, h.beside.trans (.withNew x)⟩

theorem length_le_of_fits (h : v.Fits) :
    ((v.front.length : Int) + v.lines.length + v.back.length) ≤ Text.maxInt64 := by
  unfold Fits all at h
  rw [List.length_append, List.length_append] at h
  omega

/-- A target resolves to the lines of its list. -/
theorem Shown.span_apply (h : v.Shown b id cls t) (hfits : v.Fits) (hloan : b.loan ≠ .exclusive) :
    Proxy.span t b = .ok (v.span id t) b := by
  obtain ⟨x, hx, hall⟩ := h.exists_lines
  have hlength : x.lines.length = v.front.length + v.lines.length + v.back.length := by
    rw [hall, all, List.length_append, List.length_append]
  have hle := length_le_of_fits hfits
  cases h.bounds with
  | buffer hwhole hfront hback =>
    rw [Proxy.span_buffer_apply hloan hx]
    unfold span
    rw [hlength, hfront, hback]
    simp [Foreign.Target.end?]
  | @range start last hwhole hstart hexists hlast =>
    have hbefore : Proxy.linesBefore start = v.front.length := by
      unfold Proxy.linesBefore
      omega
    have hend : (b.objects.endOf last).toInt = v.front.length + v.lines.length := by
      rw [hlast, Int64.toInt_ofInt_of_le]
      · omega
      · unfold Text.maxInt64 at hle
        omega
    rw [Proxy.span_range_apply hloan hx, hbefore, hend, if_neg (by omega)]
    unfold span
    congr 2
    omega

/-- The end of a range moves with the lines that come and go. -/
theorem Bounds.replace (h : v.Bounds b id cls t) (hlo : lo ≤ hi) (hhi : hi ≤ v.lines.length)
    (new lines : List String) : (v.replace lo hi new).Bounds
      ((b.withLines id lines).moved t.end? (new.length - ((hi : Int) - lo))) id cls t := by
  cases h with
  | buffer hwhole hfront hback =>
    refine .buffer ((withLines_whole _).trans hwhole) ((withLines_front _).trans hfront) ?_
    rcases withLines_back (v := v) (v.lines.take lo ++ new ++ v.lines.drop hi) with h | ⟨h, -⟩
    · exact h.trans hback
    · rw [hwhole] at h
      cases h
  | @range start last hwhole hstart hexists hlast =>
    have hfront : (v.replace lo hi new).front = v.front := withLines_front _
    have hlines : (v.replace lo hi new).lines = v.lines.take lo ++ new ++ v.lines.drop hi :=
      withLines_lines hwhole _
    have hlength : ((v.replace lo hi new).lines.length : Int) =
        v.lines.length + (new.length - ((hi : Int) - lo)) := by
      rw [hlines, List.length_append, List.length_append, List.length_take, List.length_drop]
      omega
    refine .range ((withLines_whole _).trans hwhole) (by rw [hfront, hstart]) ?_ ?_
    · exact Nat.lt_of_lt_of_eq hexists Array.size_setIfInBounds.symm
    · refine (Objects.endOf_moveEnd hexists _).trans ?_
      rw [hlast, ← Int64.ofInt_add, hfront, hlength, Int.add_assoc]

/-- What replacing a part of the list does. -/
theorem Shown.replace (h : v.Shown b id cls t) (hscript : b.InScript) (hlo : lo ≤ hi)
    (hhi : hi ≤ v.lines.length) (new : List String) :
    ∃ b', (v.span id t).replace lo hi new b = .ok () b' ∧
      (v.replace lo hi new).Changed b id cls t b' := by
  obtain ⟨x, hx, hall⟩ := h.exists_lines
  have hlength : x.lines.length = v.front.length + v.lines.length + v.back.length := by
    rw [hall, all, List.length_append, List.length_append]
  have hinside : (v.span id t).before + hi ≤ x.lines.length := by
    change v.front.length + hi ≤ x.lines.length
    omega
  have hlines : Change.spliced x.lines (v.front.length + lo) (v.front.length + hi) new =
      (v.replace lo hi new).all := by
    rw [replace_all hlo hhi, hall]
  refine ⟨_, Proxy.Span.replace_apply hscript.writable hx hlo hinside new, ⟨?_, ?_⟩, ?_⟩
  · refine ⟨{ x with lines := _, changed := true }, ?_, hlines⟩
    rw [Bridge.moved_editor]
    exact Editor.buffer?_withLines_self hx _
  · exact h.bounds.replace hlo hhi new _
  · exact .trans (.withLines _) (.moved _ _)

/-! ### What is given -/

/-- The text that is under a reference. -/
def textAt? (o : Objects) (r : ObjRef) : Option String :=
  match o.get r with
  | .str s => some s
  | _ => none

/-- What an object gives to a script. -/
def given? (o : Objects) (r : ObjRef) : Option Given :=
  match o.get r with
  | .null => some .nothing
  | .str s => some (.text s)
  | .list rs => (rs.mapM (textAt? o)).map .texts
  | _ => none

/-- An object gives what an operation on the list gives, and the list is as after the operation. -/
structure Answered (b : Bridge) (id : Nat) (cls : ProxyClass) (t : Target) (p : Given × LineList)
    (r : ObjRef) (b' : Bridge) : Prop where
  given : given? b'.objects r = some p.1
  changed : p.2.Changed b id cls t b'

/-- A new object gives what it is. -/
theorem Changed.answered (h : v.Changed b id cls t b') {x : Object} {g : Given}
    (hgiven : given? (b'.withNew x).objects (b'.objects.alloc x).1 = some g) :
    Answered b id cls t (g, v) (b'.objects.alloc x).1 (b'.withNew x) :=
  ⟨hgiven, h.withNew x⟩

/-- A reference to the object of a line. -/
def IsLine (o : Objects) (line : String) (r : ObjRef) : Prop :=
  r.id < o.cells.size ∧ o.get r = .str (Convert.shownLine line)

theorem IsLine.extends {o o' : Objects} (h : o.Extends o') {line : String} {r : ObjRef}
    (hr : IsLine o line r) : IsLine o' line r :=
  ⟨Nat.lt_of_lt_of_le hr.1 h.size_le, (h.get r hr.1).trans hr.2⟩

theorem mapM_textAt? {o : Objects} {lines : List String} {rs : List ObjRef}
    (h : List.Forall₂ (IsLine o) lines rs) :
    rs.mapM (textAt? o) = some (lines.map Convert.shownLine) := by
  induction h with
  | nil => rfl
  | @cons line r lines rs hr _ ih =>
    rw [List.mapM_cons, ih, textAt?, hr.2]
    rfl

/-- New objects for lines. -/
theorem mapM_lineToForeign (h : v.Changed b id cls t b') (lines : List String) :
    ∃ rs b'', (lines.mapM fun line => (Convert.lineToForeign line : Act ConvertError ObjRef)) b' =
        .ok rs b'' ∧
      v.Changed b id cls t b'' ∧ List.Forall₂ (IsLine b''.objects) lines rs ∧
      b'.objects.Extends b''.objects := by
  induction lines generalizing b' with
  | nil => exact ⟨[], b', rfl, h, .nil, Nat.le_refl _, fun _ _ => rfl⟩
  | cons line lines ih =>
    obtain ⟨rs, b'', hrs, hchanged, hlines, hextends⟩ :=
      ih (h.withNew (.str (Convert.shownLine line)))
    have hnew := Convert.new_apply (b := b') (.str (Convert.shownLine line))
    have hline : IsLine b''.objects line (b'.objects.alloc (.str (Convert.shownLine line))).1 :=
      IsLine.extends hextends hnew
    refine ⟨_ :: rs, b'', ?_, hchanged, .cons hline hlines,
      (b'.grown_withNew _).objects.trans hextends⟩
    rw [List.mapM_cons, bind_apply]
    change ((lines.mapM _ >>= _) : Act ConvertError _) (b'.withNew _) = _
    rw [bind_apply, hrs]
    rfl

theorem linesToForeign_obeys (h : v.Changed b id cls t b') (lines : List String) :
    ∃ r b'', Convert.linesToForeign lines b' = .ok r b'' ∧
      Answered b id cls t (.texts (lines.map Convert.shownLine), v) r b'' := by
  obtain ⟨rs, b'', hrs, hchanged, hlines, -⟩ := mapM_lineToForeign h lines
  have hnew := Convert.new_apply (b := b'') (.list rs)
  refine ⟨(b''.objects.alloc (.list rs)).1, b''.withNew (.list rs), ?_, hchanged.answered ?_⟩
  · unfold Convert.linesToForeign
    rw [bind_apply, hrs]
    rfl
  · have hlines' := hlines.imp fun _ _ => IsLine.extends (b''.grown_withNew (.list rs)).objects
    rw [given?, hnew.2]
    dsimp only
    rw [mapM_textAt? hlines']
    rfl

end LineList

end ScriptBridge
