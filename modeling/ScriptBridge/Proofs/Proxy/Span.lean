import ScriptBridge.Proofs.Proxy.Access

/-!
# What spans do

A span is resolved from the lines of its buffer. The span of a range lies inside the buffer as long
as the range does not start past the line after the last one; past that line the range breaks down.
-/

namespace ScriptBridge

open Foreign (ObjRef EndRef Target Slice)
open Host (Buffer Editor Change)
open ScriptBridge.Computation

namespace Bridge

/-- The bridge with other lines in a buffer. -/
def withLines (b : Bridge) (id : Nat) (lines : List String) : Bridge :=
  { b with editor := b.editor.withLines id lines }

/-- The bridge with a moved end of a range, if there is an end to move. -/
def moved (b : Bridge) (last? : Option EndRef) (by_ : Int) : Bridge :=
  match last? with
  | some last => { b with objects := b.objects.moveEnd last (Int64.ofInt by_) }
  | none => b

/-- A script runs and the editor is not in use elsewhere, so that the editor can be changed. -/
structure Writable (b : Bridge) : Prop where
  side : b.handoff.side = .foreign
  loan : b.loan = .free

variable {b : Bridge} {id : Nat} {x : Buffer}

theorem Writable.not_exclusive (hb : b.Writable) : b.loan ≠ .exclusive := by
  rw [hb.loan]
  nofun

/-- What a script does to the editor is what the editor operation does, when nothing is destroyed. -/
theorem hostWrite_apply {α : Type} {c : Change α} {y : α} {e : Editor} (hb : b.Writable)
    (hc : c b.editor = .ok y e) (hdeparted : e.departed = b.editor.departed) :
    hostWrite c b = .ok y { b with editor := e } := by
  have hchange : change c b = .ok y { b with editor := e } := by
    rw [change, hc]
    exact congrArg (EStateM.Result.ok y) (withEditor_eq hdeparted)
  unfold hostWrite demandEditor
  simp only [bind_apply, get_apply, hb.side, hb.loan, ne_eq, not_true_eq_false, if_false,
    pure_apply, Act.mapError, hchange]

end Bridge

namespace Host.Editor

variable {e : Editor} {id : Nat} {x : Buffer}

/-- Finding a buffer after one was changed. -/
theorem buffer?_mapBuffer (e : Editor) (id other : Nat) {f : Buffer → Buffer}
    (hf : ∀ y, (f y).number = y.number) :
    (e.mapBuffer id f).buffer? other =
      (e.buffer? other).map fun y => if y.number = id then f y else y := by
  unfold buffer? mapBuffer
  dsimp only
  rw [List.find?_map]
  congr 2
  funext y
  dsimp only [Function.comp]
  split
  · rw [hf]
  · rfl

/-- A buffer has the lines that it was given. -/
theorem buffer?_withLines_self (hx : e.buffer? id = some x) (lines : List String) :
    (e.withLines id lines).buffer? id = some { x with lines, changed := true } := by
  have hnumber : x.number = id := by simpa using List.find?_some hx
  have hmap := buffer?_mapBuffer e id id
    (f := fun y => { y with lines, changed := true }) fun _ => rfl
  rw [hx, Option.map_some, if_pos hnumber] at hmap
  exact hmap

/-- The other buffers stay as they are. -/
theorem buffer?_withLines_of_ne {other : Nat} (h : other ≠ id) (lines : List String) :
    (e.withLines id lines).buffer? other = e.buffer? other := by
  have hmap := buffer?_mapBuffer e id other
    (f := fun y => { y with lines, changed := true }) fun _ => rfl
  refine hmap.trans ?_
  cases hy : e.buffer? other with
  | none => rfl
  | some y =>
    have hnumber : y.number = other := by simpa using List.find?_some hy
    rw [Option.map_some, if_neg (hnumber ▸ h)]

end Host.Editor

namespace Proxy

namespace Span

/-- The first line of a span, counted from one. -/
def first (s : Span) : Nat := s.before + 1

/-- The last line of a span, counted from one; in front of the first one if the span is empty. -/
def last (s : Span) : Nat := s.before + s.size

/-- A span lies in the lines of its buffer. -/
structure Inside (s : Span) (e : Editor) : Prop where
  one_le_first : 1 ≤ s.first
  first_le : s.first - 1 ≤ s.last
  exists_lines : ∃ x, e.buffer? s.buffer = some x ∧ s.last ≤ x.lines.length

end Span

section

variable {b : Bridge} {id : Nat} {x : Buffer} {start : Int64} {last : EndRef}

/-- How many lines are in front of a range. -/
def linesBefore (start : Int64) : Nat := (max start.toInt 1 - 1).toNat

/-- A range starts past the line after the last one of its buffer. -/
def Stale (b : Bridge) (id : Nat) (start : Int64) : Prop :=
  b.loan ≠ .exclusive ∧ ∃ x, b.editor.buffer? id = some x ∧ x.lines.length < linesBefore start

theorem rangeSize?_eq (start last : Int64) (count : Nat) :
    rangeSize? start.toInt last.toInt count =
      if count < linesBefore start then none
      else some ((max (linesBefore start : Int) (min last.toInt count)).toNat - linesBefore start) := by
  unfold rangeSize? linesBefore
  dsimp only
  have hstart : 0 ≤ max start.toInt 1 - 1 := by omega
  by_cases h : (count : Int) < max start.toInt 1 - 1
  · rw [if_pos h, if_pos (by omega)]
  · rw [if_neg h, if_neg (by omega)]
    congr 1
    omega

theorem span_buffer_apply (hloan : b.loan ≠ .exclusive) (hx : b.editor.buffer? id = some x) :
    span (.buffer id) b = .ok { buffer := id, before := 0, size := x.lines.length } b := by
  unfold span
  simp only [bind_apply, readEditor_apply hloan, hx, pure_apply]

/-- The span of a range, from the number of lines of the buffer and the end of the range. -/
theorem span_range_apply (hloan : b.loan ≠ .exclusive) (hx : b.editor.buffer? id = some x) :
    span (.range id start last) b =
      if x.lines.length < linesBefore start then .error .crash b
      else .ok
        { buffer := id
          before := linesBefore start
          size := (max (linesBefore start : Int)
            (min (b.objects.endOf last).toInt x.lines.length)).toNat - linesBefore start
          moving := some last } b := by
  unfold span
  simp only [bind_apply, readEditor_apply hloan, hx, get_apply, rangeSize?_eq]
  split <;> rfl

/-- A range is refused while the editor is lent out or if the buffer is gone. -/
theorem span_range_cases (id : Nat) (start : Int64) (last : EndRef) (b : Bridge) :
    (∃ e, span (.range id start last) b = .error (.error e) b) ∨
      b.loan ≠ .exclusive ∧ ∃ x, b.editor.buffer? id = some x := by
  by_cases hloan : b.loan = .exclusive
  · refine .inl ⟨.host busyText, ?_⟩
    unfold span
    rw [bind_apply, readEditor_busy hloan]
  cases hx : b.editor.buffer? id with
  | none =>
    refine .inl ⟨bufferGone, ?_⟩
    unfold span
    simp only [bind_apply, readEditor_apply hloan, hx]
    rfl
  | some x => exact .inr ⟨hloan, x, rfl⟩

/-- Resolving a range breaks down exactly when the range starts past the line after the last one. -/
theorem span_range_crashes_iff :
    (∃ b', span (.range id start last) b = .error .crash b') ↔ Stale b id start := by
  constructor
  · rintro ⟨b', h⟩
    obtain ⟨e, he⟩ | ⟨hloan, x, hx⟩ := span_range_cases id start last b
    · rw [he] at h
      cases h
    · rw [span_range_apply hloan hx] at h
      split at h
      · rename_i hlt
        exact ⟨hloan, x, hx, hlt⟩
      · cases h
  · rintro ⟨hloan, x, hx, hlt⟩
    exact ⟨b, by rw [span_range_apply hloan hx, if_pos hlt]⟩

/-- A range that resolves to a span changes nothing, and the span lies inside the buffer. -/
theorem span_range_inside {s : Span} {b' : Bridge}
    (h : span (.range id start last) b = .ok s b') :
    b' = b ∧ s.buffer = id ∧ s.first = max start.toInt 1 ∧ s.Inside b.editor := by
  obtain ⟨e, he⟩ | ⟨hloan, x, hx⟩ := span_range_cases id start last b
  · rw [he] at h
    cases h
  · rw [span_range_apply hloan hx] at h
    split at h
    · cases h
    · rename_i hle
      obtain ⟨rfl, rfl⟩ := EStateM.Result.ok.inj h
      refine ⟨rfl, rfl, ?_, ?_, ?_, x, hx, ?_⟩
      · simp only [Span.first, linesBefore]
        omega
      · simp [Span.first]
      · simp only [Span.first, Span.last]
        omega
      · simp only [Span.last]
        omega

/-- What replacing lines of a span does. -/
theorem Span.replace_apply {s : Span} {lo hi : Nat} (hb : b.Writable)
    (hx : b.editor.buffer? s.buffer = some x) (hlo : lo ≤ hi)
    (hhi : s.before + hi ≤ x.lines.length) (new : List String) :
    s.replace lo hi new b = .ok ()
      ((b.withLines s.buffer (Change.spliced x.lines (s.before + lo) (s.before + hi) new)).moved
        s.moving (new.length - ((hi : Int) - lo))) := by
  have hchange : Change.replaceLines s.buffer (s.before + lo) (s.before + hi) new b.editor =
      .ok () (b.editor.withLines s.buffer
        (Change.spliced x.lines (s.before + lo) (s.before + hi) new)) := by
    rw [Change.replaceLines_eq, hx]
    dsimp only
    rw [if_neg (by simp; omega)]
  unfold Span.replace
  rw [bind_apply, Bridge.hostWrite_apply hb hchange rfl]
  unfold Span.moveEnd Bridge.moved
  cases s.moving <;> rfl

/-- Reading lines of a span. -/
theorem Span.lines_apply {s : Span} (hloan : b.loan ≠ .exclusive)
    (hx : b.editor.buffer? s.buffer = some x) (lo hi : Nat) :
    s.lines lo hi b = .ok ((x.lines.drop (s.before + lo)).take (hi - lo)) b := by
  unfold Span.lines
  simp only [bind_apply, readEditor_apply hloan, hx, pure_apply]

end

/-! ### What reading leaves as it was -/

section

variable {ε α : Type} {b b' : Bridge} {cls : Foreign.ProxyClass} {t : Target} {k : ObjRef}

theorem keeps_readEditor : Bridge.readEditor.Keeps id := by
  refine .bind .get fun b => ?_
  split
  · exact .fail _
  · exact .pure _

theorem keeps_span (t : Target) : (span t).Keeps id := by
  refine .bind keeps_readEditor fun e => ?_
  split
  · split
    · exact .pure _
    · exact .fail _
  · split
    · exact .fail _
    · refine .bind .get fun b => ?_
      dsimp only
      split
      · exact .pure _
      · exact fun _ => rfl
  · exact .fail _

theorem keeps_ofExcept (x : Except ε α) : (Act.ofExcept x).Keeps id := by
  cases x with
  | ok y => exact .pure y
  | error e => exact .fail e

theorem keeps_inspect (k : ObjRef) :
    (liftM (Bridge.inspect k) : Act ProxyError Foreign.Shape).Keeps id :=
  .mapError (.bind .get fun _ => keeps_ofExcept _) _

/-- A span of lines lies in the lines of its buffer. -/
theorem Lines.span_inside {n : Nat} {s : Span} (ht : Lines n cls t)
    (h : span t b = .ok s b') :
    s.buffer = n ∧ ∃ x, b.editor.buffer? n = some x ∧ s.before + s.size ≤ x.lines.length := by
  cases ht with
  | buffer =>
    have hloan : b.loan ≠ .exclusive := by
      intro hloan
      unfold span at h
      rw [bind_apply, readEditor_busy hloan] at h
      cases h
    cases hx : b.editor.buffer? n with
    | none =>
      unfold span at h
      rw [readEditor_bind_apply hloan] at h
      dsimp only at h
      rw [hx] at h
      cases h
    | some x =>
      rw [span_buffer_apply hloan hx] at h
      obtain ⟨rfl, -⟩ := EStateM.Result.ok.inj h
      exact ⟨rfl, x, rfl, Nat.le_of_eq (Nat.zero_add _)⟩
  | range start last =>
    obtain ⟨rfl, hbuffer, -, hinside⟩ := span_range_inside h
    obtain ⟨x, hx, hle⟩ := hinside.exists_lines
    exact ⟨hbuffer, x, hbuffer ▸ hx, hle⟩

theorem keeps_check (s : Span) (i : Int) : (s.check i).Keeps id := by
  unfold Span.check
  split
  · exact .pure _
  · exact .fail _

/-- A computation that changes nothing ends where it started. -/
theorem same_of_keeps {a : Act ε α} {y : α} (ha : a.Keeps id)
    (h : a b = .ok y b') : b = b' := by
  have hsame := ha b
  rw [h] at hsame
  exact hsame.symm

theorem check_ok {s : Span} {j : Int} {i : Nat} (h : s.check j b = .ok i b') :
    j = i ∧ i < s.size := by
  unfold Span.check at h
  split at h
  · rename_i hj
    obtain ⟨rfl, -⟩ := EStateM.Result.ok.inj h
    simp only [Bool.and_eq_true, decide_eq_true_eq] at hj
    omega
  · cases h

theorem ofExcept_ok {r : Except ε α} {y : α} (h : Act.ofExcept r b = .ok y b') :
    r = .ok y ∧ b = b' := by
  cases r with
  | ok z =>
    obtain ⟨rfl, rfl⟩ := EStateM.Result.ok.inj h
    exact ⟨rfl, rfl⟩
  | error e => cases h

theorem inspect_ok {key : Foreign.Shape}
    (h : (liftM (Bridge.inspect k) : Act ProxyError Foreign.Shape) b = .ok key b') :
    (b.objects.get k).shape = .ok key ∧ b = b' := by
  obtain rfl := same_of_keeps (keeps_inspect k) h
  change Act.mapError _ (Bridge.inspect k) b = _ at h
  unfold Act.mapError Bridge.inspect at h
  rw [bind_apply, get_apply] at h
  dsimp only at h
  cases hk : (b.objects.get k).shape with
  | ok y =>
    rw [hk] at h
    obtain ⟨rfl, -⟩ := EStateM.Result.ok.inj h
    exact ⟨rfl, rfl⟩
  | error e =>
    rw [hk] at h
    cases h

end

end Proxy

end ScriptBridge
