import ScriptBridge.Proofs.Convert.Objects
import ScriptBridge.Proofs.Proxy.LineHandle

/-!
# Operations of handles to lines

Reading, assigning to and appending to a buffer or a range of its lines comes to what the operation
on the list of these lines comes to.
-/

namespace ScriptBridge

open Foreign (ObjRef Object Objects ProxyClass Target Shape Slice)
open ScriptBridge.Computation

namespace LineList

variable {b b' : Bridge} {id : Nat} {cls : ProxyClass} {t : Target} {v : LineList} {lo hi : Nat}
  {k : ObjRef} {key : Key}

/-- Items that are given in place of what a key takes. Nothing is given when it is deleted. -/
def newOf (o : Objects) : Key → Option ObjRef → Except ExceptionKind (List String)
  | _, none => .ok []
  | .at _, some r => do return [← lineOf o r]
  | .between .., some r => linesOf o r

/-- A change is made, and the list is as after the operation. -/
def Done (b : Bridge) (id : Nat) (cls : ProxyClass) (t : Target) (p : Given × LineList) (_ : Unit)
    (b' : Bridge) : Prop := p.1 = .nothing ∧ p.2.Changed b id cls t b'

/-! ### Keys -/

/-- Positions are found as in a list. -/
theorem position_obeys {n : Int} (hn : Text.fitsInt64 n = true) (len : Nat) :
    Obeys ProxyError.exceptionKind b (Gives b) (position len n)
      (Act.ofExcept (Proxy.position n len) b) := by
  unfold position Proxy.position
  dsimp only
  generalize (if n < 0 then n + (len : Int) else n) = j
  rw [if_neg (by simp [hn])]
  by_cases hin : 0 ≤ j ∧ j < len
  · rw [if_pos hin, if_neg (by simp; omega)]
    exact .pure _
  · rw [if_neg hin, if_pos (by simp; omega)]
    exact .error (ProxyError.index _)

theorem inspect_large {i : Int} (hk : b.objects.get k = .int i) (hfits : ¬Text.fitsInt64 i = true) :
    (liftM (Bridge.inspect k) : Act ProxyError Shape) b =
      .error (.error (.foreign Foreign.tooLarge)) b := by
  change Act.mapError ProxyError.foreign (Bridge.inspect k) b = _
  unfold Act.mapError Bridge.inspect
  rw [bind_apply, get_apply]
  dsimp only
  rw [hk, Object.shape, if_neg hfits]
  rfl

theorem position_large {i : Int} (hfits : ¬Text.fitsInt64 i = true) (len : Nat) :
    position len i = .error .overflow := by
  unfold position
  dsimp only
  rw [if_pos (by simpa using hfits)]

/-- A key that is an integer is looked at, and then taken as a position. -/
theorem inspect_int_obeys {α β : Type} {post : β → α → Bridge → Prop} {i : Int} {len : Nat}
    {f : Shape → Act ProxyError α} {g : Nat → Except ExceptionKind β}
    (hk : b.objects.get k = .int i)
    (hf : Text.fitsInt64 i = true →
      Obeys ProxyError.exceptionKind b post (position len i >>= g) (f (.int (Int64.ofInt i)) b)) :
    Obeys ProxyError.exceptionKind b post (position len i >>= g)
      (((liftM (Bridge.inspect k) : Act ProxyError Shape) >>= f) b) := by
  by_cases hfits : Text.fitsInt64 i = true
  · have hshape : (b.objects.get k).shape = .ok (.int (Int64.ofInt i)) := by
      rw [hk, Object.shape, if_pos hfits]
    rw [bind_apply, Proxy.inspect_apply hshape]
    exact hf hfits
  · rw [bind_apply, inspect_large hk hfits, position_large hfits]
    exact .error (ProxyError.foreign Foreign.tooLarge)

theorem int_of_keyOf? {x : Object} {i : Int} (hx : keyOf? x = some (.at i)) : x = .int i := by
  unfold keyOf? at hx
  split at hx
  · cases hx
    rfl
  · cases hx
  · split at hx <;> cases hx
  · cases hx

/-- A bound of a slice with step one is found as in a list. -/
theorem clampBound_eq {s : Slice} (hstep : s.step = 1) {len : Nat}
    (hlen : (len : Int) ≤ Text.maxInt64) (i : Int) : (s.clampBound len len (max Text.minInt64 (min Text.maxInt64 i))).toNat =
      bound len i := by
  have hforward : ¬s.step < 0 := by omega
  unfold Slice.clampBound bound Text.minInt64
  unfold Text.maxInt64 at hlen ⊢
  rw [if_neg hforward]
  split
  · split <;> split <;> omega
  · split <;> split <;> omega

/-- A slice with step one takes the same part of the lines as of a list. -/
theorem contiguous_of_keyOf? {x : Object} {start stop : Option Int}
    (hx : keyOf? x = some (.between start stop)) :
    ∃ bounds, x.shape = .ok (.slice bounds) ∧ ∀ len : Nat, (len : Int) ≤ Text.maxInt64 →
      ∃ lo hi, (Key.between start stop).part len = .ok (lo, hi) ∧
        bounds.contiguous? len = some (lo, hi) := by
  have hstep : ∃ step, x = .slice start stop step ∧ (step = none ∨ step = some 1) := by
    unfold keyOf? at hx
    split at hx
    · cases hx
    · cases hx
      exact ⟨none, rfl, .inl rfl⟩
    · split at hx
      · rename_i hone
        cases hx
        exact ⟨_, rfl, .inr (congrArg some hone)⟩
      · cases hx
    · cases hx
  let bounds : Slice :=
    { start := (start.map fun i => max Text.minInt64 (min Text.maxInt64 i)).getD 0
      stop := (stop.map fun i => max Text.minInt64 (min Text.maxInt64 i)).getD Text.maxInt64
      step := 1 }
  have hshape : x.shape = .ok (.slice bounds) := by
    obtain ⟨step, rfl, rfl | rfl⟩ := hstep <;> rfl
  refine ⟨bounds, hshape, fun len hlen => ?_⟩
  have hstart : (bounds.clampBound len len bounds.start).toNat =
      (start.map (bound len)).getD 0 := by
    cases start with
    | none =>
      change (bounds.clampBound len len 0).toNat = 0
      unfold Slice.clampBound
      rw [if_neg (Int.lt_irrefl 0)]
      split <;> omega
    | some i => exact clampBound_eq rfl hlen i
  have hstop : (bounds.clampBound len len bounds.stop).toNat =
      (stop.map (bound len)).getD len := by
    cases stop with
    | none =>
      change (bounds.clampBound len len Text.maxInt64).toNat = len
      unfold Slice.clampBound
      rw [if_neg (by decide), if_pos hlen]
      rfl
    | some i => exact clampBound_eq rfl hlen i
  refine ⟨_, _, rfl, ?_⟩
  have hcontiguous : bounds.contiguous? len =
      some ((bounds.clampBound len len bounds.start).toNat,
        max (bounds.clampBound len len bounds.stop).toNat
          (bounds.clampBound len len bounds.start).toNat) := rfl
  rw [hcontiguous, hstart, hstop, Nat.max_comm]

theorem lines_length_le (h : v.Fits) : (v.lines.length : Int) ≤ Text.maxInt64 := by
  have hle := length_le_of_fits h
  omega

theorem drop_take_all (hlo : lo ≤ hi) (hhi : hi ≤ v.lines.length) :
    (v.all.drop (v.front.length + lo)).take (hi - lo) = (v.lines.drop lo).take (hi - lo) := by
  rw [all, List.append_assoc, List.drop_length_add_append,
    List.drop_append_of_le_length (Nat.le_trans hlo hhi), List.take_append_of_le_length]
  rw [List.length_drop]
  omega

theorem check_apply {n : Nat} (hn : n < v.lines.length) :
    (v.span id t).check n b = .ok n b := by
  unfold Proxy.Span.check
  rw [if_pos (by simpa [span] using hn)]
  rfl

theorem lines_apply (hloan : b.loan ≠ .exclusive) (h : v.Shown b id cls t) (hlo : lo ≤ hi)
    (hhi : hi ≤ v.lines.length) :
    (v.span id t).lines lo hi b = .ok ((v.lines.drop lo).take (hi - lo)) b := by
  obtain ⟨x, hx, hall⟩ := h.exists_lines
  rw [Proxy.Span.lines_apply hloan hx, hall]
  exact congrArg (EStateM.Result.ok · b) (drop_take_all hlo hhi)

/-! ### Reading -/

theorem length_apply (hloan : b.loan ≠ .exclusive) (h : v.Shown b id cls t) (hfits : v.Fits) :
    Proxy.length cls t b = .ok v.lines.length b := by
  rw [h.bounds.lines.length_eq, bind_apply, h.span_apply hfits hloan]
  rfl

theorem item_apply (hloan : b.loan ≠ .exclusive) (h : v.Shown b id cls t) (hfits : v.Fits) {n : Nat}
    (hn : n < v.lines.length) : Proxy.item cls t n b =
      .ok (b.objects.alloc (.str (Convert.shownLine v.lines[n]))).1
        (b.withNew (.str (Convert.shownLine v.lines[n]))) := by
  have hhead : ((v.lines.drop n).take (n + 1 - n)).head?.getD "" = v.lines[n] := by
    rw [Nat.add_sub_cancel_left, List.head?_take, if_neg Nat.one_ne_zero, List.head?_drop,
      List.getElem?_eq_getElem hn]
    rfl
  rw [h.bounds.lines.item_eq, bind_apply, h.span_apply hfits hloan]
  unfold Proxy.Span.item
  dsimp only
  rw [bind_apply, check_apply hn]
  dsimp only
  rw [bind_apply, lines_apply hloan h (Nat.le_succ n) hn]
  dsimp only
  rw [hhead]
  rfl

/-- There is no item behind the last one. -/
theorem item_outside (hloan : b.loan ≠ .exclusive) (h : v.Shown b id cls t) (hfits : v.Fits) :
    Proxy.item cls t v.lines.length b = .error (.error Proxy.lineOutside) b := by
  have hcheck : (v.span id t).check v.lines.length b = .error (.error Proxy.lineOutside) b := by
    unfold Proxy.Span.check
    rw [if_neg (by simp [span])]
    rfl
  rw [h.bounds.lines.item_eq, bind_apply, h.span_apply hfits hloan]
  unfold Proxy.Span.item
  dsimp only
  rw [bind_apply, hcheck]

section

variable (hscript : b.InScript) (h : v.Shown b id cls t) (hfits : v.Fits)

include hscript h hfits

theorem item_obeys {n : Nat} (hn : n < v.lines.length) :
    ∃ r b', Proxy.item cls t n b = .ok r b' ∧
      Answered b id cls t (.text (Convert.shownLine (v.lines.getD n "")), v) r b' := by
  have hline : v.lines.getD n "" = v.lines[n] := by
    rw [List.getD_eq_getElem?_getD, List.getElem?_eq_getElem hn]
    rfl
  have hnew := Convert.new_apply (b := b) (.str (Convert.shownLine v.lines[n]))
  have hsame : v.Changed b id cls t b := ⟨h, .refl⟩
  rw [hline]
  exact ⟨_, _, item_apply hscript.writable.not_exclusive h hfits hn,
    hsame.answered (by rw [given?, hnew.2])⟩

theorem sliceOf_obeys {bounds : Slice} (hlo : lo ≤ hi) (hhi : hi ≤ v.lines.length)
    (hcontiguous : bounds.contiguous? v.lines.length = some (lo, hi)) :
    ∃ r b', Proxy.sliceOf cls t bounds b = .ok r b' ∧ Answered b id cls t
      (.texts (((v.lines.drop lo).take (hi - lo)).map Convert.shownLine), v) r b' := by
  have hspan := h.span_apply hfits hscript.writable.not_exclusive
  have hsame : v.Changed b id cls t b := ⟨h, .refl⟩
  obtain ⟨r, b', hlist, hanswered⟩ := linesToForeign_obeys hsame ((v.lines.drop lo).take (hi - lo))
  have hpart : bounds.contiguous? (v.span id t).size = some (lo, hi) := hcontiguous
  refine ⟨r, b', ?_, hanswered⟩
  rw [h.bounds.lines.sliceOf_eq, bind_apply, hspan]
  unfold Proxy.Span.slice
  dsimp only
  rw [hpart]
  dsimp only
  rw [bind_apply, lines_apply hscript.writable.not_exclusive h hlo hhi]
  change Act.mapError ProxyError.convert (Convert.linesToForeign _) b = _
  rw [Act.mapError, hlist]

/-- Reading an item or a slice. -/
theorem subscript_obeys (hk : keyOf? (b.objects.get k) = some key) :
    Obeys ProxyError.exceptionKind b (Answered b id cls t) (v.apply (.get key))
      (Proxy.subscript cls t k b) := by
  have hcls := h.bounds.lines.isSequence
  have ht := h.bounds.lines.isPositional
  cases key with
  | «at» i =>
    rw [Proxy.subscript_eq hcls ht]
    refine inspect_int_obeys (int_of_keyOf? hk) fun hi => ?_
    dsimp only
    rw [bind_apply, length_apply hscript.writable.not_exclusive h hfits]
    dsimp only
    rw [Text.toInt_ofInt hi]
    refine .bind (position_obeys hi _) fun n hn => ?_
    obtain ⟨r, b', hitem, hanswered⟩ := item_obeys hscript h hfits (position_le hn)
    rw [hitem]
    exact .ok hanswered
  | between start stop =>
    obtain ⟨bounds, hshape, hpart⟩ := contiguous_of_keyOf? hk
    obtain ⟨lo, hi, hkey, hcontiguous⟩ := hpart _ (lines_length_le hfits)
    obtain ⟨hlo, hhi⟩ := Key.part_le hkey
    obtain ⟨r, b', hslice, hanswered⟩ := sliceOf_obeys hscript h hfits hlo hhi hcontiguous
    rw [Proxy.subscript_slice hcls ht hshape, apply_get_between hkey, hslice]
    exact .ok hanswered

omit hfits in
/-- What replacing a part comes to. -/
theorem replace_obeys (hlo : lo ≤ hi) (hhi : hi ≤ v.lines.length) (new : List String) :
    Obeys ProxyError.exceptionKind b (Done b id cls t) (.ok (.nothing, v.replace lo hi new))
      ((v.span id t).replace lo hi new b) := by
  obtain ⟨b', hreplace, hchanged⟩ := h.replace hscript hlo hhi new
  rw [hreplace]
  exact .ok ⟨rfl, hchanged⟩

/-- Assigning to an item or to a slice, and deleting it. -/
theorem assign_obeys (hk : keyOf? (b.objects.get k) = some key) (value : Option ObjRef) :
    Obeys ProxyError.exceptionKind b (Done b id cls t)
      (v.apply (.set key (newOf b.objects key value))) (Proxy.assign cls t k value b) := by
  have hlines := h.bounds.lines
  have hspan := h.span_apply hfits hscript.writable.not_exclusive
  have hlength := length_apply hscript.writable.not_exclusive h hfits
  rw [hlines.assign_eq]
  cases key with
  | «at» i =>
    rw [apply_set_at]
    refine inspect_int_obeys (int_of_keyOf? hk) fun hi => ?_
    dsimp only
    rw [bind_apply, hlength]
    dsimp only
    rw [Text.toInt_ofInt hi]
    refine .bind (position_obeys hi _) fun n hn => ?_
    have hin := position_le hn
    rw [hlines.assignItem_eq, bind_apply, hspan]
    unfold Proxy.Span.assignItem
    dsimp only
    rw [bind_apply, check_apply hin]
    cases value with
    | none => exact replace_obeys hscript h (Nat.le_succ n) hin []
    | some r =>
      rw [newOf, bind_assoc]
      refine .bind ((lineFromForeign_obeys r).mapError fun _ => rfl) fun line _ => ?_
      exact replace_obeys hscript h (Nat.le_succ n) hin [line]
  | between start stop =>
    obtain ⟨bounds, hshape, hpart⟩ := contiguous_of_keyOf? hk
    obtain ⟨lo, hi, hkey, hcontiguous⟩ := hpart _ (lines_length_le hfits)
    obtain ⟨hlo, hhi⟩ := Key.part_le hkey
    rw [bind_apply, Proxy.inspect_apply hshape, apply_set hkey]
    dsimp only
    rw [hlines.assignSlice_apply hlength hcontiguous, bind_apply, hspan]
    cases value with
    | none => exact replace_obeys hscript h hlo hhi []
    | some r =>
      have hnew := linesFromForeign_obeys hscript.scripted r
      exact .bind (hnew.mapError fun _ => rfl) fun new _ => replace_obeys hscript h hlo hhi new

omit hfits in
/-- Inserting lines at a position, which is not outside of the list. -/
theorem insertAt_obeys (i : Int) (new : List String) :
    Obeys ProxyError.exceptionKind b (Answered b id cls t)
      (if 0 ≤ i ∧ i ≤ v.lines.length then .ok (.nothing, v.replace i.toNat i.toNat new)
        else .error .index) ((v.span id t).insertAt i new b) := by
  have houtside : (decide (i < 0) || decide (((v.span id t).size : Int) < i)) = true ↔
      ¬(0 ≤ i ∧ i ≤ v.lines.length) := by
    rw [Bool.or_eq_true, decide_eq_true_iff, decide_eq_true_iff]
    change i < 0 ∨ (v.lines.length : Int) < i ↔ _
    omega
  unfold Proxy.Span.insertAt
  by_cases hin : 0 ≤ i ∧ i ≤ v.lines.length
  · obtain ⟨b', hreplace, hchanged⟩ := h.replace hscript (Nat.le_refl i.toNat) (by omega) new
    have hnew := Convert.new_apply (b := b') .null
    have hinsert : Obeys ProxyError.exceptionKind b (Answered b id cls t)
        (.ok (.nothing, v.replace i.toNat i.toNat new))
        (((v.span id t).replace i.toNat i.toNat new >>= fun _ => Bridge.alloc .null) b) := by
      rw [bind_apply, hreplace]
      exact .ok (hchanged.answered (by rw [given?, hnew.2]))
    rw [if_pos hin, if_neg (houtside.not.mpr (not_not_intro hin))]
    exact hinsert
  · rw [if_neg hin, if_pos (houtside.mpr hin)]
    exact .error Proxy.lineOutside

/-- Calling the method that appends. -/
theorem append_obeys (command : String → Act BridgeError Unit) (m : ObjRef)
    (position? : Option ObjRef) : Obeys ProxyError.exceptionKind b (Answered b id cls t)
      (v.apply (.append (linesOf b.objects m) (position?.map (numberOf b.objects))))
      (Proxy.call command .method (.method t cls "append") (m :: position?.toList) b) := by
  have hcall : Proxy.call command .method (.method t cls "append") (m :: position?.toList) =
      (do (← Proxy.span t).append (m :: position?.toList)) :=
    h.bounds.lines.callMethod_eq "append" _
  rw [hcall, bind_apply, h.span_apply hfits hscript.writable.not_exclusive]
  dsimp only
  rw [Proxy.Span.append_eq]
  have hlines := linesFromForeign_obeys hscript.scripted m
  refine .bind (hlines.mapError fun _ => rfl) fun new _ => ?_
  cases position? with
  | none => exact insertAt_obeys hscript h _ new
  | some n =>
    have hinsert : (v.span id t).insert (some n) new =
        (Int64.toInt <$> Proxy.intOf n) >>= fun i => (v.span id t).insertAt i new := by
      rw [bind_map_left]
      rfl
    rw [hinsert]
    exact .bind (toInt_intOf_obeys n) fun i _ => insertAt_obeys hscript h i new

end

end LineList

end ScriptBridge
