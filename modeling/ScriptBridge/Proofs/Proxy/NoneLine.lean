import ScriptBridge.Proofs.Foreign.Slice
import ScriptBridge.Proofs.Proxy.Span
import ScriptBridge.Proofs.Session.Course

/-!
# None in place of lines

Lines are deleted by a deletion of what is under a key, or of the line of the cursor. None in place of
them is not a deletion: it is taken for a text, which it is not. So it is refused wherever a deletion
succeeds, and where a deletion fails it fails in the same way. In either case no line changes.
-/

namespace ScriptBridge

open Foreign (ObjRef Object ProxyClass Target Slice)
open ScriptBridge.Computation

/-- The part of a sequence that a slice in steps of one takes lies in the sequence. -/
theorem Foreign.Slice.contiguous?_le {s : Slice} {len lo hi : Nat}
    (h : s.contiguous? len = some (lo, hi)) : lo ≤ hi ∧ hi ≤ len := by
  unfold contiguous? at h
  split at h
  · cases h
  rename_i hone
  have hforward : ¬s.step < 0 := by omega
  have hbound (i : Int) : (s.clampBound len len i).toNat ≤ len := by
    unfold clampBound
    rw [if_neg hforward]
    split
    · split <;> omega
    · split <;> omega
  have hstart := hbound s.start
  have hstop := hbound s.stop
  simp only [adjust, if_neg hforward] at h
  obtain ⟨rfl, rfl⟩ := Prod.mk.inj (Option.some.inj h)
  exact ⟨Nat.le_max_right _ _, Nat.max_le.mpr ⟨hstop, hstart⟩⟩

namespace Proxy

variable {ε α β : Type} {b : Bridge} {cls : ProxyClass} {t : Target} {o k v : ObjRef}

/-! ### Computations that are declined -/

/-- How a computation ends that is refused where another one succeeds, and fails where the other one
fails. Nothing changes. -/
def declined (e : ε) (b : Bridge) :
    EStateM.Result (Stop ε) Bridge α → EStateM.Result (Stop ε) Bridge α
  | .ok _ _ => .error (.error e) b
  | .error stop _ => .error stop b

/-- What comes first is the same, and changes nothing. -/
theorem declined_bind {e : ε} {p : Act ε α} {f f' : α → Act ε β} (hp : final (p b) = b)
    (h : ∀ x, p b = .ok x b → f x b = declined e b (f' x b)) :
    (p >>= f) b = declined e b ((p >>= f') b) := by
  rw [bind_apply, bind_apply]
  cases hfirst : p b with
  | ok x b' =>
    rw [hfirst] at hp
    subst hp
    exact h x hfirst
  | error stop b' =>
    rw [hfirst] at hp
    subst hp
    rfl

/-- A slot of a proxy is declined in the wording of the interpreter. -/
theorem declined_slot {e : ProxyError} {e' : ForeignError} {a a' : Act ProxyError α}
    (hscripted : e.toForeign = e') (hlibrary : raised e = e')
    (h : a b = declined e b (a' b)) : slot a b = declined e' b (slot a' b) := by
  unfold slot
  rw [bind_apply, bind_apply, get_apply]
  dsimp only
  cases b.attached with
  | false => rfl
  | true =>
    cases b.interpreter.kind with
    | scripted =>
      change Act.mapError _ a b = declined e' b (Act.mapError _ a' b)
      unfold Act.mapError
      rw [h]
      cases a' b with
      | ok x b' => exact congrArg (EStateM.Result.error · b) (congrArg Stop.error hscripted)
      | error stop b' => rfl
    | library =>
      change guarded a b = declined e' b (guarded a' b)
      unfold guarded
      rw [h]
      cases a' b with
      | ok x b' => exact congrArg (EStateM.Result.error · b) (congrArg Stop.error hlibrary)
      | error stop b' => cases stop <;> rfl

/-! ### None as a line -/

/-- The failure of None in place of a text. -/
def noneRefused : ProxyError := .convert (.unsupported "NoneType")

/-- An operation fails with the conversion of its operand. -/
theorem refused_of_unsupported {a : Act ConvertError α}
    (h : a b = .error (.error (.unsupported "NoneType")) b) :
    (liftM a : Act ProxyError α) b = .error (.error noneRefused) b := by
  change Act.mapError _ a b = _
  rw [Act.mapError, h]
  rfl

section

variable (hv : b.objects.get v = .null)

include hv

theorem typeName_none {ε : Type} : (Bridge.typeName v : Act ε String) b = .ok "NoneType" b := by
  simp only [Bridge.typeName, bind_apply, get_apply, hv]
  cases b.interpreter.kind <;> rfl

theorem inspect_none :
    (liftM (Bridge.inspect v) : Act ConvertError Foreign.Shape) b = .ok .null b := by
  change Act.mapError _ (Bridge.inspect v) b = _
  simp only [Act.mapError, Bridge.inspect, bind_apply, get_apply, hv]
  rfl

theorem unsupported_none {α : Type} : (Convert.unsupported v : Act ConvertError α) b =
    .error (.error (.unsupported "NoneType")) b := by
  unfold Convert.unsupported
  rw [bind_apply, typeName_none hv]
  rfl

/-- None is not a line. -/
theorem lineFromForeign_none :
    (liftM (Convert.lineFromForeign v) : Act ProxyError String) b =
      .error (.error noneRefused) b := by
  refine refused_of_unsupported ?_
  unfold Convert.lineFromForeign Convert.stringOf
  rw [bind_apply, bind_apply, inspect_none hv]
  dsimp only
  rw [unsupported_none hv]

/-- None is not a sequence of lines. -/
theorem linesFromForeign_none :
    (liftM (Convert.linesFromForeign v) : Act ProxyError (List String)) b =
      .error (.error noneRefused) b := by
  refine refused_of_unsupported ?_
  unfold Convert.linesFromForeign
  rw [bind_apply, inspect_none hv]
  exact unsupported_none hv

variable (hb : b.Writable) {s : Span} {x : Host.Buffer}
  (hx : b.editor.buffer? s.buffer = some x) (hinside : s.before + s.size ≤ x.lines.length)

include hb hx hinside

theorem Span.assignSlice_none {lo hi : Nat} (hlo : lo ≤ hi) (hhi : hi ≤ s.size) :
    s.assignSlice lo hi (some v) b = declined noneRefused b (s.assignSlice lo hi none b) := by
  have hdeleted : s.assignSlice lo hi none b = s.replace lo hi [] b := rfl
  rw [hdeleted, Span.replace_apply hb hx hlo (by omega)]
  change ((liftM (Convert.linesFromForeign v) >>= fun new => s.replace lo hi new) :
    Act ProxyError Unit) b = _
  rw [bind_apply, linesFromForeign_none hv]
  rfl

theorem Span.assignItem_none (i : Int) :
    s.assignItem i (some v) b = declined noneRefused b (s.assignItem i none b) := by
  refine declined_bind (keeps_check s i b) fun n hn => ?_
  have hlt := (check_ok hn).2
  dsimp only
  rw [Span.replace_apply hb hx (Nat.le_succ n) (by omega), bind_apply, lineFromForeign_none hv]
  rfl

end

/-! ### Keys, and the line of the cursor -/

theorem setCurrentLine_eq (value : Option ObjRef) : setCurrentLine value = (do
    let e ← Bridge.readEditor
    let s ← span (.buffer e.currentBuffer)
    s.assignItem ((e.cursorLine : Int) - 1) value) := by
  unfold setCurrentLine cursorSpan
  simp only [bind_assoc, pure_bind]

/-- A span that lines resolve to. -/
theorem Lines.declined_span {n : Nat} (ht : Lines n cls t) {e : ProxyError}
    {f f' : Span → Act ProxyError Unit}
    (h : ∀ (s : Span) (x : Host.Buffer), b.editor.buffer? s.buffer = some x →
      s.before + s.size ≤ x.lines.length → f s b = declined e b (f' s b)) :
    (span t >>= f) b = declined e b ((span t >>= f') b) := by
  refine declined_bind (keeps_span t b) fun s hs => ?_
  obtain ⟨rfl, x, hx, hinside⟩ := ht.span_inside hs
  exact h s x hx hinside

variable (hb : b.Writable) (hv : b.objects.get v = .null)

include hb hv

theorem Lines.assignSlice_none {n : Nat} (ht : Lines n cls t) (bounds : Slice) :
    assignSlice cls t bounds (some v) b =
      declined noneRefused b (assignSlice cls t bounds none b) := by
  have hlength : length cls t = (do return (← span t).size) := ht.length_eq
  have hkeeps : final (length cls t b) = b := by
    rw [hlength]
    exact Act.Keeps.bind (keeps_span t) (fun _ => .pure _) b
  refine declined_bind hkeeps fun size hsize => ?_
  cases hpart : bounds.contiguous? size with
  | none => rfl
  | some part =>
    obtain ⟨lo, hi⟩ := part
    obtain ⟨hlo, hhi⟩ := Slice.contiguous?_le hpart
    have hdeclined : (span t >>= fun s => s.assignSlice lo hi (some v)) b =
        declined noneRefused b ((span t >>= fun s => s.assignSlice lo hi none) b) := by
      refine declined_bind (keeps_span t b) fun s hs => ?_
      obtain ⟨rfl, x, hx, hinside⟩ := ht.span_inside hs
      have hlen : s.size = size := by
        rw [hlength, bind_apply, hs] at hsize
        exact (EStateM.Result.ok.inj hsize).1
      exact Span.assignSlice_none hv hb hx hinside hlo (hlen ▸ hhi)
    cases ht <;> exact hdeclined

theorem Lines.assign_none {n : Nat} (ht : Lines n cls t) (k : ObjRef) :
    assign cls t k (some v) b = declined noneRefused b (assign cls t k none b) := by
  rw [ht.assign_eq, ht.assign_eq]
  refine declined_bind (keeps_inspect k b) fun key hkey => ?_
  cases key with
  | int i =>
    refine declined_bind ?_ fun len hlen => declined_bind (keeps_ofExcept _ b) fun j hj => ?_
    · rw [ht.length_eq]
      exact Act.Keeps.bind (keeps_span t) (fun _ => .pure _) b
    · rw [ht.assignItem_eq, ht.assignItem_eq]
      exact ht.declined_span fun s x hx hinside => Span.assignItem_none hv hb hx hinside j
  | slice bounds => exact ht.assignSlice_none hb hv bounds
  | _ => rfl

theorem setCurrentLine_none :
    setCurrentLine (some v) b = declined noneRefused b (setCurrentLine none b) := by
  rw [setCurrentLine_eq, setCurrentLine_eq]
  refine declined_bind (keeps_readEditor b) fun e he => ?_
  have ht : Lines e.currentBuffer .buffer (.buffer e.currentBuffer) := .buffer
  exact ht.declined_span fun s x hx hinside => Span.assignItem_none hv hb hx hinside _

theorem setAttr_line_none :
    setAttr .current .current "line" (some v) b =
      declined noneRefused b (setAttr .current .current "line" none b) := by
  have hset (value : Option ObjRef) : setAttr .current .current "line" value b =
      (setCurrentLine value >>= fun _ => pure ()) b := by
    change ((setCurrentLine value >>= fun _ => pure true) >>= fun done => if (!done) = true then _
      else pure ()) b = _
    rw [bind_assoc]
    rfl
  rw [hset, hset, bind_apply, bind_apply, setCurrentLine_none hb hv]
  cases setCurrentLine none b <;> rfl

end Proxy

namespace Script

/-- The exception for None in place of lines. -/
def noLine : ForeignError := .exception .type "unable to convert NoneType to an editor value"

variable {b : Bridge} {v : ObjRef}

/-- None never deletes lines. Where a deletion of what is under a key of lines, of one line or of a
slice, or of the line of the cursor succeeds, None in its place is refused; where the deletion fails,
it fails in the same way. No line changes. -/
theorem none_deletes_no_line (hb : b.Writable) (hv : b.objects.get v = .null) :
    (∀ {n cls t o} (k : ObjRef), b.objects.get o = .proxy cls t → Proxy.Lines n cls t →
      setItem o k (some v) b = Proxy.declined noLine b (setItem o k none b)) ∧
    (∀ {o}, b.objects.get o = .proxy .current .current →
      setAttr o "line" (some v) b = Proxy.declined noLine b (setAttr o "line" none b)) := by
  have hlibrary : Proxy.raised Proxy.noneRefused = noLine := by decide
  refine ⟨fun {n cls t o} k ho ht => ?_, fun {o} ho => ?_⟩
  · have hcls : (cls.isSequence || cls.isMapping) = true := by
      rw [ht.isSequence, Bool.true_or]
    rw [setItem_container ho hcls, setItem_container ho hcls]
    exact Proxy.declined_slot rfl hlibrary (ht.assign_none hb hv k)
  · have hset (value : Option ObjRef) : setAttr o "line" value b =
        Proxy.slot (Proxy.setAttr .current .current "line" value) b := by
      unfold setAttr
      rw [object_kind_bind, ho]
    rw [hset, hset]
    exact Proxy.declined_slot rfl hlibrary (Proxy.setAttr_line_none hb hv)

/-- The first line of a buffer, which is the line of the cursor, can be deleted both ways, and is not
deleted by None. -/
theorem none_deletes_no_first_line :
    let cells : Array Object := #[.proxy .buffer (.buffer 1), .int 0, .null,
      .proxy .current .current]
    let b : Bridge := { Bridge.fresh with
      editor := Bridge.fresh.editor.withLines 1 ["a", "b"]
      handoff := { mode := .reentrant, side := .foreign }
      objects := { cells } }
    let shorter : Bridge := b.withLines 1 ["b"]
    (b.Writable ∧ b.objects.get ⟨2⟩ = .null) ∧
      (setItem ⟨0⟩ ⟨1⟩ none b = .ok () shorter ∧
        setItem ⟨0⟩ ⟨1⟩ (some ⟨2⟩) b = .error (.error noLine) b) ∧
      setAttr ⟨3⟩ "line" none b = .ok () shorter ∧
        setAttr ⟨3⟩ "line" (some ⟨2⟩) b = .error (.error noLine) b := by
  intro cells b shorter
  have hb : b.Writable := ⟨rfl, rfl⟩
  have hv : b.objects.get ⟨2⟩ = .null := rfl
  have hitem : setItem ⟨0⟩ ⟨1⟩ none b = .ok () shorter := rfl
  have hline : setAttr ⟨3⟩ "line" none b = .ok () shorter := rfl
  have ht : Proxy.Lines 1 .buffer (.buffer 1) := .buffer
  obtain ⟨hitems, hlines⟩ := none_deletes_no_line hb hv
  refine ⟨⟨hb, hv⟩, ⟨hitem, ?_⟩, hline, ?_⟩
  · rw [hitems ⟨1⟩ rfl ht, hitem]
    rfl
  · rw [hlines rfl, hline]
    rfl

end Script

end ScriptBridge
