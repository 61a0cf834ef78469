import ScriptBridge.Proofs.Proxy.Stale
import ScriptBridge.Proofs.Session.Handles

/-!
# Ranges after edits

A range keeps its start while its buffer is edited by other ways. Where it can be resolved at all,
it lies inside the buffer. Once the buffer has too few lines to reach the line in front of the
start, everything that has to resolve the range breaks down.
-/

namespace ScriptBridge

open Foreign (ObjRef EndRef Object ProxyClass Target)
open Proxy (Stale)
open Script (Use)
open ScriptBridge.Computation

/-- A range, or a method of one. -/
inductive OfRange (id : Nat) (start : Int64) (last : EndRef) : ProxyClass → Target → Prop where
  | range : OfRange id start last .range (.range id start last)
  | method (name : String) :
    OfRange id start last .method (.method (.range id start last) .range name)

theorem OfRange.derived {id : Nat} {start : Int64} {last : EndRef} {cls : ProxyClass} {t : Target}
    (ht : OfRange id start last cls t) : Derived (.buffer id) cls t := by
  cases ht with
  | range => exact .range id start last
  | method name => exact .method (.range start last) name

variable {ε α γ π : Type} {b : Bridge} {o k : ObjRef} {id : Nat} {start : Int64} {last : EndRef}

/-- A sequence of computations breaks down in none of its parts when they all leave alone what
decides about it. -/
theorem not_breaks_mapM {part : Bridge → π} {f : γ → Act ε α} (hkeeps : ∀ x, (f x).Keeps part)
    (hsteady : ∀ x b', part b' = part b → ¬Breaks (f x) b') (xs : List γ) :
    ¬Breaks (xs.mapM f) b := by
  induction xs generalizing b with
  | nil =>
    rw [List.mapM_nil]
    exact Act.Steady.pure _ b
  | cons x xs ih =>
    rw [List.mapM_cons]
    intro h
    rcases breaks_bind_iff.mp h with h | ⟨y, b₁, hy, h⟩
    · exact hsteady x b rfl h
    · have hsame : part b₁ = part b := by
        have hfirst := hkeeps x b
        rw [hy] at hfirst
        exact hfirst
      rcases breaks_bind_iff.mp h with h | ⟨ys, b₂, -, h⟩
      · exact ih (fun x b' hb' => hsteady x b' (hb'.trans hsame)) h
      · exact Act.Steady.pure _ b₂ h

namespace Proxy

/-- What decides whether a range is stale. -/
def staleness (b : Bridge) : Host.Editor × Loan := (b.editor, b.loan)

theorem stale_congr {b' : Bridge} (h : staleness b' = staleness b) :
    Stale b' id start ↔ Stale b id start := by
  obtain ⟨heditor, hloan⟩ := Prod.mk.inj h
  unfold Stale
  rw [show b'.editor = b.editor from heditor, show b'.loan = b.loan from hloan]

/-- A slot breaks down only where the operation of the proxy does. -/
theorem breaks_of_slot {a : Act ProxyError α} (h : Breaks (slot a) b) : Breaks a b := by
  unfold slot at h
  obtain ⟨b₁, h⟩ := h
  rw [bind_apply, get_apply] at h
  dsimp only at h
  split at h
  · cases h
  cases hkind : b.interpreter.kind with
  | scripted =>
    rw [hkind] at h
    exact breaks_mapError_iff.mp ⟨b₁, h⟩
  | library =>
    rw [hkind] at h
    change guarded a b = .error .crash b₁ at h
    unfold guarded at h
    split at h <;> cases h

theorem slot_keeps {a : Act ProxyError α} {part : Bridge → π} (ha : a.Keeps part) :
    (slot a).Keeps part := by
  have hguarded : (guarded a).Keeps part := by
    intro b
    have hfirst := ha b
    unfold guarded
    cases h : a b with
    | ok x b' =>
      rw [h] at hfirst
      exact hfirst
    | error stop b' =>
      rw [h] at hfirst
      cases stop <;> exact hfirst
  refine .bind .get fun b => .guard ?_
  split
  · exact ha.mapError _
  · exact hguarded

theorem readEditor_keeps : Bridge.readEditor.Keeps staleness := by
  refine .bind .get fun b => ?_
  split
  · exact .fail _
  · exact .pure _

theorem range_item_keeps (i : Int) : (item .range (.range id start last) i).Keeps staleness := by
  have hspan : (span (.range id start last)).Keeps staleness := by
    intro b
    obtain ⟨e, he⟩ | ⟨hloan, x, hx⟩ := span_range_cases id start last b
    · rw [he]
      rfl
    · rw [span_range_apply hloan hx]
      split <;> rfl
  refine .bind hspan fun s => .bind ?_ fun n => .bind ?_ fun lines => ?_
  · unfold Span.check
    split
    · exact .pure _
    · exact .fail _
  · refine .bind readEditor_keeps fun e => ?_
    split
    · exact .pure _
    · exact .fail _
  · exact .mapError (.alloc fun _ => rfl) _

end Proxy

namespace Script

theorem breaks_discard_iff {a : Act ForeignError α} : Breaks (discard a) b ↔ Breaks a b := by
  change Breaks (a >>= fun _ => pure ()) b ↔ _
  rw [breaks_bind_iff]
  constructor
  · rintro (h | ⟨x, b', -, h⟩)
    · exact h
    · exact absurd h (Act.Steady.pure _ b')
  · exact .inl

theorem breaks_iff_of_mapError {a : Act ForeignError α} {f : Act ProxyError α}
    (h : a b = f.mapError ProxyError.toForeign b) : Breaks a b ↔ Breaks f b :=
  (Breaks.of_eq h).trans breaks_mapError_iff

theorem steady_missingAttribute (r : ObjRef) (name : String) :
    (missingAttribute r name : Act ForeignError α).Steady := by
  have hread {ε β : Type} (f : Bridge → β) :
      (do return f (← get) : Act ε β).Steady := .bind .get fun _ => .pure _
  refine .bind (hread _) fun x => .bind (hread _) fun _ => ?_
  dsimp only
  split
  · exact .bind (.pure _) fun _ => .fail _
  · exact .bind (.pure _) fun _ => .fail _
  · exact .bind (hread _) fun _ => .bind (.pure _) fun _ => .fail _

section

variable (hb : b.Sound) (hattached : b.attached = true)

include hb hattached

theorem iterate_range_breaks_iff (ho : b.objects.get o = .proxy .range (.range id start last)) :
    Breaks (iterate o) b ↔ Stale b id start := by
  have hiterable : ProxyClass.isIterable .range = false := rfl
  have hlength : Breaks (Proxy.slot (Proxy.length .range (.range id start last))) b ↔
      Stale b id start :=
    (breaks_iff_of_mapError (Proxy.slot_apply hb.scripted hattached _)).trans
      Proxy.range_length_breaks_iff
  rw [Breaks.of_eq (iterate_apply hb.scripted ho), hiterable, if_neg Bool.false_ne_true,
    breaks_bind_iff]
  refine ⟨?_, fun h => .inl (hlength.mpr h)⟩
  rintro (h | ⟨n, b', hn, h⟩)
  · exact hlength.mp h
  · by_contra hstale
    have hsame : b' = b := by
      rw [Proxy.slot_apply hb.scripted hattached, Act.mapError] at hn
      cases hlen : Proxy.length .range (.range id start last) b with
      | error e b₁ =>
        rw [hlen] at hn
        cases hn
      | ok m b₁ =>
        rw [hlen] at hn
        rw [← (EStateM.Result.ok.inj hn).2]
        exact Proxy.range_length_ok hlen
    rw [hsame] at h
    refine not_breaks_mapM (fun i => Proxy.slot_keeps (Proxy.range_item_keeps _)) ?_ _ h
    intro i b₁ hb₁ hitem
    have hitem := (Proxy.range_item_breaks_iff i).mp (Proxy.breaks_of_slot hitem)
    exact hstale ((Proxy.stale_congr hb₁).mp hitem)

/-- What does not reach a range does not break down. -/
theorem Use.not_breaks_of_not_reaches {cls : ProxyClass} {t : Target}
    (ho : b.objects.get o = .proxy cls t) (ht : OfRange id start last cls t) {use : Use}
    (huse : ∀ name, use ≠ .read name) (hreaches : ¬use.Reaches b cls) : ¬Breaks (use.run o) b := by
  cases use with
  | read name => exact absurd rfl (huse name)
  | write name value =>
    have hwrite : (Proxy.setAttr cls t name value).Steady := by
      have hchange : (Proxy.changeAttr t name value).Steady := by
        cases ht <;> cases value <;> first | exact .fail _ | exact .pure _
      have hrest : Act.Steady (do
          if !(← Proxy.changeAttr t name value) then
            Act.fail (.attribute (Proxy.noAttribute cls.typeName name)) : Act ProxyError Unit) := by
        refine .bind hchange fun found => ?_
        split
        · exact .fail _
        · exact .pure _
      exact .guard (f := fun _ => _) hrest
    rw [run, breaks_iff_of_mapError (setAttr_apply hb.scripted hattached ho name value)]
    exact hwrite b
  | length =>
    rw [run, breaks_discard_iff, breaks_iff_of_mapError (length_apply hb.scripted hattached ho)]
    cases ht with
    | range => exact absurd (.length rfl) hreaches
    | method => exact Act.Steady.fail _ b
  | item k =>
    rw [run, breaks_discard_iff, breaks_iff_of_mapError (getItem_apply hb.scripted hattached ho k)]
    cases ht with
    | range => exact Proxy.range_subscript_not_breaks fun x hx hindex => hreaches (.item rfl hx hindex)
    | method => exact Act.Steady.fail _ b
  | assign k value =>
    rw [run, breaks_iff_of_mapError (setItem_apply hb.scripted hattached ho k value)]
    cases ht with
    | range =>
      exact Proxy.range_assign_not_breaks value fun x hx hbool hindex =>
        hreaches (.assign hx hindex hbool value)
    | method => exact Act.Steady.fail _ b
  | call command args keywords =>
    rw [run, breaks_discard_iff,
      breaks_iff_of_mapError (call_apply hb.scripted hattached ho command args keywords)]
    cases ht with
    | range => exact Act.Steady.fail _ b
    | method => exact absurd (.call command args keywords) hreaches
  | iterate =>
    cases ht with
    | range => exact absurd (.iterate rfl) hreaches
    | method name =>
      have hlength : (Proxy.length .method (.method (.range id start last) .range name)).Steady :=
        .fail _
      rw [run, breaks_discard_iff, Breaks.of_eq (iterate_apply hb.scripted ho)]
      intro h
      rcases breaks_bind_iff.mp h with h | ⟨n, b', hn, -⟩
      · exact hlength b (Proxy.breaks_of_slot h)
      · rw [Proxy.slot_apply hb.scripted hattached] at hn
        cases hn
  | itemAt i =>
    rw [run, Breaks.of_eq (slotOf_apply hb hattached ho _), breaks_discard_iff, breaks_mapError_iff]
    cases ht with
    | range => exact absurd (.itemAt rfl i) hreaches
    | method => exact Act.Steady.fail _ b
  | assignAt i value =>
    rw [run, Breaks.of_eq (slotOf_apply hb hattached ho _), breaks_discard_iff, breaks_mapError_iff]
    cases ht with
    | range => exact absurd (.assignAt i value) hreaches
    | method => exact Act.Steady.fail _ b

/-- Everything that a script does with a range or a method of it, apart from reading attributes,
breaks down exactly when it reaches the range and the range is stale. -/
theorem Use.breaks_iff {cls : ProxyClass} {t : Target} (ho : b.objects.get o = .proxy cls t)
    (ht : OfRange id start last cls t) {use : Use} (huse : ∀ name, use ≠ .read name) :
    Breaks (use.run o) b ↔ Stale b id start ∧ use.Reaches b cls := by
  by_cases hreaches : use.Reaches b cls
  · rw [and_iff_left hreaches]
    cases ht with
    | range =>
      cases hreaches with
      | read name => exact absurd rfl (huse name)
      | length =>
        rw [run, breaks_discard_iff, breaks_iff_of_mapError (length_apply hb.scripted hattached ho)]
        exact Proxy.range_length_breaks_iff
      | item _ hk hx =>
        rw [run, breaks_discard_iff,
          breaks_iff_of_mapError (getItem_apply hb.scripted hattached ho _)]
        exact Proxy.range_subscript_breaks_iff hk hx
      | assign hk hx hbool value =>
        rw [run, breaks_iff_of_mapError (setItem_apply hb.scripted hattached ho _ value)]
        exact Proxy.range_assign_breaks_iff hk hx hbool value
      | iterate =>
        rw [run, breaks_discard_iff]
        exact iterate_range_breaks_iff hb hattached ho
      | itemAt _ i =>
        rw [run, Breaks.of_eq (slotOf_apply hb hattached ho _), breaks_discard_iff,
          breaks_mapError_iff]
        exact Proxy.range_item_breaks_iff i
      | assignAt i value =>
        rw [run, Breaks.of_eq (slotOf_apply hb hattached ho _), breaks_discard_iff,
          breaks_mapError_iff]
        exact Proxy.range_assignItem_breaks_iff i value
    | method name =>
      cases hreaches with
      | call command args keywords =>
        rw [run, breaks_discard_iff,
          breaks_iff_of_mapError (call_apply hb.scripted hattached ho command args keywords)]
        exact Proxy.spanMethod_breaks_iff name args
      | length hcls | item hcls | iterate hcls | itemAt hcls => cases hcls
  · refine ⟨fun h => absurd h ?_, fun h => absurd h.2 hreaches⟩
    exact not_breaks_of_not_reaches hb hattached ho ht huse hreaches

/-- Reading an attribute of a range or of a method of it never breaks down. -/
theorem not_breaks_read {cls : ProxyClass} {t : Target} (ho : b.objects.get o = .proxy cls t)
    (ht : OfRange id start last cls t) (name : String) : ¬Breaks ((Use.read name).run o) b := by
  have hget : (Proxy.getAttr? cls t name).Steady := by
    cases ht with
    | range => exact Proxy.steady_getAttr rfl (Proxy.steady_range_targetAttr name)
    | method method => exact Proxy.steady_getAttr rfl (.bind .get fun _ => .pure none)
  rw [Use.run, breaks_discard_iff, Breaks.of_eq (getAttr_apply hb.scripted hattached ho name)]
  refine Act.Steady.bind (.mapError hget _) (fun v => ?_) b
  split
  · exact .pure _
  · exact steady_missingAttribute o name

end

end Script

namespace Session

/-- What holds in a session of a range of lines, and of the handles of it that scripts got in an
earlier state. -/
structure RangeHandles (earlier b : Bridge) (id : Nat) (start : Int64) (last : EndRef) : Prop where
  /-- What is done with a handle gives a result or fails, unless it has to resolve the range and the
  range starts past the line after the last one of its buffer. -/
  breaks_iff : ∀ o cls t, OfRange id start last cls t → earlier.objects.get o = .proxy cls t →
    ∀ use : Use, Breaks (use.run o) b ↔
      Stale b id start ∧ use.Reaches b cls ∧ ∀ name, use ≠ .read name
  /-- A range that is resolved lies inside its buffer, and starts at its first line. -/
  inside : ∀ s b', Proxy.span (.range id start last) b = .ok s b' →
    b' = b ∧ s.buffer = id ∧ s.first = max start.toInt 1 ∧ s.Inside b.editor

variable {b₀ b₁ : Bridge}

/-- In every session, whatever was done to a buffer since a script got a range of its lines, the
range is resolved inside the buffer, and breaks down only if it is stale. -/
theorem range_handles (hinitial : b₀.Initial) (hearlier : Course b₀ b₁) (hcourse : Course b₁ b)
    (id : Nat) (start : Int64) (last : EndRef) : RangeHandles b₁ b id start last := by
  have hlater := hcourse.later (hearlier.sound hinitial)
  have hb := hlater.sound
  have hattached : b.attached = true := by
    rw [hlater.attached, (hearlier.later hinitial.sound).attached, hinitial.attached]
  refine ⟨fun o cls t ht ho use => ?_, fun s b' => Proxy.span_range_inside⟩
  have hkept : b.objects.get o = .proxy cls t := by
    rcases hlater.proxy o cls t ho with hsame | ⟨-, key, hkey, -⟩
    · exact hsame
    · cases ht <;> cases hkey
  by_cases hread : ∃ name, use = .read name
  · obtain ⟨name, rfl⟩ := hread
    have hnot := Script.not_breaks_read hb hattached hkept ht name
    exact ⟨fun h => absurd h hnot, fun h => absurd rfl (h.2.2 name)⟩
  · have huse (name : String) : use ≠ .read name := fun h => hread ⟨name, h⟩
    rw [Use.breaks_iff hb hattached hkept ht huse]
    exact ⟨fun h => ⟨h.1, h.2, huse⟩, fun h => ⟨h.1, h.2.1⟩⟩

/-- Whether an object is a range of lines of a buffer that starts at a line. -/
def isRangeFrom (id : Nat) (start : Int64) : Object → Bool
  | .proxy .range (.range n s _) => n == id && s == start
  | _ => false

theorem exists_range_of_isRangeFrom {x : Object} (h : isRangeFrom id start x = true) :
    ∃ last, x = .proxy .range (.range id start last) := by
  unfold isRangeFrom at h
  split at h
  · rename_i n s last
    simp only [Bool.and_eq_true, beq_iff_eq] at h
    obtain ⟨rfl, rfl⟩ := h
    exact ⟨last, rfl⟩
  · cases h

/-- A script keeps a range of the third line of three, and the editor deletes the first two lines:
the length of the range is one before that, and there is none afterwards. -/
theorem range_breaks_after_deletion :
    let plain (a : Script.Action) : Script.Step := .mk a none false false
    let filled := plain (.editor (.replace 1 0 1 ["a", "b", "c"]))
    let kept : Script.Step := .mk (.object (.callMethod (.attr (.member "current") "buffer")
      [.int 3, .int 3] [] "range")) (some "r") false false
    let b₁ := after [plain (.session .ensureReady), filled, kept] .fresh
    let b := after [plain (.editor (.replace 1 0 2 []))] b₁
    ∃ r, b₁.interpreter.names = [("r", r)] ∧
      ¬Breaks (Use.length.run r) b₁ ∧ Breaks (Use.length.run r) b := by
  intro plain filled kept b₁ b
  have hcourse₁ : Course .fresh b₁ := course_after _ _
  have hcourse : Course b₁ b := course_after _ _
  have hr : b₁.interpreter.names = [("r", ⟨21⟩)] := by decide +kernel
  have hrange : isRangeFrom 1 3 (b₁.objects.get ⟨21⟩) = true := by decide +kernel
  obtain ⟨last, ho⟩ := exists_range_of_isRangeFrom hrange
  have hbefore := range_handles Bridge.fresh_initial hcourse₁ .refl 1 3 last
  have hafter := range_handles Bridge.fresh_initial hcourse₁ hcourse 1 3 last
  have hbuffer : (b₁.editor.buffer? 1).map (·.lines.length) = some 3 := by decide +kernel
  have hcut : (b.editor.buffer? 1).map (·.lines.length) = some 1 := by decide +kernel
  have hfree : b.loan ≠ .exclusive := by decide +kernel
  refine ⟨⟨21⟩, hr, fun h => ?_, ?_⟩
  · obtain ⟨⟨-, x, hx, hlt⟩, -⟩ := (hbefore.breaks_iff _ _ _ .range ho .length).mp h
    rw [hx] at hbuffer
    have hlines : x.lines.length = 3 := Option.some.inj hbuffer
    rw [hlines] at hlt
    exact absurd hlt (by decide)
  · obtain ⟨x, hx, hlines⟩ := Option.map_eq_some_iff.mp hcut
    refine (hafter.breaks_iff _ _ _ .range ho .length).mpr ⟨⟨hfree, x, hx, ?_⟩, .length rfl, nofun⟩
    rw [hlines]
    decide

end Session

end ScriptBridge
