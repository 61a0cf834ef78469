import ScriptBridge.Proofs.Bridge.Move
import ScriptBridge.Proofs.Proxy.Refusal
import ScriptBridge.Proofs.Session.Requests

/-!
# Handles of what was destroyed

What a script does with the proxy of a destroyed buffer, window or tab page, and with ranges,
methods and lists that were made from one.
-/

namespace ScriptBridge

open Foreign (ObjRef Object ProxyClass Target Shape)
open Host (Entity)
open Proxy (Lines Refuses)
open ScriptBridge.Computation

/-- The targets that are made from an entity and are not entities themselves. -/
inductive Derived : Entity → ProxyClass → Target → Prop where
  | range (id : Nat) (start : Int64) (last : Foreign.EndRef) :
    Derived (.buffer id) .range (.range id start last)
  /-- A method of a buffer, or of a range of its lines. -/
  | method {id : Nat} {cls : ProxyClass} {t : Target} (ht : Lines id cls t) (name : String) :
    Derived (.buffer id) .method (.method t cls name)
  | windows (id : Nat) : Derived (.tabPage id) .windowList (.windows (some id))

/-- What a script does with an object. -/
inductive Script.Use where
  | read (name : String)
  | write (name : String) (value : Option ObjRef)
  | length
  | item (k : ObjRef)
  | assign (k : ObjRef) (value : Option ObjRef)
  | call (command : String → Act BridgeError Unit) (args : List ObjRef) (keywords : Keywords)
  | iterate
  /-- The slots of a proxy for the item at a position, called directly. -/
  | itemAt (i : Int)
  | assignAt (i : Int) (value : Option ObjRef)

variable {α : Type}

namespace Script.Use

/-- Calls a slot of an object that is a proxy. -/
def slotOf (o : ObjRef) (f : ProxyClass → Target → Act ProxyError α) : Act ForeignError Unit := do
  match ← Bridge.object o with
  | .proxy cls t => discard (Proxy.slot (f cls t))
  | _ => pure ()

/-- A use of an object; what it gives is not looked at. -/
def run (o : ObjRef) : Use → Act ForeignError Unit
  | read name => discard (getAttr o name)
  | write name value => setAttr o name value
  | length => discard (Script.length o)
  | item k => discard (getItem o k)
  | assign k value => setItem o k value
  | call command args keywords => discard (Script.call command o args keywords)
  | iterate => discard (Script.iterate o)
  | itemAt i => slotOf o fun cls t => Proxy.item cls t i
  | assignAt i value => slotOf o fun cls t => Proxy.assignItem cls t i value

/-- The uses of what was made from an entity that reach the entity: the others do not suit the
class, whatever there is. -/
inductive Reaches (b : Bridge) : ProxyClass → Use → Prop where
  | read (name : String) : Reaches b .range (.read name)
  | length {cls : ProxyClass} (hcls : cls.isSequence = true) : Reaches b cls .length
  | item {cls : ProxyClass} (hcls : cls.isSequence = true) {k : ObjRef} {x : Shape}
      (hk : (b.objects.get k).shape = .ok x) (hx : x.IsIndex) : Reaches b cls (.item k)
  | assign {k : ObjRef} {x : Shape} (hk : (b.objects.get k).shape = .ok x) (hx : x.IsIndex)
      (hbool : ∀ y, x ≠ .bool y) (value : Option ObjRef) : Reaches b .range (.assign k value)
  | call (command : String → Act BridgeError Unit) (args : List ObjRef) (keywords : Keywords) :
    Reaches b .method (.call command args keywords)
  | iterate {cls : ProxyClass} (hcls : cls.isSequence = true) : Reaches b cls .iterate
  | itemAt {cls : ProxyClass} (hcls : cls.isSequence = true) (i : Int) : Reaches b cls (.itemAt i)
  | assignAt (i : Int) (value : Option ObjRef) : Reaches b .range (.assignAt i value)

end Script.Use

variable {b : Bridge} {o : ObjRef} {cls : ProxyClass} {t : Target} {X : Entity}

theorem Refused.discard {a : Act ForeignError α} (h : Refused a b) : Refused (discard a) b :=
  h.bind fun _ => pure ()

theorem final_discard (a : Act ForeignError α) : final (discard a b) = final (a b) := by
  change final ((a >>= fun _ => pure ()) b) = _
  rw [bind_apply]
  cases a b <;> rfl

theorem Proxy.textList_keeps (texts : List String) :
    (textList texts).Keeps Bridge.editor :=
  .bind (.mapM (fun _ => .alloc fun _ => rfl) texts) fun _ => .alloc fun _ => rfl

/-- Reading an attribute changes no more than the target does. -/
theorem Proxy.getAttr_keeps {name : String} (ht : (targetAttr t name).Keeps Bridge.editor) :
    (getAttr? cls t name).Keeps Bridge.editor := by
  unfold getAttr?
  by_cases hvalid : (!t.isValid) = true
  · rw [if_pos hvalid]
    dsimp only
    split
    · exact .bind (.alloc fun _ => rfl) fun _ => .pure _
    · exact fun _ => rfl
  · rw [if_neg hvalid]
    refine .bind ht fun v => ?_
    split
    · exact .pure _
    · split
      · rw [map_eq_pure_bind]
        exact .bind (.alloc fun _ => rfl) fun _ => .pure _
      · split
        · rw [map_eq_pure_bind]
          exact .bind (textList_keeps _) fun _ => .pure _
        · exact .pure _

/-- What was made from an entity has no attributes that can be written. -/
theorem Derived.setAttr_fails (ht : Derived X cls t) (name : String) (value : Option ObjRef) :
    Fails (Proxy.setAttr cls t name value) b := by
  have hvalid : (!t.isValid) = false := by cases ht <;> rfl
  unfold Proxy.setAttr
  simp only [hvalid, Bool.false_eq_true, if_false]
  cases value with
  | none => cases ht <;> exact Fails.bind .of_fail _
  | some v => cases ht <;> exact .of_fail

namespace Script

theorem missingAttribute_keeps (r : ObjRef) (name : String) :
    (missingAttribute r name : Act ForeignError α).Keeps Bridge.editor := by
  have hread {ε β : Type} (f : Bridge → β) :
      (do return f (← get) : Act ε β).Keeps Bridge.editor := .bind .get fun _ => .pure _
  refine .bind (hread _) fun x => .bind (hread _) fun _ => ?_
  dsimp only
  split
  · exact .bind (.pure _) fun _ => .fail _
  · exact .bind (.pure _) fun _ => .fail _
  · exact .bind (hread _) fun _ => .bind (.pure _) fun _ => .fail _

section

variable (hb : b.Sound) (hattached : b.attached = true)

include hb hattached

/-- What is not iterable by itself is asked for its length first. -/
theorem iterate_refused (ho : b.objects.get o = .proxy cls t) (hcls : cls.isIterable = false)
    (hlength : Refuses (Proxy.length cls t) b) : Refused (iterate o) b := by
  refine Refused.of_eq ?_ (iterate_apply hb.scripted ho)
  rw [if_neg (by simp [hcls])]
  exact (Refused.of_eq hlength (Proxy.slot_apply hb.scripted hattached _)).bind _

theorem Use.slotOf_apply (ho : b.objects.get o = .proxy cls t)
    (f : ProxyClass → Target → Act ProxyError α) :
    Use.slotOf o f b = discard ((f cls t).mapError ProxyError.toForeign) b := by
  have hslot := Proxy.slot_apply hb.scripted hattached (f cls t)
  unfold Use.slotOf
  simp only [bind_apply, Bridge.object, get_apply, pure_apply, ho]
  change (Proxy.slot (f cls t) >>= fun _ => pure ()) b =
    ((f cls t).mapError ProxyError.toForeign >>= fun _ => pure ()) b
  rw [bind_apply, hslot, bind_apply]

/-- The proxy of a destroyed entity can only be asked whether it is valid. -/
theorem Use.refused_of_invalid (ho : b.objects.get o = .proxy (.ofEntity X) .invalid) {use : Use}
    (huse : use ≠ .read "valid") : Refused (use.run o) b := by
  cases use with
  | read name =>
    have hname : name ≠ "valid" := fun h => huse (congrArg _ h)
    exact (Refused.of_eq (Refused.bind (Proxy.invalid_getAttr_refuses hname) _)
      (getAttr_apply hb.scripted hattached ho name)).discard
  | write name value =>
    exact Refused.of_eq (Proxy.invalid_setAttr_refuses name value)
      (setAttr_apply hb.scripted hattached ho name value)
  | length =>
    exact (Refused.of_eq Proxy.invalid_length_refuses
      (length_apply hb.scripted hattached ho)).discard
  | item k =>
    exact (Refused.of_eq (Proxy.invalid_subscript_refuses k)
      (getItem_apply hb.scripted hattached ho k)).discard
  | assign k value =>
    exact Refused.of_eq (Proxy.invalid_assign_refuses k value)
      (setItem_apply hb.scripted hattached ho k value)
  | call command args keywords =>
    exact (Refused.of_eq (Proxy.invalid_call_refuses command args)
      (call_apply hb.scripted hattached ho command args keywords)).discard
  | iterate =>
    have hcls : (ProxyClass.ofEntity X).isIterable = false := by cases X <;> rfl
    exact (iterate_refused hb hattached ho hcls Proxy.invalid_length_refuses).discard
  | itemAt i =>
    exact (Refused.discard (Proxy.invalid_item_refuses i)).of_eq (slotOf_apply hb hattached ho _)
  | assignAt i value =>
    exact (Refused.discard (Proxy.invalid_assignItem_refuses i value)).of_eq
      (slotOf_apply hb hattached ho _)

/-- What was made from a destroyed entity does not reach it. -/
theorem Use.refused_of_derived (ho : b.objects.get o = .proxy cls t) (ht : Derived X cls t)
    (hgone : b.editor.has X = false) {use : Use} (huse : use.Reaches b cls) :
    Refused (use.run o) b := by
  cases ht with
  | range id start last =>
    have ht : Lines id .range (.range id start last) := .range start last
    cases huse with
    | read name =>
      exact (Refused.of_eq (Refused.bind (Proxy.range_getAttr_refuses hgone start last name) _)
        (getAttr_apply hb.scripted hattached ho name)).discard
    | length =>
      exact (Refused.of_eq (Proxy.length_refuses ht hgone)
        (length_apply hb.scripted hattached ho)).discard
    | item _ hk hx =>
      exact (Refused.of_eq (Proxy.subscript_refuses ht hgone hk hx)
        (getItem_apply hb.scripted hattached ho _)).discard
    | assign hk hx hbool value =>
      exact Refused.of_eq (Proxy.assign_refuses ht hgone hk hx hbool value)
        (setItem_apply hb.scripted hattached ho _ value)
    | iterate =>
      exact (iterate_refused hb hattached ho rfl (Proxy.length_refuses ht hgone)).discard
    | itemAt _ i =>
      exact (Refused.discard (Proxy.item_refuses ht hgone i)).of_eq (slotOf_apply hb hattached ho _)
    | assignAt i value =>
      exact (Refused.discard (Proxy.assignItem_refuses ht hgone i value)).of_eq
        (slotOf_apply hb hattached ho _)
  | method ht name =>
    cases huse with
    | call command args keywords =>
      exact (Refused.of_eq (Proxy.call_refuses ht hgone command name args)
        (call_apply hb.scripted hattached ho command args keywords)).discard
    | length hcls | item hcls | iterate hcls | itemAt hcls => cases hcls
  | windows id =>
    cases huse with
    | length =>
      exact (Refused.of_eq (Proxy.windows_length_refuses hgone)
        (length_apply hb.scripted hattached ho)).discard
    | item _ hk hx =>
      exact (Refused.of_eq (Proxy.windows_subscript_refuses hgone hk hx)
        (getItem_apply hb.scripted hattached ho _)).discard
    | iterate =>
      exact (iterate_refused hb hattached ho rfl (Proxy.windows_length_refuses hgone)).discard
    | itemAt _ i =>
      exact (Refused.discard (Proxy.windows_item_refuses hgone i)).of_eq
        (slotOf_apply hb hattached ho _)

/-- Whatever else is done with what was made from an entity fails, apart from reading attributes. -/
theorem Use.fails_of_not_reaches (ho : b.objects.get o = .proxy cls t) (ht : Derived X cls t)
    {use : Use} (huse : ∀ name, use ≠ .read name) (hreaches : ¬use.Reaches b cls) :
    Fails (use.run o) b := by
  cases use with
  | read name => exact absurd rfl (huse name)
  | write name value =>
    exact Fails.of_eq ((ht.setAttr_fails name value).mapError _)
      (setAttr_apply hb.scripted hattached ho name value)
  | length =>
    have hlength : Fails (Proxy.length cls t) b := by
      cases ht with
      | method => exact .of_fail
      | range | windows => exact absurd (.length rfl) hreaches
    exact (Fails.of_eq (hlength.mapError _) (length_apply hb.scripted hattached ho)).bind _
  | item k =>
    have hitem : Fails (Proxy.subscript cls t k) b := by
      have hk (hcls : cls.isSequence = true) (x : Shape) (hx : (b.objects.get k).shape = .ok x) :
          ¬x.IsIndex := fun hindex => hreaches (.item hcls hx hindex)
      cases ht with
      | method => exact .of_fail
      | range | windows => exact Proxy.subscript_fails rfl rfl (hk rfl)
    exact (Fails.of_eq (hitem.mapError _) (getItem_apply hb.scripted hattached ho k)).bind _
  | assign k value =>
    have hassign : Fails (Proxy.assign cls t k value) b := by
      cases ht with
      | method | windows => exact .of_fail
      | range id start last =>
        exact (Lines.range start last).assign_fails value fun x hx hbool hindex =>
          hreaches (.assign hx hindex hbool value)
    exact Fails.of_eq (hassign.mapError _) (setItem_apply hb.scripted hattached ho k value)
  | call command args keywords =>
    have hcall : Fails (Proxy.call command cls t args) b := by
      cases ht with
      | method => exact absurd (.call command args keywords) hreaches
      | range | windows => exact .of_fail
    exact (Fails.of_eq (hcall.mapError _)
      (call_apply hb.scripted hattached ho command args keywords)).bind _
  | iterate =>
    cases ht with
    | range | windows => exact absurd (.iterate rfl) hreaches
    | @method _ receiver t ht name =>
      have hlength : Fails (Proxy.length .method (.method t receiver name)) b := .of_fail
      refine Fails.bind (Fails.of_eq ?_ (iterate_apply hb.scripted ho)) _
      exact (Fails.of_eq (hlength.mapError _) (Proxy.slot_apply hb.scripted hattached _)).bind _
  | itemAt i =>
    have hitem : Fails (Proxy.item cls t i) b := by
      cases ht with
      | method => exact .of_fail
      | range | windows => exact absurd (.itemAt rfl i) hreaches
    exact Fails.of_eq ((hitem.mapError _).bind _) (slotOf_apply hb hattached ho _)
  | assignAt i value =>
    have hassign : Fails (Proxy.assignItem cls t i value) b := by
      cases ht with
      | range => exact absurd (.assignAt i value) hreaches
      | method | windows => exact .of_fail
    exact Fails.of_eq ((hassign.mapError _).bind _) (slotOf_apply hb hattached ho _)

/-- Reading an attribute of what was made from a destroyed entity changes no entity. -/
theorem read_editor (ho : b.objects.get o = .proxy cls t) (ht : Derived X cls t)
    (hgone : b.editor.has X = false) (name : String) :
    (final (getAttr o name b)).editor = b.editor := by
  rw [getAttr_apply hb.scripted hattached ho]
  have hread {f : Option ObjRef → Act ForeignError ObjRef}
      (htarget : (Proxy.targetAttr t name).Keeps Bridge.editor)
      (hsome : ∀ r, (f (some r)).Keeps Bridge.editor) (hnone : (f none).Keeps Bridge.editor) :
      (final (((Proxy.getAttr? cls t name).mapError ProxyError.toForeign >>= f) b)).editor =
        b.editor := by
    refine Act.Keeps.bind ((Proxy.getAttr_keeps htarget).mapError _) (fun v => ?_) b
    cases v with
    | some r => exact hsome r
    | none => exact hnone
  have hmissing : (missingAttribute o name : Act ForeignError ObjRef).Keeps Bridge.editor :=
    missingAttribute_keeps o name
  cases ht with
  | range id start last =>
    exact congrArg Bridge.editor
      (Refused.bind (Proxy.range_getAttr_refuses hgone start last name) _).fails.final_eq
  | method ht => exact hread (fun _ => rfl) (fun _ => .pure _) hmissing
  | windows id => exact hread (fun _ => rfl) (fun _ => .pure _) hmissing

end

/-- No use of what was made from a destroyed entity changes an entity. -/
theorem Use.final_editor (hb : b.Sound) (hattached : b.attached = true)
    (ho : b.objects.get o = .proxy cls t) (ht : Derived X cls t) (hgone : b.editor.has X = false)
    (use : Use) : (final (use.run o b)).editor = b.editor := by
  by_cases hread : ∃ name, use = .read name
  · obtain ⟨name, rfl⟩ := hread
    rw [run, final_discard]
    exact read_editor hb hattached ho ht hgone name
  · by_cases hreaches : use.Reaches b cls
    · rw [(refused_of_derived hb hattached ho ht hgone hreaches).fails.final_eq]
    · rw [(fails_of_not_reaches hb hattached ho ht (fun name h => hread ⟨name, h⟩) hreaches).final_eq]

/-- A proxy of a destroyed entity is not accepted as what is to be current. -/
theorem setAttr_current_refused (hb : b.Sound) (hattached : b.attached = true) {c : ObjRef}
    (hc : b.objects.get c = .proxy .current .current) (ho : b.objects.get o = .proxy cls .invalid)
    {name : String} (hname : name ∈ ["buffer", "window", "tabpage"]) :
    Refused (setAttr c name (some o)) b := by
  have hline : name ≠ "line" := by
    rintro rfl
    exact absurd hname (by decide)
  refine Refused.of_eq ?_ (setAttr_apply hb.scripted hattached hc name (some o))
  have hchange : Refuses (Proxy.changeAttr .current name (some o)) b := by
    unfold Proxy.changeAttr
    simp only [if_neg hline, if_pos hname]
    exact (Proxy.setCurrent_refuses ho).bind _
  have hvalid : (!Target.current.isValid) = false := rfl
  unfold Proxy.setAttr
  simp only [hvalid, Bool.false_eq_true, if_false]
  exact hchange.bind _

/-- The number of a destroyed buffer is no key. -/
theorem getItem_number_fails (hb : b.Sound) (hattached : b.attached = true) {m k : ObjRef}
    {n : Int64} (hm : b.objects.get m = .proxy .bufferMap .buffers)
    (hk : (b.objects.get k).shape = .ok (.int n))
    (hgone : b.editor.has (.buffer n.toInt.toNat) = false) : Fails (getItem m k) b := by
  refine Fails.of_eq (Fails.mapError ?_ ProxyError.toForeign)
    (getItem_apply hb.scripted hattached hm k)
  have hnone : (b.editor.buffer? n.toInt.toNat).isSome = false := hgone
  refine Fails.of_eq ?_ (show _ = Proxy.bufferByNumber k b from rfl)
  unfold Proxy.bufferByNumber
  refine Fails.of_eq ?_ (by rw [bind_apply, Proxy.inspect_apply hk])
  by_cases hloan : b.loan = .exclusive
  · exact Fails.bind ⟨_, Proxy.readEditor_busy hloan⟩ _
  · refine Fails.of_eq ?_ (by rw [bind_apply, Proxy.readEditor_apply hloan])
    rw [hnone, Bool.and_false, if_neg Bool.false_ne_true]
    exact .of_fail

end Script

/-- A request for an entity that does not exist. -/
theorem Bridge.entity_refuses (hgone : b.editor.has X = false) : Refuses (Bridge.entity X) b := by
  by_cases hloan : b.loan = .exclusive
  · exact (Refuses.busy hloan).bind _
  · exact (Refuses.deleted _).of_eq (entity_absent hloan hgone)

end ScriptBridge

/-!
### Destruction is final

A buffer, a window or a tab page can be destroyed while scripts hold its proxy, or ranges, methods
and lists that were made from it. All of these fail from then on, and none comes back to life.
-/

namespace ScriptBridge.Session

open Foreign (ObjRef Object ProxyClass Target)
open Host (Entity)
open Script (Use Request)
open ScriptBridge.Computation

/-- What holds in a session of an entity that is gone, and of the handles that scripts got while it
existed, in an earlier state. -/
structure Lost (earlier b : Bridge) (X : Entity) : Prop where
  /-- The proxy of the entity answers that it is not valid. -/
  valid : ∀ o, earlier.StandsFor o X → b.Alive o →
    Script.getAttr o "valid" b = .ok (b.objects.alloc (.bool false)).1 (b.withNew (.bool false))
  /-- All else that is done with the proxy of the entity is refused. -/
  proxy : ∀ o, earlier.StandsFor o X → b.Alive o →
    ∀ use : Use, use ≠ .read "valid" → Refused (use.run o) b
  /-- The proxy of the entity cannot be made what is current. -/
  current : ∀ o, earlier.StandsFor o X → b.Alive o →
    ∀ c, b.objects.get c = .proxy .current .current →
      ∀ name ∈ ["buffer", "window", "tabpage"], Refused (Script.setAttr c name (some o)) b
  /-- What was made from the entity does not reach it. -/
  derived : ∀ o cls t, Derived X cls t → earlier.objects.get o = .proxy cls t →
    ∀ use : Use, use.Reaches b cls → Refused (use.run o) b
  /-- What was made from the entity changes no other entity, whatever is done with it. -/
  editor : ∀ o cls t, Derived X cls t → earlier.objects.get o = .proxy cls t →
    ∀ use : Use, (final (use.run o b)).editor = b.editor
  /-- There is no new proxy of the entity. -/
  entity : Refused ((Bridge.entity X).mapError ProxyError.toForeign) b
  /-- No request leads to the entity. -/
  request : ∀ request : Request, ¬request.Leads b X
  /-- The number of a buffer that is gone is refused as a key. -/
  number : ∀ m k n, b.objects.get m = .proxy .bufferMap .buffers →
    (b.objects.get k).shape = .ok (.int n) → X = .buffer n.toInt.toNat → Fails (Script.getItem m k) b

variable {b₀ b₁ b₂ b : Bridge} {X : Entity}

/-- In every session, once a buffer, a window or a tab page was destroyed, none of the handles that
scripts got while it existed reaches it or anything else again, and there is no new one. -/
theorem lost_for_good (hinitial : b₀.Initial) (hearlier : Course b₀ b₁)
    (hexists : b₁.editor.has X = true) (hdestroyed : Course b₁ b₂)
    (hnot : b₂.editor.has X = false) (hcourse : Course b₂ b) : Lost b₁ b X := by
  have hb₁ := hearlier.sound hinitial
  have hlater₂ := hdestroyed.later hb₁
  have hlater := hlater₂.trans (hcourse.later hlater₂.sound)
  have hb := hlater.sound
  have hattached : b.attached = true := by
    rw [hlater.attached, (hearlier.later hinitial.sound).attached, hinitial.attached]
  have hgone : b.editor.has X = false := by
    have hgone₂ := hlater₂.evolves.gone_of_not_has hexists hnot
    exact ((hcourse.later hlater₂.sound).evolves.gone hgone₂).1
  have hinvalid (o : ObjRef) (ho : b₁.StandsFor o X) (halive : b.Alive o) :
      b.objects.get o = .proxy (.ofEntity X) .invalid := by
    rcases hlater.standsFor ho with hstands | ⟨hinvalid, -⟩
    · exact absurd (hb.has_of_standsFor hstands halive) (by simp [hgone])
    · exact hinvalid
  have hkept (o : ObjRef) {cls : ProxyClass} {t : Target} (ht : Derived X cls t)
      (ho : b₁.objects.get o = .proxy cls t) : b.objects.get o = .proxy cls t := by
    rcases hlater.proxy o cls t ho with hsame | ⟨-, key, hkey, -⟩
    · exact hsame
    · cases ht <;> cases hkey
  refine ⟨fun o ho halive => ?_, fun o ho halive use huse => ?_, fun o ho halive c hc name hname => ?_,
    fun o cls t ht ho use huse => ?_, fun o cls t ht ho use => ?_, Bridge.entity_refuses hgone,
    fun request hleads => ?_, fun m k n hm hk hX => ?_⟩
  · rw [Script.getAttr_apply hb.scripted hattached (hinvalid o ho halive), bind_apply, Act.mapError,
      Proxy.invalid_getAttr_valid]
    rfl
  · exact Use.refused_of_invalid hb hattached (hinvalid o ho halive) huse
  · exact Script.setAttr_current_refused hb hattached hc (hinvalid o ho halive) hname
  · exact Use.refused_of_derived hb hattached (hkept o ht ho) ht hgone huse
  · exact Use.final_editor hb hattached (hkept o ht ho) ht hgone use
  · exact absurd (hleads.has hb) (by simp [hgone])
  · exact Script.getItem_number_fails hb hattached hm hk (hX ▸ hgone)

/-- A script keeps the proxy, a range and a method of a buffer that is wiped afterwards. -/
theorem lost_after_wipe :
    let ready : Script.Step := .mk (.session .ensureReady) none false false
    let added : Script.Step := .mk (.editor (.addBuffer "other" ["one", "two"])) none false false
    let kept (name : String) (a : Script.ObjectAction) : Script.Step :=
      .mk (.object a) (some name) false false
    let wiped : Script.Step := .mk (.editor (.wipe 2)) none false false
    let b₁ := after [ready, added, kept "x" (.build (.item (.member "buffers") (.int 2))),
      kept "r" (.callMethod (.var "x") [.int 1, .int 2] [] "range"),
      kept "m" (.build (.attr (.var "r") "append"))] .fresh
    let b := after [wiped] b₁
    b₁.liveProxies = 1 ∧ b.liveProxies = 0 ∧ b.interpreter.names.map (·.1) = ["m", "r", "x"] ∧
      Lost b₁ b (.buffer 2) := by
  intro ready added kept wiped b₁ b
  refine ⟨by decide +kernel, by decide +kernel, by decide +kernel, ?_⟩
  exact lost_for_good Bridge.fresh_initial (course_after _ _) (by decide +kernel)
    (course_after [wiped] _) (by decide +kernel) .refl

end ScriptBridge.Session
