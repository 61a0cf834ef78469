import ScriptBridge.Proofs.Proxy.Looking
import ScriptBridge.Proofs.Script.Building
import ScriptBridge.Script.Perform.Object

/-!
# Scripts that look at proxies

A script reads an attribute of a proxy, its length, what is under a key of it or what iteration goes
through, asks for its `repr()`, or calls a method of a dictionary that tells what is in it. In a
library's interpreter a proxy also has the attributes that all objects have. Whatever there is and
however it ends, nothing changes that is not new.
-/

namespace ScriptBridge

open Foreign (ObjRef Object ProxyClass Target Feature Holder ObjectClass InterpreterKind)
open Act (Looks)
open ScriptBridge.Computation

namespace Script

variable {ε α : Type}

/-! ### What reading goes through -/

theorem looks_kind : (kind : Act ε InterpreterKind).Looks := .read fun _ => .pure _

theorem looks_object (r : ObjRef) : (Bridge.object r : Act ε Object).Looks := .read fun _ => .pure _

theorem looks_qualifiedType (r : ObjRef) : (Bridge.qualifiedType r : Act ε String).Looks :=
  .read fun _ => .pure _

theorem looks_refuse (r : ObjRef) (what : String) : (refuse r what : Act ForeignError α).Looks :=
  .bind (looks_qualifiedType r) fun _ => .fail _

theorem looks_missingAttribute (r : ObjRef) (name : String) :
    (missingAttribute r name : Act ForeignError α).Looks := by
  refine .bind (looks_object r) fun x => .bind looks_kind fun k => ?_
  dsimp only
  split
  iterate 2 exact .fail _
  · exact .bind (looks_qualifiedType r) fun _ => .fail _

/-- What was found is in use. -/
theorem looks_found (v : ObjRef) :
    (do Bridge.hold v; pure (some v) : Act ε (Option ObjRef)).Looks :=
  .bind (.hold v) fun _ => .pure _

theorem looks_givenAttribute (h : Holder) (name : String) :
    (givenAttribute? h name : Act ε (Option ObjRef)).Looks := by
  refine .read fun b => ?_
  split
  · exact looks_found _
  · exact .pure _

theorem looks_givenByClass (c : ObjectClass) (name : String) : (givenByClass? c name).Looks := by
  refine .read fun b => ?_
  dsimp only
  split
  · exact looks_found _
  · exact .pure _

theorem looks_dictionaryOf (h : Holder) : (dictionaryOf h : Act ε ObjRef).Looks := by
  refine .read fun b => ?_
  split
  · exact .bind (.hold _) fun _ => .pure _
  · exact .bind (.alloc _) fun d => .bind (fun b => .dictionary h d) fun _ => .pure _

/-! ### Fields -/

theorem looks_new (x : Object) : (some <$> Bridge.alloc x : Act ε (Option ObjRef)).Looks :=
  .map (.alloc x) _

theorem looks_memberField (x : Object) (name : String) :
    (memberField? x name : Act ε (Option ObjRef)).Looks := by
  refine .read fun b => ?_
  dsimp only
  split
  iterate 3 exact looks_found _
  iterate 3 exact looks_new _
  · split <;> exact looks_new _
  iterate 6 exact looks_new _

theorem looks_exceptionField (r : ObjRef) (args : List ObjRef) (name : String) :
    (exceptionField? r args name : Act ε (Option ObjRef)).Looks := by
  refine .bind (looks_givenAttribute _ name) fun given => ?_
  split
  · exact looks_new _
  · exact .pure _
  iterate 2 exact looks_new _

theorem looks_objectField (r : ObjRef) (name : String) :
    (objectField? r name : Act ε (Option ObjRef)).Looks := by
  refine .bind (looks_object r) fun x => ?_
  dsimp only
  split
  · exact looks_new _
  · exact .map (looks_dictionaryOf _) _
  · exact looks_new _
  · exact looks_exceptionField r _ name
  all_goals first | exact looks_new _ | exact looks_memberField _ name

theorem looks_newFunction (c : ObjectClass) (name : String) : (newFunction c name).Looks :=
  .bind (.alloc _) fun _ => .alloc _

theorem looks_objectFeature (r : ObjRef) (name : String) (definer : ObjectClass) (f : Feature) :
    (objectFeature r name definer f).Looks := by
  cases f with
  | operation | method | scripted | null | text s => exact .alloc _
  | classMethod => exact .bind (looks_object r) fun x => looks_newFunction _ name
  | function => exact looks_newFunction definer name
  | property | field =>
    refine .bind (looks_objectField r name) fun found => ?_
    cases found with
    | some v => exact .pure _
    | none => exact looks_missingAttribute r name

theorem looks_instanceAttr (r : ObjRef) (name : String) : (instanceAttr r name).Looks := by
  refine .bind (looks_object r) fun x => .bind (looks_givenByClass _ name) fun given => ?_
  split
  iterate 2 exact looks_objectFeature r name _ _
  · refine .bind (looks_givenAttribute _ name) fun own => ?_
    split
    iterate 2 exact .pure _
    · exact looks_objectFeature r name _ _
    · exact looks_missingAttribute r name

/-! ### Looks at proxies -/

/-- The ways for a script to look at an object. -/
inductive Look where
  | read (name : String)
  | length
  | item (k : ObjRef)
  | items
  | repr
  /-- A call of the object. -/
  | call (args : List ObjRef) (keywords : Keywords)
  /-- A call of a method, which is an attribute of the object. -/
  | method (name : String) (args : List ObjRef) (keywords : Keywords)

namespace Look

/-- A look at an object; what it gives is not kept. `command` runs a command line. -/
def run (command : String → Act BridgeError Unit) (o : ObjRef) : Look → Act ForeignError Unit
  | read name => do let _ ← getAttr o name
  | length => do let _ ← Script.length o
  | item k => do let _ ← getItem o k
  | items => do let _ ← iterate o
  | repr => do let _ ← reprOf o
  | call args keywords => do let _ ← Script.call command o args keywords
  | method name args keywords => do
    let m ← getAttr o name
    let _ ← Script.call command m args keywords

/-- A call only looks if it is one of a method that tells what is in a dictionary. -/
def Only (cls : ProxyClass) (t : Target) : Look → Prop
  | call _ _ => ∃ d, ∃ name ∈ Proxy.lookingMethods,
    cls = .method ∧ t = .method (.dict d) .dictionary name
  | method name _ _ => name ∈ Proxy.lookingMethods ∧ cls = .dictionary ∧ ∃ d, t = .dict d
  | _ => True

end Look

section

variable {b : Bridge} {o : ObjRef} {cls : ProxyClass} {t : Target}

/-- What a script does with an object is seen from what the object is. -/
theorem looked_object {f : Object → Act ε α} (ho : b.objects.get o = .proxy cls t)
    (hf : (f (.proxy cls t)).Looks) : b.Looked (final ((Bridge.object o >>= f) b)) := by
  rw [← ho] at hf
  exact hf b

theorem looked_getAttr (ho : b.objects.get o = .proxy cls t) (name : String) :
    b.Looked (final (getAttr o name b)) := by
  refine looked_object ho (.bind looks_kind fun k => ?_)
  refine .bind (Proxy.looks_slot (Proxy.looks_getAttr cls t name)) fun found => ?_
  split
  · exact .pure _
  · exact looks_instanceAttr o name
  · exact looks_missingAttribute o name

theorem looked_length (ho : b.objects.get o = .proxy cls t) :
    b.Looked (final (length o b)) := by
  refine looked_object ho (.bind looks_kind fun k => ?_)
  have hslot := Proxy.looks_slot (Proxy.looks_length cls t)
  cases k with
  | scripted => exact hslot
  | library =>
    dsimp only
    split
    · exact hslot
    · exact .bind (looks_qualifiedType o) fun _ => .fail _

theorem looked_getItem (ho : b.objects.get o = .proxy cls t) (k : ObjRef) :
    b.Looked (final (getItem o k b)) := by
  refine looked_object ho (.bind looks_kind fun kind => ?_)
  have hslot := Proxy.looks_slot (Proxy.looks_subscript cls t k)
  cases kind with
  | scripted => exact hslot
  | library =>
    dsimp only
    split
    · exact hslot
    · exact looks_refuse o _

theorem looks_itemsUntilEnd (cls : ProxyClass) (t : Target) (n : Nat) (i : Int) :
    (itemsUntilEnd cls t n i).Looks := by
  induction n generalizing i with
  | zero => exact .pure _
  | succ n ih =>
    refine .bind (.attempt (Proxy.looks_slot (Proxy.looks_item cls t i))) fun item => ?_
    split
    · exact .bind (ih (i + 1)) fun _ => .pure _
    · exact .pure _
    · exact .fail _

/-- The items of the list that a proxy gives for an iteration. -/
theorem looks_listed (cls : ProxyClass) (t : Target) : Looks (do
    let list ← Proxy.slot (Proxy.iterate cls t)
    return ((← Bridge.object list).elements?).getD [] : Act ForeignError (List ObjRef)) :=
  .bind (Proxy.looks_slot (Proxy.looks_iterate cls t)) fun list =>
    .bind (looks_object list) fun _ => .pure _

theorem looked_iterate (ho : b.objects.get o = .proxy cls t) :
    b.Looked (final (iterate o b)) := by
  refine looked_object ho (.bind looks_kind fun k => ?_)
  have hlength := Proxy.looks_slot (Proxy.looks_length cls t)
  cases k with
  | scripted =>
    dsimp only
    split
    · exact looks_listed cls t
    · exact .bind hlength fun n => .mapM (fun i => Proxy.looks_slot (Proxy.looks_item cls t _)) _
  | library =>
    dsimp only [iterateProxy]
    split
    · exact looks_listed cls t
    · split
      · exact .bind hlength fun n => looks_itemsUntilEnd cls t _ 0
      · exact looks_refuse o _

/-- A call of a method that tells what is in a dictionary. -/
theorem looked_call {d : Host.DictRef} {name : String} (hname : name ∈ Proxy.lookingMethods)
    (ho : b.objects.get o = .proxy .method (.method (.dict d) .dictionary name))
    (command : String → Act BridgeError Unit) (args : List ObjRef) (keywords : Keywords) :
    b.Looked (final (call command o args keywords b)) := by
  have hslot := Proxy.looks_slot (Proxy.looks_dictMethod d hname args)
  have hobject : (Bridge.object o : Act ForeignError Object) b = .ok (b.objects.get o) b := rfl
  have hplain : call command o args keywords b = callPlain command o args keywords b := by
    unfold call
    rw [bind_apply, hobject]
    dsimp only
    rw [ho]
  rw [hplain]
  refine looked_object ho (.bind looks_kind fun k => ?_)
  cases k with
  | scripted => exact hslot
  | library =>
    dsimp only
    split
    · exact looks_refuse o _
    · split
      · exact Proxy.looks_slot (.fail _)
      · exact hslot

/-- A dictionary has the methods that tell what is in it. -/
theorem getAttr_lookingMethod {d : Host.DictRef} {name : String}
    (hname : name ∈ Proxy.lookingMethods) (b : Bridge) :
    Proxy.getAttr? .dictionary (.dict d) name b =
      .ok (some ⟨b.objects.cells.size⟩)
        (b.withNew (.proxy .method (.method (.dict d) .dictionary name))) := by
  obtain rfl | rfl | rfl | rfl | rfl := Proxy.lookingMethod_cases hname <;> rfl

/-- A method of a dictionary that tells what is in it, read and called. -/
theorem looked_method {d : Host.DictRef} {name : String} (hname : name ∈ Proxy.lookingMethods)
    (ho : b.objects.get o = .proxy .dictionary (.dict d)) (command : String → Act BridgeError Unit)
    (args : List ObjRef) (keywords : Keywords) :
    b.Looked (final ((getAttr o name >>= fun m => call command m args keywords) b)) := by
  refine Looks.after (looked_getAttr ho name) fun m b' hm => ?_
  -- What is called is the new method, so the call is one of those that only look.
  cases hattached : b.attached with
  | true =>
    rw [getAttr_ok hattached ho (getAttr_lookingMethod hname b)] at hm
    injection hm with hm hb'
    subst hm hb'
    exact looked_call hname (Bridge.get_withNew.trans (if_pos rfl)) command args keywords
  | false =>
    have hfails : getAttr o name b = .error (.error .notInitialized) b := by
      unfold getAttr
      rw [object_kind_bind, ho]
      dsimp only
      unfold Proxy.slot
      rw [bind_apply, bind_apply, get_apply]
      dsimp only
      rw [hattached]
      rfl
    rw [hfails] at hm
    contradiction

theorem looks_reprOf (r : ObjRef) : (reprOf r).Looks := by
  refine .bind looks_kind fun k => ?_
  split
  · exact .read fun b => .of_keeps (Proxy.keeps_ofExcept _)
  · exact .read fun _ => .pure _

/-- In every state a look at a proxy, whether it succeeds or not, leaves the editor as it is with
all buffers, windows, tab pages, messages, lists and dictionaries, the ends of the ranges there are,
what is written and not shown yet, and everything else that is not new. -/
theorem look_changes_nothing (command : String → Act BridgeError Unit)
    (ho : b.objects.get o = .proxy cls t) {l : Look} (hl : l.Only cls t) :
    b.Looked (final (l.run command o b)) := by
  have hdone {α : Type} {a : Act ForeignError α} (h : b.Looked (final (a b))) :
      b.Looked (final ((do let _ ← a : Act ForeignError Unit) b)) :=
    Looks.after h fun _ _ _ => .refl
  cases l with
  | read name => exact hdone (looked_getAttr ho name)
  | length => exact hdone (looked_length ho)
  | item k => exact hdone (looked_getItem ho k)
  | items => exact hdone (looked_iterate ho)
  | repr => exact hdone (looks_reprOf o b)
  | call args keywords =>
    obtain ⟨d, name, hname, rfl, rfl⟩ := hl
    exact hdone (looked_call hname ho command args keywords)
  | method name args keywords =>
    obtain ⟨hname, rfl, d, rfl⟩ := hl
    have h := hdone (looked_method hname ho command args keywords)
    rw [bind_assoc] at h
    exact h

/-- The entries of a dictionary are looked at, and so is an attribute that a range does not have. -/
theorem entries_change_nothing :
    let cells : Array Object := #[.proxy .dictionary (.dict Bridge.fresh.editor.globals),
      .proxy .range (.range 1 1 ⟨0⟩)]
    let b : Bridge := { Bridge.fresh with
      handoff := { mode := .reentrant, side := .foreign }
      objects := { cells, ends := #[1] } }
    let nothing (_ : String) : Act BridgeError Unit := pure ()
    (∃ b', (Look.method "items" [] []).run nothing ⟨0⟩ b = .ok () b' ∧ b.Looked b') ∧
      ∃ e b', (Look.read "lines").run nothing ⟨1⟩ b = .error e b' ∧ b.Looked b' := by
  intro cells b nothing
  have hmethod := look_changes_nothing (b := b) (o := ⟨0⟩) (l := .method "items" [] []) nothing rfl
    ⟨by decide, rfl, _, rfl⟩
  have hread := look_changes_nothing (b := b) (o := ⟨1⟩) (l := .read "lines") nothing rfl trivial
  exact ⟨⟨_, rfl, hmethod⟩, _, _, rfl, hread⟩

end

end Script

end ScriptBridge
