import ScriptBridge.Proofs.Proxy.Gate
import ScriptBridge.Proofs.Proxy.Mild
import ScriptBridge.Proofs.Proxy.Runs
import ScriptBridge.Proofs.Proxy.Stays
import ScriptBridge.Script.Call
import ScriptBridge.Script.Change
import ScriptBridge.Script.Perform.Object

/-!
# Writes and reads through proxies

A write through a buffer, a range, a window or what is current first looks at everything that it is
given. Then it goes through the gate in front of the editor, and makes one change. Only after that
the end of a range moves, which cannot fail. So a write is refused outside of scripts, and what is
refused changes nothing.

To read items is to look at the editor, to make objects, and to ask for the proxies of entities. What
holds of these holds of every reading, whatever it is of.
-/

namespace ScriptBridge

open Foreign (ObjRef Object Objects ProxyClass Target Slice)
open Host (Change)
open Act (Mild)
open ScriptBridge.Computation

/-! ### Writes of lines -/

namespace Proxy

theorem adds_span (t : Target) : (span t).Adds := by
  refine .bind Mild.readEditor fun e => ?_
  split
  · split
    · exact .pure
    · exact .fail
  · split
    · exact .fail
    · refine .bind .get fun b => ?_
      dsimp only
      split
      · exact .pure
      · exact .crash
  · exact .fail

namespace Span

variable (s : Span)

theorem adds_check (i : Int) : (s.check i).Adds := by
  unfold check
  split
  · exact .pure
  · exact .fail

theorem gated_replace (lo hi : Nat) (new : List String) : (s.replace lo hi new).Gated := by
  refine .followed (.hostWrite (Change.clean_replaceLines _ _ _ _)) fun _ b => ?_
  unfold moveEnd
  cases s.moving with
  | none => exact ⟨(), b, rfl, rfl⟩
  | some r => exact ⟨(), _, rfl, rfl⟩

theorem gated_assignItem (i : Int) (value : Option ObjRef) : (s.assignItem i value).Gated := by
  refine .bind (s.adds_check i) fun n => ?_
  cases value with
  | none => exact s.gated_replace _ _ _
  | some v =>
    exact .bind (.mapError (Convert.mild_lineFromForeign v)) fun _ => s.gated_replace _ _ _

theorem gated_assignSlice (lo hi : Nat) (value : Option ObjRef) :
    (s.assignSlice lo hi value).Gated := by
  cases value with
  | none => exact .bind .pure fun _ => s.gated_replace _ _ _
  | some v =>
    exact .bind (.mapError (Convert.mild_linesFromForeign v)) fun _ => s.gated_replace _ _ _

theorem gated_insertAt (i : Int) (new : List String) : (s.insertAt i new).Gated := by
  unfold insertAt
  exact .guard (.followed (s.gated_replace _ _ _) fun _ b => ⟨_, _, rfl, rfl⟩)

theorem gated_append (args : List ObjRef) : (s.append args).Gated := by
  have hposition (new : List String) : (s.insert args[1]? new).Gated := by
    unfold Span.insert
    split
    · exact .bind (mild_intOf _) fun n => s.gated_insertAt n.toInt new
    · exact s.gated_insertAt s.size new
  refine .bind (mild_arity _ _ _ _) fun _ => ?_
  dsimp only
  split
  · exact .bind (.mapError (Convert.mild_linesFromForeign _)) fun new => hposition new
  · exact hposition []

end Span

/-! ### Writes through proxies -/

/-- Whether a target is a part of the editor that scripts see: lines, a window, a tab page, or what
is current. One that was destroyed counts. -/
def inEditor : Target → Bool
  | .buffer _ | .range .. | .window _ | .tabPage _ | .current | .invalid => true
  | _ => false

variable {cls : ProxyClass} {t : Target}

theorem gated_setCurrentLine (value : Option ObjRef) : (setCurrentLine value).Gated := by
  have hcursor : cursorSpan.Adds :=
    .bind Mild.readEditor fun _ => .bind (adds_span _) fun _ => .pure
  exact .bind hcursor fun p => p.1.gated_assignItem _ value

theorem gated_setCursor (id : Nat) (value : ObjRef) : (setCursor id value).Gated := by
  refine .bind (.mapError (Mild.inspect value)) fun shape => ?_
  dsimp only
  split
  iterate 2
    · refine .bind (.mapError (Mild.itemsOf value)) fun parts => ?_
      split
      · exact .bind (mild_intOf _) fun _ => .bind (mild_intOf _) fun _ =>
          .guard (.hostWrite (Change.clean_setCursor _ _ _))
      · exact .fail
  · exact .fail

theorem adds_sizeOf (name : String) (value : ObjRef) : (sizeOf name value).Adds :=
  .bind (mild_intOf value) fun _ => Mild.guard .pure

theorem gated_setCurrent (name : String) (value : ObjRef) : (setCurrent name value).Gated := by
  refine .bind (.mapError (Mild.inspect value)) fun shape => ?_
  split
  · split
    · exact .hostWrite (Change.clean_setCurrentBuffer _)
    · exact .hostWrite (Change.clean_setCurrentWindow _)
    · exact .hostWrite (Change.clean_setCurrentTab _)
    iterate 4 exact .fail
  · exact .fail

theorem gated_writeAttr (ht : inEditor t = true) (name : String) (value : ObjRef) :
    (writeAttr t name value).Gated id := by
  unfold writeAttr
  split
  · exact .bind (.mapError (Convert.mild_stringOf value)) fun _ =>
      .written (Change.clean_renameBuffer _ _)
  · exact .followed (gated_setCursor _ value) fun _ b => ⟨true, b, rfl, rfl⟩
  · exact .bind (adds_sizeOf _ value) fun _ => .written (Change.clean_resize _ _)
  · exact .bind (adds_sizeOf _ value) fun _ => .written (Change.clean_resize _ _)
  iterate 4 cases ht
  · exact .pure rfl

theorem gated_changeAttr (ht : inEditor t = true) (name : String) (value : Option ObjRef) :
    (changeAttr t name value).Gated id := by
  unfold changeAttr
  split
  · split
    · exact .followed (gated_setCurrentLine value) fun _ b => ⟨true, b, rfl, rfl⟩
    split
    · split
      · exact .fail
      · exact .followed (gated_setCurrent name _) fun _ b => ⟨true, b, rfl, rfl⟩
    · exact .pure rfl
  · split
    · exact .fail
    · exact gated_writeAttr ht name _

theorem gated_setAttr (ht : inEditor t = true) (name : String) (value : Option ObjRef) :
    (setAttr cls t name value).Gated := by
  unfold setAttr
  exact .guard (.checked (gated_changeAttr ht name value))

theorem gated_assignItem (ht : inEditor t = true) (i : Int) (value : Option ObjRef) :
    (assignItem cls t i value).Gated := by
  unfold assignItem
  split
  iterate 2 exact .bind (adds_span _) fun s => s.gated_assignItem i value
  · cases ht
  iterate 2 exact .fail

theorem adds_windowsOf (tab : Option Nat) : (windowsOf tab).Adds := by
  refine .bind Mild.readEditor fun e => ?_
  split
  · exact .pure
  · exact .fail

theorem adds_length (cls : ProxyClass) (t : Target) : (length cls t).Adds := by
  unfold length
  split
  iterate 2 exact .bind (adds_span _) fun _ => .pure
  · exact .bind (mild_itemsOf _) fun _ => .pure
  · exact .bind (mild_entriesOf _) fun _ => .pure
  · exact .bind Mild.readEditor fun _ => .pure
  · exact .bind (adds_windowsOf _) fun _ => .pure
  · exact .bind Mild.readEditor fun _ => .pure
  iterate 2 exact .fail

theorem gated_assignSlice (ht : inEditor t = true) (bounds : Slice) (value : Option ObjRef) :
    (assignSlice cls t bounds value).Gated := by
  refine .bind (adds_length cls _) fun len => ?_
  split
  · exact .fail
  · split
    · cases ht
    · exact .bind (adds_span _) fun s => s.gated_assignSlice _ _ value

theorem gated_assign (ht : inEditor t = true) (k : ObjRef) (value : Option ObjRef) :
    (assign cls t k value).Gated := by
  have hposition {t : Target} (ht : inEditor t = true) (n : Int) : Act.Gated (do
      let len ← length cls t
      let i ← if n = len && growsAtEnd t then pure len else Act.ofExcept (position n len)
      assignItem cls t i value : Act ProxyError Unit) := by
    refine .bind (adds_length cls _) fun len => ?_
    dsimp only
    split
    · exact gated_assignItem ht _ value
    · exact .bind Mild.ofExcept fun i => gated_assignItem ht i value
  unfold assign
  split
  · cases ht
  · exact .fail
  iterate 3
    · refine .bind (.mapError (Mild.inspect k)) fun shape => ?_
      split
      · exact hposition ht _
      · exact gated_assignSlice ht _ value
      · exact .fail
  · exact .fail

/-- Only methods of lines reach the editor. -/
theorem gated_append (ht : inEditor t = true) (args : List ObjRef) :
    (callMethod t cls "append" args).Gated := by
  unfold callMethod
  split
  iterate 2 exact .bind (adds_span t) fun s => s.gated_append args
  iterate 3 cases ht
  iterate 4 exact .fail

end Proxy

/-! ### Writes of scripts -/

namespace Script

/-- A write of a script through a proxy: of an attribute, of an item or a slice under a key, of an
item by the slot for positions, or a call of the method that appends, which was taken from the
proxy. A value that is missing deletes. -/
inductive Write where
  | attr (o : ObjRef) (name : String) (value : Option ObjRef)
  | key (o k : ObjRef) (value : Option ObjRef)
  | position (o : ObjRef) (i : Int) (value : Option ObjRef)
  | append (m : ObjRef) (args : List ObjRef) (keywords : Keywords)

/-- What a script does to write; `command` runs a command line. -/
def Write.perform (command : String → Act BridgeError Unit) : Write → Act ForeignError Unit
  | .attr o name value => setAttr o name value
  | .key o k value => setItem o k value
  | .position o i value =>
    Act.mapError ProxyError.toForeign do
      let (cls, t) ← proxyOf o
      Proxy.assignItem cls t i value
  | .append m args keywords => do
    let _ ← call command m args keywords

/-- What a write goes to, if it goes through a proxy. -/
def Write.target? (objects : Objects) : Write → Option Target
  | .attr o .. | .key o .. | .position o .. => objects.target? o
  | .append m .. =>
    match objects.target? m with
    | some (.method t _ "append") => some t
    | _ => none

variable {b : Bridge} {w : Write} {t : Target} {o : ObjRef}

theorem gated_refuse {α : Type} (r : ObjRef) (what : String) :
    (refuse r what : Act ForeignError α).Gated :=
  .bind (.bind .get fun _ => .pure) fun _ => .fail

theorem exists_proxy_of_target (h : b.objects.target? o = some t) :
    ∃ cls, b.objects.get o = .proxy cls t := by
  unfold Objects.target? at h
  split at h
  · cases h
    exact ⟨_, ‹_›⟩
  · cases h

theorem exists_method_of_target {objects : Objects} {m : ObjRef} {args : List ObjRef}
    {keywords : Keywords} (h : (Write.append m args keywords).target? objects = some t) :
    ∃ cls owner, objects.get m = .proxy cls (.method t owner "append") := by
  dsimp only [Write.target?] at h
  generalize htarget : objects.target? m = found at h
  split at h
  · cases h
    unfold Objects.target? at htarget
    split at htarget
    · cases htarget
      exact ⟨_, _, ‹_›⟩
    · cases htarget
  · cases h

/-- An assignment to an item of an object that has none is refused. -/
theorem gated_refuseItem (o k : ObjRef) (deleting : Bool) : (refuseItem o k deleting).Gated := by
  have hindex (i : Int) : (demandIndex i).Adds := by
    refine .bind (.bind .get fun _ => .pure) fun k => ?_
    split
    · exact .fail
    · exact .pure
  refine .bind .get fun b => ?_
  dsimp only
  generalize (if mayHavePositions (b.objects.get o) then intKey? b k else none) = position
  cases position with
  | none => split <;> exact gated_refuse o _
  | some i =>
    refine .bind (hindex i) fun _ => ?_
    split <;> exact gated_refuse o _

/-- A write of the editor is made by a script, or fails and changes nothing. -/
theorem gatedFrom_perform (command : String → Act BridgeError Unit)
    (hw : w.target? b.objects = some t) (ht : Proxy.inEditor t = true) :
    Act.GatedFrom b (fun _ => true) (w.perform command b) := by
  cases w with
  | attr o name value =>
    obtain ⟨cls, ho⟩ := exists_proxy_of_target hw
    have hset : setAttr o name value b = Proxy.slot (Proxy.setAttr cls t name value) b := by
      unfold setAttr
      rw [object_kind_bind, ho]
    change Act.GatedFrom b _ (setAttr o name value b)
    rw [hset]
    exact Act.Gated.slot (Proxy.gated_setAttr ht name value) b
  | key o k value =>
    obtain ⟨cls, ho⟩ := exists_proxy_of_target hw
    have hassign : Act.GatedFrom b _ (Proxy.slot (Proxy.assign cls t k value) b) :=
      Act.Gated.slot (Proxy.gated_assign ht k value) b
    change Act.GatedFrom b _ (setItem o k value b)
    unfold setItem
    rw [object_kind_bind, ho]
    cases b.interpreter.kind with
    | scripted => exact hassign
    | library =>
      dsimp only
      split
      · exact hassign
      · exact gated_refuseItem o k _ b
  | position o i value =>
    obtain ⟨cls, ho⟩ := exists_proxy_of_target hw
    have hassign : Act.GatedFrom b _
        ((Proxy.assignItem cls t i value).mapError ProxyError.toForeign b) :=
      Act.Gated.mapError (Proxy.gated_assignItem ht i value) b
    have hproxy : proxyOf o b = .ok (cls, t) b := by
      unfold proxyOf
      rw [bind_apply]
      have hobject : (Bridge.object o : Act ProxyError Object) b = .ok (b.objects.get o) b := rfl
      rw [hobject]
      dsimp only
      rw [ho]
      rfl
    change Act.GatedFrom b _ (Act.mapError ProxyError.toForeign
      (proxyOf o >>= fun p => Proxy.assignItem p.1 p.2 i value) b)
    unfold Act.mapError at hassign ⊢
    rw [bind_apply, hproxy]
    exact hassign
  | append m args keywords =>
    obtain ⟨cls, owner, hm⟩ := exists_method_of_target hw
    have hcall : (Proxy.slot (Proxy.call command cls (.method t owner "append") args)).Gated :=
      .slot (Proxy.gated_append ht args)
    have hplain : Act.GatedFrom b (fun _ => true) (callPlain command m args keywords b) := by
      unfold callPlain
      rw [object_kind_bind, hm]
      cases b.interpreter.kind with
      | scripted => exact hcall b
      | library =>
        dsimp only
        split
        · exact gated_refuse m _ b
        split
        · exact Act.Gated.slot .fail b
        · exact hcall b
    have hresult : Act.GatedFrom b (fun _ => true) (call command m args keywords b) := by
      unfold call
      rw [bind_apply]
      have hobject : (Bridge.object m : Act ForeignError Object) b = .ok (b.objects.get m) b := rfl
      rw [hobject]
      dsimp only
      rw [hm]
      exact hplain
    change Act.GatedFrom b _ ((call command m args keywords >>= fun _ => pure ()) b)
    rw [bind_apply]
    generalize call command m args keywords b = outcome at hresult
    cases hresult with
    | written _ hside => exact .written rfl hside
    | idle hwrote => cases hwrote
    | failed hadds => exact .failed hadds

end Script

/-! ### What is refused -/

/-- All that a write of the editor can change is as before: the buffers, windows and tab pages,
which of them is current, and the ends of ranges. -/
structure Bridge.SameView (b b' : Bridge) : Prop where
  buffers : b'.editor.buffers = b.editor.buffers
  windows : b'.editor.windows = b.editor.windows
  tabs : b'.editor.tabs = b.editor.tabs
  currentTab : b'.editor.currentTab = b.editor.currentTab
  currentWindow : b'.editor.currentWindow = b.editor.currentWindow
  currentBuffer : b'.editor.currentBuffer = b.editor.currentBuffer
  ends : ∀ r, b'.objects.endOf r = b.objects.endOf r

theorem Bridge.Adds.sameView {b b' : Bridge} (h : b.Adds b') : b.SameView b' := by
  have hends (r : Foreign.EndRef) : b'.objects.endOf r = b.objects.endOf r := by
    unfold Objects.endOf
    rw [h.ends]
  refine ⟨?_, ?_, ?_, ?_, ?_, ?_, hends⟩
  all_goals
    rw [h.editor]
    try rfl

namespace Script

variable {b : Bridge} {w : Write} {t : Target}

/-- A write of the editor is refused when no script runs. Whenever it is refused, or breaks down,
the editor is seen as before. -/
theorem write_refused (command : String → Act BridgeError Unit)
    (hw : w.target? b.objects = some t) (ht : Proxy.inEditor t = true) :
    (b.handoff.side = .host → ∃ stop b', w.perform command b = .error stop b') ∧
      ∀ stop b', w.perform command b = .error stop b' → b.SameView b' := by
  have hends := gatedFrom_perform command hw ht
  refine ⟨fun hside => ?_, fun stop b' herror => ?_⟩
  · generalize w.perform command b = outcome at hends ⊢
    cases hends with
    | written _ hforeign =>
      rw [hside] at hforeign
      cases hforeign
    | idle hwrote => cases hwrote
    | failed => exact ⟨_, _, rfl⟩
  · rw [herror] at hends
    cases hends with
    | failed hadds => exact hadds.sameView

/-- A line is put in the buffer of a session in which no script runs. -/
theorem write_refused_outside :
    let b : Bridge := { Bridge.fresh with objects := { cells := #[.proxy .buffer (.buffer 1),
      .int 0, .str "text"] } }
    let w : Write := .key ⟨0⟩ ⟨1⟩ (some ⟨2⟩)
    ∃ stop b', w.perform (fun _ => pure ()) b = .error stop b' ∧ b.SameView b' := by
  intro b w
  obtain ⟨hrefused, hsame⟩ := write_refused (b := b) (w := w) (t := .buffer 1) (fun _ => pure ())
    rfl rfl
  obtain ⟨stop, b', h⟩ := hrefused rfl
  exact ⟨stop, b', h, hsame stop b' h⟩

end Script

/-! ### Reading items -/

/-- What holds of mild computations, of all that only add to the bridge, of requests for the proxy of
an entity, and of slots. -/
class Act.Reading (P : {ε α : Type} → Act ε α → Prop) : Prop extends Act.Mild P where
  of_adds {ε α : Type} {a : Act ε α} (ha : a.Adds) : P a
  entity {key : Host.Entity} : P (Bridge.entity key)
  guarded {α : Type} {a : Act ProxyError α} (ha : P a) : P (Proxy.guarded a)

namespace Proxy

variable {P : {ε α : Type} → Act ε α → Prop} [Act.Reading P]

open Act.Reading (of_adds entity)

theorem final_guarded {α : Type} (a : Act ProxyError α) (b : Bridge) :
    final (guarded a b) = final (a b) := by
  unfold guarded
  cases a b with
  | ok x b' => rfl
  | error stop b' => cases stop <;> rfl

theorem reading_slot {α : Type} {a : Act ProxyError α} (ha : P a) : P (slot a) := by
  refine Mild.read (fun b => Mild.guard ?_) fun _ _ => rfl
  split
  · exact Mild.mapError ha
  · exact Act.Reading.guarded ha

theorem reading_item (cls : ProxyClass) (t : Target) (i : Int) : P (item cls t i) := by
  have hspan (t : Target) : Act.Adds (do (← span t).item i : Act ProxyError ObjRef) := by
    refine .bind (adds_span t) fun s => .bind (s.adds_check i) fun n =>
      .bind (.bind Mild.readEditor fun e => ?_) fun _ => .mapError (Convert.mild_lineToForeign _)
    split
    · exact .pure
    · exact .fail
  unfold item
  split
  iterate 2 exact of_adds (hspan _)
  · refine Mild.bind (mild_itemsOf _) fun items => ?_
    split
    · exact Mild.mapError (Convert.mild_toForeignBound _)
    · exact Mild.fail
  · refine Mild.bind (of_adds (adds_windowsOf _)) fun windows => ?_
    split
    · exact entity
    · exact Mild.fail
  · refine Mild.bind Mild.readEditor fun e => ?_
    dsimp only
    split
    · exact entity
    · exact Mild.fail
  iterate 2 exact Mild.fail

theorem reading_anyItems (r : ObjRef) : P (anyItems r) := by
  refine Mild.read (fun b => ?_) fun _ _ => rfl
  split
  · unfold itemsBySlot
    split
    · exact Mild.bind (reading_slot (of_adds (adds_length _ _))) fun n =>
        Mild.mapM (fun (i : Nat) => reading_slot (reading_item _ _ i)) _
    · split
      · exact Mild.fail
      · exact Mild.fail
  · exact Mild.itemsOf r

end Proxy

end ScriptBridge
