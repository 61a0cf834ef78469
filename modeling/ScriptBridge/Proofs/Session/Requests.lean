import ScriptBridge.Proofs.Bridge.Identity
import ScriptBridge.Proofs.Proxy.Access
import ScriptBridge.Proofs.Session.Course

/-!
# Requests for entities

A script reaches buffers, windows and tab pages by attributes and by keys of other proxies. Each of
these ways asks the registry, so as long as a script refers to a proxy of an entity, it is given
the same proxy again.
-/

namespace ScriptBridge.Script

open Foreign (ObjRef Object ProxyClass Target)
open Host (Entity Buffer)
open Bridge (StandsFor)
open ScriptBridge.Computation

/-- A request of a script by an attribute or by a key of an object. -/
inductive Request where
  | attr (o : ObjRef) (name : String)
  | item (o k : ObjRef)

/-- What a script does for a request. -/
def Request.ask : Request → Act ForeignError ObjRef
  | .attr o name => getAttr o name
  | .item o k => getItem o k

/-- The entity that a request leads to. -/
inductive Request.Leads (b : Bridge) : Request → Entity → Prop where
  | currentBuffer {o : ObjRef} (ho : b.objects.get o = .proxy .current .current) :
    Leads b (.attr o "buffer") (.buffer b.editor.currentBuffer)
  | currentWindow {o : ObjRef} (ho : b.objects.get o = .proxy .current .current) :
    Leads b (.attr o "window") (.window b.editor.currentWindow)
  | currentTab {o : ObjRef} (ho : b.objects.get o = .proxy .current .current) :
    Leads b (.attr o "tabpage") (.tabPage b.editor.currentTab)
  | shownBuffer {o : ObjRef} {id : Nat} {w : Host.Window} (ho : b.StandsFor o (.window id))
      (hw : b.editor.window? id = some w) : Leads b (.attr o "buffer") (.buffer w.buffer)
  | tabOfWindow {o : ObjRef} {id tab : Nat} (ho : b.StandsFor o (.window id))
      (hw : b.editor.has (.window id)) (ht : b.editor.windowTab? id = some tab) :
    Leads b (.attr o "tabpage") (.tabPage tab)
  | windowOfTab {o : ObjRef} {id : Nat} {t : Host.TabPage} (ho : b.StandsFor o (.tabPage id))
      (ht : b.editor.tab? id = some t) : Leads b (.attr o "window") (.window t.current)
  | buffer {o k : ObjRef} {n : Int64} (ho : b.objects.get o = .proxy .bufferMap .buffers)
      (hk : (b.objects.get k).shape = .ok (.int n)) (hn : 0 ≤ n.toInt ∧ n.toInt < Text.count32)
      (hkey : b.editor.has (.buffer n.toInt.toNat)) : Leads b (.item o k) (.buffer n.toInt.toNat)
  /-- The windows of the current tab page, or of another one. -/
  | window {o k : ObjRef} {tab : Option Nat} {t : Host.TabPage} {n : Int64} {i id : Nat}
      (ho : b.objects.get o = .proxy .windowList (.windows tab))
      (ht : b.editor.tab? (tab.getD b.editor.currentTab) = some t)
      (hk : (b.objects.get k).shape = .ok (.int n))
      (hi : Proxy.position n.toInt t.windows.length = .ok i) (hid : t.windows[i]? = some id) :
    Leads b (.item o k) (.window id)
  | tabPage {o k : ObjRef} {t : Host.TabPage} {n : Int64} {i : Nat}
      (ho : b.objects.get o = .proxy .tabList .tabPages)
      (hk : (b.objects.get k).shape = .ok (.int n))
      (hi : Proxy.position n.toInt b.editor.tabs.length = .ok i)
      (ht : b.editor.tabs[i]? = some t) : Leads b (.item o k) (.tabPage t.id)

variable {ε α : Type} {b b' : Bridge} {o k r s : ObjRef} {key : Entity}

/-- What a request leads to exists. -/
theorem Request.Leads.has_of_wellFormed {request : Request} (h : request.Leads b key)
    (he : b.editor.WellFormed) : b.editor.has key := by
  cases h with
  | currentBuffer ho => exact he.has_currentBuffer
  | currentWindow ho => exact he.has_currentWindow
  | currentTab ho => exact he.has_currentTab
  | shownBuffer ho hw => exact he.has_buffer_of_window (List.mem_of_find?_eq_some hw)
  | tabOfWindow ho hw ht =>
    obtain ⟨page, hpage, rfl⟩ := Option.map_eq_some_iff.mp ht
    exact Host.Editor.has_tabPage.mpr (List.mem_map_of_mem (List.mem_of_find?_eq_some hpage))
  | windowOfTab ho ht =>
    have hmem := List.mem_of_find?_eq_some ht
    exact he.has_window_of_listed hmem (he.layout.current_listed _ hmem)
  | buffer ho hk hn hkey => exact hkey
  | window ho ht hk hi hid =>
    exact he.has_window_of_listed (List.mem_of_find?_eq_some ht) (List.mem_of_getElem? hid)
  | tabPage ho hk hi ht =>
    exact Host.Editor.has_tabPage.mpr (List.mem_map_of_mem (List.mem_of_getElem? ht))

theorem Request.Leads.has {request : Request} (h : request.Leads b key) (hb : b.Sound) :
    b.editor.has key := h.has_of_wellFormed hb.wellFormed

/-! ### What requests ask for -/

/-- An attribute whose value is the proxy of an entity. -/
theorem getAttr_entity (hb : b.Sound) (hattached : b.attached = true) {cls : ProxyClass}
    {t : Target} (ho : b.objects.get o = .proxy cls t) {name : String}
    (hvalid : t.isValid = true)
    (hattr : Proxy.targetAttr t name b = (some <$> Bridge.entity key) b) :
    getAttr o name b = (Bridge.entity key).mapError ProxyError.toForeign b := by
  rw [getAttr_apply hb.scripted hattached ho]
  unfold Proxy.getAttr?
  simp only [hvalid, Bool.not_true, Bool.false_eq_true, if_false, bind_apply, Act.mapError, hattr]
  rw [map_eq_pure_bind, bind_apply]
  cases Bridge.entity key b <;> rfl

theorem map_entity_busy (f : ObjRef → α) (hloan : b.loan = .exclusive) :
    (f <$> Bridge.entity key) b = .error (.error (.host busyText)) b := by
  rw [map_eq_pure_bind, bind_apply, Bridge.entity_busy hloan]

/-- The attributes of current things, of windows and of tab pages that are entities. -/
theorem Request.Leads.targetAttr_apply {o : ObjRef} {name : String}
    (h : Request.Leads b (.attr o name) key) :
    ∃ cls t, b.objects.get o = .proxy cls t ∧ t.isValid = true ∧
      Proxy.targetAttr t name b = (some <$> Bridge.entity key) b := by
  cases h with
  | currentBuffer ho | currentWindow ho | currentTab ho =>
    exact ⟨_, _, ho, rfl, Proxy.readEditor_bind (map_entity_busy some) fun _ => rfl⟩
  | shownBuffer ho hw =>
    refine ⟨_, _, ho, rfl, Proxy.readEditor_bind (map_entity_busy some) fun _ => ?_⟩
    rw [hw]
    rfl
  | @tabOfWindow _ id _ ho hw ht =>
    refine ⟨_, _, ho, rfl, Proxy.readEditor_bind (map_entity_busy some) fun _ => ?_⟩
    obtain ⟨w, hw⟩ := Option.isSome_iff_exists.mp hw
    rw [hw]
    simp only [ht]
  | windowOfTab ho ht =>
    refine ⟨_, _, ho, rfl, Proxy.readEditor_bind (map_entity_busy some) fun _ => ?_⟩
    rw [ht]
    rfl

/-- An item at a position that is there. -/
theorem length_position_item {cls : ProxyClass} {t : Target} {n : Int64} {len i : Nat}
    (hlength : Proxy.length cls t b = if b.loan = .exclusive
      then .error (.error (.host busyText)) b else .ok len b)
    (hi : Proxy.position n.toInt len = .ok i)
    (hitem : b.loan ≠ .exclusive → Proxy.item cls t i b = Bridge.entity key b) : (do
      let len ← Proxy.length cls t
      let i ← Act.ofExcept (Proxy.position n.toInt len)
      Proxy.item cls t i) b = Bridge.entity key b := by
  rw [bind_apply, hlength]
  by_cases hloan : b.loan = .exclusive
  · rw [if_pos hloan, Bridge.entity_busy hloan]
  · rw [if_neg hloan]
    dsimp only
    rw [hi]
    exact hitem hloan

/-- The keys of containers under which entities are found. -/
theorem Request.Leads.subscript_apply {o k : ObjRef} (h : Request.Leads b (.item o k) key) :
    ∃ cls t, b.objects.get o = .proxy cls t ∧
      Proxy.subscript cls t k b = Bridge.entity key b := by
  cases h with
  | @buffer _ _ n ho hk hn hkey =>
    refine ⟨_, _, ho, ?_⟩
    simp only [Proxy.subscript, Proxy.bufferByNumber, bind_apply, Proxy.inspect_apply hk]
    refine Proxy.readEditor_bind Bridge.entity_busy fun _ => ?_
    have hcond : (decide (0 ≤ n.toInt) && decide (n.toInt < Text.count32) &&
        (b.editor.buffer? n.toInt.toNat).isSome) = true := by
      simp only [hn.1, hn.2, decide_true, Bool.true_and]
      exact hkey
    rw [if_pos hcond]
  | @window _ _ tab page n i id ho ht hk hi hid =>
    have hwindows : Proxy.windowsOf tab b = if b.loan = .exclusive
        then .error (.error (.host busyText)) b else .ok page.windows b := by
      refine Proxy.readEditor_bind (a := fun b => if b.loan = .exclusive then _ else .ok page.windows b)
        (fun hloan => if_pos hloan) fun hloan => ?_
      rw [ht, if_neg hloan]
      rfl
    refine ⟨_, _, ho, (Proxy.subscript_int rfl rfl hk).trans
      (length_position_item ?_ hi fun hloan => ?_)⟩
    · change (Proxy.windowsOf tab >>= fun windows => pure windows.length) b = _
      by_cases hloan : b.loan = .exclusive
      · rw [bind_apply, hwindows, if_pos hloan, if_pos hloan]
      · rw [bind_apply, hwindows, if_neg hloan, if_neg hloan]
        rfl
    · change (Proxy.windowsOf tab >>= _) b = _
      rw [bind_apply, hwindows, if_neg hloan]
      dsimp only
      rw [if_pos (Int.natCast_nonneg i), Int.toNat_natCast, hid]
  | @tabPage _ _ page n i ho hk hi ht =>
    refine ⟨_, _, ho, (Proxy.subscript_int rfl rfl hk).trans
      (length_position_item ?_ hi fun hloan => ?_)⟩
    · refine Proxy.readEditor_bind (a := fun b => if b.loan = .exclusive then _ else .ok _ b)
        (fun hloan => if_pos hloan) fun hloan => ?_
      rw [if_neg hloan]
      rfl
    · change (Bridge.readEditor >>= _) b = _
      rw [bind_apply, Proxy.readEditor_apply hloan]
      dsimp only
      rw [if_pos (Int.natCast_nonneg i), Int.toNat_natCast, ht]

/-- A request asks the registry for the entity that it leads to, and does nothing else. -/
theorem Request.Leads.ask_apply {request : Request} (h : request.Leads b key) (hb : b.Sound)
    (hattached : b.attached = true) :
    request.ask b = (Bridge.entity key).mapError ProxyError.toForeign b := by
  cases request with
  | attr o name =>
    obtain ⟨cls, t, ho, hvalid, hattr⟩ := h.targetAttr_apply
    exact getAttr_entity hb hattached ho hvalid hattr
  | item o k =>
    obtain ⟨cls, t, ho, hsubscript⟩ := h.subscript_apply
    refine (getItem_apply hb.scripted hattached ho k).trans ?_
    rw [Act.mapError, Act.mapError, hsubscript]

/-! ### Iteration over the buffers -/

/-- Buffers that are asked for one after another. -/
theorem entities_extend (hb : b.Sound) (hloan : b.loan ≠ .exclusive) (buffers : List Buffer)
    (hbuffers : ∀ x ∈ buffers, b.editor.has (.buffer x.number)) :
    ∃ rs b', buffers.mapM (fun x => Bridge.entity (.buffer x.number)) b = .ok rs b' ∧
      b.Extends b' ∧ (∀ r ∈ rs, b'.Alive r) ∧
      List.Forall₂ (fun x r => b'.StandsFor r (.buffer x.number)) buffers rs := by
  induction buffers generalizing b with
  | nil => exact ⟨[], b, rfl, .refl hb, nofun, .nil⟩
  | cons x rest ih =>
    obtain ⟨r, b₁, hr, hextends, hstands, halive⟩ :=
      hb.entity_extends hloan (hbuffers x List.mem_cons_self)
    obtain ⟨rs, b₂, hrs, hrest, hall, hproxies⟩ := ih hextends.sound (hextends.loan ▸ hloan)
      fun x hx => hextends.editor ▸ hbuffers x (List.mem_cons_of_mem _ hx)
    refine ⟨r :: rs, b₂, ?_, hextends.trans hrest, fun s hs => ?_,
      .cons (hrest.standsFor r _ hstands) hproxies⟩
    · rw [List.mapM_cons, bind_apply, hr]
      dsimp only
      rw [bind_apply, hrs]
      rfl
    · rcases List.mem_cons.mp hs with rfl | hs
      · exact hrest.alive s halive
      · exact hall s hs

/-- Iteration over the buffers goes through their proxies in order. -/
theorem iterate_buffers (hb : b.Sound) (hattached : b.attached = true)
    (hloan : b.loan ≠ .exclusive) (ho : b.objects.get o = .proxy .bufferMap .buffers) :
    ∃ rs b', iterate o b = .ok rs b' ∧ b.Extends b' ∧ (∀ r ∈ rs, b'.Alive r) ∧
      List.Forall₂ (fun x r => b'.StandsFor r (.buffer x.number)) b.editor.buffers rs := by
  have hbuffers (x : Buffer) (hx : x ∈ b.editor.buffers) : b.editor.has (.buffer x.number) :=
    Host.Editor.has_buffer.mpr (List.mem_map_of_mem hx)
  obtain ⟨rs, b₁, hrs, hextends, hall, hproxies⟩ :=
    entities_extend hb hloan b.editor.buffers hbuffers
  have hnew : b₁.Move (b₁.withNew (.list rs)) := .alloc (.of_not_proxy trivial rfl) hall
  have hlist := hextends.sound.extends_withNew (hnew.later hextends.sound)
  have hiterate : Proxy.iterate .bufferMap .buffers b =
      .ok (b₁.objects.alloc (.list rs)).1 (b₁.withNew (.list rs)) := by
    change (Bridge.readEditor >>= _) b = _
    rw [bind_apply, Proxy.readEditor_apply hloan]
    dsimp only
    rw [bind_apply, hrs]
    rfl
  have hget : (b₁.withNew (.list rs)).objects.get (b₁.objects.alloc (.list rs)).1 = .list rs :=
    Bridge.get_withNew.trans (if_pos rfl)
  refine ⟨rs, b₁.withNew (.list rs), ?_, hextends.trans hlist,
    fun r hr => hlist.alive r (hall r hr), hproxies.imp fun x r h => hlist.standsFor r _ h⟩
  have hiterable : ProxyClass.isIterable .bufferMap = true := rfl
  rw [iterate_apply hb.scripted ho, if_pos hiterable, bind_apply,
    Proxy.slot_apply hb.scripted hattached, Act.mapError,
    hiterate]
  change EStateM.Result.ok ((((b₁.withNew (.list rs)).objects.get _).elements?).getD []) _ = _
  rw [hget]
  rfl

end ScriptBridge.Script

/-!
### One proxy for each entity

Throughout a session an entity has one proxy at a time. As long as a script refers to it, every
request for the entity gives it again, and different entities never share one.
-/

namespace ScriptBridge.Session

open Foreign (ObjRef Object ProxyClass Target)
open Host (Entity)
open Script (Request iterate)
open ScriptBridge.Computation

/-- What holds of the proxies of entities between a state of a session and a later one. -/
structure OneProxy (earlier b : Bridge) : Prop where
  /-- A request succeeds exactly as long as the editor can be read; while it is lent out for
  writing, a request changes nothing. -/
  answered : ∀ (request : Request) key, request.Leads b key →
    if b.loan = .exclusive
    then request.ask b = .error (.error (.exception .bridge busyText)) b
    else ∃ r b', request.ask b = .ok r b' ∧ b'.StandsFor r key ∧ b'.Alive r
  /-- A proxy that a script still refers to is given again. -/
  again : ∀ (request : Request) key r, request.Leads b key → b.loan ≠ .exclusive →
    earlier.StandsFor r key → b.Alive r → request.ask b = .ok r { b with held := r :: b.held }
  /-- Iteration goes through the proxies of the buffers in order, and a proxy that a script still
  refers to is met again. -/
  iterated : ∀ o, b.objects.get o = .proxy .bufferMap .buffers → b.loan ≠ .exclusive →
    ∃ rs b', iterate o b = .ok rs b' ∧ (∀ r ∈ rs, b'.Alive r) ∧
      List.Forall₂ (fun x r => b'.StandsFor r (.buffer x.number) ∧
        ∀ s, earlier.StandsFor s (.buffer x.number) → b.Alive s → r = s) b.editor.buffers rs
  /-- A proxy that is given for one entity is never given for another one. -/
  distinct : ∀ (request : Request) key key' r r' b', earlier.StandsFor r key → key ≠ key' →
    request.Leads b key' → request.ask b = .ok r' b' → r' ≠ r
  /-- A proxy that still stands for an entity stands for one that exists. -/
  exists_entity : ∀ r cls t key, b.Alive r → b.objects.get r = .proxy cls t →
    t.entity? = some key → b.editor.has key
  /-- The proxies that are counted are those of entities that scripts still refer to. -/
  counted : b.liveProxies =
    {key | b.editor.has key ∧ ∃ r, b.Alive r ∧ b.StandsFor r key}.ncard

variable {b₀ b₁ b : Bridge} {r : ObjRef} {key : Entity}

/-- What a request does when the editor can be read. -/
theorem ask_extends (hb : b.Sound) (hattached : b.attached = true) (hloan : b.loan ≠ .exclusive)
    {request : Request} (h : request.Leads b key) :
    ∃ r b', request.ask b = .ok r b' ∧ b.Extends b' ∧ b'.StandsFor r key ∧ b'.Alive r := by
  obtain ⟨r, b', hr, hextends, hstands, halive⟩ := hb.entity_extends hloan (h.has hb)
  refine ⟨r, b', ?_, hextends, hstands, halive⟩
  rw [h.ask_apply hb hattached, Act.mapError, hr]

/-- As long as the session is not shut down, each entity has one proxy at a time, and all requests
for it give that one. -/
theorem one_proxy (hinitial : b₀.Initial) (hearlier : Course b₀ b₁) (hcourse : Course b₁ b)
    (hlife : b.lifecycle ≠ .finalized) : OneProxy b₁ b := by
  have hsound := hearlier.sound hinitial
  have hlater := hcourse.later hsound
  have hb := hlater.sound
  have hattached : b.attached = true :=
    hlater.attached.trans ((hearlier.later hinitial.sound).attached.trans hinitial.attached)
  refine ⟨fun request key h => ?_, fun request key r h hloan hr halive => ?_,
    fun o ho hloan => ?_, fun request key key' r r' b' hr hne h hask heq => ?_,
    fun r cls t key halive hr ht => ?_, hb.liveProxies_eq⟩
  · split
    · rename_i hloan
      rw [h.ask_apply hb hattached, Act.mapError, Bridge.entity_busy hloan]
      rfl
    · rename_i hloan
      obtain ⟨r, b', hask, -, hstands, halive⟩ := ask_extends hb hattached hloan h
      exact ⟨r, b', hask, hstands, halive⟩
  · have hstands := hlater.standsFor_of_has hlife hr (h.has hb)
    rw [h.ask_apply hb hattached, Act.mapError, hb.entity_again hloan hstands halive]
  · obtain ⟨rs, b', hiterate, hextends, hall, hproxies⟩ :=
      Script.iterate_buffers hb hattached hloan ho
    refine ⟨rs, b', hiterate, hall, ?_⟩
    rw [List.forall₂_iff_get] at hproxies ⊢
    refine ⟨hproxies.1, fun i hi hi' => ⟨hproxies.2 i hi hi', fun s hs halive => ?_⟩⟩
    have hkey := Host.Editor.has_buffer.mpr (List.mem_map_of_mem (List.get_mem b.editor.buffers ⟨i, hi⟩))
    have hstands := hextends.standsFor s _ (hlater.standsFor_of_has hlife hs hkey)
    exact hextends.sound.standsFor_unique (hproxies.2 i hi hi') hstands
      (hall _ (List.get_mem rs ⟨i, hi'⟩)) (hextends.alive s halive)
  · have hloan : b.loan ≠ .exclusive := fun hloan => by
      rw [h.ask_apply hb hattached, Act.mapError, Bridge.entity_busy hloan] at hask
      cases hask
    obtain ⟨s, c, hs, hextends, hstands, -⟩ := ask_extends hb hattached hloan h
    obtain ⟨rfl, rfl⟩ := EStateM.Result.ok.inj (hask.symm.trans hs)
    exact hne ((hlater.trans hextends.later).key_eq hr (heq ▸ hstands))
  · exact hb.has_of_standsFor (hb.standsFor_of_entity hr ht) halive

/-- A script keeps the proxy of the only buffer; the buffer is still counted after it was asked for
by its number. -/
theorem one_proxy_kept :
    let ready : Script.Step := .mk (.session .ensureReady) none false false
    let kept : Script.Step :=
      .mk (.object (.build (.attr (.member "current") "buffer"))) (some "x") false false
    let asked : Script.Step :=
      .mk (.object (.build (.item (.member "buffers") (.int 1)))) (some "y") false false
    let b₁ := after [ready, kept] .fresh
    let b := after [asked] b₁
    b₁.liveProxies = 1 ∧ b.liveProxies = 1 ∧ OneProxy b₁ b := by
  intro ready kept asked b₁ b
  refine ⟨by decide +kernel, by decide +kernel, ?_⟩
  exact one_proxy Bridge.fresh_initial (course_after _ _) (course_after _ _) (by decide +kernel)

end ScriptBridge.Session
