import ScriptBridge.Proofs.Bridge.Locks
import ScriptBridge.Proofs.Script.Finding

/-!
# One layout

Tab pages, windows and buffers can be reached through the collections of the module, through what is
current, and through each other. A script that reads all of it, and compares, finds that these ways
lead to the same objects, with the numbers that their positions say.
-/

namespace ScriptBridge

open Foreign (ObjRef Object ProxyClass Target)
open Host (Entity TabPage)
open ScriptBridge.Computation

namespace Script

open Act (Finds)

variable {b b' : Bridge} {o : ObjRef} {key : Entity} {keys : List Entity}

/-! ### Items by position -/

/-- The item of a sequence at a position. -/
def itemAt (o : ObjRef) (i : Nat) : Act ForeignError ObjRef := do
  getItem o (← Bridge.alloc (.int i))

/-- The items of a sequence at all positions below its length. -/
def allItems (o : ObjRef) : Act ForeignError (List ObjRef) := do
  (List.range (← length o)).mapM (itemAt o)

/-- A collection that has its entities in an order. -/
inductive Listing (b : Bridge) (o : ObjRef) : List Entity → Prop where
  | tabPages (ho : b.objects.get o = .proxy .tabList .tabPages) :
    Listing b o (b.editor.tabs.map fun t => .tabPage t.id)
  /-- The windows of the current tab page, or of another one. -/
  | windows {tab : Option Nat} {page : TabPage}
      (ho : b.objects.get o = .proxy .windowList (.windows tab))
      (hpage : b.editor.tab? (tab.getD b.editor.currentTab) = some page) :
    Listing b o (page.windows.map .window)

theorem fits_of_lt {n : Nat} (hn : n < Text.count32) : Text.fitsInt64 n = true := by
  have hlt : n < 4294967296 := hn
  simp [Text.fitsInt64, Text.minInt64, Text.maxInt64]
  omega

/-- A small integer as a key. -/
theorem Is.shape {k : ObjRef} {n : Nat} (h : Is b (.int n) k) (hn : n < Text.count32) :
    (b.objects.get k).shape = .ok (.int (Int64.ofInt n)) := by
  rw [h.2]
  exact if_pos (fits_of_lt hn)

theorem toInt_of_lt {n : Nat} (hn : n < Text.count32) : (Int64.ofInt n).toInt = n :=
  Text.toInt_ofInt (fits_of_lt hn)

theorem position_of_lt {i len : Nat} (hlt : i < len) (hi : i < Text.count32) :
    Proxy.position (Int64.ofInt i).toInt len = .ok i := by
  have hindex : (if (i : Int) < 0 then (i : Int) + len else i) = i := if_neg (by omega)
  rw [toInt_of_lt hi]
  unfold Proxy.position
  dsimp only
  rw [hindex, if_neg (by simpa using hlt), Int.toNat_natCast]

/-- A buffer is found under its number. -/
theorem leads_buffer {k : ObjRef} {n : Nat} (ho : b.objects.get o = .proxy .bufferMap .buffers)
    (hk : Is b (.int n) k) (hn : n < Text.count32) (hkey : b.editor.has (.buffer n)) :
    Request.Leads b (.item o k) (.buffer n) := by
  have hint := toInt_of_lt hn
  have hnat : (Int64.ofInt n).toInt.toNat = n := by rw [hint, Int.toNat_natCast]
  have hlead := Request.Leads.buffer ho (hk.shape hn) (by rw [hint]; omega) (by rwa [hnat])
  rwa [hnat] at hlead

namespace Listing

theorem browsed (h : Listing b o keys) (hread : b.Browsed b') : Listing b' o keys := by
  cases h with
  | tabPages ho =>
    rw [← hread.editor]
    exact .tabPages (hread.proxy ho)
  | windows ho hpage => exact .windows (hread.proxy ho) (hread.editor ▸ hpage)

theorem length_le (h : Listing b o keys) (hb : b.Readable) : keys.length ≤ Text.count32 := by
  cases h with
  | tabPages ho =>
    rw [List.length_map]
    exact hb.wellFormed.tabs_length_le hb.fits
  | windows ho hpage =>
    rw [List.length_map]
    exact hb.wellFormed.windows_length_le hb.fits (List.mem_of_find?_eq_some hpage)

theorem finds_length (h : Listing b o keys) (hb : b.Readable) :
    (length o).Finds b fun _ n => n = keys.length := by
  have hdone {cls : ProxyClass} {t : Target} (ho : b.objects.get o = .proxy cls t)
      (hcls : (cls.isSequence || cls.isMapping) = true)
      (hlength : Proxy.length cls t b = .ok keys.length b) :
      (length o).Finds b fun _ n => n = keys.length :=
    ⟨_, b, (length_container ho hcls).trans (Proxy.slot_ok hb.attached hlength),
      .refl hb.toArranged, rfl⟩
  cases h with
  | tabPages ho =>
    refine hdone ho rfl ((Proxy.readEditor_bind_apply hb.lent).trans ?_)
    rw [List.length_map]
    rfl
  | @windows tab page ho hpage =>
    refine hdone ho rfl ?_
    have hwindows : Proxy.windowsOf tab b = .ok page.windows b := by
      refine (Proxy.readEditor_bind_apply hb.lent).trans ?_
      rw [hpage]
      rfl
    change (Proxy.windowsOf tab >>= fun windows => pure windows.length) b = _
    rw [bind_apply, hwindows, List.length_map]
    rfl

theorem finds_item (h : Listing b o keys) (hb : b.Readable) {i : Nat} (hi : keys[i]? = some key) :
    (itemAt o i).Finds b fun b' r => b'.Represents r key := by
  obtain ⟨hlt, -⟩ := List.getElem?_eq_some_iff.mp hi
  have hsmall : i < Text.count32 := Nat.lt_of_lt_of_le hlt (h.length_le hb)
  refine .bind (.alloc hb _) fun k b₁ hread hk => ?_
  have hshape := Is.shape hk hsmall
  cases h.browsed hread with
  | tabPages ho =>
    rw [List.getElem?_map, Option.map_eq_some_iff] at hi
    obtain ⟨t, ht, rfl⟩ := hi
    rw [List.length_map] at hlt
    exact finds_ask (hread.readable hb) (.tabPage ho hshape (position_of_lt hlt hsmall) ht)
  | windows ho hpage =>
    rw [List.getElem?_map, Option.map_eq_some_iff] at hi
    obtain ⟨id, hid, rfl⟩ := hi
    rw [List.length_map] at hlt
    exact finds_ask (hread.readable hb) (.window ho hpage hshape (position_of_lt hlt hsmall) hid)

/-- The items of a collection represent its entities in their order. -/
theorem finds_allItems (h : Listing b o keys) (hb : b.Readable) :
    (allItems o).Finds b fun b' rs => b'.RepresentAll rs keys := by
  refine .bind (h.finds_length hb) fun n b₁ hread hn => ?_
  subst hn
  -- Later reads keep what was found before, so it is enough to find one item at a time.
  have hitems := Finds.mapM (f := itemAt o) (b := b₁)
    (R := fun b i r => ∀ key, keys[i]? = some key → b.Represents r key)
    (fun hread' hR key hkey => hread'.kept _ _ (hR key hkey)) (hread.readable hb)
    (List.range keys.length) fun i hi b₂ hread' => by
      have hkey := List.getElem?_eq_getElem (List.mem_range.mp hi)
      have hfinds := (h.browsed (hread.trans hread')).finds_item
        ((hread.trans hread').readable hb) hkey
      exact hfinds.imp fun b₃ r hr key hkey' => by
        rw [hkey] at hkey'
        exact Option.some.inj hkey' ▸ hr
  refine hitems.imp fun b₂ rs hrs => List.forall₂_iff_get.mpr ?_
  rw [List.forall₂_iff_get] at hrs
  refine ⟨by simpa using hrs.1, fun i hi hi' => ?_⟩
  exact hrs.2 i (by simpa using hi) hi' _ (by simp)

end Listing

/-- The windows of a tab page, as the tab page lists them. -/
def windowsOf (t : ObjRef) : Act ForeignError (List ObjRef) := do
  allItems (← getAttr t "windows")

theorem finds_windowsOf {t : ObjRef} {id : Nat} {page : TabPage} (hb : b.Readable)
    (ht : b.StandsFor t (.tabPage id)) (hpage : b.editor.tab? id = some page) :
    (windowsOf t).Finds b fun b' rs => b'.RepresentAll rs (page.windows.map .window) := by
  have hlist : (getAttr t "windows").Finds b
      fun b' r => Is b' (.proxy .windowList (.windows (some id))) r := by
    refine finds_attr hb ht rfl (.alloc hb _) ((Proxy.readEditor_bind_apply hb.lent).trans ?_)
    rw [hpage]
    rfl
  refine .bind hlist fun list b₁ hread hproxy => ?_
  exact (Listing.windows hproxy.2 (hread.editor ▸ hpage)).finds_allItems (hread.readable hb)

/-- Iteration over a proxy that gives a list for it. -/
theorem iterate_iterable {cls : ProxyClass} {t : Target} (ho : b.objects.get o = .proxy cls t)
    (hcls : cls.isIterable = true) : iterate o b = (do
      let list ← Proxy.slot (Proxy.iterate cls t)
      return ((← Bridge.object list).elements?).getD []) b := by
  unfold iterate
  rw [object_kind_bind, ho]
  cases b.interpreter.kind with
  | scripted | library =>
    dsimp only [iterateProxy]
    rw [if_pos hcls]

/-- The buffers as entities. -/
def bufferKeys (e : Host.Editor) : List Entity := (e.buffers.map (·.number)).map .buffer

/-- Iteration over the buffers gets a list of all of them. -/
theorem finds_bufferList (hb : b.Readable) : (Proxy.iterate .bufferMap .buffers).Finds b
    fun b' list => ∃ rs, Is b' (.list rs) list ∧ b'.RepresentAll rs (bufferKeys b.editor) := by
  have hbuffers := Finds.mapM (f := fun x : Host.Buffer => Bridge.entity (.buffer x.number))
    (R := fun b x r => b.Represents r (.buffer x.number)) (fun hread hr => hread.kept _ _ hr) hb
    b.editor.buffers fun x hx b' hread => by
      refine .entity (hread.readable hb) ?_
      rw [hread.editor]
      exact Host.Editor.has_buffer.mpr (List.mem_map_of_mem hx)
  have hlist : (b.editor.buffers.mapM (fun x => Bridge.entity (.buffer x.number)) >>= fun rs =>
      Bridge.alloc (.list rs)).Finds b fun b' list =>
        ∃ rs, Is b' (.list rs) list ∧ b'.RepresentAll rs (bufferKeys b.editor) := by
    refine hbuffers.bind fun rs b₁ h₁ hrs => ?_
    refine (Finds.alloc (h₁.readable hb) (.list rs)).read.imp fun b₂ list hlist => ?_
    have hall : b₁.RepresentAll rs (bufferKeys b.editor) := by
      rw [Bridge.RepresentAll, bufferKeys, List.map_map, List.forall₂_map_left_iff]
      exact hrs
    exact ⟨rs, hlist.2, hlist.1.keptAll hall⟩
  exact hlist.of_eq fun h => (Proxy.readEditor_bind_apply hb.lent).trans h

/-- Iteration goes through all buffers. -/
theorem finds_iterate (hb : b.Readable) (ho : b.objects.get o = .proxy .bufferMap .buffers) :
    (iterate o).Finds b fun b' rs => b'.RepresentAll rs (bufferKeys b.editor) := by
  obtain ⟨list, b', hiterate, hread, rs, hlist, hrs⟩ := finds_slot hb (finds_bufferList hb)
  refine ⟨rs, b', (iterate_iterable ho rfl).trans ?_, hread, hrs⟩
  rw [bind_apply, hiterate]
  change EStateM.Result.ok ((b'.objects.get list).elements?.getD []) b' = _
  rw [hlist.2]
  rfl

/-- The numbers of objects that represent entities. -/
theorem finds_numbers {rs : List ObjRef} (hb : b.Readable) (hrs : b.RepresentAll rs keys)
    (hkeys : ∀ key ∈ keys, b.editor.has key) : (rs.mapM numberOf).Finds b
      fun _ ns => ns = keys.map fun key => (entityNumber b.editor key : Int) := by
  induction keys generalizing b rs with
  | nil =>
    cases hrs
    rw [List.mapM_nil]
    exact .pure hb rfl
  | cons key keys ih =>
    cases hrs with
    | @cons _ r _ rest hr hrest =>
      rw [List.mapM_cons]
      refine .bind (finds_numberOf hb (hr.standsFor hb.toArranged) (hkeys key List.mem_cons_self))
        fun n b₁ h₁ hn => ?_
      have hb₁ := h₁.readable hb
      refine .bind (ih hb₁ (h₁.keptAll hrest) fun key' hkey' => ?_) fun ns b₂ h₂ hns => ?_
      · rw [h₁.editor]
        exact hkeys key' (List.mem_cons_of_mem _ hkey')
      · refine .pure (h₂.readable hb₁) ?_
        rw [hn, hns, h₁.editor, List.map_cons]

/-! ### Reading and comparing -/

/-- Objects from which a script reads the layout of the editor. -/
structure Views where
  tabPages : ObjRef
  windows : ObjRef
  buffers : ObjRef
  current : ObjRef

namespace Views

/-- The objects are proxies of the collections, and of what is current. -/
structure Of (v : Views) (b : Bridge) : Prop where
  tabPages : b.objects.get v.tabPages = .proxy .tabList .tabPages
  windows : b.objects.get v.windows = .proxy .windowList (.windows none)
  buffers : b.objects.get v.buffers = .proxy .bufferMap .buffers
  current : b.objects.get v.current = .proxy .current .current

variable (v : Views)

/-- Whether a window of a tab page `t` is the one at position `j` there and leads back to the tab
page, and its buffer is the one with its number. -/
def windowAgrees (t w : ObjRef) (j : Nat) : Act ForeignError Bool := do
  let number ← numberOf w
  let tab ← getAttr w "tabpage"
  let shown ← getAttr w "buffer"
  let found ← getItem v.buffers (← getAttr shown "number")
  return decide (number = j + 1 ∧ tab = t ∧ shown = found)

/-- Whether a tab page is the one at position `i`, its window is one of its windows, and all of
these agree with it. -/
def tabAgrees (t : ObjRef) (i : Nat) : Act ForeignError Bool := do
  let number ← numberOf t
  let windows ← windowsOf t
  let window ← getAttr t "window"
  let agree ← windows.zipIdx.mapM fun w => v.windowAgrees t w.1 w.2
  return decide (number = i + 1 ∧ window ∈ windows ∧ ∀ x ∈ agree, x = true)

/-- Whether the windows are those of the current tab page. -/
def windowsAgree : Act ForeignError Bool := do
  let windows ← allItems v.windows
  let own ← windowsOf (← getAttr v.current "tabpage")
  return decide (windows = own)

/-- Whether the current window is the window of the current tab page, and the current buffer the
buffer of that window. -/
def currentAgrees : Act ForeignError Bool := do
  let window ← getAttr v.current "window"
  let tabWindow ← getAttr (← getAttr v.current "tabpage") "window"
  let buffer ← getAttr v.current "buffer"
  let windowBuffer ← getAttr window "buffer"
  return decide (window = tabWindow ∧ buffer = windowBuffer)

/-- Whether iteration goes through as many buffers as there are, all different, in the order of
their numbers. -/
def buffersAgree : Act ForeignError Bool := do
  let count ← length v.buffers
  let buffers ← iterate v.buffers
  let numbers ← buffers.mapM numberOf
  return decide (buffers.length = count ∧ buffers.Nodup ∧ numbers.Pairwise (· < ·))

/-- Whether all that a script can read of the layout agrees. -/
def agree : Act ForeignError Bool := do
  let tabs ← allItems v.tabPages
  let agree ← tabs.zipIdx.mapM fun t => v.tabAgrees t.1 t.2
  let windows ← v.windowsAgree
  let current ← v.currentAgrees
  let buffers ← v.buffersAgree
  return decide ((∀ x ∈ agree, x = true) ∧ windows = true ∧ current = true ∧ buffers = true)

variable {v} {t w : ObjRef} {page : TabPage} {i j id : Nat}

/-- Whether objects are the collections, and what is current. -/
def fit : Object → Object → Object → Object → Bool
  | .proxy .tabList .tabPages, .proxy .windowList (.windows none), .proxy .bufferMap .buffers,
    .proxy .current .current => true
  | _, _, _, _ => false

theorem fit_iff : fit (b.objects.get v.tabPages) (b.objects.get v.windows)
    (b.objects.get v.buffers) (b.objects.get v.current) = true ↔ v.Of b := by
  refine ⟨fun h => ?_, fun ⟨htabs, hwindows, hbuffers, hcurrent⟩ => ?_⟩
  · unfold fit at h
    split at h
    · exact ⟨‹_›, ‹_›, ‹_›, ‹_›⟩
    · cases h
  · rw [htabs, hwindows, hbuffers, hcurrent]
    rfl

instance : Decidable (v.Of b) := decidable_of_iff _ fit_iff

theorem Of.browsed (h : v.Of b) (hread : b.Browsed b') : v.Of b' :=
  ⟨hread.proxy h.tabPages, hread.proxy h.windows, hread.proxy h.buffers, hread.proxy h.current⟩

theorem Of.finds_windowAgrees (h : v.Of b) (hb : b.Readable) (hpage : page ∈ b.editor.tabs)
    (hid : page.windows[j]? = some id) (ht : b.Represents t (.tabPage page.id))
    (hw : b.Represents w (.window id)) :
    (v.windowAgrees t w j).Finds b fun _ x => x = true := by
  have he := hb.wellFormed
  have hlisted := List.mem_of_getElem? hid
  have hhas := he.has_window_of_listed hpage hlisted
  have hstands := hw.standsFor hb.toArranged
  obtain ⟨window, hwindow⟩ := Option.isSome_iff_exists.mp hhas
  have hbuffer := he.has_buffer_of_window (List.mem_of_find?_eq_some hwindow)
  have hsmall : window.buffer < Text.count32 := by
    obtain ⟨x, hx, hnumber⟩ := List.mem_map.mp (Host.Editor.has_buffer.mp hbuffer)
    exact hnumber ▸ he.number_lt hb.fits hx
  have htabpage : Request.Leads b (.attr w "tabpage") (.tabPage page.id) :=
    .tabOfWindow hstands hhas (he.windowTab? hpage hlisted)
  have hshown : Request.Leads b (.attr w "buffer") (.buffer window.buffer) :=
    .shownBuffer hstands hwindow
  refine .bind (finds_numberOf hb hstands hhas) fun number b₁ r₁ hnumber => ?_
  refine .bind (finds_ask (r₁.readable hb) (htabpage.browsed r₁)) fun tab b₂ r₂ htab => ?_
  have h₂ := r₁.trans r₂
  refine .bind (finds_ask (h₂.readable hb) (hshown.browsed h₂)) fun shown b₃ r₃ hshown => ?_
  have h₃ := h₂.trans r₃
  have hb₃ := h₃.readable hb
  refine .bind (finds_number hb₃ (hshown.standsFor hb₃.toArranged) (h₃.editor ▸ hbuffer))
    fun k b₄ r₄ hk => ?_
  have h₄ := h₃.trans r₄
  have hfound : Request.Leads b₄ (.item v.buffers k) (.buffer window.buffer) :=
    leads_buffer (h₄.proxy h.buffers) hk hsmall (h₄.editor ▸ hbuffer)
  refine .bind (finds_ask (h₄.readable hb) hfound) fun found b₅ r₅ hfound => ?_
  have hb₅ := (h₄.trans r₅).readable hb
  -- All are in use at the end, and in one state an entity has one object that represents it.
  refine .pure hb₅ (decide_eq_true ⟨?_, ?_, ?_⟩)
  · rw [hnumber, entityNumber, he.windowNumber? hpage hid]
    rfl
  · exact (((r₃.trans r₄).trans r₅).kept _ _ htab).unique ((h₄.trans r₅).kept _ _ ht) hb₅.toArranged
  · exact ((r₄.trans r₅).kept _ _ hshown).unique hfound hb₅.toArranged

theorem Of.finds_tabAgrees (h : v.Of b) (hb : b.Readable) (hpage : b.editor.tabs[i]? = some page)
    (ht : b.Represents t (.tabPage page.id)) :
    (v.tabAgrees t i).Finds b fun _ x => x = true := by
  have he := hb.wellFormed
  have hmem := List.mem_of_getElem? hpage
  have htab : b.editor.tab? page.id = some page := he.tab?_eq_some.mpr ⟨hmem, rfl⟩
  have hstands := ht.standsFor hb.toArranged
  have hwindow : Request.Leads b (.attr t "window") (.window page.current) :=
    .windowOfTab hstands htab
  refine .bind (finds_numberOf hb hstands (Option.isSome_of_eq_some htab))
    fun number b₁ h₁ hnumber => ?_
  refine .bind (finds_windowsOf (h₁.readable hb) (h₁.proxy hstands) (h₁.editor ▸ htab))
    fun windows b₂ r₂ hwindows => ?_
  have h₂ := h₁.trans r₂
  refine .bind (finds_ask (h₂.readable hb) (hwindow.browsed h₂)) fun window b₃ r₃ hwindow => ?_
  have h₃ := h₂.trans r₃
  have hwindows₃ := r₃.keptAll hwindows
  have hagree : (windows.zipIdx.mapM fun w => v.windowAgrees t w.1 w.2).Finds b₃ fun _ agree =>
      ∀ x ∈ agree, x = true := by
    refine .all (h₃.readable hb) _ fun w hw b' hread => ?_
    obtain ⟨key, hkey, hw⟩ := hwindows₃.getElem? (List.mem_zipIdx_iff_getElem?.mp hw)
    rw [List.getElem?_map, Option.map_eq_some_iff] at hkey
    obtain ⟨id, hid, rfl⟩ := hkey
    have h' := h₃.trans hread
    exact (h.browsed h').finds_windowAgrees (h'.readable hb) (h'.editor ▸ hmem) hid
      (h'.kept _ _ ht) (hread.kept _ _ hw)
  refine .bind hagree fun agree b₄ h₄ hall => ?_
  have hb₃ := h₃.readable hb
  refine .pure (h₄.readable hb₃) (decide_eq_true ⟨?_, ?_, hall⟩)
  · rw [hnumber, entityNumber, he.tabNumber? hpage]
    rfl
  · exact hwindows₃.mem hb₃.toArranged hwindow
      (List.mem_map_of_mem (he.layout.current_listed page hmem))

theorem Of.finds_windowsAgree (h : v.Of b) (hb : b.Readable) :
    v.windowsAgree.Finds b fun _ x => x = true := by
  obtain ⟨page, -, hpage, -⟩ := hb.wellFormed.current
  have hlist : Listing b v.windows (page.windows.map .window) := .windows h.windows hpage
  have htab : Request.Leads b (.attr v.current "tabpage") (.tabPage b.editor.currentTab) :=
    .currentTab h.current
  refine .bind (hlist.finds_allItems hb) fun windows b₁ h₁ hwindows => ?_
  refine .bind (finds_ask (h₁.readable hb) (htab.browsed h₁)) fun tab b₂ r₂ htab => ?_
  have h₂ := h₁.trans r₂
  have hb₂ := h₂.readable hb
  have hpage₂ : b₂.editor.tab? b.editor.currentTab = some page := by rw [h₂.editor, hpage]
  refine .bind (finds_windowsOf hb₂ (htab.standsFor hb₂.toArranged) hpage₂) fun own b₃ r₃ hown => ?_
  have hb₃ := r₃.readable hb₂
  exact .pure hb₃ (decide_eq_true (((r₂.trans r₃).keptAll hwindows).unique hown hb₃.toArranged))

theorem Of.finds_currentAgrees (h : v.Of b) (hb : b.Readable) :
    v.currentAgrees.Finds b fun _ x => x = true := by
  obtain ⟨page, shown, hpage, hcurrent, hshown, hbuffer⟩ := hb.wellFormed.current
  have hwindow : Request.Leads b (.attr v.current "window") (.window b.editor.currentWindow) :=
    .currentWindow h.current
  have htab : Request.Leads b (.attr v.current "tabpage") (.tabPage b.editor.currentTab) :=
    .currentTab h.current
  have hleads : Request.Leads b (.attr v.current "buffer") (.buffer b.editor.currentBuffer) :=
    .currentBuffer h.current
  rw [hcurrent] at hwindow
  rw [hbuffer] at hleads
  refine .bind (finds_ask hb hwindow) fun window b₁ h₁ hwindow => ?_
  refine .bind (finds_ask (h₁.readable hb) (htab.browsed h₁)) fun tab b₂ r₂ htab => ?_
  have h₂ := h₁.trans r₂
  have hb₂ := h₂.readable hb
  have htabWindow : Request.Leads b₂ (.attr tab "window") (.window page.current) :=
    .windowOfTab (htab.standsFor hb₂.toArranged) (by rw [h₂.editor, hpage])
  refine .bind (finds_ask hb₂ htabWindow) fun tabWindow b₃ r₃ htabWindow => ?_
  have h₃ := h₂.trans r₃
  refine .bind (finds_ask (h₃.readable hb) (hleads.browsed h₃)) fun buffer b₄ r₄ hbuffer => ?_
  have h₄ := h₃.trans r₄
  have hb₄ := h₄.readable hb
  have hwindow₄ := ((r₂.trans r₃).trans r₄).kept _ _ hwindow
  have hwindowBuffer : Request.Leads b₄ (.attr window "buffer") (.buffer shown.buffer) :=
    .shownBuffer (hwindow₄.standsFor hb₄.toArranged) (h₄.editor ▸ hshown)
  refine .bind (finds_ask hb₄ hwindowBuffer) fun windowBuffer b₅ r₅ hwindowBuffer => ?_
  have hb₅ := r₅.readable hb₄
  refine .pure hb₅ (decide_eq_true ⟨?_, ?_⟩)
  · exact (r₅.kept _ _ hwindow₄).unique ((r₄.trans r₅).kept _ _ htabWindow) hb₅.toArranged
  · exact (r₅.kept _ _ hbuffer).unique hwindowBuffer hb₅.toArranged

theorem Of.finds_buffersAgree (h : v.Of b) (hb : b.Readable) :
    v.buffersAgree.Finds b fun _ x => x = true := by
  have hlength : (length v.buffers).Finds b fun _ n => n = b.editor.buffers.length :=
    ⟨_, b, (length_container h.buffers rfl).trans (Proxy.slot_ok hb.attached
      (Proxy.readEditor_bind_apply hb.lent)), .refl hb.toArranged, rfl⟩
  refine .bind hlength fun count b₁ h₁ hcount => ?_
  refine .bind (finds_iterate (h₁.readable hb) (h₁.proxy h.buffers)) fun buffers b₂ r₂ hbuffers => ?_
  have h₂ := h₁.trans r₂
  have hb₂ := h₂.readable hb
  rw [h₁.editor] at hbuffers
  have hkeys : ∀ key ∈ bufferKeys b.editor, b₂.editor.has key := by
    intro key hkey
    obtain ⟨id, hid, rfl⟩ := List.mem_map.mp hkey
    rw [h₂.editor]
    exact Host.Editor.has_buffer.mpr hid
  refine .bind (finds_numbers hb₂ hbuffers hkeys) fun numbers b₃ r₃ hnumbers => ?_
  have hlength := (List.Forall₂.length_eq hbuffers).symm
  have hdistinct : (bufferKeys b.editor).Nodup :=
    hb.wellFormed.texts.nodup.map fun _ _ heq => Entity.buffer.inj heq
  refine .pure (r₃.readable hb₂) (decide_eq_true ⟨?_, hbuffers.nodup hb₂.toArranged hdistinct, ?_⟩)
  · rw [hcount, hlength, bufferKeys, List.length_map, List.length_map]
  · rw [hnumbers, bufferKeys, List.map_map, List.pairwise_map]
    exact hb.increasing.imp fun hlt => Int.ofNat_lt.mpr hlt

/-- All that a script reads of the layout agrees, whatever the kind of the interpreter. -/
theorem Of.finds_agree (h : v.Of b) (hb : b.Readable) : v.agree.Finds b fun _ x => x = true := by
  have hlist : Listing b v.tabPages (b.editor.tabs.map fun t => .tabPage t.id) :=
    .tabPages h.tabPages
  refine .bind (hlist.finds_allItems hb) fun tabs b₁ h₁ htabs => ?_
  have hagree : (tabs.zipIdx.mapM fun t => v.tabAgrees t.1 t.2).Finds b₁ fun _ agree =>
      ∀ x ∈ agree, x = true := by
    refine .all (h₁.readable hb) _ fun t ht b' hread => ?_
    obtain ⟨key, hkey, ht⟩ := htabs.getElem? (List.mem_zipIdx_iff_getElem?.mp ht)
    rw [List.getElem?_map, Option.map_eq_some_iff] at hkey
    obtain ⟨page, hpage, rfl⟩ := hkey
    have h' := h₁.trans hread
    exact (h.browsed h').finds_tabAgrees (h'.readable hb) (h'.editor ▸ hpage) (hread.kept _ _ ht)
  refine .bind hagree fun agree b₂ r₂ hall => ?_
  have h₂ := h₁.trans r₂
  refine .bind ((h.browsed h₂).finds_windowsAgree (h₂.readable hb)) fun windows b₃ r₃ hwindows => ?_
  have h₃ := h₂.trans r₃
  refine .bind ((h.browsed h₃).finds_currentAgrees (h₃.readable hb)) fun current b₄ r₄ hcurrent => ?_
  have h₄ := h₃.trans r₄
  refine .bind ((h.browsed h₄).finds_buffersAgree (h₄.readable hb)) fun buffers b₅ r₅ hbuffers => ?_
  exact .pure ((h₄.trans r₅).readable hb) (decide_eq_true ⟨hall, hwindows, hcurrent, hbuffers⟩)

/-- While the editor is lent out for writing, nothing of the layout can be read. -/
theorem Of.agree_busy (h : v.Of b) (hattached : b.attached = true) (hloan : b.loan = .exclusive) :
    v.agree b = .error (.error (.exception .bridge busyText)) b := by
  have hread : Proxy.length .tabList .tabPages b = .error (.error (.host busyText)) b := by
    change (Bridge.readEditor >>= fun e => pure e.tabs.length) b = _
    rw [bind_apply, Proxy.readEditor_busy hloan]
  have hlength : length v.tabPages b = .error (.error (.exception .bridge busyText)) b :=
    (length_container h.tabPages rfl).trans (Proxy.slot_refused hattached rfl rfl hread)
  have hitems : allItems v.tabPages b = .error (.error (.exception .bridge busyText)) b := by
    unfold allItems
    rw [bind_apply, hlength]
  unfold agree
  rw [bind_apply, hitems]

end Views

end Script

/-! ### Reachable states -/

/-- The buffers stay in the order of their numbers. -/
theorem Bridge.Move.increasing {b b' : Bridge} (h : b.Move b') (hb : b.Sound)
    (hincreasing : b.editor.Increasing) : b'.editor.Increasing := by
  cases h with
  | roots hcore _ =>
    have heditor : b'.editor = b.editor := congrArg Core.editor hcore
    exact heditor ▸ hincreasing
  | @edit e h =>
    rw [(b.withEditor_frame e).1]
    exact h.increasing hb.wellFormed hincreasing
  | shutdown =>
    have heditor := (foldl_invalidate_frame (b.liveEntries.map (·.1)) b).1
    rw [clearRegistry_eq]
    exact heditor ▸ hincreasing
  | alloc | register | set | lifecycle => exact hincreasing

theorem Bridge.Moves.increasing {b b' : Bridge} (h : b.Moves b') (hb : b.Sound)
    (hincreasing : b.editor.Increasing) : b'.editor.Increasing := by
  induction h with
  | refl => exact hincreasing
  | tail hmoves hmove ih => exact hmove.increasing (Moves.later hmoves hb).sound ih

namespace Session

open Script (Views)

variable {b₀ b b' : Bridge} {v : Views}

theorem Course.increasing (h : Course b b') (hb : b.Sound) (hincreasing : b.editor.Increasing) :
    b'.editor.Increasing := by
  induction h with
  | refl => exact hincreasing
  | tail hcourse hstep ih =>
    have hsound := (Course.later hcourse hb).sound
    exact (hstep.moves hsound).increasing hsound ih

/-- All states of a session are arranged. -/
theorem Course.arranged (h : Course b₀ b) (hinitial : b₀.Initial) : b.Arranged where
  attached := (h.later hinitial.sound).attached.trans hinitial.attached
  wellFormed := (h.sound hinitial).wellFormed
  increasing := by
    obtain ⟨ops, hops⟩ := hinitial.edited
    exact h.increasing hinitial.sound (hops ▸ Host.Editor.run_increasing ops)
  registered := (h.sound hinitial).registered

/-- The states of a session are arranged. In an arranged state, whatever the kind of the interpreter,
all that a script reads of the layout agrees, and all of it can be read, unless the editor is lent
out for writing: then it cannot be read at all. -/
theorem layout_agrees :
    (∀ {b₀ b : Bridge}, b₀.Initial → Course b₀ b → b.Arranged) ∧
      ∀ {b : Bridge} {v : Views}, b.Arranged → b.editor.IdsFit → v.Of b →
        if b.loan = .exclusive
        then v.agree b = .error (.error (.exception .bridge busyText)) b
        else ∃ b', v.agree b = .ok true b' := by
  refine ⟨fun hinitial hcourse => hcourse.arranged hinitial, fun {b v} hb hfits hv => ?_⟩
  split
  · rename_i hloan
    exact hv.agree_busy hb.attached hloan
  · rename_i hloan
    obtain ⟨x, b', hagree, -, rfl⟩ := hv.finds_agree ⟨hb, hloan, hfits⟩
    exact ⟨b', hagree⟩

/-- The layout of two tab pages, one of them with two windows, agrees. -/
theorem layout_agrees_split :
    let started : List Script.Step := [.mk (.session .ensureReady) none false false,
      .mk (.editor (.newTab 1)) none false false, .mk (.editor (.split 1)) none false false]
    let kept (name : String) : Script.Step :=
      .mk (.object (.build (.member name))) (some name) false false
    let b := after (started ++ ["tabpages", "windows", "buffers", "current"].map kept) .fresh
    let v : Views := ⟨⟨3⟩, ⟨2⟩, ⟨1⟩, ⟨4⟩⟩
    b.editor.tabs.map (·.windows.length) = [1, 2] ∧ ∃ b', v.agree b = .ok true b' := by
  intro started kept b v
  have hcourse : Course .fresh b := course_after _ _
  have hb := layout_agrees.1 Bridge.fresh_initial hcourse
  have hv : v.Of b := by decide +kernel
  have hfits : b.editor.IdsFit := ⟨by decide +kernel, by decide +kernel, by decide +kernel⟩
  have hloan : b.loan ≠ .exclusive := by decide +kernel
  refine ⟨by decide +kernel, ?_⟩
  clear_value b
  have hagree := layout_agrees.2 hb hfits hv
  rwa [if_neg hloan] at hagree

/-- While the editor of a session that is not shut down is lent out for writing, a script that reads
the layout fails. -/
theorem layout_unread_while_lent :
    let kept (name : String) : Script.Step :=
      .mk (.object (.build (.member name))) (some name) false false
    let ready := after (.mk (.session .ensureReady) none false false ::
      ["tabpages", "windows", "buffers", "current"].map kept) .fresh
    let b : Bridge := { ready with
      loan := .exclusive, interpreter := { ready.interpreter with constants := [] } }
    let v : Views := ⟨⟨3⟩, ⟨2⟩, ⟨1⟩, ⟨4⟩⟩
    Course .fresh b ∧ b.lifecycle = .ready ∧ v.Of b ∧
      v.agree b = .error (.error (.exception .bridge "editor is busy")) b := by
  intro kept ready b v
  have hcourse : Course .fresh ready := course_after _ _
  have hlent : Step ready b := .handOver ready.handoff .exclusive ready.range ready.logs
    ready.pendingOut ready.pendingErr ready.interpreter.history ready.interpreter.files
  have hv : v.Of b := by decide +kernel
  have hattached : b.attached = true := by decide +kernel
  have hloan : b.loan = .exclusive := rfl
  refine ⟨.tail hcourse hlent, by decide +kernel, hv, ?_⟩
  clear_value b
  exact hv.agree_busy hattached hloan

end Session

end ScriptBridge
