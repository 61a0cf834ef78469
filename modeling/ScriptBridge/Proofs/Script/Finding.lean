import ScriptBridge.Proofs.Host.Positions
import ScriptBridge.Proofs.Script.ListWork
import ScriptBridge.Proofs.Script.Looking
import ScriptBridge.Proofs.Session.Requests

/-!
# Reads that find what they look for

While a script reads, the editor stays as it is, and the proxies of entities that the script has met
stay the ones that it meets again. So what several reads find can be compared: objects that
represent the same entity are the same. This holds for both kinds of interpreters.
-/

namespace ScriptBridge

open Foreign (ObjRef Object Objects ProxyClass Target)
open Host (Entity)
open ScriptBridge.Computation

namespace Bridge

/-- What a script relies on when it reads the layout of the editor. -/
structure Arranged (b : Bridge) : Prop where
  attached : b.attached = true
  wellFormed : b.editor.WellFormed
  increasing : b.editor.Increasing
  registered : Registered b.registry b.objects

/-- The editor can be read, and its identifiers are those of an editor with 32 bits for them. -/
structure Readable (b : Bridge) : Prop extends Arranged b where
  lent : b.loan ≠ .exclusive
  fits : b.editor.IdsFit

/-- An object that is in use is the registered proxy of an entity. -/
def Represents (b : Bridge) (r : ObjRef) (key : Entity) : Prop := (key, r) ∈ b.registry ∧ r ∈ b.held

/-- One state comes after another one by reads. -/
structure Browsed (b b' : Bridge) : Prop where
  looked : b.Looked b'
  registered : Registered b'.registry b'.objects
  kept : ∀ r key, b.Represents r key → b'.Represents r key

variable {b b' b'' : Bridge} {r s : ObjRef} {key key' : Entity}

namespace Represents

theorem standsFor (h : b.Represents r key) (hb : b.Arranged) : b.StandsFor r key :=
  hb.registered.proxy (key, r) h.1

/-- One object represents an entity. -/
theorem unique (h : b.Represents r key) (h' : b.Represents s key) (hb : b.Arranged) : r = s :=
  hb.registered.eq_of_mem h.1 h'.1

/-- An object represents one entity. -/
theorem key_eq (h : b.Represents r key) (h' : b.Represents r key') (hb : b.Arranged) : key = key' :=
  hb.registered.mem_inj h.1 h'.1

/-- What is in use stays registered. -/
theorem mem_liveEntries (h : b.Represents r key) (hb : b.Arranged) : (key, r) ∈ b.liveEntries := by
  refine Bridge.mem_liveEntries.mpr ⟨h.1, ?_⟩
  refine Objects.alive_of_mem_roots (lt_size_of_proxy (hb.registered.proxy _ h.1)) ?_
  unfold roots
  simp [h.2]

end Represents

/-- Objects represent entities one by one. -/
def RepresentAll (b : Bridge) (rs : List ObjRef) (keys : List Entity) : Prop :=
  List.Forall₂ (fun key r => b.Represents r key) keys rs

namespace RepresentAll

variable {rs ss : List ObjRef} {keys : List Entity}

theorem unique (h : b.RepresentAll rs keys) (h' : b.RepresentAll ss keys) (hb : b.Arranged) :
    rs = ss := by
  unfold RepresentAll at h h'
  induction h generalizing ss with
  | nil =>
    cases h'
    rfl
  | cons hr _ ih =>
    cases h' with
    | cons hs hss => rw [hr.unique hs hb, ih hss]

/-- What stands at a position represents what stands there. -/
theorem getElem? (h : b.RepresentAll rs keys) {i : Nat} (hi : rs[i]? = some r) :
    ∃ key, keys[i]? = some key ∧ b.Represents r key := by
  obtain ⟨hlength, hget⟩ := List.forall₂_iff_get.mp h
  obtain ⟨hlt, rfl⟩ := List.getElem?_eq_some_iff.mp hi
  have hlt' : i < keys.length := hlength ▸ hlt
  exact ⟨keys[i], List.getElem?_eq_getElem hlt', hget i hlt' hlt⟩

/-- An object is among those that represent entities if its entity is among these. -/
theorem mem (h : b.RepresentAll rs keys) (hb : b.Arranged) (hr : b.Represents r key)
    (hkey : key ∈ keys) : r ∈ rs := by
  obtain ⟨hlength, hget⟩ := List.forall₂_iff_get.mp h
  obtain ⟨i, hi, rfl⟩ := List.mem_iff_getElem.mp hkey
  have hi' : i < rs.length := hlength ▸ hi
  rw [hr.unique (hget i hi hi') hb]
  exact List.getElem_mem hi'

/-- Different entities are represented by different objects. -/
theorem nodup (h : b.RepresentAll rs keys) (hb : b.Arranged) (hkeys : keys.Nodup) : rs.Nodup := by
  refine List.nodup_iff_injective_get.mpr fun i j heq => ?_
  obtain ⟨hlength, hget⟩ := List.forall₂_iff_get.mp h
  have hi := hget i (Nat.lt_of_lt_of_eq i.isLt hlength.symm) i.isLt
  have hj := hget j (Nat.lt_of_lt_of_eq j.isLt hlength.symm) j.isLt
  have hkey := hi.key_eq ((congrArg (b.Represents · _) heq).mpr hj) hb
  exact Fin.ext ((hkeys.getElem_inj_iff).mp hkey)

end RepresentAll

namespace Browsed

theorem refl (hb : b.Arranged) : b.Browsed b := ⟨.refl, hb.registered, fun _ _ h => h⟩

theorem trans (h : b.Browsed b') (h' : b'.Browsed b'') : b.Browsed b'' :=
  ⟨h.looked.trans h'.looked, h'.registered, fun r key hr => h'.kept r key (h.kept r key hr)⟩

theorem editor (h : b.Browsed b') : b'.editor = b.editor := h.looked.editor

theorem readable (h : b.Browsed b') (hb : b.Readable) : b'.Readable := by
  have hrest := h.looked.rest
  have hattached : b'.attached = b.attached := congrArg (·.attached) hrest
  have hloan : b'.loan = b.loan := congrArg (·.loan) hrest
  exact ⟨⟨hattached.trans hb.attached, h.editor ▸ hb.wellFormed, h.editor ▸ hb.increasing,
    h.registered⟩, hloan ▸ hb.lent, h.editor ▸ hb.fits⟩

theorem keptAll (h : b.Browsed b') {rs : List ObjRef} {keys : List Entity}
    (hrs : b.RepresentAll rs keys) : b'.RepresentAll rs keys :=
  List.Forall₂.imp (fun key r hr => h.kept r key hr) hrs

/-- A proxy that is there stays the same. -/
theorem proxy (h : b.Browsed b') {cls : ProxyClass} {t : Target}
    (hr : b.objects.get r = .proxy cls t) : b'.objects.get r = .proxy cls t :=
  (h.looked.objects.get r (lt_size_of_proxy hr)).trans hr

end Browsed

end Bridge

/-- A computation succeeds, does nothing but read, and ends with what is asked for. -/
def Act.Finds {ε α : Type} (a : Act ε α) (b : Bridge) (post : Bridge → α → Prop) : Prop :=
  ∃ x b', a b = .ok x b' ∧ b.Browsed b' ∧ post b' x

namespace Act.Finds

variable {ε δ α β γ : Type} {b : Bridge} {a : Act ε α} {f : α → Act ε β}
  {mid : Bridge → α → Prop} {post : Bridge → β → Prop}

theorem pure (hb : b.Readable) {x : β} (hx : post b x) : (Pure.pure x : Act ε β).Finds b post :=
  ⟨x, b, rfl, .refl hb.toArranged, hx⟩

theorem bind (ha : a.Finds b mid)
    (hf : ∀ x b', b.Browsed b' → mid b' x → (f x).Finds b' post) : (a >>= f).Finds b post := by
  obtain ⟨x, b', hx, hbrowsed, hmid⟩ := ha
  obtain ⟨y, b'', hy, hbrowsed', hpost⟩ := hf x b' hbrowsed hmid
  refine ⟨y, b'', ?_, hbrowsed.trans hbrowsed', hpost⟩
  rw [bind_apply, hx]
  exact hy

/-- The same outcome in the same state. -/
theorem of_eq {a' : Act δ α} (h : a.Finds b mid)
    (heq : ∀ {x : α} {b' : Bridge}, a b = .ok x b' → a' b = .ok x b') : a'.Finds b mid := by
  obtain ⟨x, b', hx, hrest⟩ := h
  exact ⟨x, b', heq hx, hrest⟩

theorem imp {post' : Bridge → α → Prop} (ha : a.Finds b mid)
    (h : ∀ b' x, mid b' x → post' b' x) : a.Finds b post' := by
  obtain ⟨x, b', hx, hbrowsed, hmid⟩ := ha
  exact ⟨x, b', hx, hbrowsed, h b' x hmid⟩

/-- What is found is found by reads. -/
theorem read (ha : a.Finds b mid) : a.Finds b fun b' x => b.Browsed b' ∧ mid b' x := by
  obtain ⟨x, b', hx, hbrowsed, hmid⟩ := ha
  exact ⟨x, b', hx, hbrowsed, hbrowsed, hmid⟩

/-- Computations one after another, each with what is asked for of its argument. -/
theorem mapM {f : γ → Act ε α} {R : Bridge → γ → α → Prop}
    (hkept : ∀ {b b' x y}, b.Browsed b' → R b x y → R b' x y) (hb : b.Readable) (xs : List γ)
    (hf : ∀ x ∈ xs, ∀ b', b.Browsed b' → (f x).Finds b' fun b'' y => R b'' x y) :
    (xs.mapM f).Finds b fun b' ys => List.Forall₂ (R b') xs ys := by
  induction xs generalizing b with
  | nil =>
    rw [List.mapM_nil]
    exact .pure hb .nil
  | cons x xs ih =>
    rw [List.mapM_cons]
    refine .bind (hf x List.mem_cons_self b (.refl hb.toArranged)) fun y b₁ h₁ hy => ?_
    refine .bind (ih (h₁.readable hb) fun x' hx' b' h' =>
      hf x' (List.mem_cons_of_mem _ hx') b' (h₁.trans h')) fun ys b₂ h₂ hys => ?_
    exact .pure (h₂.readable (h₁.readable hb)) (.cons (hkept h₂ hy) hys)

/-- Computations one after another, whose results all have a property. -/
theorem all {f : γ → Act ε α} {p : α → Prop} (hb : b.Readable) (xs : List γ)
    (hf : ∀ x ∈ xs, ∀ b', b.Browsed b' → (f x).Finds b' fun _ y => p y) :
    (xs.mapM f).Finds b fun _ ys => ∀ y ∈ ys, p y := by
  refine (mapM (R := fun _ _ y => p y) (fun _ hy => hy) hb xs hf).imp fun _ ys hys y hy => ?_
  obtain ⟨hlength, hget⟩ := List.forall₂_iff_get.mp hys
  obtain ⟨i, hi, rfl⟩ := List.mem_iff_getElem.mp hy
  exact hget i (Nat.lt_of_lt_of_eq hi hlength.symm) hi

/-- A new object is there. -/
theorem alloc (hb : b.Readable) (x : Object) :
    (Bridge.alloc x : Act ε ObjRef).Finds b fun b' r => Script.Is b' x r := by
  have hold {r : ObjRef} (hr : r.id < b.objects.cells.size) := Bridge.get_withNew_of_lt (x := x) hr
  refine ⟨_, b.withNew x, rfl, ⟨.withNew x, ⟨hb.registered.keys_nodup, fun e he => ?_⟩, ?_⟩, ?_⟩
  · have hproxy := hb.registered.proxy e he
    exact (hold (Bridge.lt_size_of_proxy hproxy)).trans hproxy
  · exact fun r key hr => ⟨hr.1, List.mem_cons_of_mem _ hr.2⟩
  · exact Convert.new_apply x

/-- The proxy of an entity that exists is found, or made. -/
theorem entity (hb : b.Readable) {key : Entity} (hkey : b.editor.has key) :
    (Bridge.entity key).Finds b fun b' r => b'.Represents r key := by
  have happly := Bridge.entity_apply b key
  rw [if_neg hb.lent, if_neg (by simp [hkey])] at happly
  -- A proxy that is still in use is registered as one that is alive, so it is not replaced.
  cases hlookup : b.liveEntries.lookup key with
  | some r =>
    rw [hlookup] at happly
    have hmem := (Bridge.mem_liveEntries.mp (Lookup.mem_of_lookup hlookup)).1
    refine ⟨r, _, happly, ⟨.inUse _ b.registry, hb.registered, ?_⟩, hmem, List.mem_cons_self⟩
    exact fun s key' hs => ⟨hs.1, List.mem_cons_of_mem _ hs.2⟩
  | none =>
    rw [hlookup] at happly
    refine ⟨_, _, happly, ⟨(Bridge.Looked.withNew _).trans (.inUse _ _),
      hb.registered.register hlookup, fun s key' hs => ?_⟩,
      List.mem_append_right _ List.mem_cons_self, List.mem_cons_self⟩
    exact ⟨List.mem_append_left _ (hs.mem_liveEntries hb.toArranged), List.mem_cons_of_mem _ hs.2⟩

end Act.Finds

namespace Script

open Act (Finds)

variable {α : Type} {b b' : Bridge} {o k : ObjRef} {cls : ProxyClass} {t : Target} {key : Entity}

/-! ### What a script asks for -/

theorem finds_slot {a : Act ProxyError α} {post : Bridge → α → Prop} (hb : b.Readable)
    (ha : a.Finds b post) : (Proxy.slot a).Finds b post :=
  ha.of_eq fun h => Proxy.slot_ok hb.attached h

/-- The class of an object under whose keys there are entities. -/
theorem Request.Leads.isContainer (h : Request.Leads b (.item o k) key)
    (ho : b.objects.get o = .proxy cls t) : (cls.isSequence || cls.isMapping) = true := by
  cases h with
  | buffer ho' | window ho' | tabPage ho' =>
    obtain ⟨rfl, -⟩ := Object.proxy.inj (ho.symm.trans ho')
    rfl

/-- An attribute of a target. -/
theorem finds_attr {a : Act ProxyError ObjRef} {post : Bridge → ObjRef → Prop} {name : String}
    (hb : b.Readable) (ho : b.objects.get o = .proxy cls t) (hvalid : t.isValid = true)
    (ha : a.Finds b post) (hattr : Proxy.targetAttr t name b = (some <$> a) b) :
    (getAttr o name).Finds b post := by
  refine ha.of_eq fun {r b'} hr => getAttr_ok hb.attached ho ?_
  unfold Proxy.getAttr?
  rw [if_neg (by simp [hvalid])]
  dsimp only
  rw [bind_apply, hattr, map_eq_pure_bind, bind_apply, hr]
  rfl

/-- A request is answered with the proxy of the entity that it leads to. -/
theorem finds_ask (hb : b.Readable) {request : Request} (h : request.Leads b key) :
    request.ask.Finds b fun b' r => b'.Represents r key := by
  have hentity := Finds.entity hb (h.has_of_wellFormed hb.wellFormed)
  cases request with
  | attr o name =>
    obtain ⟨cls, t, ho, hvalid, hattr⟩ := h.targetAttr_apply
    exact finds_attr hb ho hvalid hentity hattr
  | item o k =>
    obtain ⟨cls, t, ho, hsubscript⟩ := h.subscript_apply
    refine hentity.of_eq fun {r b'} hr => ?_
    exact (getItem_container ho (h.isContainer ho) k).trans
      (Proxy.slot_ok hb.attached (hsubscript.trans hr))

/-- A request by an attribute leads to the same entity after reads. -/
theorem Request.Leads.browsed {name : String} (h : Request.Leads b (.attr o name) key)
    (hread : b.Browsed b') : Request.Leads b' (.attr o name) key := by
  have heditor := hread.editor
  cases h with
  | currentBuffer ho =>
    rw [← heditor]
    exact .currentBuffer (hread.proxy ho)
  | currentWindow ho =>
    rw [← heditor]
    exact .currentWindow (hread.proxy ho)
  | currentTab ho =>
    rw [← heditor]
    exact .currentTab (hread.proxy ho)
  | shownBuffer ho hw => exact .shownBuffer (hread.proxy ho) (heditor ▸ hw)
  | tabOfWindow ho hw ht => exact .tabOfWindow (hread.proxy ho) (heditor ▸ hw) (heditor ▸ ht)
  | windowOfTab ho ht => exact .windowOfTab (hread.proxy ho) (heditor ▸ ht)

/-! ### Numbers -/

/-- The number of a buffer, a window or a tab page. -/
def numberOf (o : ObjRef) : Act ForeignError Int := do integerOf (← getAttr o "number")

/-- The number that an entity has. -/
def entityNumber (e : Host.Editor) : Entity → Nat
  | .buffer id => id
  | .window id => (e.windowNumber? id).getD 0
  | .tabPage id => (e.tabNumber? id).getD 0

theorem finds_number (hb : b.Readable) (ho : b.StandsFor o key) (hkey : b.editor.has key) :
    (getAttr o "number").Finds b fun b' r => Is b' (.int (entityNumber b.editor key)) r := by
  cases key with
  | buffer id | window id | tabPage id =>
    obtain ⟨x, hx⟩ := Option.isSome_iff_exists.mp hkey
    refine finds_attr hb ho rfl (.alloc hb _) ((Proxy.readEditor_bind_apply hb.lent).trans ?_)
    rw [hx]
    rfl

theorem finds_numberOf (hb : b.Readable) (ho : b.StandsFor o key) (hkey : b.editor.has key) :
    (numberOf o).Finds b fun _ n => n = entityNumber b.editor key := by
  refine .bind (finds_number hb ho hkey) fun r b' hread hr => ?_
  refine ⟨_, b', ?_, .refl (hread.readable hb).toArranged, rfl⟩
  unfold integerOf
  rw [bind_apply, get_apply]
  dsimp only
  rw [integer?, hr.2]
  rfl

end Script

end ScriptBridge
