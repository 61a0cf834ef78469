import ScriptBridge.Bridge.Registry
import ScriptBridge.Proofs.Foreign.Liveness
import ScriptBridge.Proofs.Host.Evolution

/-!
# Sound bridges

The invariant of the bridge over the scripted interpreter: the registry lists exactly the proxies of
entities that are alive, under keys that exist in the editor.
-/

namespace ScriptBridge

open Foreign (ObjRef Object Objects ProxyClass Target)
open Host (Entity)

namespace Foreign

/-- Whether proxies of a class stand for a target. -/
def ProxyClass.fits : ProxyClass → Target → Bool
  | .buffer, .buffer _ | .window, .window _ | .tabPage, .tabPage _ | .range, .range .. => true
  | .bufferMap, .buffers | .windowList, .windows _ | .tabList, .tabPages => true
  | .current, .current | .dictionary, .dict _ | .list, .list _ | .function, .function .. => true
  | .builtin, .builtin _ | .output, .output _ => true
  | .method, .method receiver cls _ => cls.fits receiver
  | .buffer, .invalid | .window, .invalid | .tabPage, .invalid => true
  | _, _ => false

/-- The objects that the scripted interpreter has. -/
def Object.Scripted : Object → Prop
  | .proxy cls t => cls.fits t
  | .raised _ | .wrapper .. | .descriptor .. | .native .. | .iterator .. | .view .. => False
  | .function .. | .bound .. | .mirror _ | .known .. => False
  | _ => True

/-- An object of the scripted interpreter that is no proxy of an entity. -/
def Object.Plain (x : Object) : Prop :=
  x.Scripted ∧ ∀ cls t, x = .proxy cls t → t.entity? = none

theorem Target.entity?_ofEntity (key : Entity) : (Target.ofEntity key).entity? = some key := by
  cases key <;> rfl

theorem Target.eq_ofEntity {t : Target} {key : Entity} (h : t.entity? = some key) :
    t = .ofEntity key := by
  cases t <;> cases h <;> rfl

theorem ProxyClass.fits_ofEntity {cls : ProxyClass} {key : Entity}
    (h : cls.fits (.ofEntity key) = true) : cls = .ofEntity key := by
  cases key <;> cases cls <;> first | rfl | cases h

theorem ProxyClass.ofEntity_fits (key : Entity) :
    (ProxyClass.ofEntity key).fits (.ofEntity key) = true := by
  cases key <;> rfl

end Foreign

namespace Bridge

/-- An object is alive: something that is in use leads to it. -/
def Alive (b : Bridge) (r : ObjRef) : Prop := b.objects.Alive b.roots r

/-- The proxy that stands for an entity. -/
def proxyOf (key : Entity) : Object := .proxy (.ofEntity key) (.ofEntity key)

/-- The entries of the registry stand for what they are registered under. -/
structure Registered (registry : List (Entity × ObjRef)) (objects : Objects) : Prop where
  keys_nodup : (registry.map (·.1)).Nodup
  proxy : ∀ e ∈ registry, objects.get e.2 = proxyOf e.1

/-- The invariant of the bridge over the scripted interpreter. -/
structure Sound (b : Bridge) : Prop where
  scripted : b.interpreter.kind = .scripted
  orderly : b.functions.Orderly
  wellFormed : b.editor.WellFormed
  bare : b.objects.dictionaries = []
  objects : ∀ r, (b.objects.get r).Scripted
  roots_lt : ∀ r ∈ b.roots, r.id < b.objects.cells.size
  references_lt : ∀ r, ∀ s ∈ (b.objects.get r).references, s.id < b.objects.cells.size
  registered : Registered b.registry b.objects
  exists_key : ∀ e ∈ b.registry, b.editor.has e.1
  /-- Each proxy of an entity that is alive is in the registry. -/
  complete : ∀ r cls t key, b.Alive r → b.objects.get r = .proxy cls t → t.entity? = some key →
    (key, r) ∈ b.registry

variable {b : Bridge} {r s : ObjRef}

theorem Alive.lt_size (h : b.Alive r) : r.id < b.objects.cells.size := h.referred.1

namespace Sound

theorem references_eq (hb : b.Sound) (r : ObjRef) :
    b.objects.references r = (b.objects.get r).references := by
  simp [Objects.references, hb.bare]

theorem roots_eq (hb : b.Sound) : b.roots = b.held ++ b.interpreter.names.map (·.2) ++
    b.interpreter.modules.map (·.2) ++ b.interpreter.stdout.toList ++
    b.interpreter.stderr.toList := by
  simp [roots, Objects.classDictionaries, hb.bare]

/-- What is in use is alive. -/
theorem alive_of_mem_roots (hb : b.Sound) (hr : r ∈ b.roots) : b.Alive r :=
  Objects.alive_of_mem_roots (hb.roots_lt r hr) hr

theorem alive_of_mem_held (hb : b.Sound) (hr : r ∈ b.held) : b.Alive r := by
  refine hb.alive_of_mem_roots ?_
  rw [hb.roots_eq]
  simp [hr]

/-- What an object that is alive consists of is alive. -/
theorem alive_of_mem_references (hb : b.Sound) (hs : b.Alive s)
    (hr : r ∈ (b.objects.get s).references) : b.Alive r :=
  Objects.Alive.of_mem_references hs (hb.references_lt s r hr) (hb.references_eq s ▸ hr)

end Sound

end Bridge

/-!
### Invalidating proxies

When entities are destroyed, exactly their registered proxies come to stand for nothing, and exactly
their entries leave the registry.
-/

namespace Foreign.Objects

theorem get_set {o : Objects} {r s : ObjRef} {x : Object} :
    (o.set r x).get s = if s = r ∧ r.id < o.cells.size then x else o.get s := by
  simp only [set, get, Array.getD_eq_getD_getElem?, Array.getElem?_setIfInBounds]
  by_cases hrs : r.id = s.id
  · have : s = r := by cases r; cases s; simp_all
    subst this
    by_cases hlt : s.id < o.cells.size
    · simp [hlt]
    · simp [hlt]
  · have : s ≠ r := fun h => hrs (h ▸ rfl)
    simp [hrs, this]

theorem get_eq_null {o : Objects} {r : ObjRef} (h : o.cells.size ≤ r.id) : o.get r = .null := by
  simp [get, Array.getD_eq_getD_getElem?, h]

@[simp] theorem size_set {o : Objects} {r : ObjRef} {x : Object} :
    (o.set r x).cells.size = o.cells.size := by
  simp [set]

end Foreign.Objects

namespace Bridge

variable {b : Bridge} {key : Entity} {r s : ObjRef}

theorem Registered.mem_inj {registry : List (Entity × ObjRef)} {objects : Objects}
    (h : Registered registry objects) {key key' : Entity} (hr : (key, r) ∈ registry)
    (hr' : (key', r) ∈ registry) : key = key' := by
  have hproxy : proxyOf key = proxyOf key' :=
    (h.proxy (key, r) hr).symm.trans (h.proxy (key', r) hr')
  have hentity := congrArg Target.entity? (Object.proxy.inj hproxy).2
  simpa [Target.entity?_ofEntity] using hentity

theorem Registered.eq_of_mem {registry : List (Entity × ObjRef)} {objects : Objects}
    (h : Registered registry objects) (hr : (key, r) ∈ registry) (hs : (key, s) ∈ registry) :
    r = s :=
  congrArg Prod.snd (List.inj_on_of_nodup_map h.keys_nodup hr hs rfl)

/-- A part of the registry whose proxies are as they were. -/
theorem Registered.filter {registry : List (Entity × ObjRef)} {objects objects' : Objects}
    (h : Registered registry objects) (p : Entity × ObjRef → Bool)
    (hobjects : ∀ e ∈ registry, p e → objects'.get e.2 = objects.get e.2) :
    Registered (registry.filter p) objects' := by
  refine ⟨h.keys_nodup.sublist (List.filter_sublist.map _), fun e he => ?_⟩
  obtain ⟨hmem, hp⟩ := List.mem_filter.mp he
  rw [hobjects e hmem hp, h.proxy e hmem]

/-- What happens to the objects and the registry when entities are gone. -/
structure Invalidated (b b' : Bridge) (gone : List Entity) : Prop where
  eq : b' = { b with objects := b'.objects, registry := b'.registry }
  size : b'.objects.cells.size = b.objects.cells.size
  ends : b'.objects.ends = b.objects.ends
  dictionaries : b'.objects.dictionaries = b.objects.dictionaries
  registry : b'.registry = b.registry.filter fun e => e.1 ∉ gone
  /-- The proxy of what is gone stands for nothing. -/
  get_gone : ∀ key ∈ gone, ∀ r, (key, r) ∈ b.registry →
    b'.objects.get r = .proxy (.ofEntity key) .invalid
  get_other : ∀ r, (∀ key ∈ gone, (key, r) ∉ b.registry) → b'.objects.get r = b.objects.get r

theorem Invalidated.registered {b' : Bridge} {gone : List Entity} (h : Invalidated b b' gone)
    (hb : Registered b.registry b.objects) : Registered b'.registry b'.objects := by
  rw [h.registry]
  refine hb.filter _ fun e he hkept => h.get_other e.2 fun key hkey hmem => ?_
  rw [hb.mem_inj hmem he] at hkey
  simp [hkey] at hkept

/-- Invalidating one entity. -/
theorem invalidated_one (hb : Registered b.registry b.objects) (key : Entity) :
    Invalidated b (b.invalidate key) [key] := by
  unfold invalidate
  cases hfind : b.registry.find? (·.1 = key) with
  | none =>
    have hnone : ∀ e ∈ b.registry, e.1 ≠ key := by simpa using hfind
    refine ⟨rfl, rfl, rfl, rfl, ?_, ?_, fun _ _ => rfl⟩
    · exact (List.filter_eq_self.mpr fun e he => by simpa using hnone e he).symm
    · intro k hk r hr
      exact absurd (List.mem_singleton.mp hk) (hnone _ hr)
  | some entry =>
    obtain ⟨k, r⟩ := entry
    have hk : k = key := by simpa using List.find?_some hfind
    subst hk
    have hmem : (k, r) ∈ b.registry := List.mem_of_find?_eq_some hfind
    have hproxy : b.objects.get r = proxyOf k := hb.proxy _ hmem
    have hlt : r.id < b.objects.cells.size := by
      by_contra hge
      rw [Objects.get_eq_null (by omega)] at hproxy
      cases hproxy
    simp only [hproxy, proxyOf]
    refine ⟨rfl, Objects.size_set, rfl, rfl, ?_, ?_, ?_⟩
    · exact List.filter_congr fun e _ => by simp
    · intro key' hkey' s hs
      cases List.mem_singleton.mp hkey'
      rw [hb.eq_of_mem hs hmem, Objects.get_set, if_pos ⟨rfl, hlt⟩]
    · intro s hs
      rw [Objects.get_set, if_neg]
      rintro ⟨rfl, -⟩
      exact hs k List.mem_cons_self hmem

/-- Invalidating entities one after another. -/
theorem invalidated_all (hb : Registered b.registry b.objects) (gone : List Entity) :
    Invalidated b (gone.foldl invalidate b) gone := by
  induction gone generalizing b with
  | nil =>
    refine ⟨rfl, rfl, rfl, rfl, ?_, by simp, fun _ _ => rfl⟩
    exact (List.filter_eq_self.mpr fun e _ => by simp).symm
  | cons key gone ih =>
    have hone := invalidated_one hb key
    have hrest := ih (hone.registered hb)
    rw [List.foldl_cons]
    refine ⟨?_, hrest.size.trans hone.size, hrest.ends.trans hone.ends,
      hrest.dictionaries.trans hone.dictionaries, ?_, ?_, ?_⟩
    · rw [hrest.eq, hone.eq]
    · rw [hrest.registry, hone.registry, List.filter_filter]
      refine List.filter_congr fun e _ => ?_
      simp [Bool.and_comm]
    · intro k hk r hr
      by_cases hkey : k = key
      · subst hkey
        have hget := hone.get_gone k List.mem_cons_self r hr
        rw [hrest.get_other r, hget]
        intro k' _ hmem
        rw [hone.registry, List.mem_filter] at hmem
        rw [hb.mem_inj hmem.1 hr] at hmem
        simp at hmem
      · refine hrest.get_gone k ((List.mem_cons.mp hk).resolve_left hkey) r ?_
        rw [hone.registry, List.mem_filter]
        exact ⟨hr, by simpa using hkey⟩
    · intro r hr
      have hget := hone.get_other r fun k hk => by
        rw [List.mem_singleton.mp hk]
        exact hr key List.mem_cons_self
      rw [hrest.get_other r, hget]
      intro k hk hmem
      rw [hone.registry, List.mem_filter] at hmem
      exact hr k (List.mem_cons_of_mem _ hk) hmem.1

end Bridge

end ScriptBridge
