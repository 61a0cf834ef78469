import ScriptBridge.Proofs.Bridge.Sound

/-!
# Moves of the bridge

Everything that runs changes the bridge by moves. Each move keeps the bridge sound, brings no object
back to life, and changes no proxy but those of entities that are destroyed by it. A computation
keeps a part of the bridge when that part is the same after it, whether it succeeds or fails.
-/

namespace ScriptBridge

open Foreign (ObjRef Object Objects ProxyClass Target)
open Host (Editor Entity UserFunctions)
open Script (Lifecycle)

namespace Bridge

/-- What the invariant depends on, beside what is in use. -/
structure Core where
  editor : Editor
  functions : UserFunctions
  cells : Array Object
  dictionaries : List (Foreign.Holder × ObjRef)
  registry : List (Entity × ObjRef)
  kind : Foreign.InterpreterKind
  attached : Bool
  lifecycle : Lifecycle

/-- The core of a bridge. -/
def core (b : Bridge) : Core where
  editor := b.editor
  functions := b.functions
  cells := b.objects.cells
  dictionaries := b.objects.dictionaries
  registry := b.registry
  kind := b.interpreter.kind
  attached := b.attached
  lifecycle := b.lifecycle

/-- The ways in which the bridge changes in one step. -/
inductive Move (b : Bridge) : Bridge → Prop where
  /-- Something else is in use; it was alive. -/
  | roots {b' : Bridge} (hcore : b'.core = b.core)
      (hroots : ∀ r ∈ b'.roots, r ∈ b.roots ∨ b.Alive r) : Move b b'
  | alloc {x : Object} (hx : x.Plain) (hreferences : ∀ s ∈ x.references, b.Alive s) :
      Move b { b with
        objects := (b.objects.alloc x).2, held := (b.objects.alloc x).1 :: b.held }
  /-- An entity without a proxy that is alive gets one. -/
  | register {key : Entity} (hkey : b.editor.has key) (hfree : b.liveEntries.lookup key = none) :
      Move b { b with
        objects := (b.objects.alloc (proxyOf key)).2
        held := (b.objects.alloc (proxyOf key)).1 :: b.held
        registry := b.liveEntries ++ [(key, (b.objects.alloc (proxyOf key)).1)] }
  | set {r : ObjRef} {x : Object} (hx : x.Plain) (hnew : ∀ cls t, x ≠ .proxy cls t)
      (hold : ∀ cls t, b.objects.get r ≠ .proxy cls t)
      (hreferences : ∀ s ∈ x.references, b.Alive s) :
      Move b { b with objects := b.objects.set r x }
  | edit {e : Editor} (h : b.editor.Moves e) : Move b (b.withEditor e)
  | lifecycle {l : Lifecycle} (h : b.lifecycle = .finalized → l = .finalized) :
      Move b { b with lifecycle := l }
  /-- The interpreter is shut down while proxies may be alive. -/
  | shutdown : Move b { b.clearRegistry with lifecycle := .finalized }

/-- One bridge comes after another one by moves. -/
def Moves : Bridge → Bridge → Prop := Relation.ReflTransGen Move

/-- What holds between a bridge and a later one. -/
structure Later (b b' : Bridge) : Prop where
  sound : b'.Sound
  size_le : b.objects.cells.size ≤ b'.objects.cells.size
  evolves : b.editor.Evolves b'.editor
  attached : b'.attached = b.attached
  finalized : b.lifecycle = .finalized → b'.lifecycle = .finalized
  /-- What is alive later and is not new was alive before. -/
  alive : ∀ r, r.id < b.objects.cells.size → b'.Alive r → b.Alive r
  /-- A proxy changes only when its entity is gone or the interpreter is shut down. -/
  proxy : ∀ r cls t, b.objects.get r = .proxy cls t → b'.objects.get r = .proxy cls t ∨
    (b'.objects.get r = .proxy cls .invalid ∧
      ∃ key, t.entity? = some key ∧ (b'.lifecycle = .finalized ∨ b'.editor.Gone key))

variable {b b' b'' : Bridge} {r s : ObjRef}

namespace Later

/-- A sound bridge comes after itself. -/
theorem refl (hb : b.Sound) : b.Later b :=
  ⟨hb, Nat.le_refl _, .refl hb.wellFormed, rfl, id, fun _ _ h => h, fun _ _ _ h => .inl h⟩

theorem trans (h : b.Later b') (h' : b'.Later b'') : b.Later b'' := by
  refine ⟨h'.sound, Nat.le_trans h.size_le h'.size_le, h.evolves.trans h'.evolves,
    h'.attached.trans h.attached, fun hf => h'.finalized (h.finalized hf), ?_, ?_⟩
  · exact fun r hr halive => h.alive r hr (h'.alive r (Nat.lt_of_lt_of_le hr h.size_le) halive)
  · intro r cls t hproxy
    rcases h.proxy r cls t hproxy with hsame | ⟨hinvalid, key, hkey, hgone⟩
    · exact h'.proxy r cls t hsame
    · have hgone' : b''.lifecycle = .finalized ∨ b''.editor.Gone key :=
        hgone.imp h'.finalized h'.evolves.gone
      rcases h'.proxy r cls .invalid hinvalid with hsame | ⟨-, key', hkey', -⟩
      · exact .inr ⟨hsame, key, hkey, hgone'⟩
      · cases hkey'

end Later

/-- Nothing comes back to life as long as what is in use and what objects consist of was there
before or is alive. -/
theorem Sound.alive_before (hb : b.Sound) (hlt : r.id < b.objects.cells.size) (h : b'.Alive r)
    (hbare : b'.objects.dictionaries = [])
    (hroots : ∀ s ∈ b'.roots, s.id < b.objects.cells.size → b.Alive s)
    (hreferences : ∀ t, ∀ s ∈ (b'.objects.get t).references, s.id < b.objects.cells.size →
      s ∈ (b.objects.get t).references ∨ b.Alive s) : b.Alive r := by
  refine Objects.Alive.before hroots (fun t s hs hslt => ?_) hlt h
  have hs' : s ∈ (b'.objects.get t).references := by simpa [Objects.references, hbare] using hs
  rcases hreferences t s hs' hslt with hold | halive
  · refine .inl ⟨?_, hb.references_eq t ▸ hold⟩
    by_contra hge
    rw [Objects.get_eq_null (by omega)] at hold
    cases hold
  · exact .inr halive

theorem Move.later_roots (hb : b.Sound) (hcore : b'.core = b.core)
    (hroots : ∀ r ∈ b'.roots, r ∈ b.roots ∨ b.Alive r) : b.Later b' := by
  have heditor : b'.editor = b.editor := congrArg Core.editor hcore
  have hcells : b'.objects.cells = b.objects.cells := congrArg Core.cells hcore
  have hregistry : b'.registry = b.registry := congrArg Core.registry hcore
  have hdictionaries : b'.objects.dictionaries = b.objects.dictionaries :=
    congrArg Core.dictionaries hcore
  have hget (r : ObjRef) : b'.objects.get r = b.objects.get r := by rw [Objects.get, hcells]; rfl
  have halive (r : ObjRef) (hr : r ∈ b'.roots) : b.Alive r :=
    (hroots r hr).elim hb.alive_of_mem_roots id
  have hbefore (r : ObjRef) (hlt : r.id < b.objects.cells.size) (h : b'.Alive r) : b.Alive r :=
    hb.alive_before hlt h (hdictionaries.trans hb.bare) (fun s hs _ => halive s hs)
      (fun t s hs _ => .inl (hget t ▸ hs))
  have hsound : b'.Sound := by
    refine ⟨(congrArg Core.kind hcore).trans hb.scripted, ?_, heditor ▸ hb.wellFormed,
      hdictionaries.trans hb.bare, fun r => hget r ▸ hb.objects r, ?_, ?_, ?_, ?_, ?_⟩
    · have hfunctions : b'.functions = b.functions := congrArg Core.functions hcore
      exact hfunctions ▸ hb.orderly
    · exact fun r hr => hcells ▸ (halive r hr).lt_size
    · exact fun r s hs => hcells ▸ hb.references_lt r s (hget r ▸ hs)
    · exact ⟨hregistry ▸ hb.registered.keys_nodup, fun e he => hget e.2 ▸
        hb.registered.proxy e (hregistry ▸ he)⟩
    · exact fun e he => heditor ▸ hb.exists_key e (hregistry ▸ he)
    · intro r cls t key hr hproxy hkey
      have hlt : r.id < b.objects.cells.size := hcells ▸ hr.lt_size
      exact hregistry ▸ hb.complete r cls t key (hbefore r hlt hr) (hget r ▸ hproxy) hkey
  refine ⟨hsound, Nat.le_of_eq (congrArg Array.size hcells).symm,
    heditor.symm ▸ .refl hb.wellFormed, congrArg Core.attached hcore,
    fun h => (congrArg Core.lifecycle hcore).trans h, hbefore, ?_⟩
  exact fun r cls t hproxy => .inl ((hget r).trans hproxy)

/-- A bridge with a new object, which is in use. -/
def withNew (b : Bridge) (x : Object) : Bridge :=
  { b with objects := (b.objects.alloc x).2, held := (b.objects.alloc x).1 :: b.held }

theorem get_withNew {x : Object} :
    (b.withNew x).objects.get r = if r.id = b.objects.cells.size then x else b.objects.get r := by
  simp only [withNew, Objects.alloc, Objects.get, Array.getD_eq_getD_getElem?,
    Array.getElem?_push]
  split <;> rfl

theorem get_withNew_of_lt {x : Object} (h : r.id < b.objects.cells.size) :
    (b.withNew x).objects.get r = b.objects.get r := by
  rw [get_withNew, if_neg (Nat.ne_of_lt h)]

theorem size_withNew {x : Object} :
    (b.withNew x).objects.cells.size = b.objects.cells.size + 1 := by
  simp [withNew, Objects.alloc]

theorem roots_withNew {x : Object} : (b.withNew x).roots = ⟨b.objects.cells.size⟩ :: b.roots := rfl

/-- There is a cell for each proxy. -/
theorem lt_size_of_proxy {cls : ProxyClass} {t : Target} (h : b.objects.get r = .proxy cls t) :
    r.id < b.objects.cells.size := by
  by_contra hge
  rw [Objects.get_eq_null (by omega)] at h
  cases h

section Alloc

variable {x : Object} (hb : b.Sound)

include hb

theorem Sound.scripted_withNew (hx : x.Scripted) (r : ObjRef) :
    ((b.withNew x).objects.get r).Scripted := by
  rw [get_withNew]
  split
  · exact hx
  · exact hb.objects r

variable (hreferences : ∀ s ∈ x.references, b.Alive s)

include hreferences

/-- A new object brings nothing back to life. -/
theorem Alive.before_withNew (hlt : r.id < b.objects.cells.size) (h : (b.withNew x).Alive r) :
    b.Alive r := by
  refine hb.alive_before hlt h hb.bare (fun s hs hslt => ?_) (fun t s hs _ => ?_)
  · rcases List.mem_cons.mp (roots_withNew ▸ hs) with rfl | hs
    · exact absurd hslt (Nat.lt_irrefl _)
    · exact hb.alive_of_mem_roots hs
  · rw [get_withNew] at hs
    split at hs
    · exact .inr (hreferences s hs)
    · exact .inl hs

/-- The parts of the invariant that do not mention the registry. -/
theorem Sound.withNew_lt :
    (∀ r ∈ (b.withNew x).roots, r.id < (b.withNew x).objects.cells.size) ∧
      ∀ r, ∀ s ∈ ((b.withNew x).objects.get r).references,
        s.id < (b.withNew x).objects.cells.size := by
  rw [size_withNew]
  refine ⟨fun r hr => ?_, fun r s hs => ?_⟩
  · rcases List.mem_cons.mp (roots_withNew ▸ hr) with rfl | hr
    · exact Nat.lt_succ_self _
    · exact Nat.lt_succ_of_lt (hb.roots_lt r hr)
  · rw [get_withNew] at hs
    split at hs
    · exact Nat.lt_succ_of_lt (hreferences s hs).lt_size
    · exact Nat.lt_succ_of_lt (hb.references_lt r s hs)

end Alloc

theorem Move.later_alloc {x : Object} (hb : b.Sound) (hx : x.Plain)
    (hreferences : ∀ s ∈ x.references, b.Alive s) : b.Later (b.withNew x) := by
  have hlt := hb.withNew_lt hreferences
  have hregistered : Registered b.registry (b.withNew x).objects := by
    refine ⟨hb.registered.keys_nodup, fun e he => ?_⟩
    have hproxy := hb.registered.proxy e he
    rw [get_withNew_of_lt (lt_size_of_proxy hproxy), hproxy]
  refine ⟨⟨hb.scripted, hb.orderly, hb.wellFormed, hb.bare, hb.scripted_withNew hx.1,
    hlt.1, hlt.2, hregistered, hb.exists_key, ?_⟩, ?_, .refl hb.wellFormed, rfl, id,
    fun r hr h => h.before_withNew hb hreferences hr, fun r cls t hproxy => .inl ?_⟩
  · intro r cls t key hr hproxy hkey
    rw [get_withNew] at hproxy
    split at hproxy
    · exact absurd (hx.2 cls t hproxy) (by simp [hkey])
    · rename_i hne
      have hrlt : r.id < b.objects.cells.size := by
        have := hr.lt_size
        rw [size_withNew] at this
        omega
      exact hb.complete r cls t key (hr.before_withNew hb hreferences hrlt) hproxy hkey
  · rw [size_withNew]
    exact Nat.le_succ _
  · rw [get_withNew_of_lt (lt_size_of_proxy hproxy), hproxy]

theorem mem_liveEntries {entry : Entity × ObjRef} :
    entry ∈ b.liveEntries ↔ entry ∈ b.registry ∧ b.Alive entry.2 :=
  List.mem_filter

/-- The registry with a new proxy of an entity that had none that is alive. -/
theorem Registered.register {key : Entity} (hregistered : Registered b.registry b.objects)
    (hfree : b.liveEntries.lookup key = none) :
    Registered (b.liveEntries ++ [(key, (b.objects.alloc (proxyOf key)).1)])
      (b.withNew (proxyOf key)).objects := by
  have hnew : (b.withNew (proxyOf key)).objects.get ⟨b.objects.cells.size⟩ = proxyOf key := by
    rw [get_withNew, if_pos rfl]
  have hold {entry : Entity × ObjRef} (he : entry ∈ b.registry) :
      (b.withNew (proxyOf key)).objects.get entry.2 = proxyOf entry.1 := by
    have hproxy := hregistered.proxy entry he
    rw [get_withNew_of_lt (lt_size_of_proxy hproxy), hproxy]
  have habsent : key ∉ b.liveEntries.map (·.1) := by
    intro hmem
    obtain ⟨entry, hentry, heq⟩ := List.mem_map.mp hmem
    have := List.lookup_eq_none_iff.mp hfree entry hentry
    simp [heq] at this
  refine ⟨?_, ?_⟩
  · rw [List.map_append, List.map_singleton]
    refine List.Nodup.append (hregistered.keys_nodup.sublist (List.filter_sublist.map _))
      (List.nodup_singleton _) ?_
    exact fun k hk hk' => habsent (by rwa [List.mem_singleton.mp hk'] at hk)
  · intro entry he
    rcases List.mem_append.mp he with he | he
    · exact hold (mem_liveEntries.mp he).1
    · rw [List.mem_singleton.mp he]
      exact hnew

theorem Move.later_register {key : Entity} (hb : b.Sound) (hkey : b.editor.has key)
    (hfree : b.liveEntries.lookup key = none) :
    b.Later { b.withNew (proxyOf key) with
      registry := b.liveEntries ++ [(key, (b.objects.alloc (proxyOf key)).1)] } := by
  have hreferences : ∀ s ∈ (proxyOf key).references, b.Alive s := nofun
  have hlt := hb.withNew_lt hreferences
  refine ⟨⟨hb.scripted, hb.orderly, hb.wellFormed, hb.bare,
    hb.scripted_withNew (ProxyClass.ofEntity_fits key), hlt.1, hlt.2,
    hb.registered.register hfree, ?_, ?_⟩, ?_,
    .refl hb.wellFormed, rfl, id, fun r hr h => h.before_withNew hb hreferences hr,
    fun r cls t hproxy => .inl ?_⟩
  · intro entry he
    rcases List.mem_append.mp he with he | he
    · exact hb.exists_key entry (mem_liveEntries.mp he).1
    · rw [List.mem_singleton.mp he]
      exact hkey
  · intro r cls t key' hr hproxy hkey'
    change (b.withNew (proxyOf key)).objects.get r = _ at hproxy
    rw [get_withNew] at hproxy
    split at hproxy
    · rename_i hr
      have ht := (Object.proxy.inj hproxy).2
      have hsame : key = key' := by
        rw [← ht, Target.entity?_ofEntity] at hkey'
        exact Option.some.inj hkey'
      have hrnew : r = (b.objects.alloc (proxyOf key)).1 := by cases r; cases hr; rfl
      rw [hrnew, ← hsame]
      exact List.mem_append_right _ List.mem_cons_self
    · rename_i hne
      have hrlt : r.id < b.objects.cells.size := by
        have hr' := hr.lt_size
        have hsize : (b.withNew (proxyOf key)).objects.cells.size = _ := size_withNew
        change r.id < (b.withNew (proxyOf key)).objects.cells.size at hr'
        omega
      have halive : b.Alive r := Alive.before_withNew hb hreferences hrlt hr
      exact List.mem_append_left _
        (mem_liveEntries.mpr ⟨hb.complete r cls t key' halive hproxy hkey', halive⟩)
  · exact Nat.le_of_lt (Nat.lt_of_lt_of_eq (Nat.lt_succ_self _) size_withNew.symm)
  · exact (get_withNew_of_lt (lt_size_of_proxy hproxy)).trans hproxy

theorem Move.later_set {x : Object} (hb : b.Sound) (hx : x.Plain) (hnew : ∀ cls t, x ≠ .proxy cls t)
    (hold : ∀ cls t, b.objects.get r ≠ .proxy cls t) (hreferences : ∀ s ∈ x.references, b.Alive s) :
    b.Later { b with objects := b.objects.set r x } := by
  have hproxy {s : ObjRef} {cls : ProxyClass} {t : Target} :
      (b.objects.set r x).get s = .proxy cls t ↔ b.objects.get s = .proxy cls t := by
    rw [Objects.get_set]
    split
    · rename_i hs
      exact ⟨fun h => absurd h (hnew cls t), fun h => absurd (hs.1 ▸ h) (hold cls t)⟩
    · rfl
  have hbefore (s : ObjRef) (hlt : s.id < b.objects.cells.size)
      (h : Alive { b with objects := b.objects.set r x } s) : b.Alive s := by
    refine hb.alive_before hlt h hb.bare (fun u hu _ => hb.alive_of_mem_roots hu) fun t u hu _ => ?_
    rw [Objects.get_set] at hu
    split at hu
    · exact .inr (hreferences u hu)
    · exact .inl hu
  refine ⟨⟨hb.scripted, hb.orderly, hb.wellFormed, hb.bare, fun s => ?_, ?_, fun t s hs => ?_,
    ⟨hb.registered.keys_nodup, fun e he => hproxy.mpr (hb.registered.proxy e he)⟩, hb.exists_key, ?_⟩,
    Nat.le_of_eq Objects.size_set.symm, .refl hb.wellFormed, rfl, id, hbefore,
    fun s cls t h => .inl (hproxy.mpr h)⟩
  · rw [Objects.get_set]
    split
    · exact hx.1
    · exact hb.objects s
  · rw [Objects.size_set]
    exact hb.roots_lt
  · rw [Objects.size_set]
    rw [Objects.get_set] at hs
    split at hs
    · exact (hreferences s hs).lt_size
    · exact hb.references_lt t s hs
  · intro s cls t key hs hget hkey
    have hlt : s.id < b.objects.cells.size := Objects.size_set ▸ hs.lt_size
    exact hb.complete s cls t key (hbefore s hlt hs) (hproxy.mp hget) hkey

/-- Proxies of entities that are gone come to stand for nothing, and only entries whose proxies are
not alive are dropped beside theirs. -/
theorem Sound.later_invalidated (hb : b.Sound) {e : Editor} {l : Lifecycle} {gone : List Entity}
    {registry : List (Entity × ObjRef)} (he : b.editor.Evolves e)
    (hl : b.lifecycle = .finalized → l = .finalized)
    (h : Invalidated { b with editor := e, lifecycle := l } b' gone)
    (hgone : ∀ key ∈ gone, l = .finalized ∨ e.Gone key)
    (hsub : registry.Sublist (b.registry.filter fun entry => entry.1 ∉ gone))
    (hexists : ∀ entry ∈ registry, e.has entry.1)
    (hkept : ∀ entry ∈ b.registry, b.Alive entry.2 → entry.1 ∉ gone → entry ∈ registry) :
    b.Later { b' with registry } := by
  have hroots : b'.roots = b.roots := by
    have heq := h.eq
    have hdictionaries := h.dictionaries
    rw [heq, roots, roots, Objects.classDictionaries, Objects.classDictionaries, hdictionaries]
  have hget (r : ObjRef) : (∃ key ∈ gone, (key, r) ∈ b.registry ∧
      b'.objects.get r = .proxy (.ofEntity key) .invalid) ∨ b'.objects.get r = b.objects.get r := by
    by_cases hr : ∃ key ∈ gone, (key, r) ∈ b.registry
    · obtain ⟨key, hkey, hmem⟩ := hr
      exact .inl ⟨key, hkey, hmem, h.get_gone key hkey r hmem⟩
    · exact .inr (h.get_other r fun key hkey hmem => hr ⟨key, hkey, hmem⟩)
  have hreferences (t s : ObjRef) (hs : s ∈ (b'.objects.get t).references) :
      s ∈ (b.objects.get t).references := by
    rcases hget t with ⟨key, -, -, hinvalid⟩ | hsame
    · rw [hinvalid] at hs
      cases hs
    · rwa [hsame] at hs
  have hbefore (r : ObjRef) (hlt : r.id < b.objects.cells.size)
      (halive : Alive { b' with registry } r) : b.Alive r :=
    hb.alive_before hlt halive (h.dictionaries.trans hb.bare)
      (fun s hs _ => hb.alive_of_mem_roots (hroots ▸ hs))
      (fun t s hs _ => .inl (hreferences t s hs))
  have hfilter := (h.registered hb.registered)
  rw [h.registry] at hfilter
  refine ⟨⟨?_, ?_, ?_, h.dictionaries.trans hb.bare, fun r => ?_, ?_, ?_, ⟨?_, ?_⟩, ?_, ?_⟩, ?_, ?_, ?_, ?_,
    hbefore, ?_⟩
  · rw [h.eq]
    exact hb.scripted
  · rw [h.eq]
    exact hb.orderly
  · rw [h.eq]
    exact he.wellFormed
  · rcases hget r with ⟨key, -, -, hinvalid⟩ | hsame
    · exact hinvalid ▸ by cases key <;> rfl
    · exact hsame ▸ hb.objects r
  · exact fun r hr => h.size.symm ▸ hb.roots_lt r (hroots ▸ hr)
  · exact fun r s hs => h.size.symm ▸ hb.references_lt r s (hreferences r s hs)
  · exact hfilter.keys_nodup.sublist (hsub.map _)
  · exact fun entry hentry => hfilter.proxy entry (hsub.subset hentry)
  · rw [h.eq]
    exact hexists
  · intro r cls t key hr hproxy hkey
    have halive := hbefore r (h.size ▸ hr.lt_size) hr
    rcases hget r with ⟨key', -, -, hinvalid⟩ | hsame
    · rw [hinvalid] at hproxy
      cases hproxy
      cases hkey
    · have hmem := hb.complete r cls t key halive (hsame ▸ hproxy) hkey
      refine hkept _ hmem halive fun hgone => ?_
      rw [h.get_gone key hgone r hmem] at hproxy
      cases hproxy
      cases hkey
  · exact Nat.le_of_eq h.size.symm
  · rw [h.eq]
    exact he
  · rw [h.eq]
  · rw [h.eq]
    exact hl
  · intro r cls t hproxy
    rcases hget r with ⟨key, hkey, hmem, hinvalid⟩ | hsame
    · have hold : b.objects.get r = proxyOf key := hb.registered.proxy _ hmem
      rw [hproxy] at hold
      cases hold
      refine .inr ⟨hinvalid, key, Target.entity?_ofEntity key, ?_⟩
      rw [h.eq]
      exact hgone key hkey
    · exact .inl (hsame.trans hproxy)

theorem Move.later_edit {e : Editor} (hb : b.Sound) (h : b.editor.Moves e) :
    b.Later (b.withEditor e) := by
  have he := h.evolves hb.wellFormed
  obtain ⟨gone, hdeparted, hgone, hkept⟩ := he.announced
  have hdrop : e.departed.drop b.editor.departed.length = gone := by
    rw [hdeparted, List.drop_left]
  have hinvalidated : Invalidated { b with editor := e } (b.withEditor e) gone := by
    rw [withEditor, hdrop]
    exact invalidated_all (b := { b with editor := e }) hb.registered gone
  have hlater := hb.later_invalidated he id hinvalidated (fun key hkey => .inr (hgone key hkey))
    (List.Sublist.refl _) ?_ ?_
  · rwa [← hinvalidated.registry] at hlater
  · intro entry hentry
    obtain ⟨hmem, hnot⟩ := List.mem_filter.mp hentry
    exact (hkept _ (hb.exists_key entry hmem)).resolve_right (by simpa using hnot)
  · intro entry hentry _ hnot
    exact List.mem_filter.mpr ⟨hentry, by simpa using hnot⟩

theorem clearRegistry_eq (b : Bridge) : b.clearRegistry =
    { (b.liveEntries.map (·.1)).foldl invalidate b with registry := [] } := by
  rw [clearRegistry, List.foldl_map]

theorem Move.later_shutdown (hb : b.Sound) :
    b.Later { b.clearRegistry with lifecycle := .finalized } := by
  have hinvalidated := invalidated_all hb.registered (b.liveEntries.map (·.1))
  have hfinal : Invalidated { b with editor := b.editor, lifecycle := .finalized }
      { (b.liveEntries.map (·.1)).foldl invalidate b with lifecycle := .finalized }
      (b.liveEntries.map (·.1)) :=
    ⟨congrArg (fun b : Bridge => { b with lifecycle := .finalized }) hinvalidated.eq,
      hinvalidated.size, hinvalidated.ends, hinvalidated.dictionaries, hinvalidated.registry,
      hinvalidated.get_gone, hinvalidated.get_other⟩
  rw [clearRegistry_eq]
  refine hb.later_invalidated (.refl hb.wellFormed) (fun _ => rfl) hfinal
    (fun _ _ => .inl rfl) (List.nil_sublist _) (by simp) ?_
  exact fun entry hentry halive hnot =>
    absurd (List.mem_map_of_mem (mem_liveEntries.mpr ⟨hentry, halive⟩)) hnot

/-- What one move does. -/
theorem Move.later (h : b.Move b') (hb : b.Sound) : b.Later b' := by
  cases h with
  | roots hcore hroots => exact later_roots hb hcore hroots
  | alloc hx hreferences => exact later_alloc hb hx hreferences
  | register hkey hfree => exact later_register hb hkey hfree
  | set hx hnew hold hreferences => exact later_set hb hx hnew hold hreferences
  | edit h => exact later_edit hb h
  | lifecycle h =>
    exact ⟨⟨hb.scripted, hb.orderly, hb.wellFormed, hb.bare, hb.objects, hb.roots_lt,
      hb.references_lt, hb.registered, hb.exists_key, hb.complete⟩, Nat.le_refl _,
      .refl hb.wellFormed, rfl, h, fun _ _ h => h, fun _ _ _ h => .inl h⟩
  | shutdown => exact later_shutdown hb

/-- What a run of moves does. -/
theorem Moves.later (h : b.Moves b') (hb : b.Sound) : b.Later b' := by
  induction h with
  | refl => exact .refl hb
  | tail _ hmove ih => exact ih.trans (hmove.later ih.sound)

end Bridge

/-! ### What computations leave alone -/

open ScriptBridge.Computation

variable {ε δ α β γ π : Type} {part : Bridge → π}

theorem final_mapError (a : Act ε α) (f : ε → δ) (b : Bridge) :
    final (a.mapError f b) = final (a b) := by
  unfold Act.mapError
  cases a b <;> rfl

theorem final_attempt (a : Act ε α) (b : Bridge) :
    final ((Act.attempt a : Act δ (Except ε α)) b) = final (a b) := by
  unfold Act.attempt
  cases a b with
  | ok x b' => rfl
  | error stop b' => cases stop <;> rfl

/-- A computation leaves a part of the session as it was. -/
def Act.Keeps (part : Bridge → π) (a : Act ε α) : Prop := ∀ b, part (final (a b)) = part b

namespace Act.Keeps

theorem pure (x : α) : (Pure.pure x : Act ε α).Keeps part := fun _ => rfl

theorem fail (e : ε) : (Act.fail e : Act ε α).Keeps part := fun _ => rfl

theorem get : (MonadState.get : Act ε Bridge).Keeps part := fun _ => rfl

theorem modify {f : Bridge → Bridge} (hf : ∀ b, part (f b) = part b) :
    (modify f : Act ε PUnit).Keeps part := hf

theorem alloc {x : Object} (hpart : ∀ b : Bridge, part (b.withNew x) = part b) :
    (Bridge.alloc x : Act ε ObjRef).Keeps part := hpart

theorem bind {a : Act ε α} {f : α → Act ε β} (ha : a.Keeps part) (hf : ∀ x, (f x).Keeps part) :
    (a >>= f).Keeps part := by
  intro b
  have hfirst := ha b
  rw [bind_apply]
  cases h : a b with
  | ok x b' =>
    rw [h] at hfirst
    exact (hf x b').trans hfirst
  | error e b' =>
    rw [h] at hfirst
    exact hfirst

/-- A check in front of a computation. -/
theorem guard {c : Prop} [Decidable c] {e : ε} {f : Unit → Act ε α} (hf : (f ()).Keeps part) :
    (if c then Act.fail e >>= f else f ()).Keeps part := by
  split
  · exact .bind (.fail e) fun _ => hf
  · exact hf

theorem mapM {f : γ → Act ε α} (hf : ∀ x, (f x).Keeps part) (xs : List γ) :
    (xs.mapM f).Keeps part :=
  of_mapM (P := Keeps part) .pure .bind hf xs

theorem attempt {a : Act ε α} (ha : a.Keeps part) :
    Act.Keeps part (Act.attempt a : Act δ (Except ε α)) := by
  intro b
  rw [final_attempt]
  exact ha b

theorem mapError {a : Act ε α} (ha : a.Keeps part) (f : ε → δ) :
    (a.mapError f).Keeps part := by
  intro b
  rw [final_mapError]
  exact ha b

end Act.Keeps

end ScriptBridge
