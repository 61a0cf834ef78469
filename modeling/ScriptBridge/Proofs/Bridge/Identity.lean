import Mathlib.Data.Set.Card
import ScriptBridge.Proofs.Bridge.Operations

/-!
# The one proxy of an entity

In a sound bridge an entity has at most one proxy that is alive. The registry finds it, a request
for it gives it again, and the count of the registered proxies is the count of the entities with a
proxy that is alive.
-/

namespace ScriptBridge.Bridge

open Foreign (ObjRef Object Objects ProxyClass Target)
open Host (Editor Entity)
open ScriptBridge.Computation

/-- An object is a proxy of an entity, which has not been destroyed. -/
def StandsFor (b : Bridge) (r : ObjRef) (key : Entity) : Prop := b.objects.get r = proxyOf key

variable {b b' : Bridge} {r s : ObjRef} {key key' : Entity}

theorem StandsFor.key_eq (h : b.StandsFor r key) (h' : b.StandsFor r key') : key = key' := by
  have hproxy : proxyOf key = proxyOf key' := h.symm.trans h'
  have hentity := congrArg Target.entity? (Object.proxy.inj hproxy).2
  simpa [Target.entity?_ofEntity] using hentity

theorem StandsFor.lt_size (h : b.StandsFor r key) : r.id < b.objects.cells.size :=
  lt_size_of_proxy h

/-- A proxy of an entity comes later to stand for nothing, or stands for the same entity. -/
theorem Later.standsFor (h : b.Later b') (hr : b.StandsFor r key) :
    b'.StandsFor r key ∨ (b'.objects.get r = .proxy (.ofEntity key) .invalid ∧
      (b'.lifecycle = .finalized ∨ b'.editor.Gone key)) := by
  rcases h.proxy r _ _ hr with hsame | ⟨hinvalid, key', hkey', hgone⟩
  · exact .inl hsame
  · rw [Target.entity?_ofEntity] at hkey'
    cases hkey'
    exact .inr ⟨hinvalid, hgone⟩

/-- In a session that has not been shut down, an entity that exists still has the proxies that it
had. -/
theorem Later.standsFor_of_has (h : b.Later b') (hlife : b'.lifecycle ≠ .finalized)
    (hr : b.StandsFor r key) (hkey : b'.editor.has key) : b'.StandsFor r key := by
  rcases h.standsFor hr with hstands | ⟨-, hfinal | hgone⟩
  · exact hstands
  · exact absurd hfinal hlife
  · exact absurd hkey (by simp [hgone.1])

/-- A proxy that once stood for an entity never stands for another one. -/
theorem Later.key_eq (h : b.Later b') (hr : b.StandsFor r key) (hr' : b'.StandsFor r key') :
    key = key' := by
  rcases h.standsFor hr with hstands | ⟨hinvalid, -⟩
  · exact hstands.key_eq hr'
  · have ht := (Object.proxy.inj (hinvalid.symm.trans hr')).2
    cases key' <;> cases ht

namespace Sound

/-- A proxy whose target is an entity is the proxy of that entity. -/
theorem standsFor_of_entity (hb : b.Sound) {cls : ProxyClass} {t : Target}
    (hr : b.objects.get r = .proxy cls t) (ht : t.entity? = some key) : b.StandsFor r key := by
  have hfits := hb.objects r
  rw [hr, Target.eq_ofEntity ht] at hfits
  rw [StandsFor, hr, Target.eq_ofEntity ht, ProxyClass.fits_ofEntity hfits, proxyOf]

/-- The proxies in the registry that are alive are all proxies of entities that are alive. -/
theorem mem_liveEntries_iff (hb : b.Sound) :
    (key, r) ∈ b.liveEntries ↔ b.StandsFor r key ∧ b.Alive r := by
  rw [mem_liveEntries]
  constructor
  · exact fun h => ⟨hb.registered.proxy _ h.1, h.2⟩
  · exact fun h => ⟨hb.complete r _ _ key h.2 h.1 (Target.entity?_ofEntity key), h.2⟩

/-- An entity has one proxy that is alive. -/
theorem standsFor_unique (hb : b.Sound) (hr : b.StandsFor r key) (hs : b.StandsFor s key)
    (hralive : b.Alive r) (hsalive : b.Alive s) : r = s :=
  hb.registered.eq_of_mem (mem_liveEntries.mp (hb.mem_liveEntries_iff.mpr ⟨hr, hralive⟩)).1
    (mem_liveEntries.mp (hb.mem_liveEntries_iff.mpr ⟨hs, hsalive⟩)).1

theorem lookup_liveEntries (hb : b.Sound) :
    b.liveEntries.lookup key = some r ↔ b.StandsFor r key ∧ b.Alive r := by
  constructor
  · exact fun h => hb.mem_liveEntries_iff.mp (Lookup.mem_of_lookup h)
  · intro h
    cases hlookup : b.liveEntries.lookup key with
    | some s =>
      obtain ⟨hs, hsalive⟩ := hb.mem_liveEntries_iff.mp (Lookup.mem_of_lookup hlookup)
      rw [hb.standsFor_unique hs h.1 hsalive h.2]
    | none =>
      have hnone := List.lookup_eq_none_iff.mp hlookup _ (hb.mem_liveEntries_iff.mpr h)
      simp at hnone

/-- The entity of a proxy that is alive exists. -/
theorem has_of_standsFor (hb : b.Sound) (hr : b.StandsFor r key) (halive : b.Alive r) :
    b.editor.has key :=
  hb.exists_key _ (mem_liveEntries.mp (hb.mem_liveEntries_iff.mpr ⟨hr, halive⟩)).1

/-- The entities with a proxy that is alive are counted. -/
theorem liveProxies_eq (hb : b.Sound) : b.liveProxies =
    {key | b.editor.has key ∧ ∃ r, b.Alive r ∧ b.StandsFor r key}.ncard := by
  have hnodup : (b.liveEntries.map (·.1)).Nodup :=
    hb.registered.keys_nodup.sublist (List.filter_sublist.map _)
  have hset : {key | b.editor.has key ∧ ∃ r, b.Alive r ∧ b.StandsFor r key} =
      ↑(b.liveEntries.map (·.1)).toFinset := by
    ext key
    rw [Finset.mem_coe, List.mem_toFinset, Set.mem_ofPred_eq, List.mem_map]
    constructor
    · rintro ⟨-, r, halive, hr⟩
      exact ⟨(key, r), hb.mem_liveEntries_iff.mpr ⟨hr, halive⟩, rfl⟩
    · rintro ⟨⟨key', r⟩, hmem, rfl⟩
      obtain ⟨hr, halive⟩ := hb.mem_liveEntries_iff.mp hmem
      exact ⟨hb.has_of_standsFor hr halive, r, halive, hr⟩
  rw [hset, Set.ncard_coe_finset, List.toFinset_card_of_nodup hnodup, List.length_map, liveProxies]

end Sound

/-! ### Requests -/

/-- What is alive stays alive while more is in use and nothing else changes. -/
theorem Alive.mono (hb : b.Sound) (hb' : b'.Sound) (hroots : b.roots ⊆ b'.roots)
    (hsize : b.objects.cells.size ≤ b'.objects.cells.size)
    (hget : ∀ r, r.id < b.objects.cells.size → b'.objects.get r = b.objects.get r)
    (hr : b.Alive r) : b'.Alive r := by
  refine Objects.alive_of_referred b.Alive (fun s hs => ?_) hr
  obtain ⟨hlt, hreferred⟩ := hs.referred
  refine ⟨Nat.lt_of_lt_of_le hlt hsize, hreferred.imp (fun h => hroots h) ?_⟩
  rintro ⟨t, ht, hmem⟩
  refine ⟨t, ht, ?_⟩
  rw [hb'.references_eq, hget t (Alive.lt_size ht), ← hb.references_eq]
  exact hmem

/-- A request for the proxy of an entity that has one that is alive. -/
theorem Sound.entity_again (hb : b.Sound) (hloan : b.loan ≠ .exclusive) (hr : b.StandsFor r key)
    (halive : b.Alive r) : Bridge.entity key b = .ok r { b with held := r :: b.held } := by
  rw [entity_apply, if_neg hloan, if_neg (by simp [hb.has_of_standsFor hr halive]),
    hb.lookup_liveEntries.mpr ⟨hr, halive⟩]

/-- More may be in use, and there may be more objects; all else that concerns entities is as it was. -/
structure Extends (b b' : Bridge) : Prop where
  later : b.Later b'
  editor : b'.editor = b.editor
  loan : b'.loan = b.loan
  alive : ∀ s, b.Alive s → b'.Alive s
  standsFor : ∀ s key, b.StandsFor s key → b'.StandsFor s key

theorem Extends.sound (h : b.Extends b') : b'.Sound := h.later.sound

theorem Extends.refl (hb : b.Sound) : b.Extends b :=
  ⟨.refl hb, rfl, rfl, fun _ h => h, fun _ _ h => h⟩

theorem Extends.trans {b'' : Bridge} (h : b.Extends b') (h' : b'.Extends b'') : b.Extends b'' :=
  ⟨h.later.trans h'.later, h'.editor.trans h.editor, h'.loan.trans h.loan, fun s hs => h'.alive s (h.alive s hs),
    fun s key hs => h'.standsFor s key (h.standsFor s key hs)⟩

/-- A new object extends the bridge. -/
theorem Sound.extends_withNew (hb : b.Sound) {x : Object} {registry : List (Entity × ObjRef)}
    (hlater : b.Later { b.withNew x with registry }) : b.Extends { b.withNew x with registry } := by
  refine ⟨hlater, rfl, rfl, fun s hs => ?_, fun s key hs => ?_⟩
  · refine hs.mono hb hlater.sound (List.subset_cons_self _ _) ?_ fun _ => get_withNew_of_lt
    exact Nat.le_trans (Nat.le_succ _) (Nat.le_of_eq size_withNew.symm)
  · exact (get_withNew_of_lt hs.lt_size).trans hs

/-- A request for the proxy of an entity that exists succeeds as long as the editor can be read. -/
theorem Sound.entity_extends (hb : b.Sound) (hloan : b.loan ≠ .exclusive)
    (hkey : b.editor.has key) :
    ∃ r b', Bridge.entity key b = .ok r b' ∧ b.Extends b' ∧ b'.StandsFor r key ∧ b'.Alive r := by
  cases hlookup : b.liveEntries.lookup key with
  | some r =>
    obtain ⟨hr, halive⟩ := hb.lookup_liveEntries.mp hlookup
    have hmove : b.Move { b with held := r :: b.held } := .roots rfl fun s hs =>
      (List.mem_cons.mp hs).elim (fun h => .inr (h ▸ halive)) .inl
    have hlater := hmove.later hb
    have hkept (s : ObjRef) (hs : b.Alive s) : Alive { b with held := r :: b.held } s :=
      hs.mono hb hlater.sound (List.subset_cons_self _ _) (Nat.le_refl _) fun _ _ => rfl
    exact ⟨r, _, hb.entity_again hloan hr halive, ⟨hlater, rfl, rfl, hkept, fun _ _ h => h⟩, hr,
      hkept r halive⟩
  | none =>
    have hlater := (Move.register hkey hlookup).later hb
    refine ⟨(b.objects.alloc (proxyOf key)).1, _, ?_, hb.extends_withNew hlater, ?_,
      hlater.sound.alive_of_mem_held List.mem_cons_self⟩
    · rw [entity_apply, if_neg hloan, if_neg (by simp [hkey]), hlookup]
    · exact get_withNew.trans (if_pos rfl)

/-- A request while the editor is lent out for writing. -/
theorem entity_busy (hloan : b.loan = .exclusive) :
    Bridge.entity key b = .error (.error (.host busyText)) b := by
  rw [entity_apply, if_pos hloan]

/-- A request for something that does not exist. -/
theorem entity_absent (hloan : b.loan ≠ .exclusive) (hkey : b.editor.has key = false) :
    Bridge.entity key b = .error (.error (.deleted key.kind)) b := by
  rw [entity_apply, if_neg hloan, if_pos (by simp [hkey])]

end ScriptBridge.Bridge
