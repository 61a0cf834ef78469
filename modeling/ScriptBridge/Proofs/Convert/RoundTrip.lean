import ScriptBridge.Proofs.Convert.Copying
import ScriptBridge.Proofs.Convert.Sharing
import ScriptBridge.Proofs.Host.Entries

/-!
# There and back

A value that leads to no cycle is copied, and its copy is converted back to a value of the same
structure, unless a dictionary has the empty text as a key.
-/

namespace ScriptBridge

open Foreign (ObjRef Object Objects)
open Host (Value Store)
open Relation (ReflTransGen)

namespace Convert

variable {s s' : Store} {o : Objects} {b : Bridge} {done : Done} {n : Nat} {v u w : Value}
  {r q : ObjRef}

/-- A list or a dictionary contains a value. -/
def Contains (s : Store) (v u : Value) : Prop :=
  ∃ c, Container.ofValue? v = some c ∧ u ∈ c.values s

/-- A value has the structure of another one: the same items in the same order, and the same keys
with values that have the same structure. -/
inductive Same (s s' : Store) : Value → Value → Prop where
  | null : Same s s' .null .null
  | number (n : Int64) : Same s s' (.number n) (.number n)
  | float (x : Float) : Same s s' (.float x) (.float x)
  | str (t : String) : Same s s' (.str t) (.str t)
  | func (name : String) (bound : List Value) : Same s s' (.func name bound) (.func name bound)
  | list {l l' : Host.ListRef}
      (hitems : List.Forall₂ (Same s s') (s.list l).items (s'.list l').items) :
    Same s s' (.list l) (.list l')
  | dict {d d' : Host.DictRef}
      (hkeys : (s'.dict d').entries.map (·.1) = (s.dict d).entries.map (·.1))
      (hvalues : List.Forall₂ (Same s s') ((s.dict d).entries.map (·.2))
        ((s'.dict d').entries.map (·.2))) :
    Same s s' (.dict d) (.dict d')

/-! ### The objects of a copy -/

/-- What an object of a copy holds spells out what the value contains. -/
theorem Copy.of_holds (h : Copy s o (n + 1) v r) (hedge : o.Holds r q) :
    ∃ u, Contains s v u ∧ Copy s o n u q := by
  obtain ⟨-, hspells⟩ := h
  obtain ⟨contents, hcontents, hq⟩ := hedge
  cases v with
  | null | number k | float x | str t | func name bound =>
    rw [show o.get r = _ from hspells] at hcontents
    cases hcontents
  | list l =>
    obtain ⟨rs, hget, hitems⟩ := hspells
    rw [hget] at hcontents
    cases hcontents
    obtain ⟨u, hu, hcopy⟩ := exists_of_mem hitems.flip hq
    exact ⟨u, ⟨_, rfl, hu⟩, hcopy⟩
  | dict d =>
    obtain ⟨ps, hget, hentries⟩ := hspells
    rw [hget] at hcontents
    cases hcontents
    obtain ⟨p, hp, rfl⟩ := List.mem_map.mp hq
    obtain ⟨e, he, hcopy⟩ := exists_of_mem hentries.flip hp
    exact ⟨e.2, ⟨_, rfl, List.mem_map_of_mem he⟩, hcopy.2.2⟩

/-- What a value contains is spelled out by what the object of its copy holds. -/
theorem Copy.of_contains (h : Copy s o (n + 1) v r) (hu : Contains s v u) :
    ∃ q, o.Holds r q ∧ Copy s o n u q := by
  obtain ⟨-, hspells⟩ := h
  obtain ⟨c, hc, hu⟩ := hu
  cases v with
  | null | number k | float x | str t | func name bound => cases hc
  | list l =>
    cases hc
    obtain ⟨rs, hget, hitems⟩ := hspells
    obtain ⟨q, hq, hcopy⟩ := exists_of_mem hitems hu
    exact ⟨q, ⟨.items rs, by rw [hget]; rfl, hq⟩, hcopy⟩
  | dict d =>
    cases hc
    obtain ⟨e, he, rfl⟩ := List.mem_map.mp hu
    obtain ⟨ps, hget, hentries⟩ := hspells
    obtain ⟨p, hp, hcopy⟩ := exists_of_mem hentries he
    exact ⟨p.2, ⟨.entries ps, by rw [hget]; rfl, List.mem_map_of_mem hp⟩, hcopy.2.2⟩

/-- The objects of a copy do not hold each other in a cycle. -/
theorem Copy.not_leadsToCycle (h : Copy s o n v r) : ¬LeadsToCycle o.Holds r := by
  refine not_leadsToCycle_of_acc ?_
  induction n generalizing v r with
  | zero => exact absurd h id
  | succ n ih =>
    refine .intro r fun q hedge => ?_
    obtain ⟨u, -, hcopy⟩ := h.of_holds hedge
    exact ih hcopy

/-- Every object of a copy spells out a value that the copied one leads to. -/
theorem Copy.of_reaches (h : Copy s o n v r) (hreach : ReflTransGen o.Holds r q) :
    ∃ m u, ReflTransGen (Contains s) v u ∧ Copy s o m u q := by
  induction hreach with
  | refl => exact ⟨n, v, .refl, h⟩
  | tail _ hedge ih =>
    obtain ⟨m, u, hvu, hcopy⟩ := ih
    cases m with
    | zero => exact absurd hcopy id
    | succ m =>
      obtain ⟨u', hcontains, hcopy'⟩ := hcopy.of_holds hedge
      exact ⟨m, u', hvu.tail hcontains, hcopy'⟩

/-- Every value that the copied one leads to is spelled out by an object of the copy. -/
theorem Copy.of_leads (h : Copy s o n v r) (hleads : ReflTransGen (Contains s) v u) :
    ∃ m q, ReflTransGen o.Holds r q ∧ Copy s o m u q := by
  induction hleads with
  | refl => exact ⟨n, r, .refl, h⟩
  | tail _ hcontains ih =>
    obtain ⟨m, q, hrq, hcopy⟩ := ih
    cases m with
    | zero => exact absurd hcopy id
    | succ m =>
      obtain ⟨q', hedge, hcopy'⟩ := hcopy.of_contains hcontains
      exact ⟨m, q', hrq.tail hedge, hcopy'⟩

/-- A dictionary that a value leads to has the empty text as a key. -/
def HasEmptyKey (s : Store) (v : Value) : Prop :=
  ∃ d, ReflTransGen (Contains s) v (.dict d) ∧ ∃ u, ("", u) ∈ (s.dict d).entries

/-- The objects of a copy that are no containers have the values that they spell out. -/
theorem Copy.leafValue? (h : Copy s b.objects n v r) (hv : Container.ofValue? v = none) :
    (b.objects.get r).contents? = none ∧ b.leafValue? r = some v := by
  cases n with
  | zero => exact absurd h id
  | succ n =>
    obtain ⟨-, hspells⟩ := h
    unfold Bridge.leafValue?
    cases v with
    | null | float x | str t | func name bound =>
      rw [show b.objects.get r = _ from hspells]
      exact ⟨rfl, rfl⟩
    | number k =>
      rw [show b.objects.get r = .int k.toInt from hspells]
      dsimp only
      rw [if_pos (Text.fitsInt64_toInt k), Int64.ofInt_toInt]
      exact ⟨rfl, rfl⟩
    | list l | dict d => cases hv

/-- Only an empty key keeps an object of a copy from being converted back. -/
theorem Copy.fault {e : ConvertError} (h : Copy s b.objects n v r) (hfault : Fault b r e) :
    e = .emptyKey ∧ HasEmptyKey s v := by
  cases n with
  | zero => exact absurd h id
  | succ n =>
    cases v with
    | null | number k | float x | str t | func name bound =>
      obtain ⟨hnone, hsome⟩ := Copy.leafValue? h rfl
      cases hfault with
      | leaf _ hvalue =>
        rw [hsome] at hvalue
        cases hvalue
      | key hcontents | emptyKey hcontents =>
        rw [hnone] at hcontents
        cases hcontents
    | list l =>
      obtain ⟨-, rs, hget, -⟩ := h
      cases hfault with
      | leaf hcontents | key hcontents | emptyKey hcontents =>
        rw [hget] at hcontents
        cases hcontents
    | dict d =>
      obtain ⟨-, ps, hget, hentries⟩ := h
      have hkey {ps' : List (ObjRef × ObjRef)} {p : ObjRef × ObjRef}
          (hcontents : (b.objects.get r).contents? = some (.entries ps')) (hp : p ∈ ps') :
          ∃ e ∈ (s.dict d).entries, (b.objects.get p.1).keyText? = some e.1 := by
        rw [hget] at hcontents
        cases hcontents
        obtain ⟨e, he, hcopy⟩ := exists_of_mem hentries.flip hp
        exact ⟨e, he, by rw [hcopy.1]; rfl⟩
      cases hfault with
      | leaf hcontents =>
        rw [hget] at hcontents
        cases hcontents
      | key hcontents hp htext =>
        obtain ⟨e, -, he⟩ := hkey hcontents hp
        rw [htext] at he
        cases he
      | emptyKey hcontents hp htext =>
        obtain ⟨⟨key, u⟩, hmem, he⟩ := hkey hcontents hp
        rw [htext] at he
        cases he
        exact ⟨rfl, d, .refl, u, hmem⟩

/-- The copy of a dictionary with an empty key is not converted back. -/
theorem Copy.emptyKey {d : Host.DictRef} (h : Copy s b.objects n (.dict d) r)
    (hmem : ("", u) ∈ (s.dict d).entries) : Fault b r .emptyKey := by
  cases n with
  | zero => exact absurd h id
  | succ n =>
    obtain ⟨-, ps, hget, hentries⟩ := h
    obtain ⟨p, hp, hkey, -⟩ := exists_of_mem hentries hmem
    exact .emptyKey (by rw [hget]; rfl) hp (by rw [hkey]; rfl)

/-! ### What the copy is converted back to -/

/-- Two lists that correspond to a third one correspond to each other. -/
theorem forall₂_comp {α β γ : Type} {R : α → β → Prop} {S : β → γ → Prop} {T : α → γ → Prop}
    (hcomp : ∀ x y z, R x y → S y z → T x z) {xs : List α} {ys : List β} {zs : List γ}
    (hxy : List.Forall₂ R xs ys) (hyz : List.Forall₂ S ys zs) : List.Forall₂ T xs zs := by
  induction hxy generalizing zs with
  | nil =>
    cases hyz
    exact .nil
  | cons hR _ ih =>
    cases hyz with
    | cons hS hrest => exact .cons (hcomp _ _ _ hR hS) (ih hrest)

/-- What the copy of a value is converted to has the structure of the value. -/
theorem Copy.same (hordered : s.Ordered) (hfinished : Finished b s' done)
    (hcopy : Copy s b.objects n v r) (hstands : Stands b done r w) : Same s s' v w := by
  induction n generalizing v r w with
  | zero => exact absurd hcopy id
  | succ n ih =>
    cases v with
    | null | number k | float x | str t | func name bound =>
      obtain ⟨hnone, hvalue⟩ := hcopy.leafValue? rfl
      cases hstands with
      | container hsome =>
        rw [hnone] at hsome
        cases hsome
      | leaf _ hvalue' =>
        rw [hvalue] at hvalue'
        cases hvalue'
        constructor
    | list l =>
      obtain ⟨-, rs, hget, hitems⟩ := hcopy
      cases hstands with
      | leaf hnone =>
        rw [hget] at hnone
        cases hnone
      | container _ hdone =>
        cases hfinished.filled hdone with
        | dict hcontents =>
          rw [hget] at hcontents
          cases hcontents
        | list hcontents _ hvs hstands =>
          rw [hget] at hcontents
          cases hcontents
          refine .list ?_
          rw [hvs]
          exact forall₂_comp (fun u q w hu (hw : Stands b done q w) => ih (v := u) hu hw) hitems
            hstands
    | dict d =>
      obtain ⟨-, ps, hget, hentries⟩ := hcopy
      cases hstands with
      | leaf hnone =>
        rw [hget] at hnone
        cases hnone
      | container _ hdone =>
        cases hfinished.filled hdone with
        | list hcontents =>
          rw [hget] at hcontents
          cases hcontents
        | @dict _ es d' hcontents _ hes hstands =>
          rw [hget] at hcontents
          cases hcontents
          have hboth : List.Forall₂ (fun e f => f.1 = e.1 ∧ Same s s' e.2 f.2)
              (s.dict d).entries es := by
            refine forall₂_comp (fun e p f hep hpf => ⟨?_, ih hep.2.2 hpf.value⟩) hentries hstands
            have hkey := hpf.key
            rw [hep.1] at hkey
            exact (Option.some.inj hkey).symm
          have hkeys : es.map (·.1) = (s.dict d).entries.map (·.1) := by
            rw [← List.forall₂_eq_eq_eq, List.forall₂_map_left_iff, List.forall₂_map_right_iff]
            exact hboth.flip.imp fun _ _ h => h.1
          have hofList : Host.Entries.ofList es = es := by
            refine Host.Entries.ofList_of_ordered ?_
            unfold Host.Entries.Ordered
            rw [hkeys]
            exact hordered d
          rw [hofList] at hes
          refine .dict ?_ ?_
          · rw [hes, hkeys]
          · rw [hes, List.forall₂_map_left_iff, List.forall₂_map_right_iff]
            exact hboth.imp fun _ _ h => h.2

/-- A value that leads to no cycle is copied. The copy is converted back exactly when no dictionary
that the value leads to has the empty text as a key, to a value of the same structure; otherwise
the empty key is the failure. -/
theorem round_trip (hkind : b.interpreter.kind = .scripted) (hordered : b.editor.store.Ordered)
    (hacyclic : ¬Cyclic b.editor.store v) :
    ∃ r b₁, toForeign v b = .ok r b₁ ∧
      (¬HasEmptyKey b.editor.store v → ∃ w b₂, toHost r b₁ = .ok w b₂ ∧
        Same b.editor.store b₂.editor.store v w) ∧
      (HasEmptyKey b.editor.store v → ∃ b₂, toHost r b₁ = .error (.error .emptyKey) b₂) := by
  obtain ⟨r, b₁, hrun⟩ := (toForeign_ends hkind v).2.mpr hacyclic
  have hcopies := toForeign_copies hkind v
  rw [hrun] at hcopies
  refine ⟨r, b₁, hrun, ?_⟩
  cases hcopies with
  | ok hgrown hcopy =>
    have hblame {e : ConvertError} (h : Blame b₁ r e) :
        e = .emptyKey ∧ HasEmptyKey b.editor.store v := by
      cases h with
      | cycle hcycle => exact absurd hcycle hcopy.not_leadsToCycle
      | fault hreach hfault =>
        obtain ⟨m, u, hvu, hcopy'⟩ := hcopy.of_reaches hreach
        obtain ⟨he, d, hud, hkey⟩ := hcopy'.fault hfault
        exact ⟨he, d, hvu.trans hud, hkey⟩
    have hends := toHost_ends (hgrown.interpreter ▸ hkind) r
    generalize toHost r b₁ = outcome at hends ⊢
    cases hends with
    | error hb =>
      obtain ⟨rfl, hempty⟩ := hblame hb
      exact ⟨fun hnot => absurd hempty hnot, fun _ => ⟨_, rfl⟩⟩
    | ok _ hfinished hstands =>
      refine ⟨fun _ => ⟨_, _, rfl, hcopy.same hordered hfinished hstands⟩, fun hempty => ?_⟩
      obtain ⟨d, hvd, u, hmem⟩ := hempty
      obtain ⟨m, q, hrq, hcopy'⟩ := hcopy.of_leads hvd
      exact absurd (.fault hrq (hcopy'.emptyKey hmem)) (hstands.not_blame hfinished .emptyKey)

/-- A list that holds a dictionary twice comes back, unless the key of the dictionary is empty. -/
theorem round_trip_shared :
    let store (key : String) : Store :=
      { lists := #[{ items := [.dict ⟨0⟩, .dict ⟨0⟩] }], dicts := #[{ entries := [(key, .null)] }] }
    let b (key : String) : Bridge :=
      { Bridge.fresh with editor := { Bridge.fresh.editor with store := store key } }
    (∃ r b₁ w b₂, toForeign (.list ⟨0⟩) (b "k") = .ok r b₁ ∧ toHost r b₁ = .ok w b₂ ∧
        Same (store "k") b₂.editor.store (.list ⟨0⟩) w) ∧
      ∃ r b₁ b₂, toForeign (.list ⟨0⟩) (b "") = .ok r b₁ ∧
        toHost r b₁ = .error (.error .emptyKey) b₂ := by
  intro store b
  have hentries (key : String) (d : Host.DictRef) :
      ((store key).dict d).entries = [(key, .null)] ∨ ((store key).dict d).entries = [] := by
    obtain ⟨i⟩ := d
    cases i with
    | zero => exact .inl rfl
    | succ i => exact .inr rfl
  have hordered (key : String) : (store key).Ordered := by
    intro d
    rcases hentries key d with h | h
    · rw [h]
      exact List.pairwise_singleton _ _
    · rw [h]
      exact List.Pairwise.nil
  have hdict (key : String) (c : Container) : ¬Container.Holds (store key) (.dict ⟨0⟩) c := by
    rintro ⟨v, hv, hc⟩
    rw [List.mem_singleton.mp hv] at hc
    cases hc
  have hlist (key : String) (c : Container) (h : Container.Holds (store key) (.list ⟨0⟩) c) :
      c = .dict ⟨0⟩ := by
    obtain ⟨v, hv, hc⟩ := h
    have hv : v = .dict ⟨0⟩ := by
      rcases List.mem_cons.mp hv with rfl | hv
      · rfl
      · exact List.mem_singleton.mp hv
    rw [hv] at hc
    exact (Option.some.inj hc).symm
  have hacyclic (key : String) : ¬Cyclic (store key) (.list ⟨0⟩) := by
    rintro ⟨c, hc, hcycle⟩
    cases hc
    refine not_leadsToCycle_of_acc (.intro _ fun c hheld => ?_) hcycle
    rw [hlist key c hheld]
    exact .intro _ fun c' hheld' => absurd hheld' (hdict key c')
  constructor
  · obtain ⟨r, b₁, hrun, hback, -⟩ := round_trip (b := b "k") rfl (hordered "k") (hacyclic "k")
    have hnot : ¬HasEmptyKey (store "k") (.list ⟨0⟩) := by
      rintro ⟨d, -, u, hmem⟩
      rcases hentries "k" d with h | h
      · rw [h] at hmem
        have hkey : "" = "k" := congrArg Prod.fst (List.mem_singleton.mp hmem)
        exact absurd hkey (by decide)
      · rw [h] at hmem
        cases hmem
    obtain ⟨w, b₂, hrun', hsame⟩ := hback hnot
    exact ⟨r, b₁, w, b₂, hrun, hrun', hsame⟩
  · obtain ⟨r, b₁, hrun, -, hfail⟩ := round_trip (b := b "") rfl (hordered "") (hacyclic "")
    have hempty : HasEmptyKey (store "") (.list ⟨0⟩) :=
      ⟨⟨0⟩, .single ⟨.list ⟨0⟩, rfl, List.mem_cons_self⟩, .null, List.mem_singleton_self _⟩
    obtain ⟨b₂, hrun'⟩ := hfail hempty
    exact ⟨r, b₁, b₂, hrun, hrun'⟩

end Convert

end ScriptBridge
