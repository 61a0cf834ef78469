import ScriptBridge.Proofs.Convert.Leniency
import ScriptBridge.Proofs.Session.Course

/-!
# Strict and lenient conversions

The depth with which a conversion starts never stops it, since it never enters a container inside
itself. A lenient conversion leaves nothing out exactly if the strict conversion succeeds, and then
the two make the same value in the same editor.
-/

namespace ScriptBridge

open Foreign (ObjRef Object Objects)
open Host (Value)
open ScriptBridge.Computation

namespace Convert

variable {α β : Type} {b b' : Bridge} {c c' : Conversion} {r : ObjRef}

namespace Converting

variable {convert convert' : ObjRef → Converting Value}

/-! ### The depth of conversions -/

theorem bind_congr_at {a a' : Converting α} {f g : α → Converting β} {t : Conversion × Bridge}
    (ha : a t = a' t) (hf : ∀ x t', a t = .ok x t' → f x t' = g x t') :
    (a >>= f) t = (a' >>= g) t := by
  rw [bind_apply, bind_apply, ← ha]
  cases h : a t with
  | ok x t' => exact hf x t' h
  | error e t' => rfl

theorem entry_congr {label : Act ConvertError String} {a a' : Converting α}
    {t : Conversion × Bridge} (h : a t = a' t) : entry label a t = entry label a' t := by
  refine bind_congr_at ?_ fun _ _ _ => rfl
  unfold Act.attempt
  rw [h]

/-- What is in force when a part of a container is converted. -/
theorem Tame.advanced {a : Converting α} (ha : a.Tame) (hkind : b.interpreter.kind = .scripted)
    {x : α} (h : a (c, b) = .ok x (c', b')) : Advanced c b c' b' := by
  have hends := ha.ends c b hkind
  rw [h] at hends
  cases hends with
  | ok hadvanced => exact hadvanced

theorem itemsFrom_congr (hconvert : ∀ q, (convert q).Tame) (i : Nat) {rs : List ObjRef}
    (hkind : b.interpreter.kind = .scripted)
    (h : ∀ q ∈ rs, ∀ c' b', Advanced c b c' b' → convert q (c', b') = convert' q (c', b')) :
    itemsFrom convert i rs (c, b) = itemsFrom convert' i rs (c, b) := by
  induction rs generalizing i c b with
  | nil => rfl
  | cons q rest ih =>
    refine bind_congr_at (entry_congr (h q List.mem_cons_self c b .refl)) fun v? t hfirst => ?_
    obtain ⟨c₁, b₁⟩ := t
    have hadvanced := ((hconvert q).entry (positionLabel_apply i)).advanced hkind hfirst
    refine bind_congr_at (ih (i + 1) (hadvanced.kind hkind) ?_) fun _ _ _ => rfl
    exact fun p hp c' b' h' => h p (List.mem_cons_of_mem _ hp) c' b' (hadvanced.trans h')

theorem sequence_congr (hconvert : ∀ q, (convert q).Tame) (hkind : b.interpreter.kind = .scripted)
    (h : ∀ q, b.objects.Holds r q → ∀ c' b', Advanced c b c' b' →
      convert q (c', b') = convert' q (c', b')) :
    sequence convert r (c, b) = sequence convert' r (c, b) := by
  unfold sequence
  rw [bind_apply, bind_apply, itemsOf_apply hkind]
  cases helements : (b.objects.get r).elements? with
  | none => rfl
  | some rs =>
    refine bind_congr_at (itemsFrom_congr hconvert 0 hkind fun q hq => ?_) fun _ _ _ => rfl
    exact h q ⟨_, Object.contents?_of_elements? helements, hq⟩

theorem entriesOnto_congr (hconvert : ∀ q, (convert q).Tame) (entries : List (String × Value))
    {ps : List (ObjRef × ObjRef)} (hkind : b.interpreter.kind = .scripted)
    (h : ∀ p ∈ ps, ∀ c' b', Advanced c b c' b' → convert p.2 (c', b') = convert' p.2 (c', b')) :
    entriesOnto convert entries ps (c, b) = entriesOnto convert' entries ps (c, b) := by
  induction ps generalizing entries c b with
  | nil => rfl
  | cons p rest ih =>
    obtain ⟨k, q⟩ := p
    have hpair := (tame_keyOf k).bind fun key => (hconvert q).bind fun v => .pure (key, v)
    refine bind_congr_at (entry_congr ?_) fun e? t hfirst => ?_
    · refine bind_congr_at rfl fun key t hkey => ?_
      obtain ⟨c₁, b₁⟩ := t
      have hadvanced := (tame_keyOf k).advanced hkind hkey
      exact bind_congr_at (h (k, q) List.mem_cons_self c₁ b₁ hadvanced) fun _ _ _ => rfl
    · obtain ⟨c₁, b₁⟩ := t
      have hadvanced := (hpair.entry (keyLabel_apply k)).advanced hkind hfirst
      have hrest (entries : List (String × Value)) := ih entries (hadvanced.kind hkind)
        fun p hp c' b' h' => h p (List.mem_cons_of_mem _ hp) c' b' (hadvanced.trans h')
      cases e? with
      | some e => exact hrest _
      | none => exact hrest _

theorem mapping_congr (hconvert : ∀ q, (convert q).Tame) (hkind : b.interpreter.kind = .scripted)
    (h : ∀ q, b.objects.Holds r q → ∀ c' b', Advanced c b c' b' →
      convert q (c', b') = convert' q (c', b')) :
    mapping convert r (c, b) = mapping convert' r (c, b) := by
  unfold mapping
  rw [bind_apply, bind_apply, pairsOf_apply hkind]
  cases hcontents : (b.objects.get r).contents? with
  | none => rfl
  | some contents =>
    cases contents with
    | items rs => rfl
    | entries ps =>
      refine bind_congr_at (entriesOnto_congr hconvert [] hkind fun p hp => ?_) fun _ _ _ => rfl
      exact h p.2 ⟨_, hcontents, List.mem_map_of_mem hp⟩

theorem container_congr (hkind : b.interpreter.kind = .scripted)
    {body body' : ObjRef → Converting Value}
    (h : r ∉ c.active → body r ({ c with active := r :: c.active }, b) =
      body' r ({ c with active := r :: c.active }, b)) :
    container body r (c, b) = container body' r (c, b) := by
  rw [container_apply hkind, container_apply hkind]
  cases c.done.find? fun e => e.1 = r with
  | some e => rfl
  | none =>
    dsimp only
    by_cases hactive : r ∈ c.active
    · rw [if_pos hactive, if_pos hactive]
    · rw [if_neg hactive, if_neg hactive, h hactive]

/-- A conversion that may go deeper than there are containers is not stopped by its depth: it does
the same if it may go one level deeper. -/
theorem convertWithin_deeper (hkind : b.interpreter.kind = .scripted) (depth : Nat)
    (hwithin : Within b c.active r) (hdepth : b.objects.cells.size < depth + c.active.length) :
    convertWithin depth r (c, b) = convertWithin (depth + 1) r (c, b) := by
  induction depth generalizing c b r with
  | zero =>
    have hlength := hwithin.length_le
    omega
  | succ depth ih =>
    have hconvert := tame_convertWithin depth
    have hinner (hr : r ∉ c.active) (q : ObjRef) (hedge : b.objects.Holds r q) (c' : Conversion)
        (b' : Bridge) (h : Advanced { c with active := r :: c.active } b c' b') :
        convertWithin depth q (c', b') = convertWithin (depth + 1) q (c', b') := by
      obtain ⟨s, rfl⟩ := h.store
      refine ih hkind ?_ ?_
      · have hpush := hwithin.push hr hedge
        rw [h.active]
        exact ⟨hpush.nodup, hpush.leads⟩
      · rw [h.active, List.length_cons]
        change b.objects.cells.size < _
        omega
    have hitems := container_congr hkind fun hr => sequence_congr hconvert hkind (hinner hr)
    have hentries := container_congr hkind fun hr => mapping_congr hconvert hkind (hinner hr)
    rw [convertWithin, convertWithin, bind_apply, bind_apply, inspect_apply]
    cases (b.objects.get r).shape with
    | error e => rfl
    | ok x =>
      cases x with
      | list | tuple => exact hitems
      | dict => exact hentries
      | other isMapping isSequence =>
        cases isMapping
        · cases isSequence
          · rfl
          · exact hitems
        · exact hentries
      | _ => rfl

/-- The depth that a conversion starts with is enough. -/
theorem convertWithin_eq (hkind : b.interpreter.kind = .scripted) (skip : Bool) (r : ObjRef)
    {depth : Nat} (hdepth : b.objects.cells.size < depth) :
    convertWithin depth r ({ skip }, b) =
      convertWithin (b.objects.cells.size + 1) r ({ skip }, b) := by
  obtain ⟨more, rfl⟩ := Nat.exists_eq_add_of_lt hdepth
  induction more with
  | zero => rfl
  | succ more ih =>
    have hmore : b.objects.cells.size < b.objects.cells.size + more + 1 := by omega
    have hwithin : Within b [] r := ⟨List.nodup_nil, fun _ hq => absurd hq List.not_mem_nil⟩
    rw [← ih hmore]
    exact (convertWithin_deeper hkind _ hwithin hmore).symm

end Converting

/-! ### Whole conversions -/

theorem toHost_apply (r : ObjRef) (b : Bridge) :
    toHost r b =
      match Converting.convertWithin (b.objects.cells.size + 1) r ({ skip := false }, b) with
      | .ok v t => .ok v t.2
      | .error e t => .error e t.2 := by
  change (toHostWith false r >>= fun x => pure x.1) b = _
  rw [bind_apply, toHostWith]
  cases Converting.convertWithin (b.objects.cells.size + 1) r ({ skip := false }, b) <;> rfl

theorem toHostWith_apply (skip : Bool) (r : ObjRef) (b : Bridge) :
    toHostWith skip r b =
      match Converting.convertWithin (b.objects.cells.size + 1) r ({ skip }, b) with
      | .ok v t => .ok (v, t.1.skipped) t.2
      | .error e t => .error e t.2 := by
  rw [toHostWith]
  cases Converting.convertWithin (b.objects.cells.size + 1) r ({ skip }, b) <;> rfl

/-- Conversions end, by themselves and not because of a bound on their depth. If entries that fail
are left out, a container is always converted, and nothing is left out exactly if the strict
conversion succeeds. The two then give the same value in the same editor. -/
theorem strict_iff_nothing_skipped (hkind : b.interpreter.kind = .scripted) (r : ObjRef) :
    (∀ skip, (∃ x b', toHostWith skip r b = .ok x b') ∨
        ∃ e b', toHostWith skip r b = .error (.error e) b') ∧
      (∀ skip depth, b.objects.cells.size < depth →
        Converting.convertWithin depth r ({ skip }, b) =
          Converting.convertWithin (b.objects.cells.size + 1) r ({ skip }, b)) ∧
      ((b.objects.get r).contents?.isSome →
        ∃ v skipped b', toHostWith true r b = .ok (v, skipped) b') ∧
      ∀ v b', toHost r b = .ok v b' ↔ toHostWith true r b = .ok (v, []) b' := by
  have htame := Converting.tame_convertWithin (b.objects.cells.size + 1) r
  have hdeeper (skip : Bool) (depth : Nat) (hdepth : b.objects.cells.size < depth) :=
    Converting.convertWithin_eq hkind skip r hdepth
  refine ⟨fun skip => ?_, hdeeper, ?_, fun v b' => ?_⟩
  · have hends := htame.ends { skip } b hkind
    rw [toHostWith_apply]
    generalize Converting.convertWithin _ r ({ skip }, b) = outcome at hends
    cases hends with
    | ok => exact .inl ⟨_, _, rfl⟩
    | error => exact .inr ⟨_, _, rfl⟩
  · intro hcontents
    obtain ⟨v, t, h⟩ := Converting.convertWithin_lenient (c := { skip := true }) hkind
      b.objects.cells.size hcontents rfl (fun _ => List.not_mem_nil) List.not_mem_nil
    rw [toHostWith_apply, h]
    exact ⟨_, _, _, rfl⟩
  · have hagree := htame.agree { skip := false } b hkind rfl
    rw [toHost_apply, toHostWith_apply]
    change Agree _ _ (Converting.convertWithin _ r ({ skip := true }, b)) at hagree
    generalize Converting.convertWithin _ r ({ skip := false }, b) = strict at hagree ⊢
    generalize Converting.convertWithin _ r ({ skip := true }, b) = lenient at hagree ⊢
    cases hagree with
    | @same x c' b'' hskipped =>
      have hnothing : c'.lenient.skipped = [] := hskipped
      dsimp only
      rw [hnothing]
      constructor
      · rintro ⟨⟩
        rfl
      · rintro ⟨⟩
        rfl
    | @noted e t x c' b'' hmore =>
      refine ⟨nofun, fun h => ?_⟩
      injection h with hpair
      have hnothing : c'.skipped = [] := (Prod.mk.inj hpair).2
      rw [hnothing] at hmore
      exact absurd hmore (Nat.lt_irrefl 0)
    | failed => exact ⟨nofun, nofun⟩

/-- A list that holds itself and a number is converted, but without itself. -/
theorem nothing_skipped_of_strict_loop :
    let b : Bridge := { Bridge.fresh with objects := { cells := #[.list [⟨0⟩, ⟨1⟩], .int 5] } }
    b.interpreter.kind = .scripted ∧
      ∃ v skipped b', toHostWith true ⟨0⟩ b = .ok (v, skipped) b' ∧ skipped ≠ [] := by
  intro b
  obtain ⟨-, -, hcontainer, hiff⟩ := strict_iff_nothing_skipped (b := b) rfl ⟨0⟩
  obtain ⟨v, skipped, b', h⟩ := hcontainer rfl
  refine ⟨rfl, v, skipped, b', h, ?_⟩
  rintro rfl
  have hstrict := (hiff v b').mpr h
  cases hstrict

end Convert

end ScriptBridge
