import ScriptBridge.Proofs.Convert.Strict

/-!
# Conversions that leave entries out

A conversion that leaves failing entries out goes the same way as a strict one until an entry fails.
From then on it has noted an entry, and what is noted is never forgotten. The strict conversion fails
there. A container is always converted if its failing entries are left out.
-/

namespace ScriptBridge

open Foreign (ObjRef Object Objects Contents Shape)
open Host (Value Store)
open ScriptBridge.Computation

namespace Foreign.Object

theorem contents?_of_elements? {x : Object} {rs : List ObjRef} (h : x.elements? = some rs) :
    x.contents? = some (.items rs) := by
  cases x <;> cases h <;> rfl

theorem elements?_of_contents? {x : Object} {rs : List ObjRef}
    (h : x.contents? = some (.items rs)) : x.elements? = some rs := by
  cases x <;> cases h <;> rfl

end Foreign.Object

namespace Convert

/-- The same state, but entries that fail are left out. -/
def Conversion.lenient (c : Conversion) : Conversion := { c with skip := true }

/-- A later state of a conversion in which the same containers are being converted. -/
structure Advanced (c : Conversion) (b : Bridge) (c' : Conversion) (b' : Bridge) : Prop where
  skip : c'.skip = c.skip
  active : c'.active = c.active
  skipped : c.skipped <+: c'.skipped
  store : ∃ s, b' = b.withStore s

/-- How a part of a conversion ends: it does not break down, and what was noted stays. -/
inductive Ends {α : Type} (c : Conversion) (b : Bridge) :
    EStateM.Result (Stop ConvertError) (Conversion × Bridge) α → Prop
  | ok {x : α} {c' : Conversion} {b' : Bridge} (h : Advanced c b c' b') : Ends c b (.ok x (c', b'))
  | error {e : ConvertError} {c' : Conversion} {b' : Bridge} (h : Advanced c b c' b') :
    Ends c b (.error (.error e) (c', b'))

/-- How a part of a strict conversion and the same part of a lenient one end together: both give the
same, or the strict one fails and the lenient one fails or has noted an entry. -/
inductive Agree {α : Type} (c : Conversion) :
    EStateM.Result (Stop ConvertError) (Conversion × Bridge) α →
    EStateM.Result (Stop ConvertError) (Conversion × Bridge) α → Prop
  | same {x : α} {c' : Conversion} {b' : Bridge} (hskipped : c'.skipped = c.skipped) :
    Agree c (.ok x (c', b')) (.ok x (c'.lenient, b'))
  | noted {e : ConvertError} {t : Conversion × Bridge} {x : α} {c' : Conversion} {b' : Bridge}
    (hmore : c.skipped.length < c'.skipped.length) : Agree c (.error (.error e) t) (.ok x (c', b'))
  | failed {e e' : ConvertError} {t t' : Conversion × Bridge} :
    Agree c (.error (.error e) t) (.error (.error e') t')

variable {α β : Type} {b b' b'' : Bridge} {c c' c'' : Conversion} {r : ObjRef}

namespace Advanced

theorem refl : Advanced c b c b := ⟨rfl, rfl, List.prefix_refl _, b.editor.store, rfl⟩

theorem trans (h : Advanced c b c' b') (h' : Advanced c' b' c'' b'') : Advanced c b c'' b'' := by
  obtain ⟨s, rfl⟩ := h.store
  obtain ⟨s', rfl⟩ := h'.store
  exact ⟨h'.skip.trans h.skip, h'.active.trans h.active, h.skipped.trans h'.skipped, s', rfl⟩

theorem kind (h : Advanced c b c' b') (hkind : b.interpreter.kind = .scripted) :
    b'.interpreter.kind = .scripted := by
  obtain ⟨s, rfl⟩ := h.store
  exact hkind

end Advanced

theorem Ends.trans {outcome : EStateM.Result (Stop ConvertError) (Conversion × Bridge) α}
    (h : Advanced c b c' b') (hends : Ends c' b' outcome) : Ends c b outcome := by
  cases hends with
  | ok h' => exact .ok (h.trans h')
  | error h' => exact .error (h.trans h')

theorem Agree.of_skipped
    {strict lenient : EStateM.Result (Stop ConvertError) (Conversion × Bridge) α}
    (h : Agree c' strict lenient) (hskipped : c'.skipped = c.skipped) : Agree c strict lenient := by
  cases h with
  | same h => exact .same (h.trans hskipped)
  | noted h => exact .noted (hskipped ▸ h)
  | failed => exact .failed

namespace Converting

/-- A part of a conversion that does not break down, and in which a lenient conversion agrees with a
strict one. -/
structure Tame (a : Converting α) : Prop where
  ends : ∀ c b, b.interpreter.kind = .scripted → Ends c b (a (c, b))
  agree : ∀ c b, b.interpreter.kind = .scripted → c.skip = false →
    Agree c (a (c, b)) (a (c.lenient, b))

namespace Tame

/-- What does not depend on the state of the conversion. -/
theorem of_uniform {a : Converting α} (h : ∀ b, b.interpreter.kind = .scripted →
    (∃ x s, ∀ c, a (c, b) = .ok x (c, b.withStore s)) ∨
      ∃ e, ∀ c, a (c, b) = .error (.error e) (c, b)) : a.Tame := by
  constructor
  · intro c b hkind
    rcases h b hkind with ⟨x, s, ha⟩ | ⟨e, ha⟩
    · rw [ha]
      exact .ok ⟨rfl, rfl, List.prefix_refl _, s, rfl⟩
    · rw [ha]
      exact .error .refl
  · intro c b hkind _
    rcases h b hkind with ⟨x, s, ha⟩ | ⟨e, ha⟩
    · rw [ha, ha]
      exact .same rfl
    · rw [ha, ha]
      exact .failed

theorem pure (x : α) : Tame (Pure.pure x) :=
  .of_uniform fun b _ => .inl ⟨x, b.editor.store, fun _ => rfl⟩

theorem fail (e : ConvertError) : Tame (Converting.fail e : Converting α) :=
  .of_uniform fun _ _ => .inr ⟨e, fun _ => rfl⟩

/-- One part after another. What the lenient conversion has noted in the first part is still noted
after the second one. -/
theorem bind {a : Converting α} {f : α → Converting β} (ha : a.Tame) (hf : ∀ x, (f x).Tame) :
    (a >>= f).Tame := by
  constructor
  · intro c b hkind
    rw [bind_apply]
    have hends := ha.ends c b hkind
    generalize a (c, b) = outcome at hends
    cases hends with
    | ok h => exact .trans h ((hf _).ends _ _ (h.kind hkind))
    | error h => exact .error h
  · intro c b hkind hstrict
    rw [bind_apply, bind_apply]
    have hends := ha.ends c b hkind
    have hlenient := ha.ends c.lenient b hkind
    have hagree := ha.agree c b hkind hstrict
    generalize a (c, b) = outcome at hends hagree
    generalize a (c.lenient, b) = outcome' at hlenient hagree
    cases hagree with
    | same hskipped =>
      cases hends with
      | ok h =>
        exact ((hf _).agree _ _ (h.kind hkind) (h.skip.trans hstrict)).of_skipped hskipped
    | @noted e t x c' b' hmore =>
      cases hlenient with
      | ok h =>
        have hrest := (hf x).ends c' b' (h.kind hkind)
        dsimp only
        generalize f x (c', b') = outcome at hrest ⊢
        cases hrest with
        | ok h' => exact .noted (Nat.lt_of_lt_of_le hmore h'.skipped.length_le)
        | error h' => exact .failed
    | failed => exact .failed

end Tame

/-! ### Reading objects -/

theorem tame_inspect (r : ObjRef) : Tame (liftM (Bridge.inspect r) : Converting Shape) := by
  refine .of_uniform fun b _ => ?_
  simp only [inspect_apply]
  cases (b.objects.get r).shape with
  | ok x => exact .inl ⟨x, b.editor.store, fun _ => rfl⟩
  | error e => exact .inr ⟨_, fun _ => rfl⟩

theorem tame_itemsOf (r : ObjRef) :
    Tame (liftM (Bridge.itemsOf r) : Converting (List ObjRef)) := by
  refine .of_uniform fun b hkind => ?_
  simp only [itemsOf_apply hkind]
  cases (b.objects.get r).elements? with
  | some rs => exact .inl ⟨rs, b.editor.store, fun _ => rfl⟩
  | none => exact .inr ⟨_, fun _ => rfl⟩

theorem tame_pairsOf (r : ObjRef) :
    Tame (liftM (Bridge.pairsOf r) : Converting (List (ObjRef × ObjRef))) := by
  refine .of_uniform fun b hkind => ?_
  simp only [pairsOf_apply hkind]
  cases (b.objects.get r).contents? with
  | some contents =>
    cases contents with
    | entries ps => exact .inl ⟨ps, b.editor.store, fun _ => rfl⟩
    | items rs => exact .inr ⟨_, fun _ => rfl⟩
  | none => exact .inr ⟨_, fun _ => rfl⟩

theorem tame_keyOf (r : ObjRef) : Tame (lift (keyOf r)) := by
  refine .of_uniform fun b _ => ?_
  simp only [lift_apply]
  have hkey := keyOf_apply b r
  cases htext : (b.objects.get r).keyText? with
  | none =>
    rw [htext] at hkey
    obtain ⟨e, he⟩ := hkey
    rw [he]
    exact .inr ⟨e, fun _ => rfl⟩
  | some key =>
    rw [htext] at hkey
    dsimp only at hkey
    rw [hkey]
    by_cases hempty : key.isEmpty = true
    · rw [if_pos hempty]
      exact .inr ⟨.emptyKey, fun _ => rfl⟩
    · rw [if_neg hempty]
      exact .inl ⟨key, b.editor.store, fun _ => rfl⟩

theorem tame_textOr (typeName : String) (r : ObjRef) : Tame (textOr typeName r) := by
  refine .of_uniform fun b hkind => ?_
  simp only [textOr_apply hkind]
  cases b.scriptedText r with
  | ok s => exact .inl ⟨.str s, b.editor.store, fun _ => rfl⟩
  | error e => exact .inr ⟨_, fun _ => rfl⟩

theorem tame_proxy (r : ObjRef) (cls : Foreign.ProxyClass) (t : Foreign.Target) :
    Tame (proxy r cls t) := by
  cases t with
  | dict | list | function | buffer | window | tabPage => exact .pure _
  | invalid => exact .fail _
  | _ => exact tame_textOr _ r

/-! ### Containers -/

/-- An entry that is left out is noted with its label. -/
theorem entry_noted {label : Act ConvertError String} {a : Converting α} {e : ConvertError}
    {t : Conversion × Bridge} {l : String} (h : a t = .error (.error e) (c', b'))
    (hskip : c'.skip = true) (hlabel : label b' = .ok l b') :
    entry label a t = .ok none ({ c' with skipped := c'.skipped ++ [(l, e)] }, b') := by
  have hlift : (liftM label : Converting String) = lift label := rfl
  unfold entry
  rw [bind_apply, Act.attempt, h]
  dsimp only
  rw [bind_apply, get_apply]
  dsimp only
  rw [if_pos hskip, bind_apply, hlift, lift_apply, hlabel]
  rfl

theorem keyLabel_apply (r : ObjRef) (b : Bridge) : ∃ l, keyLabel r b = .ok l b := by
  unfold keyLabel
  rw [bind_apply, get_apply]
  dsimp only
  cases b.text r with
  | ok s => exact ⟨s, rfl⟩
  | error e => exact ⟨_, rfl⟩

theorem positionLabel_apply (i : Nat) (b : Bridge) :
    ∃ l, (pure (toString i) : Act ConvertError String) b = .ok l b := ⟨_, rfl⟩

/-- An entry that fails in a strict conversion is noted in a lenient one. -/
theorem Tame.entry {label : Act ConvertError String} {a : Converting α} (ha : a.Tame)
    (hlabel : ∀ b, ∃ l, label b = .ok l b) : (entry label a).Tame := by
  constructor
  · intro c b hkind
    have hends := ha.ends c b hkind
    generalize h : a (c, b) = outcome at hends
    cases hends with
    | ok hadvanced =>
      rw [entry_ok h]
      exact .ok hadvanced
    | @error e c' b' hadvanced =>
      cases hskip : c'.skip with
      | false =>
        rw [entry_error h hskip]
        exact .error hadvanced
      | true =>
        obtain ⟨l, hl⟩ := hlabel b'
        rw [entry_noted h hskip hl]
        exact .ok ⟨hadvanced.skip, hadvanced.active,
          hadvanced.skipped.trans (List.prefix_append _ _), hadvanced.store⟩
  · intro c b hkind hstrict
    have hends := ha.ends c b hkind
    have hlenient := ha.ends c.lenient b hkind
    have hagree := ha.agree c b hkind hstrict
    generalize h : a (c, b) = outcome at hends hagree
    generalize h' : a (c.lenient, b) = outcome' at hlenient hagree
    cases hagree with
    | same hskipped =>
      rw [entry_ok h, entry_ok h']
      exact .same hskipped
    | noted hmore =>
      cases hends with
      | error hadvanced =>
        rw [entry_error h (hadvanced.skip.trans hstrict), entry_ok h']
        exact .noted hmore
    | failed =>
      cases hends with
      | error hadvanced =>
        cases hlenient with
        | @error e' c' b' hadvanced' =>
          obtain ⟨l, hl⟩ := hlabel b'
          rw [entry_error h (hadvanced.skip.trans hstrict), entry_noted h' hadvanced'.skip hl]
          refine .noted ?_
          have hle : c.skipped.length ≤ c'.skipped.length := hadvanced'.skipped.length_le
          simp only [List.length_append, List.length_singleton]
          omega

/-- A container is entered and left, however the conversion of what it holds ends. -/
theorem Tame.container {body : ObjRef → Converting Value} (hbody : ∀ q, (body q).Tame)
    (r : ObjRef) : (container body r).Tame := by
  constructor
  · intro c b hkind
    rw [container_apply hkind]
    cases c.done.find? fun e => e.1 = r with
    | some e => exact .ok .refl
    | none =>
      dsimp only
      split
      · exact .error .refl
      · have hends := (hbody r).ends { c with active := r :: c.active } b hkind
        generalize body r ({ c with active := r :: c.active }, b) = outcome at hends ⊢
        cases hends with
        | @ok v c' b' h =>
          have hactive : c'.active.erase r = c.active := by rw [h.active, List.erase_cons_head]
          exact .ok ⟨h.skip, hactive, h.skipped, h.store⟩
        | @error e c' b' h =>
          have hactive : c'.active.erase r = c.active := by rw [h.active, List.erase_cons_head]
          exact .error ⟨h.skip, hactive, h.skipped, h.store⟩
  · intro c b hkind hstrict
    have hdone : c.lenient.done = c.done := rfl
    have hactive : c.lenient.active = c.active := rfl
    have hentered : Conversion.mk c.lenient.skip c.done (r :: c.active) c.lenient.skipped =
        ({ c with active := r :: c.active } : Conversion).lenient := rfl
    rw [container_apply hkind, container_apply hkind, hdone, hactive, hentered]
    cases c.done.find? fun e => e.1 = r with
    | some e => exact .same rfl
    | none =>
      dsimp only
      split
      · exact .failed
      · have hagree := (hbody r).agree { c with active := r :: c.active } b hkind hstrict
        generalize body r ({ c with active := r :: c.active }, b) = outcome at hagree ⊢
        generalize body r (({ c with active := r :: c.active } : Conversion).lenient, b) = outcome'
          at hagree ⊢
        cases hagree with
        | same hskipped => exact .same hskipped
        | noted hmore => exact .noted hmore
        | failed => exact .failed

variable {convert : ObjRef → Converting Value}

theorem tame_itemsFrom (hconvert : ∀ q, (convert q).Tame) (i : Nat) (rs : List ObjRef) :
    (itemsFrom convert i rs).Tame := by
  induction rs generalizing i with
  | nil => exact .pure _
  | cons q rest ih =>
    have hentry := (hconvert q).entry (positionLabel_apply i)
    exact hentry.bind fun v? => (ih (i + 1)).bind fun vs => .pure _

theorem tame_sequence (hconvert : ∀ q, (convert q).Tame) (r : ObjRef) :
    (sequence convert r).Tame := by
  refine (tame_itemsOf r).bind fun rs => (tame_itemsFrom hconvert 0 rs).bind fun vs => ?_
  exact .bind (.of_uniform fun b _ => .inl ⟨_, _, fun _ => rfl⟩) fun l => .pure _

theorem tame_entriesOnto (hconvert : ∀ q, (convert q).Tame) (entries : List (String × Value))
    (ps : List (ObjRef × ObjRef)) : (entriesOnto convert entries ps).Tame := by
  induction ps generalizing entries with
  | nil => exact .pure _
  | cons p rest ih =>
    obtain ⟨k, q⟩ := p
    have hpair := (tame_keyOf k).bind fun key => (hconvert q).bind fun v => .pure (key, v)
    refine (hpair.entry (keyLabel_apply k)).bind fun e? => ?_
    cases e? with
    | some e => exact ih _
    | none => exact ih _

theorem tame_mapping (hconvert : ∀ q, (convert q).Tame) (r : ObjRef) :
    (mapping convert r).Tame := by
  refine (tame_pairsOf r).bind fun ps => (tame_entriesOnto hconvert [] ps).bind fun es => ?_
  exact .bind (.of_uniform fun b _ => .inl ⟨_, _, fun _ => rfl⟩) fun d => .pure _

theorem tame_convertWithin (depth : Nat) (r : ObjRef) : (convertWithin depth r).Tame := by
  induction depth generalizing r with
  | zero => exact .fail _
  | succ depth ih =>
    have hitems := Tame.container (tame_sequence ih) r
    have hentries := Tame.container (tame_mapping ih) r
    have hname : Tame (lift (Bridge.typeName r)) :=
      .of_uniform fun b _ => .inl ⟨_, b.editor.store, fun _ => rfl⟩
    have htext := hname.bind fun name => tame_textOr name r
    refine (tame_inspect r).bind fun x => ?_
    cases x with
    | null | bool | int | float | bytes | str => exact .pure _
    | proxy cls t => exact tame_proxy r cls t
    | list | tuple => exact hitems
    | dict => exact hentries
    | slice => exact htext
    | other isMapping isSequence =>
      cases isMapping
      · cases isSequence
        · exact htext
        · exact hitems
      · exact hentries

/-! ### Lenient conversions of containers -/

/-- A part of a conversion that does not fail if failing entries are left out. -/
def Lenient (a : Converting α) : Prop :=
  ∀ c b, b.interpreter.kind = .scripted → c.skip = true → ∃ x t, a (c, b) = .ok x t

theorem Lenient.bind {a : Converting α} {f : α → Converting β} (ha : Lenient a) (htame : a.Tame)
    (hf : ∀ x, Lenient (f x)) : Lenient (a >>= f) := by
  intro c b hkind hskip
  obtain ⟨x, ⟨c', b'⟩, h⟩ := ha c b hkind hskip
  have hends := htame.ends c b hkind
  rw [h] at hends
  cases hends with
  | ok hadvanced =>
    rw [bind_apply, h]
    exact hf x c' b' (hadvanced.kind hkind) (hadvanced.skip.trans hskip)

theorem lenient_entry {label : Act ConvertError String} {a : Converting α} (ha : a.Tame)
    (hlabel : ∀ b, ∃ l, label b = .ok l b) : Lenient (entry label a) := by
  intro c b hkind hskip
  have hends := ha.ends c b hkind
  generalize h : a (c, b) = outcome at hends
  cases hends with
  | ok => exact ⟨_, _, entry_ok h⟩
  | @error e c' b' hadvanced =>
    obtain ⟨l, hl⟩ := hlabel b'
    exact ⟨_, _, entry_noted h (hadvanced.skip.trans hskip) hl⟩

theorem lenient_itemsFrom (hconvert : ∀ q, (convert q).Tame) (i : Nat) (rs : List ObjRef) :
    Lenient (itemsFrom convert i rs) := by
  induction rs generalizing i with
  | nil => exact fun c b _ _ => ⟨_, _, rfl⟩
  | cons q rest ih =>
    have hlabel := positionLabel_apply i
    refine .bind (lenient_entry (hconvert q) hlabel) ((hconvert q).entry hlabel) fun v? => ?_
    exact .bind (ih (i + 1)) (tame_itemsFrom hconvert _ rest) fun vs c b _ _ => ⟨_, _, rfl⟩

theorem lenient_entriesOnto (hconvert : ∀ q, (convert q).Tame) (entries : List (String × Value))
    (ps : List (ObjRef × ObjRef)) : Lenient (entriesOnto convert entries ps) := by
  induction ps generalizing entries with
  | nil => exact fun c b _ _ => ⟨_, _, rfl⟩
  | cons p rest ih =>
    obtain ⟨k, q⟩ := p
    have hpair := (tame_keyOf k).bind fun key => (hconvert q).bind fun v => .pure (key, v)
    have hlabel := keyLabel_apply k
    refine .bind (lenient_entry hpair hlabel) (hpair.entry hlabel) fun e? => ?_
    cases e? with
    | some e => exact ih _
    | none => exact ih _

/-- Whatever is in a container, it is converted if failing entries are left out. -/
theorem convertWithin_lenient (hkind : b.interpreter.kind = .scripted) (depth : Nat)
    (hcontents : (b.objects.get r).contents?.isSome) (hskip : c.skip = true)
    (hdone : ∀ v, (r, v) ∉ c.done) (hactive : r ∉ c.active) :
    ∃ v t, convertWithin (depth + 1) r (c, b) = .ok v t := by
  have hcontainer {body : ObjRef → Converting Value}
      (hbody : ∃ v t, body r ({ c with active := r :: c.active }, b) = .ok v t) :
      ∃ v t, container body r (c, b) = .ok v t := by
    obtain ⟨v, t, h⟩ := hbody
    rw [container_apply hkind, find?_done_eq_none hdone]
    dsimp only
    rw [if_neg hactive, h]
    exact ⟨_, _, rfl⟩
  have hconvert := tame_convertWithin depth
  obtain ⟨contents, hcontents⟩ := Option.isSome_iff_exists.mp hcontents
  cases contents with
  | items rs =>
    rw [convertWithin_items hcontents]
    obtain ⟨vs, t, h⟩ :=
      lenient_itemsFrom hconvert 0 rs { c with active := r :: c.active } b hkind hskip
    refine hcontainer ?_
    unfold sequence
    rw [bind_apply, itemsOf_apply hkind, Object.elements?_of_contents? hcontents]
    dsimp only
    rw [bind_apply, h]
    exact ⟨_, _, rfl⟩
  | entries ps =>
    rw [convertWithin_entries hcontents]
    obtain ⟨es, t, h⟩ :=
      lenient_entriesOnto hconvert [] ps { c with active := r :: c.active } b hkind hskip
    refine hcontainer ?_
    unfold mapping
    rw [bind_apply, pairsOf_apply hkind, hcontents]
    dsimp only
    rw [bind_apply, h]
    exact ⟨_, _, rfl⟩

end Converting

end Convert

end ScriptBridge
