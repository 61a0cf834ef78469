import ScriptBridge.Convert.ToForeign
import ScriptBridge.Convert.ToHost
import ScriptBridge.Proofs.Bridge.Mild

/-!
# Conversions are mild

A conversion to the interpreter makes objects, and one to the editor makes lists and dictionaries.
Neither does anything else to the bridge, whatever is converted.
-/

namespace ScriptBridge.Convert

open Foreign (ObjRef Target ProxyClass)
open Host (Value)
open Act (Mild)
open ScriptBridge.Computation

variable {P : {ε α : Type} → Act ε α → Prop} [Act.Mild P] {α β : Type}

/-! ### Texts -/

theorem mild_unsupported (r : ObjRef) : P (unsupported r : Act ConvertError α) :=
  Mild.bind (Mild.typeName r) fun _ => Mild.fail

theorem mild_keyOf (r : ObjRef) : P (keyOf r) := by
  have hkey (key : String) :
      P (if key.isEmpty then Act.fail .emptyKey else pure key : Act ConvertError String) := by
    split
    · exact Mild.fail
    · exact Mild.pure
  refine Mild.bind (Mild.mapError (Mild.inspect r)) fun shape => ?_
  split
  iterate 5 exact hkey _
  · exact Mild.bind (Mild.typeName r) fun _ => Mild.bind Mild.fail fun _ => hkey _

theorem mild_stringOf (r : ObjRef) : P (stringOf r) := by
  refine Mild.bind (Mild.mapError (Mild.inspect r)) fun shape => ?_
  split
  iterate 2 exact Mild.pure
  · exact mild_unsupported r

theorem mild_lineToForeign (line : String) : P (lineToForeign line) := Mild.alloc

theorem mild_lineFromForeign (r : ObjRef) : P (lineFromForeign r) := by
  refine Mild.bind (mild_stringOf r) fun text => ?_
  split
  · exact Mild.fail
  · exact Mild.pure

theorem mild_linesFromForeign (r : ObjRef) : P (linesFromForeign r) := by
  have hitems : P (do
      let items ← Bridge.itemsOf r
      items.mapM lineFromForeign : Act ConvertError (List String)) :=
    Mild.bind (Mild.mapError (Mild.itemsOf r)) fun items => Mild.mapM mild_lineFromForeign items
  refine Mild.bind (Mild.mapError (Mild.inspect r)) fun shape => ?_
  split
  iterate 2 exact Mild.bind (mild_lineFromForeign r) fun _ => Mild.pure
  iterate 3 exact hitems
  · exact mild_unsupported r

/-! ### From the editor to the interpreter -/

theorem mild_newEntry (kind : Foreign.InterpreterKind) (key : String) (value : ObjRef) :
    P (newEntry kind key value) := by
  unfold newEntry
  exact Mild.guard (Mild.bind Mild.alloc fun _ => Mild.pure)

theorem mild_copyWithin (depth : Nat) (path : List Container) (v : Value) :
    P (copyWithin depth path v) := by
  induction depth generalizing path v with
  | zero =>
    cases v with
    | null | number n | float x | str s | func name bound =>
      rw [copyWithin]
      exact Mild.alloc
    | list l | dict d =>
      rw [copyWithin]
      · exact Mild.fail
      all_goals
        intros
        contradiction
  | succ depth ih =>
    cases v with
    | null | number n | float x | str s | func name bound =>
      rw [copyWithin]
      exact Mild.alloc
    | list l =>
      rw [copyWithin]
      refine Mild.guard (Mild.read (fun b => ?_) fun _ _ => rfl)
      exact Mild.bind (Mild.mapM (ih _) _) fun _ => Mild.alloc
    | dict d =>
      rw [copyWithin]
      have hentry (e : String × Value) :
          P (do return (e.1, ← copyWithin depth (.dict d :: path) e.2) : Act ConvertError _) :=
        Mild.bind (ih _ e.2) fun _ => Mild.pure
      refine Mild.guard (Mild.read (fun b => ?_) fun _ _ => rfl)
      refine Mild.bind (Mild.mapM hentry _) fun copies => Mild.read (fun b => ?_) fun _ _ => rfl
      exact Mild.bind (Mild.mapM (fun e => Mild.mapError (mild_newEntry _ e.1 e.2)) copies)
        fun _ => Mild.alloc

theorem mild_toForeign (v : Value) : P (toForeign v) :=
  Mild.read (fun _ => mild_copyWithin _ _ v) fun _ _ => rfl

theorem mild_toForeignBound (v : Value) : P (toForeignBound v) := by
  cases v with
  | list l | dict d => exact Mild.alloc
  | null | number n | float x | str s | func name bound => exact mild_toForeign _

/-! ### From the interpreter to the editor -/

namespace Converting

/-- A step of a conversion as a computation of the bridge. It gives how the step ends, and what is
known of the conversion then. -/
def act (a : Converting α) (c : Conversion) :
    Act ConvertError (Except ConvertError α × Conversion) := fun b =>
  match a (c, b) with
  | .ok x (c, b) => .ok (.ok x, c) b
  | .error (.error e) (c, b) => .ok (.error e, c) b
  | .error .crash (_, b) => .error .crash b

/-- What comes after a step that has not failed. -/
def next (f : α → Converting β) :
    Except ConvertError α × Conversion → Act ConvertError (Except ConvertError β × Conversion)
  | (.ok x, c) => (f x).act c
  | (.error e, c) => pure (.error e, c)

theorem act_bind (a : Converting α) (f : α → Converting β) (c : Conversion) :
    (a >>= f).act c = a.act c >>= next f := by
  funext b
  rw [bind_apply]
  unfold act
  rw [bind_apply]
  cases a (c, b) with
  | ok x s => rfl
  | error stop s => cases stop <;> rfl

theorem act_attempt (a : Converting α) (c : Conversion) :
    act (Act.attempt a : Converting (Except ConvertError α)) c =
      a.act c >>= fun p => pure (.ok p.1, p.2) := by
  funext b
  rw [bind_apply]
  unfold act Act.attempt
  cases a (c, b) with
  | ok x s => rfl
  | error stop s => cases stop <;> rfl

theorem act_lift (a : Act ConvertError α) (c : Conversion) :
    (lift a).act c = Act.attempt a >>= fun result => pure (result, c) := by
  funext b
  rw [bind_apply]
  unfold act lift Act.attempt
  dsimp only
  cases a b with
  | ok x b' => rfl
  | error stop b' => cases stop <;> rfl

/-- A step of a conversion of which something holds that holds of mild computations. -/
def Mild (P : {ε α : Type} → Act ε α → Prop) (a : Converting α) : Prop := ∀ c, P (a.act c)

namespace Mild

theorem pure {x : α} : (Pure.pure x : Converting α).Mild P := fun _ => Act.Mild.pure

theorem fail {e : ConvertError} : (Converting.fail e : Converting α).Mild P :=
  fun _ => Act.Mild.pure

theorem note {f : Conversion → Conversion} : (Converting.note f).Mild P := fun _ => Act.Mild.pure

theorem bind {a : Converting α} {f : α → Converting β} (ha : a.Mild P) (hf : ∀ x, (f x).Mild P) :
    (a >>= f).Mild P := by
  intro c
  rw [act_bind]
  refine Act.Mild.bind (ha c) fun p => ?_
  obtain ⟨result, c⟩ := p
  cases result with
  | ok x => exact hf x c
  | error e => exact Act.Mild.pure

theorem read {f : Conversion × Bridge → Converting β} (hf : ∀ s, (f s).Mild P)
    (hsame : ∀ h c b, f (c, b.handing h) = f (c, b)) :
    (MonadState.get >>= f : Converting β).Mild P := by
  intro c
  change P (MonadState.get >>= fun b => (f (c, b)).act c)
  exact Act.Mild.read (fun b => hf (c, b) c) fun h b => by rw [hsame]

theorem attempt {a : Converting α} (ha : a.Mild P) :
    Converting.Mild P (Act.attempt a : Converting (Except ConvertError α)) := by
  intro c
  rw [act_attempt]
  exact Act.Mild.bind (ha c) fun _ => Act.Mild.pure

theorem lift {a : Act ConvertError α} (ha : P a) : (Converting.lift a).Mild P := by
  intro c
  rw [act_lift]
  exact Act.Mild.bind (Act.Mild.attempt ha) fun _ => Act.Mild.pure

theorem guard {c : Prop} [Decidable c] {e : ConvertError} {f : Unit → Converting α}
    (hf : (f ()).Mild P) : (if c then Converting.fail e >>= f else f ()).Mild P := by
  split
  · exact .bind .fail fun _ => hf
  · exact hf

end Mild

variable {convert : ObjRef → Converting Value}

theorem mild_container {body : ObjRef → Converting Value} (hbody : ∀ r, (body r).Mild P)
    (r : ObjRef) : (container body r).Mild P := by
  refine .read (fun s => ?_) fun _ _ _ => rfl
  obtain ⟨c, b⟩ := s
  dsimp only
  split
  · exact .pure
  · refine .guard (.bind .note fun _ => .bind (.attempt (hbody r)) fun result => ?_)
    refine .bind .note fun _ => ?_
    cases result with
    | ok v => exact .bind .note fun _ => .pure
    | error e => exact .fail

theorem mild_entry {label : Act ConvertError String} (hlabel : P label) {a : Converting α}
    (ha : a.Mild P) : (entry label a).Mild P := by
  refine .bind (.attempt ha) fun result => ?_
  cases result with
  | ok x => exact .pure
  | error e =>
    refine .read (fun s => ?_) fun _ _ _ => rfl
    split
    · exact .bind (.lift hlabel) fun _ => .bind .note fun _ => .pure
    · exact .fail

theorem mild_itemsFrom (hconvert : ∀ r, (convert r).Mild P) (i : Nat) (rs : List ObjRef) :
    (itemsFrom convert i rs).Mild P := by
  induction rs generalizing i with
  | nil => exact .pure
  | cons r rest ih =>
    exact .bind (mild_entry Act.Mild.pure (hconvert r)) fun _ => .bind (ih (i + 1)) fun _ => .pure

theorem mild_sequence (hconvert : ∀ r, (convert r).Mild P) (r : ObjRef) :
    (sequence convert r).Mild P :=
  .bind (.lift (Act.Mild.mapError (Act.Mild.itemsOf r))) fun items =>
    .bind (mild_itemsFrom hconvert 0 items) fun _ =>
      .bind (.lift Act.Mild.newList) fun _ => .pure

theorem mild_keyLabel (r : ObjRef) : P (keyLabel r) := by
  refine Act.Mild.read (fun b => ?_) fun h b => ?_
  · split
    · exact Act.Mild.pure
    · exact Act.Mild.typeName r
  · rw [b.text_handing]

theorem mild_entriesOnto (hconvert : ∀ r, (convert r).Mild P) (entries : List (String × Value))
    (ps : List (ObjRef × ObjRef)) : (entriesOnto convert entries ps).Mild P := by
  induction ps generalizing entries with
  | nil => exact .pure
  | cons p rest ih =>
    obtain ⟨k, r⟩ := p
    have hpair := (Mild.lift (mild_keyOf k)).bind fun key => (hconvert r).bind fun v =>
      .pure (x := (key, v))
    refine .bind (mild_entry (mild_keyLabel k) hpair) fun e? => ?_
    cases e? with
    | some e => exact ih _
    | none => exact ih _

theorem mild_mapping (hconvert : ∀ r, (convert r).Mild P) (r : ObjRef) :
    (mapping convert r).Mild P :=
  .bind (.lift (Act.Mild.mapError (Act.Mild.pairsOf r))) fun pairs =>
    .bind (mild_entriesOnto hconvert [] pairs) fun _ =>
      .bind (.lift Act.Mild.newDict) fun _ => .pure

theorem mild_textOr (typeName : String) (r : ObjRef) : (textOr typeName r).Mild P := by
  refine .read (fun s => ?_) fun h c b => ?_
  · split
    · exact .pure
    · exact .fail
  · dsimp only
    rw [b.text_handing]

theorem mild_proxy (r : ObjRef) (cls : ProxyClass) (t : Target) : (proxy r cls t).Mild P := by
  cases t with
  | dict | list | function | buffer | window | tabPage => exact .pure
  | invalid => exact .fail
  | _ => exact mild_textOr _ r

theorem mild_convertWithin (depth : Nat) (r : ObjRef) : (convertWithin depth r).Mild P := by
  induction depth generalizing r with
  | zero => exact .fail
  | succ depth ih =>
    have hitems := mild_container (mild_sequence ih) r
    have hentries := mild_container (mild_mapping ih) r
    rw [convertWithin]
    refine .bind (.lift (Act.Mild.mapError (Act.Mild.inspect r))) fun shape => ?_
    split
    · exact mild_proxy r _ _
    iterate 6 exact .pure
    iterate 2 exact hentries
    iterate 3 exact hitems
    iterate 2 exact .bind (.lift (Act.Mild.typeName r)) fun _ => mild_textOr _ r

end Converting

theorem toHostWith_eq (skip : Bool) (r : ObjRef) :
    toHostWith skip r = (do
      let (result, c) ←
        (Converting.convertWithin ((← get).objects.cells.size + 1) r).act { skip }
      return (← Act.ofExcept result, c.skipped) : Act ConvertError _) := by
  funext b
  simp only [bind_apply, get_apply]
  unfold toHostWith Converting.act
  cases Converting.convertWithin (b.objects.cells.size + 1) r ({ skip }, b) with
  | ok x s => rfl
  | error stop s => cases stop <;> rfl

theorem mild_toHostWith (skip : Bool) (r : ObjRef) : P (toHostWith skip r) := by
  rw [toHostWith_eq]
  refine Mild.read (fun b => ?_) fun _ _ => rfl
  exact Mild.bind (Converting.mild_convertWithin _ r _) fun _ =>
    Mild.bind Mild.ofExcept fun _ => Mild.pure

theorem mild_toHost (r : ObjRef) : P (toHost r) :=
  Mild.bind (mild_toHostWith false r) fun _ => Mild.pure

end ScriptBridge.Convert
