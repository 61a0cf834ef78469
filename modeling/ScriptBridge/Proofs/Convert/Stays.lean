import ScriptBridge.Proofs.Bridge.Stays
import ScriptBridge.Proofs.Convert.Leniency

/-!
# Conversions leave the frame as it is

What is read changes nothing. What is made is new objects, or new containers of the editor.
-/

namespace ScriptBridge

open Foreign (ObjRef Object)
open Host (Value)
open ScriptBridge.Computation

namespace Bridge

variable {ε : Type}

/-! ### Reading -/

theorem stays_textOf (r : ObjRef) : (textOf r).Stays := .bind .get fun _ => .ofExcept

theorem stays_typeName (r : ObjRef) : (typeName r : Act ε String).Stays := .bind .get fun _ => .pure

theorem stays_qualifiedType (r : ObjRef) : (qualifiedType r : Act ε String).Stays :=
  .bind .get fun _ => .pure

theorem stays_inspect (r : ObjRef) : (inspect r).Stays := .bind .get fun _ => .ofExcept

/-- The items of an object are read only by the scripted interpreter. -/
theorem stays_itemsOf (r : ObjRef) : (itemsOf r).Stays := by
  refine .bind_get fun b hb => ?_
  dsimp only
  rw [hb.scripted]
  cases (b.objects.get r).elements? <;> exact .refl hb

theorem stays_pairsOf (r : ObjRef) : (pairsOf r).Stays := by
  refine .bind_get fun b hb => ?_
  dsimp only
  rw [hb.scripted]
  split
  iterate 3 exact .refl hb
  iterate 2 contradiction

end Bridge

namespace Convert

/-! ### Texts -/

theorem stays_unsupported {α : Type} (r : ObjRef) : (unsupported r : Act ConvertError α).Stays :=
  .bind (Bridge.stays_typeName r) fun _ => .fail

theorem stays_keyOf (r : ObjRef) : (keyOf r).Stays := by
  have hkey (key : String) : Act.Stays
      (if key.isEmpty then Act.fail .emptyKey else pure key : Act ConvertError String) := by
    split
    · exact .fail
    · exact .pure
  refine .bind (.mapError (Bridge.stays_inspect r)) fun shape => ?_
  split
  iterate 5 exact hkey _
  · exact .bind (Bridge.stays_typeName r) fun _ => .fail_bind

theorem stays_stringOf (r : ObjRef) : (stringOf r).Stays := by
  refine .bind (.mapError (Bridge.stays_inspect r)) fun shape => ?_
  split
  iterate 2 exact .pure
  · exact stays_unsupported r

theorem stays_lineToForeign (line : String) : (lineToForeign line).Stays := .alloc trivial

theorem stays_lineFromForeign (r : ObjRef) : (lineFromForeign r).Stays := by
  refine .bind (stays_stringOf r) fun text => ?_
  split
  · exact .fail
  · exact .pure

theorem stays_linesFromForeign (r : ObjRef) : (linesFromForeign r).Stays := by
  refine .bind (.mapError (Bridge.stays_inspect r)) fun shape => ?_
  have hitems : Act.Stays (do
      let items ← Bridge.itemsOf r
      items.mapM lineFromForeign : Act ConvertError (List String)) :=
    .bind (.mapError (Bridge.stays_itemsOf r)) fun items => .mapM stays_lineFromForeign items
  split
  iterate 2 exact .bind (stays_lineFromForeign r) fun _ => .pure
  iterate 3 exact hitems
  · exact stays_unsupported r

theorem stays_linesToForeign (lines : List String) : (linesToForeign lines).Stays :=
  .bind (.mapM stays_lineToForeign lines) fun _ => .alloc trivial

/-! ### From the editor to the interpreter -/

theorem stays_newEntry (kind : Foreign.InterpreterKind) (key : String) (value : ObjRef) :
    (newEntry kind key value).Stays := by
  unfold newEntry
  exact .guard (.bind (.alloc trivial) fun _ => .pure)

theorem stays_copyWithin (depth : Nat) (path : List Container) (v : Value) :
    (copyWithin depth path v).Stays := by
  induction depth generalizing path v with
  | zero =>
    cases v with
    | null | number n | float x | str s | func name bound =>
      rw [copyWithin]
      exact .alloc trivial
    | list l | dict d =>
      rw [copyWithin]
      · exact .fail
      all_goals nofun
  | succ depth ih =>
    cases v with
    | null | number n | float x | str s | func name bound =>
      rw [copyWithin]
      exact .alloc trivial
    | list l =>
      rw [copyWithin]
      exact .guard (.bind .get fun _ => .bind (.mapM (ih _) _) fun _ => .alloc trivial)
    | dict d =>
      rw [copyWithin]
      refine .guard (.bind .get fun _ => .bind (.mapM (fun e => ?_) _) fun copies =>
        .bind .get fun _ => ?_)
      · exact .bind (ih _ e.2) fun _ => .pure
      · exact .bind (.mapM (fun e => .mapError (stays_newEntry _ e.1 e.2)) copies) fun _ =>
          .alloc trivial

theorem stays_toForeign (v : Value) : (toForeign v).Stays :=
  .bind .get fun _ => stays_copyWithin _ _ v

theorem stays_toForeignBound (v : Value) : (toForeignBound v).Stays := by
  cases v with
  | list l | dict d => exact .wrap
  | null | number n | float x | str s | func name bound => exact stays_toForeign _

/-! ### From the interpreter to the editor -/

/-- A conversion changes nothing but the containers of the editor. -/
theorem stays_toHostWith (skip : Bool) (r : ObjRef) : (toHostWith skip r).Stays := by
  intro b hb
  have hends := (Converting.tame_convertWithin (b.objects.cells.size + 1) r).ends { skip } b
    hb.scripted
  unfold Act.StaysFrom toHostWith
  generalize Converting.convertWithin (b.objects.cells.size + 1) r ({ skip }, b) = outcome at hends ⊢
  cases hends with
  | ok h | error h =>
    obtain ⟨s, rfl⟩ := h.store
    exact .of_objects hb rfl rfl

theorem stays_toHost (r : ObjRef) : (toHost r).Stays :=
  .bind (stays_toHostWith false r) fun _ => .pure

end Convert

end ScriptBridge
