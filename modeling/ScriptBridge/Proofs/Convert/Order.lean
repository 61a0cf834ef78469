import ScriptBridge.Proofs.Convert.Skipping
import ScriptBridge.Proofs.Host.Entries

/-!
# The order of converted entries

A dictionary that an object is converted to has its entries in order: it was there before, or it is
made of entries that were inserted one after another.
-/

namespace ScriptBridge

open Foreign (ObjRef ProxyClass Target)
open Host (Value)
open ScriptBridge.Computation

namespace Convert

variable {α : Type} {b b' : Bridge} {c : Conversion} {t t' : Conversion × Bridge} {r : ObjRef}

/-- A value that is a dictionary has its entries in order. -/
def Tidy (b : Bridge) (v : Value) : Prop :=
  ∀ s, v = .dict s → Host.Entries.Ordered (b.editor.store.dict s).entries

namespace Converting

variable {convert : ObjRef → Converting Value}

theorem entriesOnto_ordered {es es' : List (String × Value)} (hes : Host.Entries.Ordered es)
    {ps : List (ObjRef × ObjRef)} (h : entriesOnto convert es ps t = .ok es' t') :
    Host.Entries.Ordered es' := by
  induction ps generalizing es t with
  | nil =>
    cases h
    exact hes
  | cons p rest ih =>
    obtain ⟨e?, t₁, -, hrest⟩ := bind_ok h
    cases e? with
    | some e => exact ih (hes.insert e.1 e.2) hrest
    | none => exact ih hes hrest

theorem mapping_tidy {v : Value} (h : mapping convert r t = .ok v t') : Tidy t'.2 v := by
  obtain ⟨ps, t₁, -, h⟩ := bind_ok h
  obtain ⟨es, t₂, hentries, h⟩ := bind_ok h
  obtain ⟨c, b⟩ := t₂
  cases h
  rintro s ⟨⟩
  have hnil : Host.Entries.Ordered ([] : List (String × Value)) := .nil
  have hordered := entriesOnto_ordered hnil hentries
  simpa [Host.Store.dict] using hordered

theorem sequence_tidy {v : Value} (h : sequence convert r t = .ok v t') : Tidy t'.2 v := by
  obtain ⟨rs, t₁, -, h⟩ := bind_ok h
  obtain ⟨vs, t₂, -, h⟩ := bind_ok h
  cases h
  rintro _ ⟨⟩

/-- Nothing has been converted before the container. -/
theorem container_tidy {body : ObjRef → Converting Value} {v : Value} (hdone : c.done = [])
    (hbody : ∀ t v t', body r t = .ok v t' → Tidy t'.2 v)
    (h : container body r (c, b) = .ok v t') : Tidy t'.2 v := by
  unfold container at h
  rw [bind_apply, get_apply] at h
  dsimp only at h
  rw [hdone] at h
  by_cases hactive : r ∈ c.active
  · rw [List.find?_nil, if_pos hactive] at h
    cases h
  · rw [List.find?_nil, if_neg hactive] at h
    obtain ⟨_, t₁, -, h⟩ := bind_ok h
    obtain ⟨result, t₂, hresult, h⟩ := bind_ok h
    obtain ⟨_, t₃, hnote, h⟩ := bind_ok h
    cases hnote
    cases result with
    | error e => cases h
    | ok w =>
      cases h
      unfold Act.attempt at hresult
      cases hrun : body r t₁ with
      | ok w' t' =>
        rw [hrun] at hresult
        cases hresult
        have htidy : Tidy t₂.2 v := hbody t₁ v t₂ hrun
        exact htidy
      | error stop t' =>
        rw [hrun] at hresult
        cases stop <;> cases hresult

theorem textOr_tidy {typeName : String} {v : Value} (h : textOr typeName r (c, b) = .ok v t') :
    Tidy t'.2 v := by
  unfold textOr at h
  rw [bind_apply, get_apply] at h
  dsimp only at h
  cases htext : b.text r with
  | ok text =>
    rw [htext] at h
    cases h
    rintro _ ⟨⟩
  | error e =>
    rw [htext] at h
    cases h

theorem proxy_tidy {cls : ProxyClass} {target : Target} {v : Value}
    (hordered : b.editor.store.Ordered) (h : proxy r cls target (c, b) = .ok v t') :
    Tidy t'.2 v := by
  cases target with
  | dict d =>
    cases h
    exact fun s _ => hordered s
  | list | function | buffer | window | tabPage =>
    cases h
    rintro _ ⟨⟩
  | invalid => cases h
  | _ => exact textOr_tidy h

theorem convertWithin_tidy {depth : Nat} {v : Value} (hordered : b.editor.store.Ordered)
    (hdone : c.done = []) (h : convertWithin depth r (c, b) = .ok v t') : Tidy t'.2 v := by
  cases depth with
  | zero => cases h
  | succ depth =>
    rw [convertWithin, bind_apply, inspect_apply] at h
    cases hshape : (b.objects.get r).shape with
    | error e =>
      rw [hshape] at h
      cases h
    | ok x =>
      rw [hshape] at h
      cases x with
      | proxy cls target => exact proxy_tidy hordered h
      | null | bool x | int n | float x | bytes bs | str s =>
        cases h
        rintro _ ⟨⟩
      | dict => exact container_tidy hdone (fun _ _ _ => mapping_tidy) h
      | list | tuple => exact container_tidy hdone (fun _ _ _ => sequence_tidy) h
      | slice bounds => exact textOr_tidy h
      | other isMapping isSequence =>
        cases isMapping with
        | true => exact container_tidy hdone (fun _ _ _ => mapping_tidy) h
        | false =>
          cases isSequence with
          | true => exact container_tidy hdone (fun _ _ _ => sequence_tidy) h
          | false => exact textOr_tidy h

end Converting

theorem toHostWith_tidy {skip : Bool} {v : Value} {skipped : List (String × ConvertError)}
    (hordered : b.editor.store.Ordered) (h : toHostWith skip r b = .ok (v, skipped) b') :
    Tidy b' v := by
  rw [toHostWith_apply] at h
  cases hrun : Converting.convertWithin (b.objects.cells.size + 1) r ({ skip }, b) with
  | ok w t' =>
    rw [hrun] at h
    cases h
    exact Converting.convertWithin_tidy hordered rfl hrun
  | error e t' =>
    rw [hrun] at h
    cases h

end Convert

end ScriptBridge
