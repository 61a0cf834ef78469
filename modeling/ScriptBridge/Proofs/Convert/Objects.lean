import Mathlib.Data.List.Perm.Subperm
import ScriptBridge.Convert.ToHost
import ScriptBridge.Proofs.Computation
import ScriptBridge.Proofs.Convert.Graph

/-!
# What conversions read of objects

Lists, tuples, dictionaries, mappings and sequences hold other objects. Any other object is a leaf,
which has a value or cannot be converted; the text of a key is that of a string or of a number.
-/

namespace ScriptBridge

open Foreign (ObjRef Object Objects Slice)
open Host (Value Store)
open ScriptBridge.Computation
open Relation (ReflTransGen TransGen)

namespace Foreign

/-- What a container of the interpreter holds. -/
inductive Contents where
  | items (rs : List ObjRef)
  | entries (ps : List (ObjRef × ObjRef))

/-- The objects that become parts of the converted container. Keys become texts. -/
def Contents.values : Contents → List ObjRef
  | items rs => rs
  | entries ps => ps.map (·.2)

/-- What an object holds that becomes a container. -/
def Object.contents? : Object → Option Contents
  | .list rs | .tuple rs | .sequence rs => some (.items rs)
  | .dict ps | .mapping ps => some (.entries ps)
  | _ => none

/-- The container of the editor that a proxy stands for. -/
def Object.shared? : Object → Option Value
  | .proxy _ (.list l) => some (.list l)
  | .proxy _ (.dict d) => some (.dict d)
  | _ => none

/-- The text of an object as a key. -/
def Object.keyText? : Object → Option String
  | .str s => some s
  | .halved places => some (mended places)
  | .bytes bs => some (Text.decode bs)
  | .int n => if Text.fitsInt64 n then some (toString n) else none
  | .bool x => some (if x then "1" else "0")
  | .float x => some (Decimal.Layout.shown.text x)
  | _ => none

/-- A container holds an object. -/
def Objects.Holds (o : Objects) (r s : ObjRef) : Prop :=
  ∃ c, (o.get r).contents? = some c ∧ s ∈ c.values

theorem Objects.lt_size_of_contents {o : Objects} {r : ObjRef} {c : Contents}
    (h : (o.get r).contents? = some c) : r.id < o.cells.size := by
  by_contra hnot
  rw [Objects.get, Array.getD_eq_getD_getElem?, Array.getElem?_eq_none (Nat.le_of_not_lt hnot)] at h
  cases h

end Foreign

theorem Text.toInt_ofInt {n : Int} (h : Text.fitsInt64 n = true) : (Int64.ofInt n).toInt = n := by
  rw [Text.fitsInt64, Bool.and_eq_true, decide_eq_true_iff, decide_eq_true_iff] at h
  unfold Text.minInt64 Text.maxInt64 at h
  exact Int64.toInt_ofInt_of_le (by omega) (by omega)

theorem Text.fitsInt64_toInt (n : Int64) : Text.fitsInt64 n.toInt = true := by
  rw [Text.fitsInt64, Bool.and_eq_true, decide_eq_true_iff, decide_eq_true_iff]
  exact ⟨n.le_toInt, n.toInt_le⟩

namespace Bridge

/-- The bridge with other containers in the editor. -/
def withStore (b : Bridge) (s : Store) : Bridge := { b with editor := { b.editor with store := s } }

/-- The value of an object that is no container. A proxy gives what it stands for, and an object
without a counterpart its text. -/
def leafValue? (b : Bridge) (r : ObjRef) : Option Value :=
  match b.objects.get r with
  | .null => some .null
  | .bool x => some (.number (if x then 1 else 0))
  | .int n => if Text.fitsInt64 n then some (.number (Int64.ofInt n)) else none
  | .float x => some (.float x)
  | .bytes bs => some (.str (Text.decode bs))
  | .str s => some (.str s)
  | .halved places => some (.str (Foreign.mended places))
  | .proxy _ (.dict d) => some (.dict d)
  | .proxy _ (.list l) => some (.list l)
  | .proxy _ (.function name bound) => some (.func name bound)
  | .proxy _ (.buffer id) | .proxy _ (.window id) | .proxy _ (.tabPage id) =>
    some (.number (Int64.ofNat id))
  | .proxy _ .invalid => none
  | .slice _ _ step => if step = some 0 then none else (b.scriptedText r).toOption.map .str
  -- these claim to have items or keys, and the scripted interpreter has none of them
  | .counting _ | .unsized | .triples _ | .mirror _ => none
  | _ => (b.scriptedText r).toOption.map .str

variable {b : Bridge} {s : Store} {r : ObjRef}

theorem proxyText_withStore (cls : Foreign.ProxyClass) (t : Foreign.Target) :
    (b.withStore s).proxyText cls t = b.proxyText cls t := by
  have hloan : (b.withStore s).loan = b.loan := rfl
  unfold proxyText
  rw [hloan]
  by_cases h : b.loan = .exclusive
  · rw [if_pos h, if_pos h]
    cases t <;> rfl
  · rw [if_neg h, if_neg h]
    cases t <;> rfl

/-- No text shows what is in the containers of the editor. -/
theorem scriptedText_withStore : (b.withStore s).scriptedText r = b.scriptedText r := by
  unfold scriptedText
  simp only [proxyText_withStore]
  rfl

theorem leafValue?_withStore : (b.withStore s).leafValue? r = b.leafValue? r := by
  unfold leafValue?
  simp only [scriptedText_withStore]
  rfl

end Bridge

end ScriptBridge
