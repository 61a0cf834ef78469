import ScriptBridge.Bridge.Text
import ScriptBridge.Proofs.Host.Evaluation

/-!
# Mild computations

A computation is mild if it only reads the bridge, and makes objects and containers. It does not
ask which side owns execution. What holds of each mild step and of their sequences holds of all
that is built up from them, and is proved of all that once.
-/

namespace ScriptBridge

open Foreign (ObjRef Object)
open Host (Value Store LockError)

/-- The bridge with another handoff. -/
def Bridge.handing (b : Bridge) (h : Handoff) : Bridge := { b with handoff := h }

/-! ### Texts -/

namespace Bridge

theorem literalWithin_handing (b : Bridge) (h : Handoff) (depth : Nat) :
    (b.handing h).literalWithin depth = b.literalWithin depth := by
  induction depth with
  | zero => rfl
  | succ depth ih =>
    have hobjects : (b.handing h).objects = b.objects := rfl
    funext path r
    unfold literalWithin
    simp only [ih, hobjects]
    rfl

theorem literal_handing (b : Bridge) (h : Handoff) : (b.handing h).literal = b.literal := by
  have hobjects : (b.handing h).objects = b.objects := rfl
  funext r
  rw [literal, literal, hobjects, literalWithin_handing]

theorem libraryText_handing (b : Bridge) (h : Handoff) (depth : Nat) (r : ObjRef) :
    (b.handing h).libraryText depth r = b.libraryText depth r := by
  have hobjects : (b.handing h).objects = b.objects := rfl
  induction depth generalizing r with
  | zero => rw [libraryText, libraryText, literal_handing]
  | succ depth ih =>
    unfold libraryText
    simp only [ih, hobjects, literal_handing]

/-- The text of an object is the same with any handoff. -/
theorem text_handing (b : Bridge) (h : Handoff) (r : ObjRef) :
    (b.handing h).text r = b.text r := by
  have hread : (b.handing h).interpreter.kind = b.interpreter.kind ∧
      (b.handing h).objects = b.objects := ⟨rfl, rfl⟩
  have hscripted : (b.handing h).scriptedText r = b.scriptedText r := rfl
  rw [text, text, hread.1, hread.2, hscripted, libraryText_handing]

end Bridge

/-- What holds of each step of a mild computation, and of a sequence if it holds of its parts. -/
class Act.Mild (P : {ε α : Type} → Act ε α → Prop) : Prop where
  pure {ε α : Type} {x : α} : P (Pure.pure x : Act ε α)
  fail {ε α : Type} {e : ε} : P (Act.fail e : Act ε α)
  bind {ε α β : Type} {a : Act ε α} {f : α → Act ε β} (ha : P a) (hf : ∀ x, P (f x)) : P (a >>= f)
  /-- What is read of the bridge is the same with any handoff. -/
  read {ε α : Type} {f : Bridge → Act ε α} (hf : ∀ b, P (f b))
    (hsame : ∀ h b, f (b.handing h) = f b) : P (MonadState.get >>= f : Act ε α)
  mapError {ε δ α : Type} {a : Act ε α} {f : ε → δ} (ha : P a) : P (a.mapError f)
  attempt {ε δ α : Type} {a : Act ε α} (ha : P a) : P (Act.attempt a : Act δ (Except ε α))
  alloc {ε : Type} {x : Object} : P (Bridge.alloc x : Act ε ObjRef)
  hold {ε : Type} {r : ObjRef} : P (Bridge.hold r : Act ε Unit)
  newList {ε : Type} {items : List Value} : P (Bridge.newList items : Act ε Host.ListRef)
  newDict {ε : Type} {entries : List (String × Value)} :
    P (Bridge.newDict entries : Act ε Host.DictRef)

/-- What holds of mild computations, and of ones that write containers and show messages too. -/
class Act.Storing (P : {ε α : Type} → Act ε α → Prop) : Prop extends Act.Mild P where
  store {f : Store → Except LockError Store} (hf : ∀ s s', f s = .ok s' → s.Write s') :
    P (Bridge.store f)
  say {ε : Type} {m : Host.Message} : P (Bridge.say m : Act ε Unit)

namespace Act.Mild

variable {P : {ε α : Type} → Act ε α → Prop} [Act.Mild P] {ε α γ : Type}

/-! ### Sequences -/

/-- A check in front of a computation. -/
theorem guard {c : Prop} [Decidable c] {e : ε} {f : Unit → Act ε α} (hf : P (f ())) :
    P (if c then Act.fail e >>= f else f ()) := by
  split
  · exact bind fail fun _ => hf
  · exact hf

theorem ofExcept {x : Except ε α} : P (Act.ofExcept x) := by
  cases x with
  | ok y => exact pure
  | error e => exact fail

theorem mapM {f : γ → Act ε α} (hf : ∀ x, P (f x)) (xs : List γ) : P (xs.mapM f) :=
  Computation.of_mapM (fun _ => pure) bind hf xs

/-- A loop without results. -/
theorem forIn {xs : List γ} {f : γ → PUnit → Act ε (ForInStep PUnit)}
    (hf : ∀ x, P (f x ⟨⟩)) : P (ForIn.forIn xs PUnit.unit f) := by
  induction xs with
  | nil =>
    rw [List.forIn_nil]
    exact pure
  | cons x xs ih =>
    rw [List.forIn_cons]
    refine bind (hf x) fun step => ?_
    cases step with
    | done _ => exact pure
    | yield _ => exact ih

/-! ### Reading -/

theorem readEditor : P Bridge.readEditor := by
  refine read (fun b => ?_) fun _ _ => rfl
  split
  · exact fail
  · exact pure

theorem demandEditor : P Bridge.demandEditor := by
  refine read (fun b => ?_) fun _ _ => rfl
  split
  · exact fail
  · exact pure

theorem inspect (r : ObjRef) : P (Bridge.inspect r) := read (fun _ => ofExcept) fun _ _ => rfl

theorem typeName (r : ObjRef) : P (Bridge.typeName r : Act ε String) :=
  read (fun _ => pure) fun _ _ => rfl

/-- The items of a text, of bytes and of a range of numbers are new objects. -/
theorem itemsOf (r : ObjRef) : P (Bridge.itemsOf r) := by
  have hnew (xs : List Object) : P (Bridge.allocAll xs : Act ForeignError (List ObjRef)) :=
    mapM (fun _ => alloc) xs
  refine read (fun b => ?_) fun _ _ => rfl
  dsimp only
  split
  · exact pure
  · exact fail
  · split
    iterate 3 exact hnew _
    · split
      · exact hnew _
      · exact fail
    iterate 2 exact fail
    · split
      · exact pure
      · exact fail
    iterate 2 exact fail

theorem pairsOf (r : ObjRef) : P (Bridge.pairsOf r) := by
  refine read (fun b => ?_) fun _ _ => rfl
  dsimp only
  split
  iterate 2 exact pure
  iterate 3 exact fail

end Act.Mild

end ScriptBridge
