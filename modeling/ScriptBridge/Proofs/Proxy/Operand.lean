import ScriptBridge.Proofs.Proxy.LineList
import ScriptBridge.Proofs.Proxy.Span

/-!
# Operands

What objects mean as lines, as numbers and as keys, and that proxies take them so. A computation
obeys when it comes to what is expected, an exception included; one that raises an exception leaves
the bridge as it was.
-/

namespace ScriptBridge

open Foreign (ObjRef Object Objects Shape)
open ScriptBridge.Computation

section Obedience

variable {ε δ α β γ : Type} {kindOf : ε → ExceptionKind} {b : Bridge}
  {post : β → α → Bridge → Prop}

/-- How a computation ends of which something is expected: with a value as it should be, or with an
exception of the right class and without any change. -/
inductive Obeys (kindOf : ε → ExceptionKind) (b : Bridge) (post : β → α → Bridge → Prop) :
    Except ExceptionKind β → EStateM.Result (Stop ε) Bridge α → Prop
  | ok {y : β} {x : α} {b' : Bridge} (hpost : post y x b') : Obeys kindOf b post (.ok y) (.ok x b')
  | error (e : ε) : Obeys kindOf b post (.error (kindOf e)) (.error (.error e) b)

/-- The expected value is given, and nothing changes. -/
def Gives (b : Bridge) (y x : α) (b' : Bridge) : Prop := x = y ∧ b' = b

namespace Obeys

theorem pure (x : α) : Obeys kindOf b (Gives b) (.ok x) ((Pure.pure x : Act ε α) b) :=
  .ok ⟨rfl, rfl⟩

theorem bind {a : Act ε γ} {x : Except ExceptionKind γ} {f : γ → Act ε α}
    {g : γ → Except ExceptionKind β} (ha : Obeys kindOf b (Gives b) x (a b))
    (hf : ∀ y, x = .ok y → Obeys kindOf b post (g y) (f y b)) :
    Obeys kindOf b post (x >>= g) ((a >>= f) b) := by
  rw [bind_apply]
  generalize a b = outcome at ha
  cases ha with
  | ok hgives =>
    obtain ⟨rfl, rfl⟩ := hgives
    exact hf _ rfl
  | error e => exact .error e

theorem mapError {a : Act ε α} {x : Except ExceptionKind β} {f : ε → δ}
    {kindOf' : δ → ExceptionKind} (ha : Obeys kindOf b post x (a b))
    (hf : ∀ e, kindOf' (f e) = kindOf e) : Obeys kindOf' b post x (a.mapError f b) := by
  unfold Act.mapError
  generalize a b = outcome at ha
  cases ha with
  | ok hpost => exact .ok hpost
  | error e =>
    rw [← hf e]
    exact .error (f e)

theorem map {a : Act ε γ} {x : Except ExceptionKind β} {f : γ → α} {post' : β → γ → Bridge → Prop}
    (ha : Obeys kindOf b post' x (a b)) (hf : ∀ y z b', post' y z b' → post y (f z) b') :
    Obeys kindOf b post x ((f <$> a) b) := by
  rw [map_eq_pure_bind, bind_apply]
  generalize a b = outcome at ha
  cases ha with
  | ok hpost => exact .ok (hf _ _ _ hpost)
  | error e => exact .error e

theorem mapM {f : γ → Act ε α} {g : γ → Except ExceptionKind α}
    (hf : ∀ y, Obeys kindOf b (Gives b) (g y) (f y b)) (ys : List γ) :
    Obeys kindOf b (Gives b) (ys.mapM g) (ys.mapM f b) := by
  induction ys with
  | nil =>
    rw [List.mapM_nil, List.mapM_nil]
    exact .pure []
  | cons y ys ih =>
    rw [List.mapM_cons, List.mapM_cons]
    exact .bind (hf y) fun _ _ => .bind ih fun _ _ => .pure _

end Obeys

end Obedience

theorem ProxyError.toForeign_exceptionKind (e : ProxyError) :
    e.toForeign.exceptionKind = e.exceptionKind := by
  cases e with
  | convert reason => cases reason <;> rfl
  | _ => rfl

namespace LineList

/-! ### What objects mean -/

/-- The shape of an object, or the class of the exception that looking at it raises. -/
def shapeOf (o : Objects) (r : ObjRef) : Except ExceptionKind Shape :=
  (o.get r).shape.mapError ForeignError.exceptionKind

/-- The text that an object is. -/
def textOf (o : Objects) (r : ObjRef) : Except ExceptionKind String := do
  match ← shapeOf o r with
  | .str s => .ok s
  | .bytes bs => .ok (Text.decode bs)
  | _ => .error .type

/-- The line that a text gives. It has no line feed, and a null character in it becomes one. -/
def lineOf (o : Objects) (r : ObjRef) : Except ExceptionKind String := do
  let s ← textOf o r
  if s.contains '\n' then .error .bridge else .ok (Convert.storedLine s)

/-- The items of an object. -/
def itemsOf (o : Objects) (r : ObjRef) : Except ExceptionKind (List ObjRef) :=
  match (o.get r).elements? with
  | some rs => .ok rs
  | none => .error .type

/-- The lines that an object gives: one if it is a text, and one for each item if it has items. -/
def linesOf (o : Objects) (r : ObjRef) : Except ExceptionKind (List String) := do
  match ← shapeOf o r with
  | .str _ | .bytes _ => return [← lineOf o r]
  | .list | .tuple | .other _ true => (← itemsOf o r).mapM (lineOf o)
  | _ => .error .type

/-- The number that an object is. -/
def numberOf (o : Objects) (r : ObjRef) : Except ExceptionKind Int := do
  match ← shapeOf o r with
  | .int n => .ok n.toInt
  | .bool x => .ok (if x then 1 else 0)
  | _ => .error .type

/-- The key that an integer is, or a slice with step one. -/
def keyOf? : Object → Option Key
  | .int n => some (.at n)
  | .slice start stop none => some (.between start stop)
  | .slice start stop (some step) => if step = 1 then some (.between start stop) else none
  | _ => none

variable {b : Bridge} {r : ObjRef}

section

variable {o : Objects} {s : String} (hr : o.get r = .str s) (hs : '\n' ∉ s.toList)

include hr hs

/-- A text without line feeds is a line. -/
theorem lineOf_str : lineOf o r = .ok (Convert.storedLine s) := by
  have htext : textOf o r = .ok s := by
    unfold textOf shapeOf
    rw [hr]
    rfl
  unfold lineOf
  rw [htext]
  change (if s.contains '\n' then _ else _) = _
  rw [if_neg (by simpa using hs)]

/-- A text without line feeds gives one line. -/
theorem linesOf_str : linesOf o r = .ok [Convert.storedLine s] := by
  have hshape : shapeOf o r = .ok (.str s) := by
    rw [shapeOf, hr]
    rfl
  unfold linesOf
  rw [hshape]
  change (do return [← lineOf o r]) = _
  rw [lineOf_str hr hs]
  rfl

end

/-! ### How proxies take them -/

theorem inspect_obeys (r : ObjRef) :
    Obeys ForeignError.exceptionKind b (Gives b) (shapeOf b.objects r) (Bridge.inspect r b) := by
  unfold Bridge.inspect shapeOf
  rw [bind_apply, get_apply]
  dsimp only
  cases (b.objects.get r).shape with
  | ok x => exact .pure x
  | error e => exact .error e

theorem inspect_obeys_convert (r : ObjRef) :
    Obeys ConvertError.exceptionKind b (Gives b) (shapeOf b.objects r)
      ((liftM (Bridge.inspect r) : Act ConvertError Shape) b) :=
  (inspect_obeys r).mapError fun _ => rfl

theorem inspect_obeys_proxy (r : ObjRef) :
    Obeys ProxyError.exceptionKind b (Gives b) (shapeOf b.objects r)
      ((liftM (Bridge.inspect r) : Act ProxyError Shape) b) :=
  (inspect_obeys r).mapError fun _ => rfl

theorem unsupported_obeys {α β : Type} {post : β → α → Bridge → Prop} (r : ObjRef) :
    Obeys ConvertError.exceptionKind b post (.error .type)
      ((Convert.unsupported r : Act ConvertError α) b) :=
  .error (ConvertError.unsupported _)

theorem stringOf_obeys (r : ObjRef) :
    Obeys ConvertError.exceptionKind b (Gives b) (textOf b.objects r) (Convert.stringOf r b) := by
  refine .bind (inspect_obeys_convert r) fun x _ => ?_
  cases x with
  | str s => exact .pure s
  | bytes bs => exact .pure _
  | _ => exact unsupported_obeys r

theorem lineFromForeign_obeys (r : ObjRef) : Obeys ConvertError.exceptionKind b (Gives b)
    (lineOf b.objects r) (Convert.lineFromForeign r b) := by
  refine .bind (stringOf_obeys r) fun s _ => ?_
  by_cases hfeed : s.contains '\n' = true
  · rw [if_pos hfeed, if_pos hfeed]
    exact .error ConvertError.newline
  · rw [if_neg hfeed, if_neg hfeed]
    exact .pure _

theorem itemsOf_obeys (hkind : b.interpreter.kind = .scripted) (r : ObjRef) :
    Obeys ForeignError.exceptionKind b (Gives b) (itemsOf b.objects r) (Bridge.itemsOf r b) := by
  unfold Bridge.itemsOf itemsOf
  rw [bind_apply, get_apply]
  dsimp only
  rw [hkind]
  cases (b.objects.get r).elements? with
  | some rs => exact .pure rs
  | none => exact .error (ForeignError.exception .type _)

theorem linesFromForeign_obeys (hkind : b.interpreter.kind = .scripted) (r : ObjRef) :
    Obeys ConvertError.exceptionKind b (Gives b) (linesOf b.objects r)
      (Convert.linesFromForeign r b) := by
  have hitems : Obeys ConvertError.exceptionKind b (Gives b)
      (do (← itemsOf b.objects r).mapM (lineOf b.objects))
      ((do
        let items ← Bridge.itemsOf r
        items.mapM Convert.lineFromForeign : Act ConvertError (List String)) b) :=
    .bind ((itemsOf_obeys hkind r).mapError fun _ => rfl) fun rs _ =>
      .mapM lineFromForeign_obeys rs
  refine .bind (inspect_obeys_convert r) fun x _ => ?_
  cases x with
  | str s | bytes bs => exact .bind (lineFromForeign_obeys r) fun line _ => .pure [line]
  | list | tuple => exact hitems
  | other mappingLike sequenceLike =>
    cases sequenceLike with
    | true => exact hitems
    | false => exact unsupported_obeys r
  | _ => exact unsupported_obeys r

/-- The number that a 64-bit argument is. -/
theorem intOf_obeys (r : ObjRef) : Obeys ProxyError.exceptionKind b
    (fun n m b' => m.toInt = n ∧ b' = b) (numberOf b.objects r) (Proxy.intOf r b) := by
  refine .bind (inspect_obeys_proxy r) fun x _ => ?_
  cases x with
  | int n => exact .ok ⟨rfl, rfl⟩
  | bool x => exact .ok ⟨by cases x <;> rfl, rfl⟩
  | _ => exact .error (ProxyError.type _)

theorem toInt_intOf_obeys (r : ObjRef) : Obeys ProxyError.exceptionKind b (Gives b)
    (numberOf b.objects r) ((Int64.toInt <$> Proxy.intOf r) b) :=
  .map (intOf_obeys r) fun _ _ _ hpost => hpost

theorem intOf_of_numberOf {n : Int} (h : numberOf b.objects r = .ok n) :
    ∃ m, Proxy.intOf r b = .ok m b ∧ m.toInt = n := by
  have hobeys := intOf_obeys (b := b) r
  rw [h] at hobeys
  generalize Proxy.intOf r b = outcome at hobeys
  cases hobeys with
  | @ok _ m _ hpost => exact ⟨m, by rw [hpost.2], hpost.1⟩

end LineList

end ScriptBridge
