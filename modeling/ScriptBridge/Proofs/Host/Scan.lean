import ScriptBridge.Host.Expr.Eval

/-!
# Evaluating a text in one pass

A cursor moves through the text of an expression, and each part is evaluated as soon as it is read,
so that nothing is left of it but its value. The cursor stands at a position that is counted in
bytes; it is moved by whole characters in some places and by a number of bytes in others.

The recursion and the loops take a bound on the depth of their calls and turns. Where it is reached,
the whole scan is cut off and has no outcome. A scan that is not cut off does the same at every
greater depth.
-/

namespace ScriptBridge.Host

open Text (dropBlanks)

/-! ### Positions -/

/-- How many bytes a text takes. -/
def bytes (s : List Char) : Nat := (String.ofList s).utf8ByteSize

/-- The text from a position on, unless the position is within a character or past the end. -/
def textFrom? : List Char → Nat → Option (List Char)
  | s, 0 => some s
  | [], _ + 1 => none
  | c :: s, n + 1 => if n + 1 < c.utf8Size then none else textFrom? s (n + 1 - c.utf8Size)

/-- Where a scan is: its position in the text, the editor, and the number of steps so far. -/
structure Cursor where
  pos : Nat
  editor : Editor
  steps : Nat

/-- The position is the first byte of a character or the end of the text. -/
def Cursor.OnBoundary (c : Cursor) (src : String) : Prop := (⟨c.pos⟩ : String.Pos.Raw).IsValid src

/-- A computation that moves a cursor. Without an outcome it has been cut off. -/
abbrev Scan := ExceptT (Stop HostError) (StateT Cursor Option)

/-- The outcome of a scan, without the position and the number of steps. -/
def Cursor.outcome {α : Type} (c : Cursor) :
    Except (Stop HostError) α → EStateM.Result (Stop HostError) Editor α
  | .ok v => .ok v c.editor
  | .error err => .error err c.editor

namespace Scan

/-! ### Moves -/

/-- Counts a step: each call and each turn of a loop is one. -/
def step : Scan Unit := modify fun c => { c with steps := c.steps + 1 }

/-- Moves on by a number of bytes, whatever stands there. -/
def forward (n : Nat) : Scan Unit := modify fun c => { c with pos := c.pos + n }

/-- The bound on the recursion is reached. -/
def cut {α : Type} : Scan α := fun _ => none

/-- Fails. -/
def fail {α : Type} (e : HostError) : Scan α := throw (.error e)

/-- A computation of the interpreter, with the cursor where it is. -/
def perform {α : Type} (a : Eval α) : Scan α := fun c =>
  match a c.editor with
  | .ok v e => some (.ok v, { c with editor := e })
  | .error err e => some (.error err, { c with editor := e })

section Text

variable (src : String)

/-- The text from the cursor on. There is none within a character, which is a crash. -/
def rest : Scan (List Char) := do
  match textFrom? src.toList (← get).pos with
  | some s => return s
  | none => throw .crash

/-- Moves on to what follows the blanks. -/
def skipBlanks : Scan Unit := do
  let s ← rest src
  modify fun c => { c with pos := src.utf8ByteSize - bytes (dropBlanks s) }

/-- Whether nothing but blanks follows. -/
def atEnd : Scan Bool := do
  skipBlanks src
  return src.utf8ByteSize ≤ (← get).pos

/-- The first character after the blanks. -/
def peek : Scan (Option Char) := do
  skipBlanks src
  return (← rest src).head?

/-- Passes over a character if it is the first one after the blanks. -/
def eat (x : Char) : Scan Bool := do
  if (← peek src) = some x then
    forward x.utf8Size
    return true
  else return false

/-- Passes over a character that must come next. -/
def expect (x : Char) : Scan Unit := do
  if ← eat src x then return else fail (.invalidExpression src)

/-! ### Parts without nesting -/

/-- A number. -/
def number : Scan Value := do
  let text := numberText (← rest src)
  forward (bytes text)
  let value :=
    if text.contains '.' then (Decimal.readFloat? text).map Value.float
    else (Text.readInt64? text).map Value.number
  match value with
  | some v => return v
  | none => fail (.invalidExpression (String.ofList text))

/-- Passes over the second of two points. -/
def secondPoint : Scan Unit := do
  if (← rest src).head? = some '.' then forward 1 else return

/-- The rest of a single-quoted string, behind the characters `out`. -/
def singleQuoted : Nat → List Char → Scan Value
  | 0, _ => cut
  | depth + 1, out => do
    step
    match (← rest src).head? with
    | none => fail (.missingSingleQuote src)
    | some c => do
      forward c.utf8Size
      if c = '\'' then
        if (← rest src).head? = some '\'' then
          forward 1
          singleQuoted depth (out ++ ['\''])
        else return .str (String.ofList out)
      else singleQuoted depth (out ++ [c])

/-- The rest of a double-quoted string, behind the characters `out`. -/
def doubleQuoted : Nat → List Char → Scan Value
  | 0, _ => cut
  | depth + 1, out => do
    step
    match (← rest src).head? with
    | none => fail (.missingDoubleQuote src)
    | some c => do
      forward c.utf8Size
      if c = '"' then return .str (String.ofList out)
      else if c = '\\' then
        match (← rest src).head? with
        | none => doubleQuoted depth out
        | some e => do
          forward e.utf8Size
          doubleQuoted depth (out ++ [unescape e])
      else doubleQuoted depth (out ++ [c])

end Text

/-! ### Expressions -/

section Expressions

variable (functions : UserFunctions) (src : String)

/-- A variable, or the call of a function; `args` goes through the arguments. -/
def name (args : Scan (List Value)) : Scan Value := do
  let text := (← rest src).takeWhile isNameChar
  forward (bytes text)
  if ← eat src '(' then
    let vs ← args
    perform (callFunction functions (String.ofList text) vs)
  else perform (readVariable (String.ofList text))

mutual

/-- A sum. -/
def sum : Nat → Scan Value
  | 0 => cut
  | depth + 1 => do
    step
    sumTail depth (← product depth)

/-- The further terms of a sum, whose value so far is `left`. -/
def sumTail : Nat → Value → Scan Value
  | 0, _ => cut
  | depth + 1, left => do
    step
    match ← peek src with
    | some '+' => do
      forward 1
      let right ← product depth
      sumTail depth (← perform (arith .add left right))
    | some '-' => do
      forward 1
      let right ← product depth
      sumTail depth (← perform (arith .subtract left right))
    | some '.' => do
      forward 1
      secondPoint src
      let right ← product depth
      sumTail depth (← perform (arith .concat left right))
    | _ => return left

/-- A product. -/
def product : Nat → Scan Value
  | 0 => cut
  | depth + 1 => do
    step
    productTail depth (← factor depth)

/-- The further factors of a product, whose value so far is `left`. -/
def productTail : Nat → Value → Scan Value
  | 0, _ => cut
  | depth + 1, left => do
    step
    match ← peek src with
    | some '*' => do
      forward 1
      let right ← factor depth
      productTail depth (← perform (arith .multiply left right))
    | some '/' => do
      forward 1
      let right ← factor depth
      productTail depth (← perform (arith .divide left right))
    | some '%' => do
      forward 1
      let right ← factor depth
      productTail depth (← perform (arith .remainder left right))
    | _ => return left

/-- A factor. -/
def factor : Nat → Scan Value
  | 0 => cut
  | depth + 1 => do
    step
    match ← peek src with
    | none => fail (.invalidExpression "")
    | some '-' => do
      forward 1
      let v ← factor depth
      perform (arith .subtract (.number 0) v)
    | some '(' => do
      forward 1
      let v ← sum depth
      expect src ')'
      return v
    | some '\'' => do
      forward 1
      singleQuoted src depth []
    | some '"' => do
      forward 1
      doubleQuoted src depth []
    | some '[' => do
      forward 1
      let vs ← items depth ']' []
      perform (Eval.newList vs)
    | some '\x7b' => do
      forward 1
      let es ← entries depth []
      perform (Eval.newDict es)
    | some c =>
      if c.isDigit then number src
      else if c.isAlpha || c = '_' then name functions src (items depth ')' [])
      else fail (.invalidExpression src)

/-- Expressions between commas up to a closing bracket, behind those with the values `done`. -/
def items : Nat → Char → List Value → Scan (List Value)
  | 0, _, _ => cut
  | depth + 1, close, done => do
    step
    if ← eat src close then return done
    else
      let v ← sum depth
      if ← eat src ',' then items depth close (done ++ [v])
      else
        expect src close
        return done ++ [v]

/-- The entries of a dictionary up to its closing brace, added to those of `done`. -/
def entries : Nat → List (String × Value) → Scan (List (String × Value))
  | 0, _ => cut
  | depth + 1, done => do
    step
    if ← eat src '\x7d' then return done
    else
      let k ← sum depth
      let key ← perform do return (← get).store.echo k
      expect src ':'
      let v ← sum depth
      if ← eat src ',' then entries depth (Entries.insert key v done)
      else
        expect src '\x7d'
        return Entries.insert key v done

end

/-- A text that is one expression. -/
def whole (depth : Nat) : Scan Value := do
  let v ← sum functions src depth
  if ← atEnd src then return v
  else fail (.trailingCharacters (String.ofList (← rest src)))

/-- The texts of expressions one after another up to the end, behind the texts `done`. -/
def texts : Nat → List String → Scan (List String)
  | 0, _ => cut
  | depth + 1, done => do
    step
    if ← atEnd src then return done
    else
      let v ← sum functions src depth
      let text ← perform do return (← get).store.echo v
      texts depth (done ++ [text])

end Expressions

end Scan

/-! ### Text at a position -/

theorem bytes_nil : bytes [] = 0 := rfl

theorem bytes_cons (c : Char) (s : List Char) : bytes (c :: s) = c.utf8Size + bytes s := by
  rw [bytes, String.ofList_cons, String.utf8ByteSize_append, String.utf8ByteSize_singleton, bytes]

theorem bytes_append (s t : List Char) : bytes (s ++ t) = bytes s + bytes t := by
  rw [bytes, String.ofList_append, String.utf8ByteSize_append, bytes, bytes]

theorem bytes_toList (src : String) : bytes src.toList = src.utf8ByteSize := by
  rw [bytes, String.ofList_toList]

theorem textFrom?_bytes (t s : List Char) : textFrom? (t ++ s) (bytes t) = some s := by
  induction t with
  | nil => cases s <;> rfl
  | cons c t ih =>
    obtain ⟨n, hn⟩ := Nat.exists_eq_add_of_lt c.utf8Size_pos
    have hbytes : bytes (c :: t) = (n + bytes t) + 1 := by rw [bytes_cons]; omega
    rw [List.cons_append, hbytes, textFrom?, if_neg (by omega)]
    rwa [show n + bytes t + 1 - c.utf8Size = bytes t by omega]

/-- Some text stands at a cursor. -/
def Cursor.At (c : Cursor) (src : String) (s : List Char) : Prop :=
  ∃ t, src.toList = t ++ s ∧ c.pos = bytes t

/-- At a boundary, and only there, some text stands. -/
theorem Cursor.onBoundary_iff {c : Cursor} {src : String} :
    c.OnBoundary src ↔ ∃ s, c.At src s := by
  rw [OnBoundary, String.Pos.Raw.isValid_iff_exists_append]
  constructor
  · rintro ⟨t, s, rfl, hpos⟩
    refine ⟨s.toList, t.toList, String.toList_append, ?_⟩
    rw [bytes_toList]
    exact congrArg String.Pos.Raw.byteIdx hpos
  · rintro ⟨s, t, htext, hpos⟩
    refine ⟨String.ofList t, String.ofList s, ?_, String.Pos.Raw.ext hpos⟩
    rw [← String.ofList_append, ← htext, String.ofList_toList]

namespace Cursor.At

variable {c c' : Cursor} {src : String} {s t : List Char}

/-- What is before the cursor and what is behind it take all bytes of the text. -/
theorem pos_add (h : c.At src s) : c.pos + bytes s = src.utf8ByteSize := by
  obtain ⟨t, htext, hpos⟩ := h
  rw [hpos, ← bytes_append, ← htext, bytes_toList]

theorem of_pos (h : c.At src s) (hc : c'.pos = c.pos) : c'.At src s := by
  obtain ⟨t, htext, hpos⟩ := h
  exact ⟨t, htext, hc.trans hpos⟩

theorem textFrom?_eq (h : c.At src s) : textFrom? src.toList c.pos = some s := by
  obtain ⟨t, htext, hpos⟩ := h
  rw [htext, hpos, textFrom?_bytes]

/-- The cursor moved past some of the text. -/
theorem past (h : c.At src (t ++ s)) (hc : c'.pos = c.pos + bytes t) : c'.At src s := by
  obtain ⟨u, htext, hpos⟩ := h
  refine ⟨u ++ t, by rw [htext, List.append_assoc], ?_⟩
  rw [hc, hpos, bytes_append]

theorem start (src : String) (e : Editor) (n : Nat) : (⟨0, e, n⟩ : Cursor).At src src.toList :=
  ⟨[], rfl, rfl⟩

end Cursor.At

namespace Scan

/-! ### Scans step by step -/

variable {α β : Type}

theorem bind_none {a : Scan α} {c : Cursor} (h : a c = none) (f : α → Scan β) :
    (a >>= f) c = none := by
  change (a c).bind _ = _
  rw [h]
  rfl

theorem bind_ok {a : Scan α} {c c' : Cursor} {v : α} (h : a c = some (.ok v, c'))
    (f : α → Scan β) : (a >>= f) c = f v c' := by
  change (a c).bind _ = _
  rw [h]
  rfl

theorem bind_error {a : Scan α} {c c' : Cursor} {err : Stop HostError}
    (h : a c = some (.error err, c')) (f : α → Scan β) : (a >>= f) c = some (.error err, c') := by
  change (a c).bind _ = _
  rw [h]
  rfl

/-- A scan gives a value, takes `k` steps on the way to a text and leaves the editor alone. -/
structure Reaches (src : String) (a : Scan α) (c : Cursor) (v : α) (s : List Char) (k : Nat)
    (c' : Cursor) : Prop where
  run : a c = some (.ok v, c')
  text : c'.At src s
  steps : c'.steps = c.steps + k
  editor : c'.editor = c.editor

variable {src : String} {c : Cursor} {s r : List Char} {x : Char}

theorem reaches_step (h : c.At src s) : ∃ c', Reaches src step c () s 1 c' :=
  ⟨_, rfl, h.of_pos rfl, rfl, rfl⟩

theorem rest_eq (h : c.At src s) : rest src c = some (.ok s, c) := by
  change (match textFrom? src.toList c.pos with
    | some s => pure s
    | none => throw .crash : Scan (List Char)) c = _
  rw [h.textFrom?_eq]
  rfl

theorem reaches_rest (h : c.At src s) : Reaches src (rest src) c s s 0 c :=
  ⟨rest_eq h, h, rfl, rfl⟩

/-- Moving on by the bytes of a text that stands at the cursor. -/
theorem reaches_forward {t : List Char} {n : Nat} (h : c.At src (t ++ s)) (hn : n = bytes t) :
    ∃ c', Reaches src (forward n) c () s 0 c' :=
  ⟨_, rfl, h.past (by rw [hn]), rfl, rfl⟩

theorem reaches_forward_char {n : Nat} (h : c.At src (x :: s)) (hn : n = x.utf8Size) :
    ∃ c', Reaches src (forward n) c () s 0 c' :=
  reaches_forward (t := [x]) h (by rw [hn, bytes_cons, bytes_nil, Nat.add_zero])

theorem reaches_skipBlanks (h : c.At src s) :
    ∃ c', Reaches src (skipBlanks src) c () (dropBlanks s) 0 c' := by
  have hsplit : s.takeWhile Text.isBlank ++ dropBlanks s = s := List.takeWhile_append_dropWhile
  have hbytes : bytes s = bytes (s.takeWhile Text.isBlank) + bytes (dropBlanks s) := by
    rw [← bytes_append, hsplit]
  have hpos := h.pos_add
  refine ⟨{ c with pos := src.utf8ByteSize - bytes (dropBlanks s) }, ?_, ?_, rfl, rfl⟩
  · rw [skipBlanks, bind_ok (rest_eq h)]
    rfl
  · refine Cursor.At.past (t := s.takeWhile Text.isBlank) (by rwa [hsplit]) ?_
    change src.utf8ByteSize - bytes (dropBlanks s) = _
    omega

theorem reaches_peek (h : c.At src s) :
    ∃ c', Reaches src (peek src) c (dropBlanks s).head? (dropBlanks s) 0 c' := by
  obtain ⟨c', h'⟩ := reaches_skipBlanks h
  refine ⟨c', ?_, h'.text, h'.steps, h'.editor⟩
  rw [peek, bind_ok h'.run, bind_ok (rest_eq h'.text)]
  rfl

theorem reaches_atEnd (h : c.At src s) :
    ∃ c', Reaches src (atEnd src) c (dropBlanks s).isEmpty (dropBlanks s) 0 c' := by
  obtain ⟨c', h'⟩ := reaches_skipBlanks h
  refine ⟨c', ?_, h'.text, h'.steps, h'.editor⟩
  have hpos := h'.text.pos_add
  have hend : decide (src.utf8ByteSize ≤ c'.pos) = (dropBlanks s).isEmpty := by
    cases hs : dropBlanks s with
    | nil =>
      rw [hs, bytes_nil] at hpos
      exact decide_eq_true (by omega)
    | cons x r =>
      rw [hs, bytes_cons] at hpos
      have := x.utf8Size_pos
      exact decide_eq_false (by omega)
  rw [atEnd, bind_ok h'.run, ← hend]
  rfl

theorem reaches_eat_true (h : c.At src s) (hs : dropBlanks s = x :: r) :
    ∃ c', Reaches src (eat src x) c true r 0 c' := by
  obtain ⟨c₁, h₁⟩ := reaches_peek h
  rw [hs] at h₁
  obtain ⟨c₂, h₂⟩ := reaches_forward_char h₁.text rfl
  refine ⟨c₂, ?_, h₂.text, h₂.steps.trans h₁.steps, h₂.editor.trans h₁.editor⟩
  rw [eat, bind_ok h₁.run, List.head?_cons, if_pos rfl, bind_ok h₂.run]
  rfl

theorem reaches_eat_false (h : c.At src s) (hs : (dropBlanks s).head? ≠ some x) :
    ∃ c', Reaches src (eat src x) c false (dropBlanks s) 0 c' := by
  obtain ⟨c', h'⟩ := reaches_peek h
  refine ⟨c', ?_, h'.text, h'.steps, h'.editor⟩
  rw [eat, bind_ok h'.run, if_neg hs]
  rfl

theorem reaches_expect (h : c.At src s) (hs : dropBlanks s = x :: r) :
    ∃ c', Reaches src (expect src x) c () r 0 c' := by
  obtain ⟨c', h'⟩ := reaches_eat_true h hs
  refine ⟨c', ?_, h'.text, h'.steps, h'.editor⟩
  rw [expect, bind_ok h'.run]
  rfl

/-- What does not come next is a failure, in front of what does. -/
theorem expect_eq_error (h : c.At src s) (hs : (dropBlanks s).head? ≠ some x) :
    ∃ c', expect src x c = some (.error (.error (.invalidExpression src)), c') ∧
      c'.At src (dropBlanks s) ∧ c'.steps = c.steps ∧ c'.editor = c.editor := by
  obtain ⟨c', h'⟩ := reaches_eat_false h hs
  refine ⟨c', ?_, h'.text, h'.steps, h'.editor⟩
  rw [expect, bind_ok h'.run]
  rfl

theorem reaches_secondPoint (h : c.At src ('.' :: s)) :
    ∃ c', Reaches src (secondPoint src) c () s 0 c' := by
  obtain ⟨c', h'⟩ := reaches_forward_char h rfl
  refine ⟨c', ?_, h'.text, h'.steps, h'.editor⟩
  rw [secondPoint, bind_ok (rest_eq h)]
  exact h'.run

/-- Where there is no second point, the cursor stays. -/
theorem reaches_secondPoint_none (h : c.At src s) (hs : s.head? ≠ some '.') :
    Reaches src (secondPoint src) c () s 0 c := by
  refine ⟨?_, h, rfl, rfl⟩
  rw [secondPoint, bind_ok (rest_eq h), if_neg hs]
  rfl

theorem reaches_echo (h : c.At src s) (v : Value) :
    Reaches src (perform do return (← get).store.echo v) c (c.editor.store.echo v) s 0 c :=
  ⟨rfl, h, rfl, rfl⟩

/-! ### Depth -/

/-- Where the first scan is not cut off, the second one does the same. -/
def Keeps (a b : Scan α) : Prop := ∀ c x, a c = some x → b c = some x

namespace Keeps

variable {a b : Scan α} {f g : α → Scan β}

theorem refl (a : Scan α) : Keeps a a := fun _ _ h => h

theorem cut (b : Scan α) : Keeps Scan.cut b := fun _ _ h => nomatch h

theorem bind (ha : Keeps a b) (hf : ∀ v, Keeps (f v) (g v)) : Keeps (a >>= f) (b >>= g) := by
  intro c x h
  match hrun : a c with
  | none =>
    rw [bind_none hrun] at h
    cases h
  | some (.ok v, c') =>
    rw [bind_ok hrun] at h
    rw [bind_ok (ha c _ hrun)]
    exact hf v c' x h
  | some (.error err, c') =>
    rw [bind_error hrun] at h
    rw [bind_error (ha c _ hrun)]
    exact h

/-- What comes first is the same. -/
theorem next (a : Scan α) (hf : ∀ v, Keeps (f v) (g v)) : Keeps (a >>= f) (a >>= g) :=
  (refl a).bind hf

theorem ite {p : Prop} [Decidable p] {a' b' : Scan α} (h : Keeps a b) (h' : Keeps a' b') :
    Keeps (if p then a else a') (if p then b else b') := by
  split
  · exact h
  · exact h'

/-- A scan that keeps its outcome from each depth to the next one keeps it at every greater one. -/
theorem of_le {a : Nat → Scan α} (h : ∀ n, Keeps (a n) (a (n + 1))) {n m : Nat} (hle : n ≤ m) :
    Keeps (a n) (a m) := by
  induction hle with
  | refl => exact refl _
  | step _ ih => exact fun c x hx => h _ c x (ih c x hx)

end Keeps

theorem keeps_singleQuoted (src : String) (n : Nat) (out : List Char) :
    Keeps (singleQuoted src n out) (singleQuoted src (n + 1) out) := by
  induction n generalizing out with
  | zero => exact .cut _
  | succ n ih =>
    rw [singleQuoted, singleQuoted]
    refine .next _ fun _ => .next _ fun s => ?_
    split
    · exact .refl _
    · exact .next _ fun _ => .ite (.next _ fun _ => .ite (.next _ fun _ => ih _) (.refl _)) (ih _)

theorem keeps_doubleQuoted (src : String) (n : Nat) (out : List Char) :
    Keeps (doubleQuoted src n out) (doubleQuoted src (n + 1) out) := by
  induction n generalizing out with
  | zero => exact .cut _
  | succ n ih =>
    rw [doubleQuoted, doubleQuoted]
    refine .next _ fun _ => .next _ fun s => ?_
    split
    · exact .refl _
    refine .next _ fun _ => .ite (.refl _) (.ite (.next _ fun s => ?_) (ih _))
    split
    · exact ih _
    · exact .next _ fun _ => ih _

theorem keeps_name (functions : UserFunctions) (src : String) {args args' : Scan (List Value)}
    (h : Keeps args args') : Keeps (name functions src args) (name functions src args') :=
  .next _ fun _ => .next _ fun _ => .next _ fun _ => .ite (h.bind fun _ => .refl _) (.refl _)

/-- The scans of expressions keep their outcomes from one depth to the next. -/
structure Deepens (functions : UserFunctions) (src : String) (n : Nat) : Prop where
  sum : Keeps (sum functions src n) (sum functions src (n + 1))
  sumTail (left : Value) :
    Keeps (sumTail functions src n left) (sumTail functions src (n + 1) left)
  product : Keeps (product functions src n) (product functions src (n + 1))
  productTail (left : Value) :
    Keeps (productTail functions src n left) (productTail functions src (n + 1) left)
  factor : Keeps (factor functions src n) (factor functions src (n + 1))
  items (close : Char) (done : List Value) :
    Keeps (items functions src n close done) (items functions src (n + 1) close done)
  entries (done : List (String × Value)) :
    Keeps (entries functions src n done) (entries functions src (n + 1) done)

namespace Deepens

variable {functions : UserFunctions} {n : Nat}

theorem sumTail_succ (ih : Deepens functions src n) (left : Value) :
    Keeps (Scan.sumTail functions src (n + 1) left)
      (Scan.sumTail functions src (n + 2) left) := by
  rw [Scan.sumTail, Scan.sumTail]
  refine .next _ fun _ => .next _ fun o => ?_
  split
  case h_1 | h_2 =>
    exact .next _ fun _ => ih.product.bind fun _ => .next _ fun v => ih.sumTail v
  case h_3 =>
    exact .next _ fun _ => .next _ fun _ => ih.product.bind fun _ => .next _ fun v => ih.sumTail v
  case h_4 => exact .refl _

theorem productTail_succ (ih : Deepens functions src n) (left : Value) :
    Keeps (Scan.productTail functions src (n + 1) left)
      (Scan.productTail functions src (n + 2) left) := by
  rw [Scan.productTail, Scan.productTail]
  refine .next _ fun _ => .next _ fun o => ?_
  split
  case h_4 => exact .refl _
  all_goals exact .next _ fun _ => ih.factor.bind fun _ => .next _ fun v => ih.productTail v

theorem factor_succ (ih : Deepens functions src n) :
    Keeps (Scan.factor functions src (n + 1)) (Scan.factor functions src (n + 2)) := by
  rw [Scan.factor, Scan.factor]
  refine .next _ fun _ => .next _ fun o => ?_
  split
  case h_1 => exact .refl _
  case h_2 => exact .next _ fun _ => ih.factor.bind fun _ => .refl _
  case h_3 => exact .next _ fun _ => ih.sum.bind fun _ => .refl _
  case h_4 => exact .next _ fun _ => keeps_singleQuoted src n []
  case h_5 => exact .next _ fun _ => keeps_doubleQuoted src n []
  case h_6 => exact .next _ fun _ => (ih.items ']' []).bind fun _ => .refl _
  case h_7 => exact .next _ fun _ => (ih.entries []).bind fun _ => .refl _
  case h_8 => exact .ite (.refl _) (.ite (keeps_name functions src (ih.items ')' [])) (.refl _))

theorem items_succ (ih : Deepens functions src n) (close : Char) (done : List Value) :
    Keeps (Scan.items functions src (n + 1) close done)
      (Scan.items functions src (n + 2) close done) := by
  rw [Scan.items, Scan.items]
  exact .next _ fun _ => .next _ fun _ => .ite (.refl _)
    (ih.sum.bind fun _ => .next _ fun _ => .ite (ih.items close _) (.refl _))

theorem entries_succ (ih : Deepens functions src n) (done : List (String × Value)) :
    Keeps (Scan.entries functions src (n + 1) done)
      (Scan.entries functions src (n + 2) done) := by
  rw [Scan.entries, Scan.entries]
  exact .next _ fun _ => .next _ fun _ => .ite (.refl _)
    (ih.sum.bind fun _ => .next _ fun _ => .next _ fun _ => ih.sum.bind fun _ =>
      .next _ fun _ => .ite (ih.entries _) (.refl _))

end Deepens

theorem deepens (functions : UserFunctions) (src : String) (n : Nat) :
    Deepens functions src n := by
  induction n with
  | zero => constructor <;> intros <;> exact .cut _
  | succ n ih =>
    refine ⟨?_, ih.sumTail_succ, ?_, ih.productTail_succ, ih.factor_succ, ih.items_succ,
      ih.entries_succ⟩
    · rw [sum, sum]
      exact .next _ fun _ => ih.product.bind ih.sumTail
    · rw [product, product]
      exact .next _ fun _ => ih.factor.bind ih.productTail

theorem keeps_whole (functions : UserFunctions) (src : String) (n : Nat) :
    Keeps (whole functions src n) (whole functions src (n + 1)) :=
  (deepens functions src n).sum.bind fun _ => .refl _

theorem keeps_texts (functions : UserFunctions) (src : String) (n : Nat) (done : List String) :
    Keeps (texts functions src n done) (texts functions src (n + 1) done) := by
  induction n generalizing done with
  | zero => exact .cut _
  | succ n ih =>
    rw [texts, texts]
    exact .next _ fun _ => .next _ fun _ => .ite (.refl _)
      ((deepens functions src n).sum.bind fun _ => .next _ fun _ => ih _)

end Scan

end ScriptBridge.Host
