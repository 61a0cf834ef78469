import ScriptBridge.Proofs.Proxy.Operand
import ScriptBridge.Proofs.Proxy.Writing
import ScriptBridge.Proofs.Text.Lines

/-!
# What streams take

A stream takes a text: it shows the lines that are complete then, and keeps the rest. What it takes
in several parts comes to what it takes at once. The other stream does not notice.
-/

namespace ScriptBridge.Proxy

open Foreign (ObjRef Objects ProxyClass Target Stream)
open Host (Message)
open Text (Cut)
open ScriptBridge.Computation

/-- The message for a complete line of a stream. -/
def lineMessage (s : Stream) (line : List Char) : Message :=
  message s (String.ofList (Text.dropReturn line))

/-- The message for a rest that is shown, unless it is empty. -/
def restMessages (s : Stream) (rest : String) : List Message :=
  if rest.isEmpty then [] else [message s rest]

/-- A stream shows complete lines and keeps a rest, after it took a text. -/
structure Takes (b : Bridge) (s : Stream) (text : List Char) (ls : List (List Char))
    (rest : List Char) (b' : Bridge) : Prop where
  cut : Cut ((pending b s).toList ++ text) ls rest
  messages : b'.editor.messages = b.editor.messages ++ ls.map (lineMessage s)
  keeps : pending b' s = String.ofList rest
  other : ∀ s', s' ≠ s → pending b' s' = pending b s'
  attached : b'.attached = b.attached
  loan : b'.loan = b.loan

variable {ε : Type} {b b' b'' : Bridge} {s : Stream} {text text' rest rest' : List Char}
  {ls ls' : List (List Char)}

/-- What streams show and keep, and whether they can. -/
def outputs (b : Bridge) : (Stream → String) × List Message × Bool × Loan :=
  (pending b, b.editor.messages, b.attached, b.loan)

namespace Takes

theorem trans (h : Takes b s text ls rest b') (h' : Takes b' s text' ls' rest' b'') :
    Takes b s (text ++ text') (ls ++ ls') rest' b'' where
  cut := by
    have hmore := h'.cut
    rw [h.keeps, String.toList_ofList] at hmore
    rw [← List.append_assoc]
    exact h.cut.append hmore
  messages := by rw [h'.messages, h.messages, List.append_assoc, List.map_append]
  keeps := h'.keeps
  other s' hs := (h'.other s' hs).trans (h.other s' hs)
  attached := h'.attached.trans h.attached
  loan := h'.loan.trans h.loan

/-- Nothing is taken where outputs stay as they are. -/
theorem nothing (hopen : '\n' ∉ (pending b s).toList) (h : outputs b' = outputs b) :
    Takes b s [] [] (pending b s).toList b' := by
  obtain ⟨hpending, hmessages, hattached, hloan⟩ :
      pending b' = pending b ∧ b'.editor.messages = b.editor.messages ∧
        b'.attached = b.attached ∧ b'.loan = b.loan := by
    simpa [outputs] using h
  refine ⟨?_, ?_, ?_, fun s' _ => congrFun hpending s', hattached, hloan⟩
  · rw [List.append_nil]
    exact .waiting hopen
  · rw [hmessages, List.map_nil, List.append_nil]
  · rw [hpending, String.ofList_toList]

/-- What waits is no complete line. -/
theorem waits_open (h : Takes b s text ls rest b') : '\n' ∉ (pending b' s).toList := by
  rw [h.keeps, String.toList_ofList]
  exact h.cut.rest_open

/-- Outputs may be looked at later. -/
theorem of_outputs (h : Takes b s text ls rest b') (hsame : outputs b'' = outputs b') :
    Takes b s text ls rest b'' := by
  have hlater := h.trans (.nothing h.waits_open hsame)
  rwa [List.append_nil, List.append_nil, h.keeps, String.toList_ofList] at hlater

end Takes

/-! ### Writing -/

/-- The bridge with more messages. -/
def showing (b : Bridge) (ms : List Message) : Bridge :=
  { b with editor := { b.editor with messages := b.editor.messages ++ ms } }

/-- A message is shown if the editor is free. -/
theorem say_eq (b : Bridge) (m : Message) : (Bridge.say m : Act ε Unit) b =
    .ok () (showing b (if b.loan = .free then [m] else [])) := by
  unfold Bridge.say
  rw [modify_apply]
  by_cases hfree : b.loan = .free
  · rw [if_pos hfree, if_pos hfree]
    rfl
  · rw [if_neg hfree, if_neg hfree, showing, List.append_nil]

theorem say_apply (hfree : b.loan = .free) (m : Message) :
    (Bridge.say m : Act ε Unit) b = .ok () (showing b [m]) := by
  rw [say_eq, if_pos hfree]

theorem showing_append (b : Bridge) (ms ms' : List Message) :
    showing (showing b ms) ms' = showing b (ms ++ ms') := by
  unfold showing
  rw [List.append_assoc]

/-- A loop that shows messages for several things, one after another. -/
theorem forIn_showing {γ : Type} {loan : Loan} (body : γ → PUnit → Act ε (ForInStep PUnit))
    (f : γ → List Message)
    (hbody : ∀ x b, b.loan = loan → body x ⟨⟩ b = .ok (.yield ⟨⟩) (showing b (f x)))
    (xs : List γ) (hloan : b.loan = loan) :
    (forIn xs PUnit.unit body : Act ε PUnit) b = .ok ⟨⟩ (showing b (xs.flatMap f)) := by
  induction xs generalizing b with
  | nil =>
    rw [List.forIn_nil, List.flatMap_nil, showing, List.append_nil]
    rfl
  | cons x xs ih =>
    rw [List.forIn_cons, bind_apply, hbody x b hloan]
    have hrest := ih (b := showing b (f x)) hloan
    rw [showing_append] at hrest
    exact hrest

theorem pending_setPending (b : Bridge) (s : Stream) (text : String) :
    pending (setPending b s text) s = text := by
  cases s <;> rfl

theorem pending_setPending_of_ne {s' : Stream} (hs : s' ≠ s) (b : Bridge) (text : String) :
    pending (setPending b s text) s' = pending b s' := by
  cases s <;> cases s' <;> first | rfl | exact absurd rfl hs

/-- Writing always succeeds, and makes no objects. -/
theorem write_takes (hfree : b.loan = .free) (text : String) :
    ∃ ls rest b', (write s text : Act ε Unit) b = .ok () b' ∧ Takes b s text.toList ls rest b' ∧
      b'.objects = b.objects := by
  obtain ⟨ls, rest, hcut⟩ := Cut.exists_cut ((pending b s).toList ++ text.toList)
  have hset : (setPending b s (String.ofList rest)).loan = .free := by
    cases s <;> exact hfree
  have hwrite : (write s text : Act ε Unit) b =
      .ok () (showing (setPending b s (String.ofList rest)) (ls.map (lineMessage s))) := by
    unfold write
    rw [bind_apply, get_apply]
    dsimp only
    rw [Text.splitAtLastFeed_eq hcut, bind_apply, modify_apply]
    dsimp only
    rw [bind_apply, Text.lines_flatMap hcut.lines_open,
      forIn_showing _ (fun line => [message s (String.ofList line)])
        (fun line b hfree => by rw [bind_apply, say_apply hfree]; rfl) _ hset]
    dsimp only
    rw [← List.map_eq_flatMap, List.map_map]
    rfl
  refine ⟨ls, rest, _, hwrite, ⟨hcut, ?_, pending_setPending b s _,
    fun s' hs => pending_setPending_of_ne hs b _, ?_, ?_⟩, ?_⟩
  all_goals cases s <;> rfl

/-- The texts of objects, up to the first one that has none. -/
def textsOf (o : Objects) : List ObjRef → List String
  | [] => []
  | r :: rs =>
    match LineList.textOf o r with
    | .ok text => text :: textsOf o rs
    | .error _ => []

/-- What is written before an object without a text stays written. -/
theorem writeAll_takes (hfree : b.loan = .free) (hopen : '\n' ∉ (pending b s).toList)
    (rs : List ObjRef) :
    ∃ ls rest, Takes b s ((textsOf b.objects rs).flatMap String.toList) ls rest
      (final (writeAll s rs b)) := by
  induction rs generalizing b with
  | nil => exact ⟨_, _, .nothing hopen rfl⟩
  | cons r rs ih =>
    have htext := LineList.stringOf_obeys (b := b) r
    unfold textsOf
    unfold writeAll
    generalize LineList.textOf b.objects r = x at htext ⊢
    have hlift : (liftM (Convert.stringOf r) : Act ProxyError String) b =
        Act.mapError ProxyError.convert (Convert.stringOf r) b := rfl
    rw [bind_apply, hlift, Act.mapError]
    generalize Convert.stringOf r b = outcome at htext ⊢
    cases htext with
    | error e => exact ⟨_, _, .nothing hopen rfl⟩
    | ok hgives =>
      obtain ⟨rfl, rfl⟩ := hgives
      obtain ⟨ls, rest, b', hwrite, htakes, hobjects⟩ :=
        write_takes (ε := ProxyError) (s := s) hfree ‹_›
      obtain ⟨ls', rest', htakes'⟩ := ih (htakes.loan.trans hfree) htakes.waits_open
      dsimp only
      rw [bind_apply, hwrite, ← hobjects]
      exact ⟨_, _, htakes.trans htakes'⟩

/-! ### Calls of methods -/

/-- A computation leaves the outputs as they are. -/
def Silent {α : Type} (a : Act ε α) : Prop := a.Keeps outputs

theorem Silent.of_adds {α : Type} {a : Act ε α} (ha : a.Adds) : Silent a := by
  intro b
  rw [(ha b).eq]
  rfl

theorem silent_entity (key : Host.Entity) : Silent (Bridge.entity key) := by
  have hread : Silent Bridge.readEditor := .of_adds Act.Mild.readEditor
  refine Act.Keeps.bind hread fun e => Act.Keeps.guard (.bind .get fun b => ?_)
  dsimp only
  split
  · exact .bind (fun _ => rfl) fun _ => .pure _
  · exact .bind (fun _ => rfl) fun _ => .bind (.modify fun _ => rfl) fun _ => .pure _

instance : Act.Reading (fun {_ _} => Silent) where
  pure := .pure _
  fail := .fail _
  bind := .bind
  read hf _ := .bind .get hf
  mapError ha := .mapError ha _
  attempt := .attempt
  alloc := .of_adds Act.Mild.alloc
  hold := .of_adds Act.Mild.hold
  newList := .of_adds Act.Mild.newList
  newDict := .of_adds Act.Mild.newDict
  of_adds := .of_adds
  entity := silent_entity _
  guarded ha b := (congrArg outputs (final_guarded _ b)).trans (ha b)

/-- The texts of the items of an object, up to the first one that has none. -/
def itemTexts (b : Bridge) (r : ObjRef) : List String :=
  match anyItems r b with
  | .ok rs b' => textsOf b'.objects rs
  | .error _ _ => []

/-- What comes after it leaves the outputs as they are. -/
theorem Takes.followed {α β : Type} {a : Act ε α} {f : α → Act ε β}
    (h : Takes b s text ls rest (final (a b))) (hf : ∀ x, Silent (f x)) :
    Takes b s text ls rest (final ((a >>= f) b)) := by
  rw [bind_apply]
  cases ha : a b with
  | ok x b' =>
    rw [ha] at h
    exact h.of_outputs (hf x b')
  | error e b' =>
    rw [ha] at h
    exact h

/-- A text is written as a whole, or not at all. -/
theorem writeMethod_takes (hfree : b.loan = .free) (hopen : '\n' ∉ (pending b s).toList)
    (r : ObjRef) : ∃ ls rest, Takes b s ((textsOf b.objects [r]).flatMap String.toList) ls rest
      (final (outputMethod s "write" [r] b)) := by
  have hwrite : outputMethod s "write" [r] b =
      (writeAll s [r] >>= fun _ => Bridge.alloc .null : Act ProxyError ObjRef) b := by
    unfold writeAll writeAll
    simp only [bind_assoc, pure_bind]
    rfl
  obtain ⟨ls, rest, htakes⟩ := writeAll_takes hfree hopen [r]
  rw [hwrite]
  exact ⟨ls, rest, htakes.followed fun _ => Silent.of_adds Act.Mild.alloc⟩

/-- The items of an object are written one after another. -/
theorem writelinesMethod_takes (hfree : b.loan = .free) (hopen : '\n' ∉ (pending b s).toList)
    (r : ObjRef) : ∃ ls rest, Takes b s ((itemTexts b r).flatMap String.toList) ls rest
      (final (outputMethod s "writelines" [r] b)) := by
  have hwrite : outputMethod s "writelines" [r] b =
      ((Act.mapError ProxyError.foreign (anyItems r) >>= writeAll s) >>= fun _ =>
        Bridge.alloc .null : Act ProxyError ObjRef) b := by
    rw [bind_assoc]
    rfl
  have hitems : Silent (anyItems r) := reading_anyItems r
  have hsilent := hitems b
  rw [hwrite]
  unfold itemTexts
  suffices h : ∃ ls rest, Takes b s _ ls rest
      (final ((Act.mapError ProxyError.foreign (anyItems r) >>= writeAll s) b)) by
    obtain ⟨ls, rest, htakes⟩ := h
    exact ⟨ls, rest, htakes.followed fun _ => Silent.of_adds Act.Mild.alloc⟩
  rw [bind_apply, Act.mapError]
  cases h : anyItems r b with
  | error e b' =>
    rw [h] at hsilent
    exact ⟨_, _, .nothing hopen hsilent⟩
  | ok rs b' =>
    rw [h] at hsilent
    have htakes := Takes.nothing hopen hsilent
    obtain ⟨ls, rest, htakes'⟩ := writeAll_takes (htakes.loan.trans hfree) htakes.waits_open rs
    exact ⟨_, _, htakes.trans htakes'⟩

/-! ### Showing what waits -/

/-- What waits is shown, first for the one stream and then for the other. Nothing waits then. -/
theorem flush_apply (hfree : b.loan = .free) :
    (flush : Act ε Unit) b = .ok () (showing { b with pendingOut := "", pendingErr := "" }
      ([Stream.out, Stream.err].flatMap fun s => restMessages s (pending b s))) := by
  let c : Bridge := { b with pendingOut := "", pendingErr := "" }
  have hloop := forIn_showing (b := c)
    (fun s _ => if !(pending b s).isEmpty then do
        Bridge.say (message s (pending b s))
        Pure.pure (.yield PUnit.unit)
      else Pure.pure (.yield PUnit.unit) : Stream → PUnit → Act ε (ForInStep PUnit))
    (fun s => restMessages s (pending b s))
    (fun s b' hfree => by
      unfold restMessages
      cases (pending b s).isEmpty with
      | true =>
        rw [if_pos rfl, showing, List.append_nil]
        rfl
      | false =>
        change (Bridge.say _ >>= _) b' = _
        rw [bind_apply, say_apply hfree]
        rfl)
    [Stream.out, Stream.err] hfree
  unfold flush
  rw [bind_apply, get_apply]
  dsimp only
  have hset : (set c : Act ε PUnit) b = .ok ⟨⟩ c := rfl
  rw [bind_apply, hset]
  dsimp only
  rw [bind_apply, hloop]
  rfl

end ScriptBridge.Proxy
