import ScriptBridge.Proofs.Proxy.Access
import ScriptBridge.Proofs.Proxy.Output

/-!
# Work on output streams

Scripts write to both streams by methods that they took from them. The messages for a stream are the
lines of all that was written to it, however it was cut into calls, and whatever the other stream was
given meanwhile.
-/

namespace ScriptBridge

open Foreign (ObjRef Stream)
open Host (Message)
open Text (Cut)
open Proxy (pending Takes lineMessage restMessages)
open ScriptBridge.Computation

namespace Output

/-- A call of a method of a stream writes texts to it, even if it fails later. -/
inductive Writes (b : Bridge) (m value : ObjRef) : Stream → List String → Prop
  | write {s : Stream}
      (hm : b.objects.get m = .proxy .method (.method (.output s) .output "write")) :
    Writes b m value s (Proxy.textsOf b.objects [value])
  | writelines {s : Stream}
      (hm : b.objects.get m = .proxy .method (.method (.output s) .output "writelines")) :
    Writes b m value s (Proxy.itemTexts b value)

/-- What a call wrote, and the messages that it showed. -/
structure Entry where
  stream : Stream
  texts : List String
  shown : List Message

variable {command command₁ command₂ : String → Act BridgeError Unit}
  {b b' b₁ b₁' b₂ b₂' : Bridge} {m value : ObjRef} {s : Stream} {texts : List String}
  {log log₁ log₂ : List Entry} {ms : List Message}

/-- All that was written to a stream. -/
def written (s : Stream) (log : List Entry) : List Char :=
  (log.filter (·.stream = s)).flatMap fun e => e.texts.flatMap String.toList

/-- The messages of a stream. -/
def shown (s : Stream) (log : List Entry) : List Message :=
  (log.filter (·.stream = s)).flatMap (·.shown)

/-- Scripts write to both streams while the editor is free. Between two calls anything may happen but
writing: messages from elsewhere may come, and the log does not have them. -/
inductive Work (command : String → Act BridgeError Unit) (b : Bridge) : List Entry → Bridge → Prop
  | start : Work command b [] b
  | call {log : List Entry} {b' : Bridge} {m value : ObjRef} {s : Stream} {texts : List String}
      {ms : List Message} (hwork : Work command b log b') (hattached : b'.attached = true)
      (hfree : b'.loan = .free) (hwrites : Writes b' m value s texts)
      (hms : (final (Script.call command m [value] [] b')).editor.messages =
        b'.editor.messages ++ ms) :
    Work command b (log ++ [⟨s, texts, ms⟩]) (final (Script.call command m [value] [] b'))
  | elsewhere {log : List Entry} {b' b'' : Bridge} (hwork : Work command b log b')
      (hpending : pending b'' = pending b') : Work command b log b''

/-! ### One call -/

theorem final_slot {α : Type} {a : Act ProxyError α} (hattached : b.attached = true) :
    final (Proxy.slot a b) = final (a b) := by
  unfold Proxy.slot
  rw [bind_apply, get_apply]
  dsimp only
  rw [hattached]
  cases b.interpreter.kind with
  | scripted => exact final_mapError a _ b
  | library => exact Proxy.final_guarded a b

theorem call_takes (command : String → Act BridgeError Unit) (hattached : b.attached = true)
    (hfree : b.loan = .free) (hopen : '\n' ∉ (pending b s).toList)
    (hwrites : Writes b m value s texts) :
    ∃ ls rest, Takes b s (texts.flatMap String.toList) ls rest
      (final (Script.call command m [value] [] b)) := by
  cases hwrites with
  | write hm =>
    rw [Script.call_callable hm rfl, final_slot hattached]
    exact Proxy.writeMethod_takes hfree hopen value
  | writelines hm =>
    rw [Script.call_callable hm rfl, final_slot hattached]
    exact Proxy.writelinesMethod_takes hfree hopen value

/-! ### Several calls -/

/-- A stream has shown the lines of a text, and the rest waits. -/
def Showed (b : Bridge) (s : Stream) (text : List Char) (ms : List Message) : Prop :=
  ∃ ls rest, Cut text ls rest ∧ ms = ls.map (lineMessage s) ∧ pending b s = String.ofList rest

theorem Showed.waits_open {text : List Char} (h : Showed b s text ms) :
    '\n' ∉ (pending b s).toList := by
  obtain ⟨ls, rest, hcut, -, hpending⟩ := h
  rw [hpending, String.toList_ofList]
  exact hcut.rest_open

/-- A stream takes more of a text. -/
theorem Showed.takes {text more rest : List Char} {ls : List (List Char)} (h : Showed b s text ms)
    (htakes : Takes b s more ls rest b') :
    Showed b' s (text ++ more) (ms ++ ls.map (lineMessage s)) := by
  obtain ⟨ls₀, rest₀, hcut, rfl, hpending⟩ := h
  have hmore := htakes.cut
  rw [hpending, String.toList_ofList] at hmore
  exact ⟨ls₀ ++ ls, rest, hcut.append hmore, by rw [List.map_append], htakes.keeps⟩

/-- However a text is cut at its line feeds, that is what was shown and what waits. -/
theorem Showed.eq_of_cut {text rest : List Char} {ls : List (List Char)} (h : Showed b s text ms)
    (hcut : Cut text ls rest) : ms = ls.map (lineMessage s) ∧ pending b s = String.ofList rest := by
  obtain ⟨ls', rest', hcut', rfl, hpending⟩ := h
  obtain ⟨rfl, rfl⟩ := hcut.unique hcut'
  exact ⟨rfl, hpending⟩

/-- After any calls both streams have shown the lines of what was written to them. -/
theorem Work.showed (hnothing : ∀ s, pending b s = "") (hwork : Work command b log b')
    (s : Stream) : Showed b' s (written s log) (shown s log) := by
  induction hwork generalizing s with
  | start => exact ⟨[], [], .waiting List.not_mem_nil, rfl, hnothing s⟩
  | @call log b' m value s' texts ms _ hattached hfree hwrites hms ih =>
    obtain ⟨ls, rest, htakes⟩ :=
      call_takes command hattached hfree (ih s').waits_open hwrites
    rw [htakes.messages] at hms
    have hlines := List.append_cancel_left hms
    by_cases hs : s' = s
    · subst hs
      have hshowed := (ih s').takes htakes
      simpa [written, shown, hlines] using hshowed
    · have hother := htakes.other s (Ne.symm hs)
      obtain ⟨ls, rest, hcut, hshown, hpending⟩ := ih s
      exact ⟨ls, rest, by simpa [written, hs] using hcut, by simpa [shown, hs] using hshown,
        hother.trans hpending⟩
  | elsewhere _ hpending ih =>
    obtain ⟨ls, rest, hcut, hshown, hwaits⟩ := ih s
    exact ⟨ls, rest, hcut, hshown, (congrFun hpending s).trans hwaits⟩

/-- A call only adds messages, and so the work can go on with it. -/
theorem Work.next (hnothing : ∀ s, pending b s = "") (hwork : Work command b log b')
    (hattached : b'.attached = true) (hfree : b'.loan = .free)
    (hwrites : Writes b' m value s texts) :
    ∃ ms, Work command b (log ++ [⟨s, texts, ms⟩]) (final (Script.call command m [value] [] b')) := by
  obtain ⟨ls, rest, htakes⟩ :=
    call_takes command hattached hfree (hwork.showed hnothing s).waits_open hwrites
  exact ⟨_, hwork.call hattached hfree hwrites htakes.messages⟩

/-- Between two times that nothing waits, each stream shows the complete lines of what is written to
it as soon as they are complete, and at the end the rest. This depends on the text alone: how it was
cut, and what the other stream was given, make no difference. -/
theorem streams_show_their_lines (hnothing : ∀ s, pending b₁ s = "")
    (hwork : Work command₁ b₁ log₁ b₁') :
    (∀ s, Showed b₁' s (written s log₁) (shown s log₁)) ∧
      (b₁'.loan = .free → ∃ b, (Proxy.flush : Act BridgeError Unit) b₁' = .ok () b ∧
        (∀ s, pending b s = "") ∧ b.editor.messages = b₁'.editor.messages ++
          restMessages .out (pending b₁' .out) ++ restMessages .err (pending b₁' .err)) ∧
      (∀ m value s texts, b₁'.attached = true → b₁'.loan = .free → Writes b₁' m value s texts →
        ∃ ms, Work command₁ b₁ (log₁ ++ [⟨s, texts, ms⟩])
          (final (Script.call command₁ m [value] [] b₁'))) ∧
      ∀ command₂ b₂ log₂ b₂', (∀ s, pending b₂ s = "") → Work command₂ b₂ log₂ b₂' →
        ∀ s, written s log₂ = written s log₁ →
          shown s log₂ = shown s log₁ ∧ pending b₂' s = pending b₁' s := by
  have hshowed := hwork.showed hnothing
  refine ⟨hshowed, fun hfree => ?_, fun m value s texts hattached hfree hwrites =>
    hwork.next hnothing hattached hfree hwrites, fun command₂ b₂ log₂ b₂' hnothing₂ hwork₂ s hs => ?_⟩
  · refine ⟨_, Proxy.flush_apply hfree, fun s => by cases s <;> rfl, ?_⟩
    simp [Proxy.showing]
  · obtain ⟨ls, rest, hcut, hshown, hpending⟩ := hshowed s
    rw [hshown, hpending]
    exact (hwork₂.showed hnothing₂ s).eq_of_cut (hs ▸ hcut)

/-- A line end comes in two calls, and the other stream is written to between them. -/
theorem streams_show_their_lines_in_parts :
    let cells : Array Foreign.Object := #[.proxy .method (.method (.output .out) .output "write"),
      .proxy .method (.method (.output .err) .output "writelines"), .str "a\r", .str "\nb\n\nc",
      .list [⟨5⟩, ⟨6⟩], .str "x", .str "y\n"]
    let b : Bridge := { Bridge.fresh with objects := { cells } }
    let command : String → Act BridgeError Unit := fun _ => pure ()
    ∃ log b', Work command b log b' ∧ shown .out log = [.info "a", .info "b", .info ""] ∧
      pending b' .out = "c" ∧ shown .err log = [.error "xy"] ∧ pending b' .err = "" := by
  intro cells b command
  have hnothing : ∀ s, pending b s = "" := by intro s; cases s <;> rfl
  have hreturn : Cut ['a', '\r'] [] ['a', '\r'] := .waiting (by decide)
  have hline : Cut ['x', 'y', '\n'] [['x', 'y']] [] := ⟨rfl, by simp, by decide⟩
  -- The carriage return waits.
  obtain ⟨ms₁, hwork₁⟩ := @Work.next command _ _ _ _ _ _ _ hnothing .start rfl rfl
    (.write rfl : Writes b ⟨0⟩ ⟨2⟩ .out ["a\r"])
  have hshowed₁ := (streams_show_their_lines hnothing hwork₁).1
  have hout₁ := (hshowed₁ .out).eq_of_cut hreturn
  have herr₁ := (hshowed₁ .err).eq_of_cut (.waiting List.not_mem_nil)
  replace hwork₁ : Work command b _ { b with pendingOut := "a\r" } := hwork₁.elsewhere
    (by funext s; cases s with | out => exact hout₁.2.symm | err => exact herr₁.2.symm)
  -- The other stream is written to.
  obtain ⟨ms₂, hwork₂⟩ := hwork₁.next hnothing rfl rfl
    (.writelines rfl : Writes _ ⟨1⟩ ⟨4⟩ .err ["x", "y\n"])
  have hshowed₂ := (streams_show_their_lines hnothing hwork₂).1
  have hout₂ := (hshowed₂ .out).eq_of_cut hreturn
  have herr₂ := (hshowed₂ .err).eq_of_cut hline
  replace hwork₂ : Work command b _ { b with pendingOut := "a\r" } := hwork₂.elsewhere
    (by funext s; cases s with | out => exact hout₂.2.symm | err => exact herr₂.2.symm)
  -- The line feed after the carriage return comes.
  obtain ⟨ms₃, hwork₃⟩ := hwork₂.next hnothing rfl rfl
    (.write rfl : Writes _ ⟨0⟩ ⟨3⟩ .out ["\nb\n\nc"])
  have hlines : Cut ['a', '\r', '\n', 'b', '\n', '\n', 'c'] [['a', '\r'], ['b'], []] ['c'] :=
    ⟨rfl, by simp, by decide⟩
  have hshowed₃ := (streams_show_their_lines hnothing hwork₃).1
  have hout₃ := (hshowed₃ .out).eq_of_cut hlines
  have herr₃ := (hshowed₃ .err).eq_of_cut hline
  exact ⟨_, _, hwork₃, hout₃.1, hout₃.2, herr₃.1, herr₃.2⟩

end Output

end ScriptBridge
