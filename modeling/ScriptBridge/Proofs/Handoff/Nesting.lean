import Mathlib.Data.List.Basic
import ScriptBridge.Handoff.Trace

/-!
# Guards nest

Any number of entries can be attempted and left, the newest first. What a guard saved is what was in
force when its entry was made: the host side and the first locale for the outermost guard, the script
side and the plain locale for every other one. So each leaving uncovers the state of the guards that
are still there, whatever was attempted in between.
-/

namespace ScriptBridge

/-- Words of lock operations in which every release is for the newest acquisition that has not been
released. -/
inductive Bracketed (mode : HandoffMode) : List LockEvent → Prop where
  | nil : Bracketed mode []
  | nest {u v : List LockEvent} (hu : Bracketed mode u) (hv : Bracketed mode v) :
    Bracketed mode (.acquire mode :: (u ++ .release mode :: v))

/-- A pair of operations can be put in anywhere. -/
theorem Bracketed.insert {mode : HandoffMode} {w : List LockEvent} (hw : Bracketed mode w) :
    ∀ {u v : List LockEvent}, w = u ++ v →
      Bracketed mode (u ++ .acquire mode :: .release mode :: v) := by
  induction hw with
  | nil =>
    intro u v huv
    obtain ⟨rfl, rfl⟩ := List.append_eq_nil_iff.mp huv.symm
    exact nest nil nil
  | @nest x y hx hy ihx ihy =>
    intro u v huv
    cases u with
    | nil =>
      subst huv
      exact nest nil (nest hx hy)
    | cons a u =>
      obtain ⟨rfl, hrest⟩ := List.cons_eq_cons.mp huv
      -- The pair goes into the first word, to its end, or into the second word.
      rcases List.append_eq_append_iff.mp hrest with ⟨c, rfl, hc⟩ | ⟨c, rfl, rfl⟩
      · cases c with
        | nil =>
          obtain rfl : .release mode :: y = v := by simpa using hc
          have hend := ihx (List.append_nil x).symm
          simpa using nest hend hy
        | cons a c =>
          obtain ⟨rfl, rfl⟩ := List.cons_eq_cons.mp hc
          simpa using nest hx (ihy rfl)
      · simpa using nest (ihx rfl) hy

namespace Handoff

/-- What can be done with a handoff. -/
inductive Attempt where
  | enter
  /-- The newest guard is dropped, if there is one. -/
  | leave

/-- The side that owns execution under some guards. -/
def sideUnder : List Guard → Side
  | [] => .host
  | _ :: _ => .foreign

/-- The locale under some guards, if it was `outer` before the first of them. -/
def localeUnder (outer : String) : List Guard → String
  | [] => outer
  | _ :: _ => plainLocale

/-- Each guard saved what was in force under the older ones. -/
def Saves (outer : String) : List Guard → Prop
  | [] => True
  | g :: guards =>
    g.side = sideUnder guards ∧ g.locale.restore plainLocale = localeUnder outer guards ∧
      Saves outer guards

namespace Trace

/-- A handoff that nothing has entered yet. -/
def start (mode : HandoffMode) (outer : String) (before : List LockEvent) : Trace :=
  ⟨{ mode, locale := outer, locks := before }, []⟩

/-- The trace after an attempt. A refused entry leaves it as it is. -/
def attempt (t : Trace) : Attempt → Trace
  | .enter => match t.enter with
    | .ok t' => t'
    | .error _ => t
  | .leave => t.leave?.getD t

/-- The trace after some attempts. -/
def run (t : Trace) (attempts : List Attempt) : Trace := attempts.foldl attempt t

/-- What holds of the traces that a start leads to. -/
structure Nested (mode : HandoffMode) (outer : String) (before : List LockEvent) (t : Trace) :
    Prop where
  discipline : t.handoff.mode = mode
  depth : t.handoff.depth = t.guards.length
  side : t.handoff.side = sideUnder t.guards
  locale : t.handoff.locale = localeUnder outer t.guards
  saves : Saves outer t.guards
  /-- Once the guards are dropped as well, the operations on the lock are well bracketed. -/
  locks : ∃ log, t.handoff.locks = before ++ log ∧
    Bracketed mode (log ++ List.replicate t.guards.length (.release mode))

variable {mode : HandoffMode} {outer : String} {before : List LockEvent} {t : Trace}

theorem nested_start (mode : HandoffMode) (outer : String) (before : List LockEvent) :
    Nested mode outer before (start mode outer before) :=
  ⟨rfl, rfl, rfl, rfl, trivial, [], (List.append_nil before).symm, .nil⟩

/-- An entry is refused in single-call mode inside an entry. -/
theorem enter_of_refused (h : t.handoff.mode = .singleCall ∧ 0 < t.handoff.depth) :
    t.enter = .error .recursive := by
  unfold enter Handoff.enter
  rw [if_pos h]
  rfl

/-- An entry that is not refused makes the script side current under the plain locale. -/
theorem enter_of_accepted (h : ¬ (t.handoff.mode = .singleCall ∧ 0 < t.handoff.depth)) :
    t.enter = .ok
      ⟨{ t.handoff with
          depth := t.handoff.depth + 1, side := .foreign
          locale := (forceLocale t.handoff.locale).1
          locks := t.handoff.locks ++ [.acquire t.handoff.mode] },
        ⟨t.handoff.side, (forceLocale t.handoff.locale).2⟩ :: t.guards⟩ := by
  unfold enter Handoff.enter
  rw [if_neg h]
  rfl

/-- The locale that is forced is the plain one, and what was saved leads back. -/
theorem forceLocale_spec (current : String) :
    (forceLocale current).1 = plainLocale ∧
      (forceLocale current).2.restore plainLocale = current := by
  unfold forceLocale
  split
  case isTrue h => exact ⟨h, h.symm⟩
  case isFalse => exact ⟨rfl, rfl⟩

theorem Nested.enter (ht : Nested mode outer before t)
    (h : ¬ (t.handoff.mode = .singleCall ∧ 0 < t.handoff.depth)) :
    ∃ t', t.enter = .ok t' ∧ Nested mode outer before t' := by
  obtain ⟨hforced, hrestored⟩ := forceLocale_spec t.handoff.locale
  obtain ⟨log, hlog, hbracketed⟩ := ht.locks
  refine ⟨_, enter_of_accepted h, ht.discipline, ?_, rfl, hforced, ⟨ht.side, ?_, ht.saves⟩, ?_⟩
  · exact congrArg (· + 1) ht.depth
  · exact hrestored.trans ht.locale
  · refine ⟨log ++ [.acquire mode], ?_, ?_⟩
    · simp only [hlog, ht.discipline, List.append_assoc]
    · simpa [List.replicate_succ] using hbracketed.insert rfl

theorem Nested.leave (ht : Nested mode outer before t) {t' : Trace} (h : t.leave? = some t') :
    Nested mode outer before t' := by
  obtain ⟨h₀, guards⟩ := t
  cases guards with
  | nil => cases h
  | cons g guards =>
    cases h
    obtain ⟨hside, hlocale, hsaves⟩ := ht.saves
    obtain ⟨log, hlog, hbracketed⟩ := ht.locks
    refine ⟨ht.discipline, ?_, hside, ?_, hsaves, ?_⟩
    · have hdepth : h₀.depth = guards.length + 1 := ht.depth
      simp only [Handoff.leave, hdepth, Nat.add_sub_cancel]
    · have hplain : h₀.locale = plainLocale := ht.locale
      simpa only [Handoff.leave, hplain] using hlocale
    · have hmode : h₀.mode = mode := ht.discipline
      refine ⟨log ++ [.release mode], ?_, ?_⟩
      · have hlog : h₀.locks = before ++ log := hlog
        simp only [Handoff.leave, hlog, hmode, List.append_assoc]
      · simpa [List.replicate_succ] using hbracketed

theorem Nested.attempt (ht : Nested mode outer before t) (a : Attempt) :
    Nested mode outer before (t.attempt a) := by
  cases a with
  | enter =>
    by_cases h : t.handoff.mode = .singleCall ∧ 0 < t.handoff.depth
    · simpa only [Trace.attempt, enter_of_refused h] using ht
    · obtain ⟨t', hentered, ht'⟩ := ht.enter h
      simpa only [Trace.attempt, hentered] using ht'
  | leave =>
    unfold Trace.attempt
    cases hleft : t.leave? with
    | none => exact ht
    | some t' => exact ht.leave hleft

theorem Nested.run (ht : Nested mode outer before t) (attempts : List Attempt) :
    Nested mode outer before (t.run attempts) := by
  induction attempts generalizing t with
  | nil => exact ht
  | cons a attempts ih => exact ih (ht.attempt a)

/-- Whatever is entered and left, the handoff is told by the guards that are there: their number, and
whether there are any. The lock is taken and released in nested pairs, of which the guards are the
open ones. -/
theorem run_nested (mode : HandoffMode) (outer : String) (before : List LockEvent)
    (attempts : List Attempt) :
    let t := (start mode outer before).run attempts
    t.handoff.depth = t.guards.length ∧
      (t.handoff.side = .foreign ↔ t.guards ≠ []) ∧
      (∃ log, t.handoff.locks = before ++ log ∧
        Bracketed mode (log ++ List.replicate t.guards.length (.release mode))) ∧
      ((∃ e, t.enter = .error e) ↔ mode = .singleCall ∧ t.guards ≠ []) ∧
      (∀ e, t.enter = .error e → e = .recursive ∧ t.attempt .enter = t) ∧
      (t.guards ≠ [] → t.handoff.locale = plainLocale) ∧
      (t.guards = [] → t.handoff.locale = outer) := by
  intro t
  have ht : Nested mode outer before t := (nested_start mode outer before).run attempts
  have hdepth : 0 < t.handoff.depth ↔ t.guards ≠ [] := by
    rw [ht.depth, List.length_pos_iff]
  refine ⟨ht.depth, ?_, ht.locks, ?_, ?_, ?_, ?_⟩
  · rw [ht.side]
    cases t.guards <;> simp [sideUnder]
  · rw [← ht.discipline, ← hdepth]
    constructor
    · rintro ⟨e, he⟩
      by_contra h
      rw [enter_of_accepted h] at he
      cases he
    · exact fun h => ⟨.recursive, enter_of_refused h⟩
  · intro e he
    have hrefused : t.handoff.mode = .singleCall ∧ 0 < t.handoff.depth := by
      by_contra h
      rw [enter_of_accepted h] at he
      cases he
    rw [enter_of_refused hrefused] at he
    cases he
    exact ⟨rfl, by simp only [attempt, enter_of_refused hrefused]⟩
  · intro hguards
    rw [ht.locale]
    obtain ⟨g, guards, hcons⟩ := List.exists_cons_of_ne_nil hguards
    rw [hcons, localeUnder]
  · intro hguards
    rw [ht.locale, hguards, localeUnder]

end Trace

end Handoff

end ScriptBridge
