import ScriptBridge.Convert.Text
import ScriptBridge.Proofs.Host.Operation

/-!
# Lists of lines

What a script expects of a handle to lines: a list of texts. The list is a part of the lines of a
buffer. The lines in front of it and behind it stay as they are, except that a buffer which would
lose its last line keeps an empty one.
-/

namespace ScriptBridge

open Host (Change)

/-- A list among the lines of a buffer, as the buffer holds them. -/
structure LineList where
  /-- Whether the list is all of the buffer, rather than a range of its lines. -/
  whole : Bool
  front : List String
  lines : List String
  back : List String

namespace LineList

/-- What an operation takes from a list: an item, or a slice with step one. -/
inductive Key where
  | at (i : Int)
  | between (start stop : Option Int)

/-- The position of an item in a list of `len` items. A negative one counts from the end. -/
def position (len : Nat) (i : Int) : Except ExceptionKind Nat :=
  let j := if i < 0 then i + len else i
  if Text.fitsInt64 i = false then .error .overflow
  else if 0 ≤ j ∧ j < len then .ok j.toNat
  else .error .index

/-- A bound of a slice in a list of `len` items. A negative one counts from the end, and one outside
of the list is moved to its nearest end. -/
def bound (len : Nat) (i : Int) : Nat := (if i < 0 then max 0 (i + len) else min i len).toNat

/-- The positions from which and up to which a key takes items. -/
def Key.part (len : Nat) : Key → Except ExceptionKind (Nat × Nat)
  | .at i => do
    let n ← position len i
    return (n, n + 1)
  | .between start stop =>
    let lo := (start.map (bound len)).getD 0
    .ok (lo, max lo ((stop.map (bound len)).getD len))

/-- An operation on a list. An operand that is not what the operation takes raises an exception. -/
inductive Request where
  | length
  | get (key : Key)
  /-- New items in place of what the key takes. -/
  | set (key : Key) (new : Except ExceptionKind (List String))
  | delete (key : Key)
  /-- New items at a position, or at the end. -/
  | append (new : Except ExceptionKind (List String))
      (position? : Option (Except ExceptionKind Int))

/-- What an operation gives to the script. -/
inductive Given where
  | nothing
  | count (n : Nat)
  | text (s : String)
  | texts (ss : List String)
deriving DecidableEq

/-- All lines of the buffer. -/
def all (v : LineList) : List String := v.front ++ v.lines ++ v.back

/-- The list with other items. A buffer is never without a line: the list gets an empty one if it is
all of the buffer, and otherwise there is an empty line behind it. -/
def withLines (v : LineList) (lines : List String) : LineList :=
  if v.front = [] ∧ lines = [] ∧ v.back = [] then
    if v.whole then { v with lines := [""] } else { v with lines := [], back := [""] }
  else { v with lines }

/-- The list with new items in place of those from position `lo` up to position `hi`. -/
def replace (v : LineList) (lo hi : Nat) (new : List String) : LineList :=
  v.withLines (v.lines.take lo ++ new ++ v.lines.drop hi)

/-- What an operation gives, and the list afterwards; or the exception that it raises. -/
def apply (v : LineList) : Request → Except ExceptionKind (Given × LineList)
  | .length => .ok (.count v.lines.length, v)
  | .get (.at i) => do
    let n ← position v.lines.length i
    return (.text (Convert.shownLine (v.lines.getD n "")), v)
  | .get key => do
    let (lo, hi) ← key.part v.lines.length
    return (.texts (((v.lines.drop lo).take (hi - lo)).map Convert.shownLine), v)
  | .set key new => do
    let (lo, hi) ← key.part v.lines.length
    return (.nothing, v.replace lo hi (← new))
  | .delete key => do
    let (lo, hi) ← key.part v.lines.length
    return (.nothing, v.replace lo hi [])
  | .append new position? => do
    let new ← new
    let i ← position?.getD (.ok v.lines.length)
    if 0 ≤ i ∧ i ≤ v.lines.length then return (.nothing, v.replace i.toNat i.toNat new)
    else .error .index

/-- What an operation comes to. One that raises an exception leaves the list as it was. -/
def step (v : LineList) (q : Request) : Except ExceptionKind Given × LineList :=
  match v.apply q with
  | .ok (g, v') => (.ok g, v')
  | .error kind => (.error kind, v)

/-- What several operations come to, one after another. -/
def run (v : LineList) : List Request → List (Except ExceptionKind Given) × LineList
  | [] => ([], v)
  | q :: rest => ((v.step q).1 :: ((v.step q).2.run rest).1, ((v.step q).2.run rest).2)

/-- The list that is all of a buffer. -/
def ofBuffer (lines : List String) : LineList := { whole := true, front := [], lines, back := [] }

/-- The list of the lines from the one numbered `first` to the one numbered `last`. -/
def ofRange (lines : List String) (first last : Int) : LineList where
  whole := false
  front := lines.take (first - 1).toNat
  lines := (lines.take last.toNat).drop (first - 1).toNat
  back := lines.drop last.toNat

variable {v v' : LineList} {lo hi : Nat} {new : List String}

theorem run_append (v : LineList) (qs : List Request) (q : Request) :
    v.run (qs ++ [q]) =
      ((v.run qs).1 ++ [((v.run qs).2.step q).1], ((v.run qs).2.step q).2) := by
  induction qs generalizing v with
  | nil => rfl
  | cons first rest ih =>
    rw [List.cons_append, run, run, ih]
    rfl

/-! ### Ranges -/

theorem all_ofRange (lines : List String) {first last : Int} (h : first ≤ last + 1) :
    (ofRange lines first last).all = lines := by
  have htake : lines.take (first - 1).toNat = (lines.take last.toNat).take (first - 1).toNat := by
    rw [List.take_take, Nat.min_eq_left (by omega)]
  unfold all ofRange
  rw [htake, List.take_append_drop, List.take_append_drop]

theorem length_front_ofRange {lines : List String} {first last : Int}
    (hlast : last ≤ lines.length) (hempty : first ≤ last + 1) :
    (ofRange lines first last).front.length = (first - 1).toNat := by
  unfold ofRange
  rw [List.length_take, Nat.min_eq_left (by omega)]

theorem length_lines_ofRange {lines : List String} {first last : Int} (hfirst : 1 ≤ first)
    (hlast : last ≤ lines.length) (hempty : first ≤ last + 1) :
    ((ofRange lines first last).lines.length : Int) = last - (first - 1) := by
  unfold ofRange
  rw [List.length_drop, List.length_take]
  omega

/-! ### Keys -/

theorem position_le {len n : Nat} {i : Int} (h : position len i = .ok n) : n < len := by
  unfold position at h
  dsimp only at h
  generalize (if i < 0 then i + (len : Int) else i) = j at h
  by_cases hfits : Text.fitsInt64 i = false
  · rw [if_pos hfits] at h
    cases h
  · by_cases hin : 0 ≤ j ∧ j < len
    · rw [if_neg hfits, if_pos hin] at h
      cases h
      omega
    · rw [if_neg hfits, if_neg hin] at h
      cases h

/-- A key takes a part that lies inside of the list. -/
theorem Key.part_le {key : Key} {len : Nat} (h : key.part len = .ok (lo, hi)) :
    lo ≤ hi ∧ hi ≤ len := by
  cases key with
  | «at» i =>
    rw [Key.part] at h
    cases hn : position len i with
    | error kind =>
      rw [hn] at h
      cases h
    | ok n =>
      rw [hn] at h
      cases h
      have hlt := position_le hn
      omega
  | between start stop =>
    have hbound (i : Option Int) (other : Nat) (hother : other ≤ len) :
        (i.map (bound len)).getD other ≤ len := by
      cases i with
      | none => exact hother
      | some i =>
        rw [Option.map_some, Option.getD_some, bound]
        split <;> omega
    cases h
    have hlo := hbound start 0 (Nat.zero_le _)
    have hhi := hbound stop len (Nat.le_refl _)
    omega

example : (Key.between (some (-2)) (some 9)).part 3 = .ok (1, 3) := rfl

example : (Key.between (some 2) (some 1)).part 3 = .ok (2, 2) := rfl

/-- Reading a slice gives its items. -/
theorem apply_get_between {start stop : Option Int}
    (h : (Key.between start stop).part v.lines.length = .ok (lo, hi)) :
    v.apply (.get (.between start stop)) =
      .ok (.texts (((v.lines.drop lo).take (hi - lo)).map Convert.shownLine), v) := by
  rw [apply, h]
  · rfl
  · intro i heq
    cases heq

/-- Setting looks at the new items after the key. -/
theorem apply_set {key : Key} (h : key.part v.lines.length = .ok (lo, hi))
    (new : Except ExceptionKind (List String)) :
    v.apply (.set key new) = (new >>= fun new => .ok (.nothing, v.replace lo hi new)) := by
  rw [apply, h]
  rfl

theorem apply_set_at (v : LineList) (i : Int) (new : Except ExceptionKind (List String)) :
    v.apply (.set (.at i) new) =
      (position v.lines.length i >>= fun n => new >>= fun new =>
        .ok (.nothing, v.replace n (n + 1) new)) := by
  rw [apply, Key.part]
  cases position v.lines.length i <;> rfl

/-! ### Changes -/

@[simp] theorem withLines_whole (lines : List String) : (v.withLines lines).whole = v.whole := by
  unfold withLines
  split
  · split <;> rfl
  · rfl

@[simp] theorem withLines_front (lines : List String) : (v.withLines lines).front = v.front := by
  unfold withLines
  split
  · split <;> rfl
  · rfl

/-- The items of a range are the given ones. -/
theorem withLines_lines (hwhole : v.whole = false) (lines : List String) :
    (v.withLines lines).lines = lines := by
  unfold withLines
  rw [hwhole]
  split
  · rename_i hempty
    exact hempty.2.1.symm
  · rfl

/-- What is behind the list stays, except for the line of a buffer that would have none. -/
theorem withLines_back (lines : List String) : (v.withLines lines).back = v.back ∨
    v.whole = false ∧ v.front = [] ∧ v.back = [] ∧ (v.withLines lines).back = [""] := by
  unfold withLines
  split
  · rename_i hempty
    cases hwhole : v.whole with
    | true => exact .inl rfl
    | false => exact .inr ⟨rfl, hempty.1, hempty.2.2, rfl⟩
  · exact .inl rfl

/-- The buffer has the new lines between those that stay. -/
theorem withLines_all (lines : List String) : (v.withLines lines).all =
    if (v.front ++ lines ++ v.back).isEmpty then [""] else v.front ++ lines ++ v.back := by
  by_cases hempty : v.front = [] ∧ lines = [] ∧ v.back = []
  · obtain ⟨hfront, rfl, hback⟩ := hempty
    have hall : (v.front ++ [] ++ v.back).isEmpty = true := by
      rw [hfront, hback]
      rfl
    unfold withLines
    rw [if_pos ⟨hfront, rfl, hback⟩, if_pos hall]
    cases hwhole : v.whole <;> simp [all, hfront, hback]
  · unfold withLines
    rw [if_neg hempty, if_neg]
    · rfl
    · intro h
      simp only [List.isEmpty_iff, List.append_eq_nil_iff] at h
      exact hempty ⟨h.1.1, h.1.2, h.2⟩

/-- Replacing a part of the list replaces the lines of the buffer at its place. -/
theorem replace_all (hlo : lo ≤ hi) (hhi : hi ≤ v.lines.length) (new : List String) :
    (v.replace lo hi new).all =
      Change.spliced v.all (v.front.length + lo) (v.front.length + hi) new := by
  have htake : v.all.take (v.front.length + lo) = v.front ++ v.lines.take lo := by
    rw [all, List.append_assoc, List.take_length_add_append,
      List.take_append_of_le_length (Nat.le_trans hlo hhi)]
  have hdrop : v.all.drop (v.front.length + hi) = v.lines.drop hi ++ v.back := by
    rw [all, List.append_assoc, List.drop_length_add_append, List.drop_append_of_le_length hhi]
  unfold replace Change.spliced
  rw [withLines_all, htake, hdrop]
  simp only [List.append_assoc]

/-- An operation that succeeds leaves the list as it is, or replaces a part of it. -/
theorem apply_cases {q : Request} {g : Given} (h : v.apply q = .ok (g, v')) :
    v' = v ∨ ∃ lo hi new, lo ≤ hi ∧ hi ≤ v.lines.length ∧ v' = v.replace lo hi new := by
  have hpart {key : Key} {f : Nat × Nat → Except ExceptionKind (Given × LineList)}
      (h : (key.part v.lines.length >>= f) = .ok (g, v')) :
      ∃ lo hi, lo ≤ hi ∧ hi ≤ v.lines.length ∧ f (lo, hi) = .ok (g, v') := by
    cases hkey : key.part v.lines.length with
    | error kind =>
      rw [hkey] at h
      cases h
    | ok part =>
      rw [hkey] at h
      exact ⟨part.1, part.2, (Key.part_le hkey).1, (Key.part_le hkey).2, h⟩
  cases q with
  | length =>
    cases h
    exact .inl rfl
  | get key =>
    left
    cases key with
    | «at» i =>
      rw [apply] at h
      cases hn : position v.lines.length i with
      | error kind =>
        rw [hn] at h
        cases h
      | ok n =>
        rw [hn] at h
        cases h
        rfl
    | between start stop =>
      cases h
      rfl
  | set key new =>
    rw [apply] at h
    obtain ⟨lo, hi, hlo, hhi, h⟩ := hpart h
    cases new with
    | error kind => cases h
    | ok new =>
      cases h
      exact .inr ⟨lo, hi, new, hlo, hhi, rfl⟩
  | delete key =>
    rw [apply] at h
    obtain ⟨lo, hi, hlo, hhi, h⟩ := hpart h
    cases h
    exact .inr ⟨lo, hi, [], hlo, hhi, rfl⟩
  | append new position? =>
    rw [apply] at h
    cases new with
    | error kind => cases h
    | ok new =>
      change (position?.getD (.ok v.lines.length) >>= _) = _ at h
      cases hi : position?.getD (.ok v.lines.length) with
      | error kind =>
        rw [hi] at h
        cases h
      | ok i =>
        rw [hi] at h
        change (if 0 ≤ i ∧ i ≤ v.lines.length then _ else _) = _ at h
        by_cases hin : 0 ≤ i ∧ i ≤ v.lines.length
        · rw [if_pos hin] at h
          cases h
          exact .inr ⟨i.toNat, i.toNat, new, Nat.le_refl _, by omega, rfl⟩
        · rw [if_neg hin] at h
          cases h

/-- What stays around a list: the lines in front of it, and those behind it up to the empty line of
a buffer that would have none. -/
structure Around (v v' : LineList) : Prop where
  whole : v'.whole = v.whole
  front : v'.front = v.front
  back : v'.back = v.back ∨ v.whole = false ∧ v.front = [] ∧ v.back = [] ∧ v'.back = [""]

theorem around_step (v : LineList) (q : Request) : v.Around (v.step q).2 := by
  have hsame : v.Around v := ⟨rfl, rfl, .inl rfl⟩
  unfold step
  cases h : v.apply q with
  | error kind => exact hsame
  | ok p =>
    rcases apply_cases h with heq | ⟨lo, hi, new, -, -, heq⟩
    · change v.Around p.2
      rwa [heq]
    · change v.Around p.2
      rw [heq]
      exact ⟨withLines_whole _, withLines_front _, withLines_back _⟩

theorem around_run (v : LineList) (qs : List Request) : v.Around (v.run qs).2 := by
  induction qs generalizing v with
  | nil => exact ⟨rfl, rfl, .inl rfl⟩
  | cons q rest ih =>
    obtain ⟨hwhole, hfront, hback⟩ := around_step v q
    obtain ⟨hwhole', hfront', hback'⟩ := ih (v.step q).2
    rw [run]
    refine ⟨hwhole'.trans hwhole, hfront'.trans hfront, ?_⟩
    rcases hback' with hback' | ⟨hrange, hempty, hnone, hlast⟩
    · rcases hback with hback | ⟨hrange, hempty, hnone, hlast⟩
      · exact .inl (hback'.trans hback)
      · exact .inr ⟨hrange, hempty, hnone, hback'.trans hlast⟩
    · rcases hback with hback | ⟨-, -, -, hlast'⟩
      · exact .inr ⟨hwhole ▸ hrange, hfront ▸ hempty, hback ▸ hnone, hlast⟩
      · rw [hlast'] at hnone
        cases hnone

end LineList

end ScriptBridge
