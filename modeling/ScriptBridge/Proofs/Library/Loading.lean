import Mathlib.Data.List.Induction
import ScriptBridge.Library.Loader
import ScriptBridge.Proofs.Computation

/-!
# Loading interpreter libraries

A load ends in one of six ways, which depend on what is bound and on what the dynamic loader knows.
A library is bound only once all that is looked up in it was found. Whatever was loaded and unloaded
before, what is bound is bound as a whole, and a load that fails binds and forgets nothing.
-/

namespace ScriptBridge.Library

open ScriptBridge.Computation

/-- What every interpreter library has, in the order in which it is looked up. There may be several
names for it, the last of which is the one in messages. -/
def requirements : List (List String) :=
  (functionSymbols ++ dataSymbols).map ([·]) ++ [encoderSymbols]

/-- A library has a symbol under one of its names. -/
def Loader.Meets (l : Loader) (library : String) (names : List String) : Prop :=
  ∃ name ∈ names, l.hasSymbol library name = true

/-- The first requirement that a library does not meet has this name. -/
def Loader.FirstMissing (l : Loader) (library symbol : String) : Prop :=
  ∃ before names after, requirements = before ++ names :: after ∧
    (∀ met ∈ before, l.Meets library met) ∧ ¬l.Meets library names ∧
    names.getLast? = some symbol

/-- A library opens, and all that is looked up in it is found. -/
structure Loader.Resolves (l : Loader) (b : Binding) : Prop where
  opens : l.failure? b.library = none
  meets : ∀ names ∈ requirements, l.Meets b.library names
  encoder_mem : b.encoder ∈ encoderSymbols
  encoder_found : l.hasSymbol b.library b.encoder = true

/-- A sibling that got ahead of a library. -/
def Loader.Ahead (l : Loader) (library : String) (siblings : List String) (other : String) : Prop :=
  other ∈ siblings ∧ other ≠ library ∧ l.isResident other = true

/-- The process after it has tried to open a library. -/
def Process.opening (p : Process) (library : String) : Process :=
  { p with opened := p.opened ++ [library] }

/-- The ways in which a load ends. -/
inductive Loads (l : Loader) (library : String) (siblings : List String) (p : Process) :
    EStateM.Result LinkError Process Binding → Prop
  | again {b : Binding} (hbound : p.bound = some b) (hname : b.library = library) :
    Loads l library siblings p (.ok b p)
  | bound {b : Binding} (hbound : p.bound = some b) (hname : b.library ≠ library) :
    Loads l library siblings p (.error (.incompatibleSibling library b.library) p)
  | sibling {other : String} (hfree : p.bound = none) (hother : l.Ahead library siblings other) :
    Loads l library siblings p (.error (.incompatibleSibling library other) p)
  | closed {reason : String} (hfree : p.bound = none)
      (halone : ∀ other, ¬l.Ahead library siblings other)
      (hfails : l.failure? library = some reason) :
    Loads l library siblings p (.error (.libraryNotFound library reason) (p.opening library))
  | missing {symbol : String} (hfree : p.bound = none)
      (halone : ∀ other, ¬l.Ahead library siblings other) (hopens : l.failure? library = none)
      (hmissing : l.FirstMissing library symbol) :
    Loads l library siblings p (.error (.missingSymbol library symbol) (p.opening library))
  | fresh {b : Binding} (hfree : p.bound = none) (halone : ∀ other, ¬l.Ahead library siblings other)
      (hname : b.library = library) (hresolves : l.Resolves b) :
    Loads l library siblings p (.ok b { p.opening library with bound := some b })

variable {l : Loader} {library : String} {siblings : List String} {p : Process}

/-! ### Looking up -/

theorem meets_singleton {name : String} :
    l.Meets library [name] ↔ l.hasSymbol library name = true := by
  simp [Loader.Meets]

/-- Looking up finds all that is required, or names the first thing that is missing. -/
theorem lookUp_ends (l : Loader) (library : String) (hopens : l.failure? library = none) :
    match l.lookUp library with
    | .ok b => b.library = library ∧ l.Resolves b
    | .error e => ∃ symbol, e = .missingSymbol library symbol ∧ l.FirstMissing library symbol := by
  unfold Loader.lookUp
  cases hfind : (functionSymbols ++ dataSymbols).find? (!l.hasSymbol library ·) with
  | some symbol =>
    obtain ⟨hnot, before, after, hsplit, hbefore⟩ := List.find?_eq_some_iff_append.mp hfind
    refine ⟨symbol, rfl, before.map ([·]), [symbol], after.map ([·]) ++ [encoderSymbols],
      ?_, ?_, ?_, rfl⟩
    · simp [requirements, hsplit]
    · intro met hmet
      obtain ⟨name, hname, rfl⟩ := List.mem_map.mp hmet
      exact meets_singleton.mpr (by simpa using hbefore name hname)
    · rw [meets_singleton]
      simpa using hnot
  | none =>
    have hfound : ∀ met ∈ (functionSymbols ++ dataSymbols).map ([·]), l.Meets library met := by
      intro met hmet
      obtain ⟨name, hname, rfl⟩ := List.mem_map.mp hmet
      exact meets_singleton.mpr (by simpa using List.find?_eq_none.mp hfind name hname)
    dsimp only
    cases hencoder : encoderSymbols.find? (l.hasSymbol library) with
    | none =>
      refine ⟨_, rfl, _, encoderSymbols, [], rfl, hfound, ?_, rfl⟩
      rintro ⟨name, hname, hsymbol⟩
      exact List.find?_eq_none.mp hencoder name hname hsymbol
    | some encoder =>
      have hmem := List.mem_of_find?_eq_some hencoder
      have hsymbol : l.hasSymbol library encoder = true := List.find?_some hencoder
      refine ⟨rfl, hopens, fun names hnames => ?_, hmem, hsymbol⟩
      rcases List.mem_append.mp hnames with hnames | hnames
      · exact hfound names hnames
      · rw [List.mem_singleton.mp hnames]
        exact ⟨encoder, hmem, hsymbol⟩

/-! ### One load -/

/-- Every load ends in one of the ways. -/
theorem load_loads (l : Loader) (library : String) (siblings : List String) (p : Process) :
    Loads l library siblings p (l.load library siblings p) := by
  unfold Loader.load
  rw [bind_apply, get_apply]
  dsimp only
  cases hbound : p.bound with
  | some b =>
    dsimp only
    by_cases hname : b.library = library
    · rw [if_pos hname]
      exact .again hbound hname
    · rw [if_neg hname]
      exact .bound hbound hname
  | none =>
    dsimp only
    cases hfind : siblings.find? fun s => s ≠ library && l.isResident s with
    | some other =>
      have hother := List.find?_some hfind
      exact .sibling hbound ⟨List.mem_of_find?_eq_some hfind, by simpa using hother⟩
    | none =>
      have halone : ∀ other, ¬l.Ahead library siblings other := by
        rintro other ⟨hmem, hne, hresident⟩
        have hnot := List.find?_eq_none.mp hfind other hmem
        simp [hne, hresident] at hnot
      dsimp only
      rw [bind_apply, modify_apply]
      dsimp only
      cases hfails : l.failure? library with
      | some reason => exact .closed hbound halone hfails
      | none =>
        have hends := lookUp_ends l library hfails
        dsimp only
        generalize l.lookUp library = found at hends ⊢
        cases found with
        | ok b => exact .fresh hbound halone hends.1 hends.2
        | error e =>
          obtain ⟨symbol, rfl, hmissing⟩ := hends
          exact .missing hbound halone hfails hmissing

/-- A load that fails leaves what is bound as it was. -/
theorem Loads.bound_eq_of_error {e : LinkError} {p' : Process}
    (h : Loads l library siblings p (.error e p')) : p'.bound = p.bound := by
  cases h <;> rfl

/-- While a library is bound, it is what loading it again comes to, and no other one is loaded. -/
theorem Loads.eq_of_bound {outcome : EStateM.Result LinkError Process Binding} {b : Binding}
    (h : Loads l library siblings p outcome) (hb : p.bound = some b) :
    outcome = if b.library = library then .ok b p
      else .error (.incompatibleSibling library b.library) p := by
  cases h with
  | again hbound hname =>
    obtain rfl := Option.some.inj (hb.symm.trans hbound)
    rw [if_pos hname]
  | bound hbound hname =>
    obtain rfl := Option.some.inj (hb.symm.trans hbound)
    rw [if_neg hname]
  | sibling hfree | closed hfree | missing hfree | fresh hfree => cases hb.symm.trans hfree

/-- A sibling that got ahead keeps a library from being opened. -/
theorem Loads.of_ahead {outcome : EStateM.Result LinkError Process Binding} {other : String}
    (h : Loads l library siblings p outcome) (hother : l.Ahead library siblings other) :
    (final outcome).opened = p.opened ∧ (p.bound = none → ∃ first, l.Ahead library siblings first ∧
      outcome = .error (.incompatibleSibling library first) p) := by
  cases h with
  | again hbound | bound hbound => exact ⟨rfl, fun hfree => nomatch hfree.symm.trans hbound⟩
  | sibling hfree hfirst => exact ⟨rfl, fun _ => ⟨_, hfirst, rfl⟩⟩
  | closed _ halone | missing _ halone | fresh _ halone => exact absurd hother (halone other)

/-- A library that opens and has all that is required is bound, if nothing is bound and no sibling
got ahead. -/
theorem Loads.of_meets {outcome : EStateM.Result LinkError Process Binding}
    (h : Loads l library siblings p outcome) (hfree : p.bound = none)
    (halone : ∀ other, ¬l.Ahead library siblings other) (hopens : l.failure? library = none)
    (hmeets : ∀ names ∈ requirements, l.Meets library names) :
    ∃ b, b.library = library ∧ l.Resolves b ∧
      outcome = .ok b { p.opening library with bound := some b } := by
  cases h with
  | again hbound | bound hbound => cases hfree.symm.trans hbound
  | sibling _ hother => exact absurd hother (halone _)
  | closed _ _ hfails => cases hopens.symm.trans hfails
  | missing _ _ _ hmissing =>
    obtain ⟨before, names, after, hsplit, -, hnot, -⟩ := hmissing
    exact absurd (hmeets names (hsplit ▸ List.mem_append_right _ List.mem_cons_self)) hnot
  | fresh _ _ hname hresolves => exact ⟨_, hname, hresolves, rfl⟩

/-! ### Loads and unloads, one after another -/

/-- A call that a process makes. The dynamic loader may know something else each time. -/
inductive Call where
  | load (l : Loader) (library : String) (siblings : List String)
  | unload

namespace Process

/-- The process after a call. -/
def after (p : Process) : Call → Process
  | .load l library siblings => final (l.load library siblings p)
  | .unload => p.unload

/-- A process that has made calls. -/
def run (calls : List Call) : Process := calls.foldl after {}

theorem run_append (calls : List Call) (call : Call) :
    run (calls ++ [call]) = (run calls).after call := by
  unfold run
  rw [List.foldl_append]
  rfl

/-- What is bound after a call was bound before it, or is what it has loaded. -/
theorem after_bound {call : Call} {b : Binding} (hb : (p.after call).bound = some b) :
    p.bound = some b ∨ ∃ l siblings, call = .load l b.library siblings ∧ l.Resolves b := by
  cases call with
  | unload => cases hb
  | load l library siblings =>
    have hloads := load_loads l library siblings p
    unfold after at hb
    dsimp only at hb
    generalize l.load library siblings p = outcome at hb hloads
    cases hloads with
    | fresh _ _ hname hresolves =>
      obtain rfl := Option.some.inj hb
      exact .inr ⟨l, siblings, by rw [hname], hresolves⟩
    | again | bound | sibling | closed | missing => exact .inl hb

/-- What is bound was loaded by one of the calls, which has found all that is required. -/
theorem run_bound {calls : List Call} {b : Binding} (hb : (run calls).bound = some b) :
    ∃ l siblings, Call.load l b.library siblings ∈ calls ∧ l.Resolves b := by
  induction calls using List.reverseRecOn with
  | nil => cases hb
  | append_singleton calls call ih =>
    rw [run_append] at hb
    rcases after_bound hb with hb | ⟨l, siblings, rfl, hresolves⟩
    · obtain ⟨l, siblings, hmem, hresolves⟩ := ih hb
      exact ⟨l, siblings, List.mem_append_left _ hmem, hresolves⟩
    · exact ⟨l, siblings, List.mem_append_right _ List.mem_cons_self, hresolves⟩

end Process

/-- After any loads and unloads, what is bound is a library in which all that is required was found.
The next load ends in one of the ways. One that fails leaves what is bound as it was. The library
that is bound is loaded again without being opened, and no other one is loaded beside it. A sibling
that got ahead keeps a library from being opened, and nothing keeps one that meets all requirements
from being bound. -/
theorem load_all_or_nothing (calls : List Call) (l : Loader) (library : String)
    (siblings : List String) :
    let p := Process.run calls
    let outcome := l.load library siblings p
    (∀ b, p.bound = some b →
      ∃ l' siblings', Call.load l' b.library siblings' ∈ calls ∧ l'.Resolves b) ∧
    Loads l library siblings p outcome ∧
    (∀ e p', outcome = .error e p' → p'.bound = p.bound) ∧
    (∀ b, p.bound = some b → outcome = if b.library = library then .ok b p
      else .error (.incompatibleSibling library b.library) p) ∧
    (∀ other, l.Ahead library siblings other → (final outcome).opened = p.opened ∧
      (p.bound = none → ∃ first, l.Ahead library siblings first ∧
        outcome = .error (.incompatibleSibling library first) p)) ∧
    (p.bound = none → (∀ other, ¬l.Ahead library siblings other) → l.failure? library = none →
      (∀ names ∈ requirements, l.Meets library names) → ∃ b, b.library = library ∧ l.Resolves b ∧
        outcome = .ok b { p.opening library with bound := some b }) := by
  intro p outcome
  have hloads : Loads l library siblings p outcome := load_loads l library siblings p
  refine ⟨fun b hb => Process.run_bound hb, hloads, fun e p' herror => ?_,
    fun b hb => hloads.eq_of_bound hb, fun other hother => hloads.of_ahead hother,
    fun hfree halone hopens hmeets => hloads.of_meets hfree halone hopens hmeets⟩
  rw [herror] at hloads
  exact hloads.bound_eq_of_error

/-- A library that cannot be opened is not bound. The program itself, with an interpreter linked
into it, is bound then, and it is bound once. -/
theorem load_all_or_nothing_linked :
    let b : Binding := { library := "", encoder := plainEncoder, hasMappingItems := true }
    let calls : List Call := [.load .linked "libpython.so" [], .load .linked "" []]
    (Process.run calls).bound = some b ∧
      Loader.linked.load "" [] (Process.run calls) = .ok b (Process.run calls) := by
  intro b calls
  have hbound : (Process.run calls).bound = some b := by decide +kernel
  obtain ⟨-, -, -, hagain, -⟩ := load_all_or_nothing calls .linked "" []
  refine ⟨hbound, ?_⟩
  rw [hagain b hbound]
  rfl

end ScriptBridge.Library
