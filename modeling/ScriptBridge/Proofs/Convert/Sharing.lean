import ScriptBridge.Proofs.Convert.Strict
import ScriptBridge.Proofs.Session.Course

/-!
# Sharing

A strict conversion that succeeds keeps the shape of what it converts: the positions of the result
are those of the object, and two of them hold one list or dictionary exactly when the object holds
one container there.
-/

namespace ScriptBridge

open Foreign (ObjRef Object Objects Contents)
open Host (Value Store)
open Relation (ReflTransGen TransGen)

namespace Convert

variable {b : Bridge} {s : Store} {done : Done} {r q : ObjRef} {v w : Value}

/-! ### Success -/

/-- What a container holds was converted before a list or a dictionary was made of it. -/
theorem Filled.of_holds (h : Filled b s done r v) (hedge : b.objects.Holds r q) :
    ∃ w, Stands b done q w := by
  obtain ⟨contents, hcontents, hq⟩ := hedge
  cases h with
  | list hcontents' _ _ hstands =>
    rw [hcontents'] at hcontents
    cases hcontents
    obtain ⟨w, -, hw⟩ := exists_of_mem hstands hq
    exact ⟨w, hw⟩
  | dict hcontents' _ _ hstands =>
    rw [hcontents'] at hcontents
    cases hcontents
    obtain ⟨p, hp, rfl⟩ := List.mem_map.mp hq
    obtain ⟨e, -, he⟩ := exists_of_mem hstands hp
    exact ⟨e.2, he.value⟩

theorem not_holds_of_leaf (hcontents : (b.objects.get r).contents? = none) :
    ¬b.objects.Holds r q := by
  rintro ⟨contents, hsome, -⟩
  rw [hcontents] at hsome
  cases hsome

/-- What an object holds is converted with it. -/
theorem Stands.of_holds (hfinished : Finished b s done) (h : Stands b done r v)
    (hedge : b.objects.Holds r q) : ∃ w, Stands b done q w := by
  cases h with
  | leaf hnone _ => exact absurd hedge (not_holds_of_leaf hnone)
  | container _ hdone => exact (hfinished.filled hdone).of_holds hedge

theorem Stands.of_reaches (hfinished : Finished b s done) (h : Stands b done r v)
    (hreach : ReflTransGen b.objects.Holds r q) : ∃ w, Stands b done q w := by
  induction hreach with
  | refl => exact ⟨v, h⟩
  | tail _ hedge ih =>
    obtain ⟨w, hw⟩ := ih
    exact hw.of_holds hfinished hedge

/-- Nothing that is converted is at fault. -/
theorem Stands.not_fault (hfinished : Finished b s done) (h : Stands b done r v)
    (e : ConvertError) : ¬Fault b r e := by
  intro hfault
  cases h with
  | leaf hnone hvalue =>
    cases hfault with
    | leaf _ hnovalue =>
      rw [hvalue] at hnovalue
      cases hnovalue
    | key hcontents | emptyKey hcontents =>
      rw [hnone] at hcontents
      cases hcontents
  | container hsome hdone =>
    have hkey {ps : List (ObjRef × ObjRef)} {p : ObjRef × ObjRef}
        (hcontents : (b.objects.get r).contents? = some (.entries ps)) (hp : p ∈ ps) :
        ∃ key, (b.objects.get p.1).keyText? = some key ∧ key ≠ "" := by
      cases hfinished.filled hdone with
      | list hcontents' =>
        rw [hcontents'] at hcontents
        cases hcontents
      | dict hcontents' _ _ hstands =>
        rw [hcontents'] at hcontents
        cases hcontents
        obtain ⟨e, -, he⟩ := exists_of_mem hstands hp
        exact ⟨e.1, he.key, he.nonempty⟩
    cases hfault with
    | leaf hnone =>
      rw [hnone] at hsome
      cases hsome
    | key hcontents hp htext =>
      obtain ⟨key, hkey, -⟩ := hkey hcontents hp
      rw [htext] at hkey
      cases hkey
    | emptyKey hcontents hp htext =>
      obtain ⟨key, hkey, hne⟩ := hkey hcontents hp
      rw [htext] at hkey
      exact hne (Option.some.inj hkey).symm

/-- A container holds only what was done before it. -/
theorem Finished.acc (h : Finished b s done) : ∀ r v, (r, v) ∈ done →
    Acc (fun x y => b.objects.Holds y x) r := by
  induction h with
  | nil => nofun
  | @cons r v done hrest hmade hobject ih =>
    intro q w hmem
    rcases List.mem_cons.mp hmem with heq | hmem
    · cases heq
      refine .intro r fun p hedge => ?_
      obtain ⟨u, hu⟩ := hmade.filled.of_holds hedge
      cases hu with
      | leaf hnone _ => exact .intro p fun _ hheld => absurd hheld (not_holds_of_leaf hnone)
      | container _ hdone => exact ih p u hdone
    · exact ih q w hmem

/-- What is converted leads to no cycle. -/
theorem Stands.not_leadsToCycle (hfinished : Finished b s done) (h : Stands b done r v) :
    ¬LeadsToCycle b.objects.Holds r := by
  refine not_leadsToCycle_of_acc ?_
  cases h with
  | leaf hnone _ => exact .intro r fun _ hheld => absurd hheld (not_holds_of_leaf hnone)
  | container _ hdone => exact hfinished.acc r v hdone

/-- Nothing is to blame for a conversion that succeeds. -/
theorem Stands.not_blame (hfinished : Finished b s done) (h : Stands b done r v)
    (e : ConvertError) : ¬Blame b r e := by
  intro hblame
  cases hblame with
  | cycle hcycle => exact h.not_leadsToCycle hfinished hcycle
  | fault hreach hfault =>
    obtain ⟨w, hw⟩ := h.of_reaches hfinished hreach
    exact hw.not_fault hfinished e hfault

/-! ### Positions -/

/-- A position in a list or under a key of a dictionary. -/
inductive Step where
  | item (i : Nat)
  | key (k : String)

/-- The value at a position of a value. -/
def valueAt? (s : Store) : Value → Step → Option Value
  | .list l, .item i => (s.list l).items[i]?
  | .dict d, .key k => Host.Entries.get? k (s.dict d).entries
  | _, _ => none

/-- The value of the last entry with a key. -/
def lastValue? (o : Objects) (k : String) (ps : List (ObjRef × ObjRef)) : Option ObjRef :=
  ps.foldl (fun found p => if (o.get p.1).keyText? = some k then some p.2 else found) none

/-- What is at a position of an object: an object, or a value of the editor behind a proxy. -/
inductive Spot where
  | object (r : ObjRef)
  | value (v : Value)

/-- What is at a position next. -/
def Spot.at? (b : Bridge) : Spot → Step → Option Spot
  | .value v, p => (valueAt? b.editor.store v p).map .value
  | .object r, p =>
    match (b.objects.get r).shared? with
    | some v => (valueAt? b.editor.store v p).map .value
    | none =>
      match (b.objects.get r).contents?, p with
      | some (.items rs), .item i => rs[i]?.map .object
      | some (.entries ps), .key k => (lastValue? b.objects k ps).map .object
      | _, _ => none

/-- What makes something a container: an object, or a container of the editor. -/
inductive Identity where
  | object (r : ObjRef)
  | host (c : Container)

/-- The container that something is, or that it stands for. -/
def Spot.container? (b : Bridge) : Spot → Option Identity
  | .value v => (Container.ofValue? v).map .host
  | .object r =>
    match (b.objects.get r).shared? with
    | some v => (Container.ofValue? v).map .host
    | none => if (b.objects.get r).contents?.isSome then some (.object r) else none

/-- The container at the end of a path through an object. -/
def Spot.containerAt? (b : Bridge) : Spot → List Step → Option Identity
  | spot, [] => spot.container? b
  | spot, p :: rest => (spot.at? b p).bind fun next => next.containerAt? b rest

/-- The list or dictionary at the end of a path through a value. -/
def containerAt? (s : Store) : Value → List Step → Option Container
  | v, [] => Container.ofValue? v
  | v, p :: rest => (valueAt? s v p).bind fun next => containerAt? s next rest

/-! ### The same positions -/

/-- A value of the result stands at the position of a spot. -/
inductive Matches (b : Bridge) (done : Done) : Spot → Value → Prop where
  | object {r : ObjRef} {v : Value} (h : Stands b done r v) : Matches b done (.object r) v
  | value (v : Value) : Matches b done (.value v) v

/-- A container of the result is what was made of an object, or was there before. -/
inductive Corresponds (b : Bridge) (done : Done) : Identity → Container → Prop where
  | made {r : ObjRef} {v : Value} {c : Container} (hdone : (r, v) ∈ done)
      (hc : Container.ofValue? v = some c) : Corresponds b done (.object r) c
  | kept {c : Container} (hexists : c.Exists b.editor.store) : Corresponds b done (.host c) c

/-- One object corresponds to one container, and one container to one object. -/
theorem Corresponds.eq_iff (hfinished : Finished b s done) {i j : Identity}
    {c d : Container} (hc : Corresponds b done i c) (hd : Corresponds b done j d) :
    c = d ↔ i = j := by
  have hvalue {v w : Value} {c : Container} (hv : Container.ofValue? v = some c)
      (hw : Container.ofValue? w = some c) : v = w := by
    cases v <;> cases hv <;> cases w <;> cases hw <;> rfl
  cases hc with
  | made hdone hc =>
    cases hd with
    | made hdone' hd =>
      constructor
      · rintro rfl
        cases hvalue hc hd
        rw [hfinished.object_unique hdone hdone']
      · intro heq
        cases heq
        rw [hfinished.value_unique hdone hdone', hd] at hc
        exact (Option.some.inj hc).symm
    | kept hexists =>
      refine ⟨?_, nofun⟩
      rintro rfl
      exact absurd hexists (hfinished.new hdone hc)
  | kept hexists =>
    cases hd with
    | made hdone hd =>
      refine ⟨?_, nofun⟩
      rintro rfl
      exact absurd hexists (hfinished.new hdone hd)
    | kept hexists' =>
      exact ⟨fun h => congrArg Identity.host h, fun h => Identity.host.inj h⟩

/-- What is behind a proxy is what the proxy stands for. -/
theorem leafValue?_shared (h : b.leafValue? r = some v) :
    match (b.objects.get r).shared? with
    | some u => v = u
    | none => Container.ofValue? v = none := by
  unfold Bridge.leafValue? at h
  have htext {x : Option String} (h : x.map Value.str = some v) : Container.ofValue? v = none := by
    obtain ⟨t, -, rfl⟩ := Option.map_eq_some_iff.mp h
    rfl
  cases hx : b.objects.get r with
  | proxy cls t =>
    rw [hx] at h
    cases t with
    | list l | dict d => exact (Option.some.inj h).symm
    | function name bound | buffer id | window id | tabPage id =>
      cases h
      rfl
    | invalid => cases h
    | _ => exact htext h
  | int n | slice start stop step =>
    rw [hx] at h
    dsimp only at h
    split at h
    · first | cases h; rfl | cases h
    · first | exact htext h | cases h
  | null | bool x | float x | bytes bs | str t | halved places =>
    rw [hx] at h
    cases h
    rfl
  | counting n | unsized | triples items | mirror cls =>
    rw [hx] at h
    cases h
  | _ =>
    rw [hx] at h
    exact htext h

theorem shared?_of_contents (h : (b.objects.get r).contents?.isSome) :
    (b.objects.get r).shared? = none := by
  generalize b.objects.get r = x at h ⊢
  cases x <;> first | rfl | cases h

theorem Matches.container {spot : Spot} (hfinished : Finished b s done)
    (hmatches : Matches b done spot v)
    (hexists : ∀ c, spot.container? b = some (.host c) → c.Exists b.editor.store) :
    Option.Rel (Corresponds b done) (spot.container? b) (Container.ofValue? v) := by
  have hkept {u : Value} (hu : ∀ c, (Container.ofValue? u).map Identity.host = some (.host c) →
      c.Exists b.editor.store) : Option.Rel (Corresponds b done)
        ((Container.ofValue? u).map Identity.host) (Container.ofValue? u) := by
    cases hc : Container.ofValue? u with
    | none => exact .none
    | some c => exact .some (.kept (hu c (by rw [hc]; rfl)))
  cases hmatches with
  | value => exact hkept hexists
  | @object r _ hstands =>
    unfold Spot.container? at hexists ⊢
    cases hstands with
    | container hcontents hdone =>
      obtain ⟨c, hc, -⟩ := (hfinished.filled hdone).exists_container
      dsimp only
      rw [shared?_of_contents hcontents, hc]
      dsimp only
      rw [if_pos hcontents]
      exact .some (.made hdone hc)
    | leaf hnone hvalue =>
      have hshared := leafValue?_shared hvalue
      dsimp only at hexists ⊢
      cases hx : (b.objects.get r).shared? with
      | some u =>
        rw [hx] at hshared hexists
        dsimp only at hshared
        rw [hshared]
        exact hkept hexists
      | none =>
        rw [hx] at hshared
        dsimp only at hshared ⊢
        rw [hshared, hnone]
        exact .none

theorem getElem?_rel {α β : Type} {R : α → β → Prop} {xs : List α} {ys : List β}
    (h : List.Forall₂ R xs ys) (i : Nat) : Option.Rel R xs[i]? ys[i]? := by
  induction h generalizing i with
  | nil => exact .none
  | cons hxy _ ih =>
    cases i with
    | zero => exact .some hxy
    | succ i => exact ih i

/-- The last entry with a key is the one that stays. -/
theorem lastValue_rel {ps : List (ObjRef × ObjRef)} {es : List (String × Value)}
    (h : List.Forall₂ (EntryStands b done) ps es) (k : String) :
    Option.Rel (Stands b done) (lastValue? b.objects k ps)
      (Host.Entries.get? k (Host.Entries.ofList es)) := by
  have hfold : ∀ (found : Option ObjRef) (entries : List (String × Value)),
      Option.Rel (Stands b done) found (Host.Entries.get? k entries) →
      Option.Rel (Stands b done)
        (ps.foldl (fun found p => if (b.objects.get p.1).keyText? = some k then some p.2 else found)
          found)
        (Host.Entries.get? k (es.foldl (fun es e => Host.Entries.insert e.1 e.2 es) entries)) := by
    induction h with
    | nil => exact fun _ _ h => h
    | @cons p e ps es hp _ ih =>
      intro found entries hfound
      refine ih _ _ ?_
      dsimp only
      by_cases hk : e.1 = k
      · rw [if_pos (by rw [hp.key, hk]), hk, Host.Entries.get?_insert_self]
        exact .some hp.value
      · have hne : ¬(b.objects.get p.1).keyText? = some k := by
          rw [hp.key]
          exact fun h => hk (Option.some.inj h)
        rw [if_neg hne, Host.Entries.get?_insert_of_ne (Ne.symm hk)]
        exact hfound
  exact hfold none [] .none

theorem valueAt?_of_grown (hgrown : b.editor.store.Grown s)
    (hexists : ∀ c, Container.ofValue? v = some c → c.Exists b.editor.store) (p : Step) :
    valueAt? s v p = valueAt? b.editor.store v p := by
  cases v with
  | list l =>
    have hlist := hgrown.list l (hexists (.list l) rfl)
    cases p with
    | item i => rw [valueAt?, valueAt?, hlist]
    | key k => rfl
  | dict d =>
    have hdict := hgrown.dict d (hexists (.dict d) rfl)
    cases p with
    | item i => rfl
    | key k => rw [valueAt?, valueAt?, hdict]
  | null | number n | float x | str t | func name bound => rfl

theorem valueAt?_of_not_container (h : Container.ofValue? v = none) (p : Step) :
    valueAt? s v p = none := by
  cases v with
  | list l | dict d => cases h
  | null | number n | float x | str t | func name bound => rfl

/-- One step further the same positions are there, and what is there matches. -/
theorem Matches.at {spot : Spot} (hgrown : b.editor.store.Grown s)
    (hfinished : Finished b s done) (hmatches : Matches b done spot v)
    (hexists : ∀ c, spot.container? b = some (.host c) → c.Exists b.editor.store) (p : Step) :
    Option.Rel (Matches b done) (spot.at? b p) (valueAt? s v p) := by
  have hkept {u : Value} (hu : ∀ c, (Container.ofValue? u).map Identity.host = some (.host c) →
      c.Exists b.editor.store) : Option.Rel (Matches b done)
        ((valueAt? b.editor.store u p).map .value) (valueAt? s u p) := by
    rw [valueAt?_of_grown hgrown fun c hc => hu c (by rw [hc]; rfl)]
    cases valueAt? b.editor.store u p with
    | none => exact .none
    | some w => exact .some (.value w)
  have hobject {x : Option ObjRef} {y : Option Value} (h : Option.Rel (Stands b done) x y) :
      Option.Rel (Matches b done) (x.map .object) y := by
    cases h with
    | none => exact .none
    | some h => exact .some (.object h)
  cases hmatches with
  | value => exact hkept hexists
  | @object r _ hstands =>
    unfold Spot.container? at hexists
    unfold Spot.at?
    cases hstands with
    | container hcontents hdone =>
      dsimp only
      rw [shared?_of_contents hcontents]
      cases hfinished.filled hdone with
      | list hcontents' _ hitems hrs =>
        rw [hcontents']
        cases p with
        | item i =>
          rw [valueAt?, hitems]
          exact hobject (getElem?_rel hrs i)
        | key k => exact .none
      | dict hcontents' _ hentries hps =>
        rw [hcontents']
        cases p with
        | item i => exact .none
        | key k =>
          rw [valueAt?, hentries]
          exact hobject (lastValue_rel hps k)
    | leaf hnone hvalue =>
      have hshared := leafValue?_shared hvalue
      dsimp only at hexists ⊢
      cases hx : (b.objects.get r).shared? with
      | some u =>
        rw [hx] at hshared hexists
        dsimp only at hshared
        rw [hshared]
        exact hkept hexists
      | none =>
        rw [hx] at hshared
        dsimp only at hshared ⊢
        rw [hnone, valueAt?_of_not_container hshared]
        exact .none

/-- At the end of each path there are corresponding containers, or none. -/
theorem Matches.containerAt {spot : Spot} (hgrown : b.editor.store.Grown s)
    (hfinished : Finished b s done) (hmatches : Matches b done spot v)
    (hexists : ∀ path c, spot.containerAt? b path = some (.host c) → c.Exists b.editor.store)
    (path : List Step) :
    Option.Rel (Corresponds b done) (spot.containerAt? b path) (containerAt? s v path) := by
  induction path generalizing spot v with
  | nil => exact hmatches.container hfinished (hexists [])
  | cons p rest ih =>
    have hnext := hmatches.at hgrown hfinished (hexists []) p
    have hthere (path : List Step) (c : Container)
        (hc : (spot.at? b p).bind (fun next => next.containerAt? b path) = some (.host c)) :
        c.Exists b.editor.store := hexists (p :: path) c hc
    rw [Spot.containerAt?, Convert.containerAt?]
    generalize spot.at? b p = x at hnext hthere
    generalize valueAt? s v p = y at hnext
    cases hnext with
    | none => exact .none
    | some hmatches' => exact ih hmatches' hthere

/-! ### Strict conversions of sound objects -/

/-- Every leaf that an object reaches can be converted, and every key has a text. -/
structure Convertible (b : Bridge) (r : ObjRef) : Prop where
  leaf : ∀ q, ReflTransGen b.objects.Holds r q → (b.objects.get q).contents? = none →
    (b.leafValue? q).isSome
  key : ∀ q, ReflTransGen b.objects.Holds r q →
    ∀ ps, (b.objects.get q).contents? = some (.entries ps) → ∀ p ∈ ps,
      ∃ k, (b.objects.get p.1).keyText? = some k ∧ k ≠ ""

/-- A result shares what an object shares: paths through both lead to the same containers of the
result exactly when they lead to the same containers of the object. -/
def SharesLike (b : Bridge) (r : ObjRef) (s : Store) (v : Value) : Prop :=
  ∀ p q : List Step,
    (∃ c, containerAt? s v p = some c ∧ containerAt? s v q = some c) ↔
      ∃ i, (Spot.object r).containerAt? b p = some i ∧ (Spot.object r).containerAt? b q = some i

theorem Stands.sharesLike (hgrown : b.editor.store.Grown s) (hfinished : Finished b s done)
    (h : Stands b done r v)
    (hexists : ∀ path c, (Spot.object r).containerAt? b path = some (.host c) →
      c.Exists b.editor.store) : SharesLike b r s v := by
  intro p q
  have hp := (Matches.object h).containerAt hgrown hfinished hexists p
  have hq := (Matches.object h).containerAt hgrown hfinished hexists q
  generalize (Spot.object r).containerAt? b p = i at hp
  generalize (Spot.object r).containerAt? b q = j at hq
  generalize containerAt? s v p = c at hp
  generalize containerAt? s v q = d at hq
  cases hp with
  | none =>
    constructor
    · rintro ⟨_, hc, -⟩
      cases hc
    · rintro ⟨_, hi, -⟩
      cases hi
  | @some i c hc =>
    cases hq with
    | none =>
      constructor
      · rintro ⟨_, -, hd⟩
        cases hd
      · rintro ⟨_, -, hj⟩
        cases hj
    | @some j d hd =>
      have heq := hc.eq_iff hfinished hd
      constructor
      · rintro ⟨e, he, he'⟩
        have hij : i = j := heq.mp ((Option.some.inj he).trans (Option.some.inj he').symm)
        exact ⟨i, rfl, congrArg some hij.symm⟩
      · rintro ⟨k, hk, hk'⟩
        have hcd : c = d := heq.mpr ((Option.some.inj hk).trans (Option.some.inj hk').symm)
        exact ⟨c, rfl, congrArg some hcd.symm⟩

/-- The strict conversion of an object whose leaves and keys can be converted fails exactly when
the object reaches a container that reaches itself, and as recursive. Otherwise it gives a value
that shares what the object shares. The containers of the editor behind proxies exist. -/
theorem toHost_shares (hkind : b.interpreter.kind = .scripted) (hconvertible : Convertible b r)
    (hexists : ∀ path c, (Spot.object r).containerAt? b path = some (.host c) →
      c.Exists b.editor.store) :
    ((∃ b', toHost r b = .error (.error .recursive) b') ↔ LeadsToCycle b.objects.Holds r) ∧
      (¬LeadsToCycle b.objects.Holds r →
        ∃ v b', toHost r b = .ok v b' ∧ SharesLike b r b'.editor.store v) := by
  have hends := toHost_ends hkind r
  have hnofault {q : ObjRef} {e : ConvertError} (hreach : ReflTransGen b.objects.Holds r q) :
      ¬Fault b q e := by
    rintro (⟨hcontents, hvalue⟩ | ⟨hcontents, hp, htext⟩ | ⟨hcontents, hp, htext⟩)
    · have hsome := hconvertible.leaf q hreach hcontents
      rw [hvalue] at hsome
      cases hsome
    · obtain ⟨k, hk, -⟩ := hconvertible.key q hreach _ hcontents _ hp
      rw [htext] at hk
      cases hk
    · obtain ⟨k, hk, hne⟩ := hconvertible.key q hreach _ hcontents _ hp
      rw [htext] at hk
      exact hne (Option.some.inj hk).symm
  generalize toHost r b = outcome at hends ⊢
  cases hends with
  | @ok v s done hgrown hfinished hstands =>
    have hnot := hstands.not_leadsToCycle hfinished
    refine ⟨⟨?_, fun h => absurd h hnot⟩, fun _ => ⟨v, _, rfl, ?_⟩⟩
    · rintro ⟨b', h⟩
      cases h
    · exact hstands.sharesLike hgrown hfinished hexists
  | error hblame =>
    cases hblame with
    | cycle hcycle => exact ⟨⟨fun _ => hcycle, fun _ => ⟨_, rfl⟩⟩, fun h => absurd hcycle h⟩
    | fault hreach hfault => exact absurd hfault (hnofault hreach)

/-- A list holds an empty list twice, and the proxy of a list of the editor. -/
theorem toHost_shares_twice :
    let objects : Objects := { cells := #[.list [⟨1⟩, ⟨1⟩, ⟨2⟩], .list [], .proxy .list (.list ⟨0⟩)] }
    let store : Store := { lists := #[{ items := [] }] }
    let b : Bridge := { Bridge.fresh with
      objects, editor := { Bridge.fresh.editor with store } }
    ∃ v b', toHost ⟨0⟩ b = .ok v b' ∧ SharesLike b ⟨0⟩ b'.editor.store v := by
  intro objects store b
  have hholds {r q : ObjRef} (h : b.objects.Holds r q) : r = ⟨0⟩ ∧ (q = ⟨1⟩ ∨ q = ⟨2⟩) := by
    obtain ⟨contents, hcontents, hq⟩ := h
    have hlt := Objects.lt_size_of_contents hcontents
    obtain ⟨i⟩ := r
    match i, hlt with
    | 0, _ =>
      cases hcontents
      have hq : q ∈ [(⟨1⟩ : ObjRef), ⟨1⟩, ⟨2⟩] := hq
      simp only [List.mem_cons, List.not_mem_nil, or_false] at hq
      exact ⟨rfl, by tauto⟩
    | 1, _ =>
      cases hcontents
      cases hq
    | 2, _ => cases hcontents
  have hreach {q : ObjRef} (h : ReflTransGen b.objects.Holds ⟨0⟩ q) :
      q = ⟨0⟩ ∨ q = ⟨1⟩ ∨ q = ⟨2⟩ := by
    cases h with
    | refl => exact .inl rfl
    | tail _ hedge => exact .inr (hholds hedge).2
  have hconvertible : Convertible b ⟨0⟩ := by
    refine ⟨fun q hq hcontents => ?_, fun q hq ps hcontents p hp => ?_⟩
    · rcases hreach hq with rfl | rfl | rfl
      · cases hcontents
      · cases hcontents
      · rfl
    · rcases hreach hq with rfl | rfl | rfl <;> cases hcontents
  have hexists (path : List Step) (c : Container)
      (h : (Spot.object ⟨0⟩).containerAt? b path = some (.host c)) : c.Exists b.editor.store := by
    match path, h with
    | .item 2 :: [], h =>
      cases h
      exact Nat.zero_lt_one
    | .item 0 :: .item _ :: _, h | .item 1 :: .item _ :: _, h | .item 2 :: .item _ :: _, h => cases h
  refine (toHost_shares rfl hconvertible hexists).2 (not_leadsToCycle_of_acc ?_)
  refine .intro _ fun q hedge => .intro q fun p hedge' => ?_
  obtain ⟨rfl, -⟩ := hholds hedge'
  rcases (hholds hedge).2 with heq | heq <;> cases heq

end Convert

end ScriptBridge
