import ScriptBridge.Proofs.Convert.Copying
import ScriptBridge.Proofs.Convert.Sharing
import ScriptBridge.Proofs.Convert.Skipping
import ScriptBridge.Proofs.Proxy.Access
import ScriptBridge.Script.Build

/-!
# Paths through shared containers

A binding shares the lists and dictionaries of the editor. What a script finds in one of them is bound
again, so the object at the end of a path stands for the value that the editor has there, and not for
a copy of it.
-/

namespace ScriptBridge

open Foreign (ObjRef Object)
open Host (Value Store)
open ScriptBridge.Computation

namespace Convert

variable {b : Bridge} {r : ObjRef} {v : Value}

/-- The object that a binding makes of a value. -/
def boundObject : Value → Object
  | .null => .null
  | .number n => .int n.toInt
  | .float x => .float x
  | .str s => .str s
  | .func name bound => functionProxy name bound
  | .list l => .proxy .list (.list l)
  | .dict d => .proxy .dictionary (.dict d)

/-- A value is always bound. -/
theorem toForeignBound_apply (v : Value) (b : Bridge) : toForeignBound v b =
    .ok (b.objects.alloc (boundObject v)).1 (b.withNew (boundObject v)) := by
  cases v <;> rfl

theorem leafValue?_bound (h : b.objects.get r = boundObject v) :
    (b.objects.get r).contents? = none ∧ b.leafValue? r = some v := by
  unfold Bridge.leafValue?
  rw [h]
  cases v with
  | number n =>
    refine ⟨rfl, ?_⟩
    dsimp only [boundObject]
    rw [if_pos (Text.fitsInt64_toInt n), Int64.ofInt_toInt]
  | _ => exact ⟨rfl, rfl⟩

/-- What is bound is converted to itself, and nothing is made for that. -/
theorem toHost_bound (hkind : b.interpreter.kind = .scripted) (h : b.objects.get r = boundObject v) :
    toHost r b = .ok v b := by
  obtain ⟨hnone, hvalue⟩ := leafValue?_bound h
  have hends := Converting.convertWithin_leaf (c := { skip := false }) hkind b.objects.cells.size hnone
    fun _ => List.not_mem_nil
  unfold Converting.LeafEnds at hends
  rw [hvalue] at hends
  dsimp only at hends
  rw [toHost_apply, hends]

end Convert

namespace Script

/-- What a script writes to go on from a container: an index, or a key that is not empty. -/
inductive Place where
  | index (n : Int64)
  | key (k : String) (nonempty : k ≠ "")

namespace Place

/-- The term of a place. -/
def term : Place → Term
  | index n => .int n.toInt
  | key k _ => .str k

/-- The object of a place. -/
def object : Place → Object
  | index n => .int n.toInt
  | key k _ => .str k

/-- The item at an index; a negative index counts from the end. -/
def item? (items : List Value) (i : Int) : Option Value :=
  let j := if i < 0 then i + items.length else i
  if 0 ≤ j then items[j.toNat]? else none

/-- The value at a place of a value. An index stands for its decimal text as a key of a dictionary. -/
def value? (s : Store) : Value → Place → Option Value
  | .list l, index n => item? (s.list l).items n.toInt
  | .dict d, index n => s.get? d (toString n.toInt)
  | .dict d, key k _ => s.get? d k
  | _, _ => none

end Place

/-- The value at the end of a path through a value. -/
def valueAlong? (s : Store) : Value → List Place → Option Value
  | v, [] => some v
  | v, p :: path => (p.value? s v).bind fun w => valueAlong? s w path

/-- What a script finds at a place of an object. -/
def goTo (r : ObjRef) (p : Place) : Act ForeignError ObjRef := do
  let k ← build p.term
  getItem r k

/-- What a script finds at the end of a path through an object. -/
def follow : ObjRef → List Place → Act ForeignError ObjRef
  | r, [] => pure r
  | r, p :: path => do follow (← goTo r p) path

variable {b b' : Bridge} {r : ObjRef} {v w : Value} {p : Place}

/-- An object is there, and it is what a binding makes of a value. -/
structure Bound (b : Bridge) (v : Value) (r : ObjRef) : Prop where
  lt_size : r.id < b.objects.cells.size
  get : b.objects.get r = Convert.boundObject v

theorem Bound.grown (h : Bound b v r) (hgrown : b.Grown b') : Bound b' v r :=
  ⟨Nat.lt_of_lt_of_le h.lt_size hgrown.objects.size_le, (hgrown.objects.get r h.lt_size).trans h.get⟩

theorem bound_new (v : Value) (b : Bridge) :
    Bound (b.withNew (Convert.boundObject v)) v (b.objects.alloc (Convert.boundObject v)).1 :=
  ⟨(Convert.new_apply _).1, (Convert.new_apply _).2⟩

theorem build_place (hkind : b.interpreter.kind = .scripted) (p : Place) :
    build p.term b = .ok (b.objects.alloc p.object).1 (b.withNew p.object) := by
  have hconstant (x : Object) : buildConstant x b = .ok (b.objects.alloc x).1 (b.withNew x) := by
    unfold buildConstant
    rw [bind_apply, get_apply]
    dsimp only
    rw [hkind]
    rfl
  cases p with
  | index n => exact hconstant _
  | key k _ => exact hconstant _

/-! ### One step -/

/-- How going to a place ends: with an object that stands for the value there, or with a failure if
there is none. -/
inductive Goes (b : Bridge) : Option Value → EStateM.Result (Stop ForeignError) Bridge ObjRef → Prop
  | found {w : Value} {q : ObjRef} {b' : Bridge} (hgrown : b.Grown b') (hbound : Bound b' w q) :
    Goes b (some w) (.ok q b')
  | missing {e : ForeignError} {b' : Bridge} (hgrown : b.Grown b') :
    Goes b none (.error (.error e) b')

theorem Goes.of_proxy {found : Option Value} {a : Act ProxyError ObjRef}
    (hfound : ∀ w, found = some w → a b = (Convert.toForeignBound w : Act ProxyError ObjRef) b)
    (hmissing : found = none → ∃ e, a b = .error (.error e) b) :
    Goes b found (a.mapError ProxyError.toForeign b) := by
  unfold Act.mapError
  cases found with
  | some w =>
    have hbind : (liftM (Convert.toForeignBound w) : Act ProxyError ObjRef) b =
        .ok (b.objects.alloc (Convert.boundObject w)).1 (b.withNew (Convert.boundObject w)) := by
      change Act.mapError ProxyError.convert (Convert.toForeignBound w) b = _
      rw [Act.mapError, Convert.toForeignBound_apply]
    rw [hfound w rfl, hbind]
    exact .found (b.grown_withNew _) (bound_new w b)
  | none =>
    obtain ⟨e, he⟩ := hmissing rfl
    rw [he]
    exact .missing .refl

/-- A position is inside of a list exactly if the list has an item there. -/
theorem position_spec (items : List Value) (i : Int) : match Place.item? items i with
    | some w => ∃ n : Nat, Proxy.position i items.length = .ok n ∧ items[n]? = some w
    | none => ∃ e, Proxy.position i items.length = .error e := by
  unfold Place.item? Proxy.position
  extract_lets j
  by_cases hinside : 0 ≤ j ∧ j < items.length
  · obtain ⟨hnonneg, hlt⟩ := hinside
    have hget : items[j.toNat]? = some items[j.toNat] := List.getElem?_eq_getElem (by omega)
    rw [if_pos hnonneg, hget]
    dsimp only
    rw [if_neg (by simp only [Bool.or_eq_true, decide_eq_true_eq]; omega)]
    exact ⟨j.toNat, rfl, hget⟩
  · have hnone : (if 0 ≤ j then items[j.toNat]? else none) = none := by
      split
      · exact List.getElem?_eq_none (by omega)
      · rfl
    rw [hnone]
    dsimp only
    rw [if_pos (by simp only [Bool.or_eq_true, decide_eq_true_eq]; omega)]
    exact ⟨_, rfl⟩

theorem shape_index (n : Int64) : (Object.int n.toInt).shape = .ok (.int n) := by
  rw [Object.shape, if_pos (Text.fitsInt64_toInt n), Int64.ofInt_toInt]

theorem toString_ne_empty (n : Int) : toString n ≠ "" := by
  cases n with
  | ofNat m => exact Nat.repr_ne_empty
  | negSucc m =>
    intro h
    have hlength := congrArg String.length h
    change ("-" ++ (m + 1).repr).length = 0 at hlength
    rw [String.length_append] at hlength
    have hsign : "-".length = 1 := by decide
    omega

/-- A key of a dictionary is looked up by its text. -/
theorem dictItem_goes {d : Host.DictRef} {k : ObjRef} {key : String}
    (hkey : (b.objects.get k).keyText? = some key) (hne : key ≠ "") :
    Goes b (b.editor.store.get? d key)
      ((Proxy.dictItem d k).mapError ProxyError.toForeign b) := by
  have hkeyOf : (liftM (Convert.keyOf k) : Act ProxyError String) b = .ok key b := by
    have h := Convert.keyOf_apply b k
    rw [hkey] at h
    dsimp only at h
    rw [if_neg (by simpa using hne)] at h
    change Act.mapError ProxyError.convert (Convert.keyOf k) b = _
    rw [Act.mapError, h]
  refine .of_proxy (fun w hw => ?_) fun hnone => ?_
  · unfold Proxy.dictItem
    rw [bind_apply, hkeyOf]
    dsimp only
    rw [bind_apply, get_apply]
    dsimp only
    rw [hw]
  · unfold Proxy.dictItem
    rw [bind_apply, hkeyOf]
    dsimp only
    rw [bind_apply, get_apply]
    dsimp only
    rw [hnone]
    exact ⟨_, rfl⟩

/-- An item of a list is read by its position. -/
theorem listItem_goes {l : Host.ListRef} {k : ObjRef} {n : Int64}
    (hk : b.objects.get k = .int n.toInt) :
    Goes b ((Place.index n).value? b.editor.store (.list l))
      ((Proxy.subscript .list (.list l) k).mapError ProxyError.toForeign b) := by
  have hposition := position_spec (b.editor.store.list l).items n.toInt
  have hsubscript : Proxy.subscript .list (.list l) k b = (do
      let i ← (Act.ofExcept (Proxy.position n.toInt (b.editor.store.list l).items.length) :
        Act ProxyError Nat)
      Proxy.listItem l i) b :=
    Proxy.subscript_int rfl rfl (hk ▸ shape_index n)
  refine .of_proxy (fun w hw => ?_) fun hnone => ?_
  · rw [show Place.item? _ _ = some w from hw] at hposition
    obtain ⟨i, hi, hget⟩ := hposition
    rw [hsubscript, hi]
    change Proxy.listItem l i b = _
    unfold Proxy.listItem Proxy.itemsOf
    simp only [bind_apply, get_apply, pure_apply]
    rw [if_pos (Int.natCast_nonneg i), Int.toNat_natCast, hget]
  · rw [show Place.item? _ _ = none from hnone] at hposition
    obtain ⟨e, he⟩ := hposition
    rw [hsubscript, he]
    exact ⟨e, rfl⟩

/-- What is neither a list nor a dictionary has no places. -/
theorem getItem_scalar (hkind : b.interpreter.kind = .scripted) (hattached : b.attached = true)
    (h : b.objects.get r = Convert.boundObject v) (hv : Convert.Container.ofValue? v = none)
    (k : ObjRef) : ∃ e, getItem r k b = .error (.error e) b := by
  cases v with
  | list l | dict d => cases hv
  | func name bound =>
    rw [getItem_apply hkind hattached h]
    exact ⟨_, rfl⟩
  | _ =>
    unfold getItem
    simp only [bind_apply, Bridge.object, get_apply, pure_apply, h, kind_apply hkind]
    exact ⟨_, rfl⟩

/-- A script finds at a place what the editor has there, and fails where the editor has nothing. -/
theorem getItem_goes (hkind : b.interpreter.kind = .scripted) (hattached : b.attached = true)
    (h : Bound b v r) {k : ObjRef} (hk : b.objects.get k = p.object) :
    Goes b (p.value? b.editor.store v) (getItem r k b) := by
  cases v with
  | list l =>
    rw [getItem_apply hkind hattached h.get]
    cases p with
    | index n => exact listItem_goes hk
    | key key _ =>
      refine .of_proxy nofun fun _ => ⟨Proxy.badIndex, ?_⟩
      have hshape : (b.objects.get k).shape = .ok (.str key) := by rw [hk]; rfl
      rw [Proxy.subscript_eq rfl rfl, bind_apply, Proxy.inspect_apply hshape]
      rfl
  | dict d =>
    rw [getItem_apply hkind hattached h.get]
    cases p with
    | index n =>
      have htext : (Object.int n.toInt).keyText? = some (toString n.toInt) := by
        rw [Object.keyText?, if_pos (Text.fitsInt64_toInt n)]
      exact dictItem_goes (by rw [hk]; exact htext) (toString_ne_empty n.toInt)
    | key key hne => exact dictItem_goes (by rw [hk]; rfl) hne
  | _ =>
    obtain ⟨e, he⟩ := getItem_scalar hkind hattached h.get rfl k
    rw [he]
    exact .missing .refl

theorem goTo_goes (hkind : b.interpreter.kind = .scripted) (hattached : b.attached = true)
    (h : Bound b v r) (p : Place) : Goes b (p.value? b.editor.store v) (goTo r p b) := by
  have hgrown := b.grown_withNew p.object
  have hgoes := getItem_goes (b := b.withNew p.object) hkind hattached (h.grown hgrown)
    (Convert.new_apply p.object).2
  unfold goTo
  rw [bind_apply, build_place hkind]
  dsimp only
  generalize getItem r _ (b.withNew p.object) = outcome at hgoes ⊢
  change Goes _ (p.value? b.editor.store v) outcome at hgoes
  generalize p.value? b.editor.store v = found at hgoes ⊢
  cases hgoes with
  | found hgrown' hbound => exact .found (hgrown.trans hgrown') hbound
  | missing hgrown' => exact .missing (hgrown.trans hgrown')

/-! ### Paths -/

theorem follow_append (r : ObjRef) (front rest : List Place) :
    follow r (front ++ rest) = (do follow (← follow r front) rest) := by
  induction front generalizing r with
  | nil => rfl
  | cons p front ih =>
    simp only [List.cons_append, follow, ih, bind_assoc]

/-- At the end of a path through an object there is what the editor has at the end of the path. -/
theorem follow_bound (hkind : b.interpreter.kind = .scripted) (hattached : b.attached = true)
    (h : Bound b v r) {path : List Place} (hpath : valueAlong? b.editor.store v path = some w) :
    ∃ q b', follow r path b = .ok q b' ∧ b.Grown b' ∧ Bound b' w q := by
  induction path generalizing b r v with
  | nil =>
    cases hpath
    exact ⟨r, b, rfl, .refl, h⟩
  | cons p path ih =>
    obtain ⟨u, hu, hrest⟩ := Option.bind_eq_some_iff.mp hpath
    have hgoes := goTo_goes hkind hattached h p
    rw [hu] at hgoes
    generalize hgo : goTo r p b = outcome at hgoes
    cases hgoes with
    | @found _ q b₁ hgrown hbound =>
      have hattached₁ : b₁.attached = true := by rw [hgrown.eq]; exact hattached
      obtain ⟨q', b₂, hfollow, hgrown', hbound'⟩ := ih (hgrown.interpreter ▸ hkind) hattached₁ hbound
        (hgrown.editor ▸ hrest)
      refine ⟨q', b₂, ?_, hgrown.trans hgrown', hbound'⟩
      rw [follow, bind_apply, hgo]
      exact hfollow

/-- A value is always bound, and converted back to itself. Paths through the object lead to what the
editor has there, and fail at the first place where the editor has nothing. -/
theorem bound_paths (hkind : b.interpreter.kind = .scripted) (hattached : b.attached = true)
    (v : Value) : ∃ r b₁, Convert.toForeignBound v b = .ok r b₁ ∧ b₁.editor = b.editor ∧
      Convert.toHost r b₁ = .ok v b₁ ∧
      (∀ path w, valueAlong? b.editor.store v path = some w → ∃ q b₂,
        follow r path b₁ = .ok q b₂ ∧ b₂.editor = b.editor ∧ Convert.toHost q b₂ = .ok w b₂) ∧
      ∀ front w p rest, valueAlong? b.editor.store v front = some w →
        p.value? b.editor.store w = none → ∃ q b₂ e b₃,
          follow r front b₁ = .ok q b₂ ∧ Convert.toHost q b₂ = .ok w b₂ ∧
          goTo q p b₂ = .error (.error e) b₃ ∧
          follow r (front ++ p :: rest) b₁ = .error (.error e) b₃ ∧ b₃.editor = b.editor := by
  have hbound := bound_new v b
  have hfollow {path : List Place} {w : Value}
      (hpath : valueAlong? b.editor.store v path = some w) :=
    follow_bound (b := b.withNew (Convert.boundObject v)) hkind hattached hbound hpath
  refine ⟨_, _, Convert.toForeignBound_apply v b, rfl, Convert.toHost_bound hkind hbound.get, ?_, ?_⟩
  · intro path w hpath
    obtain ⟨q, b₂, hfollow, hgrown, hq⟩ := hfollow hpath
    exact ⟨q, b₂, hfollow, hgrown.editor, Convert.toHost_bound (hgrown.interpreter ▸ hkind) hq.get⟩
  · intro front w p rest hfront hleaves
    obtain ⟨q, b₂, hfollow, hgrown, hq⟩ := hfollow hfront
    have hkind₂ : b₂.interpreter.kind = .scripted := hgrown.interpreter ▸ hkind
    have hattached₂ : b₂.attached = true := by rw [hgrown.eq]; exact hattached
    have hgoes := goTo_goes hkind₂ hattached₂ hq p
    have heditor : b₂.editor = b.editor := hgrown.editor
    rw [heditor, hleaves] at hgoes
    generalize hgo : goTo q p b₂ = outcome at hgoes
    cases hgoes with
    | @missing e b₃ hgrown₃ =>
      refine ⟨q, b₂, e, b₃, hfollow, Convert.toHost_bound hkind₂ hq.get, hgo, ?_, ?_⟩
      · rw [follow_append, bind_apply, hfollow]
        dsimp only
        rw [follow, bind_apply, hgo]
      · exact hgrown₃.editor.trans heditor

/-- A list that holds itself and a dictionary, which holds the list: paths go round, and an index
that is not there is where one of them ends. -/
theorem bound_paths_round :
    let store : Store :=
      { lists := #[{ items := [.list ⟨0⟩, .dict ⟨0⟩] }], dicts := #[{ entries := [("k", .list ⟨0⟩)] }] }
    let b : Bridge := { Bridge.fresh with editor := { Bridge.fresh.editor with store } }
    b.interpreter.kind = .scripted ∧ b.attached = true ∧ ∃ r b₁,
      Convert.toForeignBound (.list ⟨0⟩) b = .ok r b₁ ∧ Convert.toHost r b₁ = .ok (.list ⟨0⟩) b₁ ∧
      (∃ q b₂, follow r [.index 1, .key "k" (by decide), .index (-2)] b₁ = .ok q b₂ ∧
        Convert.toHost q b₂ = .ok (.list ⟨0⟩) b₂) ∧
      ∃ e b₂, follow r [.index 1, .index 3, .index 0] b₁ = .error (.error e) b₂ := by
  intro store b
  obtain ⟨r, b₁, hrun, -, hback, hfound, hmissing⟩ := bound_paths (b := b) rfl rfl (.list ⟨0⟩)
  have hround : valueAlong? store (.list ⟨0⟩) [.index 1, .key "k" (by decide), .index (-2)] =
      some (.list ⟨0⟩) := rfl
  obtain ⟨q, b₂, hfollow, -, hback'⟩ := hfound _ _ hround
  obtain ⟨-, -, e, b₃, -, -, -, hfails, -⟩ :=
    hmissing [.index 1] (.dict ⟨0⟩) (.index 3) [.index 0] rfl rfl
  exact ⟨rfl, rfl, r, b₁, hrun, hback, ⟨q, b₂, hfollow, hback'⟩, e, b₃, hfails⟩

/-- A dictionary has no position, and yet an index finds what is under its decimal text. -/
theorem index_finds_decimal_key :
    let store : Store := { dicts := #[{ entries := [("3", .number 7)] }] }
    let b : Bridge := { Bridge.fresh with editor := { Bridge.fresh.editor with store } }
    Convert.valueAt? store (.dict ⟨0⟩) (.item 3) = none ∧ ∃ r b₁ q b₂,
      Convert.toForeignBound (.dict ⟨0⟩) b = .ok r b₁ ∧ goTo r (.index 3) b₁ = .ok q b₂ ∧
      Convert.toHost q b₂ = .ok (.number 7) b₂ ∧
      ¬∃ e b₃, goTo r (.index 3) b₁ = .error e b₃ := by
  intro store b
  have hgo : ∃ q b₂, goTo ⟨0⟩ (.index 3) (b.withNew (.proxy .dictionary (.dict ⟨0⟩))) = .ok q b₂ ∧
      Convert.toHost q b₂ = .ok (.number 7) b₂ := ⟨⟨2⟩, _, rfl, rfl⟩
  obtain ⟨q, b₂, hgo, hback⟩ := hgo
  refine ⟨rfl, ⟨0⟩, _, q, b₂, rfl, hgo, hback, ?_⟩
  rintro ⟨e, b₃, he⟩
  cases hgo.symm.trans he

end Script

end ScriptBridge
