import ScriptBridge.Proofs.Convert.Omissions
import ScriptBridge.Proofs.Convert.Order
import ScriptBridge.Proofs.Proxy.Output
import ScriptBridge.Proofs.Script.DictWork

/-!
# Updates of dictionaries

A script puts the entries of an object into a dictionary of the editor. The object is converted
before anything is put in, and the first entry is refused if the dictionary is locked, and so all
entries are put in or none is.
-/

namespace ScriptBridge

open Foreign (ObjRef Object ProxyClass)
open Host (Value Store DictRef ListRef Message)
open ScriptBridge.Computation

namespace ValueMap

variable {ε : Type} {command : String → Act BridgeError Unit} {b b' : Bridge} {d : DictRef}
  {m source : Map} {f r : ObjRef} {es : List (String × Value)}
  {skipped : List Convert.Note}

/-- A session has a dictionary, locked or not, and all dictionaries have their entries in order. -/
structure Has (b : Bridge) (d : DictRef) : Prop where
  attached : b.attached = true
  exists_dict : d.id < b.editor.store.dicts.size
  ordered : b.editor.store.Ordered

/-- A map with what another map has put over it. -/
def overlaid (m source : Map) : Map := fun key => (source key).or (m key)

/-- The message for an entry that is left out. -/
def warning (note : Convert.Note) : Message :=
  .info ("W: skipped key '" ++ note.1 ++ "': " ++ note.2.message)

/-- The messages for entries that are left out, if they can be shown. -/
def warnings (loan : Loan) (skipped : List Convert.Note) : List Message :=
  if loan = .free then skipped.map warning else []

/-- Why a dictionary does not take the entries of an object: the object is not converted, it is
converted to something else, or the dictionary is locked and there is an entry for it. -/
inductive Refused (b : Bridge) (d : DictRef) (r : ObjRef) : Prop
  | unconverted {e : Stop ConvertError} {b' : Bridge}
    (h : Convert.toHostWith true r b = .error e b')
  | other {v : Value} {skipped : List Convert.Note} {b' : Bridge}
    (h : Convert.toHostWith true r b = .ok (v, skipped) b') (hv : ∀ s, v ≠ .dict s)
  | shut {s : DictRef} {skipped : List Convert.Note} {b' : Bridge}
    (h : Convert.toHostWith true r b = .ok (.dict s, skipped) b')
    (hlock : (b.editor.store.dict d).lock ≠ .unlocked)
    (hentries : (b'.editor.store.dict s).entries ≠ [])

/-- A dictionary has taken all entries of a map, and there are messages for the entries that were
left out. New objects and new containers may be there. All else is as before. -/
structure Merged (b : Bridge) (d : DictRef) (source : Map) (skipped : List Convert.Note)
    (b' : Bridge) : Prop where
  get?_eq (key : String) :
    b'.editor.store.get? d key = (source key).or (b.editor.store.get? d key)
  ordered : Host.Entries.Ordered (b'.editor.store.dict d).entries
  cell : b'.editor.store.dict d =
    { b.editor.store.dict d with entries := (b'.editor.store.dict d).entries }
  dict (d' : DictRef) (hexists : d'.id < b.editor.store.dicts.size) (hother : d' ≠ d) :
    b'.editor.store.dict d' = b.editor.store.dict d'
  list (l : ListRef) (hexists : l.id < b.editor.store.lists.size) :
    b'.editor.store.list l = b.editor.store.list l
  messages : b'.editor.messages = b.editor.messages ++ warnings b.loan skipped
  objects : b.objects.Extends b'.objects
  eq : b' = { b with
    objects := b'.objects, held := b'.held,
    editor := { b.editor with store := b'.editor.store, messages := b'.editor.messages } }

/-! ### Putting entries in -/

/-- What is put over a map entry by entry. -/
theorem overlaid_cons {key : String} {v : Value} (hes : Host.Entries.Ordered ((key, v) :: es)) :
    overlaid m (Host.Entries.get? · ((key, v) :: es)) =
      overlaid (Function.update m key (some v)) (Host.Entries.get? · es) := by
  obtain ⟨hlt, hrest⟩ := Host.Entries.ordered_cons.mp hes
  funext other
  change (if key = other then some v else Host.Entries.get? other es).or _ = _
  by_cases hother : other = key
  · have habsent : Host.Entries.get? key es = none := by
      refine Option.eq_none_iff_forall_ne_some.mpr fun w hw => ?_
      exact lt_irrefl key (hlt (key, w) ((Host.Entries.mem_iff_get? hrest).mpr hw))
    rw [hother, if_pos rfl, overlaid, habsent, Function.update_self]
    rfl
  · rw [if_neg (Ne.symm hother), overlaid, Function.update_of_ne hother]

/-- Entries that are put into a dictionary that is not locked are put over its values. -/
theorem insertAll_apply (h : Holds b d m) (hes : Host.Entries.Ordered es) :
    ∃ es', Lists (overlaid m (Host.Entries.get? · es)) es' ∧
      Proxy.insertAll d es b = .ok () (withEntries b d es') := by
  induction es generalizing b m with
  | nil =>
    refine ⟨_, h.lists, ?_⟩
    rw [withEntries_same h.exists_dict]
    rfl
  | cons e rest ih =>
    obtain ⟨key, v⟩ := e
    obtain ⟨-, hrest⟩ := Host.Entries.ordered_cons.mp hes
    have hinsert : Proxy.store (·.insert d key v) b = _ := store_apply h _
    obtain ⟨es', hes', hinserts⟩ := ih (h.withEntries (h.lists.insert key v)) hrest
    rw [withEntries_withEntries h.exists_dict] at hinserts
    refine ⟨es', overlaid_cons hes ▸ hes', ?_⟩
    unfold Proxy.insertAll
    rw [bind_apply, hinsert]
    exact hinserts

/-- Nothing is put into a dictionary that is locked. -/
theorem insertAll_shut (hlock : (b.editor.store.dict d).lock ≠ .unlocked) (hes : es ≠ []) :
    Proxy.insertAll d es b = .error (.error (ProxyError.ofLock .dictLocked)) b := by
  cases es with
  | nil => exact absurd rfl hes
  | cons e rest =>
    have hwrite : b.editor.store.insert d e.1 e.2 = .error .dictLocked := if_neg hlock
    have hinsert : Proxy.store (·.insert d e.1 e.2) b =
        .error (.error (ProxyError.ofLock .dictLocked)) b := by
      unfold Proxy.store Act.mapError Bridge.store
      rw [bind_apply, get_apply]
      dsimp only
      rw [hwrite]
      rfl
    change (Proxy.store _ >>= _) b = _
    rw [bind_apply, hinsert]

/-! ### Telling what was left out -/

theorem warnings_flatMap (loan : Loan) (skipped : List Convert.Note) :
    skipped.flatMap (fun note => warnings loan [note]) = warnings loan skipped := by
  unfold warnings
  by_cases hfree : loan = .free
  · simp only [if_pos hfree]
    exact List.map_eq_flatMap.symm
  · simp [hfree]

/-- The messages are shown in the order in which the entries were left out. -/
theorem tell_apply (skipped : List Convert.Note) (b : Bridge) :
    (do for note in skipped do Bridge.say (warning note) : Act ε Unit) b =
      .ok () (Proxy.showing b (warnings b.loan skipped)) := by
  have hloop := Proxy.forIn_showing (ε := ε) (b := b) (fun note _ => do
      Bridge.say (warning note)
      pure (.yield PUnit.unit)) (fun note => warnings b.loan [note])
    (fun note b' hloan => by
      rw [bind_apply, Proxy.say_eq, hloan]
      rfl) skipped rfl
  rw [bind_apply, hloop, warnings_flatMap]
  rfl

/-! ### One update -/

/-- What is done with what an object has been converted to. -/
def put (d : DictRef) : Value × List Convert.Note → Act ProxyError Unit
  | (.dict s, skipped) => do
    Proxy.insertAll d (← Proxy.entriesOf s)
    for note in skipped do Bridge.say (warning note)
  | (v, _) => Act.fail (.type ("update() needs a mapping, got " ++ v.typeName))

theorem updateDict_eq (d : DictRef) (r : ObjRef) : Proxy.updateDict d r =
    (Convert.toHostWith true r).mapError ProxyError.convert >>= put d := rfl

theorem adds_of_toHostWith
    {outcome : EStateM.Result (Stop ConvertError) Bridge (Value × List Convert.Note)}
    (h : Convert.toHostWith true r b = outcome) : b.Adds (final outcome) := by
  have hadds : (Convert.toHostWith true r).Adds := Convert.mild_toHostWith true r
  exact h ▸ hadds b

/-- An object that is refused changes nothing. -/
theorem updateDict_refused (hhas : Has b d) (h : Refused b d r) :
    ∃ e b', Proxy.updateDict d r b = .error (.error e) b' ∧ b.Adds b' := by
  rw [updateDict_eq, bind_apply, Act.mapError]
  cases h with
  | @unconverted stop b' h =>
    have hsteady : (Convert.toHostWith true r).Steady := Convert.mild_toHostWith true r
    cases stop with
    | error e =>
      rw [h]
      exact ⟨.convert e, b', rfl, adds_of_toHostWith h⟩
    | crash => exact absurd ⟨b', h⟩ (hsteady b)
  | @other v skipped b' h hv =>
    rw [h]
    cases v with
    | dict s => exact absurd rfl (hv s)
    | _ => exact ⟨_, b', rfl, adds_of_toHostWith h⟩
  | @shut s skipped b' h hlock hentries =>
    have hadds : b.Adds b' := adds_of_toHostWith h
    rw [← hadds.store.dict d hhas.exists_dict] at hlock
    refine ⟨.ofLock .dictLocked, b', ?_, hadds⟩
    rw [h]
    change (Proxy.insertAll d (b'.editor.store.dict s).entries >>= _) b' = _
    rw [bind_apply, insertAll_shut hlock hentries]

/-- After a conversion has added to the bridge, entries are put in and messages are shown. -/
theorem Merged.of_adds {b₁ : Bridge} (hexists : d.id < b.editor.store.dicts.size)
    (hadds : b.Adds b₁) (hes : Lists (overlaid (b.editor.store.get? d) source) es) :
    Merged b d source skipped
      (Proxy.showing (withEntries b₁ d es) (warnings b₁.loan skipped)) := by
  have hexists₁ := Nat.lt_of_lt_of_le hexists hadds.store.dicts_le
  have hcell :
      (Proxy.showing (withEntries b₁ d es) (warnings b₁.loan skipped)).editor.store.dict d =
        { b.editor.store.dict d with entries := es } := by
    rw [← hadds.store.dict d hexists]
    exact dict_withEntries hexists₁ es
  have hmessages : b₁.editor.messages = b.editor.messages := by rw [hadds.editor]
  constructor
  case get?_eq =>
    intro key
    rw [Store.get?, hcell]
    exact hes.get?_eq key
  case ordered =>
    rw [hcell]
    exact hes.ordered
  case cell => rw [hcell]
  case dict =>
    intro d' hd' hother
    rw [← hadds.store.dict d' hd']
    exact dict_withEntries_of_ne hother es
  case list => exact hadds.store.list
  case messages =>
    change b₁.editor.messages ++ _ = _
    rw [hmessages, hadds.loan]
  case objects => exact hadds.objects
  case eq =>
    have heq := congrArg
      (fun x : Bridge => Proxy.showing (withEntries x d es) (warnings b₁.loan skipped)) hadds.eq
    refine heq.trans ?_
    unfold Proxy.showing withEntries
    dsimp only
    rw [hmessages]

/-- An object that is not refused is converted to a dictionary, whose entries are put in. -/
theorem updateDict_merges (hhas : Has b d) (h : ¬Refused b d r) :
    ∃ s skipped b₁ b', Convert.toHostWith true r b = .ok (.dict s, skipped) b₁ ∧
      Proxy.updateDict d r b = .ok () b' ∧ Merged b d (b₁.editor.store.get? s) skipped b' := by
  obtain ⟨s, skipped, b₁, hrun⟩ : ∃ s skipped b₁,
      Convert.toHostWith true r b = .ok (.dict s, skipped) b₁ := by
    cases hrun : Convert.toHostWith true r b with
    | error stop b' => exact absurd (.unconverted hrun) h
    | ok p b₁ =>
      obtain ⟨v, skipped⟩ := p
      by_contra hnone
      exact h (.other hrun fun s hv => hnone ⟨s, skipped, b₁, hv ▸ rfl⟩)
  have hadds : b.Adds b₁ := adds_of_toHostWith hrun
  have hput : ∃ es, Lists (overlaid (b.editor.store.get? d) (b₁.editor.store.get? s)) es ∧
      Proxy.insertAll d (b₁.editor.store.dict s).entries b₁ = .ok () (withEntries b₁ d es) := by
    by_cases hunlocked : (b.editor.store.dict d).lock = .unlocked
    · have hholds := holds_of_unlocked hhas.attached hhas.exists_dict hunlocked (hhas.ordered d)
      exact insertAll_apply (hholds.adds hadds) (Convert.toHostWith_tidy hhas.ordered hrun s rfl)
    · have hnothing : (b₁.editor.store.dict s).entries = [] := by
        by_contra hentries
        exact h (.shut hrun hunlocked hentries)
      have hsame : withEntries b₁ d (b.editor.store.dict d).entries = b₁ := by
        rw [← hadds.store.dict d hhas.exists_dict]
        exact withEntries_same (Nat.lt_of_lt_of_le hhas.exists_dict hadds.store.dicts_le)
      refine ⟨(b.editor.store.dict d).entries, .of_get? (hhas.ordered d) fun key => ?_, ?_⟩
      · rw [overlaid, Store.get?, hnothing]
        rfl
      · rw [hnothing, hsame]
        rfl
  obtain ⟨es, hlists, hinserts⟩ := hput
  refine ⟨s, skipped, b₁, _, hrun, ?_, Merged.of_adds hhas.exists_dict hadds hlists⟩
  rw [updateDict_eq, bind_apply, Act.mapError, hrun]
  change (Proxy.insertAll d _ >>= fun _ => _) b₁ = _
  rw [bind_apply, hinserts]
  exact tell_apply skipped _

/-- A new object may be there too. -/
theorem Merged.withNew (h : Merged b d source skipped b') (x : Object) :
    Merged b d source skipped (b'.withNew x) where
  get?_eq := h.get?_eq
  ordered := h.ordered
  cell := h.cell
  dict := h.dict
  list := h.list
  messages := h.messages
  objects := h.objects.trans (b'.grown_withNew x).objects
  eq := by
    have heq := congrArg (·.withNew x) h.eq
    exact heq

/-- A map that is put over itself is the same. -/
theorem Merged.same (h : Merged b d (b.editor.store.get? d) skipped b')
    (hordered : Host.Entries.Ordered (b.editor.store.dict d).entries) :
    b'.editor.store.dict d = b.editor.store.dict d := by
  have hentries : (b'.editor.store.dict d).entries = (b.editor.store.dict d).entries := by
    refine Lists.unique (.of_get? h.ordered fun key => ?_) (.of_get? hordered fun _ => rfl)
    exact (h.get?_eq key).trans (Option.or_self)
  rw [h.cell, hentries]

theorem toHostWith_proxy {cls : ProxyClass} (hr : b.objects.get r = .proxy cls (.dict d)) :
    Convert.toHostWith true r b = .ok (.dict d, []) b := by
  rw [Convert.toHostWith_apply, Convert.Converting.convertWithin, bind_apply,
    Convert.Converting.inspect_apply, hr]
  rfl

/-! ### Updates of a script -/

/-- Taking the method from a proxy makes an object for it. -/
theorem getAttr_update {o : ObjRef} (hattached : b.attached = true)
    (ho : b.objects.get o = .proxy .dictionary (.dict d)) :
    ∃ f b', Script.getAttr o "update" b = .ok f b' ∧ b.Adds b' ∧ IsMethod b' d f "update" := by
  have hget : Proxy.getAttr? .dictionary (.dict d) "update" b =
      .ok (some (b.objects.alloc (.proxy .method (.method (.dict d) .dictionary "update"))).1)
        (b.withNew (.proxy .method (.method (.dict d) .dictionary "update"))) := rfl
  exact ⟨_, _, Script.getAttr_ok hattached ho hget, .withNew _, (Convert.new_apply _).2⟩

theorem call_update (hf : IsMethod b d f "update") (command : String → Act BridgeError Unit)
    (r : ObjRef) : Script.call command f [r] [] b =
      Proxy.slot (do
        Proxy.updateDict d r
        Bridge.alloc .null) b :=
  Script.call_callable hf rfl command [r]

theorem call_update_refused (hhas : Has b d) (hf : IsMethod b d f "update") (h : Refused b d r)
    (command : String → Act BridgeError Unit) :
    ∃ e b', Script.call command f [r] [] b = .error (.error e) b' ∧ b.Adds b' := by
  obtain ⟨e, b', hfails, hadds⟩ := updateDict_refused hhas h
  obtain ⟨kind, hupdate⟩ : ∃ kind, Settles ProxyError.exceptionKind b (fun (_ : Unit) _ _ => True)
      (.error kind) ((do
        Proxy.updateDict d r
        Bridge.alloc .null : Act ProxyError ObjRef) b) := by
    rw [bind_apply, hfails]
    exact ⟨_, .error e hadds⟩
  have hslot := Proxy.slot_settles hhas.attached hupdate
  rw [call_update hf]
  generalize Proxy.slot _ b = outcome at hslot ⊢
  cases hslot with
  | error e hadds => exact ⟨e, _, rfl, hadds⟩

theorem call_update_merges (hhas : Has b d) (hf : IsMethod b d f "update") (h : ¬Refused b d r)
    (command : String → Act BridgeError Unit) :
    ∃ s skipped b₁ x b', Convert.toHostWith true r b = .ok (.dict s, skipped) b₁ ∧
      Script.call command f [r] [] b = .ok x b' ∧ b'.objects.get x = .null ∧
      Merged b d (b₁.editor.store.get? s) skipped b' := by
  obtain ⟨s, skipped, b₁, b', hrun, hupdate, hmerged⟩ := updateDict_merges hhas h
  refine ⟨s, skipped, b₁, _, b'.withNew .null, hrun, ?_, (Convert.new_apply _).2,
    hmerged.withNew .null⟩
  rw [call_update hf]
  refine Proxy.slot_ok hhas.attached ?_
  rw [bind_apply, hupdate]
  rfl

/-- A script updates a dictionary with an object by a method that it takes from any proxy of it.
Either the dictionary does not take the entries of the object, and then there is an exception and no
message, and the dictionary is as before. Or it takes all entries that are not left out, nothing
else changes, and there is one message for each that is left out. A dictionary that is updated with
itself is as before. -/
theorem update_all_or_nothing (command : String → Act BridgeError Unit) (hhas : Has b d)
    (r : ObjRef) :
    (∀ o, b.objects.get o = .proxy .dictionary (.dict d) →
      ∃ f b', Script.getAttr o "update" b = .ok f b' ∧ b.Adds b' ∧ IsMethod b' d f "update") ∧
    ∀ f, IsMethod b d f "update" →
      (Refused b d r →
        ∃ e b', Script.call command f [r] [] b = .error (.error e) b' ∧ b.Adds b') ∧
      (¬Refused b d r → ∃ s skipped b₁ x b',
        Convert.toHostWith true r b = .ok (.dict s, skipped) b₁ ∧ Convert.LeavesOut b r skipped ∧
        Script.call command f [r] [] b = .ok x b' ∧ b'.objects.get x = .null ∧
        Merged b d (b₁.editor.store.get? s) skipped b') ∧
      ∀ cls, b.objects.get r = .proxy cls (.dict d) →
        (final (Script.call command f [r] [] b)).editor.store.dict d = b.editor.store.dict d := by
  refine ⟨fun o ho => getAttr_update hhas.attached ho, fun f hf => ?_⟩
  have hrefused (h : Refused b d r) := call_update_refused hhas hf h command
  have hmerges (h : ¬Refused b d r) := call_update_merges hhas hf h command
  refine ⟨hrefused, fun h => ?_, fun cls hr => ?_⟩
  · obtain ⟨s, skipped, b₁, x, b', hrun, hrest⟩ := hmerges h
    exact ⟨s, skipped, b₁, x, b', hrun, Convert.leavesOut_of_toHostWith hrun, hrest⟩
  · by_cases h : Refused b d r
    · obtain ⟨e, b', hcall, hadds⟩ := hrefused h
      rw [hcall]
      exact hadds.store.dict d hhas.exists_dict
    · obtain ⟨s, skipped, b₁, x, b', hrun, hcall, -, hmerged⟩ := hmerges h
      rw [toHostWith_proxy hr] at hrun
      cases hrun
      rw [hcall]
      exact hmerged.same (hhas.ordered d)

/-- A mapping holds a list that holds the mapping, and has an entry with an empty key. The mapping
is left out of the list, and the entry is left out of the mapping. What is left is put in. -/
theorem update_all_or_nothing_nested :
    let d : DictRef := ⟨0⟩
    let cells : Array Object := #[.proxy .dictionary (.dict d),
      .proxy .method (.method (.dict d) .dictionary "update"), .str "a", .int 1, .str "",
      .list [⟨3⟩, ⟨6⟩], .dict [(⟨2⟩, ⟨5⟩), (⟨4⟩, ⟨3⟩)]]
    let b : Bridge := { Bridge.fresh with
      editor := { Bridge.fresh.editor with
        store := { dicts := #[{ entries := [("a", .str "x"), ("b", .str "y")] }] } }
      objects := { cells } }
    let command : String → Act BridgeError Unit := fun _ => pure ()
    Has b d ∧ IsMethod b d ⟨1⟩ "update" ∧ ¬Refused b d ⟨6⟩ ∧
      ∃ x b', Script.call command ⟨1⟩ [⟨6⟩] [] b = .ok x b' ∧
        b'.editor.store.get? d "a" = some (.list ⟨0⟩) ∧
        b'.editor.store.get? d "b" = some (.str "y") ∧
        b'.editor.messages = [.info "W: skipped key '1': recursive structure cannot be converted",
          .info "W: skipped key '': empty keys are not allowed"] := by
  intro d cells b command
  have hhas : Has b d := by
    refine ⟨rfl, by decide, ?_⟩
    have hentries : Host.Entries.Ordered [("a", .str "x"), ("b", .str "y")] := by
      unfold Host.Entries.Ordered
      decide
    exact Store.ordered_empty.newDict hentries .plain
  have hmethod : IsMethod b d ⟨1⟩ "update" := rfl
  obtain ⟨b₁, hrun, hentries⟩ : ∃ b₁,
      Convert.toHostWith true ⟨6⟩ b = .ok (.dict ⟨1⟩, [("1", .recursive), ("", .emptyKey)]) b₁ ∧
        (b₁.editor.store.dict ⟨1⟩).entries = [("a", .list ⟨0⟩)] := ⟨_, rfl, rfl⟩
  have hrefused : ¬Refused b d ⟨6⟩ := by
    rintro (h | ⟨h, hv⟩ | ⟨h, hlock, hentries⟩)
    · rw [hrun] at h
      cases h
    · rw [hrun] at h
      cases h
      exact hv ⟨1⟩ rfl
    · exact hlock rfl
  obtain ⟨-, hcalls⟩ := update_all_or_nothing command hhas ⟨6⟩
  obtain ⟨-, hmerges, -⟩ := hcalls ⟨1⟩ hmethod
  obtain ⟨s, skipped, b₂, x, b', hrun', -, hcall, -, hmerged⟩ := hmerges hrefused
  rw [hrun] at hrun'
  cases hrun'
  refine ⟨hhas, hmethod, hrefused, x, b', hcall, ?_, ?_, hmerged.messages⟩
  all_goals
    rw [hmerged.get?_eq, Store.get?, hentries]
    rfl

end ValueMap

end ScriptBridge
