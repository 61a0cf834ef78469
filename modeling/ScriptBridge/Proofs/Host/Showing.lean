import ScriptBridge.Proofs.Convert.Strict
import ScriptBridge.Proofs.Host.Entries
import ScriptBridge.Proofs.Host.Writing

/-!
# Texts of values read back

The text of a string, a number, or a container of such is an expression for an equal value. A
string has its quotes doubled, so it may hold any characters; a key of a dictionary is written as it
is, so it must not hold a quote. The least number is written as the negative of a number that does
not fit 64 bits.
-/

namespace ScriptBridge.Host

open Text (isBlank dropBlanks)
open ScriptBridge.Computation

/-- A string, or a number whose opposite fits 64 bits too. -/
inductive Value.Literal : Value → Prop where
  | str (t : String) : Literal (.str t)
  | number {n : Int64} (hn : n ≠ Int64.minValue) : Literal (.number n)

/-- A value whose text reads back: a literal, or a container that exists and holds literals, where
no key has a quote in it. -/
inductive Store.Plain (s : Store) : Value → Prop where
  | literal {v : Value} (hv : v.Literal) : Plain s v
  | list {l : ListRef} (hexists : l.id < s.lists.size)
      (hitems : ∀ v ∈ (s.list l).items, v.Literal) : Plain s (.list l)
  | dict {d : DictRef} (hexists : d.id < s.dicts.size)
      (hordered : Entries.Ordered (s.dict d).entries)
      (hvalues : ∀ p ∈ (s.dict d).entries, p.2.Literal)
      (hkeys : ∀ p ∈ (s.dict d).entries, '\'' ∉ p.1.toList) : Plain s (.dict d)

namespace Expr

variable {s : Store} {within v : Value} {src : String} {text rest : List Char} {tree : Expr}

/-- What follows a part of a shown container: a separator or a closing bracket, or nothing. -/
def EndsPart (rest : List Char) : Prop := ∀ c ∈ rest.head?, c ∈ [',', ':', ']', '\x7d']

theorem EndsPart.dropBlanks_eq (h : EndsPart rest) : dropBlanks rest = rest := by
  cases rest with
  | nil => rfl
  | cons c rest =>
    have hc := h c rfl
    refine dropBlanks_token ?_
    simp only [List.mem_cons, List.not_mem_nil, or_false] at hc
    rcases hc with rfl | rfl | rfl | rfl <;> decide

/-- A text is that of an expression, in front of all that may follow a part. The expression has a
value in every editor and changes nothing. -/
structure Denotes (text : List Char) (v : Value) (tree : Expr) : Prop where
  reads (src : String) {rest : List Char} (h : EndsPart rest) :
    readSum src (text ++ rest) = .complete tree rest
  evaluates (functions : UserFunctions) (e : Editor) : tree.eval functions e = .ok v e

/-- What reads as a factor in front of the end of a part reads as a sum. -/
theorem readSum_of_factor (hrest : EndsPart rest)
    (h : readFactor src text = .complete tree rest) : readSum src text = .complete tree rest := by
  have hends {signs : List Char} (hsigns : ∀ c ∈ [',', ':', ']', '\x7d'], c ∉ signs) :
      ∀ c ∈ (dropBlanks rest).head?, c ∉ signs := by
    rw [hrest.dropBlanks_eq]
    exact fun c hc => hsigns c (hrest c hc)
  have hproduct : readProduct src text = .complete tree rest := by
    rw [readProduct_eq, h]
    refine (readFactors_end (hends (by simp))).trans ?_
    rw [hrest.dropBlanks_eq, id]
  rw [readSum_eq, hproduct]
  refine (readTerms_end (hends (by simp))).trans ?_
  rw [hrest.dropBlanks_eq, id]

/-! ### Literals -/

theorem EndsPart.not_isNumeric (h : EndsPart rest) : ∀ c ∈ rest.head?, isNumeric c = false := by
  intro c hc
  have hmem := h c hc
  simp only [List.mem_cons, List.not_mem_nil, or_false] at hmem
  rcases hmem with rfl | rfl | rfl | rfl <;> decide

theorem Denotes.quoted (t : String) : Denotes (singleQuoted t).toList (.str t) (.str t) where
  reads src rest hrest := by
    refine readSum_of_factor hrest (readFactor_quoted t ?_ ?_)
    · rw [singleQuoted_toList, List.cons_append, dropBlanks_token (by decide)]
    · rintro c hc rfl
      exact absurd (hrest _ hc) (by decide)
  evaluates functions e := by rw [eval]; rfl

/-- A key that has no quote in it is quoted as it is. -/
theorem singleQuoted_eq {key : String} (hkey : '\'' ∉ key.toList) :
    singleQuoted key = "'" ++ key ++ "'" := by
  have hsame : (key.toList.flatMap fun c => if c = '\'' then ['\'', '\''] else [c]) =
      key.toList.flatMap fun c => [c] :=
    List.flatMap_congr fun c hc => if_neg (by rintro rfl; exact hkey hc)
  rw [singleQuoted, hsame, List.flatMap_singleton', String.ofList_toList]

/-- The opposite of a number that is not the least one. -/
theorem toInt_neg_of_ne {n : Int64} (hn : n ≠ Int64.minValue) : (-n).toInt = -n.toInt := by
  have hlow := n.le_toInt
  have hhigh := n.toInt_lt
  have hleast : n.toInt ≠ -9223372036854775808 := fun h => hn (Int64.toInt_inj.mp h)
  rw [Int64.toInt_neg]
  exact Int.bmod_eq_of_le (by omega) (by omega)

theorem readSum_digits {n : Int64} (hn : 0 ≤ n.toInt) (hrest : EndsPart rest) :
    readFactor src (Nat.toDigits 10 n.toInt.toNat ++ rest) = .complete (.number n) rest := by
  refine readFactor_digits hn ?_ hrest.not_isNumeric
  obtain ⟨c, r, htext, hc⟩ := exists_digit n.toInt.toNat
  rw [htext]
  exact dropBlanks_token (not_isBlank_of_isDigit hc)

theorem Denotes.number {n : Int64} (hn : n ≠ Int64.minValue) :
    ∃ tree, Denotes (toString n.toInt).toList (.number n) tree := by
  obtain hneg | hpos := Int.lt_or_le n.toInt 0
  · have hopposite := toInt_neg_of_ne hn
    have htext : (toString n.toInt).toList = '-' :: Nat.toDigits 10 (-n).toInt.toNat := by
      rw [hopposite]
      obtain ⟨m, hm⟩ := Int.eq_negSucc_of_lt_zero hneg
      rw [hm]
      simp [toString, Int.repr]
    refine ⟨.negate (.number (-n)), ⟨fun src rest hrest => ?_, fun functions e => ?_⟩⟩
    · rw [htext, List.cons_append]
      exact readSum_of_factor hrest (readFactor_negate (dropBlanks_token (by decide))
        (readSum_digits (by omega) hrest))
    · have hvalue : (0 : Int64) - -n = n := by simp
      rw [eval, eval, bind_apply]
      exact congrArg (fun m => EStateM.Result.ok (Value.number m) e) hvalue
  · have htext : (toString n.toInt).toList = Nat.toDigits 10 n.toInt.toNat := by
      obtain ⟨m, hm⟩ := Int.eq_ofNat_of_zero_le hpos
      rw [hm]
      simp [toString, Int.repr]
    refine ⟨.number n, ⟨fun src rest hrest => ?_, fun functions e => by rw [eval]; rfl⟩⟩
    rw [htext]
    exact readSum_of_factor hrest (readSum_digits hpos hrest)

/-- The text of a literal, by itself or inside a container, is an expression for it. -/
theorem exists_denotes (s : Store) (within : Value) (hv : v.Literal) :
    ∃ tree, Denotes (s.showInner within v).toList v tree := by
  cases hv with
  | str t => exact ⟨.str t, .quoted t⟩
  | number hn => exact Denotes.number hn

/-! ### Containers -/

/-- Texts with a comma and a blank between them. -/
def listed (texts : List (List Char)) : List Char := [',', ' '].intercalate texts

theorem listed_cons_cons (text next : List Char) (texts : List (List Char)) :
    listed (text :: next :: texts) = text ++ ',' :: ' ' :: listed (next :: texts) := by
  simp [listed, List.intercalate_cons_cons]

/-- A part of a container may be followed by the next one or by the end of the container. -/
theorem endsPart_cons {c : Char} (hc : c ∈ [',', ':', ']', '\x7d']) : EndsPart (c :: rest) := by
  rintro d hd
  cases hd
  exact hc

theorem endsPart_nil : EndsPart [] := nofun

/-- A part is read from a text that differs from the part in blanks at its front. -/
theorem Denotes.readSum_eq {v : Value} (h : Denotes text v tree) (hrest : EndsPart rest)
    {s : List Char} (hs : dropBlanks s = dropBlanks (text ++ rest)) :
    readSum src s = .complete tree rest := by
  rw [← readSum_dropBlanks, hs, readSum_dropBlanks]
  exact h.reads src hrest

/-- The items of a list read back one after another, after blanks or none. -/
theorem exists_items (f : Value → List Char) {items : List Value}
    (hitems : ∀ v ∈ items, ∃ tree, Denotes (f v) v tree) :
    ∃ trees,
      (∀ src done rest s, dropBlanks s = dropBlanks (listed (items.map f) ++ ']' :: rest) →
        readItems src ']' .list done s = .complete (.list (done ++ trees)) rest) ∧
      ∀ functions e, evalItems functions trees e = .ok items e := by
  cases items with
  | nil =>
    refine ⟨[], fun src done rest s hs => ?_, fun functions e => by rw [evalItems]; rfl⟩
    rw [List.append_nil]
    exact readItems_close hs
  | cons v items =>
    -- A comma stands only between two items, so the last one is a case of its own.
    induction items generalizing v with
    | nil =>
      obtain ⟨tree, htree⟩ := hitems v List.mem_cons_self
      refine ⟨[tree], fun src done rest s hs => ?_, fun functions e => ?_⟩
      · have hread : readSum src s = .complete tree (']' :: rest) :=
          htree.readSum_eq (endsPart_cons (by decide)) (by rw [hs]; simp [listed])
        exact (readItems_item .list done (by decide) hread).2 rest (dropBlanks_token (by decide))
      · rw [evalItems, bind_apply, htree.evaluates, evalItems]
        rfl
    | cons w items ih =>
      obtain ⟨tree, htree⟩ := hitems v List.mem_cons_self
      obtain ⟨trees, hreads, hevaluates⟩ := ih w fun u hu => hitems u (List.mem_cons_of_mem _ hu)
      refine ⟨tree :: trees, fun src done rest s hs => ?_, fun functions e => ?_⟩
      · have hread : readSum src s =
            .complete tree (',' :: ' ' :: (listed ((w :: items).map f) ++ ']' :: rest)) :=
          htree.readSum_eq (endsPart_cons (by decide))
            (by rw [hs, List.map_cons, List.map_cons, listed_cons_cons]; simp)
        rw [(readItems_item .list done (by decide) hread).1 _ (dropBlanks_token (by decide)),
          hreads src _ rest (' ' :: _) (dropBlanks_space _), List.append_assoc,
          List.singleton_append]
      · rw [evalItems, bind_apply, htree.evaluates]
        dsimp only
        rw [bind_apply, hevaluates]
        rfl

/-- The text of an entry: its key between quotes, and its value. -/
def entryText (f : Value → List Char) (p : String × Value) : List Char :=
  (singleQuoted p.1).toList ++ ':' :: ' ' :: f p.2

theorem Denotes.evalEntries_cons {v : Value} (htree : Denotes text v tree) (key : String)
    (functions : UserFunctions) (trees : List (Expr × Expr)) (done : List (String × Value))
    (e : Editor) : evalEntries functions ((.str key, tree) :: trees) done e =
      evalEntries functions trees (Entries.insert key v done) e := by
  rw [evalEntries, bind_apply, (Denotes.quoted key).evaluates]
  dsimp only
  rw [bind_apply, get_apply]
  dsimp only
  rw [bind_apply, htree.evaluates]
  rfl

/-- The entries of a dictionary read back one after another, after blanks or none. -/
theorem exists_entries (f : Value → List Char) {entries : List (String × Value)}
    (hvalues : ∀ p ∈ entries, ∃ tree, Denotes (f p.2) p.2 tree) :
    ∃ trees,
      (∀ src done rest s,
        dropBlanks s = dropBlanks (listed (entries.map (entryText f)) ++ '\x7d' :: rest) →
        readEntries src done s = .complete (.dict (done ++ trees)) rest) ∧
      ∀ functions done e, evalEntries functions trees done e =
        .ok (entries.foldl (fun es p => Entries.insert p.1 p.2 es) done) e := by
  cases entries with
  | nil =>
    refine ⟨[], fun src done rest s hs => ?_, fun functions done e => by rw [evalEntries]; rfl⟩
    rw [List.append_nil]
    exact readEntries_close hs
  | cons p entries =>
    -- As with items, a comma stands only between two entries.
    induction entries generalizing p with
    | nil =>
      obtain ⟨tree, htree⟩ := hvalues p List.mem_cons_self
      refine ⟨[(.str p.1, tree)], fun src done rest s hs => ?_, fun functions done e => ?_⟩
      · have hkey : readSum src s =
            .complete (.str p.1) (':' :: ' ' :: (f p.2 ++ '\x7d' :: rest)) :=
          (Denotes.quoted p.1).readSum_eq (endsPart_cons (by decide))
            (by rw [hs]; simp [listed, entryText])
        have hvalue : readSum src (' ' :: (f p.2 ++ '\x7d' :: rest)) =
            .complete tree ('\x7d' :: rest) := htree.readSum_eq (endsPart_cons (by decide)) rfl
        exact (readEntries_entry done hkey (dropBlanks_token (by decide)) hvalue).2 rest
          (dropBlanks_token (by decide))
      · rw [htree.evalEntries_cons, evalEntries]
        rfl
    | cons q entries ih =>
      obtain ⟨tree, htree⟩ := hvalues p List.mem_cons_self
      obtain ⟨trees, hreads, hevaluates⟩ := ih q fun u hu => hvalues u (List.mem_cons_of_mem _ hu)
      refine ⟨(.str p.1, tree) :: trees, fun src done rest s hs => ?_, fun functions done e => ?_⟩
      · set more := listed ((q :: entries).map (entryText f)) ++ '\x7d' :: rest
        have hkey : readSum src s =
            .complete (.str p.1) (':' :: ' ' :: (f p.2 ++ ',' :: ' ' :: more)) :=
          (Denotes.quoted p.1).readSum_eq (endsPart_cons (by decide)) (by
            rw [hs, List.map_cons, List.map_cons, listed_cons_cons]
            simp [more, entryText])
        have hvalue : readSum src (' ' :: (f p.2 ++ ',' :: ' ' :: more)) =
            .complete tree (',' :: ' ' :: more) := htree.readSum_eq (endsPart_cons (by decide)) rfl
        rw [(readEntries_entry done hkey (dropBlanks_token (by decide)) hvalue).1 _
          (dropBlanks_token (by decide)), hreads src _ rest (' ' :: _) (dropBlanks_space _),
          List.append_assoc, List.singleton_append]
      · rw [htree.evalEntries_cons, hevaluates]
        rfl

/-- A text that is read to its end is the text of the expression. -/
theorem ofText_of_read {shown : String} (h : readSum shown shown.toList = .complete tree []) :
    read shown shown.toList = .complete tree [] ∧ ofText shown = tree := by
  have hread := read_eq.trans h
  exact ⟨hread, by rw [ofText, hread]; rfl⟩

end Expr

/-! ### Equality -/

namespace Store

variable {s : Store} {depth : Nat}

theorem equalWithin_literal {v : Value} (hv : v.Literal) :
    s.equalWithin (depth + 1) v v = true := by
  cases hv <;> simp [equalWithin, Value.agree]

theorem agreeItems_self {values : Value → Value → Bool} {items : List Value}
    (h : ∀ v ∈ items, values v v = true) : agreeItems values items items = true := by
  induction items with
  | nil => rfl
  | cons v items ih =>
    rw [agreeItems, h v List.mem_cons_self, ih fun w hw => h w (List.mem_cons_of_mem _ hw)]
    rfl

theorem agreeEntries_self {values : Value → Value → Bool} {entries : List (String × Value)}
    (h : ∀ p ∈ entries, values p.2 p.2 = true) : Entries.agree values entries entries = true := by
  induction entries with
  | nil => rfl
  | cons p entries ih =>
    rw [Entries.agree, h p List.mem_cons_self, ih fun q hq => h q (List.mem_cons_of_mem _ hq)]
    simp

/-- Two lists with the same literals are equal. -/
theorem equal_list {l l' : ListRef} (hl : l.id < s.lists.size)
    (hsame : (s.list l').items = (s.list l).items) (hitems : ∀ v ∈ (s.list l).items, v.Literal) :
    s.equal (.list l) (.list l') = true := by
  have hdepth : 0 < s.lists.size * s.lists.size + s.dicts.size * s.dicts.size :=
    Nat.add_pos_left (Nat.mul_pos (by omega) (by omega)) _
  obtain ⟨depth, hdepth⟩ := Nat.exists_eq_add_of_lt hdepth
  rw [equal, hdepth, equalWithin, Value.agree, hsame, Nat.zero_add,
    agreeItems_self fun v hv => equalWithin_literal (hitems v hv), Bool.or_true]

/-- Two dictionaries with the same literals under the same keys are equal. -/
theorem equal_dict {d d' : DictRef} (hd : d.id < s.dicts.size)
    (hsame : (s.dict d').entries = (s.dict d).entries)
    (hvalues : ∀ p ∈ (s.dict d).entries, p.2.Literal) : s.equal (.dict d) (.dict d') = true := by
  have hdepth : 0 < s.lists.size * s.lists.size + s.dicts.size * s.dicts.size :=
    Nat.add_pos_right _ (Nat.mul_pos (by omega) (by omega))
  obtain ⟨depth, hdepth⟩ := Nat.exists_eq_add_of_lt hdepth
  rw [equal, hdepth, equalWithin, Value.agree, hsame, Nat.zero_add,
    agreeEntries_self fun p hp => equalWithin_literal (hvalues p hp), Bool.or_true]

end Store

/-! ### Texts -/

/-- A text that is read to its end as an expression whose value equals a value. -/
structure ReadsAs (e : Editor) (functions : UserFunctions) (shown : String) (v : Value) : Prop where
  complete : ∃ tree, Expr.read shown shown.toList = .complete tree []
  evaluates : ∃ v' e', evalText functions shown e = .ok v' e' ∧ e.store.Grown e'.store ∧
    e'.store.equal v v' = true

namespace ReadsAs

variable {e : Editor} {functions : UserFunctions} {shown : String} {v : Value}

theorem of_tree (tree : Expr) (v' : Value) (e' : Editor)
    (hread : Expr.readSum shown shown.toList = .complete tree [])
    (heval : tree.eval functions e = .ok v' e') (hgrown : e.store.Grown e'.store)
    (hequal : e'.store.equal v v' = true) : ReadsAs e functions shown v := by
  obtain ⟨hcomplete, htext⟩ := Expr.ofText_of_read hread
  exact ⟨⟨tree, hcomplete⟩, v', e', by rw [evalText, htext, heval], hgrown, hequal⟩

theorem literal (hv : v.Literal) : ReadsAs e functions (e.store.show v) v := by
  have hshow : e.store.show v = e.store.showInner .null v := by cases hv <;> rfl
  obtain ⟨tree, htree⟩ := Expr.exists_denotes e.store .null hv
  have hread :
      Expr.readSum (e.store.show v) ((e.store.show v).toList ++ []) = .complete tree [] := by
    rw [hshow]
    exact htree.reads _ Expr.endsPart_nil
  rw [List.append_nil] at hread
  exact of_tree tree v e hread (htree.evaluates functions e) .refl (Store.equalWithin_literal hv)

theorem list {l : ListRef} (hl : l.id < e.store.lists.size)
    (hitems : ∀ v ∈ (e.store.list l).items, v.Literal) :
    ReadsAs e functions (e.store.show (.list l)) (.list l) := by
  have hgrown := Store.Grown.newList (s := e.store) (e.store.list l).items
  have hsame := hgrown.list l hl
  obtain ⟨trees, hreads, heval⟩ := Expr.exists_items
    (fun v => (e.store.showInner (.list l) v).toList)
    fun v hv => Expr.exists_denotes e.store (.list l) (hitems v hv)
  have htext : (e.store.show (.list l)).toList = '[' :: (Expr.listed
      ((e.store.list l).items.map fun v => (e.store.showInner (.list l) v).toList) ++ [']']) := by
    simp [Store.show, Store.showList, Expr.listed, Function.comp_def]
  have hequal : (e.store.newList (e.store.list l).items).2.equal (.list l)
      (.list ⟨e.store.lists.size⟩) = true := by
    refine Store.equal_list (Nat.lt_of_lt_of_le hl hgrown.lists_le) ?_ ?_
    · rw [hsame]
      simp [Store.newList, Store.list, Array.getD_eq_getD_getElem?]
    · rw [hsame]
      exact hitems
  refine of_tree (.list trees) _ { e with store := _ } ?_ ?_ hgrown hequal
  · rw [htext]
    refine Expr.readSum_of_factor Expr.endsPart_nil ?_
    rw [Expr.readFactor_list (Expr.dropBlanks_token (by decide)), hreads _ [] [] _ rfl]
    rfl
  · rw [Expr.eval, bind_apply, heval]
    rfl

theorem dict {d : DictRef} (hd : d.id < e.store.dicts.size)
    (hordered : Entries.Ordered (e.store.dict d).entries)
    (hvalues : ∀ p ∈ (e.store.dict d).entries, p.2.Literal)
    (hkeys : ∀ p ∈ (e.store.dict d).entries, '\'' ∉ p.1.toList) :
    ReadsAs e functions (e.store.show (.dict d)) (.dict d) := by
  have hgrown := Store.Grown.newDict (s := e.store) (e.store.dict d).entries
  have hsame := hgrown.dict d hd
  obtain ⟨trees, hreads, heval⟩ := Expr.exists_entries
    (fun v => (e.store.showInner (.dict d) v).toList)
    fun p hp => Expr.exists_denotes e.store (.dict d) (hvalues p hp)
  have hkeyed : ∀ p ∈ (e.store.dict d).entries,
      ("'" ++ p.1 ++ "': " ++ e.store.showInner (.dict d) p.2).toList =
        Expr.entryText (fun v => (e.store.showInner (.dict d) v).toList) p := by
    intro p hp
    rw [Expr.entryText, Expr.singleQuoted_eq (hkeys p hp)]
    simp
  have htext : (e.store.show (.dict d)).toList = '\x7b' :: (Expr.listed
      ((e.store.dict d).entries.map
        (Expr.entryText fun v => (e.store.showInner (.dict d) v).toList)) ++ ['\x7d']) := by
    rw [← List.map_congr_left hkeyed]
    simp [Store.show, Store.showDict, Expr.listed, Function.comp_def]
  have hequal : (e.store.newDict (e.store.dict d).entries).2.equal (.dict d)
      (.dict ⟨e.store.dicts.size⟩) = true := by
    refine Store.equal_dict (Nat.lt_of_lt_of_le hd hgrown.dicts_le) ?_ ?_
    · rw [hsame]
      simp [Store.newDict, Store.dict, Array.getD_eq_getD_getElem?]
    · rw [hsame]
      exact hvalues
  refine of_tree (.dict trees) _ { e with store := _ } ?_ ?_ hgrown hequal
  · rw [htext]
    refine Expr.readSum_of_factor Expr.endsPart_nil ?_
    rw [Expr.readFactor_dict (Expr.dropBlanks_token (by decide)), hreads _ [] [] _ rfl]
    rfl
  · rw [Expr.eval, bind_apply, heval]
    have hentries := Entries.ofList_of_ordered hordered
    rw [Entries.ofList] at hentries
    rw [hentries]
    rfl

end ReadsAs

/-- The text that `string()` gives of a plain value is read to its end as an expression, which is
evaluated in the same editor to an equal value. -/
theorem string_reads_back {e : Editor} {v : Value} (hv : e.store.Plain v)
    (functions : UserFunctions) : callBuiltin "string" [v] e = .ok (.str (e.store.show v)) e ∧
      ReadsAs e functions (e.store.show v) v := by
  refine ⟨rfl, ?_⟩
  cases hv with
  | literal hv => exact .literal hv
  | list hexists hitems => exact .list hexists hitems
  | dict hexists hordered hvalues hkeys => exact .dict hexists hordered hvalues hkeys

/-- The variables of the first editor, as a dictionary. -/
theorem string_reads_back_variables :
    Editor.new.store.Plain (.dict Editor.new.editorVars) ∧
    Editor.new.store.show (.dict Editor.new.editorVars) =
      "\x7b'progname': 'vimpy', 'version': 900\x7d" ∧
    ReadsAs .new Functions.empty (Editor.new.store.show (.dict Editor.new.editorVars))
      (.dict Editor.new.editorVars) := by
  have hentries : (Editor.new.store.dict Editor.new.editorVars).entries =
      [("progname", .str "vimpy"), ("version", .number 900)] := rfl
  have hplain : Editor.new.store.Plain (.dict Editor.new.editorVars) := by
    refine .dict (by decide) ?_ ?_ ?_ <;> rw [hentries]
    · exact List.pairwise_pair.mpr (by decide)
    · simpa using ⟨Value.Literal.str "vimpy", Value.Literal.number (n := 900) (by decide)⟩
    · decide
  exact ⟨hplain, by decide +kernel, (string_reads_back hplain Functions.empty).2⟩

end ScriptBridge.Host
