import ScriptBridge.Host.Expr.Eval
import ScriptBridge.Proofs.Computation
import ScriptBridge.Proofs.Host.Reading

/-!
# Blanks around an expression

Blanks in front of an expression or behind it do not matter, nor does the text that a failure would
name. What reads as an expression reads as the same one then. What does not read as one has a tree
with a part at which the text fails, and no such tree has a value.
-/

namespace ScriptBridge.Host

open Text (isBlank dropBlanks)
open ScriptBridge.Computation

/-- An expression without a part at which the text fails. -/
inductive Expr.Whole : Expr → Prop where
  | number (n : Int64) : Whole (.number n)
  | float (x : Float) : Whole (.float x)
  | str (s : String) : Whole (.str s)
  | list {items : List Expr} (hitems : ∀ e ∈ items, Whole e) : Whole (.list items)
  | dict {entries : List (Expr × Expr)} (hkeys : ∀ p ∈ entries, Whole p.1)
      (hvalues : ∀ p ∈ entries, Whole p.2) : Whole (.dict entries)
  | variable (name : String) : Whole (.variable name)
  | call (function : String) {args : List Expr} (hargs : ∀ e ∈ args, Whole e) :
    Whole (.call function args)
  | negate {e : Expr} (he : Whole e) : Whole (.negate e)
  | binary (op : Operator) {left right : Expr} (hleft : Whole left) (hright : Whole right) :
    Whole (.binary op left right)

namespace Expr

/-! ### Values -/

mutual

/-- Only a whole expression has a value. -/
theorem whole_of_eval {functions : UserFunctions} {tree : Expr} {e e' : Editor} {v : Value}
    (h : tree.eval functions e = .ok v e') : tree.Whole := by
  cases tree with
  | number n => exact .number n
  | float x => exact .float x
  | str s => exact .str s
  | list items =>
    rw [eval] at h
    obtain ⟨vs, e₁, hitems, -⟩ := bind_ok h
    exact .list (whole_of_evalItems hitems)
  | dict entries =>
    rw [eval] at h
    obtain ⟨es, e₁, hentries, -⟩ := bind_ok h
    exact .dict (fun p hp => (whole_of_evalEntries hentries p hp).1)
      fun p hp => (whole_of_evalEntries hentries p hp).2
  | «variable» name => exact .variable name
  | call function args =>
    rw [eval] at h
    obtain ⟨vs, e₁, hargs, -⟩ := bind_ok h
    exact .call function (whole_of_evalItems hargs)
  | negate e =>
    rw [eval] at h
    obtain ⟨v, e₁, he, -⟩ := bind_ok h
    exact .negate (whole_of_eval he)
  | binary op left right =>
    rw [eval] at h
    obtain ⟨a, e₁, hleft, h⟩ := bind_ok h
    obtain ⟨b, e₂, hright, -⟩ := bind_ok h
    exact .binary op (whole_of_eval hleft) (whole_of_eval hright)
  | unfinished e error =>
    rw [eval] at h
    obtain ⟨v, e₁, -, h⟩ := bind_ok h
    cases h
  | malformed error =>
    rw [eval] at h
    cases h

theorem whole_of_evalItems {functions : UserFunctions} {trees : List Expr} {e e' : Editor}
    {vs : List Value} (h : evalItems functions trees e = .ok vs e') :
    ∀ tree ∈ trees, tree.Whole := by
  cases trees with
  | nil => exact fun _ hmem => nomatch hmem
  | cons tree trees =>
    rw [evalItems] at h
    obtain ⟨v, e₁, hfirst, h⟩ := bind_ok h
    obtain ⟨vs, e₂, hrest, -⟩ := bind_ok h
    exact List.forall_mem_cons.mpr ⟨whole_of_eval hfirst, whole_of_evalItems hrest⟩

theorem whole_of_evalEntries {functions : UserFunctions} {trees : List (Expr × Expr)}
    {done es : List (String × Value)} {e e' : Editor}
    (h : evalEntries functions trees done e = .ok es e') :
    ∀ p ∈ trees, p.1.Whole ∧ p.2.Whole := by
  cases trees with
  | nil => exact fun _ hmem => nomatch hmem
  | cons p trees =>
    obtain ⟨key, value⟩ := p
    rw [evalEntries] at h
    obtain ⟨k, e₁, hkey, h⟩ := bind_ok h
    obtain ⟨s, e₂, -, h⟩ := bind_ok h
    obtain ⟨v, e₃, hvalue, h⟩ := bind_ok h
    exact List.forall_mem_cons.mpr
      ⟨⟨whole_of_eval hkey, whole_of_eval hvalue⟩, whole_of_evalEntries h⟩

end

/-! ### Texts with blanks behind them -/

/-- A text is another one with blanks behind it, up to the blanks at the front of both. -/
def Follows (trail s s' : List Char) : Prop := dropBlanks s' = dropBlanks (s ++ trail)

section Follows

variable {trail s s' r : List Char} {c : Char}

theorem follows_append (trail s : List Char) : Follows trail s (s ++ trail) := rfl

theorem Follows.cons (h : Follows trail s s') (hs : dropBlanks s = c :: r) :
    dropBlanks s' = c :: (r ++ trail) := h.trans (Text.dropBlanks_append hs)

theorem Follows.nil (htrail : ∀ c ∈ trail, isBlank c = true) (h : Follows trail s s')
    (hs : dropBlanks s = []) : dropBlanks s' = [] := by
  rw [h]
  rw [Text.dropBlanks_eq_nil_iff] at hs ⊢
  exact fun c hc => (List.mem_append.mp hc).elim (hs c) (htrail c)

/-- Blanks at the front are passed over in both texts. -/
theorem Follows.dropBlanks (htrail : ∀ c ∈ trail, isBlank c = true) (h : Follows trail s s') :
    Follows trail (dropBlanks s) (dropBlanks s') := by
  cases hs : Text.dropBlanks s with
  | nil => rw [h.nil htrail hs, Follows, List.nil_append, Text.dropBlanks_eq_nil_iff.mpr htrail]; rfl
  | cons c r => rw [h.cons hs]; rfl

end Follows

/-! ### Readers of such texts -/

/-- What a reader answers for a text with blanks behind it. If it comes to the end of an expression
without the blanks, it does so with them, and leaves the blanks too; otherwise what it was stuck in
has no value. -/
def Carries (trail : List Char) : Option Parsed → Option Parsed → Prop
  | none, _ => True
  | some (.stuck tree), _ => ¬tree.Whole
  | some (.complete tree rest), b => ∃ rest', b = some (.complete tree rest') ∧ Follows trail rest rest'

variable {trail : List Char}

namespace Carries

variable {a b : Option Parsed} {tree : Expr} {rest rest' : List Char}

theorem stuck (h : ¬tree.Whole) : Carries trail (some (.stuck tree)) b := h

theorem malformed {error : HostError} : Carries trail (some (.stuck (.malformed error))) b := nofun

theorem complete (h : Follows trail rest rest') :
    Carries trail (some (.complete tree rest)) (some (.complete tree rest')) := ⟨rest', rfl, h⟩

/-- An answer that goes on. -/
theorem andThen {wrap : Expr → Expr} (hwrap : ∀ tree, (wrap tree).Whole → tree.Whole)
    {next next' : Expr → List Char → Option Parsed} : Carries trail a b →
    (∀ tree rest rest', Follows trail rest rest' →
      Carries trail (next (wrap tree) rest) (next' (wrap tree) rest')) →
    Carries trail (match a with | none => none | some p => p.andThen wrap next)
      (match b with | none => none | some p => p.andThen wrap next') := by
  intro hab hnext
  match a, hab with
  | none, _ => trivial
  | some (.stuck tree), htree => exact fun h => htree (hwrap tree h)
  | some (.complete tree rest), ⟨rest', hb, hrest⟩ =>
    subst hb
    exact hnext tree rest rest' hrest

/-- An answer that is a part of a sequence. -/
theorem part {stop : Expr → Expr} (hstop : ∀ tree, (stop tree).Whole → tree.Whole)
    {stop' : Expr → Option Parsed} {next next' : Expr → List Char → Option Parsed} :
    Carries trail a b →
    (∀ tree rest rest', Follows trail rest rest' → Carries trail (next tree rest) (next' tree rest')) →
    Carries trail (match a with
        | none => none
        | some (.stuck tree) => some (.stuck (stop tree))
        | some (.complete tree rest) => next tree rest)
      (match b with
        | none => none
        | some (.stuck tree) => stop' tree
        | some (.complete tree rest) => next' tree rest) := by
  intro hab hnext
  match a, hab with
  | none, _ => trivial
  | some (.stuck tree), htree => exact fun h => htree (hstop tree h)
  | some (.complete tree rest), ⟨rest', hb, hrest⟩ =>
    subst hb
    exact hnext tree rest rest' hrest

end Carries

section Parts

variable (htrail : ∀ c ∈ trail, isBlank c = true)

include htrail in
theorem readSingleQuoted_trail {s text rest : List Char}
    (h : readSingleQuoted s = some (text, rest)) :
    readSingleQuoted (s ++ trail) = some (text, rest ++ trail) := by
  fun_induction readSingleQuoted s generalizing text with
  | case1 => cases h
  | case2 s ih =>
    obtain ⟨⟨text', rest'⟩, hs, heq⟩ := Option.map_eq_some_iff.mp h
    cases heq
    simp only [List.cons_append, readSingleQuoted, ih hs, Option.map_some]
  | case3 s hquote =>
    cases h
    -- The blanks do not start with a quote that would double the one at the end.
    rw [List.cons_append]
    cases hs : rest ++ trail with
    | nil => rfl
    | cons c r =>
      have hc : c ≠ '\'' := by
        rintro rfl
        obtain ⟨t, rfl⟩ := Text.starts_of_append htrail (by decide) hs
        exact hquote t rfl rfl
      simp [readSingleQuoted, hc]
  | case4 c s hquote hc ih =>
    obtain ⟨⟨text', rest'⟩, hs, heq⟩ := Option.map_eq_some_iff.mp h
    cases heq
    simp [readSingleQuoted, hc, ih hs]

theorem readDoubleQuoted_trail {s text rest : List Char}
    (h : readDoubleQuoted s = some (text, rest)) :
    readDoubleQuoted (s ++ trail) = some (text, rest ++ trail) := by
  fun_induction readDoubleQuoted s generalizing text with
  | case1 => cases h
  | case2 s =>
    cases h
    rfl
  | case3 => cases h
  | case4 c s ih =>
    obtain ⟨⟨text', rest'⟩, hs, heq⟩ := Option.map_eq_some_iff.mp h
    cases heq
    simp [readDoubleQuoted, ih hs]
  | case5 c s hquote hslash hescape ih =>
    obtain ⟨⟨text', rest'⟩, hs, heq⟩ := Option.map_eq_some_iff.mp h
    cases heq
    have hc : c ≠ '\\' := by
      intro hc
      cases s with
      | nil => exact hslash hc rfl
      | cons d s => exact hescape d s hc rfl
    rw [List.cons_append, readDoubleQuoted, ih hs]
    · rfl
    · exact hquote
    · exact fun h _ => hc h
    · exact fun _ _ h _ => hc h

theorem carries_readQuoted {r r' : Option (List Char × List Char)} {missing missing' : HostError}
    (h : ∀ text rest, r = some (text, rest) → r' = some (text, rest ++ trail)) :
    Carries trail (some (readQuoted r missing)) (some (readQuoted r' missing')) := by
  match r, h with
  | none, _ => exact .malformed
  | some (text, rest), h =>
    rw [h text rest rfl]
    exact .complete rfl

/-- The text of a number is at the front of what it is read from. -/
theorem numberText_isPrefix (s : List Char) : numberText s <+: s := by
  have hnumeric := List.takeWhile_prefix isNumeric (l := s)
  have hdigits := List.takeWhile_prefix Char.isDigit (l := s.takeWhile isNumeric)
  unfold numberText
  dsimp only
  split
  · split
    · exact hnumeric
    · exact hdigits.trans hnumeric
  · exact hdigits.trans hnumeric

include htrail in
theorem carries_readNumber (s : List Char) :
    Carries trail (some (readNumber s)) (some (readNumber (s ++ trail))) := by
  have hnumeric : ∀ c ∈ trail, isNumeric c = false := fun c hc => Text.of_isBlank (by decide) (htrail c hc)
  have htext : numberText (s ++ trail) = numberText s := by
    unfold numberText
    rw [(Text.takeWhile_trail hnumeric s).1]
  unfold readNumber
  dsimp only
  rw [htext, List.drop_append_of_le_length (numberText_isPrefix s).length_le]
  split
  · exact .complete rfl
  · exact .malformed

end Parts

/-- The readers at some depth, for a text with blanks behind it. -/
structure Carried (trail : List Char) (src src' : String) (depth : Nat) : Prop where
  sum {s s' : List Char} (h : Follows trail s s') :
    Carries trail (sum? src depth s) (sum? src' depth s')
  sumTail (left : Expr) {s s' : List Char} (h : Follows trail s s') :
    Carries trail (sumTail? src depth left s) (sumTail? src' depth left s')
  product {s s' : List Char} (h : Follows trail s s') :
    Carries trail (product? src depth s) (product? src' depth s')
  productTail (left : Expr) {s s' : List Char} (h : Follows trail s s') :
    Carries trail (productTail? src depth left s) (productTail? src' depth left s')
  factor {s s' : List Char} (h : Follows trail s s') :
    Carries trail (factor? src depth s) (factor? src' depth s')
  items (close : Char) {wrap : List Expr → Expr}
    (hwrap : ∀ trees, (wrap trees).Whole → ∀ tree ∈ trees, tree.Whole) (done : List Expr)
    {s s' : List Char} (h : Follows trail s s') :
    Carries trail (items? src close wrap depth done s) (items? src' close wrap depth done s')
  entries (done : List (Expr × Expr)) {s s' : List Char} (h : Follows trail s s') :
    Carries trail (entries? src depth done s) (entries? src' depth done s')

namespace Carried

variable {src src' : String} {depth : Nat} {s s' : List Char}

/-- A product and the terms after it. -/
theorem terms (h : Carried trail src src' depth) {wrap : Expr → Expr}
    (hwrap : ∀ tree, (wrap tree).Whole → tree.Whole) (hs : Follows trail s s') :
    Carries trail (match product? src depth s with
        | none => none
        | some p => p.andThen wrap (sumTail? src depth))
      (match product? src' depth s' with
        | none => none
        | some p => p.andThen wrap (sumTail? src' depth)) :=
  (h.product hs).andThen hwrap fun tree _ _ hrest => h.sumTail (wrap tree) hrest

/-- A factor and the factors after it. -/
theorem factors (h : Carried trail src src' depth) {wrap : Expr → Expr}
    (hwrap : ∀ tree, (wrap tree).Whole → tree.Whole) (hs : Follows trail s s') :
    Carries trail (match factor? src depth s with
        | none => none
        | some p => p.andThen wrap (productTail? src depth))
      (match factor? src' depth s' with
        | none => none
        | some p => p.andThen wrap (productTail? src' depth)) :=
  (h.factor hs).andThen hwrap fun tree _ _ hrest => h.productTail (wrap tree) hrest

theorem sum_succ (h : Carried trail src src' depth) (hs : Follows trail s s') :
    Carries trail (sum? src (depth + 1) s) (sum? src' (depth + 1) s') := by
  rw [sum?, sum?]
  exact h.terms (fun _ h => h) hs

theorem product_succ (h : Carried trail src src' depth) (hs : Follows trail s s') :
    Carries trail (product? src (depth + 1) s) (product? src' (depth + 1) s') := by
  rw [product?, product?]
  exact h.factors (fun _ h => h) hs

/-- The second operand of an operator is a part of the whole. -/
theorem whole_right {op : Operator} {left right : Expr} (h : (Expr.binary op left right).Whole) :
    right.Whole := by
  cases h with
  | binary _ _ hright => exact hright

variable (htrail : ∀ c ∈ trail, isBlank c = true)

/-- One point joins two texts where no second one follows it. -/
theorem sumTail?_point {left : Expr} {r : List Char} (h : dropBlanks s = '.' :: r)
    (hr : ∀ t, r ≠ '.' :: t) : sumTail? src (depth + 1) left s =
      match product? src depth r with
      | none => none
      | some p => p.andThen (.binary .concat left) (sumTail? src depth) := by
  rw [sumTail?, h]
  split
  case h_3 heq =>
    obtain ⟨-, heq⟩ := List.cons_eq_cons.mp heq
    exact absurd heq (hr _)
  case h_4 heq =>
    cases heq
    rfl
  case h_5 hpoint => exact absurd rfl (hpoint r)
  all_goals
    rename_i heq
    cases heq

include htrail in
theorem sumTail_succ (h : Carried trail src src' depth) (left : Expr) (hs : Follows trail s s') :
    Carries trail (sumTail? src (depth + 1) left s) (sumTail? src' (depth + 1) left s') := by
  have hrest : Follows trail (dropBlanks s) (dropBlanks s') := hs.dropBlanks htrail
  rw [sumTail?]
  cases hdrop : dropBlanks s with
  | nil =>
    rw [sumTail?, hs.nil htrail hdrop]
    rw [hdrop, hs.nil htrail hdrop] at hrest
    exact .complete hrest
  | cons c r =>
    have hdrop' := hs.cons hdrop
    split
    case h_4 r hpoints heq =>
      cases heq
      have hnext : ∀ t, r ++ trail ≠ '.' :: t := by
        intro t ht
        obtain ⟨r', rfl⟩ := Text.starts_of_append htrail (by decide) ht
        exact hpoints r' rfl
      rw [sumTail?_point hdrop' hnext]
      exact h.terms (fun _ => whole_right) (follows_append trail _)
    case h_5 hadd hsubtract hpoints hpoint =>
      rw [sumTail?, hdrop']
      split
      case h_5 => exact .complete rfl
      all_goals
        rename_i heq
        obtain ⟨rfl, -⟩ := List.cons_eq_cons.mp heq
      · exact absurd rfl (hadd _)
      · exact absurd rfl (hsubtract _)
      · exact absurd rfl (hpoint _)
      · exact absurd rfl (hpoint _)
    all_goals
      rename_i heq
      cases heq
      rw [sumTail?, hdrop']
      exact h.terms (fun _ => whole_right) (follows_append trail _)

include htrail in
theorem productTail_succ (h : Carried trail src src' depth) (left : Expr)
    (hs : Follows trail s s') :
    Carries trail (productTail? src (depth + 1) left s) (productTail? src' (depth + 1) left s') := by
  have hrest : Follows trail (dropBlanks s) (dropBlanks s') := hs.dropBlanks htrail
  rw [productTail?]
  cases hdrop : dropBlanks s with
  | nil =>
    rw [productTail?, hs.nil htrail hdrop]
    rw [hdrop, hs.nil htrail hdrop] at hrest
    exact .complete hrest
  | cons c r =>
    have hdrop' := hs.cons hdrop
    split
    case h_4 hmultiply hdivide hremainder =>
      rw [productTail?, hdrop']
      split
      case h_4 => exact .complete rfl
      all_goals
        rename_i heq
        obtain ⟨rfl, -⟩ := List.cons_eq_cons.mp heq
      · exact absurd rfl (hmultiply _)
      · exact absurd rfl (hdivide _)
      · exact absurd rfl (hremainder _)
    all_goals
      rename_i heq
      cases heq
      rw [productTail?, hdrop']
      exact h.factors (fun _ => whole_right) (follows_append trail _)

/-- A name, with the arguments of a call or without any. -/
theorem name_succ (h : Carried trail src src' depth) (htrail : ∀ c ∈ trail, isBlank c = true)
    (name : String) (s : List Char) :
    Carries trail
      (match dropBlanks s with
        | '(' :: rest => items? src ')' (.call name) depth [] rest
        | rest => some (.complete (.variable name) rest))
      (match dropBlanks (s ++ trail) with
        | '(' :: rest => items? src' ')' (.call name) depth [] rest
        | rest => some (.complete (.variable name) rest)) := by
  have hrest := (follows_append trail s).dropBlanks htrail
  cases hdrop : dropBlanks s with
  | nil =>
    rw [hdrop, (follows_append trail s).nil htrail hdrop] at hrest
    rw [(follows_append trail s).nil htrail hdrop]
    exact .complete hrest
  | cons c r =>
    rw [Text.dropBlanks_append hdrop]
    split
    · rename_i heq
      cases heq
      refine h.items ')' (fun trees hcall => ?_) [] (follows_append trail _)
      cases hcall with
      | call _ hargs => exact hargs
    · rename_i hopen
      split
      · rename_i heq
        obtain ⟨rfl, -⟩ := List.cons_eq_cons.mp heq
        exact absurd rfl (hopen _)
      · exact .complete rfl

include htrail in
theorem factor_succ (h : Carried trail src src' depth) (hs : Follows trail s s') :
    Carries trail (factor? src (depth + 1) s) (factor? src' (depth + 1) s') := by
  rw [factor?]
  cases hdrop : dropBlanks s with
  | nil => exact .malformed
  | cons c r =>
    have hdrop' := hs.cons hdrop
    split
    case h_1 heq => cases heq
    case h_8 heq =>
      cases heq
      split
      · rename_i hdigit
        rw [factor?_number hdrop' hdigit]
        exact carries_readNumber htrail (c :: r)
      split
      · rename_i hname
        have hends : ∀ d ∈ trail, isNameChar d = false := fun d hd =>
          Text.of_isBlank (by decide) (htrail d hd)
        obtain ⟨htake, hdropped⟩ := Text.takeWhile_trail hends (c :: r)
        rw [List.cons_append] at htake hdropped
        rw [factor?_name hdrop' hname, htake, hdropped]
        exact h.name_succ htrail _ _
      · exact .malformed
    all_goals
      rename_i heq
      cases heq
      rw [factor?, hdrop']
    case h_2 =>
      refine (h.factor (follows_append trail _)).andThen (fun tree hwhole => ?_)
        fun _ _ _ hrest => .complete hrest
      cases hwhole with
      | negate he => exact he
    case h_3 =>
      refine (h.sum (follows_append trail _)).andThen (fun _ h => h) fun tree rest rest' hrest => ?_
      cases hclose : dropBlanks rest with
      | nil => exact .stuck (by rintro ⟨⟩)
      | cons d t =>
        rw [hrest.cons hclose]
        split
        · rename_i heq
          cases heq
          exact .complete rfl
        · exact .stuck (by rintro ⟨⟩)
    case h_4 => exact carries_readQuoted fun _ _ => readSingleQuoted_trail htrail
    case h_5 => exact carries_readQuoted fun _ _ => readDoubleQuoted_trail
    case h_6 =>
      refine h.items ']' (fun trees hlist => ?_) [] (follows_append trail _)
      cases hlist with
      | list hitems => exact hitems
    case h_7 => exact h.entries [] (follows_append trail _)

theorem items_succ (h : Carried trail src src' depth) (close : Char) {wrap : List Expr → Expr}
    (hwrap : ∀ trees, (wrap trees).Whole → ∀ tree ∈ trees, tree.Whole) (done : List Expr)
    (hs : Follows trail s s') :
    Carries trail (items? src close wrap (depth + 1) done s)
      (items? src' close wrap (depth + 1) done s') := by
  have hlast (done : List Expr) (tree : Expr) (hwhole : (wrap (done ++ [tree])).Whole) :
      tree.Whole := hwrap _ hwhole tree (by simp)
  have hbroken (done : List Expr) (error : HostError) :
      ¬(wrap (done ++ [.malformed error])).Whole := fun hwhole => nomatch hlast _ _ hwhole
  rw [items?]
  cases hdrop : dropBlanks s with
  | nil => exact .stuck (hbroken _ _)
  | cons c r =>
    rw [items?, hs.cons hdrop]
    dsimp only
    split
    · exact .complete rfl
    · refine (h.sum (follows_append trail (c :: r))).part (hlast done) fun tree rest rest' hrest => ?_
      cases hnext : dropBlanks rest with
      | nil => exact .stuck (hbroken _ _)
      | cons d t =>
        rw [hrest.cons hnext]
        dsimp only
        split
        · exact h.items close hwrap _ (follows_append trail _)
        · split
          · exact .complete rfl
          · exact .stuck (hbroken _ _)

theorem entries_succ (h : Carried trail src src' depth) (done : List (Expr × Expr))
    (hs : Follows trail s s') :
    Carries trail (entries? src (depth + 1) done s) (entries? src' (depth + 1) done s') := by
  have hlast (done : List (Expr × Expr)) (key value : Expr)
      (hwhole : (Expr.dict (done ++ [(key, value)])).Whole) : key.Whole ∧ value.Whole := by
    cases hwhole with
    | dict hkeys hvalues => exact ⟨hkeys (key, value) (by simp), hvalues (key, value) (by simp)⟩
  have hkey (done : List (Expr × Expr)) (error : HostError) (value : Expr) :
      ¬(Expr.dict (done ++ [(.malformed error, value)])).Whole :=
    fun hwhole => nomatch (hlast _ _ _ hwhole).1
  have hvalue (done : List (Expr × Expr)) (error : HostError) (key : Expr) :
      ¬(Expr.dict (done ++ [(key, .malformed error)])).Whole :=
    fun hwhole => nomatch (hlast _ _ _ hwhole).2
  rw [entries?]
  cases hdrop : dropBlanks s with
  | nil => exact .stuck (hkey _ _ _)
  | cons c r =>
    rw [entries?, hs.cons hdrop]
    dsimp only
    split
    · exact .complete rfl
    · refine (h.sum (follows_append trail (c :: r))).part
        (fun _ hwhole => (hlast done _ _ hwhole).1) fun key rest rest' hrest => ?_
      cases hcolon : dropBlanks rest with
      | nil => exact .stuck (hvalue _ _ _)
      | cons d t =>
        rw [hrest.cons hcolon]
        split
        · rename_i heq
          cases heq
          refine (h.sum (follows_append trail t)).part
            (fun _ hwhole => (hlast done _ _ hwhole).2) fun value rest rest' hrest => ?_
          cases hnext : dropBlanks rest with
          | nil => exact .stuck (hkey _ _ _)
          | cons d t =>
            rw [hrest.cons hnext]
            split
            · rename_i heq
              cases heq
              exact h.entries _ (follows_append trail _)
            · rename_i heq
              cases heq
              exact .complete rfl
            · exact .stuck (hkey _ _ _)
        · exact .stuck (hvalue _ _ _)

end Carried

theorem carried (htrail : ∀ c ∈ trail, isBlank c = true) (src src' : String) (depth : Nat) :
    Carried trail src src' depth := by
  induction depth with
  | zero => constructor <;> intros <;> trivial
  | succ depth ih =>
    exact ⟨ih.sum_succ, fun left _ _ => ih.sumTail_succ htrail left, ih.product_succ,
      fun left _ _ => ih.productTail_succ htrail left, ih.factor_succ htrail,
      fun close _ hwrap done _ _ => ih.items_succ close hwrap done,
      fun done _ _ => ih.entries_succ done⟩

theorem carries_readSum (htrail : ∀ c ∈ trail, isBlank c = true) (src src' : String)
    {s s' : List Char} (hs : Follows trail s s') :
    Carries trail (some (readSum src s)) (some (readSum src' s')) := by
  have hcarries := (carried htrail src src' (4 * (s.length + s'.length) + 3)).sum hs
  rwa [sum?_eq (by omega), sum?_eq (by omega)] at hcarries

/-- A text that reads as a whole expression reads as the same one with other blanks in front of it
and more of them behind it. -/
theorem ofText_blanks (htrail : ∀ c ∈ trail, isBlank c = true) {src src' : String}
    (hsrc : Follows trail src.toList src'.toList) (h : (ofText src).Whole) :
    ofText src' = ofText src := by
  have hcarries := carries_readSum htrail src src' hsrc
  rw [ofText, read_eq] at h ⊢
  rw [ofText, read_eq]
  cases hread : readSum src src.toList with
  | stuck tree =>
    rw [hread] at h hcarries
    exact absurd h hcarries
  | complete tree rest =>
    rw [hread] at h hcarries
    obtain ⟨rest', hread', hrest⟩ := hcarries
    rw [Option.some.inj hread']
    dsimp only at h ⊢
    cases hdrop : dropBlanks rest with
    | nil => rw [hrest.nil htrail hdrop]
    | cons c r =>
      rw [hdrop] at h
      cases h

end Expr

/-- A text that has a value has the same one with other blanks in front of it and more of them
behind it, and what its evaluation does to the editor is the same. -/
theorem evalText_blanks {trail : List Char} (htrail : ∀ c ∈ trail, isBlank c = true)
    {src src' : String} (hsrc : Expr.Follows trail src.toList src'.toList)
    {functions : UserFunctions} {e e' : Editor} {v : Value}
    (h : evalText functions src e = .ok v e') : evalText functions src' e = .ok v e' := by
  rw [evalText, Expr.ofText_blanks htrail hsrc (Expr.whole_of_eval h)]
  exact h

end ScriptBridge.Host
