import ScriptBridge.Decimal.Reading
import ScriptBridge.Host.Error
import ScriptBridge.Text.Class
import ScriptBridge.Text.Integer

/-!
# Expressions and how they are read

The tree of a host expression. A text that stops being an expression at some point still has a
tree: what was read before that point is evaluated first, so the failure is a part of the tree.

An expression is a sum of products of factors; blanks may stand between any two of its parts. The
readers take a bound on their nesting, and `Expr.read` gives them one that the length of the text
never exceeds.
-/

namespace ScriptBridge.Host

open Text (dropBlanks)

/-! ### Trees -/

/-- An operator between two expressions. -/
inductive Operator where
  | add
  | subtract
  | concat
  | multiply
  | divide
  | remainder
deriving DecidableEq

/-- A host expression. -/
inductive Expr where
  | number (n : Int64)
  | float (x : Float)
  | str (s : String)
  | list (items : List Expr)
  | dict (entries : List (Expr × Expr))
  | variable (name : String)
  | call (function : String) (args : List Expr)
  | negate (e : Expr)
  | binary (op : Operator) (left right : Expr)
  /-- The text fails once this expression has been evaluated. -/
  | unfinished (e : Expr) (error : HostError)
  /-- The text fails here. -/
  | malformed (error : HostError)
deriving Inhabited

/-- An expression read from the front of a text: all of it, with the text that is left, or up to
the point where the text fails. -/
inductive Parsed where
  | complete (tree : Expr) (rest : List Char)
  | stuck (tree : Expr)

/-- Goes on after an expression, which becomes a part of a larger one. -/
def Parsed.andThen (p : Parsed) (wrap : Expr → Expr)
    (next : Expr → List Char → Option Parsed) : Option Parsed :=
  match p with
  | .complete tree rest => next (wrap tree) rest
  | .stuck tree => some (.stuck (wrap tree))

/-! ### Readers -/

/-- The inside of a single-quoted string, where two quotes stand for one, and what follows it. -/
def readSingleQuoted : List Char → Option (List Char × List Char)
  | [] => none
  | '\'' :: '\'' :: s => (readSingleQuoted s).map fun r => ('\'' :: r.1, r.2)
  | c :: s => if c = '\'' then some ([], s) else (readSingleQuoted s).map fun r => (c :: r.1, r.2)

/-- The character that an escaped one stands for. -/
def unescape : Char → Char
  | 'n' => '\n'
  | 't' => '\t'
  | 'r' => '\r'
  | '0' => Char.ofNat 0
  | c => c

/-- The inside of a double-quoted string, where a backslash escapes, and what follows it. -/
def readDoubleQuoted : List Char → Option (List Char × List Char)
  | [] => none
  | '"' :: s => some ([], s)
  | '\\' :: [] => none
  | '\\' :: c :: s => (readDoubleQuoted s).map fun r => (unescape c :: r.1, r.2)
  | c :: s => (readDoubleQuoted s).map fun r => (c :: r.1, r.2)

/-- A character of a number. -/
def isNumeric (c : Char) : Bool := c.isDigit || c = '.'

/-- The text of a number: digits and points, but digits only if the first point is not followed by
a digit, since that point joins two texts. -/
def numberText (s : List Char) : List Char :=
  let text := s.takeWhile isNumeric
  match text.dropWhile Char.isDigit with
  | '.' :: c :: _ => if c.isDigit then text else text.takeWhile Char.isDigit
  | _ => text.takeWhile Char.isDigit

/-- A number at the front of a text. -/
def readNumber (s : List Char) : Parsed :=
  let text := numberText s
  let value :=
    if text.contains '.' then (Decimal.readFloat? text).map Expr.float
    else (Text.readInt64? text).map Expr.number
  match value with
  | some tree => .complete tree (s.drop text.length)
  | none => .stuck (.malformed (.invalidExpression (String.ofList text)))

/-- A character of a variable or function name. -/
def isNameChar (c : Char) : Bool := c.isAlphanum || c = '_' || c = ':' || c = '#'

/-- A string between quotes, or the failure that its quote is missing. -/
def readQuoted (r : Option (List Char × List Char)) (missing : HostError) : Parsed :=
  match r with
  | some (text, rest) => .complete (.str (String.ofList text)) rest
  | none => .stuck (.malformed missing)

namespace Expr

mutual

/-- A sum at the front of a text. -/
def sum? (src : String) : Nat → List Char → Option Parsed
  | 0, _ => none
  | depth + 1, s =>
    match product? src depth s with
    | none => none
    | some p => p.andThen id (sumTail? src depth)

/-- The further terms of a sum. -/
def sumTail? (src : String) : Nat → Expr → List Char → Option Parsed
  | 0, _, _ => none
  | depth + 1, left, s =>
    match dropBlanks s with
    | '+' :: r =>
      match product? src depth r with
      | none => none
      | some p => p.andThen (.binary .add left) (sumTail? src depth)
    | '-' :: r =>
      match product? src depth r with
      | none => none
      | some p => p.andThen (.binary .subtract left) (sumTail? src depth)
    | '.' :: '.' :: r =>
      match product? src depth r with
      | none => none
      | some p => p.andThen (.binary .concat left) (sumTail? src depth)
    | '.' :: r =>
      match product? src depth r with
      | none => none
      | some p => p.andThen (.binary .concat left) (sumTail? src depth)
    | r => some (.complete left r)

/-- A product at the front of a text. -/
def product? (src : String) : Nat → List Char → Option Parsed
  | 0, _ => none
  | depth + 1, s =>
    match factor? src depth s with
    | none => none
    | some p => p.andThen id (productTail? src depth)

/-- The further factors of a product. -/
def productTail? (src : String) : Nat → Expr → List Char → Option Parsed
  | 0, _, _ => none
  | depth + 1, left, s =>
    match dropBlanks s with
    | '*' :: r =>
      match factor? src depth r with
      | none => none
      | some p => p.andThen (.binary .multiply left) (productTail? src depth)
    | '/' :: r =>
      match factor? src depth r with
      | none => none
      | some p => p.andThen (.binary .divide left) (productTail? src depth)
    | '%' :: r =>
      match factor? src depth r with
      | none => none
      | some p => p.andThen (.binary .remainder left) (productTail? src depth)
    | r => some (.complete left r)

/-- A factor at the front of a text. -/
def factor? (src : String) : Nat → List Char → Option Parsed
  | 0, _ => none
  | depth + 1, s =>
    match dropBlanks s with
    | [] => some (.stuck (.malformed (.invalidExpression "")))
    | '-' :: r =>
      match factor? src depth r with
      | none => none
      | some p => p.andThen .negate fun tree rest => some (.complete tree rest)
    | '(' :: r =>
      match sum? src depth r with
      | none => none
      | some p => p.andThen id fun tree rest =>
        match dropBlanks rest with
        | ')' :: rest => some (.complete tree rest)
        | _ => some (.stuck (.unfinished tree (.invalidExpression src)))
    | '\'' :: r => some (readQuoted (readSingleQuoted r) (.missingSingleQuote src))
    | '"' :: r => some (readQuoted (readDoubleQuoted r) (.missingDoubleQuote src))
    | '[' :: r => items? src ']' .list depth [] r
    | '\x7b' :: r => entries? src depth [] r
    | c :: r =>
      if c.isDigit then some (readNumber (c :: r))
      else if c.isAlpha || c = '_' then
        let name := String.ofList ((c :: r).takeWhile isNameChar)
        match dropBlanks ((c :: r).dropWhile isNameChar) with
        | '(' :: rest => items? src ')' (.call name) depth [] rest
        | rest => some (.complete (.variable name) rest)
      else some (.stuck (.malformed (.invalidExpression src)))

/-- Expressions between commas up to a closing bracket. A comma may stand after the last one. -/
def items? (src : String) (close : Char) (wrap : List Expr → Expr) :
    Nat → List Expr → List Char → Option Parsed
  | 0, _, _ => none
  | depth + 1, done, s =>
    match dropBlanks s with
    | [] => some (.stuck (wrap (done ++ [.malformed (.invalidExpression "")])))
    | c :: r =>
      if c = close then some (.complete (wrap done) r)
      else
        match sum? src depth (c :: r) with
        | none => none
        | some (.stuck tree) => some (.stuck (wrap (done ++ [tree])))
        | some (.complete tree rest) =>
          let done := done ++ [tree]
          match dropBlanks rest with
          | [] => some (.stuck (wrap (done ++ [.malformed (.invalidExpression src)])))
          | c :: r =>
            if c = ',' then items? src close wrap depth done r
            else if c = close then some (.complete (wrap done) r)
            else some (.stuck (wrap (done ++ [.malformed (.invalidExpression src)])))

/-- The entries of a dictionary up to its closing brace. -/
def entries? (src : String) : Nat → List (Expr × Expr) → List Char → Option Parsed
  | 0, _, _ => none
  | depth + 1, done, s =>
    let failed (error : HostError) (done : List (Expr × Expr)) : Option Parsed :=
      some (.stuck (.dict (done ++ [(.malformed error, .str "")])))
    match dropBlanks s with
    | [] => failed (.invalidExpression "") done
    | c :: r =>
      if c = '\x7d' then some (.complete (.dict done) r)
      else
        match sum? src depth (c :: r) with
        | none => none
        | some (.stuck key) => some (.stuck (.dict (done ++ [(key, .str "")])))
        | some (.complete key rest) =>
          match dropBlanks rest with
          | ':' :: rest =>
            match sum? src depth rest with
            | none => none
            | some (.stuck value) => some (.stuck (.dict (done ++ [(key, value)])))
            | some (.complete value rest) =>
              let done := done ++ [(key, value)]
              match dropBlanks rest with
              | ',' :: r => entries? src depth done r
              | '\x7d' :: r => some (.complete (.dict done) r)
              | _ => failed (.invalidExpression src) done
          | _ =>
            some (.stuck (.dict (done ++ [(key, .malformed (.invalidExpression src))])))

end

/-- How deep reading a text can nest. -/
def depthBound (s : List Char) : Nat := 4 * s.length + 4

/-- The expression at the front of a text; `src` is the text that failures name. -/
def read (src : String) (s : List Char) : Parsed :=
  (sum? src (depthBound s) s).getD (.stuck (.malformed (.invalidExpression src)))

/-- Expressions one after another up to the end of a text or the point where it fails. -/
def readAllWithin (src : String) : Nat → List Char → List Expr
  | 0, _ => []
  | count + 1, s =>
    if (dropBlanks s).isEmpty then []
    else
      match read src s with
      | .complete tree rest => tree :: readAllWithin src count rest
      | .stuck tree => [tree]

/-- Expressions one after another; each takes at least one character. -/
def readAll (src : String) : List Expr :=
  readAllWithin src src.toList.length src.toList

/-- A text that is one expression; what follows it makes it fail after its evaluation. -/
def ofText (src : String) : Expr :=
  match read src src.toList with
  | .stuck tree => tree
  | .complete tree rest =>
    match dropBlanks rest with
    | [] => tree
    | rest => .unfinished tree (.trailingCharacters (String.ofList rest))

end Expr

end ScriptBridge.Host
