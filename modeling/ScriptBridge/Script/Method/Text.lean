import ScriptBridge.Script.Method.Sequence
import ScriptBridge.Text.Upper
import ScriptBridge.Text.Utf8

/-!
# Methods of texts

Searching, cutting and joining texts. Letters are lower-cased by ASCII rules.
-/

namespace ScriptBridge.Script

open Foreign (ObjRef Object)

/-! ### Texts as lists of characters -/

/-- A character that words are separated by. -/
def isSpace (c : Char) : Bool := Text.isBlank c || (0x1c ≤ c.toNat && c.toNat ≤ 0x1f)

/-- The position of the first occurrence of a part, counted from `i`. -/
def findPart? (part : List Char) : Nat → List Char → Option Nat
  | i, [] => if part.isEmpty then some i else none
  | i, c :: rest => if part.isPrefixOf (c :: rest) then some i else findPart? part (i + 1) rest

/-- The position of the last occurrence of a part, counted from `i`. -/
def findLastPart? (part : List Char) : Nat → List Char → Option Nat
  | i, [] => if part.isEmpty then some i else none
  | i, c :: rest =>
    findLastPart? part (i + 1) rest <|> if part.isPrefixOf (c :: rest) then some i else none

/-- Cuts a text at a part that is not empty, at most `n` times. The second list holds what lies
between the last cut and the rest, backwards. -/
def cutAt (part : List Char) : Nat → Nat → List Char → List Char → List (List Char)
  | _, _, piece, [] => [piece.reverse]
  | 0, _, piece, rest => [piece.reverse ++ rest]
  | n + 1, 0, piece, c :: rest =>
    if part.isPrefixOf (c :: rest) then piece.reverse :: cutAt part n (part.length - 1) [] rest
    else cutAt part (n + 1) 0 (c :: piece) rest
  | n + 1, skip + 1, piece, _ :: rest => cutAt part (n + 1) skip piece rest

/-- The words of a text, at most `n` cut off; what is behind them is the last one. There are no more
than `fuel` words. -/
def words : Nat → Nat → List Char → List (List Char)
  | 0, _, _ => []
  | fuel + 1, n, s =>
    let s := s.dropWhile isSpace
    if s.isEmpty then []
    else match n with
      | 0 => [(s.reverse.dropWhile isSpace).reverse]
      | n + 1 =>
        s.takeWhile (!isSpace ·) :: words fuel n (s.dropWhile (!isSpace ·))

/-- The lines of a text, with or without their ends; a carriage return ends a line too. There are no
more than `fuel` lines. -/
def textLines (keepEnds : Bool) : Nat → List Char → List (List Char)
  | 0, _ => []
  | _, [] => []
  | fuel + 1, s =>
    let ends (c : Char) : Bool :=
      (0xa ≤ c.toNat && c.toNat ≤ 0xd) || (0x1c ≤ c.toNat && c.toNat ≤ 0x1e) ||
        c.toNat == 0x85 || c.toNat == 0x2028 || c.toNat == 0x2029
    let line := s.takeWhile (!ends ·)
    let shown (e : List Char) : List Char := if keepEnds then line ++ e else line
    match s.drop line.length with
    | '\r' :: '\n' :: rest => shown ['\r', '\n'] :: textLines keepEnds fuel rest
    | c :: rest => shown [c] :: textLines keepEnds fuel rest
    | [] => [line]

/-- A letter in upper case. -/
def upperChar (c : Char) : List Char := (Text.upper c.toString).toList

/-- A text with its words in lower case but for their first letters; `inWord` tells whether a letter
comes before. -/
def titled : Bool → List Char → List Char
  | _, [] => []
  | inWord, c :: rest =>
    (if inWord then [c.toLower] else upperChar c) ++ titled c.isAlpha rest

/-- A text with blanks in place of tabulators, up to the next multiple of a width; `column` counts
what stands before on the line. -/
def withoutTabs (width column : Nat) : List Char → List Char
  | [] => []
  | '\t' :: rest =>
    let n := if width = 0 then 0 else width - column % width
    List.replicate n ' ' ++ withoutTabs width (column + n) rest
  | c :: rest => c :: withoutTabs width (if c = '\n' || c = '\r' then 0 else column + 1) rest

/-! ### Methods -/

/-- How many arguments a method of texts takes. -/
def textSignature : String → Signature
  | "join" | "partition" | "rpartition" | "removeprefix" | "removesuffix" | "zfill"
  | "__format__" => .one
  | "strip" | "lstrip" | "rstrip" => .between 0 1
  | "find" | "rfind" | "index" | "rindex" | "count" | "startswith" | "endswith" => .counted 1 3
  | "replace" => .between 2 3
  | "center" | "ljust" | "rjust" => .between 1 2
  | "split" | "rsplit" | "splitlines" | "expandtabs" | "encode" | "format" | "format_map"
  | "translate" => .any
  | _ => .none

/-- A text argument. -/
def textOf (refusal : String → String) (r : ObjRef) : Act ForeignError (List Char) := do
  match ← Bridge.object r with
  | .str s => pure s.toList
  | _ => typeError (refusal (← Bridge.qualifiedType r))

/-- A new text. -/
def newText (s : List Char) : Act ForeignError ObjRef := Bridge.alloc (.str (String.ofList s))

/-- A new list of texts. -/
def newTexts (parts : List (List Char)) : Act ForeignError ObjRef := do
  Bridge.alloc (.list (← Bridge.allocAll (parts.map fun s => .str (String.ofList s))))

/-- A text without characters at its ends. -/
def stripText (s : List Char) (name : String) (args : List ObjRef) : Act ForeignError ObjRef := do
  let isOut : Char → Bool ← match args with
    | [x] => do
      match ← Bridge.object x with
      | .null => pure isSpace
      | _ =>
        let out ← textOf (fun _ => name ++ " arg must be None or str") x
        pure fun c => out.contains c
    | _ => pure isSpace
  let front := if name = "rstrip" then s else s.dropWhile isOut
  newText (if name = "lstrip" then front else (front.reverse.dropWhile isOut).reverse)

/-- An argument that is given by its position or by its name. -/
def argument? (args : List ObjRef) (keywords : Keywords) (i : Nat) (name : String) :
    Option ObjRef :=
  args[i]? <|> keywords.lookup name

/-- Refuses too many arguments, or one with a name that a method does not know. -/
def demandNamed (method : String) (args : List ObjRef) (keywords : Keywords)
    (known : List String) : Act ForeignError Unit := do
  let given := args.length + keywords.length
  if known.length < given then
    typeError (method ++ "() takes at most " ++ countedArguments known.length ++ " (" ++
      toString given ++ " given)")
  match keywords.find? fun k => !known.contains k.1 with
  | some k => typeError ("'" ++ k.1 ++ "' is an invalid keyword argument for " ++ method ++ "()")
  | none => pure ()

/-- Cuts a text into parts, from its end if `last`. -/
def splitText (s : List Char) (name : String) (args : List ObjRef) (keywords : Keywords) :
    Act ForeignError ObjRef := do
  demandNamed name args keywords ["sep", "maxsplit"]
  let last := name = "rsplit"
  let turn (s : List Char) : List Char := if last then s.reverse else s
  let answer (parts : List (List Char)) : Act ForeignError ObjRef :=
    newTexts (if last then parts.reverse.map List.reverse else parts)
  let limit ← match argument? args keywords 1 "maxsplit" with
    | some n => countOf n
    | none => pure (-1)
  let n := if limit < 0 then s.length + 1 else limit.toNat
  let separator ← (argument? args keywords 0 "sep").mapM Bridge.object
  match argument? args keywords 0 "sep", separator with
  | none, _ | _, none | _, some .null => answer (words (s.length + 1) n (turn s))
  | some x, some _ =>
    let part ← textOf (fun t => "must be str or None, not " ++ t) x
    if part.isEmpty then valueError "empty separator"
    answer (cutAt (turn part) n 0 [] (turn s))

/-- Cuts a text into lines. -/
def splitLines (s : List Char) (args : List ObjRef) (keywords : Keywords) :
    Act ForeignError ObjRef := do
  demandNamed "splitlines" args keywords ["keepends"]
  let keepEnds ← match argument? args keywords 0 "keepends" with
    | some x => do pure ((← integerOf x) != 0)
    | none => pure false
  newTexts (textLines keepEnds (s.length + 1) s)

/-- A text without tabulators. -/
def expandTabs (s : List Char) (args : List ObjRef) (keywords : Keywords) :
    Act ForeignError ObjRef := do
  demandNamed "expandtabs" args keywords ["tabsize"]
  let width ← match argument? args keywords 0 "tabsize" with
    | some x => integerOf x
    | none => pure 8
  newText (withoutTabs width.toNat 0 s)

/-- A bound of the part of a text that is searched, which need not be given. -/
def textBound (len : Nat) (unset : Nat) (r : ObjRef) : Act ForeignError Nat := do
  match ← Bridge.object r, integer? (← get) r with
  | .null, _ => return unset
  | _, some n => return (if n < 0 then n + len else n).toNat
  | _, none => typeError "slice indices must be integers or None or have an __index__ method"

/-- The bounds of the part of a text that is searched. -/
def textBounds (len : Nat) (bounds : List ObjRef) : Act ForeignError (Nat × Nat) := do
  let low ← (bounds[0]?).mapM (textBound len 0)
  let high ← (bounds[1]?).mapM (textBound len len)
  return (low.getD 0, min (high.getD len) len)

/-- The texts between which a text stands. -/
def joinText (s : List Char) (x : ObjRef) : Act ForeignError ObjRef := do
  let items ← itemsOr "can only join an iterable" x
  let parts ← items.zipIdx.mapM fun e =>
    textOf (fun t => "sequence item " ++ toString e.2 ++ ": expected str instance, " ++ t ++
      " found") e.1
  newText (List.intercalate s parts)

/-- Searches a text for a part. -/
def searchText (s : List Char) (name : String) (x : ObjRef) (bounds : List ObjRef) :
    Act ForeignError ObjRef := do
  let (low, high) ← textBounds s.length bounds
  let part ← textOf (fun t => "must be str, not " ++ t) x
  let within := (s.take high).drop low
  let fits := low ≤ high
  let found := if !fits then none
    else if name.startsWith "r" then findLastPart? part low within else findPart? part low within
  match name, found with
  | "count", _ =>
    let n := if !fits then 0 else if part.isEmpty then within.length + 1
      else (cutAt part (within.length + 1) 0 [] within).length - 1
    Bridge.alloc (.int n)
  | _, some i => Bridge.alloc (.int i)
  | "find", none | "rfind", none => Bridge.alloc (.int (-1))
  | _, none => valueError "substring not found"

/-- Whether a text begins or ends with a part, or one of several. -/
def touchesText (s : List Char) (name : String) (x : ObjRef) (bounds : List ObjRef) :
    Act ForeignError ObjRef := do
  let (low, high) ← textBounds s.length bounds
  let within := (s.take high).drop low
  let touches (part : List Char) : Bool :=
    low ≤ high && (if name = "startswith" then part.isPrefixOf within else part.isSuffixOf within)
  let refusal (t : String) : String :=
    name ++ " first arg must be str or a tuple of str, not " ++ t
  let parts ← match ← Bridge.object x with
    | .tuple items =>
      items.mapM (textOf fun t => "tuple for " ++ name ++ " must only contain str, not " ++ t)
    | _ => do pure [← textOf refusal x]
  Bridge.alloc (.bool (parts.any touches))

/-- Cuts a text in three at a part. -/
def partText (s : List Char) (name : String) (x : ObjRef) : Act ForeignError ObjRef := do
  let part ← textOf (fun t => "must be str, not " ++ t) x
  if part.isEmpty then valueError "empty separator"
  let last := name = "rpartition"
  let pieces := match if last then findLastPart? part 0 s else findPart? part 0 s with
    | some i => [s.take i, part, s.drop (i + part.length)]
    | none => if last then [[], [], s] else [s, [], []]
  Bridge.alloc (.tuple (← Bridge.allocAll (pieces.map fun p => .str (String.ofList p))))

/-- A text with other parts in place of some. -/
def replaceText (s : List Char) (args : List ObjRef) : Act ForeignError ObjRef := do
  let argument (i : Nat) : Act ForeignError (List Char) :=
    textOf (fun t => "replace() argument " ++ toString (i + 1) ++ " must be str, not " ++ t)
      (args.getD i default)
  let old ← argument 0
  let new ← argument 1
  let limit ← match args[2]? with
    | some n => countOf n
    | none => pure (-1)
  let n := if limit < 0 then s.length + 1 else limit.toNat
  if old.isEmpty then
    let front := (s.take (n - 1)).flatMap (· :: new)
    newText (if n = 0 then s else new ++ front ++ s.drop (n - 1))
  else newText (List.intercalate new (cutAt old n 0 [] s))

/-- A text filled up to a width. -/
def padText (s : List Char) (name : String) (args : List ObjRef) : Act ForeignError ObjRef := do
  let width ← countOf (args.headD default)
  let fill ← match args[1]? with
    | some x => textOf (fun t => "The fill character must be a unicode character, not " ++ t) x
    | none => pure [if name = "zfill" then '0' else ' ']
  let c ← match fill with
    | [c] => pure c
    | _ => typeError "The fill character must be exactly one character long"
  let missing := width.toNat - s.length
  let pad (n : Nat) : List Char := List.replicate n c
  match name, s with
  | "ljust", _ => newText (s ++ pad missing)
  | "rjust", _ => newText (pad missing ++ s)
  | "center", _ =>
    let left := missing / 2 + (if missing % 2 = 1 && width.toNat % 2 = 1 then 1 else 0)
    newText (pad left ++ s ++ pad (missing - left))
  | _, '-' :: rest => newText ('-' :: pad missing ++ rest)
  | _, '+' :: rest => newText ('+' :: pad missing ++ rest)
  | _, _ => newText (pad missing ++ s)

/-- Calls a method of a text. -/
def callTextMethod (text : String) (name : String) (args : List ObjRef) (keywords : Keywords) :
    Act ForeignError ObjRef := do
  let s := text.toList
  let truth (b : Bool) : Act ForeignError ObjRef := Bridge.alloc (.bool b)
  match name, args with
  | "upper", _ => Bridge.alloc (.str (Text.upper text))
  | "lower", _ | "casefold", _ => newText (s.map Char.toLower)
  | "strip", _ | "lstrip", _ | "rstrip", _ => stripText s name args
  | "capitalize", _ => newText ((s.take 1).flatMap upperChar ++ (s.drop 1).map Char.toLower)
  | "title", _ => newText (titled false s)
  | "swapcase", _ => newText (s.flatMap fun c => if c.isUpper then [c.toLower] else upperChar c)
  | "split", _ | "rsplit", _ => splitText s name args keywords
  | "splitlines", _ => splitLines s args keywords
  | "expandtabs", _ => expandTabs s args keywords
  | "join", [x] => joinText s x
  | "find", x :: bounds | "rfind", x :: bounds | "index", x :: bounds | "rindex", x :: bounds
  | "count", x :: bounds => searchText s name x bounds
  | "startswith", x :: bounds | "endswith", x :: bounds => touchesText s name x bounds
  | "partition", [x] | "rpartition", [x] => partText s name x
  | "replace", _ => replaceText s args
  | "removeprefix", [x] => do
    let part ← textOf (fun t => "removeprefix() argument must be str, not " ++ t) x
    newText (if part.isPrefixOf s then s.drop part.length else s)
  | "removesuffix", [x] => do
    let part ← textOf (fun t => "removesuffix() argument must be str, not " ++ t) x
    newText (if !part.isEmpty && part.isSuffixOf s then s.take (s.length - part.length) else s)
  | "center", _ | "ljust", _ | "rjust", _ | "zfill", _ => padText s name args
  | "encode", _ => Bridge.alloc (.bytes text.toUTF8.toList)
  | "isascii", _ => truth (s.all fun c => c.toNat < 128)
  | "isdigit", _ | "isdecimal", _ | "isnumeric", _ => truth (!s.isEmpty && s.all Char.isDigit)
  | "isalpha", _ => truth (!s.isEmpty && s.all Char.isAlpha)
  | "isalnum", _ => truth (!s.isEmpty && s.all Char.isAlphanum)
  | "isspace", _ => truth (!s.isEmpty && s.all isSpace)
  | "islower", _ => truth (s.any Char.isLower && !s.any Char.isUpper)
  | "isupper", _ => truth (s.any Char.isUpper && !s.any Char.isLower)
  | "__getnewargs__", _ => do Bridge.alloc (.tuple [← Bridge.alloc (.str text)])
  | _, _ => unsupported name

end ScriptBridge.Script
