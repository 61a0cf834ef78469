import ScriptBridge.Decimal.Layout
import ScriptBridge.Foreign.Feature
import ScriptBridge.Proxy.Text
import ScriptBridge.Text.Quoted
import ScriptBridge.Text.Utf8

/-!
# Texts of objects

What `str()` and `repr()` give. The scripted interpreter shows containers by their size; the
interpreter of a library spells them out.
-/

namespace ScriptBridge

open Foreign (ObjRef Object Objects)

/-- The text of a truth value. -/
def boolText (b : Bool) : String := if b then "True" else "False"

/-- The text of an object for inspection. -/
def Foreign.Objects.debug (o : Objects) (r : ObjRef) : String :=
  match o.get r with
  | .null => "None"
  | .bool b => boolText b
  | .int n => toString n
  | .float x => Decimal.Layout.exponential.text x
  | .bytes b => "b" ++ Text.quoted (Text.decode b)
  | .str s => Text.quoted s
  | .list items => "[" ++ toString items.length ++ " items]"
  | .tuple items => "(" ++ toString items.length ++ " items)"
  | .dict entries => "\x7b" ++ toString entries.length ++ " items\x7d"
  | .proxy cls target => "Proxy(" ++ cls.typeName ++ ", " ++ target.debug o ++ ")"
  | x => "<" ++ x.qualifiedType .scripted ++ " object>"

/-- The text of a class. -/
def classText (c : Foreign.ObjectClass) : String := "<class '" ++ c.shownPath ++ "'>"

/-- The text of a module. -/
def moduleText (name : String) : String := "<module '" ++ name ++ "'>"

/-- The failure of an object that has no text. -/
def noText (typeName : String) : ForeignError :=
  .exception .type ("__str__ returned non-string (type " ++ typeName ++ ")")

/-- The text of an object of the scripted interpreter. -/
def Bridge.scriptedText (b : Bridge) (r : ObjRef) : Except ForeignError String :=
  match b.objects.get r with
  | .str s => .ok s
  | .bytes bs => .ok ("b'" ++ Text.decode bs ++ "'")
  | .slice start stop step =>
    let bound (n : Option Int) : String := (n.map toString).getD "None"
    .ok ("slice(" ++ bound start ++ ", " ++ bound stop ++ ", " ++ bound step ++ ")")
  | .proxy cls target =>
    if b.attached then .ok (b.proxyText cls target) else .error .notInitialized
  | .module name _ => .ok (moduleText name)
  | .type c => .ok (classText c)
  | .plain name text _ => match text with
    | some s => .ok s
    | none => .error (noText name)
  | _ => .ok (b.objects.debug r)

/-- A code point with two, four or eight hexadecimal digits. -/
def codeText (n : Nat) : String :=
  let digits := Nat.toDigits 16 n
  let pad (width : Nat) : String :=
    String.ofList (List.replicate (width - digits.length) '0' ++ digits)
  if n < 0x100 then "\\x" ++ pad 2 else if n < 0x10000 then "\\u" ++ pad 4 else "\\U" ++ pad 8

/-- The quote around a text: a double one only if it saves escapes. -/
def quoteFor (s : String) : Char := if s.contains '\'' && !s.contains '"' then '"' else '\''

/-- The code point that stands for half of a character. -/
def halfCode : Nat := 0xd800

/-- The places of a text as a literal: quoted, with the quote, backslashes and hidden characters
escaped. -/
def placesLiteral (places : List (Option Char)) : String :=
  let quote := quoteFor (String.ofList (places.filterMap id))
  let char (c : Char) : String :=
    if c = quote || c = '\\' then String.ofList ['\\', c]
    else if c = '\n' then "\\n" else if c = '\r' then "\\r" else if c = '\t' then "\\t"
    else if c.toNat < 0x20 || (0x7f ≤ c.toNat && c.toNat ≤ 0xa0) || Text.isUnprinted c ||
        Text.isRecent c then
      codeText c.toNat
    else c.toString
  let place (c : Option Char) : String := (c.map char).getD (codeText halfCode)
  quote.toString ++ String.join (places.map place) ++ quote.toString

/-- A text as a literal. -/
def literalText (s : String) : String := placesLiteral (s.toList.map some)

/-- Bytes as a literal. -/
def bytesLiteral (b : List UInt8) : String :=
  let shown := b.map fun x => Char.ofNat x.toNat
  let quote := quoteFor (String.ofList shown)
  let char (c : Char) : String :=
    if c = quote || c = '\\' then String.ofList ['\\', c]
    else if c = '\n' then "\\n" else if c = '\r' then "\\r" else if c = '\t' then "\\t"
    else if c.toNat < 0x20 || 0x7f ≤ c.toNat then codeText c.toNat
    else c.toString
  "b" ++ quote.toString ++ String.join (shown.map char) ++ quote.toString

/-- The text of a method that an object brings along. -/
def methodText (sort name typeName : String) : String :=
  "<" ++ sort ++ " " ++ name ++ " of " ++ typeName ++ " object at " ++ hiddenAddress ++ ">"

/-- The text of what a class defines, without an object. -/
def descriptorText (c : Foreign.ObjectClass) (name : String) (sort : Foreign.DescriptorSort) :
    String :=
  let what := match sort with
    | .operation => "slot wrapper"
    | .method => "method"
    | .property => "attribute"
    | .field => "member"
  "<" ++ what ++ " '" ++ name ++ "' of '" ++ c.label ++ "' objects>"

/-- The text of a function that a script defined in a class. -/
def functionText (c : Foreign.ObjectClass) (name : String) : String :=
  "<function " ++ c.name ++ "." ++ name ++ " at " ++ hiddenAddress ++ ">"

/-- The text of an entry of the dictionary of what a class defines. -/
def entryText (c : Foreign.ObjectClass) (name : String) : String :=
  let value := match c.definitions.feature? name with
    | some (.text s) => literalText s
    | some .scripted => functionText c name
    | some f => (f.sort?.map (descriptorText c name)).getD "None"
    | none => "None"
  literalText name ++ ": " ++ value

/-- The text of a view of a dictionary, given the texts of what it shows. -/
def viewText (sort : Foreign.DictView) (shown : List String) : String :=
  sort.className ++ "([" ++ String.intercalate ", " shown ++ "])"

/-- The literal of an object of a library's interpreter. A container inside itself is shown by
dots; `path` holds the containers that this one is in. -/
def Bridge.literalWithin (b : Bridge) : Nat → List ObjRef → ObjRef → String
  | 0, _, _ => "..."
  | depth + 1, path, r =>
    let inner := b.literalWithin depth (r :: path)
    let commas (rs : List ObjRef) : String := String.intercalate ", " (rs.map inner)
    let pair (e : ObjRef × ObjRef) : String := inner e.1 ++ ": " ++ inner e.2
    let typeOf (r : ObjRef) : String := (b.objects.get r).qualifiedType .library
    match b.objects.get r with
    | .null => "None"
    | .bool x => boolText x
    | .int n => toString n
    | .float x => Decimal.Layout.signed.text x
    | .bytes bs => bytesLiteral bs
    | .str s => literalText s
    | .halved places => placesLiteral places
    | .list items => if r ∈ path then "[...]" else "[" ++ commas items ++ "]"
    | .tuple [x] => if r ∈ path then "(...)" else "(" ++ inner x ++ ",)"
    | .tuple items => if r ∈ path then "(...)" else "(" ++ commas items ++ ")"
    | .dict entries =>
      if r ∈ path then "\x7b...\x7d"
      else "\x7b" ++ String.intercalate ", " (entries.map pair) ++ "\x7d"
    | .view .keys d => viewText .keys ((b.objects.entries d).map (inner ·.1))
    | .view .values d => viewText .values ((b.objects.entries d).map (inner ·.2))
    | .view .items d =>
      viewText .items ((b.objects.entries d).map fun e => "(" ++ inner e.1 ++ ", " ++ inner e.2 ++ ")")
    | .set [] => "set()"
    | .set items => "\x7b" ++ commas items ++ "\x7d"
    | .slice start stop step =>
      let bound (n : Option Int) : String := (n.map toString).getD "None"
      "slice(" ++ bound start ++ ", " ++ bound stop ++ ", " ++ bound step ++ ")"
    | .counting c =>
      "range(" ++ toString c.start ++ ", " ++ toString c.stop ++
        (if c.step = 1 then "" else ", " ++ toString c.step) ++ ")"
    | .proxy cls target => b.proxyText cls target
    | .module name _ => moduleText name
    | .type c => classText c
    | .raised args => Foreign.ObjectClass.error.name ++ "(" ++ commas args ++ ")"
    | .wrapper owner name => methodText "method-wrapper" ("'" ++ name ++ "'") (typeOf owner)
    | .native owner name => methodText "built-in method" name (typeOf owner)
    | .descriptor c name sort => descriptorText c name sort
    | .function c name => functionText c name
    | .bound owner name =>
      let c := (b.objects.get owner).class .library
      "<bound method " ++ c.name ++ "." ++ name ++ " of " ++ inner owner ++ ">"
    | .mirror c =>
      let given := (b.objects.attributes (.class c)).map pair
      let own := (c.ownNames.filter fun n => (b.objects.attribute? (.class c) n).isNone).map
        (entryText c)
      "mappingproxy(\x7b" ++ String.intercalate ", " (own ++ given) ++ "\x7d)"
    | .known _ text => text
    | x => "<" ++ (x.class .library).shownPath ++ " object at " ++ hiddenAddress ++ ">"

/-- The literal of an object of a library's interpreter. -/
def Bridge.literal (b : Bridge) (r : ObjRef) : String :=
  b.literalWithin (b.objects.cells.size + 1) [] r

/-- The text of an object of a library's interpreter, down to a number of levels: that of an
exception with one argument is the text of the argument. -/
def Bridge.libraryText (b : Bridge) : Nat → ObjRef → Except ForeignError String
  | 0, r => .ok (b.literal r)
  | depth + 1, r =>
    match b.objects.get r with
    | .str s => .ok s
    | .halved places => .ok (Foreign.mended places)
    | .plain _ (some s) _ => .ok s
    | .plain _ none _ => .error (noText "NoneType")
    | .mirror _ => .ok (((b.literal r).drop 13).dropEnd 1).toString
    | .raised [] => .ok ""
    | .raised [x] => b.libraryText depth x
    | .raised args => .ok ("(" ++ String.intercalate ", " (args.map b.literal) ++ ")")
    | _ => .ok (b.literal r)

/-- The text of an object. -/
def Bridge.text (b : Bridge) (r : ObjRef) : Except ForeignError String :=
  match b.interpreter.kind with
  | .scripted => b.scriptedText r
  | .library => b.libraryText (b.objects.cells.size + 1) r

namespace Bridge

variable {ε : Type}

/-- The text of an object as a part of a computation. -/
def textOf (r : ObjRef) : Act ForeignError String := do Act.ofExcept ((← get).text r)

/-- The name of an object's type as scripts see it. -/
def typeName (r : ObjRef) : Act ε String := do
  let b ← get
  return (b.objects.get r).typeName b.interpreter.kind

/-- The name of an object's type with its module. -/
def qualifiedType (r : ObjRef) : Act ε String := do
  let b ← get
  return (b.objects.get r).qualifiedType b.interpreter.kind

/-- The shape of an object. -/
def inspect (r : ObjRef) : Act ForeignError Foreign.Shape := do
  Act.ofExcept ((← get).objects.get r).shape

end Bridge

/-!
### Elements

The items of sequences and the pairs of mappings, as conversions and methods ask for them.
-/

/-- The wording for an object without a length. -/
def noLengthText (typeName : String) : String := "object of type '" ++ typeName ++ "' has no len()"

/-- The failure of an object without a length. -/
def noLength (typeName : String) : ForeignError := .exception .type (noLengthText typeName)

namespace Bridge

/-- Several new objects. -/
def allocAll {ε : Type} (xs : List Object) : Act ε (List ObjRef) := xs.mapM alloc

/-- The failure of an object that has more items than 64 bits can count. -/
def uncountable : ForeignError :=
  .exception .overflow "Python int too large to convert to C ssize_t"

/-- The items of an object that is no proxy. -/
def itemsOf (r : ObjRef) : Act ForeignError (List ObjRef) := do
  let b ← get
  let x := b.objects.get r
  let typeName := x.qualifiedType b.interpreter.kind
  match x.elements?, b.interpreter.kind with
  | some items, _ => pure items
  | none, .scripted => Act.fail (.exception .type ("'" ++ typeName ++ "' object is not a sequence"))
  | none, .library =>
    match x with
    | .str s => allocAll (s.toList.map fun c => .str c.toString)
    | .halved places => allocAll (places.map fun c => .ofPlaces [c])
    | .bytes bs => allocAll (bs.map fun c => .int (c.toNat : Int))
    | .counting c =>
      if Text.fitsInt64 c.length then allocAll (c.numbers.map .int) else Act.fail uncountable
    | .dict _ | .mirror _ => Act.fail (.exception .type (typeName ++ " is not a sequence"))
    | .view _ d =>
      if (b.objects.entries d).isEmpty then pure []
      else Act.fail (.exception .type ("'" ++ typeName ++ "' object does not support indexing"))
    | .set _ => Act.fail (.exception .type ("'set' object does not support indexing"))
    | _ => Act.fail (noLength typeName)

/-- The pairs of a dictionary or of a user mapping. -/
def pairsOf (r : ObjRef) : Act ForeignError (List (ObjRef × ObjRef)) := do
  let b ← get
  let x := b.objects.get r
  let typeName := x.qualifiedType b.interpreter.kind
  match x, b.interpreter.kind with
  | .dict entries, _ | .mapping entries, _ => pure entries
  | _, .scripted => Act.fail (.exception .type ("'" ++ typeName ++ "' object is not a mapping"))
  | .triples _, .library => Act.fail (.exception .value "mapping items must be pairs")
  | _, .library =>
    Act.fail (.exception .attribute ("'" ++ typeName ++ "' object has no attribute 'items'"))

end Bridge

end ScriptBridge
