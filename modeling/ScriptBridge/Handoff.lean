import ScriptBridge.Error

/-!
# Handing control over

Entering the interpreter makes the script side current, sets the locale category for numbers to
`C` and takes the interpreter lock; leaving undoes the three in reverse. In single-call mode an
entry inside an entry is refused.
-/

namespace ScriptBridge

/-- The discipline of the interpreter lock. -/
inductive HandoffMode where
  | reentrant
  | singleCall
deriving DecidableEq

namespace HandoffMode

/-- Reads the name of a mode. -/
def ofName? : String → Option HandoffMode
  | "reentrant" => some .reentrant
  | "single" | "single-call" => some .singleCall
  | _ => none

/-- The name of a mode. -/
def name : HandoffMode → String
  | .reentrant => "reentrant"
  | .singleCall => "single"

/-- The wording for a text that names no mode. -/
def unknown (text : String) : String :=
  "unknown handoff mode '" ++ text ++ "' (expected reentrant or single)"

end HandoffMode

/-- The side that owns execution. -/
inductive Side where
  | host
  | foreign
deriving DecidableEq

/-- An operation on the interpreter lock. -/
inductive LockEvent where
  | acquire (mode : HandoffMode)
  | release (mode : HandoffMode)
  | initialRelease
deriving DecidableEq

/-- The name of the locale whose numbers have a decimal point. -/
def plainLocale : String := "C"

/-- The parts of the name of a locale, `language_TERRITORY.encoding@modifier`, that tell which
locale it is: its language and its encoding. The other two may be anything. -/
def localeParts (name : List Char) : List Char × Option (List Char) :=
  let endsLanguage (c : Char) : Bool := c = '_' || c = '.' || c = '@'
  let rest := match name.dropWhile (!endsLanguage ·) with
    | '_' :: rest => rest.dropWhile fun c => c ≠ '.' && c ≠ '@'
    | rest => rest
  (name.takeWhile (!endsLanguage ·),
    match rest with
    | '.' :: rest => some (rest.takeWhile (· ≠ '@'))
    | _ => none)

/-- The name of an encoding in upper case, without the characters that do not count. -/
def encodingName (s : String) : String :=
  String.ofList
    ((s.toList.filter fun c => c.isAlphanum || c ∈ ['_', '-', '.', ',', ':']).map Char.toUpper)

/-- Whether an encoding is `UTF-8`. Two empty parts after slashes belong to every name; what comes
later counts only if it has letters or digits. -/
def isUnicodeEncoding (s : List Char) : Bool :=
  match (String.ofList s).splitOn "/" with
  | [] => false
  | name :: parts =>
    (encodingName name = "UTF-8" || encodingName name = "UTF8")
      && (parts.take 2).all (encodingName · = "") && parts.all (!·.any Char.isAlphanum)

/-- Whether a name can be looked up among the installed locales: it has at most 255 bytes, no part of
it goes up a directory, and slashes stand only in a name that starts with one. -/
def isLocaleName (name : String) : Bool :=
  name.utf8ByteSize ≤ 255 && !(name.splitOn "/").contains ".."
    && (name.startsWith "/" || !name.contains '/')

/-- Whether a locale can be set beside the plain one: only the one that has the encoding `UTF-8` and
is plain otherwise is installed. -/
def isInstalledLocale (name : String) : Bool :=
  let (language, encoding) := localeParts name.toList
  isLocaleName name && language.dropWhile (· = '/') = ['C'] && encoding.any isUnicodeEncoding

/-- The name that reads back after a locale was asked for; the plain one stays unless the locale is
installed. -/
def readBackLocale (name : String) : String :=
  if isInstalledLocale name then name else plainLocale

/-- The locale category for numbers, with what was saved of it. -/
structure ForcedLocale where
  /-- The locale to go back to, if it was changed. -/
  saved : Option String

/-- Sets the plain locale; the locale after that, and what to go back to. -/
def forceLocale (current : String) : String × ForcedLocale :=
  if current = plainLocale then (current, ⟨none⟩) else (plainLocale, ⟨some current⟩)

/-- Goes back to the locale that was saved. -/
def ForcedLocale.restore (f : ForcedLocale) (current : String) : String := f.saved.getD current

/-- The state of the handoff. -/
structure Handoff where
  mode : HandoffMode
  depth : Nat := 0
  side : Side := .host
  locale : String := plainLocale
  /-- Operations on the interpreter lock so far. -/
  locks : List LockEvent := []

/-- What leaving an entry goes back to. -/
structure Guard where
  side : Side
  locale : ForcedLocale

namespace Handoff

/-- Enters the interpreter. -/
def enter (h : Handoff) : Except HandoffError (Guard × Handoff) :=
  if h.mode = .singleCall ∧ 0 < h.depth then .error .recursive
  else
    let (locale, forced) := forceLocale h.locale
    .ok (⟨h.side, forced⟩,
      { h with
        depth := h.depth + 1, side := .foreign, locale, locks := h.locks ++ [.acquire h.mode] })

/-- Leaves the interpreter. -/
def leave (h : Handoff) (g : Guard) : Handoff :=
  { h with
    depth := h.depth - 1, side := g.side, locale := g.locale.restore h.locale
    locks := h.locks ++ [.release h.mode] }

end Handoff

end ScriptBridge
