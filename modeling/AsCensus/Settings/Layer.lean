import AsCensus.Settings.Basic
import AsCensus.Settings.Document
import AsCensus.Settings.Environment
import AsCensus.Text.Case

namespace AsCensus
namespace Settings

open Text

/-!
# Layers of settings

Settings come in layers: the settings file, and above it the variables of the
environment whose names start with `OBMP_CRON_`.  What an upper layer says about a
key hides what lower layers say about it, even if it is of no use.

Only plain values have a text.  A key that is left with anything else makes all
settings fail, because no setting is a list or a table.  A key whose parts are
joined by points, or end in an index between brackets, leads into a table or list
under its first part.  An index is an integer, which may have blanks around it.
-/

/-- What a layer says about keys: a text, or none for what is no plain value.  Of
two entries for a key the last one counts. -/
abbrev Layer := List (String × Option String)

/-- Whether a text is an index: digits, perhaps after a minus sign. -/
def isIndex (text : List Char) : Bool :=
  let bare := dropEndWhile isLineBlank (text.dropWhile isLineBlank)
  bare.head? != some '+' && (readInteger integerBound bare).isSome

/-- Whether a text goes on with a key by further parts and indices. -/
def isKeyPath : Nat -> List Char -> Bool
  | 0, _ => false
  | _ + 1, [] => true
  | fuel + 1, '.' :: rest =>
      match scanRun isKeyChar rest with
      | some (_, rest) => isKeyPath fuel rest
      | none => false
  | fuel + 1, '[' :: rest =>
      let index := rest.takeWhile fun c => c != ']'
      match rest.drop index.length with
      | ']' :: rest => isIndex index && isKeyPath fuel rest
      | _ => false
  | _ + 1, _ => false

/-- The first part of a key that leads into a table or list. -/
def outerKey? (key : String) : Option String :=
  match scanRun isKeyChar key.toList with
  | some (outer, rest) =>
      if rest ≠ [] ∧ isKeyPath rest.length.succ rest then some (String.ofList outer) else none
  | none => none

namespace Layer

/-- What a layer says about one key. -/
def entry (key : String) (text : Option String) : String × Option String :=
  match outerKey? key with
  | some outer => (outer, none)
  | none => (key, text)

/-- The layer of a settings file. -/
def ofMembers (members : Members) : Layer :=
  members.map fun (key, node) =>
    match node with
    | .scalar value => entry key (some value.shown)
    | _ => entry key none

/-- The start of the names of variables that hold settings, in lower case. -/
def variableMark : List Char := "obmp_cron_".toList

/-- The usual name of the variable for a key. -/
def variableName (key : String) : String :=
  String.ofList ((variableMark ++ key.toList).map Char.toUpper)

/-- The key of a variable.  Letter case in its name does not count. -/
def keyOfVariable (name : String) : Option String :=
  (after? variableMark (lowerCase name.toList)).map String.ofList

/-- The layer of the environment. -/
def ofEnvironment (environment : Environment) : Layer :=
  environment.filterMap fun (name, value) =>
    (keyOfVariable name).map fun key => entry key (some value)

/-- What a layer says about a key in the end. -/
def final? (layer : Layer) (key : String) : Option (Option String) :=
  layer.reverse.lookup key

/-- The text that a layer gives to a key. -/
def textOf (layer : Layer) (key : String) : Option String :=
  (layer.final? key).join

/-- An upper layer hides what lower layers say about the keys that it mentions. -/
theorem final?_append (lower upper : Layer) (key : String) :
    final? (lower ++ upper) key = (final? upper key).or (final? lower key) := by
  unfold final?
  rw [List.reverse_append, List.lookup_append]

/-- Whether every key is left with a text. -/
def isPlain (layer : Layer) : Bool :=
  layer.all fun (key, _) => (layer.textOf key).isSome

end Layer

/-- The settings of layers, of which the last is the uppermost.  There are none if a
key is left without a text. -/
def ofLayers? (home dataDirectory : String) (layers : List Layer) : Option Settings :=
  if Layer.isPlain layers.flatten then
    some (ofTexts home dataDirectory (Layer.textOf layers.flatten))
  else
    none

end Settings
end AsCensus
