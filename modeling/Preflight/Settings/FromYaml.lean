import Preflight.Settings.FromJson
import Preflight.Yaml.Document

/-!
# Settings in YAML

A mapping of settings may leave out any field and may have entries with other
keys, as in JSON. Numbers are plain scalars, or literal blocks with the tag for
their type. Counts are whole numbers in decimal, without leading zeros, or with
a sign for their base in front; ratios are decimals with or without a point and
an exponent, infinities, or no numbers at all. The entrypoint is the text of
any scalar.
-/

namespace Preflight.Settings

open Text (decimalValue dropStart? numberInBase?)
open Yaml (Document Node Scalar)

/-! ## Numbers -/

/-- The number that digits of a base denote; there must be at least one. -/
def digitsInBase? (base : Nat) (digits : List Char) : Option Nat :=
  if digits.isEmpty then none else numberInBase? base digits

def dropPlus : List Char → List Char
  | '+' :: rest => rest
  | text => text

/-- The signs for bases. -/
def bases : List (String × Nat) := [("0x", 16), ("0o", 8), ("0b", 2)]

/-- The number of a text that starts with the sign for a base. -/
def basedNumber? (text : List Char) : Option Nat :=
  bases.findSome? fun base =>
    (dropStart? base.1.toList text).bind (digitsInBase? base.2)

/-- The number of decimal digits without a leading zero. -/
def decimalNumber? (text : List Char) : Option Nat :=
  if text.length ≠ 1 ∧ text.head? = some '0' then none
  else digitsInBase? 10 text

def countOfText? (text : List Char) : Option Nat :=
  let unsigned := dropPlus text
  ((basedNumber? unsigned).orElse fun _ => decimalNumber? unsigned).filter
    (· ≤ maxCount)

/-- The digits in front of a text, of which there may be none. -/
def spanDigits (text : List Char) : List Char × List Char :=
  text.span Char.isDigit

/-- The finite number of a text: digits with at most one point among or around
them, a minus sign or none, and an exponent or none. -/
def decimalOfText? (text : List Char) : Option Binary64 := do
  let (negative, text) := Json.readMinus text
  let (whole, text) := spanDigits text
  let (fraction, text) :=
    match text with
    | '.' :: rest => spanDigits rest
    | rest => ([], rest)
  if whole.isEmpty ∧ fraction.isEmpty then none
  else
    let (exponent, text) ← Json.readExponent text
    if text.isEmpty then
      Binary64.ofDecimal? negative
        (decimalValue (whole ++ fraction))
        (exponent.getD 0 - fraction.length)
    else none

def ratioOfText? (text : String) : Option Binary64 :=
  if text ∈ [".inf", ".Inf", ".INF", "+.inf", "+.Inf", "+.INF"] then
    some .infinity
  else if text ∈ ["-.inf", "-.Inf", "-.INF"] then some .negativeInfinity
  else if text ∈ [".nan", ".NaN", ".NAN"] then some .notANumber
  else
    match text.toList with
    | '+' :: '-' :: _ => none
    | text => decimalOfText? (dropPlus text)

/-! ## Fields -/

/-- Whether a scalar may stand for a number whose type has this tag. -/
def mayBeNumber (tag : String) (scalar : Scalar) : Bool :=
  scalar.style = .plain ||
    (scalar.style = .literal && scalar.tag = some tag)

def count? (scalar : Scalar) : Option Nat :=
  if mayBeNumber "tag:yaml.org,2002:int" scalar then
    countOfText? scalar.text.toList
  else none

def ratio? (scalar : Scalar) : Option Binary64 :=
  if mayBeNumber "tag:yaml.org,2002:float" scalar then
    ratioOfText? scalar.text
  else none

def name? (scalar : Scalar) : Option String := some scalar.text

/-- The entries of a mapping by the text of their keys, which must be scalars.
A value that is no scalar is nothing. -/
abbrev Entries := List (String × Option Scalar)

/-- An entry with the text of its key. -/
def named? (document : Document) (entry : Node × Node) :
    Option (String × Option Scalar) :=
  (document.scalar? entry.1).map fun key =>
    (key.text, document.scalar? entry.2)

/-- The value of the only entry with a key, nothing if there is no such entry,
and a failure if there are several. -/
def entry? (key : String) (entries : Entries) :
    Option (Option (Option Scalar)) :=
  match entries.filter fun entry => entry.1 = key with
  | [] => some none
  | [entry] => some (some entry.2)
  | _ => none

/-- The value of a field, or its default. -/
def field? {α : Type} (entries : Entries) (key : String)
    (item? : Scalar → Option α) (default : α) : Option α := do
  match ← entry? key entries with
  | none => some default
  | some value => value.bind item?

def ofEntries? (entries : Entries) : Option Settings := do
  let standard : Settings := {}
  return {
    maxLineLength :=
      ← field? entries "maxLineLength" count? standard.maxLineLength
    indentWidth := ← field? entries "indentWidth" count? standard.indentWidth
    charsPerToken :=
      ← field? entries "charsPerToken" count? standard.charsPerToken
    comparativeTokenRatio :=
      ← field? entries "comparativeTokenRatio" ratio?
        standard.comparativeTokenRatio
    entrypoint := ← field? entries "entrypoint" name? standard.entrypoint }

/-- Whether a scalar has nothing to say: it is plain and has no text. -/
def isVoid (scalar : Scalar) : Bool :=
  scalar.style = .plain && scalar.text = ""

/-- The settings that a document spells. A document without content has all
defaults. -/
def ofYaml? : Option Document → Option Settings
  | none => some {}
  | some document =>
      match document.root with
      | .scalar scalar => if isVoid scalar then some {} else none
      | .mapping entries =>
          (entries.mapM (named? document)).bind ofEntries?
      | .sequence _ | .reference _ => none

def readYaml? (text : List Char) : Option Settings :=
  (Yaml.parse? text).bind ofYaml?

end Preflight.Settings
