import Preflight.Json.Reader
import Preflight.Json.Shape
import Preflight.Settings.Basic

/-!
# Settings in JSON

A record of settings may leave out any field, which then has its default, and
may have members with other keys, which are ignored.
-/

namespace Preflight.Settings

open Json

def keys : List String :=
  ["maxLineLength", "indentWidth", "charsPerToken", "comparativeTokenRatio",
    "entrypoint"]

def ofJson? (value : Json) : Option Settings := do
  let standard : Settings := {}
  match ← fields? keys value with
  | [maxLineLength, indentWidth, charsPerToken, ratio, entrypoint] =>
      return {
        maxLineLength :=
          ← withDefault? standard.maxLineLength count? maxLineLength
        indentWidth := ← withDefault? standard.indentWidth count? indentWidth
        charsPerToken :=
          ← withDefault? standard.charsPerToken count? charsPerToken
        comparativeTokenRatio :=
          ← withDefault? standard.comparativeTokenRatio binary64? ratio
        entrypoint := ← withDefault? standard.entrypoint text? entrypoint }
  | _ => none

def readJson? (text : List Char) : Option Settings :=
  (Json.parse? text).bind ofJson?

end Preflight.Settings
