import Preflight.Pattern.Reader.State
import Preflight.Text.Letter

/-!
# Groups and flags

What stands behind an opening parenthesis says what is meant: a group, a group
with a name, flags for a group, or flags for the rest of the group around them.
-/

namespace Preflight.Pattern

/-- What an opening parenthesis introduces. -/
inductive GroupStart where
  /-- Flags for what follows. -/
  | flags (flags : Flags)
  /-- A group with its flags. -/
  | group (flags : Flags)
  deriving DecidableEq, Repr

/-- A flag in a list of flags, or a hyphen, which negates those behind it, and
where it stands. -/
structure FlagItem where
  flag : Option Flag
  span : Span
  deriving DecidableEq, Repr

/-- Apply a list of flags. -/
def Flags.apply (flags : Flags) : (negated : Bool) → List FlagItem → Flags
  | _, [] => flags
  | negated, item :: rest =>
      match item.flag with
      | none => flags.apply true rest
      | some flag => (flags.put (!negated) flag).apply negated rest

/-- Whether a character may stand in the name of a group. -/
def isGroupNameCharacter (first : Bool) (c : Char) : Bool :=
  c = '_' || Text.isAlphabetic c ||
    (!first &&
      (Text.Category.numbers.contains (Text.category c) ||
        ['.', '[', ']'].contains c))

namespace Read

/-! ## Names -/

/-- The characters of the name of a group, up to its end. -/
def nameCharacters : (fuel : Nat) → (first : Bool) → Read (List Char)
  | 0, _ => return []
  | fuel + 1, first => do
      match ← next? with
      | none | some '>' => return []
      | some c =>
          if isGroupNameCharacter first c then
            skip
            return c :: (← nameCharacters fuel false)
          else failAtNext .invalidGroupName

/-- The name of a group, which has to be a new one. -/
def groupName : Read Unit := do
  let start ← position
  let name ← nameCharacters (← get).rest.length true
  let span : Span := ⟨start, ← position⟩
  if (← next?).isNone then failHere .unclosedGroupName
  skip
  if name.isEmpty then failBetween start start .emptyGroupName
  match (← get).names.lookup name with
  | some earlier => throw ⟨span, .repeatedGroupName earlier⟩
  | none =>
      modify fun reading =>
        { reading with names := (name, span) :: reading.names }

/-! ## Flags -/

/-- The cause of a fault when an item of a list of flags comes twice. -/
def repeatedItem (flag : Option Flag) (earlier : Span) : Cause :=
  if flag.isSome then .repeatedFlag earlier else .repeatedNegation earlier

/-- The list of flags up to a colon or a closing parenthesis, with the items
read before them. -/
def flagItems : (fuel : Nat) → List FlagItem → Read (List FlagItem)
  | 0, _ => failHere .unfinishedFlags
  | fuel + 1, items => do
      match ← next? with
      | none => failHere .unfinishedFlags
      | some c =>
          if c = ':' || c = ')' then
            match items.getLast? with
            | some ⟨none, span⟩ => throw ⟨span, .danglingNegation⟩
            | _ => return items
          else
            let here ← position
            let span : Span := ⟨here, here + 1⟩
            let flag ←
              if c = '-' then pure none
              else
                match Flag.ofLetter? c with
                | some flag => pure (some flag)
                | none => throw ⟨span, .unknownFlag⟩
            match items.find? fun item => item.flag = flag with
            | some item => throw ⟨span, repeatedItem flag item.span⟩
            | none =>
                skip
                flagItems fuel (items ++ [⟨flag, span⟩])

/-! ## Groups -/

/-- The starts of groups that look ahead or behind. -/
def lookAroundStarts : List String := ["?=", "?!", "?<=", "?<!"]

/-- Pass over an opening parenthesis and what belongs to it. -/
def groupStart : Read GroupStart := do
  let start ← position
  advance
  for mark in lookAroundStarts do
    if ← accept mark then failFrom start .lookAround
  let inner ← position
  let flags ← flags
  if ← accept "?P<" then
    groupName
    return .group flags
  else if ← accept "?<" then
    groupName
    return .group flags
  else if ← accept "?" then
    if (← next?).isNone then failBetween start (start + 1) .unclosedGroup
    let items ← flagItems (← get).rest.length.succ []
    let closing := (← next?) = some ')'
    skip
    if closing then
      if items.isEmpty then failBetween inner inner .nothingToRepeat
      return .flags (flags.apply false items)
    else return .group (flags.apply false items)
  else return .group flags

end Read

end Preflight.Pattern
