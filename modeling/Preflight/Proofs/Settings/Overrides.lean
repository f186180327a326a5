import Preflight.Proofs.Json.Magnitude
import Preflight.Proofs.Json.Shape
import Preflight.Proofs.Json.Soundness
import Preflight.Proofs.Record
import Preflight.Proofs.Settings.File
import Preflight.Proofs.Validation

/-!
# Settings in JSON override the defaults

An object of settings is looked at key by key. A key that no member has leaves
its default, a key with one member of the right type overrides it, and a key
with several members, or with a member of another type, makes the whole object
malformed. Members with other keys and the order of all members do not count.
-/

namespace Preflight.Settings

open File (Path System)
open Json (Document Number NumberSpelling Spelling member? membersOf record
  withDefault?)

/-! ## What values stand for -/

/-- A count is spelt by its digits alone, and has at most sixty-four bits. -/
def IsCount (value : Json) (n : Nat) : Prop :=
  value = Json.count n ∧ n < 2 ^ 64

/-- A ratio is any number that is read in floating point. -/
def IsRatio (value : Json) (ratio : Binary64) : Prop :=
  ∃ numeral : Number, value = .number numeral ∧
    numeral.toBinary64? = some ratio

def IsEntrypoint (value : Json) (name : String) : Prop :=
  value = Json.text name

theorem count?_eq_some_iff {value : Json} {n : Nat} :
    Json.count? value = some n ↔ IsCount value n := by
  constructor
  · intro read
    cases value with
    | number numeral =>
        obtain ⟨negative, whole, fraction, exponent⟩ := numeral
        simp only [Json.count?] at read
        split at read
        · rename_i natural
          simp only [Number.isNatural, Bool.and_eq_true, Bool.not_eq_true',
            List.isEmpty_iff, Option.isNone_iff_eq_none, decide_eq_true_eq]
            at natural
          obtain ⟨⟨⟨rfl, rfl⟩, rfl⟩, small⟩ := natural
          cases read
          refine ⟨rfl, ?_⟩
          unfold maxCount at small
          omega
        · cases read
    | null => cases read
    | bool _ => cases read
    | string _ => cases read
    | array _ => cases read
    | object _ => cases read
  · rintro ⟨rfl, small⟩
    apply Json.count?_count
    unfold maxCount
    omega

theorem binary64?_eq_some_iff {value : Json} {ratio : Binary64} :
    Json.binary64? value = some ratio ↔ IsRatio value ratio := by
  constructor
  · intro read
    cases value with
    | number numeral => exact ⟨numeral, rfl, read⟩
    | null => cases read
    | bool _ => cases read
    | string _ => cases read
    | array _ => cases read
    | object _ => cases read
  · rintro ⟨numeral, rfl, read⟩
    exact read

theorem text?_eq_some_iff {value : Json} {name : String} :
    Json.text? value = some name ↔ IsEntrypoint value name := by
  constructor
  · intro read
    cases value with
    | string content =>
        have isText : content = some name := read
        rw [isText]
        rfl
    | null => cases read
    | bool _ => cases read
    | number _ => cases read
    | array _ => cases read
    | object _ => cases read
  · rintro rfl
    rfl

/-! ## Members with a key -/

/-- The members with a key. -/
def membersWith (key : String) (members : List (String × Json)) :
    List (String × Json) :=
  members.filter fun member => member.1 = key

/-- What members give for a key: nothing, or what the value of the only member
with that key stands for. -/
inductive Gives {α : Type} (standsFor : Json → α → Prop) (key : String)
    (members : List (String × Json)) : Option α → Prop
  | absent : membersWith key members = [] → Gives standsFor key members none
  | once {value : Json} {given : α} :
      membersWith key members = [(key, value)] → standsFor value given →
      Gives standsFor key members (some given)

/-- Members misuse a key when several of them have it, or when one of them has
it with a value that stands for nothing. -/
inductive Misuses {α : Type} (standsFor : Json → α → Prop) (key : String)
    (members : List (String × Json)) : Prop
  | repeated : 2 ≤ (membersWith key members).length →
      Misuses standsFor key members
  | mistyped {value : Json} :
      (key, value) ∈ members → (∀ given, ¬ standsFor value given) →
      Misuses standsFor key members

section Field

variable {α : Type} {standsFor : Json → α → Prop} {item? : Json → Option α}
  {key : String} {members : List (String × Json)} {default : α}

/-- A field, as it is read off members. -/
def fieldOf? (key : String) (item? : Json → Option α) (default : α)
    (members : List (String × Json)) : Option α :=
  (member? key (membersOf members)).bind (withDefault? default item?)

theorem filter_membersOf (key : String) (members : List (String × Json)) :
    (membersOf members).filter (fun member => member.1 = some key) =
      membersOf (membersWith key members) := by
  unfold membersOf membersWith
  rw [List.filter_map]
  congr 1
  apply List.filter_congr
  intro member _
  simp

theorem fst_of_mem_membersWith {member : String × Json}
    (listed : member ∈ membersWith key members) :
    member ∈ members ∧ member.1 = key := by
  simpa [membersWith] using listed

theorem mem_membersWith {value : Json} (listed : (key, value) ∈ members) :
    (key, value) ∈ membersWith key members := by
  simpa [membersWith] using listed

theorem Gives.fieldOf?_eq (reads : ∀ value given,
      item? value = some given ↔ standsFor value given)
    {given : Option α} (gives : Gives standsFor key members given) :
    fieldOf? key item? default members = some (given.getD default) := by
  cases gives with
  | absent noMember =>
      have read : member? key (membersOf members) = some none := by
        rw [member?, filter_membersOf, noMember]
        rfl
      rw [fieldOf?, read]
      rfl
  | @once value _ only stands =>
      have read : member? key (membersOf members) = some (some value) := by
        rw [member?, filter_membersOf, only]
        rfl
      rw [fieldOf?, read]
      exact (reads value _).2 stands

theorem Misuses.fieldOf?_eq (reads : ∀ value given,
      item? value = some given ↔ standsFor value given)
    (misuses : Misuses standsFor key members) :
    fieldOf? key item? default members = none := by
  rw [fieldOf?, member?, filter_membersOf]
  cases found : membersWith key members with
  | nil =>
      cases misuses with
      | repeated several =>
          rw [found] at several
          exact absurd several (by decide)
      | mistyped listed _ =>
          have kept := mem_membersWith listed
          rw [found] at kept
          cases kept
  | cons member more =>
      cases more with
      | nil =>
          cases misuses with
          | repeated several =>
              rw [found, List.length_singleton] at several
              exact absurd several (by decide)
          | @mistyped value listed noStanding =>
              have kept := mem_membersWith listed
              rw [found] at kept
              rw [← List.mem_singleton.1 kept]
              have unread : item? value = none := by
                apply Option.eq_none_iff_forall_not_mem.2
                intro given read
                exact noStanding given ((reads value given).1 read)
              exact unread
      | cons second others => rfl

theorem gives_or_misuses (standsFor : Json → α → Prop) (key : String)
    (members : List (String × Json)) :
    (∃ given, Gives standsFor key members given) ∨
      Misuses standsFor key members := by
  cases found : membersWith key members with
  | nil => exact Or.inl ⟨none, Gives.absent found⟩
  | cons member more =>
      have kept : member ∈ membersWith key members := by
        rw [found]
        exact List.mem_cons_self
      obtain ⟨listed, sameKey⟩ := fst_of_mem_membersWith kept
      obtain ⟨name, value⟩ := member
      obtain rfl : name = key := sameKey
      cases more with
      | nil =>
          by_cases stands : ∃ given, standsFor value given
          · obtain ⟨given, stands⟩ := stands
            exact Or.inl ⟨some given, Gives.once found stands⟩
          · exact Or.inr (Misuses.mistyped listed (not_exists.1 stands))
      | cons second others =>
          have several : 2 ≤ (membersWith name members).length := by
            rw [found, List.length_cons, List.length_cons]
            omega
          exact Or.inr (Misuses.repeated several)

end Field

/-! ## All fields -/

/-- The fields that are given. -/
structure Overrides where
  maxLineLength : Option Nat := none
  indentWidth : Option Nat := none
  charsPerToken : Option Nat := none
  comparativeTokenRatio : Option Binary64 := none
  entrypoint : Option String := none

namespace Overrides

/-- The defaults, with the fields that are given in their place. -/
def settings (overrides : Overrides) : Settings :=
  let standard : Settings := {}
  { maxLineLength := overrides.maxLineLength.getD standard.maxLineLength
    indentWidth := overrides.indentWidth.getD standard.indentWidth
    charsPerToken := overrides.charsPerToken.getD standard.charsPerToken
    comparativeTokenRatio :=
      overrides.comparativeTokenRatio.getD standard.comparativeTokenRatio
    entrypoint := overrides.entrypoint.getD standard.entrypoint }

/-- Members give these fields and no others. -/
structure GivenBy (overrides : Overrides) (members : List (String × Json)) :
    Prop where
  maxLineLength :
    Gives IsCount "maxLineLength" members overrides.maxLineLength
  indentWidth : Gives IsCount "indentWidth" members overrides.indentWidth
  charsPerToken : Gives IsCount "charsPerToken" members overrides.charsPerToken
  comparativeTokenRatio :
    Gives IsRatio "comparativeTokenRatio" members
      overrides.comparativeTokenRatio
  entrypoint : Gives IsEntrypoint "entrypoint" members overrides.entrypoint

end Overrides

/-- Members misuse one of the keys. -/
inductive Malformed (members : List (String × Json)) : Prop
  | count {key : String} :
      key ∈ ["maxLineLength", "indentWidth", "charsPerToken"] →
      Misuses IsCount key members → Malformed members
  | ratio : Misuses IsRatio "comparativeTokenRatio" members →
      Malformed members
  | entrypoint : Misuses IsEntrypoint "entrypoint" members → Malformed members

theorem givenBy_or_malformed (members : List (String × Json)) :
    (∃ overrides : Overrides, overrides.GivenBy members) ∨
      Malformed members := by
  rcases gives_or_misuses IsCount "maxLineLength" members with
    ⟨maxLineLength, lineGiven⟩ | misuses
  swap
  · exact Or.inr (Malformed.count (by decide) misuses)
  rcases gives_or_misuses IsCount "indentWidth" members with
    ⟨indentWidth, indentGiven⟩ | misuses
  swap
  · exact Or.inr (Malformed.count (by decide) misuses)
  rcases gives_or_misuses IsCount "charsPerToken" members with
    ⟨charsPerToken, charsGiven⟩ | misuses
  swap
  · exact Or.inr (Malformed.count (by decide) misuses)
  rcases gives_or_misuses IsRatio "comparativeTokenRatio" members with
    ⟨ratio, ratioGiven⟩ | misuses
  swap
  · exact Or.inr (Malformed.ratio misuses)
  rcases gives_or_misuses IsEntrypoint "entrypoint" members with
    ⟨entrypoint, entrypointGiven⟩ | misuses
  swap
  · exact Or.inr (Malformed.entrypoint misuses)
  exact Or.inl
    ⟨⟨maxLineLength, indentWidth, charsPerToken, ratio, entrypoint⟩,
      ⟨lineGiven, indentGiven, charsGiven, ratioGiven, entrypointGiven⟩⟩

/-- Settings are read off members field by field. -/
theorem ofJson?_record (members : List (String × Json)) :
    ofJson? (record members) =
      (fieldOf? "maxLineLength" Json.count? ({} : Settings).maxLineLength
          members).bind fun maxLineLength =>
        (fieldOf? "indentWidth" Json.count? ({} : Settings).indentWidth
            members).bind fun indentWidth =>
          (fieldOf? "charsPerToken" Json.count? ({} : Settings).charsPerToken
              members).bind fun charsPerToken =>
            (fieldOf? "comparativeTokenRatio" Json.binary64?
                ({} : Settings).comparativeTokenRatio members).bind
              fun comparativeTokenRatio =>
                (fieldOf? "entrypoint" Json.text? ({} : Settings).entrypoint
                    members).bind
                  fun entrypoint =>
                    some
                      { maxLineLength, indentWidth, charsPerToken,
                        comparativeTokenRatio, entrypoint } := by
  have allNamed :
      ((membersOf members).all fun member => member.1.isSome) = true := by
    simp [membersOf]
  rw [ofJson?, record, ← membersOf, Json.fields?, if_pos allNamed, keys]
  simp only [fieldOf?, List.mapM_cons, List.mapM_nil]
  generalize member? "maxLineLength" (membersOf members) = line
  generalize member? "indentWidth" (membersOf members) = indent
  generalize member? "charsPerToken" (membersOf members) = chars
  generalize member? "comparativeTokenRatio" (membersOf members) = ratio
  generalize member? "entrypoint" (membersOf members) = entrypoint
  -- The members are looked up before any of their values is read.
  rcases line with _ | line
  · rfl
  rcases indent with _ | indent
  · simp
  rcases chars with _ | chars
  · simp
  rcases ratio with _ | ratio
  · simp
  rcases entrypoint with _ | entrypoint
  · simp
  simp

theorem ofJson?_of_givenBy {members : List (String × Json)}
    {overrides : Overrides} (given : overrides.GivenBy members) :
    ofJson? (record members) = some overrides.settings := by
  have counts := fun value n => @count?_eq_some_iff value n
  have ratios := fun value ratio => @binary64?_eq_some_iff value ratio
  have names := fun value name => @text?_eq_some_iff value name
  rw [ofJson?_record, given.maxLineLength.fieldOf?_eq counts,
    given.indentWidth.fieldOf?_eq counts,
    given.charsPerToken.fieldOf?_eq counts,
    given.comparativeTokenRatio.fieldOf?_eq ratios,
    given.entrypoint.fieldOf?_eq names]
  rfl

theorem ofJson?_of_malformed {members : List (String × Json)}
    (malformed : Malformed members) : ofJson? (record members) = none := by
  have counts := fun value n => @count?_eq_some_iff value n
  have ratios := fun value ratio => @binary64?_eq_some_iff value ratio
  have names := fun value name => @text?_eq_some_iff value name
  rw [ofJson?_record]
  cases malformed with
  | count isCount misuses =>
      simp only [List.mem_cons, List.not_mem_nil, or_false] at isCount
      rcases isCount with rfl | rfl | rfl
      · simp [misuses.fieldOf?_eq counts]
      · simp [misuses.fieldOf?_eq counts]
      · simp [misuses.fieldOf?_eq counts]
  | ratio misuses => simp [misuses.fieldOf?_eq ratios]
  | entrypoint misuses => simp [misuses.fieldOf?_eq names]

/-! ## Texts -/

/-- The members whose keys are looked at. -/
def knownMembers (members : List (String × Json)) : List (String × Json) :=
  members.filter fun member => member.1 ∈ keys

theorem membersWith_knownMembers {key : String} (known : key ∈ keys)
    (members : List (String × Json)) :
    membersWith key (knownMembers members) = membersWith key members := by
  unfold membersWith knownMembers
  rw [List.filter_filter]
  apply List.filter_congr
  intro member _
  by_cases same : member.1 = key
  · simp [same, known]
  · simp [same]

theorem fieldOf?_eq_of_perm {α : Type} {item? : Json → Option α}
    {default : α} {key : String} {members others : List (String × Json)}
    (same : (membersWith key members).Perm (membersWith key others)) :
    fieldOf? key item? default members = fieldOf? key item? default others := by
  simp only [fieldOf?, member?, filter_membersOf]
  have sameLength := same.length_eq
  generalize membersWith key members = first at same sameLength
  generalize membersWith key others = second at same sameLength
  cases second with
  | nil => rw [same.eq_nil]
  | cons member more =>
      cases more with
      | nil => rw [List.perm_singleton.1 same]
      | cons next rest =>
          cases first with
          | nil => cases sameLength
          | cons other others =>
              cases others with
              | nil => cases sameLength
              | cons otherNext otherRest => rfl

/-- Neither the order of members nor those with other keys count. -/
theorem ofJson?_eq_of_perm {members others : List (String × Json)}
    (same : (knownMembers members).Perm (knownMembers others)) :
    ofJson? (record members) = ofJson? (record others) := by
  have sameWith {key : String} (known : key ∈ keys) :
      (membersWith key members).Perm (membersWith key others) := by
    rw [← membersWith_knownMembers known members,
      ← membersWith_knownMembers known others]
    exact same.filter _
  rw [ofJson?_record, ofJson?_record,
    fieldOf?_eq_of_perm (sameWith (by decide)),
    fieldOf?_eq_of_perm (sameWith (by decide)),
    fieldOf?_eq_of_perm (sameWith (by decide)),
    fieldOf?_eq_of_perm (sameWith (by decide)),
    fieldOf?_eq_of_perm (sameWith (by decide))]

/-- Settings are read off the texts that spell them and off no others. -/
theorem readJson?_eq_some_iff {text : List Char} {settings : Settings} :
    readJson? text = some settings ↔
      ∃ value, Document text value ∧ ofJson? value = some settings := by
  rw [readJson?, Option.bind_eq_some_iff]
  simp only [Json.parse?_eq_some_iff]

theorem ofFileText_eq_ok_iff_document {path : Path}
    (isJson : isYamlPath path = false) {text : List Char}
    {settings : Settings} :
    ofFileText path text = .ok settings ↔
      ∃ value, Document text value ∧ ofJson? value = some settings := by
  rw [ofFileText_eq_ok_iff, if_neg (by simp [isJson]), readJson?_eq_some_iff]

theorem eq_malformedJson_of_ofFileText {path : Path}
    (isJson : isYamlPath path = false) {text : List Char} {error : LoadError}
    (refused : ofFileText path text = .error error) :
    error = .malformedJson text := by
  rcases ofFileText_eq_error_iff.1 refused with
    ⟨isYaml, _, _⟩ | ⟨_, _, malformed⟩
  · rw [isJson] at isYaml
    cases isYaml
  · exact malformed

theorem ofFileText_of_document {path : Path} (isJson : isYamlPath path = false)
    {text : List Char} {value : Json} (document : Document text value) :
    ofFileText path text =
      match ofJson? value with
      | some settings => .ok settings
      | none => .error (.malformedJson text) := by
  have read : readJson? text = ofJson? value := by
    rw [readJson?, document.parse?_eq, Option.bind_some]
  rw [ofFileText, isJson, read]
  rfl

/-- A key without a text makes an object malformed, whatever its name. -/
theorem ofJson?_of_key_without_text
    {members : List (Option String × Json)} {value : Json}
    (listed : (none, value) ∈ members) : ofJson? (.object members) = none := by
  have notNamed :
      ¬ (members.all fun member => member.1.isSome) = true := by
    rw [List.all_eq_true]
    intro named
    cases named (none, value) listed
  rw [ofJson?, Json.fields?, if_neg notNamed]
  rfl

theorem load_of_ofFileText {system : System} {path : Path} {text : String}
    (readable : system.read path = .ok text) :
    load system path =
      match ofFileText path text.toList with
      | .error error => .error error
      | .ok settings => (Analyzer.ofSettings settings).mapError .unsound := by
  cases read : ofFileText path text.toList with
  | error error => simp only [load, readable, read]
  | ok settings => simp only [load, readable, read]

section Loaded

variable {system : System} {path : Path} {text : String}
  {overrides : Overrides} (readable : system.read path = .ok text)
  (spelt : ofFileText path text.toList = .ok overrides.settings)

include readable spelt

theorem load_eq_ok_iff_of_spelt {analyzer : Analyzer} :
    load system path = .ok analyzer ↔
      analyzer.settings = overrides.settings := by
  rw [load_of_ofFileText readable, spelt]
  constructor
  · intro loaded
    exact Analyzer.settings_of_ofSettings (mapError_eq_ok_iff.1 loaded)
  · intro same
    rw [← same]
    exact mapError_eq_ok_iff.2 analyzer.ofSettings_settings

theorem load_eq_error_iff_of_spelt {error : LoadError} :
    load system path = .error error ↔
      ∃ flaw, overrides.settings.flaw? = some flaw ∧ error = .unsound flaw := by
  rw [load_of_ofFileText readable, spelt]
  constructor
  · intro failed
    obtain ⟨flaw, refused, same⟩ := mapError_eq_error_iff.1 failed
    exact ⟨flaw, Analyzer.ofSettings_eq_error_iff.1 refused, same.symm⟩
  · rintro ⟨flaw, flawed, rfl⟩
    exact mapError_eq_error_iff.2
      ⟨flaw, Analyzer.ofSettings_eq_error_iff.2 flawed, rfl⟩

end Loaded

theorem spelling_count_iff {text : List Char} {n : Nat} :
    Spelling text (Json.count n) ↔ text = Nat.toDigits 10 n := by
  rw [← Json.numberSpelling_natural_iff]
  constructor
  · intro spelling
    cases spelling with
    | number spelling => exact spelling
  · exact Spelling.number

/-- An object of settings in JSON gives the defaults with the fields of its
members in their place, if it gives each field at most once and with a value of
its type. They are loaded if they are sound and refused with their flaw
otherwise. Every other object is malformed. Members with other keys and the
order of the members do not count, but every key must have a text. A text that
spells no settings is malformed, whatever else it is. Counts are spelt by their
digits alone. Ratios are read to within a few steps of rounding, and it depends
on these steps whether a number next to the limit of the range is a ratio. -/
theorem json_members_override_defaults {system : System} {path : Path}
    {text : String} (isJson : isYamlPath path = false)
    (readable : system.read path = .ok text)
    {members : List (String × Json)}
    (document : Document text.toList (record members)) :
    (∀ overrides : Overrides, overrides.GivenBy members →
        ofFileText path text.toList = .ok overrides.settings ∧
          (∀ analyzer, load system path = .ok analyzer ↔
            analyzer.settings = overrides.settings) ∧
          ∀ error, load system path = .error error ↔
            ∃ flaw, overrides.settings.flaw? = some flaw ∧
              error = .unsound flaw) ∧
      (Malformed members →
        ofFileText path text.toList = .error (.malformedJson text.toList) ∧
          load system path = .error (.malformedJson text.toList)) ∧
      ((∃ overrides : Overrides, overrides.GivenBy members) ∨
        Malformed members) ∧
      (∀ other others, Document other (record others) →
        (knownMembers others).Perm (knownMembers members) →
          ∀ settings, ofFileText path other = .ok settings ↔
            ofFileText path text.toList = .ok settings) ∧
      (∀ other entries value, Document other (.object entries) →
        (none, value) ∈ entries →
          ofFileText path other = .error (.malformedJson other)) ∧
      (∀ other,
        (∀ settings, ofFileText path other = .ok settings ↔
            ∃ value, Document other value ∧ ofJson? value = some settings) ∧
          ∀ error, ofFileText path other = .error error →
            error = .malformedJson other) ∧
      (∀ n literal,
        Spelling literal (Json.count n) ↔ literal = Nat.toDigits 10 n) ∧
      ∀ literal numeral, NumberSpelling literal numeral →
        numeral.IsReadNearly := by
  have spelt := ofFileText_of_document isJson document
  refine ⟨?_, ?_, givenBy_or_malformed members, ?_, ?_, ?_,
    fun n literal => spelling_count_iff,
    fun literal numeral spelling => spelling.isReadNearly⟩
  · intro overrides given
    rw [ofJson?_of_givenBy given] at spelt
    exact ⟨spelt, fun analyzer => load_eq_ok_iff_of_spelt readable spelt,
      fun error => load_eq_error_iff_of_spelt readable spelt⟩
  · intro malformed
    rw [ofJson?_of_malformed malformed] at spelt
    refine ⟨spelt, ?_⟩
    rw [load_of_ofFileText readable, spelt]
  · intro other others otherDocument same settings
    rw [spelt, ofFileText_of_document isJson otherDocument,
      ofJson?_eq_of_perm same]
    cases ofJson? (record members) <;> simp
  · intro other entries value otherDocument listed
    rw [ofFileText_of_document isJson otherDocument,
      ofJson?_of_key_without_text listed]
  · intro other
    exact ⟨fun settings => ofFileText_eq_ok_iff_document isJson,
      fun error => eq_malformedJson_of_ofFileText isJson⟩

/-- Known keys around a member that only holds one, and a key that is given
twice. -/
theorem json_members_override_defaults_nested :
    load
          (.ofTexts
            [("a",
              Json.render .pretty
                (record
                  [("entrypoint", Json.text "go"),
                    ("other", record [("charsPerToken", Json.count 0)]),
                    ("indentWidth", Json.count 2)]))])
          (Path.ofString "a") =
        .ok ⟨{ indentWidth := 2, entrypoint := "go" }, by decide⟩ ∧
      load
          (.ofTexts
            [("a",
              Json.render .compact
                (record
                  [("indentWidth", Json.count 2),
                    ("indentWidth", Json.count 2)]))])
          (Path.ofString "a") =
        .error
          (.malformedJson
            (Json.render .compact
              (record
                [("indentWidth", Json.count 2),
                  ("indentWidth", Json.count 2)])).toList) := by
  have isJson : isYamlPath (Path.ofString "a") = false := by decide
  have readable (text : String) :
      (System.ofTexts [("a", text)]).read (Path.ofString "a") = .ok text := rfl
  constructor
  · have nested : (record [("charsPerToken", Json.count 0)]).Writable := by
      apply Json.writable_record
      simp
    have writable :
        (record
          [("entrypoint", Json.text "go"),
            ("other", record [("charsPerToken", Json.count 0)]),
            ("indentWidth", Json.count 2)]).Writable := by
      apply Json.writable_record
      simp [nested]
    obtain ⟨given, _⟩ :=
      json_members_override_defaults isJson (readable _)
        (writable.document_render .pretty)
    have overrides :
        ({ indentWidth := some 2, entrypoint := some "go" } :
          Overrides).GivenBy
          [("entrypoint", Json.text "go"),
            ("other", record [("charsPerToken", Json.count 0)]),
            ("indentWidth", Json.count 2)] :=
      { maxLineLength := Gives.absent rfl
        indentWidth := Gives.once rfl ⟨rfl, by decide⟩
        charsPerToken := Gives.absent rfl
        comparativeTokenRatio := Gives.absent rfl
        entrypoint := Gives.once rfl rfl }
    exact ((given _ overrides).2.1 _).2 rfl
  · have writable :
        (record
          [("indentWidth", Json.count 2),
            ("indentWidth", Json.count 2)]).Writable := by
      apply Json.writable_record
      simp
    obtain ⟨_, malformed, _⟩ :=
      json_members_override_defaults isJson (readable _)
        (writable.document_render .compact)
    have isRepeated :
        Misuses IsCount "indentWidth"
          [("indentWidth", Json.count 2), ("indentWidth", Json.count 2)] :=
      Misuses.repeated (by decide)
    exact (malformed (Malformed.count (by decide) isRepeated)).2

/-! ## A number next to the limit -/

/-- The greatest finite number. -/
def greatestRatio : Binary64 := ⟨0x7fefffffffffffff⟩

/-- A number just below the greatest finite one. All its digits fit into a
word. -/
def justBelowGreatest : Number :=
  { whole := 1, fraction := "7976931348623157081".toList, exponent := some 308 }

theorem abs_justBelowGreatest_le :
    |justBelowGreatest.toRat| ≤ greatestRatio.toRat := by
  have inUnits :
      justBelowGreatest.coefficient * 10 ^ 289 * Binary64.unitsPerOne ≤
        greatestRatio.units := by
    decide +kernel
  have places : justBelowGreatest.lastExponent = (289 : Nat) := by decide
  have positive : greatestRatio.isNegative = false := by decide
  have cast :
      ((justBelowGreatest.coefficient * 10 ^ 289 * Binary64.unitsPerOne : Nat) :
        ℚ) ≤ greatestRatio.units :=
    Nat.cast_le.2 inUnits
  rw [Nat.cast_mul, Nat.cast_mul, Nat.cast_pow, Nat.cast_ofNat] at cast
  rw [justBelowGreatest.abs_toRat, justBelowGreatest.magnitude_eq, places,
    zpow_natCast, Binary64.toRat, positive, if_neg Bool.false_ne_true, one_mul,
    le_div_iff₀ Binary64.cast_unitsPerOne_pos]
  exact cast

/-- The word and the power of ten are both rounded up, and their product is
too great. -/
theorem toBinary64?_justBelowGreatest :
    justBelowGreatest.toBinary64? = none := by
  decide +kernel

theorem document_justBelowGreatest :
    Document
      "\x7b\"comparativeTokenRatio\":1.7976931348623157081e308\x7d".toList
      (record [("comparativeTokenRatio", .number justBelowGreatest)]) := by
  have writable :
      (record
        [("comparativeTokenRatio", .number justBelowGreatest)]).Writable := by
    apply Json.writable_record
    intro field listed
    rw [List.mem_singleton.1 listed]
    have digits : justBelowGreatest.fraction.all Char.isDigit = true := by
      decide
    exact Json.Writable.number (List.all_eq_true.1 digits)
  have written :
      Json.render .compact
          (record [("comparativeTokenRatio", .number justBelowGreatest)]) =
        "\x7b\"comparativeTokenRatio\":1.7976931348623157081e308\x7d" := by
    decide +kernel
  have document := writable.document_render .compact
  rwa [written] at document

/-- Not every ratio in the range of finite numbers is read. -/
theorem ratio_in_range_refused :
    greatestRatio.isFinite = true ∧
      |justBelowGreatest.toRat| ≤ greatestRatio.toRat ∧
      Document
        "\x7b\"comparativeTokenRatio\":1.7976931348623157081e308\x7d".toList
        (record [("comparativeTokenRatio", .number justBelowGreatest)]) ∧
      load
          (.ofTexts
            [("a",
              "\x7b\"comparativeTokenRatio\":1.7976931348623157081e308\x7d")])
          (Path.ofString "a") =
        .error
          (.malformedJson
            "\x7b\"comparativeTokenRatio\":1.7976931348623157081e308\x7d".toList) := by
  have isJson : isYamlPath (Path.ofString "a") = false := by decide
  have readable (text : String) :
      (System.ofTexts [("a", text)]).read (Path.ofString "a") = .ok text := rfl
  have malformed :
      Malformed [("comparativeTokenRatio", .number justBelowGreatest)] := by
    apply Malformed.ratio
    apply Misuses.mistyped List.mem_cons_self
    rintro ratio ⟨numeral, same, read⟩
    cases same
    rw [toBinary64?_justBelowGreatest] at read
    cases read
  have spelt := ofFileText_of_document isJson document_justBelowGreatest
  rw [ofJson?_of_malformed malformed] at spelt
  refine
    ⟨by decide, abs_justBelowGreatest_le, document_justBelowGreatest, ?_⟩
  rw [load_of_ofFileText (readable _), spelt]

end Preflight.Settings
