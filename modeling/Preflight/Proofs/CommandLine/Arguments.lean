import Mathlib.Data.List.TakeDrop
import Preflight.CommandLine.Arguments

/-!
# What arguments spell

Reading arguments does two things at once: it finds out which options and which
file they spell, and it refuses what is given twice. Here the two are taken
apart. What arguments spell is a list of items that depends on nothing else, and
reading them is to take these items one after the other. So an option counts
wherever it stands and however it is spelt, and one more option in front of the
others changes nothing but what it says.
-/

namespace Preflight.CommandLine

/-- What an argument or a part of it asks for. -/
inductive Item where
  | flag (flag : Flag)
  | value (valued : Valued) (text : List Char)
  | file (name : String)
  deriving DecidableEq, Repr

namespace Draft

def take (draft : Draft) : Item → Except UsageError Draft
  | .flag flag => draft.setFlag flag
  | .value valued text => draft.setValue valued text
  | .file name => draft.setFile name

def takeAll : Draft → List Item → Except UsageError Draft
  | draft, [] => .ok draft
  | draft, item :: rest => (draft.take item).bind fun next => next.takeAll rest

end Draft

/-! ## The items of arguments -/

/-- What comes behind the items of arguments. -/
inductive Ending where
  | whole
  | awaits (valued : Valued)
  | information (information : Information)
  | refused (error : UsageError)
  deriving DecidableEq, Repr

structure Spelling where
  items : List Item := []
  ending : Ending := .whole
  deriving DecidableEq, Repr

namespace Spelling

def behind (items : List Item) (spelling : Spelling) : Spelling :=
  { spelling with items := items ++ spelling.items }

def step (spelling : Spelling) (draft : Draft) : Except UsageError Step :=
  match spelling.ending with
  | .whole => .ok (.next draft)
  | .awaits valued => .ok (.awaits draft valued)
  | .information information => .ok (.information information)
  | .refused error => .error error

def finish (spelling : Spelling) (draft : Draft) : Except UsageError Request :=
  match spelling.ending with
  | .whole => draft.finish
  | .awaits _ => .error .missingValue
  | .information information => .ok (.information information)
  | .refused error => .error error

def ofShort : List Char → Spelling
  | [] => {}
  | name :: rest =>
      match shortOption? name with
      | none => { ending := .refused (.unknownOption name.toString) }
      | some (.information information) =>
          { ending := .information information }
      | some (.flag flag) => (ofShort rest).behind [.flag flag]
      | some (.valued valued) =>
          if rest.isEmpty then { ending := .awaits valued }
          else { items := [.value valued (attachedValue rest)] }

def ofLong (text : List Char) : Spelling :=
  match longOption? (splitLong text).1, (splitLong text).2 with
  | none, _ =>
      { ending := .refused (.unknownOption (String.ofList text)) }
  | some (.valued valued), some value => { items := [.value valued value] }
  | some (.valued valued), none => { ending := .awaits valued }
  | some _, some _ =>
      { ending := .refused (.unexpectedValue (String.ofList text)) }
  | some (.information information), none =>
      { ending := .information information }
  | some (.flag flag), none => { items := [.flag flag] }

def ofArgument (argument : String) : Spelling :=
  match argument.toList with
  | '-' :: '-' :: text => ofLong text
  | '-' :: c :: rest => ofShort (c :: rest)
  | _ => { items := [.file argument] }

def ofFrom : Mode → List String → Spelling
  | .value valued, [] => { ending := .awaits valued }
  | _, [] => {}
  | .files, argument :: rest => (ofFrom .files rest).behind [.file argument]
  | .value valued, argument :: rest =>
      if isOptions argument then { ending := .refused .missingValue }
      else (ofFrom .options rest).behind [.value valued argument.toList]
  | .options, argument :: rest =>
      if argument = "--" then ofFrom .files rest
      else
        let spelling := ofArgument argument
        match spelling.ending with
        | .whole => (ofFrom .options rest).behind spelling.items
        | .awaits valued =>
            (ofFrom (.value valued) rest).behind spelling.items
        | .information _ | .refused _ => spelling

def ofArguments (arguments : List String) : Spelling :=
  ofFrom .options arguments

end Spelling

/-- Arguments give an item when it is one of those that they spell. -/
def Gives (arguments : List String) (item : Item) : Prop :=
  item ∈ (Spelling.ofArguments arguments).items

instance (arguments : List String) (item : Item) :
    Decidable (Gives arguments item) :=
  inferInstanceAs (Decidable (item ∈ (Spelling.ofArguments arguments).items))

/-! ## Reading takes the items -/

theorem Draft.takeAll_append (draft : Draft) (first second : List Item) :
    draft.takeAll (first ++ second) =
      (draft.takeAll first).bind fun next => next.takeAll second := by
  induction first generalizing draft with
  | nil =>
      rfl
  | cons item rest inductionHypothesis =>
      rw [List.cons_append, takeAll, takeAll]
      cases draft.take item with
      | error error =>
          rfl
      | ok next =>
          exact inductionHypothesis next

namespace Spelling

variable (draft : Draft)

theorem readShort_eq (text : List Char) :
    readShort draft text =
      (draft.takeAll (ofShort text).items).bind (ofShort text).step := by
  induction text generalizing draft with
  | nil =>
      rfl
  | cons name rest inductionHypothesis =>
      cases option : shortOption? name with
      | none =>
          simp only [readShort, ofShort, option]
          rfl
      | some found =>
          cases found with
          | information information =>
              simp only [readShort, ofShort, option]
              rfl
          | flag flag =>
              simp only [readShort, ofShort, option, behind,
                List.singleton_append, Draft.takeAll, Draft.take]
              cases draft.setFlag flag with
              | error error =>
                  rfl
              | ok next =>
                  exact inductionHypothesis next
          | valued valued =>
              simp only [readShort, ofShort, option]
              by_cases last : rest.isEmpty = true
              · rw [if_pos last, if_pos last]
                rfl
              · rw [if_neg last, if_neg last]
                simp only [Draft.takeAll, Draft.take]
                cases draft.setValue valued (attachedValue rest) <;> rfl

theorem readLong_eq (text : List Char) :
    readLong draft text =
      (draft.takeAll (ofLong text).items).bind (ofLong text).step := by
  unfold readLong ofLong
  cases option : longOption? (splitLong text).1 with
  | none =>
      simp only [option]
      rfl
  | some found =>
      cases found with
      | information information =>
          cases value : (splitLong text).2 with
          | none =>
              simp only [option, value]
              rfl
          | some given =>
              simp only [option, value]
              rfl
      | flag flag =>
          cases value : (splitLong text).2 with
          | none =>
              simp only [option, value, Draft.takeAll, Draft.take]
              cases draft.setFlag flag <;> rfl
          | some given =>
              simp only [option, value]
              rfl
      | valued valued =>
          cases value : (splitLong text).2 with
          | none =>
              simp only [option, value]
              rfl
          | some given =>
              simp only [option, value, Draft.takeAll, Draft.take]
              cases draft.setValue valued given <;> rfl

theorem readArgument_eq (argument : String) :
    readArgument draft argument =
      (draft.takeAll (ofArgument argument).items).bind
        (ofArgument argument).step := by
  unfold readArgument
  split
  · rename_i text long
    have spelt : ofArgument argument = ofLong text := by
      simp only [ofArgument, long]
    rw [spelt]
    exact readLong_eq draft text
  · rename_i name rest _ short
    have spelt : ofArgument argument = ofShort (name :: rest) := by
      simp only [ofArgument, short]
    rw [spelt]
    exact readShort_eq draft (name :: rest)
  · rename_i notLong notShort
    have spelt : ofArgument argument = { items := [.file argument] } := by
      unfold ofArgument
      split
      · rename_i text long
        exact (notLong text long).elim
      · rename_i name rest _ short
        exact (notShort name rest short).elim
      · rfl
    rw [spelt]
    simp only [Draft.takeAll, Draft.take]
    cases draft.setFile argument <;> rfl

/-- What a reading comes to when it has taken the items of a spelling is what
comes of the further arguments behind these items. -/
theorem bind_finish_behind (items : List Item) (spelling : Spelling) :
    ((draft.takeAll items).bind fun next =>
        (next.takeAll spelling.items).bind spelling.finish) =
      (draft.takeAll (spelling.behind items).items).bind
        (spelling.behind items).finish := by
  rw [behind, Draft.takeAll_append]
  cases draft.takeAll items <;> rfl

/-- Reading arguments takes the items that they spell and then ends as they
do. -/
theorem readFrom_eq (mode : Mode) (arguments : List String) :
    readFrom draft mode arguments =
      (draft.takeAll (ofFrom mode arguments).items).bind
        (ofFrom mode arguments).finish := by
  induction arguments generalizing draft mode with
  | nil =>
      cases mode <;> rfl
  | cons argument rest inductionHypothesis =>
      cases mode with
      | files =>
          rw [readFrom, ofFrom, ← bind_finish_behind]
          simp only [Draft.takeAll, Draft.take]
          cases draft.setFile argument with
          | error error =>
              rfl
          | ok next =>
              exact inductionHypothesis next .files
      | value valued =>
          rw [readFrom, ofFrom]
          by_cases dashed : isOptions argument = true
          · rw [if_pos dashed, if_pos dashed]
            rfl
          · rw [if_neg dashed, if_neg dashed, ← bind_finish_behind]
            simp only [Draft.takeAll, Draft.take]
            cases draft.setValue valued argument.toList with
            | error error =>
                rfl
            | ok next =>
                exact inductionHypothesis next .options
      | options =>
          rw [readFrom, ofFrom]
          by_cases dashes : argument = "--"
          · rw [if_pos dashes, if_pos dashes]
            exact inductionHypothesis draft .files
          · rw [if_neg dashes, if_neg dashes, readArgument_eq]
            generalize ofArgument argument = spelling
            obtain ⟨items, ending⟩ := spelling
            cases ending with
            | whole =>
                simp only [← bind_finish_behind]
                cases draft.takeAll items with
                | error error =>
                    rfl
                | ok next =>
                    exact inductionHypothesis next .options
            | awaits valued =>
                simp only [← bind_finish_behind]
                cases draft.takeAll items with
                | error error =>
                    rfl
                | ok next =>
                    exact inductionHypothesis next (.value valued)
            | information information =>
                cases draft.takeAll items <;> rfl
            | refused error =>
                cases draft.takeAll items <;> rfl

end Spelling

theorem readArguments_eq (arguments : List String) :
    readArguments arguments =
      (({} : Draft).takeAll (Spelling.ofArguments arguments).items).bind
        (Spelling.ofArguments arguments).finish :=
  Spelling.readFrom_eq {} .options arguments

/-! ## What a request holds -/

def Format.name : Format → String
  | text => "text"
  | json => "json"
  | report => "report"

theorem Format.ofName?_eq_some_iff {text : List Char} {format : Format} :
    ofName? text = some format ↔ String.ofList text = format.name := by
  unfold ofName?
  split <;> cases format <;> simp_all [name]

/-- Whether a draft has taken an item. -/
def Draft.Holds (draft : Draft) : Item → Prop
  | .flag flag => flag ∈ draft.flags
  | .value .format text =>
      draft.format.map Format.name = some (String.ofList text)
  | .value .config text => draft.config = some (String.ofList text)
  | .file name => draft.file = some name

namespace Draft

variable {draft next final : Draft}

theorem holds_setFlag {flag : Flag}
    (taken : draft.setFlag flag = .ok next) (other : Item) :
    next.Holds other ↔ draft.Holds other ∨ other = .flag flag := by
  unfold setFlag at taken
  split at taken
  · cases taken
  · cases taken
    cases other with
    | flag other =>
        simp [Holds, or_comm]
    | value valued text =>
        cases valued <;> simp [Holds]
    | file name =>
        simp [Holds]

theorem holds_setFile {file : String}
    (taken : draft.setFile file = .ok next) (other : Item) :
    next.Holds other ↔ draft.Holds other ∨ other = .file file := by
  unfold setFile at taken
  split at taken
  · cases taken
  · rename_i noFile
    cases taken
    cases other with
    | flag flag =>
        simp [Holds]
    | value valued text =>
        cases valued <;> simp [Holds]
    | file name =>
        have absent : draft.file = none := by simpa using noFile
        simp [Holds, absent, eq_comm]

theorem holds_setValue {valued : Valued} {text : List Char}
    (taken : draft.setValue valued text = .ok next) (other : Item) :
    next.Holds other ↔ draft.Holds other ∨ other = .value valued text := by
  cases valued with
  | format =>
      simp only [setValue] at taken
      split at taken
      · cases taken
      · rename_i format named
        split at taken
        · cases taken
        · rename_i noFormat
          cases taken
          have absent : draft.format = none := by simpa using noFormat
          have spelt := Format.ofName?_eq_some_iff.1 named
          cases other with
          | flag flag =>
              simp [Holds]
          | value valued other =>
              cases valued with
              | format =>
                  simp [Holds, absent, ← spelt, String.ofList_inj, eq_comm]
              | config =>
                  simp [Holds]
          | file name =>
              simp [Holds]
  | config =>
      simp only [setValue] at taken
      split at taken
      · cases taken
      · split at taken
        · cases taken
        · rename_i noConfig
          cases taken
          have absent : draft.config = none := by simpa using noConfig
          cases other with
          | flag flag =>
              simp [Holds]
          | value valued text =>
              cases valued <;>
                simp [Holds, absent, String.ofList_inj, eq_comm]
          | file name =>
              simp [Holds]

theorem holds_take {item : Item}
    (taken : draft.take item = .ok next) (other : Item) :
    next.Holds other ↔ draft.Holds other ∨ other = item := by
  cases item with
  | flag flag =>
      exact holds_setFlag taken other
  | value valued text =>
      exact holds_setValue taken other
  | file name =>
      exact holds_setFile taken other

theorem holds_takeAll {items : List Item}
    (taken : draft.takeAll items = .ok final) (item : Item) :
    final.Holds item ↔ draft.Holds item ∨ item ∈ items := by
  induction items generalizing draft with
  | nil =>
      cases taken
      simp
  | cons first rest inductionHypothesis =>
      rw [takeAll] at taken
      cases takenFirst : draft.take first with
      | error error =>
          rw [takenFirst] at taken
          cases taken
      | ok next =>
          rw [takenFirst] at taken
          rw [inductionHypothesis taken, holds_take takenFirst,
            List.mem_cons, or_assoc]

theorem not_holds_empty (item : Item) : ¬ ({} : Draft).Holds item := by
  cases item with
  | flag flag =>
      exact List.not_mem_nil
  | value valued text =>
      cases valued <;> simp [Holds]
  | file name =>
      simp [Holds]

/-- A finished draft asks for what it holds. -/
theorem finish_eq_check {options : Options}
    (finished : draft.finish = .ok (.check options)) :
    (∀ name, draft.Holds (.file name) ↔ options.file = name) ∧
      (draft.Holds (.flag .noConfig) ↔ options.settings = .defaults) ∧
      ∀ path, draft.Holds (.value .config path) ↔
        options.settings = .file (String.ofList path) := by
  unfold finish at finished
  cases file : draft.file with
  | none =>
      simp only [file] at finished
      split at finished <;> simp_all
  | some name =>
      by_cases ruledOut : Flag.noConfig ∈ draft.flags
      · cases config : draft.config with
        | none =>
            simp only [file, config, ruledOut, decide_true] at finished
            cases finished
            simp [Holds, file, config, ruledOut]
        | some path =>
            simp [file, config, ruledOut] at finished
      · cases config : draft.config with
        | none =>
            simp only [file, config, ruledOut, decide_false] at finished
            cases finished
            simp [Holds, file, config, ruledOut]
        | some path =>
            simp only [file, config, ruledOut, decide_false] at finished
            cases finished
            simp [Holds, file, config, ruledOut]

end Draft

/-- A check has the file and the settings that its arguments give. -/
theorem gives_of_readArguments {arguments : List String} {options : Options}
    (read : readArguments arguments = .ok (.check options)) :
    (∀ name, Gives arguments (.file name) ↔ options.file = name) ∧
      (Gives arguments (.flag .noConfig) ↔ options.settings = .defaults) ∧
      ∀ path, Gives arguments (.value .config path) ↔
        options.settings = .file (String.ofList path) := by
  rw [readArguments_eq] at read
  unfold Gives
  generalize Spelling.ofArguments arguments = spelling at read ⊢
  cases taken : ({} : Draft).takeAll spelling.items with
  | error error =>
      rw [taken] at read
      cases read
  | ok final =>
      rw [taken] at read
      have holds (item : Item) : final.Holds item ↔ item ∈ spelling.items := by
        rw [Draft.holds_takeAll taken,
          or_iff_right (Draft.not_holds_empty item)]
      simp only [← holds]
      apply Draft.finish_eq_check
      change spelling.finish final = _ at read
      unfold Spelling.finish at read
      split at read <;> first | exact read | cases read

example :
    Gives ["-vcp", "a"] (.value .config ['p']) ∧
      Gives ["a", "--config=p"] (.value .config ['p']) ∧
      ¬ Gives ["--", "--no-config"] (.flag .noConfig) := by
  decide

/-! ## One more option -/

/-- Whether an item says where the settings come from. -/
def Item.SaysSettings : Item → Prop
  | .flag name => name = .noConfig
  | .value name _ => name = .config
  | .file _ => False

/-- An argument that asks for these settings, where one is needed. -/
def SettingsSource.arguments : SettingsSource → List String
  | .discovered => []
  | .defaults => ["--no-config"]
  | .file path => ["--config=" ++ path]

def SettingsSource.items : SettingsSource → List Item
  | .discovered => []
  | .defaults => [.flag .noConfig]
  | .file path => [.value .config path.toList]

def Request.withSource (source : SettingsSource) : Request → Request
  | .information asked => .information asked
  | .check options => .check { options with settings := source }

namespace Draft

variable {draft next final : Draft}

/-- A draft to which settings are added from the outside. -/
def withSource (source : SettingsSource) (draft : Draft) : Draft :=
  match source with
  | .discovered => draft
  | .defaults => { draft with flags := draft.flags ++ [.noConfig] }
  | .file path => { draft with config := some path }

theorem take_withSource {item : Item} (silent : ¬ item.SaysSettings)
    (source : SettingsSource) :
    (draft.withSource source).take item =
      (draft.take item).map (withSource source) := by
  cases item with
  | flag flag =>
      have other : flag ≠ .noConfig := silent
      have same :
          flag ∈ (draft.withSource source).flags ↔ flag ∈ draft.flags := by
        cases source <;> simp [withSource, other]
      simp only [take, setFlag, same, apply_ite (Except.map _)]
      cases source <;> rfl
  | value valued text =>
      cases valued with
      | config =>
          exact (silent rfl).elim
      | format =>
          simp only [take, setValue]
          cases Format.ofName? text with
          | none =>
              rfl
          | some format =>
              simp only [apply_ite (Except.map _)]
              cases source <;> rfl
  | file name =>
      simp only [take, setFile, apply_ite (Except.map _)]
      cases source <;> rfl

theorem takeAll_withSource {items : List Item}
    (silent : ∀ item ∈ items, ¬ item.SaysSettings)
    (source : SettingsSource) :
    (draft.withSource source).takeAll items =
      (draft.takeAll items).map (withSource source) := by
  induction items generalizing draft with
  | nil =>
      rfl
  | cons item rest inductionHypothesis =>
      rw [List.forall_mem_cons] at silent
      rw [takeAll, takeAll, take_withSource silent.1]
      cases draft.take item with
      | error error =>
          rfl
      | ok next =>
          exact inductionHypothesis silent.2

theorem takeAll_items {source : SettingsSource} (solid : source ≠ .file "") :
    ({} : Draft).takeAll source.items =
      .ok (({} : Draft).withSource source) := by
  cases source with
  | discovered =>
      rfl
  | defaults =>
      rfl
  | file path =>
      have nonempty : path.toList.isEmpty = false := by
        rw [List.isEmpty_eq_false_iff, Ne, String.toList_eq_nil_iff]
        rintro rfl
        exact solid rfl
      simp [SettingsSource.items, takeAll, take, setValue, nonempty,
        withSource, Except.bind]

theorem finish_withSource
    (silent : ∀ item, draft.Holds item → ¬ item.SaysSettings)
    (source : SettingsSource) :
    (draft.withSource source).finish =
      draft.finish.map (Request.withSource source) := by
  have notRuledOut : Flag.noConfig ∉ draft.flags := fun ruledOut =>
    silent (.flag .noConfig) ruledOut rfl
  have noConfig : draft.config = none := by
    cases config : draft.config with
    | none =>
        rfl
    | some path =>
        have holds : draft.Holds (.value .config path.toList) := by
          simp [Holds, config]
        exact (silent _ holds rfl).elim
  unfold finish
  cases file : draft.file with
  | none =>
      cases source <;>
        simp only [withSource, file, noConfig, notRuledOut] <;> rfl
  | some name =>
      cases source with
      | discovered =>
          simp only [withSource, file, noConfig, notRuledOut]
          rfl
      | defaults =>
          simp [withSource, file, noConfig, notRuledOut, Except.map,
            Request.withSource]
      | file path =>
          simp only [withSource, file, noConfig, notRuledOut]
          rfl

end Draft

theorem Spelling.ofArgument_config (path : String) :
    ofArgument ("--config=" ++ path) =
      { items := [.value .config path.toList] } := by
  have split :
      splitLong ("config=".toList ++ path.toList) =
        ("config".toList, some path.toList) := by
    simp [splitLong, List.span_eq_takeWhile_dropWhile]
  have spelt :
      ofArgument ("--config=" ++ path) =
        ofLong ("config=".toList ++ path.toList) := by
    simp [ofArgument]
  rw [spelt, ofLong, split]
  rfl

theorem Spelling.ofArguments_append (source : SettingsSource)
    (arguments : List String) :
    ofArguments (source.arguments ++ arguments) =
      (ofArguments arguments).behind source.items := by
  cases source with
  | discovered =>
      rfl
  | defaults =>
      rfl
  | file path =>
      have notDashes : "--config=" ++ path ≠ "--" := by
        intro same
        have lengths := congrArg String.length same
        rw [String.length_append] at lengths
        have long : "--config=".length = 9 := by decide
        have short : "--".length = 2 := by decide
        omega
      change ofFrom .options (_ :: arguments) = _
      rw [ofFrom, if_neg notDashes, ofArgument_config]
      rfl

/-- One more option in front of arguments that say nothing about the settings
changes where the settings come from, and nothing else. -/
theorem readArguments_append {source : SettingsSource}
    {arguments : List String} (solid : source ≠ .file "")
    (silent : ∀ item, Gives arguments item → ¬ item.SaysSettings) :
    readArguments (source.arguments ++ arguments) =
      (readArguments arguments).map (Request.withSource source) := by
  rw [readArguments_eq, readArguments_eq, Spelling.ofArguments_append,
    ← Spelling.bind_finish_behind, Draft.takeAll_items solid]
  change ((({} : Draft).withSource source).takeAll _).bind _ = _
  rw [Draft.takeAll_withSource silent]
  cases taken :
      ({} : Draft).takeAll (Spelling.ofArguments arguments).items with
  | error error =>
      rfl
  | ok final =>
      have silentToo : ∀ item, final.Holds item → ¬ item.SaysSettings := by
        intro item holds
        rw [Draft.holds_takeAll taken,
          or_iff_right (Draft.not_holds_empty item)] at holds
        exact silent item holds
      change Spelling.finish _ (final.withSource source) =
        (Spelling.finish _ final).map _
      unfold Spelling.finish
      split
      · exact Draft.finish_withSource silentToo source
      · rfl
      · rfl
      · rfl

end Preflight.CommandLine
