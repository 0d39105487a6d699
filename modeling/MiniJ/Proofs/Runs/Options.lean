import Mathlib.Data.List.Basic
import MiniJ.Settings

/-!
# Options in closed form

What an argument is meant for can be read off its text alone (`Argument.Intends`): it is no option, it
decides one of three settings, or it is bad. The settings behind a list of arguments follow from the
intents up to the first bad one: the last dialect and the last use of color count, and one wish for more
output is enough. So options for different settings do not disturb each other, and it does not matter
where the other arguments stand.

The main statement is `applyAll_closed`.
-/

set_option autoImplicit false

namespace MiniJ

namespace Argument

/-- What can be decided by an option. -/
inductive Setting where
  | dialect
  | verbose
  | color
  deriving DecidableEq

/-- What an argument is meant for. -/
inductive Intent where
  /-- It is no option. -/
  | positional
  | dialect (choice : Dialect)
  | verbose
  | color (choice : ColorMode)
  /-- It is refused. -/
  | bad (error : SettingsError)
  deriving DecidableEq

namespace Intent

/-- Whether an argument is refused. -/
def isBad : Intent → Bool
  | bad _ => true
  | _ => false

/-- The dialect that an argument asks for. -/
def dialect? : Intent → Option Dialect
  | dialect choice => some choice
  | _ => none

/-- The use of color that an argument asks for. -/
def color? : Intent → Option ColorMode
  | color choice => some choice
  | _ => none

/-- The setting that an argument decides. -/
def setting? : Intent → Option Setting
  | dialect _ => some .dialect
  | verbose => some .verbose
  | color _ => some .color
  | positional | bad _ => none

theorem setting?_of_dialect? {meant : Intent} {choice : Dialect}
    (asks : meant.dialect? = some choice) : meant.setting? = some .dialect := by
  cases meant with
  | dialect _ => rfl
  | positional | verbose | color _ | bad _ => cases asks

theorem setting?_of_color? {meant : Intent} {choice : ColorMode}
    (asks : meant.color? = some choice) : meant.setting? = some .color := by
  cases meant with
  | color _ => rfl
  | positional | verbose | dialect _ | bad _ => cases asks

end Intent

/-- What the text of an argument says. A name behind a sign of equality may be unknown, and whatever
else begins with a dash must be one of four options. -/
inductive Intends : String → Intent → Prop
  | positional {argument : String} : argument.toList.head? ≠ some '-' →
      Intends argument .positional
  | mini : Intends "--mini" (.dialect .mini)
  | extended : Intends "--extended" (.dialect .extended)
  | dialect {name : String} {choice : Dialect} : Dialect.ofName? name = some choice →
      Intends ("--dialect=" ++ name) (.dialect choice)
  | unknownDialect {name : String} : Dialect.ofName? name = none →
      Intends ("--dialect=" ++ name) (.bad (.unknownDialect name))
  | verbose : Intends "--verbose" .verbose
  | shortVerbose : Intends "-v" .verbose
  | color {mode : String} {choice : ColorMode} : ColorMode.ofText? mode = some choice →
      Intends ("--color=" ++ mode) (.color choice)
  | unknownColor {mode : String} : ColorMode.ofText? mode = none →
      Intends ("--color=" ++ mode) (.bad (.unknownColor mode))
  | unknown {argument : String} : argument.toList.head? = some '-' →
      argument ∉ ["--mini", "--extended", "--verbose", "-v"] →
      (∀ name, argument ≠ "--dialect=" ++ name) → (∀ mode, argument ≠ "--color=" ++ mode) →
      Intends argument (.bad (.unknownOption argument))

/-- What an argument is meant for. -/
def intent (argument : String) : Intent :=
  match Argument.of argument with
  | .dialect name =>
    match Dialect.ofName? name with
    | some choice => .dialect choice
    | none => .bad (.unknownDialect name)
  | .verbose => .verbose
  | .color mode =>
    match ColorMode.ofText? mode with
    | some choice => .color choice
    | none => .bad (.unknownColor mode)
  | .unknown => .bad (.unknownOption argument)
  | .positional => .positional

/-! ## The text of an argument -/

theorem valueAfter?_eq_some {start text value : String} :
    valueAfter? start text = some value ↔ text = start ++ value := by
  rw [valueAfter?, Option.map_eq_some_iff]
  constructor
  · rintro ⟨cs, found, rfl⟩
    rw [List.isPrefixOf?_eq_some_iff_append_eq] at found
    rw [← String.toList_inj, String.toList_append, String.toList_ofList]
    exact found.symm
  · rintro rfl
    refine ⟨value.toList, ?_, String.ofList_toList⟩
    rw [List.isPrefixOf?_eq_some_iff_append_eq, String.toList_append]

theorem valueAfter?_eq_none {start text : String} :
    valueAfter? start text = none ↔ ∀ value, text ≠ start ++ value := by
  rw [Option.eq_none_iff_forall_ne_some]
  exact forall_congr' fun value => not_congr valueAfter?_eq_some

theorem of_dialect (name : String) : Argument.of ("--dialect=" ++ name) = .dialect name := by
  rw [Argument.of, valueAfter?_eq_some.mpr rfl]

/-- Texts that begin with different characters are different. -/
theorem append_ne {start text : String} {n : Nat} (value : String)
    (inside : n ≤ start.toList.length) (differ : start.toList.take n ≠ text.toList.take n) :
    start ++ value ≠ text := by
  rintro rfl
  rw [String.toList_append, List.take_append_of_le_length inside] at differ
  exact differ rfl

theorem of_color (mode : String) : Argument.of ("--color=" ++ mode) = .color mode := by
  -- none of the other options begins with these three characters
  have begins (text : String) (differ : "--c".toList ≠ text.toList.take 3) :
      "--color=" ++ mode ≠ text :=
    append_ne mode (by decide : 3 ≤ "--color=".toList.length) differ
  have noDialect : valueAfter? "--dialect=" ("--color=" ++ mode) = none := by
    rw [valueAfter?_eq_none]
    intro name
    apply begins
    rw [String.toList_append]
    exact (by decide : "--c".toList ≠ "--d".toList)
  have extended := begins "--extended" (by decide)
  have mini := begins "--mini" (by decide)
  have verbose := begins "--verbose" (by decide)
  have short := begins "-v" (by decide)
  rw [Argument.of, noDialect]
  simp [extended, mini, verbose, short, valueAfter?_eq_some.mpr rfl]

/-- Of the texts that set nothing by a name, four are options, those without a dash are none, and the
others are unknown. -/
theorem of_plain {argument : String} (noDialect : ∀ name, argument ≠ "--dialect=" ++ name)
    (noColor : ∀ mode, argument ≠ "--color=" ++ mode) :
    Argument.of argument =
      if argument = "--extended" then .dialect Dialect.extended.name
      else if argument = "--mini" then .dialect Dialect.mini.name
      else if argument = "--verbose" || argument = "-v" then .verbose
      else if argument.toList.head? = some '-' then .unknown else .positional := by
  rw [Argument.of, valueAfter?_eq_none.mpr noDialect, valueAfter?_eq_none.mpr noColor]

theorem ofName?_name (dialect : Dialect) : Dialect.ofName? dialect.name = some dialect := by
  cases dialect <;> decide +kernel

/-- **Every argument is meant for what its text says.** -/
theorem intends_intent (argument : String) : Intends argument (intent argument) := by
  by_cases dialect : ∃ name, argument = "--dialect=" ++ name
  · obtain ⟨name, rfl⟩ := dialect
    rw [intent, of_dialect]
    dsimp only
    cases known : Dialect.ofName? name with
    | some choice => exact .dialect known
    | none => exact .unknownDialect known
  by_cases color : ∃ mode, argument = "--color=" ++ mode
  · obtain ⟨mode, rfl⟩ := color
    rw [intent, of_color]
    dsimp only
    cases known : ColorMode.ofText? mode with
    | some choice => exact .color known
    | none => exact .unknownColor known
  -- Without one of the two prefixes the argument is compared as a whole.
  rw [not_exists] at dialect color
  rw [intent, of_plain dialect color]
  split_ifs with extended mini verbose dash
  · subst extended
    dsimp only
    rw [ofName?_name]
    exact .extended
  · subst mini
    dsimp only
    rw [ofName?_name]
    exact .mini
  · rw [Bool.or_eq_true, decide_eq_true_eq, decide_eq_true_eq] at verbose
    rcases verbose with rfl | rfl
    · exact .verbose
    · exact .shortVerbose
  · refine .unknown dash ?_ dialect color
    rw [Bool.or_eq_true, decide_eq_true_eq, decide_eq_true_eq, not_or] at verbose
    simp [extended, mini, verbose]
  · exact .positional dash

/-- **The text of an argument says one thing only.** -/
theorem intent_of_intends {argument : String} {meant : Intent} (intends : Intends argument meant) :
    intent argument = meant := by
  cases intends with
  | positional plain =>
      -- Every option begins with a dash, so an argument without one is none of them.
      have differs (text : String) (dash : text.toList.head? = some '-') : argument ≠ text := by
        rintro rfl
        exact plain dash
      have noDialect (name : String) : argument ≠ "--dialect=" ++ name :=
        differs _ (by rw [String.toList_append]; rfl)
      have noColor (mode : String) : argument ≠ "--color=" ++ mode :=
        differs _ (by rw [String.toList_append]; rfl)
      have verbose := differs "--verbose" rfl
      have short := differs "-v" rfl
      rw [intent, of_plain noDialect noColor, if_neg (differs _ rfl), if_neg (differs _ rfl),
        if_neg (by simp [verbose, short]), if_neg plain]
  | mini => decide +kernel
  | extended => decide +kernel
  | dialect known =>
      rw [intent, of_dialect]
      dsimp only
      rw [known]
  | unknownDialect unknown =>
      rw [intent, of_dialect]
      dsimp only
      rw [unknown]
  | verbose => decide +kernel
  | shortVerbose => decide +kernel
  | color known =>
      rw [intent, of_color]
      dsimp only
      rw [known]
  | unknownColor unknown =>
      rw [intent, of_color]
      dsimp only
      rw [unknown]
  | unknown dash notOption noDialect noColor =>
      simp only [List.mem_cons, List.not_mem_nil, or_false, not_or] at notOption
      rw [intent, of_plain noDialect noColor, if_neg notOption.2.1, if_neg notOption.1,
        if_neg (by simp [notOption.2.2]), if_pos dash]

/-- **What an argument is meant for is what its text says.** -/
theorem intends_iff (argument : String) (meant : Intent) :
    Intends argument meant ↔ intent argument = meant := by
  constructor
  · exact intent_of_intends
  · rintro rfl
    exact intends_intent argument

theorem intent_eq_positional_iff (argument : String) :
    intent argument = .positional ↔ argument.toList.head? ≠ some '-' := by
  rw [← intends_iff]
  constructor
  · rintro ⟨⟩
    assumption
  · exact .positional

/-! ## Lists of arguments -/

/-- The settings after an argument. -/
def Intent.apply (settings : Settings) : Intent → Settings
  | dialect choice => { settings with dialect := choice }
  | verbose => { settings with verbose := true }
  | color choice => { settings with color := choice }
  | positional | bad _ => settings

/-- The options for a setting, in order. -/
def optionsFor (setting : Setting) (arguments : List String) : List Intent :=
  (arguments.map intent).filter fun intent => intent.setting? = some setting

/-- What comes last counts: a part of a state that is either replaced or kept has the last
replacement. -/
theorem foldl_last {σ α β : Type} {act : σ → α → σ} {view : σ → β} {replaces? : α → Option β}
    (step : ∀ state a, view (act state a) = (replaces? a).getD (view state)) (state : σ)
    (as : List α) :
    view (as.foldl act state) = (as.filterMap replaces?).getLast?.getD (view state) := by
  induction as generalizing state with
  | nil => rfl
  | cons a as ih =>
      rw [List.foldl_cons, ih, step, List.filterMap_cons]
      -- a replacement in `as` counts; without one, the view is that of the state behind `a`
      cases replaces? a with
      | none => rfl
      | some b =>
          rw [List.getLast?_cons]
          rfl

section Options

variable (arguments : List String)

/-- What is chosen for a setting is chosen by the options for it. -/
theorem filterMap_optionsFor {α : Type} {choice? : Intent → Option α} {setting : Setting}
    (decides : ∀ meant choice, choice? meant = some choice → meant.setting? = some setting) :
    (arguments.map intent).filterMap choice? =
      (optionsFor setting arguments).filterMap choice? := by
  rw [optionsFor, List.filterMap_filter]
  congr
  funext meant
  cases chosen : choice? meant with
  | none => simp
  | some choice => simp [decides meant choice chosen]

theorem verbose_mem_iff :
    .verbose ∈ arguments.map intent ↔ .verbose ∈ optionsFor .verbose arguments := by
  simp [optionsFor, Intent.setting?]

end Options

section Fold

variable (settings : Settings) (intents : List Intent)

theorem dialect_foldl : (intents.foldl Intent.apply settings).dialect =
    (intents.filterMap Intent.dialect?).getLast?.getD settings.dialect := by
  apply foldl_last
  intro state intent
  cases intent <;> rfl

theorem color_foldl : (intents.foldl Intent.apply settings).color =
    (intents.filterMap Intent.color?).getLast?.getD settings.color := by
  apply foldl_last
  intro state intent
  cases intent <;> rfl

theorem verbose_foldl : (intents.foldl Intent.apply settings).verbose = true ↔
    settings.verbose = true ∨ .verbose ∈ intents := by
  induction intents generalizing settings with
  | nil => simp
  | cons intent intents ih =>
      rw [List.foldl_cons, ih, List.mem_cons]
      cases intent <;> simp [Intent.apply]

end Fold

end Argument

open Argument

namespace Settings

variable {settings : Settings} {argument : String} {rest arguments : List String}

/-- One argument is applied as it is meant. -/
theorem applyOption_eq (settings : Settings) (argument : String) :
    settings.applyOption argument =
      match intent argument with
      | .positional => .ok none
      | .bad error => .error error
      | option => .ok (some (Intent.apply settings option)) := by
  rw [applyOption, intent]
  cases Argument.of argument with
  | dialect name =>
      dsimp only
      rw [withDialect]
      cases Dialect.ofName? name <;> rfl
  | color mode =>
      dsimp only
      cases ColorMode.ofText? mode <;> rfl
  | verbose | unknown | positional => rfl

theorem applyAll_bad {error : SettingsError} (bad : intent argument = .bad error) :
    settings.applyAll (argument :: rest) = (.error error, settings) := by
  rw [applyAll, applyOption_eq, bad]

/-- An argument that is not refused is applied, and kept if it is no option. -/
theorem applyAll_good (good : (intent argument).isBad = false) :
    settings.applyAll (argument :: rest) =
      let outcome := (Intent.apply settings (intent argument)).applyAll rest
      (outcome.1.map fun positional =>
        if intent argument = .positional then argument :: positional else positional,
        outcome.2) := by
  rw [applyAll, applyOption_eq]
  cases meant : intent argument with
  | bad error =>
      rw [meant] at good
      cases good
  | positional =>
      dsimp only [Intent.apply]
      rcases settings.applyAll rest with ⟨_ | _, _⟩ <;> rfl
  | dialect choice | verbose | color choice =>
      dsimp only
      rcases Settings.applyAll _ rest with ⟨_ | _, _⟩ <;> rfl

/-- The number of arguments in front of the first bad one. -/
def goodCount (arguments : List String) : Nat :=
  (arguments.map intent).findIdx Intent.isBad

theorem goodCount_bad {error : SettingsError} (bad : intent argument = .bad error) :
    goodCount (argument :: rest) = 0 := by
  rw [goodCount, List.map_cons, List.findIdx_cons, bad]
  rfl

theorem goodCount_good (good : (intent argument).isBad = false) :
    goodCount (argument :: rest) = goodCount rest + 1 := by
  rw [goodCount, List.map_cons, List.findIdx_cons, good]
  rfl

/-- Induction up to the first bad argument, as the arguments are applied. -/
theorem applyAll_induction {motive : List String → Prop} (nil : motive [])
    (bad : ∀ argument rest error, intent argument = .bad error → motive (argument :: rest))
    (good : ∀ argument rest, (intent argument).isBad = false → motive rest →
      motive (argument :: rest))
    (arguments : List String) : motive arguments := by
  induction arguments with
  | nil => exact nil
  | cons argument rest ih =>
      cases meant : intent argument with
      | bad error => exact bad argument rest error meant
      | positional | dialect choice | verbose | color choice =>
          exact good argument rest (by rw [meant]; rfl) ih

/-- **The settings follow from the arguments in front of the first bad one.** -/
theorem applyAll_settings (settings : Settings) (arguments : List String) :
    (settings.applyAll arguments).2 =
      ((arguments.map intent).take (goodCount arguments)).foldl Intent.apply settings := by
  induction arguments using applyAll_induction generalizing settings with
  | nil => rfl
  | bad argument rest error bad =>
      rw [applyAll_bad bad, goodCount_bad bad]
      rfl
  | good argument rest good ih =>
      rw [applyAll_good good, goodCount_good good, List.map_cons, List.take_succ_cons,
        List.foldl_cons]
      exact ih _

/-- **The first bad argument is the error**, and without one the arguments that are no options are
left. -/
theorem applyAll_result (settings : Settings) (arguments : List String) :
    (∃ error, (arguments.map intent)[goodCount arguments]? = some (.bad error) ∧
      (settings.applyAll arguments).1 = .error error) ∨
    (goodCount arguments = arguments.length ∧ (settings.applyAll arguments).1 =
      .ok (arguments.filter fun argument => argument.toList.head? ≠ some '-')) := by
  induction arguments using applyAll_induction generalizing settings with
  | nil => exact .inr ⟨rfl, rfl⟩
  | bad argument rest error bad =>
      refine .inl ⟨error, ?_, ?_⟩
      · rw [goodCount_bad bad, List.map_cons, bad]
        rfl
      · rw [applyAll_bad bad]
  | good argument rest good ih =>
      rw [applyAll_good good, goodCount_good good]
      dsimp only
      rcases ih (Intent.apply settings (intent argument)) with ⟨error, first, failed⟩ | ⟨all, left⟩
      · rw [failed]
        exact .inl ⟨error, first, rfl⟩
      · rw [left, all, List.length_cons, List.filter_cons]
        refine .inr ⟨rfl, congrArg Except.ok ?_⟩
        simp only [intent_eq_positional_iff, decide_eq_true_eq]

/-- The first bad argument and those behind it change nothing. -/
theorem applyAll_take (settings : Settings) (arguments : List String) :
    (settings.applyAll (arguments.take (goodCount arguments))).2 =
      (settings.applyAll arguments).2 := by
  induction arguments using applyAll_induction generalizing settings with
  | nil => rfl
  | bad argument rest error bad =>
      rw [applyAll_bad bad, goodCount_bad bad]
      rfl
  | good argument rest good ih =>
      rw [goodCount_good good, List.take_succ_cons, applyAll_good good, applyAll_good good]
      exact ih _

theorem goodCount_eq_length (good : ∀ argument ∈ arguments, (intent argument).isBad = false) :
    goodCount arguments = arguments.length := by
  rw [goodCount, ← List.length_map (f := intent), List.findIdx_eq_length]
  simpa using good

/-- **Without a bad argument the options for each setting decide.** -/
theorem applyAll_eq_of_options (settings : Settings) {others : List String}
    (good : ∀ argument ∈ arguments ++ others, (intent argument).isBad = false)
    (same : ∀ setting, optionsFor setting others = optionsFor setting arguments) :
    (settings.applyAll others).2 = (settings.applyAll arguments).2 := by
  have all {texts : List String} (good : ∀ argument ∈ texts, (intent argument).isBad = false) :
      (settings.applyAll texts).2 = (texts.map intent).foldl Intent.apply settings := by
    rw [applyAll_settings, goodCount_eq_length good, ← List.length_map (f := intent),
      List.take_length]
  rw [all fun argument member => good argument (List.mem_append_right _ member),
    all fun argument member => good argument (List.mem_append_left _ member)]
  -- there are three settings, and each of them is decided by its own options
  have dialect : ((others.map intent).foldl Intent.apply settings).dialect =
      ((arguments.map intent).foldl Intent.apply settings).dialect := by
    rw [dialect_foldl, dialect_foldl,
      filterMap_optionsFor others fun _ _ => Intent.setting?_of_dialect?,
      filterMap_optionsFor arguments fun _ _ => Intent.setting?_of_dialect?, same]
  have color : ((others.map intent).foldl Intent.apply settings).color =
      ((arguments.map intent).foldl Intent.apply settings).color := by
    rw [color_foldl, color_foldl,
      filterMap_optionsFor others fun _ _ => Intent.setting?_of_color?,
      filterMap_optionsFor arguments fun _ _ => Intent.setting?_of_color?, same]
  have verbose : ((others.map intent).foldl Intent.apply settings).verbose =
      ((arguments.map intent).foldl Intent.apply settings).verbose := by
    rw [Bool.eq_iff_iff, verbose_foldl, verbose_foldl, verbose_mem_iff, verbose_mem_iff, same]
  generalize (others.map intent).foldl Intent.apply settings = one at dialect color verbose ⊢
  generalize (arguments.map intent).foldl Intent.apply settings = other at dialect color verbose ⊢
  obtain ⟨_, _, _⟩ := one
  obtain ⟨_, _, _⟩ := other
  cases dialect
  cases color
  cases verbose
  rfl

end Settings

/-- **Options in closed form.** Each argument is meant for what its text says. Let the arguments in front
of the first bad one be applied. Then

* the dialect and the use of color are those that the last of these arguments for it asks for, and the
  ones from before without any, and more output is given if it was given before or one asks for it;
* the bad argument and those behind it change nothing;
* the result is the error of the bad argument and, without one, the arguments that do not begin with a
  dash, in order.

So if no argument is bad the settings depend on the options for each setting alone, however these are
mixed with each other and with the other arguments. -/
theorem applyAll_closed (settings : Settings) (arguments : List String) :
    let k := (arguments.map intent).findIdx Intent.isBad
    let applied := (arguments.map intent).take k
    let outcome := settings.applyAll arguments
    (∀ argument meant, Intends argument meant ↔ intent argument = meant) ∧
    outcome.2.dialect = (applied.filterMap Intent.dialect?).getLast?.getD settings.dialect ∧
    (outcome.2.verbose = true ↔ settings.verbose = true ∨ .verbose ∈ applied) ∧
    outcome.2.color = (applied.filterMap Intent.color?).getLast?.getD settings.color ∧
    (settings.applyAll (arguments.take k)).2 = outcome.2 ∧
    ((∃ error, (arguments.map intent)[k]? = some (.bad error) ∧ outcome.1 = .error error) ∨
      (k = arguments.length ∧ outcome.1 =
        .ok (arguments.filter fun argument => argument.toList.head? ≠ some '-'))) ∧
    ∀ others : List String,
      (∀ argument ∈ arguments ++ others, (intent argument).isBad = false) →
      (∀ setting, optionsFor setting others = optionsFor setting arguments) →
        (settings.applyAll others).2 = outcome.2 := by
  intro k applied outcome
  have after : outcome.2 = applied.foldl Intent.apply settings :=
    settings.applyAll_settings arguments
  refine ⟨intends_iff, ?_, ?_, ?_, settings.applyAll_take arguments,
    settings.applyAll_result arguments, fun others => settings.applyAll_eq_of_options⟩
  · rw [after, dialect_foldl]
  · rw [after, verbose_foldl]
  · rw [after, color_foldl]

/-- A bad argument behind options of which two are for the same setting, and two lists that differ in
the order of options for different settings. -/
theorem applyAll_closed_mixed :
    (Settings.standard.applyAll ["--extended", "a", "--color=never", "--dialect=MINI", "--fast", "-v"] =
      (.error (.unknownOption "--fast"), ⟨.mini, false, .never⟩)) ∧
    (∀ argument ∈ ["-v", "a", "--mini"] ++ ["--mini", "-v", "a"],
      (intent argument).isBad = false) ∧
    (∀ setting, optionsFor setting ["--mini", "-v", "a"] = optionsFor setting ["-v", "a", "--mini"]) ∧
    (Settings.standard.applyAll ["--mini", "-v", "a"]).2 =
      (Settings.standard.applyAll ["-v", "a", "--mini"]).2 := by
  have good : ∀ argument ∈ ["-v", "a", "--mini"] ++ ["--mini", "-v", "a"],
      (intent argument).isBad = false := by
    decide +kernel
  have same (setting : Setting) :
      optionsFor setting ["--mini", "-v", "a"] = optionsFor setting ["-v", "a", "--mini"] := by
    cases setting <;> decide +kernel
  refine ⟨by decide +kernel, good, same, ?_⟩
  obtain ⟨-, -, -, -, -, -, mixed⟩ := applyAll_closed .standard ["-v", "a", "--mini"]
  exact mixed _ good same

end MiniJ
