import MiniJ.Diagnostic.Rendering
import MiniJ.Dialect

/-!
# Settings

What a run can be told: the dialect, whether to show the diagnostics of files that surprise, and when
to use color. Options are applied one after the other and later ones override earlier ones.
Arguments that are no options are positional. The first bad option ends the work; the options before
it stay applied.
-/

set_option autoImplicit false

namespace MiniJ

/-- The settings of a run. -/
structure Settings where
  dialect : Dialect
  verbose : Bool
  color : ColorMode
  deriving DecidableEq

/-- Why an option cannot be applied. -/
inductive SettingsError where
  | unknownDialect (name : String)
  | unknownColor (mode : String)
  | unknownOption (argument : String)
  deriving DecidableEq

/-- The text of an error about options. -/
def SettingsError.message : SettingsError → String
  | unknownDialect name =>
    "unknown dialect '" ++ name ++ "' (expected 'mini' or 'extended')"
  | unknownColor mode =>
    "unknown color mode '" ++ mode ++ "' (expected 'auto', 'always' or 'never')"
  | unknownOption argument => "unknown option '" ++ argument ++ "'"

/-- What one argument is. -/
inductive Argument where
  | dialect (name : String)
  | verbose
  | color (mode : String)
  | unknown
  | positional
  deriving DecidableEq

namespace Argument

/-- What follows `start` in `text`, if `text` starts so. -/
def valueAfter? (start text : String) : Option String :=
  (start.toList.isPrefixOf? text.toList).map String.ofList

/-- What an argument is. The short forms `--mini` and `--extended` name a dialect; whatever else
starts with a dash is meant as an option. -/
def of (text : String) : Argument :=
  match valueAfter? "--dialect=" text with
  | some name => dialect name
  | none =>
    if text = "--extended" then dialect Dialect.extended.name
    else if text = "--mini" then dialect Dialect.mini.name
    else if text = "--verbose" || text = "-v" then verbose
    else
      match valueAfter? "--color=" text with
      | some mode => color mode
      | none => if text.toList.head? = some '-' then unknown else positional

end Argument

namespace Settings

/-- The settings before any option. -/
def standard : Settings :=
  ⟨.mini, false, .auto⟩

/-- The settings of a dialect given by name. -/
def withDialect (settings : Settings) (name : String) : Except SettingsError Settings :=
  match Dialect.ofName? name with
  | some dialect => .ok { settings with dialect }
  | none => .error (.unknownDialect name)

/-- The settings before any option, where the name of a dialect may be given from outside. -/
def withDefaultDialect : Option String → Except SettingsError Settings
  | none => .ok standard
  | some name => standard.withDialect name

/-- Apply one argument. The answer has no settings if the argument is positional. -/
def applyOption (settings : Settings) (argument : String) :
    Except SettingsError (Option Settings) :=
  match Argument.of argument with
  | .dialect name => (settings.withDialect name).map some
  | .verbose => .ok (some { settings with verbose := true })
  | .color mode =>
    match ColorMode.ofText? mode with
    | some color => .ok (some { settings with color })
    | none => .error (.unknownColor mode)
  | .unknown => .error (.unknownOption argument)
  | .positional => .ok none

/-- Apply every argument in order. The answer is the positional arguments, or the error that ended
the work, and the settings so far. -/
def applyAll (settings : Settings) : List String → Except SettingsError (List String) × Settings
  | [] => (.ok [], settings)
  | argument :: rest =>
    match settings.applyOption argument with
    | .error error => (.error error, settings)
    | .ok (some settings) => applyAll settings rest
    | .ok none =>
      match applyAll settings rest with
      | (.ok positional, settings) => (.ok (argument :: positional), settings)
      | (.error error, settings) => (.error error, settings)

end Settings

end MiniJ
