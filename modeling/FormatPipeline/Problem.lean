import FormatPipeline.Path.Basic
import FormatPipeline.Settings.Key

/-! What a user should be told about: rejected settings, missing formatters, failing processes. -/

namespace FormatPipeline

open Settings (OrderKind)

/-- The words for a list of formatters. -/
def Settings.OrderKind.title : OrderKind → String
  | .format => "Format order"
  | .save => "Format on save order"

/-- The words for a list of formatters inside a sentence. -/
def Settings.OrderKind.phrase : OrderKind → String
  | .format => "format order"
  | .save => "format on save order"

/-- Why a setting is rejected. -/
inductive ConfigurationError where
  | invalidLocalBinName (formatter entry : String)
  | invalidGlobalBinPath (formatter : String) (path : Path)
  | invalidConfigName (formatter entry : String)
  | invalidConfigPath (formatter : String) (path : Path)
  | unknownFormatterInOrder (order : OrderKind) (name : String)
  | orderNotDefined (order : OrderKind)
  deriving DecidableEq, Repr

/-- Everything that is reported to the user. -/
inductive Problem where
  | configuration (error : ConfigurationError)
  | binaryNotFound (formatter : String)
  | unknownFormatter (formatter : String)
  /-- A process wrote to its standard error. -/
  | stderr (commandLine text : String)
  | spawnFailed (commandLine message : String)
  deriving DecidableEq, Repr

namespace ConfigurationError

/-- What is wrong. -/
def message : ConfigurationError → String
  | invalidLocalBinName _ entry => "'" ++ entry ++ "' is not a valid file name."
  | invalidGlobalBinPath _ path => "'" ++ path.text ++ "' not found or not executable."
  | invalidConfigName _ entry => "'" ++ entry ++ "' is not a valid file name."
  | invalidConfigPath _ path => "'" ++ path.text ++ "' not found or not readable."
  | unknownFormatterInOrder _ name => "'" ++ name ++ "' is not a valid formatter name."
  | orderNotDefined order => order.title ++ " not defined"

/-- Which setting is rejected. -/
def title : ConfigurationError → String
  | invalidLocalBinName formatter _ => "Invalid local binary path for " ++ formatter
  | invalidGlobalBinPath formatter _ => "Invalid global binary path for " ++ formatter
  | invalidConfigName formatter _ => "Invalid local configs for " ++ formatter
  | invalidConfigPath formatter _ => "Invalid global config path for " ++ formatter
  | unknownFormatterInOrder order _ => "Invalid " ++ order.phrase
  | orderNotDefined order => order.title ++ " not defined"

/-- The explanation below the title; a missing order needs none. -/
def detail : ConfigurationError → Option String
  | orderNotDefined _ => none
  | error => some error.message

end ConfigurationError

namespace Problem

/-- The problem in one text. -/
def message : Problem → String
  | configuration error => error.message
  | binaryNotFound formatter => "Could not find binary for " ++ formatter
  | unknownFormatter formatter => "Unknown formatter " ++ formatter
  | stderr _ text => text
  | spawnFailed _ message => message

/-- The headline of a notification. -/
def title : Problem → String
  | configuration error => error.title
  | stderr commandLine _ => commandLine
  | spawnFailed commandLine _ => "Failed to run " ++ commandLine
  | problem => problem.message

/-- The explanation below the headline. -/
def detail : Problem → Option String
  | configuration error => error.detail
  | stderr _ text => some text
  | spawnFailed _ message => some message
  | _ => none

end Problem

end FormatPipeline
