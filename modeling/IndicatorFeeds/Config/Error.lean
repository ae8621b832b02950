import IndicatorFeeds.Duration
import IndicatorFeeds.Environment.Line
import IndicatorFeeds.Error
import IndicatorFeeds.Url.Basic

namespace IndicatorFeeds.Config

inductive LoadError where
  /-- There is nothing at the path that was given for the file. -/
  | missingFile (path : String)
  | unreadableFile (path reason : String)
  /-- The file is no TOML document, or its values are of other kinds than the settings. -/
  | malformedFile (path : String)
  | invalidDuration (key value : String) (cause : Duration.Refusal)
  | invalidNumber (key value : String)
  | missingStoreUrl
  | invalidStoreUrl (url : String) (cause : Url.Refusal)
  | unknownStoreBackend (name : String)
  /-- The settings do not fit together. -/
  | engine (cause : Error)
  /-- A line in the file of variables is no assignment. -/
  | envFile (cause : Environment.Refusal)
deriving Repr, DecidableEq

namespace LoadError

def message : LoadError → String
  | missingFile path => s!"configuration file missing: {path}"
  | unreadableFile path _ => s!"failed to read configuration {path}"
  | malformedFile path => s!"failed to parse configuration {path}"
  | invalidDuration key value _ => s!"invalid duration for {key}: '{value}'"
  | invalidNumber key value => s!"invalid number for {key}: '{value}'"
  | missingStoreUrl => "opensearch store selected but no URL configured"
  | invalidStoreUrl url _ => s!"invalid store URL '{url}'"
  | unknownStoreBackend name =>
    s!"unknown store backend '{name}' (expected opensearch or memory)"
  | engine _ => "invalid engine configuration"
  | envFile cause => cause.message

/-- The text of what lies behind an error, if it is told apart from the error itself. -/
def source? : LoadError → Option String
  | unreadableFile _ reason => some reason
  | malformedFile _ => some "TOML parse error"
  | invalidDuration _ _ cause => some cause.message
  | invalidStoreUrl _ cause => some cause.message
  | engine cause => some cause.message
  | missingFile _ | invalidNumber _ _ | missingStoreUrl | unknownStoreBackend _ | envFile _ => none

def chain (e : LoadError) : List String := e.message :: e.source?.toList

end LoadError

end IndicatorFeeds.Config
