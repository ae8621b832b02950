import IndicatorFeeds.Config.Settings
import IndicatorFeeds.Environment.File
import IndicatorFeeds.Program

namespace IndicatorFeeds.Config

/-- What a user may say about where the configuration is. -/
structure LoadOptions where
  configPath : Option String := none
  envFile : Option String := none
  /-- Stands in for the environment where settings are taken from it. -/
  environment : Option Environment := none

structure Loaded where
  engine : EngineConfig
  store : StoreBackend
  manifest : String
  configPath : Option String
  /-- Whether there was a file of variables. -/
  envFileLoaded : Bool
  warnings : List Warning

/-- Programs that may end with an error of loading. -/
abbrev Loading := ExceptT LoadError Program

/-- Settings that have been resolved, or their failure as one of the program. -/
def settled : Except Failure α → Loading α
  | .ok a => pure a
  | .error (.error e) => throw e
  | .error (.fault f) => ExceptT.lift (.fail (.fault f))

/-- Where the configuration file is looked for. -/
def defaultPaths : List String := ["threatintel.toml", "config/threatintel.toml"]

/-- The first of some paths where anything is, and what is there. -/
def firstFound : List String → Program (Option (String × FileContent))
  | [] => return none
  | path :: rest => do
    let content ← Program.file path
    if content.isMissing then firstFound rest else return some (path, content)

/-- Finds the configuration file. If a path for it is given, something must be there. -/
def findFile (given : Option String) : Loading (Option (String × FileContent)) := do
  match given with
  | none => firstFound defaultPaths
  | some path =>
    let content ← Program.file path
    if content.isMissing then throw (.missingFile path)
    return some (path, content)

/-- What the file at a path says. -/
def readFile (path : String) (content : FileContent) : Loading FileConfig := do
  match content.text? with
  | .error reason => throw (.unreadableFile path reason)
  | .ok text =>
    match FileConfig.parse? text with
    | none => throw (.malformedFile path)
    | some file => return file

private def storeWarnings : StoreBackend → List Warning
  | .memory => [.memoryStore]
  | .openSearch _ _ => []

def resolve (file : Option (String × FileConfig)) (o : Overrides) (envFileLoaded : Bool) :
    Loading Loaded := do
  let said := (file.map (·.2)).getD {}
  let engine ← settled (engineSettings said o)
  let store ← settled (storeSettings said.store o)
  let manifest := manifestSetting said o
  let content ← Program.file manifest
  return {
    engine, store, manifest, envFileLoaded
    configPath := file.map (·.1)
    warnings := (if file.isNone then [.noFile] else []) ++ storeWarnings store ++
      if content.isMissing then [.noManifest manifest] else [] }

def load (options : LoadOptions) (env : Environment) : Loading Loaded := do
  match env.addFile (← Program.file (options.envFile.getD ".env")) with
  | .error (.refused cause) => throw (.envFile cause)
  | .error (.fault f) => ExceptT.lift (.fail (.fault f))
  | .ok (env, envFileLoaded) =>
    let o := Overrides.ofEnvironment (options.environment.getD env)
    match ← findFile (options.configPath.orElse fun _ => o.configPath) with
    | none => resolve none o envFileLoaded
    | some (path, content) =>
      let file ← readFile path content
      resolve (some (path, file)) o envFileLoaded

end IndicatorFeeds.Config
