import IndicatorFeeds.Config.Load
import IndicatorFeeds.Runner.Admin
import IndicatorFeeds.Store.Remote

namespace IndicatorFeeds

structure Application where
  runner : Runner
  store : Config.StoreBackend
  /-- Where the manifest of feeds is. -/
  manifest : String

namespace Application

/-- What an error while an application is put together is introduced with. -/
def buildFailure : String := "failed to construct job runner"

def build (config : Config.Loaded) : Except Failure Application := do
  return ⟨← Runner.create config.engine 0, config.store, config.manifest⟩

/-- Looks feeds up in the manifest, which is read anew every time. -/
def withManifest (path : String) : Program α → Program α :=
  Program.refine fun
    | .feedFor job => do return Feed.manifestFeed path (← Program.file path) job
    | other => Program.request other

/-- Sends calls on the store to where the configuration has it. -/
def withStore : Config.StoreBackend → Program α → Program α
  | .memory, p => p
  | .openSearch url _, p => (Store.Remote.ofUrl url).serve p

/-- A program of the runner, on the application's store and catalog. -/
def perform (app : Application) (p : Runner → Program α) : Program α :=
  withStore app.store (withManifest app.manifest (p app.runner))

end Application

end IndicatorFeeds
