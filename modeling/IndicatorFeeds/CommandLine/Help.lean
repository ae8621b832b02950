namespace IndicatorFeeds.CommandLine

private def lines (texts : List String) : String := String.join (texts.map (· ++ "\n"))

/-- The shape of a call. -/
def usage : String := lines [
  "Usage: indicator-feeds [--config <PATH>] [--env-file <PATH>] <COMMAND>",
  "",
  "For more information, try '--help'."]

/-- The commands and options. -/
def help : String := lines [
  "Threat-intel feed jobs: lease-coordinated refresh and index rotation",
  "",
  "Usage: indicator-feeds [OPTIONS] <COMMAND>",
  "",
  "Commands:",
  "  create <NAME> [--interval-days <N>]  Register a job and run its first load",
  "  update <NAME> [--interval-days <N>] [--enable | --disable]",
  "                                       Change a job's interval or auto-refresh flag",
  "  delete <NAME>                        Remove a job together with its indices",
  "  refresh <NAME>                       Rotate a job now, regardless of its schedule",
  "  tick --name <NAME>                   Scheduler callback for one due job",
  "  help [COMMAND]                       Print this message",
  "",
  "Options:",
  "  --config <PATH>    Path to the TOML configuration file [env: THREATINTEL_CONFIG]",
  "  --env-file <PATH>  Path to a .env file (defaults to ./.env when present)",
  "  -h, --help         Print help"]

end IndicatorFeeds.CommandLine
