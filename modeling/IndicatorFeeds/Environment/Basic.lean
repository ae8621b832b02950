namespace IndicatorFeeds

/-- Variables by name. -/
structure Environment where
  /-- The value of a variable. -/
  get? : String → Option String

namespace Environment

def empty : Environment := ⟨fun _ => none⟩

/-- The environment with these variables; of two values for a name the first counts. -/
def ofList (entries : List (String × String)) : Environment :=
  ⟨fun name => entries.lookup name⟩

/-- The environment with one more variable, if it is not set already. -/
def add (env : Environment) (name value : String) : Environment :=
  ⟨fun key => (env.get? key).orElse fun _ => if key = name then some value else none⟩

end Environment

end IndicatorFeeds
