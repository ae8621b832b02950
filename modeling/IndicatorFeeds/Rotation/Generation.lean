namespace IndicatorFeeds.Rotation

def firstSuffix : String := "-1"

def secondSuffix : String := "-2"

/-- What the names of both generations start with. -/
def baseName (namePrefix job feedId : String) : String :=
  if job = feedId then namePrefix ++ job else namePrefix ++ job ++ "-" ++ feedId

/-- The names of both generations. -/
def generationNames (base : String) : List String :=
  [base ++ firstSuffix, base ++ secondSuffix]

/-- The name of the next generation. An index of another name is followed by the first one. -/
def nextName (base : String) (current : Option String) : String :=
  if current = some (base ++ firstSuffix) then base ++ secondSuffix else base ++ firstSuffix

theorem nextName_mem (base : String) (current : Option String) :
    nextName base current ∈ generationNames base := by
  unfold nextName generationNames
  split <;> simp

end IndicatorFeeds.Rotation
