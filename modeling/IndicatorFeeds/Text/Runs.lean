namespace IndicatorFeeds.Text

def inRuns (runs : List (Nat × Nat)) (n : Nat) : Bool :=
  runs.any fun (first, last) => first ≤ n && n ≤ last

end IndicatorFeeds.Text
