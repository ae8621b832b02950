namespace IndicatorFeeds.Number

private def natOf (digits : List Char) : Nat :=
  digits.foldl (fun n c => n * 10 + (c.toNat - 0x30)) 0

/-- The number that decimal digits stand for, perhaps after a plus sign. -/
def word? (text : String) : Option UInt64 :=
  let digits := match text.toList with
    | '+' :: rest => rest
    | cs => cs
  if digits.isEmpty || !digits.all Char.isDigit then none
  else if natOf digits < UInt64.size then some (.ofNat (natOf digits))
  else none

end IndicatorFeeds.Number
