import IndicatorFeeds.Url.Host

namespace IndicatorFeeds.Toml

/-- Whether a string or a comment may hold the character as it is, inside one line. -/
def isPlain (c : Char) : Bool :=
  c = '\t' || (0x20 ≤ c.toNat && c.toNat ≠ 0x7f)

/-- The characters that leave a line as it is. -/
def isSpace (c : Char) : Bool := c = ' ' || c = '\t'

/-- The character with the code of these hexadecimal digits. -/
private def charOfHex (digits : List Char) : Option Char := do
  let n ← Url.numberIn 16 digits
  if n.isValidChar then return Char.ofNat n else none

/-- The character that an escape stands for, and the length of the escape after its backslash. -/
def escape? : List Char → Option (Char × Nat)
  | 'b' :: _ => some (Char.ofNat 0x08, 1)
  | 't' :: _ => some ('\t', 1)
  | 'n' :: _ => some ('\n', 1)
  | 'f' :: _ => some (Char.ofNat 0x0c, 1)
  | 'r' :: _ => some ('\r', 1)
  | 'e' :: _ => some (Char.ofNat 0x1b, 1)
  | '"' :: _ => some ('"', 1)
  | '\\' :: _ => some ('\\', 1)
  | 'x' :: rest => coded 2 rest
  | 'u' :: rest => coded 4 rest
  | 'U' :: rest => coded 8 rest
  | _ => none
where
  coded (width : Nat) (rest : List Char) : Option (Char × Nat) :=
    let digits := rest.take width
    if digits.length < width then none
    else (charOfHex digits).map fun c => (c, width + 1)

/-- The rest of a basic string in one line. -/
def basicRest (done : List Char) : List Char → Option (String × List Char)
  | [] => none
  | c :: rest =>
    if c = '"' then some (String.ofList done.reverse, rest)
    else if c = '\\' then
      match escape? rest with
      | some (e, n) => basicRest (e :: done) (rest.drop n)
      | none => none
    else if isPlain c then basicRest (c :: done) rest
    else none
termination_by cs => cs.length
decreasing_by all_goals simp only [List.length_drop, List.length_cons]; omega

/-- The rest of a literal string in one line. -/
def literalRest (cs : List Char) : Option (String × List Char) :=
  let text := cs.takeWhile fun c => c ≠ '\'' && isPlain c
  match cs.dropWhile fun c => c ≠ '\'' && isPlain c with
  | '\'' :: rest => some (String.ofList text, rest)
  | _ => none

/-- A string of several lines starts after the line break that may follow its opening quotes. -/
def skipFirstBreak : List Char → List Char
  | '\n' :: rest => rest
  | '\r' :: '\n' :: rest => rest
  | cs => cs

/-- How many quotes of a row close a string of several lines, and how many before them belong to
its text: a string may end in two quotes of its own. -/
def closing? (quotes : Nat) : Option (Nat × Nat) :=
  if quotes < 3 then none else some (3, min (quotes - 3) 2)

/-- The characters without the blanks and line breaks they start with. -/
def skipBlanks : List Char → List Char
  | '\r' :: '\n' :: rest => skipBlanks rest
  | c :: rest => if isSpace c || c = '\n' then skipBlanks rest else c :: rest
  | [] => []

theorem length_skipBlanks_le (cs : List Char) : (skipBlanks cs).length ≤ cs.length := by
  fun_induction skipBlanks cs with
  | case1 _ ih => simp only [List.length_cons]; omega
  | case2 _ _ _ _ ih => simp only [List.length_cons]; omega
  | case3 => exact Nat.le_refl _
  | case4 => exact Nat.le_refl _

/-- What a backslash at the end of a line leaves: the next character that is no blank. -/
def continued? (cs : List Char) : Option (List Char) :=
  match cs.dropWhile isSpace with
  | '\n' :: rest => some (skipBlanks rest)
  | '\r' :: '\n' :: rest => some (skipBlanks rest)
  | _ => none

private theorem length_continued? {cs rest : List Char} (h : continued? cs = some rest) :
    rest.length ≤ cs.length := by
  have spaces := (List.dropWhile_suffix (l := cs) isSpace).length_le
  unfold continued? at h
  split at h <;> cases h
  all_goals
    rename_i gap eq
    rw [eq] at spaces
    have shorter := length_skipBlanks_le gap
    simp only [List.length_cons] at spaces
    omega

/-- The rest of a basic string of several lines. -/
def basicLinesRest (done : List Char) : List Char → Option (String × List Char)
  | [] => none
  | c :: rest =>
    if c = '"' then
      match closing? (1 + (rest.takeWhile (· = '"')).length) with
      | some (close, own) =>
        some (String.ofList (List.replicate own '"' ++ done).reverse, rest.drop (close + own - 1))
      | none => basicLinesRest ('"' :: done) rest
    else if c = '\\' then
      match _h : continued? rest with
      | some rest => basicLinesRest done rest
      | none =>
        match escape? rest with
        | some (e, n) => basicLinesRest (e :: done) (rest.drop n)
        | none => none
    else if c = '\r' then
      match rest with
      | '\n' :: rest => basicLinesRest ('\n' :: '\r' :: done) rest
      | _ => none
    else if isPlain c || c = '\n' then basicLinesRest (c :: done) rest
    else none
termination_by cs => cs.length
decreasing_by
  all_goals first
    | (simp only [List.length_drop, List.length_cons]; omega)
    | (have shorter := length_continued? _h; simp only [List.length_cons]; omega)

/-- The rest of a literal string of several lines. -/
def literalLinesRest (done : List Char) : List Char → Option (String × List Char)
  | [] => none
  | c :: rest =>
    if c = '\'' then
      match closing? (1 + (rest.takeWhile (· = '\'')).length) with
      | some (close, own) =>
        some (String.ofList (List.replicate own '\'' ++ done).reverse, rest.drop (close + own - 1))
      | none => literalLinesRest ('\'' :: done) rest
    else if c = '\r' then
      match rest with
      | '\n' :: rest => literalLinesRest ('\n' :: '\r' :: done) rest
      | _ => none
    else if isPlain c || c = '\n' then literalLinesRest (c :: done) rest
    else none

def string? : List Char → Option (String × List Char)
  | '"' :: '"' :: '"' :: rest => basicLinesRest [] (skipFirstBreak rest)
  | '\'' :: '\'' :: '\'' :: rest => literalLinesRest [] (skipFirstBreak rest)
  | cs => line? cs
where
  /-- A string in one line, as keys may be too. -/
  line? : List Char → Option (String × List Char)
    | '"' :: rest => basicRest [] rest
    | '\'' :: rest => literalRest rest
    | _ => none

end IndicatorFeeds.Toml
