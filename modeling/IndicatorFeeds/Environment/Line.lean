import IndicatorFeeds.Text.Blank

namespace IndicatorFeeds.Environment

/-- Why a line cannot be read. -/
structure Refusal where
  line : String
  offset : Nat
deriving Repr, DecidableEq

def Refusal.message (r : Refusal) : String :=
  s!"Error parsing line: '{r.line}', error at line index: {r.offset}"

/-- Where in a line the characters read so far have led. -/
inductive Position where
  | bare
  | blank
  | escape
  | weak
  | weakEscape
  | strong
  | strongEscape
deriving Repr, DecidableEq

namespace Position

private def opened (c : Char) (otherwise : Position) : Position :=
  if c = '\\' then escape
  else if c = '"' then weak
  else if c = '\'' then strong
  else otherwise

/-- The position after one more character; a `#` after a blank does not come here. -/
def after (c : Char) : Position → Position
  | blank => opened c bare
  | bare => opened c (if Text.isBlank c && c ≠ '\n' && c ≠ '\r' then blank else bare)
  | escape => bare
  | weak => if c = '\\' then weakEscape else if c = '"' then bare else weak
  | weakEscape => weak
  | strong => if c = '\\' then strongEscape else if c = '\'' then bare else strong
  | strongEscape => strong

end Position

/-- How a part of a file ends, read from a position. -/
inductive Ending where
  | at (position : Position)
  /-- After these characters a comment starts. -/
  | comment (kept : List Char)

/-- Follows the characters of a part of a file. -/
def ending (done : List Char) (position : Position) : List Char → Ending
  | [] => .at position
  | c :: rest =>
    if position = .blank && c = '#' then .comment done.reverse
    else ending (c :: done) (position.after c) rest

/-- The characters without the line break they may end in. -/
def dropLineBreak (cs : List Char) : List Char :=
  match cs.reverse with
  | '\n' :: '\r' :: rest => rest.reverse
  | '\n' :: rest => rest.reverse
  | _ => cs

/-- The next line of a file. -/
inductive NextLine where
  | line (text : List Char) (rest : List (Option (List Char)))
  | none
  | unreadable
  | refused (why : Refusal)

/-- The next line, from the parts of a file between its line breaks. A part is missing if it is
not UTF-8. `held` is what an earlier part has left open. -/
def nextLine (held : List Char) (position : Position) : List (Option (List Char)) → NextLine
  | [] =>
    if position = .bare then .none
    else .refused ⟨String.ofList held, (String.ofList held).utf8ByteSize⟩
  | none :: _ => .unreadable
  | some part :: rest =>
    let text := held ++ part
    if (Text.trimStart text).head? = some '#' then .line [] rest
    else match ending [] position part with
      | .comment kept => .line (held ++ kept) rest
      | .at .bare => .line (dropLineBreak text) rest
      | .at position => nextLine text position rest

theorem length_rest_lt {held : List Char} {position : Position} {parts : List (Option (List Char))}
    {text : List Char} {rest : List (Option (List Char))}
    (h : nextLine held position parts = .line text rest) : rest.length < parts.length := by
  fun_induction nextLine held position parts with
  | case1 => simp at h
  | case2 => simp at h
  | case3 => simp at h
  | case4 => cases h; simp
  | case5 => cases h; simp
  | case6 => cases h; simp
  | case7 _ _ _ _ _ _ _ _ _ ih => have := ih h; simp only [List.length_cons]; omega

end IndicatorFeeds.Environment
