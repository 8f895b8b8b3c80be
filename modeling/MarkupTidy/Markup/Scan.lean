import MarkupTidy.Markup.Tag

/-!
# Markup/Scan — reading tags out of a text

`lexeme?` reads the tag that a `<` starts:

* `<!--` starts a comment, which runs through the nearest `-->`, or to the end of the text;
* any other `<!` starts a declaration, which runs through the next `>` and needs one;
* otherwise `<`, an optional `/`, a name that starts with an ASCII letter and goes on with ASCII
  letters and digits, and everything through the next `>` make an element tag.

`scan` walks a text left to right and reads an element tag at each `<` that is not followed by
`!`; after a tag it goes on where the tag stops, and a `<` that starts no tag is stepped over. A
comment is stepped over one character at a time, so tags written inside it are still found.
-/

namespace MarkupTidy.Markup

/-! ## Pieces of a tag -/

/-- The text through the first `>`, when there is one. -/
def throughGt : List Char → Option (List Char)
  | [] => none
  | c :: rest => if c = '>' then some ['>'] else (throughGt rest).map (c :: ·)

/-- The text through the first `-->`, or the whole text when no `-->` closes it. -/
def throughCommentEnd : List Char → List Char
  | [] => []
  | '-' :: '-' :: '>' :: _ => ['-', '-', '>']
  | c :: rest => c :: throughCommentEnd rest

/-- The name of an element tag and the rest of its text through the next `>`, read from the
text after its `<` and optional `/`. -/
def elementBody? (body : List Char) : Option (List Char × List Char) :=
  match body with
  | c :: _ =>
    if isNameStart c then
      (throughGt (body.dropWhile isNameChar)).map fun tail => (body.takeWhile isNameChar, tail)
    else none
  | [] => none

/-- An element tag from its opening (`<` or `</`) and the text after it: kind, lower-case name
and exact text. -/
def elementLexeme? (lead body : List Char) : Option (Kind × String × List Char) :=
  (elementBody? body).map fun (name, tail) =>
    let raw := lead ++ name ++ tail
    let lower := String.ofList (name.map Char.toLower)
    (classify raw lower, lower, raw)

/-- The tag at the head of a text, as kind, name and exact text; `none` when the head starts no
tag. -/
def lexeme? : List Char → Option (Kind × String × List Char)
  | '<' :: '!' :: '-' :: '-' :: body =>
    some (.comment, "", ['<', '!', '-', '-'] ++ throughCommentEnd body)
  | '<' :: '!' :: body => (throughGt body).map fun d => (.declaration, "", '<' :: '!' :: d)
  | '<' :: '/' :: body => elementLexeme? ['<', '/'] body
  | '<' :: body => elementLexeme? ['<'] body
  | _ => none

/-! ## Reading and scanning -/

/-- The tag at the head of `s`, where `s` stands at position `pos` of the whole text. -/
def read? (s : List Char) (pos : Nat) : Option Tag :=
  (lexeme? s).map fun (k, name, raw) => ⟨name, k, String.ofList raw, pos, pos + raw.length⟩

/-- The element tags of `s`, where `s` stands at position `pos` of the whole text. -/
def scanFrom (s : List Char) (pos : Nat) : List Tag :=
  match s with
  | [] => []
  | '<' :: '!' :: rest => scanFrom ('!' :: rest) (pos + 1)
  | '<' :: rest =>
    match lexeme? ('<' :: rest) with
    | some (k, name, raw) =>
      ⟨name, k, String.ofList raw, pos, pos + raw.length⟩ ::
        scanFrom (rest.drop (raw.length - 1)) (pos + raw.length)
    | none => scanFrom rest (pos + 1)
  | _ :: rest => scanFrom rest (pos + 1)
termination_by s.length
decreasing_by
  all_goals simp only [List.length_cons, List.length_drop]
  all_goals omega

/-- The element tags of a text, left to right. -/
def scan (text : String) : List Tag := scanFrom text.toList 0

end MarkupTidy.Markup
