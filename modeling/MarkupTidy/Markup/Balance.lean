import MarkupTidy.Markup.Scan

/-!
# Markup/Balance — do the element tags nest?

The element tags of a text are checked with a stack of the open ones. An opening tag is pushed;
a closing tag pops the top and must name it; self-closing tags, comments and declarations leave
the stack alone. What is still open at the end is reported innermost first.

There is no recovery: a closing tag that names the wrong element still pops the top. Since the
scan reads tags inside comments too, those count as well.

Each fault becomes an `Issue` at the offset of its tag, with the line that offset lies on; the
`Report` lists them in the order they arise (`issues_eq_faults`).
-/

namespace MarkupTidy.Markup

/-! ## Faults and issues -/

/-- What can be wrong with the nesting at one tag. -/
inductive Fault where
  /-- A closing tag with nothing open. -/
  | unexpectedClosing
  /-- A closing tag whose name is not that of the innermost open element. -/
  | mismatched (expected : String)
  /-- An opening tag that is never closed. -/
  | unclosed
  deriving DecidableEq, Repr

/-- A fault at the tag of the given name that starts at `offset`. -/
structure Problem where
  fault : Fault
  tag : String
  offset : Nat
  deriving DecidableEq, Repr

/-- The faults of a list of tags, given the open elements (innermost first) with their offsets. -/
def faultsFrom : List (String × Nat) → List Tag → List Problem
  | stack, [] => stack.map fun (name, offset) => ⟨.unclosed, name, offset⟩
  | stack, t :: ts =>
    match t.kind with
    | .opening => faultsFrom ((t.name, t.start.toNat) :: stack) ts
    | .closing =>
      match stack with
      | [] => ⟨.unexpectedClosing, t.name, t.start.toNat⟩ :: faultsFrom [] ts
      | (top, _) :: rest =>
        if top = t.name then faultsFrom rest ts
        else ⟨.mismatched top, t.name, t.start.toNat⟩ :: faultsFrom rest ts
    | _ => faultsFrom stack ts

/-- The faults of a list of tags read from the start of a text. -/
def faults (tags : List Tag) : List Problem := faultsFrom [] tags

/-- The line a position lies on: one more than the line feeds before it. -/
def lineAt (text : List Char) (offset : Nat) : Nat :=
  (text.take offset).count '\n' + 1

/-- A fault as reported: where it is, and in words. -/
structure Issue where
  problem : Problem
  line : Nat
  deriving DecidableEq, Repr

namespace Issue

/-- The short code of an issue's fault. -/
def code (i : Issue) : String :=
  match i.problem.fault with
  | .unexpectedClosing => "unexpected_closing"
  | .mismatched _ => "mismatched_tag"
  | .unclosed => "unclosed_tag"

/-- The name that a mismatched closing tag should have had. -/
def expected (i : Issue) : Option String :=
  match i.problem.fault with
  | .mismatched e => some e
  | _ => none

/-- An issue in words. -/
def message (i : Issue) : String :=
  let name := i.problem.tag
  match i.problem.fault with
  | .unexpectedClosing =>
    "Unexpected closing tag </" ++ name ++ "> with no matching opening tag"
  | .mismatched e => "Mismatched tags: expected </" ++ e ++ "> but found </" ++ name ++ ">"
  | .unclosed => "Unclosed tag: <" ++ name ++ ">"

end Issue

/-! ## Reports -/

/-- The result of checking a text: its issues in order, and how many tags were read. -/
structure Report where
  issues : List Issue
  tagCount : Nat
  deriving DecidableEq, Repr

namespace Report

/-- Checks the nesting of the element tags of a text. -/
def check (text : String) : Report :=
  let tags := scan text
  let cs := text.toList
  ⟨(faults tags).map fun p => ⟨p, lineAt cs p.offset⟩, tags.length⟩

/-- A text is valid when its report has no issue. -/
def valid (r : Report) : Bool := r.issues.isEmpty

/-- The messages of a report's issues, in order. -/
def errors (r : Report) : List String := r.issues.map Issue.message

/-- A report's issues are the faults of the text's tags, in the same order. -/
theorem issues_eq_faults (text : String) :
    (check text).issues.map Issue.problem = faults (scan text) := by
  simp [check, Function.comp_def]

end Report

end MarkupTidy.Markup
