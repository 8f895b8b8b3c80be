import Mathlib.Logic.Relation
import MarkupTidy.Markup.Balance

/-!
# Proofs/Nesting — a text checks clean exactly when its element tags nest

Forget everything about a text but its opening and closing tags, each with its name: what is
left is a *bracket word*. It is **well nested** when deleting, again and again, an opening bracket
directly followed by a closing bracket of the same name brings it down to nothing (`WellNested`).

The check of `Markup.Balance` is a single pass with a stack, and a closing tag that names the
wrong element still pops the stack; so a stack state alone does not say which words are left to
accept. The bridge is `nests`, the stack pass with its three faults turned into a plain `false`:

* `faultsFrom_eq_nil_iff` — the check finds no fault exactly when `nests` accepts;
* `nests_cancel` — one cancellation leaves the answer of `nests` unchanged, from any stack;
* `opened_append_wellNested` — an accepting run of `nests` is a cancellation of the word, read
  after the brackets still open;
* `valid_iff_wellNested` — a report is valid exactly when the text's bracket word is well nested.
-/

namespace MarkupTidy.Markup

/-! ## Bracket words -/

/-- An opening or a closing element tag, by name. -/
inductive Bracket where
  | opening (name : String)
  | closing (name : String)
  deriving DecidableEq, Repr

/-- The bracket a tag stands for; self-closing tags, comments and declarations stand for none. -/
def Tag.bracket? (t : Tag) : Option Bracket :=
  match t.kind with
  | .opening => some (.opening t.name)
  | .closing => some (.closing t.name)
  | _ => none

/-- The bracket word of a list of tags, in order. -/
def brackets (tags : List Tag) : List Bracket := tags.filterMap Tag.bracket?

/-- One cancellation: an opening bracket directly followed by the closing bracket of the same name
is deleted. -/
inductive Cancels : List Bracket → List Bracket → Prop
  | pair (pre post : List Bracket) (x : String) :
      Cancels (pre ++ .opening x :: .closing x :: post) (pre ++ post)

/-- A bracket word is well nested when cancellations bring it down to nothing. -/
def WellNested (w : List Bracket) : Prop := Relation.ReflTransGen Cancels w []

/-! ## The stack pass -/

/-- Whether a bracket word, read with the names in `stack` still open (innermost first), closes
every element by the name it was opened with and leaves nothing open. -/
def nests : List String → List Bracket → Bool
  | stack, [] => stack.isEmpty
  | stack, .opening x :: w => nests (x :: stack) w
  | [], .closing _ :: _ => false
  | top :: stack, .closing x :: w => top == x && nests stack w

@[simp] theorem nests_nil (stack : List String) : nests stack [] = stack.isEmpty := by
  cases stack <;> rfl

@[simp] theorem nests_opening (stack : List String) (x : String) (w : List Bracket) :
    nests stack (.opening x :: w) = nests (x :: stack) w := by
  cases stack <;> rfl

@[simp] theorem nests_closing_nil (x : String) (w : List Bracket) :
    nests [] (.closing x :: w) = false := rfl

@[simp] theorem nests_closing_cons (top : String) (stack : List String) (x : String)
    (w : List Bracket) : nests (top :: stack) (.closing x :: w) = (top == x && nests stack w) :=
  rfl

/-- The opening brackets of the names still open, outermost first. -/
def opened (stack : List String) : List Bracket := (stack.map Bracket.opening).reverse

@[simp] theorem opened_nil : opened [] = [] := rfl

theorem opened_cons (x : String) (stack : List String) :
    opened (x :: stack) = opened stack ++ [.opening x] := by
  simp [opened]

/-! ## The check finds no fault exactly when the stack pass accepts -/

/-- The brackets of a list of tags that starts with an opening tag. -/
theorem brackets_cons_of_opening {t : Tag} (ts : List Tag) (h : t.kind = .opening) :
    brackets (t :: ts) = .opening t.name :: brackets ts := by
  simp [brackets, Tag.bracket?, h]

theorem brackets_cons_of_closing {t : Tag} (ts : List Tag) (h : t.kind = .closing) :
    brackets (t :: ts) = .closing t.name :: brackets ts := by
  simp [brackets, Tag.bracket?, h]

/-- A tag that is neither opening nor closing adds no bracket. -/
theorem brackets_cons_of_other {t : Tag} (ts : List Tag) (ho : t.kind ≠ .opening)
    (hc : t.kind ≠ .closing) : brackets (t :: ts) = brackets ts := by
  have hnone : t.bracket? = none := by
    unfold Tag.bracket?
    split <;> simp_all
  simp [brackets, hnone]

/-- **The fault-free runs of the check are the accepting runs of `nests`**, from any stack of open
elements with their offsets. -/
theorem faultsFrom_eq_nil_iff (stack : List (String × Nat)) (tags : List Tag) :
    faultsFrom stack tags = [] ↔ nests (stack.map Prod.fst) (brackets tags) = true := by
  induction tags generalizing stack with
  | nil => simp [faultsFrom, brackets]
  | cons t ts ih =>
    cases hk : t.kind with
    | opening =>
      rw [brackets_cons_of_opening ts hk, nests_opening]
      simpa [faultsFrom, hk] using ih ((t.name, t.start.toNat) :: stack)
    | closing =>
      rw [brackets_cons_of_closing ts hk]
      match stack with
      | [] => simp [faultsFrom, hk]
      | (top, _) :: rest =>
        by_cases htop : top = t.name
        · simpa [faultsFrom, hk, htop] using ih rest
        · simp [faultsFrom, hk, htop]
    | selfClosing | comment | declaration =>
      rw [brackets_cons_of_other ts (by simp [hk]) (by simp [hk])]
      simpa [faultsFrom, hk] using ih stack

/-! ## Cancellation does not change the answer -/

/-- **Deleting a matched pair anywhere leaves the answer of the stack pass unchanged**, whatever is
open before it: the pair pushes a name and pops it again, and every bracket before it sees the
same stack either way. -/
theorem nests_cancel (x : String) (post : List Bracket) :
    ∀ (pre : List Bracket) (stack : List String),
      nests stack (pre ++ .opening x :: .closing x :: post) = nests stack (pre ++ post)
  | [], stack => by simp
  | .opening y :: pre, stack => by
    simpa using nests_cancel x post pre (y :: stack)
  | .closing _ :: _, [] => rfl
  | .closing y :: pre, top :: stack => by
    simp only [List.cons_append, nests_closing_cons, nests_cancel x post pre stack]

theorem nests_eq_of_cancels {w w' : List Bracket} (h : Cancels w w') (stack : List String) :
    nests stack w = nests stack w' := by
  cases h with
  | pair pre post x => exact nests_cancel x post pre stack

/-- A well-nested word passes the stack check. -/
theorem nests_of_wellNested {w : List Bracket} (h : WellNested w) : nests [] w = true := by
  induction h using Relation.ReflTransGen.head_induction_on with
  | refl => rfl
  | head hstep _ ih => rw [nests_eq_of_cancels hstep, ih]

/-! ## An accepting run is a cancellation -/

/-- **An accepting run of the stack pass cancels the word down to nothing**, once the brackets
still open are put back in front of it. -/
theorem opened_append_wellNested :
    ∀ (stack : List String) (w : List Bracket), nests stack w = true →
      WellNested (opened stack ++ w)
  | [], [], _ => Relation.ReflTransGen.refl
  | _ :: _, [], h => by simp at h
  | stack, .opening x :: w, h => by
    have hw := opened_append_wellNested (x :: stack) w (by simpa using h)
    simpa [opened_cons] using hw
  | [], .closing _ :: _, h => by simp at h
  | top :: stack, .closing x :: w, h => by
    obtain ⟨rfl, hrest⟩ : top = x ∧ nests stack w = true := by simpa using h
    have hstep : Cancels (opened (top :: stack) ++ .closing top :: w) (opened stack ++ w) := by
      simpa [opened_cons] using Cancels.pair (opened stack) w top
    exact Relation.ReflTransGen.head hstep (opened_append_wellNested stack w hrest)

theorem nests_iff_wellNested (w : List Bracket) : nests [] w = true ↔ WellNested w :=
  ⟨fun h => by simpa using opened_append_wellNested [] w h, nests_of_wellNested⟩

/-! ## Valid reports -/

/-- A report is valid exactly when the check found no fault. -/
theorem Report.valid_check_iff (text : String) :
    (Report.check text).valid = true ↔ faults (scan text) = [] := by
  rw [← Report.issues_eq_faults, List.map_eq_nil_iff, Report.valid, List.isEmpty_iff]

/-- **A text checks clean exactly when the bracket word of its element tags is well nested**:
self-closing tags drop out, and what is left cancels down to nothing. -/
theorem valid_iff_wellNested (text : String) :
    (Report.check text).valid = true ↔ WellNested (brackets (scan text)) := by
  rw [Report.valid_check_iff, faults, faultsFrom_eq_nil_iff, List.map_nil, nests_iff_wellNested]

end MarkupTidy.Markup
