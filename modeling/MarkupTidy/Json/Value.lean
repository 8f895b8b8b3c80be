import MarkupTidy.Text.Surrogate

/-!
# Json/Value — JSON documents

A JSON value is null, a boolean, a number, a text, an array or an object. Numbers written
without a fraction or an exponent are integers and are kept exactly; other numbers are kept as
the decimal they were written as, `mantissa × 10 ^ exponent`; `NaN` and the infinities are
numbers that are not finite. An object keeps its members in
the order they were written, repeated names included.
-/

namespace MarkupTidy.Json

open MarkupTidy.Text

/-- A JSON value. -/
inductive Value where
  | null
  | bool (b : Bool)
  | int (n : Int)
  | decimal (mantissa : Int) (exponent : Int)
  /-- A number that is not finite: not a number, or an infinity. -/
  | nonFinite
  | str (s : String)
  | arr (items : List Value)
  | obj (members : List (String × Value))
  deriving Repr, Inhabited

/-- The characters of every text in a value, member names included. -/
def Value.chars : Value → List Char
  | .str s => s.toList
  | .arr items => items.attach.flatMap fun ⟨v, _⟩ => v.chars
  | .obj members => members.attach.flatMap fun ⟨(name, v), _⟩ => name.toList ++ v.chars
  | _ => []
termination_by v => sizeOf v
decreasing_by
  · have := List.sizeOf_lt_of_mem ‹_ ∈ items›
    simp only [Value.arr.sizeOf_spec]
    omega
  · have := List.sizeOf_lt_of_mem ‹_ ∈ members›
    simp only [Value.obj.sizeOf_spec, Prod.mk.sizeOf_spec] at *
    omega

/-- The value an object gives a name: the last one written, as a dictionary keeps it. -/
def Value.member? (v : Value) (name : String) : Option Value :=
  match v with
  | .obj ms => (ms.reverse.find? fun m => m.1 = name).map (·.2)
  | _ => none

/-- Whether JSON can carry a value: it holds no lone surrogate (by the given stand-ins) and no
number that is not finite. -/
def Value.carried (si : StandIns) : Value → Bool
  | .nonFinite => false
  | .str s => !si.occursIn s
  | .arr items => items.attach.all fun ⟨v, _⟩ => Value.carried si v
  | .obj members => members.attach.all fun ⟨(name, v), _⟩ =>
    !si.occursIn name && Value.carried si v
  | _ => true
termination_by v => sizeOf v
decreasing_by
  · have := List.sizeOf_lt_of_mem ‹_ ∈ items›
    simp only [Value.arr.sizeOf_spec]
    omega
  · have := List.sizeOf_lt_of_mem ‹_ ∈ members›
    simp only [Value.obj.sizeOf_spec, Prod.mk.sizeOf_spec] at *
    omega

/-- What stops a value from being written out: a number that is not finite, or arrays and
objects nested deeper than the writer goes. -/
inductive WriteFault where
  | nonFinite
  | tooDeep
  deriving DecidableEq, Repr

/-- The first thing that stops a value from being written out, in the order it is written, when
`room` more arrays and objects may open around its parts: the value itself is one of them if it
is an array or an object. -/
def Value.writeFault (room : Nat) : Value → Option WriteFault
  | .nonFinite => some .nonFinite
  | .arr items =>
    if room = 0 then some .tooDeep
    else items.attach.findSome? fun ⟨v, _⟩ => Value.writeFault (room - 1) v
  | .obj members =>
    if room = 0 then some .tooDeep
    else members.attach.findSome? fun ⟨(_, v), _⟩ => Value.writeFault (room - 1) v
  | _ => none
termination_by v => sizeOf v
decreasing_by
  · have := List.sizeOf_lt_of_mem ‹_ ∈ items›
    simp only [Value.arr.sizeOf_spec]
    omega
  · have := List.sizeOf_lt_of_mem ‹_ ∈ members›
    simp only [Value.obj.sizeOf_spec, Prod.mk.sizeOf_spec] at *
    omega

end MarkupTidy.Json
