import MarkupTidy.Service.Fields
import MarkupTidy.Service.Route
import MarkupTidy.Json.Encoding
import MarkupTidy.Json.Read
import MarkupTidy.Job.Run
import MarkupTidy.Cli.Run

/-!
# Service/App — the HTTP service

The service answers four routes: `GET /health`, and `POST /prettify`, `/minify` and `/validate`,
each of which takes a JSON object with the text as `html`. Layout and compaction take their
defaults from the settings file of the working directory, read again for every request, and the
request's own fields replace them.

A request is answered in steps, the first that fails giving the answer:

1. a target that reaches no endpoint is not found (404), and an endpoint asked with another
   method is not allowed (405) (`Service.Route`);
2. a body whose bytes do not decode, whose numbers are too long, or whose arrays nest too deep,
   is a bad request (400); a body that is not JSON is refused (422) with the position where
   reading gave up;
3. settings that are not as they must be, or nest too deep, are a bad request (400) with their
   words;
4. a body that is no object, or whose fields do not check, is refused (422) with every problem;
5. otherwise the answer is the result (200).

Anything else that stops an answer is a server error (500), and so is an answer that JSON cannot
carry: one holding a lone surrogate or a number that is not finite, also in the value a problem
was found in, which a refusal reports beside it.
-/

namespace MarkupTidy.Service

open MarkupTidy.Host MarkupTidy.Json MarkupTidy.Text

/-- A request's body: none, a JSON value (its texts carrying lone surrogates by the given
stand-ins), or raw text sent as JSON. -/
inductive Body where
  | empty
  | json (v : Value) (si : StandIns)
  | raw (text : String)
  deriving Inhabited

/-- A request: its method, its target and its body. -/
structure Request where
  method : String
  target : String
  body : Body
  deriving Inhabited

/-- What an answer carries: JSON, or plain text. -/
inductive Payload where
  | json (v : Value)
  | text (s : String)
  deriving Inhabited

/-- An answer: its status and what it carries. -/
structure Response where
  status : Nat
  body : Payload
  deriving Inhabited

/-- A place a problem is at: a field's name or a character position. -/
inductive Place where
  | name (s : String)
  | pos (n : Nat)
  deriving DecidableEq, Repr

/-- A problem with a request: where it is, its kind, and the value it was found in. -/
structure Problem where
  loc : List Place
  kind : String
  input : Value
  deriving Repr

/-- The answer to what went wrong on the server. -/
def serverError : Response := ⟨500, .text "Internal Server Error"⟩

/-- A JSON answer, or a server error when JSON cannot carry it. -/
def jsonAnswer (si : StandIns) (status : Nat) (v : Value) : Response :=
  if v.carried si then ⟨status, .json v⟩ else serverError

/-- An answer with a message. -/
def detail (status : Nat) (message : String) : Response :=
  ⟨status, .json (.obj [("detail", .str message)])⟩

/-- How many arrays and objects a problem's value may nest: the writer of answers goes 962
deep, and a refusal holds its problems' values three deep. -/
def problemRoom : Nat := 959

/-- The answer refusing a request for its problems. The refusal reports the value each problem
was found in; writing it out stops at the first value nested too deep, which is a bad request,
or at the first number that is not finite, which is a server error, and a lone surrogate in it
is a server error too. -/
def refusal (si : StandIns) (ps : List Problem) : Response :=
  match (ps.findSome? fun p => p.input.writeFault problemRoom : Option WriteFault) with
  | some .tooDeep => detail 400 "maximum recursion depth exceeded while encoding a JSON object"
  | some .nonFinite => serverError
  | none =>
  if !ps.all fun p => p.input.carried si then serverError
  else
    ⟨422, .json (.obj [("detail", .arr (ps.map fun p =>
      .obj [("loc", .arr (p.loc.map fun
          | .name s => .str s
          | .pos n => .int n)),
        ("type", .str p.kind)]))])⟩

/-- The answer to a body that cannot be read as JSON at all. -/
def unreadableBody : Response := detail 400 "There was an error parsing the body"

/-- The value a body holds and the stand-ins its texts carry lone surrogates by: `none` when it
holds none, or the answer to a body that cannot be read. -/
def Body.value : Body → Except Response (Option (Value × StandIns))
  | .empty => .ok none
  | .json .null _ => .ok none
  | .json v si => .ok (some (v, si))
  | .raw text =>
    if text.isEmpty then .ok none
    else
      match codePointsSent text with
      | none => .error unreadableBody
      | some codes =>
        match readCodes codes with
        | .ok (.null, _) => .ok none
        | .ok (v, si) => .ok (some (v, si))
        | .error (.at n) =>
          .error (refusal default [⟨[.name "body", .pos n], "json_invalid", .obj []⟩])
        | .error .tooLong | .error .tooDeep => .error unreadableBody

/-- Checks a field, noting its problem with the value it was found in: the field's value, or the
whole body when the field is missing. -/
def checkField {α : Type} (body : Value) (name : String) (field : Option Value)
    (check : Option Value → Except String α) : List Problem × Option α :=
  match check field with
  | .ok a => ([], some a)
  | .error k => ([⟨[.name "body", .name name], k, if k = "missing" then body else field.getD .null⟩],
    none)

/-- The fields of a body, or the problem that there are none to read. -/
def fieldsOf (body : Option Value) : Except (List Problem) (Value × (String → Option Value)) :=
  match body with
  | none => .error [⟨[.name "body"], "missing", .null⟩]
  | some (.obj ms) => .ok (.obj ms, fun name => (ms.reverse.find? fun m => m.1 = name).map (·.2))
  | some v => .error [⟨[.name "body"], "model_attributes_type", v⟩]

/-- What a layout request asks for: the text, a width and a choice of tabs. -/
def layoutRequest (body : Option Value) : Except (List Problem) (String × Overrides) := do
  let (whole, field) ← fieldsOf body
  let (p1, html) := checkField whole "html" (field "html") textField
  let (p2, width) := checkField whole "indent_size" (field "indent_size") widthField
  let (p3, tabs) := checkField whole "use_tabs" (field "use_tabs") switchField
  match html, width, tabs with
  | some h, some w, some t => return (h, { indentSize := w, useTabs := t })
  | _, _, _ => throw (p1 ++ p2 ++ p3)

/-- What a compaction request asks for: the text and whether to drop comments. -/
def compactionRequest (body : Option Value) : Except (List Problem) (String × Overrides) := do
  let (whole, field) ← fieldsOf body
  let (p1, html) := checkField whole "html" (field "html") textField
  let (p2, drop) := checkField whole "remove_comments" (field "remove_comments") switchField
  match html, drop with
  | some h, some d => return (h, { dropsComments := d })
  | _, _ => throw (p1 ++ p2)

/-- What a check request asks for: the text. -/
def checkRequest (body : Option Value) : Except (List Problem) String := do
  let (whole, field) ← fieldsOf body
  match checkField whole "html" (field "html") textField with
  | (_, some h) => return h
  | (ps, none) => throw ps

/-- The answer to a failure while answering: settings that are not as they must be, and a
document nested too deep, are a bad request with their words; anything else is a server
error. -/
def failureResponse (f : Failure) : Response :=
  match f with
  | .settings (.refused .tooDeep m) => detail 400 m
  | _ => if f.isSettings then detail 400 f.message else serverError

variable {m : Type → Type} [Monad m] [Machine m]

/-- How many calls are in use when the service's framework hands a request to its handler. -/
def handlerDepth : Nat := 31

/-- The settings of the working directory, for a request: the handler resolves what it depends
on one call deeper, and that asks for the settings one call deeper again. -/
def requestSettings : ExceptT Failure m Settings := do
  let cwd ← Machine.workingDir (m := m)
  loadSettings (m := m) (handlerDepth + 3) ⟨true, cwd.names⟩

/-- Answers a request that reached an endpoint, or fails. -/
def answer (e : Endpoint) (req : Request) : ExceptT Failure m Response := do
  if e = .health then return ⟨200, .json (.obj [("status", .str "ok")])⟩
  match req.body.value with
  | .error r => return r
  | .ok given =>
    let body := given.map (·.1)
    let si := (given.map (·.2)).getD default
    if e = .check then
      match checkRequest body with
      | .error ps => return refusal si ps
      | .ok html =>
        let r ← checkText (m := m) none html
        return jsonAnswer si 200 (Cli.reportJson r)
    else
      let defaults ← requestSettings
      if e = .layout then
        match layoutRequest body with
        | .error ps => return refusal si ps
        | .ok (html, o) =>
          let s ← liftSettings (defaults.override o)
          let out ← layoutText none s html
          return jsonAnswer si 200 (.obj [("output", .str out)])
      else
        match compactionRequest body with
        | .error ps => return refusal si ps
        | .ok (html, o) =>
          let s ← liftSettings (defaults.override o)
          let out ← compactText (m := m) none s.dropsComments html
          return jsonAnswer si 200 (.obj [("output", .str out)])

/-- Answers a request. The answer to a `HEAD` request has no body. -/
def respond (req : Request) : m Response := do
  let r ← match destination req.method (targetPath req.target) with
    | .notFound => pure (detail 404 "Not Found")
    | .wrongMethod => pure (detail 405 "Method Not Allowed")
    | .reached e =>
      match ← (answer e req).run with
      | .ok r => pure r
      | .error f => pure (failureResponse f)
  return if req.method = "HEAD" then { r with body := .text "" } else r

end MarkupTidy.Service
