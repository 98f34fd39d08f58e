import MacroScribe.Document.Basic
import MacroScribe.Export
import MacroScribe.Keystroke.Basic
import MacroScribe.Service.Framework
/-!
# MacroScribe.Service.Basic

The service that answers requests over the network. It writes the actions of documents, shows the
normal forms of keystrokes, lists tokens, runs documents and hands out the macro files that it
saved.

A request that is answered may still report a failure in its body. A failure that nobody expects
makes the whole answer one of the server, and so does a response that cannot be written as bytes.

Reading requests is not the business of the service: it is given what it is asked to do
(`answerWith`).
-/

namespace MacroScribe.Service

/-- A request. -/
structure Request where
  method : String
  /-- The path, with or without a query. -/
  target : String
  /-- A query that is given apart from the path. -/
  query : Fields String
  body : Option Data

/-- The body of a response. -/
inductive Body where
  | data (v : Data)
  | text (s : String)
  /-- The contents of a file. -/
  | file (bytes : List UInt8)
  /-- The reasons why the body of a request is not acceptable. -/
  | reasons

/-- The body can be written as bytes: there are no halves of characters in its texts. -/
def Body.isWritable (standIns : Text.StandIns) : Body → Bool
  | .data v => v.texts.all fun s => standIns.isWhole s.toList
  | _ => true

/-- A response. -/
structure Response where
  status : Nat
  body : Body

namespace Response

/-- A response with data. -/
def ofFields (status : Nat) (fields : Fields Data) : Response :=
  ⟨status, .data (.obj fields)⟩

/-- A response that explains itself by a phrase. -/
def detail (status : Nat) (phrase : String) : Response :=
  ofFields status [("detail", .str phrase)]

/-- Nothing is there. -/
def notFound : Response := detail 404 "Not Found"

/-- The route answers requests of another method. -/
def wrongMethod : Response := detail 405 "Method Not Allowed"

/-- The body of the request is not acceptable. -/
def unacceptable : Response := ⟨422, .reasons⟩

/-- Something failed that should not. -/
def broken : Response := ⟨500, .text "Internal Server Error"⟩

/-- A failure that the request caused. -/
def failed (status : Nat) (f : Fault) : Response :=
  ofFields status [("success", .bool false), ("errors", .list [.str f.message])]

end Response

/-- Goes on with the result of a step. For a failure of some kinds there is a response. -/
def answering {α : Type} (kinds : Kind → Bool) (failed : Fault → Response) (work : Work α)
    (next : α → Work Response) : Work Response := do
  match ← Work.attempt work with
  | .ok x => next x
  | .error f => if kinds f.kind then return failed f else throw f

/-- The macro that a request describes. -/
structure MacroForm where
  name : String
  nodes : List Data

/-- The macro that the fields of a body describe. -/
def MacroForm.ofFields? (fields : Fields Data) : Option MacroForm := do
  return { name := ← Form.field? fields "name" Form.text? MacroDocument.standardName
           nodes := ← Form.field? fields "actions" Form.mappings? [] }

/-- The document that a request describes. -/
def MacroForm.document (form : MacroForm) : Outcome MacroDocument :=
  MacroDocument.ofData "request" (.obj [("name", .str form.name), ("actions", .list form.nodes)])

/-! ### Writing actions -/

/-- A request to write actions. -/
structure RenderForm where
  content : MacroForm
  envelope : Bool
  start : Option Int
  saveAs : Option String

/-- The request in the fields of a body. -/
def RenderForm.ofFields? (fields : Fields Data) : Option RenderForm := do
  return { content := ← MacroForm.ofFields? fields
           envelope := ← Form.field? fields "wrap" Form.flag? false
           start := ← Form.field? fields "uid_seed" (Form.nullable? Form.integer?) none
           saveAs := ← Form.field? fields "save_as" (Form.nullable? Form.text?) none }

/-- The path under which a result is saved, in the directory for macro files. -/
def RenderForm.path? (directory : String) (form : RenderForm) : Option String :=
  (form.saveAs.filter (· != "")).map fun name => directory ++ "/" ++ Path.base name

/-- Writes actions, and saves them if that is asked for. -/
def render (directory : String) (form : RenderForm) : Work Response :=
  answering Kind.isValue (.failed 422) (Work.ofOutcome form.content.document) fun doc =>
    let path := form.path? directory
    let request : Export.Request :=
      ⟨doc.actions, form.envelope, ⟨false, path.map Slot.text, none⟩, .text doc.name, form.start⟩
    let unsaved (f : Fault) : Response := .failed 422 (.unsaved f)
    answering Kind.isSystem unsaved (Export.generate .standard request) fun xml =>
      return .ofFields 200
        ([("success", .bool true), ("name", .str doc.name),
          ("action_count", .int doc.actions.length), ("xml", .str xml)] ++
          (path.map fun p => ("download_filename", .str (Path.base (Export.fileName p)))).toList)

/-! ### Running actions -/

/-- A request to run actions. -/
structure RunForm where
  content : MacroForm
  returned : Option String
  captures : Bool

/-- The request in the fields of a body. -/
def RunForm.ofFields? (fields : Fields Data) : Option RunForm := do
  return { content := ← MacroForm.ofFields? fields
           returned := ← Form.field? fields "return_text" (Form.nullable? Form.text?) none
           captures := ← Form.field? fields "capture_return_value" Form.flag? false }

/-- How running actions went. -/
def reportFields (r : RunReport) : Fields Data :=
  [("success", .bool r.success), ("output", .str r.output),
   ("errors", .list (r.errors.map .str))]

/-- The report of a run that did not take place. -/
def noRun (f : Fault) : Response :=
  .ofFields 200 (reportFields ⟨false, "", [f.message]⟩)

/-- Runs actions. -/
def run (form : RunForm) : Work Response :=
  answering Kind.isValue noRun (Work.ofOutcome form.content.document) fun doc =>
    answering (fun kind => kind == .engine || kind == .missingFile || kind.isValue) noRun
      (Engine.run Config.shipped.engine
        ⟨doc.actions, doc.name, form.returned.map Slot.text, form.captures, none⟩)
      fun report => return .ofFields 200 (reportFields report)

/-! ### The other routes -/

/-- The specification in the fields of a body: a text or an integer. -/
def specOfFields? (fields : Fields Data) : Option KeystrokeSpec := do
  match ← fields.get? "spec" with
  | .str s => return .shortcut s
  | v => .code <$> Form.integer? v

/-- Shows the normal form of a keystroke. -/
def keystroke (spec : KeystrokeSpec) : Work Response :=
  answering (· == .keystroke) (.failed 422) (Work.ofOutcome (Keystroke.normalize spec)) fun k =>
    return .ofFields 200 (("success", .bool true) :: k.toFields)

/-- Lists token presets. -/
def tokens (start : Option String) : Response :=
  .ofFields 200 [("tokens",
    .obj ((Token.list (start.getD "")).map fun (name, token) => (name, .str token)))]

/-- Hands a saved file out. -/
def download (directory name : String) : Work Response := do
  let files := (← get).files
  let path := directory ++ "/" ++ name
  match files.find path with
  | .ok (.file bytes) => return ⟨200, .file bytes⟩
  | .ok .directory => throw (.file path .directory)
  | .error _ => return .ofFields 404 [("error", .str "File not found")]

/-! ### Requests -/

/-- What the service is asked to do. -/
inductive Task where
  | health
  | render (form : RenderForm)
  | keystroke (spec : KeystrokeSpec)
  | tokens (start : Option String)
  | run (form : RunForm)
  /-- To hand out the macro file with this name. -/
  | download (name : String)

/-- Does what the service is asked to do. Macro files are kept in `directory`. -/
def Task.answer (directory : String) : Task → Work Response
  | .health => return .ofFields 200 [("status", .str "ok"), ("service", .str "kmforge")]
  | .render form => Service.render directory form
  | .keystroke spec => Service.keystroke spec
  | .tokens start => return Service.tokens start
  | .run form => Service.run form
  | .download name => Service.download directory name

/-- Answers a request that is read like this: it asks the service for something, or whoever reads it
responds by himself. -/
def answerWith (read : Request → Except Response Task) (directory : String) (r : Request) :
    Work Response := do
  match read r with
  | .error response => return response
  | .ok task =>
    match ← Work.attempt (task.answer directory) with
    | .error _ => return .broken
    | .ok response =>
      return if response.body.isWritable (← get).standIns then response else .broken

/-- What the fields of a body describe. -/
def describedBy {α : Type} (read : Fields Data → Option α) : Option Data → Option α
  | some (.obj fields) => read fields
  | _ => none

/-- What a request on a route asks for, if its body is acceptable. -/
def Route.task? (query : Fields String) (body : Option Data) : Route → Option Task
  | .health => some .health
  | .render => .render <$> describedBy RenderForm.ofFields? body
  | .keystroke => .keystroke <$> describedBy specOfFields? body
  | .tokens => some (.tokens (query.get? "prefix"))
  | .run => .run <$> describedBy RunForm.ofFields? body
  | .download name => some (.download name)

/-- The method of a request, in upper case. -/
def Request.verb (r : Request) : String :=
  String.ofList (r.method.toList.map Char.toUpper)

/-- What a request asks for, or the response that refuses it. -/
def Request.task (r : Request) : Except Response Task :=
  let target := Target.ofText r.target
  match Route.ofPath? target.path with
  | none => .error .notFound
  | some route =>
    if r.verb ≠ route.method then .error .wrongMethod
    else
      match route.task? (r.query ++ target.query) r.body with
      | some task => .ok task
      | none => .error .unacceptable

/-- Reads a request. A request for the head of a response gets no body with it. -/
def readRequest (r : Request) : Except Response Task :=
  if r.verb = "HEAD" then r.task.mapError fun response => { response with body := .text "" }
  else r.task

/-- Answers a request. -/
def answer (directory : String) (r : Request) : Work Response :=
  answerWith readRequest directory r

end MacroScribe.Service
