import Shorthand.Json.Encoding
import Shorthand.Session.Basic
import Shorthand.Version
import Shorthand.Web.Body
import Shorthand.Web.StandIns

set_option autoImplicit false
set_option relaxedAutoImplicit false

/-!
# The server

The server answers requests about the table and expands triggers in texts. Each expand request
brings a document of its own; the table is shared by all.

## Main definitions

* `Shorthand.Web.Request`, `Shorthand.Web.Response` — what comes and what goes.
* `Shorthand.Web.Route` — what can be asked.
* `Shorthand.Web.handle` — one request.
* `Shorthand.Web.serve` — requests one after the other.

## Design

A server that was given no application makes one from the settings file when a request first needs
it. A failure to do so ends the server.
-/

namespace Shorthand.Web

/-- A request as it comes in. Without a body it brings no bytes. -/
structure Request where
  method : Text
  path : Text
  body : List UInt8 := []

/-- A response. -/
structure Response where
  status : Nat
  body : Value

/-! ## Responses -/

/-- A response that only says what went wrong. -/
def Response.detail (status : Nat) (words : String) : Response :=
  ⟨status, .table [("detail".toList, .text words.toList)]⟩

/-- A response with the findings about a body, each by its name and place. -/
def Response.findings (fs : List Finding) : Response :=
  ⟨422,
    .array (fs.map fun f => .array ((f.issue.name :: "body".toList :: f.field.toList).map .text))⟩

/-- The response to a body that is no JSON text. -/
def Response.invalidBody : Response := ⟨422, .array [.array [.text Issue.jsonInvalid.name]]⟩

/-- The response to a body that cannot be read for another reason. -/
def Response.unreadableBody : Response := .detail 400 "There was an error parsing the body"

/-- A row of the table. -/
def snippetRow (trigger : Text) (e : Expansion) : Value :=
  .table [("lhs".toList, .text trigger), ("data".toList, .text e.text),
    ("cursor_end".toList, .int e.cursorBack), ("has_newline".toList, .bool e.hasBreak)]

/-- A malformed record. -/
def diagnosticRow (d : Diagnostic) : Value :=
  .table [("index".toList, .int d.index), ("record".toList, .text d.record),
    ("reason".toList, .text d.reason.message)]

/-- The table. -/
def tableEntries (t : Table) : Entries Value :=
  [("generation".toList, .int t.generation),
    ("snippets".toList, .array (t.snippets.map fun (trigger, e) => snippetRow trigger e)),
    ("diagnostics".toList, .array (t.diagnostics.map diagnosticRow))]

/-- What an expand request is answered. -/
def expandEntries (d : Document) (found : Option Snippet) : Entries Value :=
  [("text".toList, .text d.text), ("cursor".toList, .int d.cursor),
    ("triggered".toList, .bool found.isSome),
    ("lhs".toList, (found.map fun s => Value.text s.trigger).getD .null),
    ("snippet_type".toList, (found.map fun s => Value.text s.shape.name).getD .null)]

/-- What the server says about itself. -/
def statusEntries (t : Table) : Entries Value :=
  [("version".toList, .text version), ("status".toList, .text "running".toList),
    ("app_name".toList, .text displayName), ("snippets".toList, .int t.snippets.length),
    ("generation".toList, .int t.generation)]

/-! ## Routes -/

/-- What can be asked. -/
inductive Route where
  | status
  | snippets
  | reload
  | expand
  deriving DecidableEq, Repr

namespace Route

/-- The routes. -/
def all : List Route := [.status, .snippets, .reload, .expand]

/-- The path of a route. -/
def path : Route → Text
  | .status => "/api/status".toList
  | .snippets => "/api/snippets".toList
  | .reload => "/api/snippets/reload".toList
  | .expand => "/api/expand".toList

/-- The method of a route. -/
def method : Route → Text
  | .status | .snippets => "GET".toList
  | .reload | .expand => "POST".toList

/-- The paths of pages about the server. They are only looked at. -/
def pages : List Text :=
  ["/openapi.json", "/api/docs", "/api/docs/oauth2-redirect"].map String.toList

/-- Whether a path is that of a route. One line break may follow. -/
def isAt (path : Text) (asked : Text) : Bool := asked == path || asked == path ++ ['\n']

/-- A path without the slashes at its end: a request with them is sent on to the route. -/
def withoutLastSlashes (path : Text) : Text := (path.reverse.dropWhile (· == '/')).reverse

/-- The route of a method and a path, or the response when there is none. -/
def ofPath (method path : Text) : Except Response Route :=
  let asked := withoutLastSlashes path
  match all.filter fun route => isAt route.path asked with
  | [] =>
    if pages.any (isAt · asked) then
      if method = "GET".toList || method = "HEAD".toList then .error ⟨200, .null⟩
      else .error (.detail 405 "Method Not Allowed")
    else .error (.detail 404 "Not Found")
  | routes =>
    match routes.find? fun route => route.method == method with
    | some route => .ok route
    | none => .error (.detail 405 "Method Not Allowed")

end Route

/-! ## Expanding -/

/-- A trigger is expanded in a document of its own. A key that is none changes nothing. -/
def expandText (text : Text) (q : ExpandRequest) : Run (Option Snippet) := do
  modify fun s => { s with host := { document := .new text q.cursor, log := s.host.log } }
  match q.key with
  | none => Session.trigger
  | some name =>
    match name.toText?.bind Key.ofName? with
    | some k => (·.snippet) <$> Session.press { key := k.name, shift := q.shift }
    | none => pure none

/-- All characters that an expansion can bring into a text. -/
def tableText (t : Table) : Text := t.snippets.flatMap fun (trigger, e) => trigger ++ e.text

/-- An expand request is carried out. A text with lone surrogates can be edited but not answered. -/
def expand (q : ExpandRequest) : Run Response := do
  let standIns := StandIns.fresh (q.text.filterMap Point.char? ++ tableText (← get).table)
  let found ← expandText ((q.text.toText?).getD (standIns.toText q.text)) q
  let d := (← get).host.document
  match if q.text.hasLone then (standIns.toPoints d.text).loneRun? 0 else none with
  | some (first, position, count) => throw (.surrogatesInText first position count)
  | none => return ⟨200, .table (expandEntries d found)⟩

/-- The start of the names of members that are not shown with a body that is refused. -/
def hiddenStart : Points := Points.ofText "_sa".toList

/-- A body is refused for findings about it. The answer shows what was refused, so all of that has
to be fit for writing. -/
def refuse (fs : List Finding) : Run Response := do
  let shown := fs.map fun f => f.refused.without hiddenStart
  if shown.any Json.Tree.hasNonFinite then throw .nonFiniteShown
  else if shown.any Json.Tree.hasLone then throw .surrogateShown
  else return .findings fs

/-- The response of a route whose application is there. -/
def respond (route : Route) (body : Option Json.Tree) : Run Response := do
  match route with
  | .status => return ⟨200, .table (statusEntries (← get).table)⟩
  | .snippets => return ⟨200, .table (tableEntries (← get).table)⟩
  | .reload =>
    let t ← Session.reload
    return ⟨200, .table (("status".toList, .text "ok".toList) :: tableEntries t)⟩
  | .expand =>
    match ExpandRequest.ofTree body with
    | .error fs => refuse fs
    | .ok q => expand q

/-- How deep arrays and objects may nest in a body. -/
def maxBodyDepth : Nat := 960

/-- What bytes hold, if there are any. -/
def readBody (bytes : List UInt8) : Except Response (Option Json.Tree) :=
  if bytes.isEmpty then .ok none
  else match (Json.decode? bytes).map (Json.Tree.read maxBodyDepth) with
    | some (.ok t) => .ok (some t)
    | some (.error .malformed) => .error .invalidBody
    | some (.error .excessive) => .error .unreadableBody
    | none => .error .unreadableBody

/-- The body that a route needs: a route without body ignores what was sent. -/
def bodyOf (route : Route) (sent : List UInt8) : Except Response (Option Json.Tree) :=
  if route = .expand then readBody sent else .ok none

/-- The application is made from the settings file. -/
def makeApplication : Run Unit := do
  Session.startFromFile
  Session.setup

/-- One request. `ready` says whether there is an application; the result says whether there is one
now. -/
def handle (ready : Bool) (r : Request) : Run (Response × Bool) :=
  match Route.ofPath r.method r.path with
  | .error response => return (response, ready)
  | .ok route =>
    match bodyOf route r.body with
    | .error response => return (response, ready)
    | .ok body => do
      if !ready then makeApplication
      return (← respond route body, true)

/-- Requests one after the other. -/
def serve : Bool → List Request → Run (List Response)
  | _, [] => return []
  | ready, r :: rest => do
    let (response, ready) ← handle ready r
    return response :: (← serve ready rest)

end Shorthand.Web
