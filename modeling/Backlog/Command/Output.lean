import Backlog.Command.Script

/-!
# Output of commands

Answers are written as indented JSON, as one line for each thing with tabs between its parts, or
under headings with the names of values before them.
-/

namespace Backlog

namespace Output

/-! ## Lines -/

def line (s : String) : String := s ++ "\n"

def rule : String := line (String.ofList (List.replicate 72 '-'))

def heading (s : String) : String := line s ++ rule

/-- A text with blanks behind it up to a width. -/
def padded (width : Nat) (s : String) : String :=
  s ++ String.ofList (List.replicate (width - s.length) ' ')

/-- A value behind its name. -/
def named (name value : String) : String := line (padded 14 (name ++ ":") ++ " " ++ value)

def namedIf (name : String) (value : Option String) : String :=
  match value with
  | some v => named name v
  | none => ""

def tabbed (parts : List String) : String := line ("\t".intercalate parts)

def headingIf (mode : OutputMode) (s : String) : String :=
  if mode = .pretty then heading s else ""

/-! ## Things -/

def itemLine (w : WorkItem) : String :=
  tabbed [w.id, w.typeName, w.state?.getD "-", w.title?.getD ""]

/-- A value of a field: a text as it is, all else as JSON. -/
def shown (v : Json) : String := v.string?.getD v.text

def intText (n : Int) : String := String.ofList (Json.intChars n)

def item (w : WorkItem) (mode : OutputMode) : String :=
  if mode = .text then itemLine w
  else
    heading ("#" ++ w.id ++ " " ++ w.title?.getD "(untitled)") ++ named "Type" w.typeName ++
      named "Version" (intText w.version) ++
      String.join (w.fields.entries.map fun e => named e.1 (shown e.2))

def links (p : Page) (found total : Nat) : List (String × String) :=
  let l := Page.Links.ofPage p found total
  [("first", l.first.query), ("last", l.last.query)] ++
    (l.prev.map fun p => ("prev", p.query)).toList ++
    (l.next.map fun p => ("next", p.query)).toList

def page (p : Page) (ws : List WorkItem) (total : Nat) (mode : OutputMode) : String :=
  headingIf mode ("Work items " ++ toString p.offset ++ "-" ++ toString (p.offset + ws.length) ++
      " of " ++ toString total) ++
    String.join (ws.map itemLine) ++
    if mode = .pretty then
      line "" ++ String.join ((links p ws.length total).map fun e => named e.1 e.2)
    else ""

def pageJson (p : Page) (ws : List WorkItem) (total : Nat) : Json :=
  .obj [("data", .arr (ws.map WorkItem.toJson)),
    ("meta", .obj [("total", .int total), ("offset", .int p.offset), ("limit", .int p.limit)]),
    ("links", .obj ((links p ws.length total).map fun e => (e.1, .str e.2)))]

def typeLine (t : ItemType) : String :=
  tabbed [t.name, "v" ++ intText t.version, toString t.fields.size ++ " fields"]

def fieldLine (name : String) (d : FieldDefinition) : String :=
  line ((if d.required then "*" else " ") ++ " " ++ padded 24 name ++ " " ++ d.type.toJson.text)

def itemType (t : ItemType) (mode : OutputMode) : String :=
  if mode = .text then typeLine t
  else
    heading t.name ++ named "Version" (intText t.version) ++ line "" ++
      String.join (t.fields.entries.map fun e => fieldLine e.1 e.2)

def iterationLine (i : Iteration) : String := tabbed [i.id.text, i.state.name, i.name]

def iteration (i : Iteration) (mode : OutputMode) : String :=
  if mode = .text then iterationLine i
  else
    heading i.name ++ named "Id" i.id.text ++ named "Space" i.spaceId.text ++
      namedIf "Parent" (i.parentId.map Uuid.text) ++ named "State" i.state.name ++
      namedIf "Description" i.description ++ namedIf "Starts" (i.startAt.map Moment.offsetText) ++
      namedIf "Ends" (i.endAt.map Moment.offsetText)

def countLine (id : String) (c : ItemCounts) : String :=
  tabbed [id, toString c.total, toString c.closed]

def countJson (id : String) (c : ItemCounts) : Json :=
  .obj [("iteration_id", .str id), ("total", .int c.total), ("closed", .int c.closed)]

def identityLine (i : Identity) : String := tabbed [i.id.text, i.fullName]

/-! ## Answers -/

def deletion (id : String) (mode : OutputMode) : String :=
  if mode = .text then line id else line ("Deleted work item " ++ id ++ ".")

def iterationsHeading : View → String
  | .inSpace space => "Iterations in " ++ space.text
  | _ => "Iterations"

end Output

namespace Result

open Output

def toJson (r : Result) : Json :=
  match r.answer, r.view with
  | .done, .deletionOf id => .obj [("deleted", .str id)]
  | .done, _ => .null
  | .flag b, _ => .bool b
  | .itemType t, _ => t.toJson
  | .itemTypes ts, _ => .arr (ts.map ItemType.toJson)
  | .identity i, _ => i.toJson
  | .identities is, _ => .arr (is.map Identity.toJson)
  | .item w, _ => w.toJson
  | .items ws total, .page p => pageJson p ws total
  | .items ws _, _ => .arr (ws.map WorkItem.toJson)
  | .counts cs, _ => .arr (cs.entries.map fun e => countJson e.1 e.2)
  | .iteration i, _ => i.toJson
  | .iterations is, _ => .arr (is.map Iteration.toJson)

/-- The words of a result, in one of the two modes that are not JSON. -/
def words (r : Result) (mode : OutputMode) : String :=
  match r.answer, r.view with
  | .done, .deletionOf id => deletion id mode
  | .done, _ => ""
  | .flag b, _ => line (if b then "yes" else "no")
  | .itemType t, _ => itemType t mode
  | .itemTypes ts, _ => headingIf mode "Work item types" ++ String.join (ts.map typeLine)
  | .identity i, _ => identityLine i
  | .identities is, _ => headingIf mode "Identities" ++ String.join (is.map identityLine)
  | .item w, _ => item w mode
  | .items ws total, .page p => page p ws total mode
  | .items ws _, _ => String.join (ws.map itemLine)
  | .counts cs, _ =>
    headingIf mode "Iteration\ttotal\tclosed" ++
      String.join (cs.entries.map fun e => countLine e.1 e.2)
  | .iteration i, _ => iteration i mode
  | .iterations is, view =>
    headingIf mode (iterationsHeading view) ++ String.join (is.map iterationLine)

def text (r : Result) (mode : OutputMode) : String :=
  if mode = .json then line r.toJson.indentedText else r.words mode

end Result

end Backlog
