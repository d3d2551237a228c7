import SeriesQuery.Json.Reader
import SeriesQuery.Result.Basic
import SeriesQuery.Result.Problem
import SeriesQuery.Text.Blank

/-!
Answers of the render API. A rendered answer that cannot be read counts as one without series.
-/

set_option autoImplicit false

namespace SeriesQuery.Graphite

open Json

/-- How deep a tag value may be nested inside the array of series, the series and its tags. -/
def tagRoom : Nat := Tree.deepest - 3

def datapoint? (tree : Tree) : Option (Option Float × Option Int64) :=
  tree.pair? (Tree.nullable? Tree.float?) (Tree.nullable? Tree.int64?)

def labelText : Value → String
  | .string text => text
  | other => other.compact

def reading? (datapoint : Option Float × Option Int64) : Option Reading :=
  (datapoint.2.bind fun seconds => Time.Instant.ofSeconds? seconds.toInt).map fun timestamp =>
    ⟨timestamp, datapoint.1⟩

def series? (tree : Tree) : Option Series := do
  let members ← tree.members? ["target", "datapoints", "tags"]
  let target ← members.required "target" Tree.string?
  let datapoints ← members.required "datapoints" (Tree.list? datapoint?)
  let tags ← members.defaulted "tags" .empty (Tree.dictionary? (Tree.value? tagRoom))
  let labels := tags.entries.filter fun tag => tag.1 != "name"
  return ⟨target, .ofList (labels.map fun (key, value) => (key, labelText value)),
    datapoints.filterMap reading?⟩

def document? (body : String) : Option Tree := Json.read? (Text.trim body)

def readRendered (body : String) : SeriesResult :=
  .ofSeries (((document? body).bind (Tree.list? series?)).getD [])

def nodeText? (tree : Tree) : Option String := do
  (← tree.members? ["text"]).required "text" Tree.string?

def readNodes (body : String) : Response LabelResult :=
  (Payload.findNodes.expect ((document? body).bind (Tree.list? nodeText?))).map .ofValues

def readTags (body : String) : Response LabelResult :=
  (Payload.tagList.expect ((document? body).bind (Tree.list? Tree.string?))).map .ofValues

end SeriesQuery.Graphite
