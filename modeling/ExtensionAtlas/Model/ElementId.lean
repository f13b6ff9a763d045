import ExtensionAtlas.Model.Extension
import ExtensionAtlas.Text.Numeral

/-! Identifiers of elements of the graph: the segments on the way to an element, each without the
blanks around it, joined by slashes. An empty segment says nothing and is left out; one that is all
blank leaves an empty place. -/

namespace ExtensionAtlas

def elementId (segments : List String) : String :=
  String.intercalate "/" ((segments.filter (!·.isEmpty)).map fun segment =>
    String.ofList (Text.strip segment.toList))

namespace Extension

/-- The identifier of an object of an extension, if its number can be written. -/
def objectId (e : Extension) (o : Object) : Except Fault String :=
  (Text.writeInt o.id).map fun number => elementId [e.name, o.kind.keyword, number]

end Extension

end ExtensionAtlas
