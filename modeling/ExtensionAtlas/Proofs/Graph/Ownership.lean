import ExtensionAtlas.Proofs.Graph.Commutation
import ExtensionAtlas.Proofs.Graph.Elements

/-! Whose nodes an analysis writes. The nodes of an extension are its own: their identifiers start
with its name. -/

namespace ExtensionAtlas.Graph

end ExtensionAtlas.Graph
