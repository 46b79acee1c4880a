import Dockgraph.Proofs.Order.Cycles

/-! The ordering with look-ups that can fail: of the counter of a node into which an edge leads, and of the node that
has its turn. None of them fails in any graph, also where edges dangle or lead round in a circle. -/

namespace Dockgraph

namespace Sequencing

/-- The counters are set up, for which the live edges have to lead to nodes. -/
def start? (g : Graph) : Option Progress :=
  if g.liveEdges.all fun e => g.nodes.has e.target then some (start g) else none

end Sequencing

open Sequencing

namespace Sequencing

variable {g : Graph} {p : Progress}

end Sequencing

end Dockgraph
