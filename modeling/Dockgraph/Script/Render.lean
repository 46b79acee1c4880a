import Dockgraph.Graph.Order
import Dockgraph.Json.Display
import Dockgraph.Notice

/-! Graphs as Dockerfiles: a line for each node that has a keyword and arguments. -/

namespace Dockgraph

/-- The line of a node, where it has one. -/
def Node.line? (n : Node) : Option Text :=
  if n.keyword.isTruthy && n.arguments.isTruthy then
    some (n.keyword.display ++ ' ' :: n.arguments.display)
  else none

namespace Script

def render (nodes : List Node) : Text :=
  Text.unlines (nodes.filterMap Node.line?)

end Script

namespace Graph

/-- The Dockerfile of a graph. -/
def text (g : Graph) : Text :=
  Script.render g.ordered

/-- What the ordering tells: that a cycle kept some nodes from having their turn. -/
def orderNotices (g : Graph) : List Notice :=
  match g.shortfall? with
  | none => []
  | some count => [
    .operation .debug ("[Linearizer] ordered ".toList ++ Text.ofNat count ++ " of ".toList
      ++ Text.ofNat g.nodes.size ++ " nodes, falling back to creation order".toList)]

end Graph

end Dockgraph
