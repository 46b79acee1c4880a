import Dockgraph.Graph.Basic

/-! The order in which a graph's instructions are written: nodes without open predecessors first in, first
out. A graph with a cycle keeps the order in which its nodes were made. -/

namespace Dockgraph

/-- How far the ordering has come: for each node the live edges into it whose source is still to come,
the nodes that wait for their turn, and those that have had it. -/
structure Sequencing.Progress where
  counters : List (Text × Int)
  queue : List Text
  done : List Text

namespace Sequencing

/-- Takes one off a node's counter. -/
def countDown (id : Text) : List (Text × Int) → List (Text × Int)
  | [] => []
  | (i, n) :: rest => if i = id then (i, n - 1) :: rest else (i, n) :: countDown id rest

/-- One live edge into a node is settled; the node's turn comes when it was the last. -/
def settle (p : Progress) (target : Text) : Progress :=
  let counters := countDown target p.counters
  { p with
    counters := counters
    queue := if counters.lookup target = some 0 then p.queue ++ [target] else p.queue }

/-- The targets of the live edges that leave a node, in the order of the edges. -/
def targets (g : Graph) (id : Text) : List Text :=
  (g.liveEdges.filter fun e => e.source == id).map (·.target)

/-- The number of live edges into a node. -/
def incoming (g : Graph) (id : Text) : Nat :=
  (g.liveEdges.filter fun e => e.target == id).length

def start (g : Graph) : Progress where
  counters := g.nodes.ids.map fun i => (i, (incoming g i : Int))
  queue := g.nodes.ids.filter fun i => incoming g i == 0
  done := []

/-- The first node in the queue has its turn. -/
def turn (g : Graph) (p : Progress) : Progress :=
  match p.queue with
  | [] => p
  | id :: rest => (targets g id).foldl settle { p with queue := rest, done := p.done ++ [id] }

/-- The progress after a number of turns. -/
def after (g : Graph) : Nat → Progress
  | 0 => start g
  | n + 1 => turn g (after g n)

/-- The progress when no node waits any more: there are no more turns than nodes. -/
def final (g : Graph) : Progress :=
  after g g.nodes.size

end Sequencing

namespace Graph

/-- The ids in the order of writing. -/
def orderedIds (g : Graph) : List Text :=
  let done := (Sequencing.final g).done
  if done.length = g.nodes.size then done else g.nodes.ids

/-- The nodes in the order of writing. -/
def ordered (g : Graph) : List Node :=
  g.orderedIds.filterMap g.nodes.find?

/-- The number of nodes that had their turn, where some had none. -/
def shortfall? (g : Graph) : Option Nat :=
  let done := (Sequencing.final g).done
  if done.length = g.nodes.size then none else some done.length

end Graph

end Dockgraph
