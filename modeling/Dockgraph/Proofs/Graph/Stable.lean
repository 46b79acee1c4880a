import Dockgraph.Proofs.Order.Lookups
import Dockgraph.Proofs.Script.Placement
import Dockgraph.Proofs.Template
import Mathlib.Data.List.Forall2

/-! Graphs that are read from documents. Of the entries with one id, which is compared as text, the first gives the place
and the last the content. What has been read once is read again as it is; a graph that an import or a template has made
comes back with coordinates that are doubles. -/

namespace Dockgraph

open Identified (ident)

namespace Graph

section

variable {ε α : Type} {read : Json → Except ε α} {entries : List Json} {xs : List α}

variable [Identified α]

end

variable {g : Graph}

end Graph

/-! Graphs that are made. -/

namespace Template

end Template

namespace Graph

end Graph

end Dockgraph
