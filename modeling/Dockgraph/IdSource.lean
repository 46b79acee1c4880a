import Dockgraph.Text.Case

/-! Ids for new nodes: keyword, session and a running number. -/

namespace Dockgraph

structure IdSource where
  session : Text
  issued : Nat
  deriving DecidableEq, Repr

namespace IdSource

def ofSession (session : Text) : IdSource :=
  ⟨session, 0⟩

/-- The `n`th id of a session; an empty keyword counts as `node`. -/
def form (keyword session : Text) (n : Nat) : Text :=
  Text.lower (if keyword.isEmpty then "node".toList else keyword) ++ '_' :: session
    ++ '_' :: Text.ofNat n

/-- The next id, and the source after it. -/
def next (s : IdSource) (keyword : Text) : Text × IdSource :=
  (form keyword s.session (s.issued + 1), { s with issued := s.issued + 1 })

/-- The ids for a sequence of keywords. -/
def nextAll (s : IdSource) : List Text → List Text
  | [] => []
  | k :: ks => (s.next k).1 :: nextAll (s.next k).2 ks

end IdSource

end Dockgraph
