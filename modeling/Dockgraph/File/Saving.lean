import Dockgraph.Json.Access
import Dockgraph.Text.Encoding

/-! Texts that are saved part by part. A part that cannot be made, or has no bytes, ends the saving; what was saved before
it stays. -/

namespace Dockgraph

/-- Why a part of a text is not saved. -/
inductive SaveError where
  | value (cause : Json.AccessError)
  | encoding (cause : Encoding.EncodeError)
  deriving DecidableEq, Repr

def SaveError.message : SaveError → Text
  | .value cause => cause.message
  | .encoding cause => cause.message

/-- What has been saved, and what has ended it if not all has been. -/
structure Saved where
  content : Encoding.Bytes
  trouble : Option SaveError
  deriving DecidableEq, Repr

/-- The outcome of saving the parts of a text. -/
def Saved.ofParts {σ : Type} [Glyph σ] : List (Except Json.AccessError (List σ)) → Saved
  | [] => ⟨[], none⟩
  | .error cause :: _ => ⟨[], some (.value cause)⟩
  | .ok part :: rest =>
    match Encoding.encodeFrom 0 part with
    | .error cause => ⟨[], some (.encoding cause)⟩
    | .ok bytes => ⟨bytes ++ (ofParts rest).content, (ofParts rest).trouble⟩

end Dockgraph
