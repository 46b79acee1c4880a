import Dockgraph.File.Disk
import Dockgraph.Json.Reader

/-! Files as texts and documents. A Dockerfile is read whatever its bytes are; a document has to be free of
faults. -/

namespace Dockgraph.Disk

/-- The text of a file, faulty bytes left out. -/
def readText (d : Disk) (path : Text) : Except Error Text :=
  (d.read path).map fun bytes => Encoding.normaliseLines (Encoding.decodeLenient bytes)

/-- Why a file is no document. -/
inductive LoadError where
  | disk (cause : Error)
  | encoding (cause : Encoding.DecodeError)
  | document (cause : Json.ReadError)

def LoadError.message : LoadError → Text
  | .disk cause => cause.message
  | .encoding cause => cause.message
  | .document cause => cause.message

/-- The document that a file holds, its texts being of the given glyphs. -/
def loadAs (σ : Type) [Glyph σ] [DecidableEq σ] (d : Disk) (path : Text) : Except LoadError (Json σ) :=
  match d.read path with
  | .error cause => .error (.disk cause)
  | .ok bytes =>
    match Encoding.decode bytes with
    | .error cause => .error (.encoding cause)
    | .ok text =>
      match Json.readAs σ (Encoding.normaliseLines text) with
      | .error cause => .error (.document cause)
      | .ok v => .ok v

def load (d : Disk) (path : Text) : Except LoadError Json :=
  d.loadAs Char path

end Dockgraph.Disk
