import Dockgraph.Lint.Recognition
import Dockgraph.Text.CodePoint

/-! Advice that needs no custom rules: on single statements, and on the text as a whole. -/

namespace Dockgraph.Lint

/-- A rule for the arguments of some instructions. The message may name the keyword. -/
structure Advice where
  instructions : List Instruction
  applies : Text → Bool
  message : Text → Text

def has (part : String) (s : Text) : Bool :=
  Text.hasPart part.toList s

def lineAdvice : List Advice := [
  { instructions := [.base]
    applies := fun s => !has ":" s
    message := fun _ => "pin the base image to a specific tag instead of relying on latest".toList },
  { instructions := [.cmd, .entrypoint]
    applies := fun s => s.head? != some '[' && !has "$\x7b" s
    message := fun keyword =>
      "prefer the JSON array form (".toList ++ keyword
        ++ " [\"executable\", \"param1\", \"param2\"])".toList },
  { instructions := [.run]
    applies := fun s => has "apt-get install" s && !has "-y" s
    message := fun _ => "add -y to apt-get install to avoid interactive prompts".toList },
  { instructions := [.run]
    applies := fun s => has "apt-get update" s && !has "apt-get install" s
    message := fun _ =>
      "merge apt-get update and apt-get install into one RUN instruction to reduce layers".toList },
  { instructions := [.run]
    applies := fun s => has "npm install" s && !has "--production" s
    message := fun _ => "consider npm install --production to reduce the image size".toList },
  { instructions := [.add]
    applies := fun s => !(has "http://" s || has "https://" s || has ".tar" s)
    message := fun _ => "prefer COPY over ADD for plain file copies".toList }]

variable {σ : Type} [Glyph σ]

/-- The messages for a statement. -/
def Advice.forStatement (s : Statement) : List (List σ) :=
  (lineAdvice.filter fun a => a.instructions.any (·.keyword == s.keyword) && a.applies s.arguments).map
    fun a => Glyph.ofText (a.message s.keyword)

/-- The messages for a whole text. -/
def documentAdvice (content : Text) : List (List σ) :=
  (if has "HEALTHCHECK" content then ([] : List (List σ))
    else [Glyph.ofText "Consider adding a HEALTHCHECK instruction to monitor container health".toList])
  ++ (if has "USER" content || has "alpine" (Text.lower content) then ([] : List (List σ))
    else [Glyph.ofText "Consider adding a USER instruction to run the container as a non-root user".toList])

end Dockgraph.Lint
