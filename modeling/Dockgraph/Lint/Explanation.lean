import Dockgraph.Lint.Check

/-! Results in plain language: whether a Dockerfile is likely to build, and the background of a message. -/

namespace Dockgraph.Lint

/-- The instructions that a Dockerfile usually has. -/
def essentials : List Instruction := [.base, .run, .copy, .cmd]

/-- The usual instructions whose keyword stands nowhere in the text. -/
def missingEssentials (content : Text) : List Instruction :=
  essentials.filter fun i => !Text.hasPart i.keyword content

def cannotBuild : Text :=
  "This Dockerfile has syntax errors and cannot be built. Fix all errors first and try again.".toList

def shouldBuild : Text :=
  "This Dockerfile is syntactically correct and should build successfully.".toList

def basicallyCorrect : Text := "This Dockerfile is basically correct, but ".toList

def missingText (missing : List Instruction) : Text :=
  "it is missing some common instructions: ".toList
    ++ Text.joinWith ", ".toList (missing.map (·.keyword)) ++ ".".toList

def hasEssentials : Text := "it contains the basic necessary instructions.".toList

def hasSuggestions : Text := " There are optimization suggestions available.".toList

/-- Whether the text is likely to build, given its result. -/
def buildability {σ : Type} (content : Text) (r : Result σ) : Text :=
  if !r.isValid then cannotBuild
  else if r.errors.isEmpty && r.suggestions.isEmpty then shouldBuild
  else
    let missing := missingEssentials content
    basicallyCorrect
      ++ (if missing.isEmpty then hasEssentials else missingText missing)
      ++ (if r.suggestions.isEmpty then [] else hasSuggestions)

/-- Topics that messages touch on, and what there is to know about them. -/
def guides : List (Text × Text) := [
  ("tag", "Pinned image tags keep builds reproducible when upstream images move."),
  ("json array", "The exec form runs the process as PID 1 so it receives stop signals directly."),
  ("apt-get", "Installing in the same layer as the package index update avoids stale caches."),
  ("npm", "Skipping dev dependencies keeps the runtime image small."),
  ("over add", "COPY is explicit; ADD also fetches URLs and unpacks archives."),
  ("healthcheck", "A health check lets the orchestrator restart containers that stop responding."),
  ("non-root", "Running as a non-root user limits what a compromised process can do.")]

/-- Whether a text goes on with a character of a word. -/
def goesOn (s : Text) : Bool :=
  s.head?.any Text.isWordChar

/-- The instruction whose keyword stands here as a whole word. -/
def keywordAt? (before : Option Char) (s : Text) : Option Instruction :=
  if before.any Text.isWordChar then none
  else Instruction.all.find? fun i =>
    i.keyword.isPrefixOf s && !goesOn (s.drop i.keyword.length)

/-- The keywords from here on, once `skip` characters are passed by. -/
def keywordsFrom (skip : Nat) (before : Option Char) : Text → List Instruction
  | [] => []
  | c :: s =>
    match skip with
    | n + 1 => keywordsFrom n (some c) s
    | 0 =>
      match keywordAt? before (c :: s) with
      | some i => i :: keywordsFrom (i.keyword.length - 1) (some c) s
      | none => keywordsFrom 0 (some c) s

/-- The instructions that a message names, in order of first mention. -/
def mentioned (message : Text) : List Instruction :=
  (keywordsFrom 0 none message).eraseDups

/-- What the catalog says of an instruction. -/
def documentation (i : Instruction) : Text :=
  i.keyword ++ ": ".toList ++ (Spec.ofInstruction i).documentation

/-- The background of a message: the instructions that it names and the topics that it touches on. -/
def context (message : Text) : Text :=
  Text.joinWith [' '] ((mentioned message).map documentation
    ++ (guides.filter fun g => Text.hasPart g.1 (Text.lower message)).map (·.2))

end Dockgraph.Lint
