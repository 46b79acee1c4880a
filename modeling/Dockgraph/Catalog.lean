import Dockgraph.Text.Blank
import Dockgraph.Text.Case

/-! The instructions of a Dockerfile and the catalog of their uses. -/

namespace Dockgraph

inductive Instruction where
  | base
  | run
  | cmd
  | label
  | expose
  | env
  | add
  | copy
  | entrypoint
  | volume
  | user
  | workdir
  | arg
  | onbuild
  | stopsignal
  | healthcheck
  | shell
  deriving DecidableEq, Repr

namespace Instruction

/-- The canonical keyword. -/
def keyword : Instruction → Text
  | .base => "FROM".toList
  | .run => "RUN".toList
  | .cmd => "CMD".toList
  | .label => "LABEL".toList
  | .expose => "EXPOSE".toList
  | .env => "ENV".toList
  | .add => "ADD".toList
  | .copy => "COPY".toList
  | .entrypoint => "ENTRYPOINT".toList
  | .volume => "VOLUME".toList
  | .user => "USER".toList
  | .workdir => "WORKDIR".toList
  | .arg => "ARG".toList
  | .onbuild => "ONBUILD".toList
  | .stopsignal => "STOPSIGNAL".toList
  | .healthcheck => "HEALTHCHECK".toList
  | .shell => "SHELL".toList

def all : List Instruction := [
  .base, .run, .cmd, .label, .expose, .env, .add, .copy, .entrypoint, .volume, .user, .workdir, .arg,
  .onbuild, .stopsignal, .healthcheck, .shell]

theorem mem_all (i : Instruction) : i ∈ all := by
  cases i <;> decide

/-- The deprecated keyword that counts as a label. -/
def maintainer : Text := "MAINTAINER".toList

def ofKeyword? (s : Text) : Option Instruction :=
  if s = maintainer then some .label else all.find? fun i => i.keyword == s

/-- The instruction that a token names, whatever its case and the blanks around it. -/
def resolve? (token : Text) : Option Instruction :=
  if token.isEmpty then none else ofKeyword? (Text.upper (Text.trim token))

end Instruction

/-- A use of an instruction, with its text for the editor and the arguments that it starts with. -/
structure Spec where
  id : Text
  instruction : Instruction
  label : Text
  description : Text
  defaultArguments : Text
  examples : List Text
  documentation : Text
  advanced : Bool := false
  deriving DecidableEq, Repr

namespace Spec

/-- A base image that begins a named stage. -/
def multiStage : Spec :=
  ⟨"multi_stage", .base, "FROM (multi-stage)", "Multi-stage build, keeps the final image small",
    "node:14-alpine AS build-stage",
    ["FROM node:14-alpine AS build-stage", "FROM nginx:alpine AS production-stage"],
    "Starts a named build stage whose files later stages can copy from.", true⟩

def catalog : List Spec := [
  ⟨"from", .base, "FROM", "Set the base image", "node:14-alpine",
    ["FROM ubuntu:20.04", "FROM node:14-alpine"],
    "Specifies the base image of the build. Must be the first instruction of the Dockerfile.", false⟩,
  ⟨"run", .run, "RUN", "Run a command", "apt-get update && apt-get install -y curl",
    ["RUN apt-get update", "RUN npm install"],
    "Executes a command on top of the current image, usually to install packages.", false⟩,
  ⟨"copy", .copy, "COPY", "Copy files", ". /app",
    ["COPY . /app", "COPY package.json /app/"],
    "Copies files from the build context into the image.", false⟩,
  ⟨"add", .add, "ADD", "Add files", ". /app",
    ["ADD . /app", "ADD package.json /app/"],
    "Like COPY, but also accepts URLs and unpacks tar archives.", false⟩,
  ⟨"workdir", .workdir, "WORKDIR", "Set the working directory", "/app",
    ["WORKDIR /app", "WORKDIR /var/www/html"],
    "Sets the working directory for the instructions that follow.", false⟩,
  ⟨"env", .env, "ENV", "Set environment variables", "NODE_ENV=production",
    ["ENV NODE_ENV=production", "ENV PORT=3000"],
    "Sets environment variables available both during the build and at runtime.", false⟩,
  ⟨"expose", .expose, "EXPOSE", "Expose a port", "3000",
    ["EXPOSE 80", "EXPOSE 3000"],
    "Declares the ports the container listens on at runtime.", false⟩,
  ⟨"cmd", .cmd, "CMD", "Set the default command", "[\"node\", \"server.js\"]",
    ["CMD [\"node\", \"server.js\"]", "CMD [\"npm\", \"start\"]"],
    "Default command run when the container starts; overridden by docker run arguments.", false⟩,
  ⟨"entrypoint", .entrypoint, "ENTRYPOINT", "Set the entrypoint", "[\"node\", \"server.js\"]",
    ["ENTRYPOINT [\"node\", \"server.js\"]", "ENTRYPOINT [\"npm\", \"start\"]"],
    "Command run when the container starts; not overridden by docker run arguments.", false⟩,
  ⟨"volume", .volume, "VOLUME", "Create a mount point", "/data",
    ["VOLUME /data", "VOLUME [\"/data\", \"/app/logs\"]"],
    "Creates a mount point for volumes from the host or other containers.", false⟩,
  ⟨"user", .user, "USER", "Set the user", "node",
    ["USER node", "USER www-data"],
    "Sets the user and group used by the instructions that follow.", false⟩,
  ⟨"label", .label, "LABEL", "Add metadata", "version=\"1.0\" maintainer=\"name@example.com\"",
    ["LABEL version=\"1.0\"", "LABEL maintainer=\"name@example.com\""],
    "Adds key-value metadata to the image.", false⟩,
  ⟨"arg", .arg, "ARG", "Define a build argument", "NODE_VERSION=14",
    ["ARG NODE_VERSION=14", "ARG PORT=3000"],
    "Defines a build-time variable that can be passed with --build-arg.", false⟩,
  ⟨"healthcheck", .healthcheck, "HEALTHCHECK", "Health check",
    "--interval=5m --timeout=3s CMD curl -f http://localhost/ || exit 1",
    ["HEALTHCHECK --interval=5m --timeout=3s CMD curl -f http://localhost/ || exit 1"],
    "Tells Docker how to check that the container is still working.", false⟩,
  multiStage,
  ⟨"copy_from", .copy, "COPY --from", "Copy files from another stage",
    "--from=build-stage /app/dist /usr/share/nginx/html",
    ["COPY --from=build-stage /app/dist /usr/share/nginx/html"],
    "Copies files from another stage of a multi-stage build into the current stage.", true⟩,
  ⟨"shell", .shell, "SHELL", "Set the default shell", "[\"powershell\", \"-command\"]",
    ["SHELL [\"powershell\", \"-command\"]", "SHELL [\"/bin/bash\", \"-c\"]"],
    "Sets the shell used by the shell form of RUN, CMD and ENTRYPOINT.", true⟩,
  ⟨"stopsignal", .stopsignal, "STOPSIGNAL", "Set the stop signal", "SIGTERM",
    ["STOPSIGNAL SIGTERM", "STOPSIGNAL 9"],
    "Sets the system call signal sent to the container to make it exit.", true⟩,
  ⟨"onbuild", .onbuild, "ONBUILD", "Trigger instruction", "RUN npm install",
    ["ONBUILD RUN npm install", "ONBUILD COPY . /app"],
    "Instruction executed in downstream builds that use this image as their base.", true⟩,
  ⟨"healthcheck_disable", .healthcheck, "HEALTHCHECK NONE", "Disable the health check", "NONE",
    ["HEALTHCHECK NONE"],
    "Disables any health check inherited from the base image.", true⟩,
  ⟨"volume_from", .volume, "VOLUME (shared)", "Configure a shared volume", "[\"/shared-data\"]",
    ["VOLUME [\"/shared-data\", \"/config\"]"],
    "Creates a persistent volume that several containers can share.", true⟩,
  ⟨"copy_chown", .copy, "COPY --chown", "Copy and set ownership", "--chown=node:node . /app",
    ["COPY --chown=node:node . /app"],
    "Copies files into the container and sets their user and group.", true⟩]

def ofId? (id : Text) : Option Spec :=
  catalog.find? fun s => s.id == id

/-- The first use of an instruction in the catalog. -/
def ofInstruction? (i : Instruction) : Option Spec :=
  catalog.find? fun s => s.instruction == i

theorem ofInstruction?_isSome (i : Instruction) : (ofInstruction? i).isSome := by
  cases i <;> decide

/-- The first use of an instruction, of which there always is one. -/
def ofInstruction (i : Instruction) : Spec :=
  (ofInstruction? i).get (ofInstruction?_isSome i)

/-- The first use of the instruction that a token names. -/
def ofToken? (token : Text) : Option Spec :=
  (Instruction.resolve? token).map ofInstruction

/-- The uses to choose from, the advanced ones left out unless they are wanted. -/
def listed (withAdvanced : Bool) : List Spec :=
  catalog.filter fun s => withAdvanced || !s.advanced

end Spec

end Dockgraph
