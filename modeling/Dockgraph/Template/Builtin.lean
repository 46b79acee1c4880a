import Dockgraph.Template.Basic

/-! The templates that come with the editor. -/

namespace Dockgraph.Template

/-- An id, a name, and the instructions with their arguments. -/
structure Outline where
  id : Text
  name : Text
  steps : List (Text × Text)

def Outline.toJson (o : Outline) : Json :=
  let step (s : Text × Text) : Json :=
    .object [("instruction".toList, .text s.1), ("arguments".toList, .text s.2)]
  .object [
    ("id".toList, .text o.id), ("name".toList, .text o.name), ("steps".toList, .list (o.steps.map step))]

def builtinOutlines : List Outline := [
  ⟨"node", "Node.js app", [
    ("FROM", "node:14-alpine"),
    ("WORKDIR", "/app"),
    ("COPY", "package*.json ./"),
    ("RUN", "npm install"),
    ("COPY", ". ."),
    ("EXPOSE", "3000"),
    ("CMD", "[\"node\", \"server.js\"]")]⟩,
  ⟨"python", "Python app", [
    ("FROM", "python:3.9-slim"),
    ("WORKDIR", "/app"),
    ("COPY", "requirements.txt ."),
    ("RUN", "pip install --no-cache-dir -r requirements.txt"),
    ("COPY", ". ."),
    ("EXPOSE", "5000"),
    ("CMD", "[\"python\", \"app.py\"]")]⟩,
  ⟨"golang", "Go app", [
    ("FROM", "golang:1.16-alpine AS build"),
    ("WORKDIR", "/app"),
    ("COPY", ". ."),
    ("RUN", "go build -o main ."),
    ("FROM", "alpine:latest"),
    ("WORKDIR", "/app"),
    ("COPY", "--from=build /app/main ."),
    ("EXPOSE", "8080"),
    ("CMD", "[\"./main\"]")]⟩,
  ⟨"java", "Java Spring Boot", [
    ("FROM", "openjdk:11-jre-slim"),
    ("WORKDIR", "/app"),
    ("COPY", "target/*.jar app.jar"),
    ("RUN", "sh -c 'touch /app/app.jar'"),
    ("EXPOSE", "8080"),
    ("ENTRYPOINT", "[\"java\", \"-jar\", \"app.jar\"]")]⟩,
  ⟨"nginx", "Nginx static site", [
    ("FROM", "nginx:alpine"),
    ("COPY", "./dist /usr/share/nginx/html"),
    ("EXPOSE", "80"),
    ("CMD", "[\"nginx\", \"-g\", \"daemon off;\"]")]⟩,
  ⟨"multi-stage", "Multi-stage build example", [
    ("FROM", "node:14-alpine AS build"),
    ("WORKDIR", "/app"),
    ("COPY", "package*.json ./"),
    ("RUN", "npm install"),
    ("COPY", ". ."),
    ("RUN", "npm run build"),
    ("FROM", "nginx:alpine"),
    ("WORKDIR", "/usr/share/nginx/html"),
    ("COPY", "--from=build /app/build ."),
    ("EXPOSE", "80"),
    ("CMD", "[\"nginx\", \"-g\", \"daemon off;\"]")]⟩]

def builtin : Json :=
  .list (builtinOutlines.map Outline.toJson)

end Dockgraph.Template
