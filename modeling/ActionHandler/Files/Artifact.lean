import ActionHandler.Files.FileSystem
import ActionHandler.Given

/-! # Writing artifacts

Artifacts are written one after the other under a directory, which is made first. What
was written before something goes wrong stays written.
-/

namespace ActionHandler.Files

variable {m : Type → Type} [Monad m] [FileSystem m]

/-- Writes one artifact under a directory and gives the path that it has there. -/
def writeArtifact (directory : Path) (artifact : GivenArtifact) : FileAction m Path := do
  let name ← ExceptT.mk (pure (ask "name" artifact.name))
  let path := directory.join name
  let content ← ExceptT.mk (pure (ask "content" artifact.content))
  writeText path content
  return path

/-- Writes artifacts in order under a directory that is there. -/
def writeEach (directory : Path) : List GivenArtifact → FileAction m (List Path)
  | [] => pure []
  | artifact :: rest => do
      let path ← writeArtifact directory artifact
      let others ← writeEach directory rest
      return path :: others

/-- Writes artifacts under a directory and gives the paths that they have there. -/
def writeArtifacts (directory : Path) (artifacts : List GivenArtifact) :
    FileAction m (List Path) := do
  makeDirectories directory
  writeEach directory artifacts

end ActionHandler.Files
