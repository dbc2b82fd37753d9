import BlockAuthoring.Disk.Path
import BlockAuthoring.Settings.Variable

/-!
# The layout of a project

Where in a project the blocks and the models lie.
-/

namespace BlockAuthoring

/-- The folder of a project's blocks: the one asked for, else the one of the environment. -/
def blocksPath (env : Environment) (project : Path) (override : Option String) : Path :=
  project.join (override.getD (Variable.blocksFolder.readText env))

/-- The folder of a project's models. -/
def modelsPath (env : Environment) (project : Path) : Path :=
  project.join (Variable.modelsFolder.readText env)

end BlockAuthoring
