import DocMachine.Command

/-!
# The program

Commands run over a file tree that is a value. The program gives them the part of the disk that
they look at: it runs a command, loads the places that were asked for, and runs the command again
until it asks for nothing new. Then it writes what was said and what was changed.
-/

namespace DocMachine.Main

/-- What stands at a place on the disk. -/
def readNode (place : Place) : IO (Option Node) := do
  let path := (← IO.currentDir) / Files.pathOf place
  if ← path.isDir then return some .dir
  if ← path.pathExists then return some (.file (← IO.FS.readBinFile path).toList)
  return none

/-- Writes what changed between two trees to the disk. -/
def writeChanges (before after : FileTree) : IO Unit := do
  for (place, node) in after.nodes do
    if before.nodes.get? place ≠ some node then
      match node with
      | .dir => IO.FS.createDirAll (Files.pathOf place)
      | .file bytes => IO.FS.writeBinFile (Files.pathOf place) ⟨bytes.toArray⟩
  for (place, _) in before.nodes do
    if !after.nodes.contains place then IO.FS.removeFile (Files.pathOf place)

/-- Runs a command over what is known of the disk, and again while it asks for more. -/
partial def run (since : Nat) (around : Surroundings) (args : List String)
    (known : List Place) (tree : FileTree) : IO UInt32 := do
  let around := { around with elapsed := Int.ofNat ((← IO.monoMsNow) - since) }
  let (outcome, terminal) :=
    (Command.execute around args).run.run { world := { files := tree, guest := () } }
  let wanted := terminal.world.files.asked.filter fun place => !known.contains place
  if wanted.isEmpty then
    writeChanges tree terminal.world.files
    terminal.out.forM IO.println
    terminal.err.forM IO.eprintln
    return (Program.exitCode outcome).toUInt32
  else
    let nodes ← wanted.foldlM (fun (nodes : Table Place Node) place => do
      match ← readNode place with
      | some node => return nodes.insert place node
      | none => return nodes) tree.nodes
    run since around args (wanted ++ known) { tree with nodes }

/-- Whether arguments ask for an interactive session. -/
def readsInput (args : List String) : Bool :=
  match Args.parse args with
  | .ok invocation => decide (invocation.command = .repl)
  | .error _ => false

/-- Carries out arguments in the directory at hand. -/
def start (args : List String) : IO UInt32 := do
  let directory := (← IO.currentDir).toString
  let input ← if readsInput args then (← IO.getStdin).readBinToEnd else pure .empty
  let around : Surroundings :=
    { directory
      home := ← IO.getEnv "HOME"
      history := ← IO.getEnv Repl.historyVariable
      input := input.toList }
  run (← IO.monoMsNow) around args [] { current := Path.names directory }

end DocMachine.Main

/-- The program: carries out its arguments and ends with a status. -/
def main (args : List String) : IO UInt32 :=
  DocMachine.Main.start args
