import ColorSpans.CommandLine.Report

/-! The command line program. It looks at the files that a run can read, then leaves the run to
`CommandLine.run`. -/
namespace ColorSpans.CommandLine

/-- What reading a file from the disk shows. -/
def lookAt (tree : FileTree) (working path : String) : IO FileTree := do
  let place := Path.real working path
  try
    let bytes ← IO.FS.readBinFile path
    return tree.addFile place bytes.toList 0
  catch
    | .inappropriateType _ 21 _ => return tree.addFolder place
    | .inappropriateType .. => return tree.addFile (Path.folder place) [] 0
    | _ => return tree

/-- The files that the imports of a file may stand for. -/
def importCandidates (tree : FileTree) (working importer : String) : List String :=
  match tree.bytes working importer with
  | .error _ => []
  | .ok bytes =>
      match Sass.Sheet.read none (importedFile bytes 0).lines with
      | .error _ => []
      | .ok sheet => sheet.targets.flatMap (Sass.candidates importer)

/-- Looks at files and at all that they import. -/
partial def gather (tree : FileTree) (working : String) : List String → IO FileTree
  | [] => return tree
  | path :: rest => do
      let place := Path.real working path
      if (tree.entry? place).isSome then gather tree working rest
      else
        let tree ← lookAt tree working path
        gather tree working (importCandidates tree working place ++ rest)

/-- The files that inline text imports are found from the working folder. -/
def inlineCandidates (a : Arguments) : List String :=
  match Sass.Sheet.read none ((inlineSources a).flatMap Source.lines) with
  | .error _ => []
  | .ok sheet => sheet.targets.flatMap (Sass.candidates Sass.Variables.bufferKey)

def filesOf (args : List String) : List String :=
  match parse args with
  | .error _ => []
  | .ok a => a.paths ++ inlineCandidates a

end ColorSpans.CommandLine

open ColorSpans CommandLine in
def main (args : List String) : IO UInt32 := do
  let working := (← IO.currentDir).toString
  let tree ← gather (FileTree.empty.addFolder working) working (filesOf args)
  match run tree working args with
  | .ok outcome =>
      IO.print outcome.output
      outcome.errors.forM fun e => IO.eprintln e
      return UInt32.ofNat outcome.exit
  | .error e =>
      IO.eprintln e.message
      return 1
