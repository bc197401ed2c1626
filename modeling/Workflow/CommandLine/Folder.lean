import Workflow.Dictionary
import Workflow.Settings
import Workflow.Text.Split

namespace Workflow

/-!
# A folder in memory

Files under paths relative to one folder.  A point in a path stays where it is.  A folder exists as
long as a file is below it, and is neither read nor written as a file.
-/

/-- The texts of files by their paths. -/
structure Folder where
  files : Dictionary String

namespace Folder

/-- The folder with these files. -/
def ofList (files : List (String × String)) : Folder := ⟨.ofList files⟩

/-- The steps of a path, without those that stay; none if it leads out of the folder or can only
name a folder. -/
def steps? (path : String) : Option (List (List Char)) :=
  let steps := Text.splitAtEach (· == '/') path.toList
  let kept := steps.filter fun step => !step.isEmpty && step ≠ ['.']
  let leaves := steps.head? == some [] || steps.any (· == ['.', '.'])
  let namesFolder := steps.getLast?.any fun step => step.isEmpty || step == ['.']
  if leaves || namesFolder then none else some kept

/-- The one path of a file that some steps lead to. -/
def pathOf (steps : List (List Char)) : String := String.ofList (['/'].intercalate steps)

/-- Whether there is a folder with this path; the empty path is the folder itself. -/
def hasFolder (f : Folder) (steps : List (List Char)) : Bool :=
  steps.isEmpty ||
    f.files.entries.any fun (path, _) => ((pathOf steps).toList ++ ['/']).isPrefixOf path.toList

/-- The file that a path leads to. -/
def read (f : Folder) (path : String) : File :=
  match steps? path with
  | none => .unreadable
  | some steps =>
    match f.files.get? (pathOf steps) with
    | some content => .text content
    | none => if f.hasFolder steps then .unreadable else .missing

/-- The folder after writing a file, if it can be written. -/
def write? (f : Folder) (path content : String) : Option Folder := do
  let steps ← steps? path
  if f.hasFolder steps || !f.hasFolder steps.dropLast then none
  else return ⟨f.files.insert (pathOf steps) content⟩

end Folder

end Workflow
