import Groundplan.Deploy.Override

/-!
# Workspaces

Every run of the provisioning tool has a directory of its own, which exists from the beginning of an
operation to its end and belongs to that operation alone.

## Main definitions

* `isWorkspaceId`, `workspaceName`, `workspaceNameOf`: what can name a workspace
* `Workspaces`: the workspaces and their files
* `Workspaces.create`, `Workspaces.write`, `Workspaces.remove`

## Main results

* `files?_create_self`: a new workspace is empty
* `create_of_files?`: a workspace that is there is not made again
* `files?_remove_self`, `files?_remove_of_ne`: removing one workspace leaves the others
-/

namespace Groundplan.Deploy

open Text

/-! ## Names -/

/-- A letter, a digit, a hyphen or an underscore of ASCII. -/
def isWorkspaceChar (c : Char) : Bool :=
  c.isAlphanum || c == '_' || c == '-'

/-- Whether a text can name a workspace; a single line feed may end it. -/
def isWorkspaceId (s : String) : Bool :=
  let cs := s.toList
  -- The end of a text is also before a line feed that ends it.
  let body := if cs.getLast? = some '\n' then cs.dropLast else cs
  !body.isEmpty && body.all isWorkspaceChar

/-- The refusal of an identifier. -/
def badWorkspaceId (shown : String) : Failure :=
  .sandbox ("Invalid workspace id: " ++ shown)

/-- The name of the workspace of an identifier, or a refusal. -/
def workspaceName (s : String) : Answer String :=
  if isWorkspaceId s then .ok s else .error (badWorkspaceId (quoted s))

/-- The name of the workspace of a value, which must be an identifier. -/
def workspaceNameOf (d : Data) : Answer String :=
  match d with
  | .text s => workspaceName s
  | d => .error (if d.isTruthy then .mismatch .kind else badWorkspaceId d.shown)

/-! ## Directories -/

/-- The files of a workspace by name. -/
abbrev Files := Entries String

/-- The file with the configuration of the user. -/
def mainFile : String := "main.tf"

/-- The file with the keys. -/
def overrideFile : String := "provider_override.tf"

/-- The mode of the files that are written into a workspace. -/
def fileMode : String := "0o600"

/-- The workspaces that there are, by name. -/
abbrev Workspaces := Entries Files

namespace Workspaces

/-- The files of a workspace, if it is there. -/
def files? (ws : Workspaces) (name : String) : Option Files :=
  Entries.get? name ws

/-- A file of a workspace. -/
def file? (ws : Workspaces) (name file : String) : Option String :=
  (ws.files? name).bind (Entries.get? file)

/-- **Makes a workspace** that is not there yet. -/
def create (ws : Workspaces) (id : String) : Answer Unit × Workspaces :=
  match workspaceName id with
  | .error f => (.error f, ws)
  | .ok name =>
    match ws.files? name with
    | some _ => (.error (.sandbox ("Workspace for " ++ id ++ " is already in use")), ws)
    | none => (.ok (), Entries.set name [] ws)

/-- **Writes a file** into a workspace. -/
def write (ws : Workspaces) (name file content : String) : Answer Unit × Workspaces :=
  match ws.files? name with
  | none => (.error (.missingFile (name ++ "/" ++ file)), ws)
  | some files => (.ok (), Entries.set name (Entries.set file content files) ws)

/-- **Removes a workspace**, if it is there. -/
def remove (ws : Workspaces) (name : String) : Workspaces :=
  Entries.erase name ws

/-! ## Laws -/

/-- A new workspace is empty. -/
theorem files?_create_self {ws ws' : Workspaces} {id : String}
    (h : ws.create id = (.ok (), ws')) : ws'.files? id = some [] := by
  simp only [create, workspaceName] at h
  split at h
  · simp at h
  · rename_i name hn
    split at hn <;> simp at hn
    subst hn
    split at h <;> simp at h
    simp [← h, files?]

/-- A workspace that is there is not made again. -/
theorem create_of_files? {ws : Workspaces} {id : String} {files : Files}
    (h : ws.files? id = some files) : (ws.create id).2 = ws := by
  simp only [create, workspaceName]
  split
  · rfl
  · rename_i name hn
    split at hn <;> simp at hn
    subst hn
    simp [h]

/-- A removed workspace is gone. -/
theorem files?_remove_self (ws : Workspaces) (name : String) :
    (ws.remove name).files? name = none :=
  Entries.get?_erase_self name ws

/-- Removing one workspace leaves the others. -/
theorem files?_remove_of_ne {name other : String} (h : other ≠ name) (ws : Workspaces) :
    (ws.remove name).files? other = ws.files? other :=
  Entries.get?_erase_of_ne h ws

end Workspaces

end Groundplan.Deploy
