import Conform.Files.Workspace

namespace Conform.Files

class Host (m : Type → Type) where
  contains : String → m Bool
  isFile : String → m Bool
  read? : String → m (Option String)
  -- whether the file could be written
  write : String → String → m Bool
  input? : m (Option String)
  -- whether the text could be printed
  print : String → m Bool
  -- prints to the place for faults and warnings
  warn : String → m Unit

structure Session where
  workspace : Workspace
  input : String
  printed : String
  warned : String

-- Files can be read, and both places can be printed to.
instance : Host (StateM Session) where
  contains path := do return (← get).workspace.contains path
  isFile path := do return (← get).workspace.isFile path
  read? path := do return (← get).workspace.read? path
  write path text := fun session =>
    let (written, workspace) := session.workspace.write path text
    (written, { session with workspace })
  input? := fun session => (some session.input, { session with input := "" })
  print text := fun session => (true, { session with printed := session.printed ++ text })
  warn text := modify fun session => { session with warned := session.warned ++ text }

end Conform.Files
