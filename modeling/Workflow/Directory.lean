import Workflow.Error
import Workflow.Text.Basic

set_option autoImplicit false

namespace Workflow

structure User where
  id : String
  name : String
  organization : Option String := none
deriving DecidableEq

structure Directory where
  answer : String → Except DirectoryFault (Option User)

namespace Directory

def find? (users : List User) (id : String) : Option User := users.reverse.find? (·.id = id)

def size (users : List User) : Nat := (users.map User.id).eraseDups.length

def namesake? (id : String) : Option User :=
  let id := Text.trim id
  if id = "" then none else some { id, name := id }

def listed (users : List User) : Directory where
  answer id := .ok (find? users id)

def passthrough : Directory where
  answer id := .ok (namesake? id)

def failing (fault : DirectoryFault) : Directory where
  answer _ := .error fault

def resolve (directory : Directory) (id : String) : Except Error (Option User) :=
  (directory.answer id).mapError .directory

end Directory

end Workflow
