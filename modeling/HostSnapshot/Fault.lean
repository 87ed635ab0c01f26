import HostSnapshot.FileSystem
import HostSnapshot.Json.Field
import HostSnapshot.Snapshot.Basic
import HostSnapshot.Text.Utf8

namespace HostSnapshot

inductive QueryProblem
  | compile
  | run (reason : String)
deriving DecidableEq, Repr

inductive Fault
  | file (failure : FileFailure)
  | nullInPath
  | undecodable (place : Text.Utf8.Undecodable)
  | missingKey (key : String)
  | malformedInteger (cause : Text.Integer.Malformed)
  | unknownRole (text : String)
  | outside (failure : Failure)
  | invalid (issues : List Issue)
  | query (expression : String) (problem : QueryProblem)
  /-- The devices cannot be listed; what was learnt before is kept. -/
  | enumeration (cause : Failure) (learnt : Option Snapshot)

def undecodableMessage (u : Text.Utf8.Undecodable) : String :=
  let place :=
    if u.width = 1 then
      "byte 0x" ++ String.ofList (Text.hex 2 u.byte.toNat) ++ s!" in position {u.position}"
    else s!"bytes in position {u.position}-{u.position + u.width - 1}"
  s!"'utf-8' codec can't decode {place}: {u.reason.message}"

def queryMessage (expression reason : String) : String :=
  "query " ++ quoted expression ++ ": " ++ reason

namespace Fault

def message : Fault → String
  | file f => f.message
  | nullInPath => "embedded null byte"
  | undecodable u => undecodableMessage u
  | missingKey key => quoted key
  | malformedInteger m => m.message
  | unknownRole text => quoted text ++ " is not a valid Role"
  | outside f => f.message
  | invalid _ => ""
  | query expression .compile => queryMessage expression "<jq compile error>"
  | query expression (.run reason) => queryMessage expression reason
  | enumeration cause _ => "cannot enumerate block devices: " ++ cause.message

/-- Whether a fault is a failure of the system, such as a file that cannot be read. -/
def isSystem : Fault → Bool
  | file _ => true
  | outside f => f.isSystem
  | _ => false

/-- Whether a fault tells that a key is missing, or the file that it was looked up in. -/
def isAbsence : Fault → Bool
  | missingKey _ => true
  | e => e.isSystem

end Fault

end HostSnapshot
