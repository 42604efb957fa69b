import Enforcement.Template.Basic
import Enforcement.Tool.Job

/-! Templates, parameter values and specification files from disk. -/

namespace Enforcement

open Enforcement.Json

def loadJson (path : String) : Job Value := do
  readJson path (← Job.readText path)

def Template.load (path : String) : Job Template := do
  Template.ofValue (← loadJson path)

def Supplied.load (path : String) : Job Supplied := do
  Supplied.ofDocument (← loadJson path)

def loadSpecFile (path : String) : Job Value := do
  let document ← loadJson path
  if !document.isObject then Job.fail (.input (.specFileNotObject path))
  return document

end Enforcement
