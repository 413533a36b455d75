import Postroom.Mailet
import Postroom.Text.Blank

/-!
Mailets for routing and rewriting: drop a mail, hand it to another chain, set or remove an
attribute, add a header, log.
-/

namespace Postroom.Mailet

/-- Drops the mail. -/
def null : Mailet :=
  rewriting "Null" fun now mail => mail.setState now StateName.ghost

/-- Hands the mail to another chain, with a notice as its error message. -/
def toProcessor (processor : String) (notice : Option String) : Mailet where
  name := "ToProcessor"
  target := some processor
  service mail pass :=
    let noted := match notice with
      | some notice => mail.setError pass.now notice
      | none => mail
    ⟨noted.setState pass.now processor, pass, .done⟩

def toProcessorOf (params : Params) : Except ConfigError Mailet := do
  return toProcessor (← params.require "processor") (params.get? "notice")

def setAttribute (name value : String) : Mailet :=
  rewriting "SetAttribute" fun now mail => mail.setAttribute now name (.text value)

def setAttributeOf (params : Params) : Except ConfigError Mailet := do
  return setAttribute (← params.require "name") (← params.require "value")

def removeAttribute (name : String) : Mailet :=
  rewriting "RemoveAttribute" fun now mail => mail.removeAttribute now name

def removeAttributeOf (params : Params) : Except ConfigError Mailet := do
  return removeAttribute (← params.require "name")

/-- Puts a header in front of the message. -/
def addHeader (name value : String) : Mailet :=
  rewriting "AddHeader" fun now mail => mail.setContent now (mail.content.withHeader name value)

/-- A name that can stand before the colon of a header line. -/
def isHeaderName (name : String) : Bool :=
  !name.isEmpty && name.toList.all fun c => c ≠ ':' && !Text.isBlank c

def isSingleLine (value : String) : Bool :=
  value.toList.all fun c => c ≠ '\r' && c ≠ '\n'

/-- The mailet for a header, if its line would be a header line of its own. -/
def checkedHeader (name value : String) : Except ConfigError Mailet :=
  if !isHeaderName name then
    .error (.invalidParameter "AddHeader" "name" "not a valid header name")
  else if !isSingleLine value then
    .error (.invalidParameter "AddHeader" "value" "must be a single line")
  else .ok (addHeader name value)

def addHeaderOf (params : Params) : Except ConfigError Mailet := do
  checkedHeader (← params.require "name") (← params.require "value")

/-- Logs the mail as it passes through. -/
def logMessage (comment : Option String) : Mailet where
  name := "LogMessage"
  service mail pass :=
    let entry : LogEntry := {
      moment := pass.waited
      id := mail.id
      sender := mail.sender
      recipients := mail.recipients
      state := mail.state
      size := mail.size
      message := comment.getD "Mail passing through" }
    ⟨mail, pass.logged entry, .done⟩

def logMessageOf (params : Params) : Mailet :=
  logMessage (params.get? "comment")

end Postroom.Mailet
