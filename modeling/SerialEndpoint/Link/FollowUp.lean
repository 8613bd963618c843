/-
Follow-ups: what a client does on the line right after its first message,
before anyone else may use it.

A follow-up is named by a word in any case; the text form is the word
alone, or the word, one space and the message.
-/
import SerialEndpoint.Fault
import SerialEndpoint.Text.Duration

namespace SerialEndpoint

-- ============================================================== faults

/-- Why an exchange over a link failed. -/
inductive LinkFault where
  /-- No follow-up has this name. -/
  | unknownFollowUp (name : String)
  /-- A follow-up that sends has nothing to send. -/
  | missingMessage
  | stream (fault : Fault)
  /-- Nothing was complete within the time. -/
  | timeout (limit : Duration)
  /-- The stream has ended. -/
  | closed
deriving DecidableEq

/-- The message of a fault. -/
def LinkFault.message : LinkFault → String
  | unknownFollowUp name => "invalid chain call '" ++ name ++ "', expected SEND or RECEIVE"
  | missingMessage => "chained SEND needs a message"
  | stream fault => "serial stream failed: " ++ fault.text
  | timeout limit => "no complete line within " ++ limit.text
  | closed => "serial stream closed by remote"

-- ========================================================== follow-ups

/-- What follows a message. -/
inductive FollowUp where
  | send (message : String)
  | receive
deriving DecidableEq

/-- A text with its ASCII letters in upper case. -/
def upperCase (text : String) : String := String.ofList (text.toList.map Char.toUpper)

/-- The follow-up of a name, with the message given beside it. -/
def FollowUp.named (name : String) (message : Option String) : Except LinkFault FollowUp :=
  if upperCase name = "SEND" then
    match message with
    | some message => .ok (.send message)
    | none => .error .missingMessage
  else if upperCase name = "RECEIVE" then .ok .receive
  else .error (.unknownFollowUp name)

/-- The text before the first space, and the text after it if there is a
space. -/
def splitAtSpace (text : String) : String × Option String :=
  let word := String.ofList (text.toList.takeWhile (· ≠ ' '))
  match text.toList.dropWhile (· ≠ ' ') with
  | [] => (word, none)
  | _ :: rest => (word, some (String.ofList rest))

/-- The follow-up of a text. -/
def FollowUp.ofText (text : String) : Except LinkFault FollowUp :=
  named (splitAtSpace text).1 (splitAtSpace text).2

end SerialEndpoint
