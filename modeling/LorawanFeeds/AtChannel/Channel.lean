import Mathlib.Data.List.TakeWhile
import LorawanFeeds.Lib.Run

/-!
# The AT channel

`atchannel.c` sends a command to the modem and collects the lines of its response. The lines are
handled by a reader thread; the thread that has sent the command waits for the final line of
the response on a condition variable. Both take the same mutex, so that what one of them does
with it held is one step.
-/
namespace LorawanFeeds.AtChannel

/-- A line without its end. -/
abbrev Line := List Char

inductive CommandType where
  | noResult
  | numeric
  | singleline
  | multiline
  deriving DecidableEq, Repr

/-- `ATResponse`. -/
structure Response where
  success : Bool := false
  finalResponse : Option Line := none
  intermediates : List Line := []
  deriving DecidableEq, Repr

/-- `strStartsWith`. -/
def strStartsWith (line pre : Line) : Bool := pre.isPrefixOf line

def finalResponsesError : List Line :=
  ["ERROR", "+CMS ERROR:", "+CME ERROR:", "NO CARRIER", "NO ANSWER", "NO DIALTONE",
    "COMMAND NOT SUPPORT"].map String.toList

def finalResponsesSuccess : List Line :=
  ["OK", "+QIND: \"FOTA\",\"END\",0", "CONNECT"].map String.toList

def isFinalResponseError (line : Line) : Bool := finalResponsesError.any (strStartsWith line)

def isFinalResponseSuccess (line : Line) : Bool := finalResponsesSuccess.any (strStartsWith line)

/-- The static variables, with what has been passed to the handler of unsolicited lines and what
has been written to the modem. -/
structure Channel where
  atcProxy : Bool := false
  type : CommandType := .noResult
  responsePrefix : Line := []
  smsPDU : Option Line := none
  rawData : Option Line := none
  response : Option Response := none
  readerClosed : Bool := false
  unsolicited : List Line := []
  written : List Line := []
  deriving DecidableEq, Repr

namespace Channel

def handleUnsolicited (c : Channel) (line : Line) : Channel :=
  { c with unsolicited := c.unsolicited ++ [line] }

/-- `addIntermediate`, at the head of the list. -/
def addIntermediate (c : Channel) (r : Response) (line : Line) : Channel :=
  { c with response := some { r with intermediates := line :: r.intermediates } }

/-- `handleFinalResponse`, behind the assignment of `success`. The waiting thread is only signalled:
the response stays where it is until this thread has run. -/
def handleFinalResponse (c : Channel) (r : Response) (success : Bool) (line : Line) : Channel :=
  let c := if c.atcProxy then c.handleUnsolicited line else c
  { c with response := some { r with success := success, finalResponse := some line } }

/-- Whether a line is one of the command's by its type and prefix. -/
def matchesCommand (type : CommandType) (responsePrefix line : Line) : Bool :=
  match type with
  | .noResult => false
  | .numeric => line.head?.any Char.isDigit
  | .singleline | .multiline => strStartsWith line responsePrefix

/-- The `switch` of `processLine`. All types but one take a single line. -/
def intermediateLine (c : Channel) (r : Response) (line : Line) : Channel :=
  match c.type with
  | .noResult => c.handleUnsolicited line
  | .numeric | .singleline =>
    if r.intermediates = [] ∧ matchesCommand c.type c.responsePrefix line then
      c.addIntermediate r line
    else c.handleUnsolicited line
  | .multiline =>
    if matchesCommand c.type c.responsePrefix line then c.addIntermediate r line
    else c.handleUnsolicited line

def smsPrompt : Line := "> ".toList
def rawPrompt : Line := "CONNECT".toList

/-- `processLine`. -/
def processLine (c : Channel) (line : Line) : Channel :=
  match c.response with
  | none => c.handleUnsolicited line
  | some r =>
    if c.rawData.isSome ∧ line = rawPrompt then
      { c with written := c.written ++ c.rawData.toList, rawData := none }
    else if isFinalResponseSuccess line then c.handleFinalResponse r true line
    else if isFinalResponseError line then c.handleFinalResponse r false line
    else if c.smsPDU.isSome ∧ line = smsPrompt then
      { c with written := c.written ++ c.smsPDU.toList, smsPDU := none }
    else c.intermediateLine r line

/-- `clearPendingCommand`. -/
def clearPendingCommand (c : Channel) : Channel :=
  { c with response := none, responsePrefix := [], smsPDU := none }

/-- The part of `at_send_command_full_nolock` before the wait, for a command that can be written. -/
def beginCommand (c : Channel) (command : Line) (type : CommandType) (responsePrefix : Line)
    (smsPDU : Option Line) : Channel :=
  { c with
    written := c.written ++ [command]
    type := type
    responsePrefix := responsePrefix
    smsPDU := smsPDU
    response := some {} }

/-- `reverseIntermediates`. -/
def reverseIntermediates (r : Response) : Response :=
  { r with intermediates := r.intermediates.reverse }

end Channel

/-- What `at_send_command_full_nolock` returns. -/
inductive Outcome where
  /-- Zero, with the response if the caller has asked for it. -/
  | ok (response : Option Response)
  | timeout
  | channelClosed
  deriving DecidableEq, Repr

end LorawanFeeds.AtChannel
