/-
This file describes servers by scripts. A script is a list of responses; a statement gets the first
response whose pattern occurs in it and that is not used up, and an empty result where there is
none.
-/

import DumpRestore.Server.Basic

namespace DumpRestore

/-- A response of a script: the pattern of its statements, how often it may still be used where
that is bounded, and what it gives. -/
structure ScriptedResponse where
  pattern : Text
  uses : Option Nat
  reply : Except Failure ResultSet

namespace Script

/-- The reply to a statement, and the responses with one use less where one was used. -/
def play (sql : Text) : List ScriptedResponse → Except Failure ResultSet × List ScriptedResponse
  | [] => (.ok {}, [])
  | response :: rest =>
    if response.uses != some 0 && Text.occurs response.pattern sql then
      (response.reply, { response with uses := response.uses.map (· - 1) } :: rest)
    else
      let (reply, rest) := play sql rest
      (reply, response :: rest)

/-- The responses that are left after earlier requests, the latest of which comes first. -/
def remaining (responses : List ScriptedResponse) (earlier : List Request) :
    List ScriptedResponse :=
  earlier.foldr (fun request responses => match request with
    | .openCursor => responses
    | .execute statement => (play statement.sql responses).2) responses

/-- The answer of a script. Opening a cursor fails where the script says so, each time. -/
def respond (cursorFailure : Option Failure) (responses : List ScriptedResponse)
    (earlier : List Request) : Request → Except Failure ResultSet
  | .openCursor => match cursorFailure with
    | some failure => .error failure
    | none => .ok {}
  | .execute statement => (play statement.sql (remaining responses earlier)).1

end Script

end DumpRestore
