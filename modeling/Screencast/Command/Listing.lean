/-
Listing the frames of a session as they arrive.

Frames are printed one by one until there are as many as were asked for, until
the stream ends or until the session fails. Having listed enough, the command
lets go of the session without looking at what comes next. A table of what was
listed is printed however the listing ends.
-/
import Screencast.Command.Outcome
import Screencast.Report

namespace Screencast.Command.Listing

/-- Why a listing ends. -/
inductive Ending
  /-- As many frames as were asked for have been listed. -/
  | enough
  /-- The stream has ended. -/
  | over
  /-- The session has failed. -/
  | failed (failure : Failure)
  deriving DecidableEq, Repr

/-- What a listing has come to. -/
structure Listed where
  /-- What was printed while frames arrived. -/
  text : List UInt8 := []
  /-- The frames that were listed. -/
  listed : Nat
  printer : Report.Printer
  ending : Ending
  session : Session

/-- Prints the frames of a session as they arrive, up to `count` if a count is given, after `listed`
others. The session is cancelled when as many have been listed as the user waits for, if the user
does not wait for all of them. -/
def list (count patience : Option Nat) (session : Session) (printer : Report.Printer)
    (listed : Nat) : Listed :=
  -- A frame that is not to be listed is not read either.
  if count.any (· ≤ listed) then { listed, printer, ending := .enough, session }
  else
    match _h : session.next with
    | (.ok (some frame), session') =>
      let (shown, printer) := printer.print frame
      let session'' := if patience = some (listed + 1) then session'.cancel else session'
      let more := list count patience session'' printer (listed + 1)
      { more with text := shown ++ more.text }
    | (.ok none, session') => { listed, printer, ending := .over, session := session' }
    | (.error failure, session') =>
      { listed, printer, ending := .failed failure, session := session' }
termination_by session.weight
decreasing_by
  have h := Session.weight_next_lt _h
  split
  · rwa [Session.weight_cancel]
  · exact h

/-- How the program ends after a listing. A failure of a session that was cancelled is the
interruption that the user asked for. -/
def conclude (listing : Listed) : Except Complaint Exit × Session :=
  match listing.ending with
  | .enough => (.ok .success, listing.session.close)
  | .over => (.ok .success, listing.session)
  | .failed failure =>
    if listing.session.isCancelled then
      (.ok .interrupted, listing.session.note (.dumpInterrupted listing.listed))
    else (.error (Complaint.ofFailure "stream failed" failure), listing.session)

/-- Lists the frames of a session. -/
def run (format : Report.Format) (count : Option Nat) (surroundings : Surroundings)
    (session : Session) : Outcome :=
  .afterHandshake session surroundings fun _ session =>
    let listing := list count surroundings.patience session (.new format) 0
    let (result, session) := conclude listing
    { printed := listing.text ++ listing.printer.finish, result, session }

end Screencast.Command.Listing
