/-
What the dump command prints, and how it ends.

The listing stops at the count, or where the session ends, whichever comes
first, and prints each frame before it asks for the next one. What it comes to in
each case is said in terms of the frames that the session gives (`list_enough`,
`list_short`): the printer has printed just these. So what `Report.Prints` says of
a list of frames holds of them, and of the table that is printed at the end
(`perform_dump`).
-/
import Mathlib.Control.Monad.Basic
import Screencast.Command.Perform
import Screencast.Proofs.Exit
import Screencast.Proofs.Report
import Screencast.Proofs.Session.Gives

namespace Screencast

namespace Command

open Feed Session

/-! ## What is listed -/

namespace Listing

/-- The end of a listing that comes with the end of the session. -/
def Ending.ofSession : Except Failure Unit → Ending
  | .ok () => .over
  | .error failure => .failed failure

/-- The frames that are listed of those that the session gives. -/
def shown (count : Option Nat) (frames : List Frame) : List Frame :=
  match count with
  | none => frames
  | some asked => frames.take asked

/-- A listing that has gone on by some frames, and has printed them. -/
def after (printer : Report.Printer) (listed : Nat) (frames : List Frame) (ending : Ending)
    (last : Session) : Listed where
  text := (printer.printAll frames).1
  listed := listed + frames.length
  printer := (printer.printAll frames).2
  ending
  session := last

theorem list_stop {count : Option Nat} {listed : Nat} (h : count.any (· ≤ listed) = true)
    (patience : Option Nat) (session : Session) (printer : Report.Printer) :
    list count patience session printer listed = after printer listed [] .enough session := by
  rw [list, if_pos h]
  rfl

/-- A frame is printed, and those that follow it are printed behind it. -/
theorem list_frame {count : Option Nat} {listed : Nat} (hcount : count.any (· ≤ listed) = false)
    {session between last : Session} {frame : Frame} {rest : List Frame} {ending : Ending}
    (hnext : session.next = (.ok (some frame), between)) {printer : Report.Printer}
    (hmore : list count none between (printer.print frame).2 (listed + 1) =
      after (printer.print frame).2 (listed + 1) rest ending last) :
    list count none session printer listed =
      after printer listed (frame :: rest) ending last := by
  rw [list, if_neg (by rw [hcount]; exact Bool.false_ne_true)]
  split
  · next heq =>
    rw [hnext] at heq
    cases heq
    have hstays : (none : Option Nat) ≠ some (listed + 1) := by simp
    dsimp only
    rw [if_neg hstays, hmore]
    simp only [after, Report.Printer.printAll, List.length_cons]
    rw [Nat.add_assoc, Nat.add_comm 1]
  · next heq => rw [hnext] at heq; cases heq
  · next heq => rw [hnext] at heq; cases heq

theorem list_end {count : Option Nat} {listed : Nat} (hcount : count.any (· ≤ listed) = false)
    {session last : Session} {ending : Except Failure Unit}
    (h : session.next = (endAnswer ending, last)) (printer : Report.Printer) :
    list count none session printer listed =
      after printer listed [] (.ofSession ending) last := by
  rw [list, if_neg (by rw [hcount]; exact Bool.false_ne_true)]
  split
  · next heq => rw [h] at heq; cases ending <;> cases heq
  · next heq =>
    rw [h] at heq
    cases ending with
    | error => cases heq
    | ok => cases heq; rfl
  · next heq =>
    rw [h] at heq
    cases ending with
    | error => cases heq; rfl
    | ok => cases heq

/-- As many frames as are asked for are listed, and the next one is not looked at. -/
theorem list_enough {session last : Session} {frames : List Frame}
    (h : session.Gives frames last) (printer : Report.Printer) (listed : Nat) :
    list (some (listed + frames.length)) none session printer listed =
      after printer listed frames .enough last := by
  induction h generalizing printer listed with
  | nil session => exact list_stop (by simp) none session printer
  | @cons session between last frame frames hnext _ ih =>
    have hmore := ih (printer.print frame).2 (listed + 1)
    rw [Nat.add_assoc, Nat.add_comm 1, ← List.length_cons] at hmore
    exact list_frame (by simp) hnext hmore

theorem goes_on {count : Option Nat} {listed : Nat}
    (h : ∀ asked, count = some asked → listed < asked) : count.any (· ≤ listed) = false := by
  cases count with
  | none => rfl
  | some asked => simpa using h asked rfl

/-- Of fewer frames than are asked for all are listed, and then the end of the session is met. -/
theorem list_short {session last : Session} {frames : List Frame} (h : session.Gives frames last)
    {ending : Except Failure Unit} (hending : last.next.1 = endAnswer ending)
    {count : Option Nat} (printer : Report.Printer) {listed : Nat}
    (hcount : ∀ asked, count = some asked → listed + frames.length < asked) :
    list count none session printer listed =
      after printer listed frames (.ofSession ending) last.next.2 := by
  have hgoes : count.any (· ≤ listed) = false :=
    goes_on fun asked hasked => Nat.lt_of_le_of_lt (Nat.le_add_right ..) (hcount asked hasked)
  induction h generalizing printer listed with
  | nil session => exact list_end hgoes (Prod.ext hending rfl) printer
  | @cons session between last frame frames hnext _ ih =>
    have hless : ∀ asked, count = some asked → listed + 1 + frames.length < asked := by
      intro asked hasked
      have hlt := hcount asked hasked
      rw [List.length_cons] at hlt
      omega
    refine list_frame hgoes hnext (ih hending _ hless (goes_on fun asked hasked => ?_))
    exact Nat.lt_of_le_of_lt (Nat.le_add_right ..) (hless asked hasked)

end Listing

/-! ## The session that is listed -/

/-- A session that a command connects to is at its beginning, and nothing has been read. -/
theorem Target.connect_eq_ok {target : Target} {surroundings : Surroundings} {session : Session}
    (h : target.connect surroundings = .ok session) {feed : Feed}
    (hchannel : surroundings.channel = .ok feed) (hcalm : surroundings.interruption = none) :
    session.phase = .connected ∧ Sequel feed session.feed := by
  unfold Target.connect at h
  simp only [bind, Except.bind, pure, Except.pure, hcalm, Session.connect, hchannel] at h
  split at h
  · cases h
  · next setup _ =>
    cases h
    refine ⟨rfl, ?_⟩
    have hnotes := (Sequel.note feed target.endpoint.reached).trans
      (.note _ (.linked target.endpoint.text))
    exact hnotes.trans (start_sequel _ setup.handshake setup.limit)

/-- What is known of a listing of the frames of a session that gives `frames` and then ends: what
is performed, and what the session comes to. -/
structure Lists (format : Report.Format) (count : Option Nat) (opened : Session)
    (frames : List Frame) (ending : Except Failure Unit) (performance : Performance)
    (last : Session) : Prop where
  /-- As many frames as are asked for are printed, or all of them if there are fewer. -/
  printed : Report.Prints format (Listing.shown count frames) performance.printed
  /-- With enough frames the program ends well, whatever the device has yet to send. -/
  enough : ∀ asked, count = some asked → asked ≤ frames.length →
    performance.result = .ok .success ∧ performance.code = 0 ∧ last.phase = .closed ∧
      last.feed.history.closes = opened.feed.history.closes + 1 ∧
      Took opened.feed last.feed ((frames.take asked).flatMap Frame.encode)
  /-- With fewer frames it ends as the session does. -/
  clean : (∀ asked, count = some asked → frames.length < asked) → ending = .ok () →
    performance.result = .ok .success ∧ performance.code = 0
  failed : (∀ asked, count = some asked → frames.length < asked) →
    ∀ failure, ending = .error failure →
      performance.result = .error (Complaint.ofFailure "stream failed" failure) ∧
        performance.code = (Complaint.ofFailure "stream failed" failure).exit.code ∧
        performance.code ≠ 0

namespace Listing

section

variable {surroundings : Surroundings} {session opened : Session} {told : Announcement}
  {frames : List Frame} {last : Session}

/-- A listing over a session whose handshake is made is what is printed of some frames, and the
conclusion. -/
theorem run_of_list (huser : surroundings.interruption = none)
    (hmade : session.handshake = (.ok told, opened)) (format : Report.Format)
    {count : Option Nat} {ending : Ending}
    (hlist : list count none opened (.new format) 0 = after (.new format) 0 frames ending last) :
    run format count surroundings session =
      { printed := Report.frames format frames
        result := (conclude (after (.new format) 0 frames ending last)).1
        session := (conclude (after (.new format) 0 frames ending last)).2 } := by
  have hstays : surroundings.stopsAfter 0 = false := by
    rw [Surroundings.stopsAfter, huser]
    rfl
  have hpatience : surroundings.patience = none := by rw [Surroundings.patience, huser]
  unfold run Outcome.afterHandshake
  rw [hmade, hpatience]
  dsimp only
  rw [hstays, if_neg Bool.false_ne_true, hlist]
  rfl

theorem run_enough (huser : surroundings.interruption = none)
    (hmade : session.handshake = (.ok told, opened)) (format : Report.Format)
    (h : opened.Gives frames last) :
    run format (some frames.length) surroundings session =
      { printed := Report.frames format frames, result := .ok .success, session := last.close } := by
  have hlist := list_enough h (.new format) 0
  rw [Nat.zero_add] at hlist
  exact run_of_list huser hmade format hlist

/-- How the program ends when the session does, if nobody has cancelled it. -/
def endResult : Except Failure Unit → Except Complaint Exit
  | .ok () => .ok .success
  | .error failure => .error (Complaint.ofFailure "stream failed" failure)

theorem run_short (huser : surroundings.interruption = none)
    (hmade : session.handshake = (.ok told, opened)) (format : Report.Format)
    (h : opened.Gives frames last) {ending : Except Failure Unit}
    (hending : last.next.1 = endAnswer ending) (hquiet : last.next.2.isCancelled = false)
    {count : Option Nat} (hcount : ∀ asked, count = some asked → frames.length < asked) :
    run format count surroundings session =
      { printed := Report.frames format frames, result := endResult ending,
        session := last.next.2 } := by
  have hless : ∀ asked, count = some asked → 0 + frames.length < asked := by
    intro asked hasked
    rw [Nat.zero_add]
    exact hcount asked hasked
  rw [run_of_list huser hmade format (list_short h hending (.new format) hless)]
  cases ending with
  | ok => rfl
  | error failure =>
    unfold conclude Ending.ofSession after
    dsimp only
    rw [hquiet, if_neg Bool.false_ne_true]
    rfl

/-- A session that is let go of behind some frames has taken these and is closed. -/
theorem close_after (hopen : opened.Open .streaming) (h : opened.Gives frames last) :
    last.close.phase = .closed ∧
      last.close.feed.history.closes = opened.feed.history.closes + 1 ∧
      Took opened.feed last.close.feed (frames.flatMap Frame.encode) := by
  have hstreams := h.streams hopen
  have hended := release_ended hstreams.streaming.reader .closed
  rw [close_of_open (by rw [hstreams.streaming.phase_eq]; rfl)]
  refine ⟨hended.phase_eq, ?_, ?_, ?_⟩
  · rw [hended.closes, hstreams.sequel.closes]
  · rw [hended.signals, hstreams.took.signals]
  · rw [(release_idle last .closed).consumed, hstreams.took.consumed]

end

end Listing

/-- A command that is connected performs what it does over the session. -/
theorem Target.use_of_connect {target : Target} {surroundings : Surroundings} {session : Session}
    (h : target.connect surroundings = .ok session) (work : Session → Outcome) :
    (target.use surroundings work).printed = (work session).printed ∧
      (target.use surroundings work).result = (work session).result := by
  rw [Target.use, h]
  exact ⟨rfl, rfl⟩

theorem Performance.code_of_success {performance : Performance}
    (h : performance.result = .ok .success) : performance.code = 0 := by
  rw [code, h]
  rfl

/-- A failure of a session never passes for a success. -/
theorem Performance.code_of_failure {performance : Performance} {doing : String}
    {failure : Failure} (h : performance.result = .error (Complaint.ofFailure doing failure)) :
    performance.code = (Complaint.ofFailure doing failure).exit.code ∧ performance.code ≠ 0 := by
  have hcode : performance.code = (Complaint.ofFailure doing failure).exit.code := by
    rw [code, h]
  refine ⟨hcode, fun hzero => ?_⟩
  rw [hcode] at hzero
  exact Complaint.exit_ofFailure_ne_success doing failure (Exit.code_inj.mp hzero)

namespace Lists

variable {format : Report.Format} {opened last : Session} {frames : List Frame}
  {ending : Except Failure Unit} {performance : Performance}

/-- A listing that stops at the count, behind the last frame that was asked for. -/
theorem of_enough {asked : Nat} (hopen : opened.Open .streaming)
    (hgives : opened.Gives (frames.take asked) last) (hle : asked ≤ frames.length)
    (hprinted : performance.printed = Report.frames format (frames.take asked))
    (hresult : performance.result = .ok .success) :
    Lists format (some asked) opened frames ending performance last.close := by
  refine ⟨?_, ?_, ?_, ?_⟩
  · rw [hprinted]
    exact Report.prints_frames format (frames.take asked)
  · rintro _ ⟨⟩ -
    exact ⟨hresult, Performance.code_of_success hresult, Listing.close_after hopen hgives⟩
  · exact fun hfewer => absurd (hfewer asked rfl) (Nat.not_lt.mpr hle)
  · exact fun hfewer => absurd (hfewer asked rfl) (Nat.not_lt.mpr hle)

/-- A listing that stops where the session ends. -/
theorem of_short {count : Option Nat}
    (hfewer : ∀ asked, count = some asked → frames.length < asked)
    (hprinted : performance.printed = Report.frames format frames)
    (hresult : performance.result = Listing.endResult ending) :
    Lists format count opened frames ending performance last := by
  have hshown : Listing.shown count frames = frames := by
    cases count with
    | none => rfl
    | some asked => exact List.take_of_length_le (Nat.le_of_lt (hfewer asked rfl))
  refine ⟨?_, ?_, ?_, ?_⟩
  · rw [hprinted, hshown]
    exact Report.prints_frames format frames
  · exact fun asked hasked hle => absurd (hfewer asked hasked) (Nat.not_lt.mpr hle)
  · rintro - rfl
    exact ⟨hresult, Performance.code_of_success hresult⟩
  · rintro - failure rfl
    exact ⟨hresult, Performance.code_of_failure hresult⟩

end Lists

/-- A handshake that succeeds over a calm channel leaves it calm, and the session streaming. -/
theorem calm_of_handshake {session opened : Session} {told : Announcement}
    (hconnected : session.phase = .connected) (hcalm : session.feed.Calm)
    (hmade : session.handshake = (.ok told, opened)) :
    opened.Open .streaming ∧ opened.feed.Calm := by
  rw [handshake_of_connected hconnected] at hmade
  obtain ⟨-, hreader, outcome, feed', hperform, -, rfl⟩ := openStream_eq_ok hmade
  have hmoved := Handshake.perform_sequel session.settings session.feed
  rw [hperform] at hmoved
  exact ⟨⟨rfl, hreader⟩, hmoved.calm hcalm⟩

/-- **What the dump command does**, over every device stream whose handshake succeeds and which
nobody cancels, and whatever is asked for. The session would give some frames and then end; of
these frames the first ones are printed, as many as are asked for. If there are enough of them the
program ends well, and the session is closed with nothing read behind the last one that is
printed. Otherwise all of them are printed, and the program ends as the session does. -/
theorem perform_dump {target : Target} {surroundings : Surroundings} {session opened : Session}
    {feed : Feed} {told : Announcement} (hchannel : surroundings.channel = .ok feed)
    (hcalm : feed.Calm) (huser : surroundings.interruption = none)
    (hconnect : target.connect surroundings = .ok session)
    (hmade : session.handshake = (.ok told, opened)) (format : Report.Format) (build : Build)
    (count : Option Nat) :
    ∃ frames last ending, opened.Gives frames last ∧ last.next.1 = endAnswer ending ∧
      Lists format count opened frames ending
        (perform format build surroundings (.dump target count))
        (Listing.run format count surroundings session).session := by
  obtain ⟨frames, last, ending, hgives, hending⟩ := exists_gives opened
  refine ⟨frames, last, ending, hgives, hending, ?_⟩
  obtain ⟨hconnected, hsequel⟩ := Target.connect_eq_ok hconnect hchannel huser
  -- Nobody cancels the session before it is streaming, nor while it gives frames.
  obtain ⟨hstreaming, hstays⟩ := calm_of_handshake hconnected (hsequel.calm hcalm) hmade
  obtain ⟨hprinted, hresult⟩ :=
    Target.use_of_connect hconnect (Listing.run format count surroundings)
  rw [perform]
  by_cases hcount : ∃ asked, count = some asked ∧ asked ≤ frames.length
  · obtain ⟨asked, rfl, hle⟩ := hcount
    have hlength : (frames.take asked).length = asked := by
      rw [List.length_take]
      exact Nat.min_eq_left hle
    rw [← List.take_append_drop asked frames] at hgives
    obtain ⟨between, hfirst, -⟩ := hgives.split
    have hrun := Listing.run_enough huser hmade format hfirst
    rw [hlength] at hrun
    rw [hrun] at hprinted hresult ⊢
    exact .of_enough hstreaming hfirst hle hprinted hresult
  · have hfewer : ∀ asked, count = some asked → frames.length < asked :=
      fun asked hasked => Nat.not_le.mp fun hle => hcount ⟨asked, hasked, hle⟩
    have hstreams := hgives.streams hstreaming
    have hquiet := isCancelled_next hstreams.streaming (hstreams.sequel.calm hstays)
    rw [Listing.run_short huser hmade format hgives hending hquiet hfewer] at hprinted hresult
    exact .of_short hfewer hprinted hresult

/-- A stream that is cut inside its third frame: the two before are printed, and the program fails. -/
theorem perform_dump_cut :
    let told : Announcement := ⟨"Pixel 7", ⟨.h264, 1280, 720⟩⟩
    let sent (payload : List UInt8) : Frame :=
      ⟨⟨false, true, 7, UInt32.ofNat payload.length⟩, payload⟩
    let feed : Feed := {
      script := [.data (told.encode ++ (sent [0xAB]).encode), .fault (.ofKind .interrupted),
        .data ((sent [0xCD, 0xEF]).encode ++ [0, 0, 0])]
      perRead := some ⟨50, by decide⟩ }
    let target : Target := {
      endpoint := .unix "screen", noProbeByte := true, maxPayload := some 2 }
    let surroundings : Surroundings :=
      { channel := .ok feed, start := fun _ => .error (.ofKind .notFound) }
    let session := start ((feed.note target.endpoint.reached).note (.linked target.endpoint.text))
      { expectProbe := false } 2
    let performance := perform .pretty {} surroundings (.dump target none)
    feed.Calm ∧ target.connect surroundings = .ok session ∧ session.handshake.1 = .ok told ∧
      performance.code = 60 ∧ performance.printed = Report.utf8
        ["frame=0 pts=7 flags=key size=1", "frame=1 pts=7 flags=key size=2"] ∧
      ∃ frames last ending, session.handshake.2.Gives frames last ∧
        last.next.1 = endAnswer ending ∧
        Lists .pretty none session.handshake.2 frames ending performance
          (Listing.run .pretty none surroundings session).session := by
  intro told sent feed target surroundings session performance
  have hcalm : feed.Calm := ⟨rfl, by decide +kernel⟩
  have hconnect : target.connect surroundings = .ok session := by decide +kernel
  have hmade : session.handshake.1 = .ok told := by decide +kernel
  exact ⟨hcalm, hconnect, hmade, by decide +kernel, by decide +kernel,
    perform_dump rfl hcalm rfl hconnect (Prod.ext hmade rfl) .pretty {} none⟩

end Command

end Screencast
