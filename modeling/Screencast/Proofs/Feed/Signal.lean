/-
What a script says to a reader that does not mind how it is cut.

A script hands out its bytes in pieces, with pauses, interruptions and requests
to cancel in between. A reader that asks again until it has what it wants
notices none of this: all that reaches it is a sequence of signals, which are
bytes, reads that find nothing and faults. `Served` says what one read can find
ahead of given signals and what it leaves, and `read_served` that every read of
a feed does so. `Sequel` collects what reading and reporting leave as it was;
its field `total` is the law of consumption: the bytes consumed and the bytes
still to come always add up to the same number. `Took` says which bytes an
operation has taken, and follows from that law (`Sequel.took`).
-/
import Screencast.Feed.Bound

namespace Screencast

namespace Feed

/-! ## Signals -/

/-- Something that a script says, however its bytes are cut. -/
inductive Signal
  | byte (value : UInt8)
  /-- A read finds nothing. -/
  | gap
  /-- A read fails, and it is no use to make it again at once. -/
  | fault (fault : Fault)
  deriving DecidableEq, Repr

/-- What an item says. -/
def Item.signals : Item → List Signal
  | .data bytes => bytes.map .byte
  | .gap => [.gap]
  | .fault cause => if cause.isInterrupted then [] else [.fault cause]
  | .pause _ | .cancel => []

/-- What a script says. -/
def signalsOf (script : List Item) : List Signal := script.flatMap Item.signals

/-- What a feed has still to say. -/
def signals (feed : Feed) : List Signal := signalsOf feed.script

@[simp] theorem signalsOf_nil : signalsOf [] = [] := rfl

@[simp] theorem signalsOf_cons (item : Item) (rest : List Item) :
    signalsOf (item :: rest) = item.signals ++ signalsOf rest := rfl

@[simp] theorem Item.signals_data (bytes : List UInt8) :
    (Item.data bytes).signals = bytes.map .byte := rfl

@[simp] theorem Item.signals_gap : Item.gap.signals = [.gap] := rfl

@[simp] theorem Item.signals_pause (millis : Nat) : (Item.pause millis).signals = [] := rfl

@[simp] theorem Item.signals_cancel : Item.cancel.signals = [] := rfl

/-- The bytes among signals. -/
def Signal.bytes (signals : List Signal) : List UInt8 :=
  signals.filterMap fun
    | .byte value => some value
    | .gap | .fault _ => none

@[simp] theorem Signal.bytes_append (first second : List Signal) :
    Signal.bytes (first ++ second) = Signal.bytes first ++ Signal.bytes second := by
  simp [Signal.bytes]

@[simp] theorem Signal.bytes_map_byte (bytes : List UInt8) :
    Signal.bytes (bytes.map .byte) = bytes := by
  induction bytes with
  | nil => rfl
  | cons first rest ih => exact congrArg (first :: ·) ih

/-! ## One read -/

/-- What a read with room for `room` bytes can find ahead of signals, and which it leaves. -/
inductive Signal.Served (room : Nat) : List Signal → Outcome → List Signal → Prop
  | bytes {bytes : List UInt8} {rest : List Signal} (hne : bytes ≠ [])
      (hle : bytes.length ≤ room) : Served room (bytes.map .byte ++ rest) (.bytes bytes) rest
  | gap {rest : List Signal} : Served room (.gap :: rest) .nothing rest
  | done : Served room [] .nothing []
  | fault {fault : Fault} {rest : List Signal} (hfault : fault.isInterrupted = false) :
      Served room (.fault fault :: rest) (.fault fault) rest
  /-- An interruption says nothing: the read is to be made again. -/
  | interrupted {fault : Fault} {rest : List Signal} (hfault : fault.isInterrupted = true) :
      Served room rest (.fault fault) rest

theorem Signal.Served.mono {room more : Nat} {before after : List Signal} {outcome : Outcome}
    (hle : room ≤ more) (h : Served room before outcome after) :
    Served more before outcome after := by
  cases h with
  | bytes hne hroom => exact .bytes hne (Nat.le_trans hroom hle)
  | gap => exact .gap
  | done => exact .done
  | fault hfault => exact .fault hfault
  | interrupted hfault => exact .interrupted hfault

theorem Signal.Served.bytes_eq {room : Nat} {before after : List Signal} {bytes : List UInt8}
    (h : Served room before (.bytes bytes) after) : before = bytes.map .byte ++ after := by
  cases h
  rfl

theorem Signal.Served.fault_eq {room : Nat} {before after : List Signal} {fault : Fault}
    (h : Served room before (.fault fault) after) (hfault : fault.isInterrupted = false) :
    before = .fault fault :: after := by
  cases h with
  | fault => rfl
  | interrupted h => rw [hfault] at h; cases h

/-- An interruption says nothing. -/
theorem Signal.Served.of_interrupted {room : Nat} {before after : List Signal} {fault : Fault}
    (h : Served room before (.fault fault) after) (hfault : fault.isInterrupted = true) :
    before = after := by
  cases h with
  | fault hdone => rw [hfault] at hdone; cases hdone
  | interrupted => rfl

/-- A script serves a read out of its signals. -/
theorem serve_served {room : Nat} (hroom : 0 < room) (script : List Item) :
    Signal.Served room (signalsOf script) (serve room script).1
      (signalsOf (serve room script).2.2) := by
  fun_induction serve room script with
  | case1 => exact .done
  | case2 rest ih => simpa using ih
  | case3 b more rest =>
    -- A piece is cut where the room ends, and what is left of it comes with the next read.
    have hcut : (Item.data (b :: more)).signals =
        ((b :: more).take room).map .byte ++ (Item.data ((b :: more).drop room)).signals := by
      rw [Item.signals_data, Item.signals_data, ← List.map_append, List.take_append_drop]
    rw [signalsOf_cons, signalsOf_cons, hcut, List.append_assoc]
    refine .bytes ?_ (List.length_take_le _ _)
    simp only [ne_eq, List.take_eq_nil_iff, reduceCtorEq, or_false]
    omega
  | case4 rest => exact .gap
  | case5 fault rest =>
    rw [signalsOf_cons]
    by_cases hfault : fault.isInterrupted
    · simpa [Item.signals, hfault] using Signal.Served.interrupted hfault
    · simp only [Bool.not_eq_true] at hfault
      simpa [Item.signals, hfault] using Signal.Served.fault hfault
  | case6 millis rest ih => simpa using ih
  -- A request to cancel is passed over: the read goes on behind it.
  | case7 rest outcome cancels left hserve ih =>
    rw [hserve] at ih
    simpa using ih

end Feed

/-! ## What is counted off a history -/

/-- The bytes that something took out of a channel. -/
def Happening.taken : Happening → Nat
  | .read (some got) => got
  | .read none | .wait _ _ | .closed | .note _ | .testimony _ _ => 0

/-- How often something closed a channel. -/
def Happening.closings : Happening → Nat
  | .closed => 1
  | .read _ | .wait _ _ | .note _ | .testimony _ _ => 0

@[simp] theorem History.consumed_add (history : History) (happening : Happening) :
    (history.add happening).consumed = history.consumed + happening.taken := by
  -- As a sum, what was consumed grows by what is added in front.
  have hsum (history : History) :
      history.consumed = (history.latestFirst.map Happening.taken).sum := by
    rw [List.sum_eq_foldl_nat, List.foldl_map, consumed]
    congr
    funext n happening
    cases happening with
    | read got => cases got <;> rfl
    | _ => rfl
  rw [hsum, hsum, add, List.map_cons, List.sum_cons, Nat.add_comm]

@[simp] theorem History.closes_add (history : History) (happening : Happening) :
    (history.add happening).closes = history.closes + happening.closings := by
  rw [closes, closes, add, List.countP_cons]
  cases happening <;> rfl

/-! ## What reading and reporting leave as it was -/

namespace Feed

/-- No request to cancel has come, and none comes with the script. -/
def Calm (feed : Feed) : Prop := feed.cancelled = false ∧ Item.cancel ∉ feed.script

/-- The bytes consumed and the bytes still to come. -/
def total (feed : Feed) : Nat := feed.history.consumed + (Signal.bytes feed.signals).length

/-- How a feed that was read from, or reported on, compares with what it was. -/
structure Sequel (before after : Feed) : Prop where
  total : after.total = before.total
  closes : after.history.closes = before.history.closes
  cancelled : before.cancelled = true → after.cancelled = true
  calm : before.Calm → after.Calm

namespace Sequel

@[refl] theorem refl (feed : Feed) : Sequel feed feed := ⟨rfl, rfl, id, id⟩

theorem trans {first second third : Feed} (h : Sequel first second) (h' : Sequel second third) :
    Sequel first third where
  total := h'.total.trans h.total
  closes := h'.closes.trans h.closes
  cancelled hc := h'.cancelled (h.cancelled hc)
  calm hc := h'.calm (h.calm hc)

/-- What neither reads nor closes leaves everything as it was. -/
theorem record (feed : Feed) {happening : Happening} (htaken : happening.taken = 0)
    (hclosings : happening.closings = 0) : Sequel feed (feed.record happening) where
  total := by simp [Feed.total, Feed.record, Feed.signals, htaken]
  closes := by simp [Feed.record, hclosings]
  cancelled := id
  calm := id

theorem note (feed : Feed) (notice : Notice) : Sequel feed (feed.note notice) :=
  record feed rfl rfl

/-- Whoever takes the same signals away takes the same number of bytes. -/
theorem consumed_eq {first second first' second' : Feed} (hfirst : Sequel first first')
    (hsecond : Sequel second second') (hsignals : first.signals = second.signals)
    (hconsumed : first.history.consumed = second.history.consumed)
    (hsignals' : first'.signals = second'.signals) :
    first'.history.consumed = second'.history.consumed := by
  have htotal : first.total = second.total := by
    rw [Feed.total, Feed.total, hsignals, hconsumed]
  have htotal' : first'.total = second'.total :=
    hfirst.total.trans (htotal.trans hsecond.total.symm)
  rw [Feed.total, Feed.total, hsignals'] at htotal'
  omega

end Sequel

/-! ## Requests -/

@[simp] theorem script_cancel (feed : Feed) : feed.cancel.script = feed.script := by
  unfold cancel
  split <;> rfl

@[simp] theorem perRead_cancel (feed : Feed) : feed.cancel.perRead = feed.perRead := by
  unfold cancel
  split <;> rfl

@[simp] theorem signals_cancel (feed : Feed) : feed.cancel.signals = feed.signals :=
  congrArg signalsOf (script_cancel feed)

@[simp] theorem waits_cancel (feed : Feed) : feed.cancel.waits = feed.waits := by
  unfold cancel
  split <;> rfl

@[simp] theorem cancelled_cancel (feed : Feed) : feed.cancel.cancelled = true := by
  unfold cancel
  split
  · assumption
  · rfl

@[simp] theorem closes_cancel (feed : Feed) :
    feed.cancel.history.closes = feed.history.closes := by
  unfold cancel
  split
  · rfl
  · simp [note, record, Happening.closings]

@[simp] theorem script_bound (feed : Feed) (limit : Option Span) :
    (feed.bound limit).2.script = feed.script := by
  unfold bound
  split <;> rfl

@[simp] theorem signals_bound (feed : Feed) (limit : Option Span) :
    (feed.bound limit).2.signals = feed.signals := congrArg signalsOf (script_bound feed limit)

/-! ## Reading -/

theorem room_le (feed : Feed) (wanted : Nat) : feed.room wanted ≤ wanted := by
  unfold room
  split
  · exact Nat.le_refl _
  · exact Nat.min_le_left _ _

theorem read_fst (feed : Feed) (wanted : Nat) :
    (feed.read wanted).1 = (serve (feed.room wanted) feed.script).1 := rfl

theorem read_snd (feed : Feed) (wanted : Nat) :
    (feed.read wanted).2 =
      ((if (serve (feed.room wanted) feed.script).2.1 then
          { feed with script := (serve (feed.room wanted) feed.script).2.2 }.cancel
        else { feed with script := (serve (feed.room wanted) feed.script).2.2 }).record
          (.read (serve (feed.room wanted) feed.script).1.got)) := rfl

@[simp] theorem read_script (feed : Feed) (wanted : Nat) :
    (feed.read wanted).2.script = (serve (feed.room wanted) feed.script).2.2 := by
  rw [read_snd]
  split
  · exact script_cancel _
  · rfl

/-- **A read is served out of the signals of the feed.** -/
theorem read_served {wanted : Nat} (hwanted : 0 < wanted) (feed : Feed) :
    Signal.Served wanted feed.signals (feed.read wanted).1 (feed.read wanted).2.signals := by
  have h := serve_served (feed.room_pos hwanted) feed.script
  rw [signals, signals, read_fst, read_script]
  exact h.mono (feed.room_le wanted)

/-- What is left of a script was in it. -/
theorem mem_of_mem_serve {room : Nat} {script : List Item} {item : Item}
    (hdata : ∀ bytes, item ≠ .data bytes) (h : item ∈ (serve room script).2.2) :
    item ∈ script := by
  fun_induction serve room script with
  | case1 => simp at h
  | case3 b more rest =>
    rcases List.mem_cons.mp h with heq | hmem
    · exact absurd heq (hdata _)
    · exact List.mem_cons_of_mem _ hmem
  | case4 rest => exact List.mem_cons_of_mem _ h
  | case5 fault rest => exact List.mem_cons_of_mem _ h
  | case2 rest ih => exact List.mem_cons_of_mem _ (ih h)
  | case6 millis rest ih => exact List.mem_cons_of_mem _ (ih h)
  | case7 rest outcome cancels left hserve ih =>
    rw [hserve] at ih
    exact List.mem_cons_of_mem _ (ih h)

/-- A request to cancel that is met was in the script. -/
theorem cancel_mem_of_serve {room : Nat} {script : List Item}
    (h : (serve room script).2.1 = true) : Item.cancel ∈ script := by
  fun_induction serve room script with
  | case1 | case3 | case4 | case5 => simp at h
  | case2 rest ih => exact List.mem_cons_of_mem _ (ih h)
  | case6 millis rest ih => exact List.mem_cons_of_mem _ (ih h)
  | case7 => exact List.mem_cons_self

/-- The bytes that an outcome delivers are those that a read takes off the signals. -/
theorem Signal.Served.length_bytes {room : Nat} {before after : List Signal} {outcome : Outcome}
    (h : Signal.Served room before outcome after) :
    (Signal.bytes before).length = (Happening.read outcome.got).taken +
      (Signal.bytes after).length := by
  cases h with
  | bytes => simp [Outcome.got, Happening.taken]
  | gap => simp [Outcome.got, Happening.taken, Signal.bytes]
  | done => simp [Outcome.got, Happening.taken, Signal.bytes]
  | fault => simp [Outcome.got, Happening.taken, Signal.bytes]
  | interrupted => simp [Outcome.got, Happening.taken]

theorem read_sequel {wanted : Nat} (hwanted : 0 < wanted) (feed : Feed) :
    Sequel feed (feed.read wanted).2 where
  total := by
    -- What the read takes off the signals is what it adds to the history.
    have hserved := (read_served hwanted feed).length_bytes
    have hconsumed : (feed.read wanted).2.history.consumed =
        feed.history.consumed + (Happening.read (feed.read wanted).1.got).taken := by
      rw [read_snd, read_fst]
      split
      · unfold cancel
        split <;> simp [record, note, Happening.taken]
      · simp [record]
    rw [total, total, hconsumed]
    omega
  closes := by
    rw [read_snd]
    split
    · simp [record, Happening.closings]
    · simp [record, Happening.closings]
  cancelled hc := by
    rw [read_snd]
    split
    · exact cancelled_cancel _
    · exact hc
  calm hc := by
    obtain ⟨hcancelled, hscript⟩ := hc
    refine ⟨?_, ?_⟩
    · rw [read_snd, if_neg fun h => hscript (cancel_mem_of_serve h)]
      exact hcancelled
    · rw [read_script]
      exact fun h => hscript (mem_of_mem_serve (by simp) h)

/-- What is known of a read once it has been made. -/
theorem served_of_read {wanted : Nat} (hwanted : 0 < wanted) {feed feed' : Feed}
    {outcome : Outcome} (hread : feed.read wanted = (outcome, feed')) :
    Signal.Served wanted feed.signals outcome feed'.signals ∧ Sequel feed feed' := by
  have hserved := read_served hwanted feed
  have hsequel := read_sequel hwanted feed
  rw [hread] at hserved hsequel
  exact ⟨hserved, hsequel⟩

/-! ## What was taken -/

/-- Between two states of a feed just these bytes were taken out of it: they stood in front of all
that is left, and they are what has been consumed since. -/
structure Took (before after : Feed) (bytes : List UInt8) : Prop where
  signals : before.signals = bytes.map .byte ++ after.signals
  consumed : after.history.consumed = before.history.consumed + bytes.length

/-- What is missing from the signals was consumed. -/
theorem Sequel.consumed_add {before after : Feed} (h : Sequel before after) {bytes : List UInt8}
    (hbytes : Signal.bytes before.signals = bytes ++ Signal.bytes after.signals) :
    after.history.consumed = before.history.consumed + bytes.length := by
  have htotal := h.total
  rw [Feed.total, Feed.total, hbytes, List.length_append] at htotal
  omega

/-- Where no bytes are missing from the signals, none were consumed. -/
theorem Sequel.consumed_same {before after : Feed} (h : Sequel before after)
    (hbytes : Signal.bytes before.signals = Signal.bytes after.signals) :
    after.history.consumed = before.history.consumed := @consumed_add _ _ h [] hbytes

theorem Sequel.took {before after : Feed} (h : Sequel before after) {bytes : List UInt8}
    (hsignals : before.signals = bytes.map .byte ++ after.signals) : Took before after bytes where
  signals := hsignals
  consumed := h.consumed_add (by rw [hsignals, Signal.bytes_append, Signal.bytes_map_byte])

theorem Took.nil (feed : Feed) : Took feed feed [] := ⟨rfl, rfl⟩

theorem Took.append {first second third : Feed} {bytes more : List UInt8}
    (h : Took first second bytes) (h' : Took second third more) :
    Took first third (bytes ++ more) where
  signals := by rw [h.signals, h'.signals, List.map_append, List.append_assoc]
  consumed := by rw [h'.consumed, h.consumed, List.length_append, Nat.add_assoc]

end Feed

end Screencast
