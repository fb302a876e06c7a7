import Mathlib.Data.List.Basic
import ProgressActions.Proofs.Account
import ProgressActions.Proofs.Beside
import ProgressActions.Proofs.HostCalls

/-!
# Renderings onto a full sink

A rendering onto a sink with limited room is compared with the same rendering onto a sink that takes
everything. As long as all bytes fit, the two do the same, and the limited sink has so much less room.
The first write that does not fit stores what there is room for, and ends the rendering with the error
of the sink. So what is stored is the beginning of what the unlimited rendering stores, wherever in a
directive, in a run of blanks or in a character the room ends.
-/

namespace ProgressActions

open Template Event

variable {σ α β : Type}

/-! ## Limited room -/

/-- The world with as much room behind a stream. Without a number there is no limit. -/
def World.withRoom (stream : Stream) (room : Option Nat) (w : World) : World :=
  { w with sinks := w.sinks.set stream { w.sinks.get stream with room } }

/-- The scene with as much room behind a stream. Without a number there is no limit. -/
def Scene.withRoom (stream : Stream) (room : Option Nat) (s : Scene σ) : Scene σ :=
  { s with world := s.world.withRoom stream room }

theorem Sinks.get_set_self {stream : Stream} (h : stream.Private) (s : Sinks) (sink : Sink) :
    (s.set stream sink).get stream = sink := by
  cases stream with
  | stdout => exact absurd rfl h.ne_stdout
  | stderr => exact absurd rfl h.ne_stderr
  | _ => rfl

theorem Sinks.set_set (stream : Stream) (s : Sinks) (first second : Sink) :
    (s.set stream first).set stream second = s.set stream second := by
  cases stream <;> rfl

namespace World

variable {stream : Stream} {room : Option Nat}

theorem get_withRoom (h : stream.Private) (room : Option Nat) (w : World) :
    (w.withRoom stream room).sinks.get stream = { w.sinks.get stream with room } :=
  Sinks.get_set_self h _ _

theorem withRoom_withRoom (h : stream.Private) (first second : Option Nat) (w : World) :
    (w.withRoom stream first).withRoom stream second = w.withRoom stream second := by
  unfold withRoom
  dsimp only
  rw [Sinks.get_set_self h, Sinks.set_set]

/-- The world once bytes are stored on a stream. To store nothing is no event. -/
def store (stream : Stream) (content : List UInt8) (w : World) : World :=
  if content = [] then w else w.record (.write stream content)

/-- A write stores what there is room for, and leaves so much less of it. -/
theorem write_withRoom (h : stream.Private) (content : List UInt8) (w : World) :
    (w.withRoom stream room).write stream content =
      (Sink.fits { room } content,
        (w.store stream (Sink.stored { room } content)).withRoom stream
          (room.map (· - content.length))) := by
  have hstored : ((w.withRoom stream room).sinks.get stream).stored content =
      Sink.stored { room } content := by
    rw [get_withRoom h]
    rfl
  have hsinks : (w.withRoom stream room).sinks.set stream
        (((w.withRoom stream room).sinks.get stream).afterWrite content) =
      w.sinks.set stream { w.sinks.get stream with room := room.map (· - content.length) } := by
    rw [get_withRoom h]
    exact Sinks.set_set _ _ _ _
  unfold write
  dsimp only
  rw [hstored, hsinks, get_withRoom h]
  refine Prod.ext rfl ?_
  unfold store
  dsimp only
  split <;> rfl

/-- A line of the log is written beside every stream that is not one of the process. -/
theorem noted_withRoom (stream : Stream) (room : Option Nat) (line : Option String) (w : World) :
    Act.noted line (w.withRoom stream room) = (Act.noted line w).withRoom stream room := by
  cases line with
  | none => rfl
  | some text =>
    dsimp only [Act.noted]
    rw [log_eq, log_eq]
    rfl

/-- What is stored is added to what stands there. -/
theorem contents_store (content : List UInt8) (w : World) :
    (w.store stream content).contents stream = w.contents stream ++ content := by
  unfold store
  split
  · rename_i hnone
    rw [hnone, List.append_nil]
  · rw [contents_record]
    simp only [Event.contentOn, if_true]

/-- Output is no call on the host. -/
theorem selected_store (content : List UInt8) (w : World) :
    (w.store stream content).selected isHostCall = w.selected isHostCall := by
  unfold store
  split
  · rfl
  · exact selected_record_of_not rfl w

end World

/-- The scene once bytes are stored on a stream. -/
def Scene.store (stream : Stream) (content : List UInt8) (s : Scene σ) : Scene σ :=
  { s with world := s.world.store stream content }

theorem Scene.withRoom_withRoom {stream : Stream} (h : stream.Private) (first second : Option Nat)
    (s : Scene σ) : (s.withRoom stream first).withRoom stream second = s.withRoom stream second := by
  unfold Scene.withRoom
  dsimp only
  rw [World.withRoom_withRoom h]

/-- A rendering does not see how much room there is. -/
theorem Scene.sameView_withRoom {stream : Stream} (h : stream.Private) (room : Option Nat)
    (s : Scene σ) : s.SameView stream (s.withRoom stream room) where
  host := rfl
  localTime? := rfl
  window := by
    rw [Scene.withRoom, World.get_withRoom h]
    rfl

/-! ## Traces without flushes -/

def Event.isFlush : Event → Bool
  | flush _ => true
  | _ => false

/-- Between two worlds things have happened, but no flush. -/
def World.Continues (v w : World) : Prop :=
  ∃ body, body.all (!·.isFlush) = true ∧ w.events = v.events ++ body

namespace World.Continues

variable {u v w : World}

theorem refl (w : World) : w.Continues w := ⟨[], rfl, (List.append_nil _).symm⟩

theorem trans (hfirst : u.Continues v) (hsecond : v.Continues w) : u.Continues w := by
  obtain ⟨early, hearly, hbefore⟩ := hfirst
  obtain ⟨late, hlate, hafter⟩ := hsecond
  refine ⟨early ++ late, ?_, ?_⟩
  · rw [List.all_append, hearly, hlate, Bool.and_self]
  · rw [hafter, hbefore, List.append_assoc]

theorem record {event : Event} (h : event.isFlush = false) (w : World) :
    w.Continues (w.record event) :=
  ⟨[event], by simp [h], events_record w event⟩

theorem store (stream : Stream) (content : List UInt8) (w : World) :
    w.Continues (w.store stream content) := by
  unfold World.store
  split
  · exact refl w
  · refine record ?_ _
    rfl

theorem noted (line : Option String) (w : World) : w.Continues (Act.noted line w) := by
  cases line with
  | none => exact refl w
  | some text =>
    rw [Act.noted, log_eq]
    exact record rfl w

theorem selected_prefix (kind : Event → Bool) (h : v.Continues w) :
    v.selected kind <+: w.selected kind := by
  obtain ⟨body, -, hevents⟩ := h
  unfold selected
  rw [hevents, List.filter_append]
  exact List.prefix_append _ _

end World.Continues

/-! ## Moves that store nothing -/

/-- Whether a move is one of a text, but stores nothing on its stream. -/
def Move.StoresNothing : Move → Prop
  | .askElapsed => True
  | .askTotals _ _ => True
  | .reportError _ => True
  | .returnLine => True
  | _ => False

namespace Scene

variable [Host σ] {m : Move} {stream : Stream}

/-- A move that stores nothing does not see the limit. -/
theorem move_withRoom (h : m.StoresNothing) (room : Option Nat) (s : Scene σ) :
    (s.withRoom stream room).move m = (s.move m).withRoom stream room := by
  cases m with
  | reportError message =>
    have hnoted := World.noted_withRoom stream room (Host.noteError message s.host).1
      (s.world.record (.reportError message))
    exact congrArg (fun world ↦ { s.move (.reportError message) with world }) hnoted
  | askElapsed => rfl
  | askTotals labels separator => rfl
  | returnLine => rfl
  | _ => cases h

/-- A move that stores nothing leaves the stream as it is. -/
theorem contents_move (h : m.StoresNothing) (hstream : stream.Private) (s : Scene σ) :
    (s.move m).world.contents stream = s.world.contents stream := by
  have hrecord : ∀ event : Event, event.contentOn stream = [] →
      (s.world.record event).contents stream = s.world.contents stream := by
    intro event hnone
    rw [World.contents_record, hnone, List.append_nil]
  cases m with
  | askElapsed => exact hrecord _ rfl
  | askTotals labels separator => exact hrecord _ rfl
  | reportError message =>
    exact (World.contents_noted hstream.ne_stderr _ _).trans (hrecord _ rfl)
  | returnLine => rfl
  | _ => cases h

theorem continues_move (h : m.StoresNothing) (s : Scene σ) : s.world.Continues (s.move m).world := by
  cases m with
  | askElapsed => exact .record rfl s.world
  | askTotals labels separator => exact .record rfl s.world
  | reportError message => exact .trans (.record rfl s.world) (.noted _ _)
  | returnLine => exact .refl s.world
  | _ => cases h

end Scene

/-! ## Activities that are cut short -/

/-- A host has just refused to show totals. -/
def Scene.RefusesTotals [Host σ] (s : Scene σ) (cause : Failure) : Prop :=
  ∃ labels separator, s.world.events.getLast? = some (.askTotals labels separator) ∧
    Host.totals s.host labels separator = .error cause

namespace Act

/-- A run from a scene on, onto a sink that takes everything: it stores some bytes, and faults apart
it ends early only where its host refuses to show totals. -/
structure Whole [Host σ] (stream : Stream) (s : Scene σ) (content : List UInt8)
    (full : Except Interruption α × Scene σ) : Prop where
  unlimited : full.2.withRoom stream none = full.2
  contents : full.2.world.contents stream = s.world.contents stream ++ content
  continues : s.world.Continues full.2.world
  refused : ∀ cause, full.1 = .error (.failure cause) → full.2.RefusesTotals cause

/-- A run that ends where its sink has no more room, beside a run onto a sink that takes everything. -/
structure Short (stream : Stream) (s : Scene σ) (content : List UInt8) (room : Nat)
    (full cut : Except Interruption α × Scene σ) : Prop where
  outcome : cut.1 = .error (.failure .sinkFull)
  contents : cut.2.world.contents stream = s.world.contents stream ++ content.take room
  continues : s.world.Continues cut.2.world
  calls : cut.2.world.selected isHostCall <+: full.2.world.selected isHostCall

namespace Short

variable {stream : Stream} {s : Scene σ} {room : Nat}

/-- Nothing follows a run that ends where its sink has no more room. -/
theorem bind {first : Act σ α} {content : List UInt8} {full : Except Interruption α × Scene σ}
    (h : Short stream s content room full (first.run.run (s.withRoom stream (some room))))
    (hroom : room < content.length) (second : α → Act σ β)
    {later : Except Interruption β × Scene σ} (hlater : full.2.world.Continues later.2.world)
    (more : List UInt8) :
    Short stream s (content ++ more) room later
      ((first >>= second).run.run (s.withRoom stream (some room))) := by
  obtain ⟨houtcome, hcontents, hcontinues, hcalls⟩ := h
  rcases hrun : first.run.run (s.withRoom stream (some room)) with ⟨outcome, next⟩
  rw [hrun] at houtcome hcontents hcontinues hcalls
  cases houtcome
  have hcut : (first >>= second).run.run (s.withRoom stream (some room)) =
      (.error (.failure .sinkFull), next) := by
    rw [run_bind, hrun]
  rw [hcut]
  refine ⟨rfl, ?_, hcontinues, hcalls.trans (hlater.selected_prefix isHostCall)⟩
  rw [List.take_append_of_le_length (Nat.le_of_lt hroom)]
  exact hcontents

/-- What a run does before it ends at a full sink may follow a run that fits. -/
theorem after [Host σ] {early late : List UInt8} {first : Except Interruption α × Scene σ}
    {full cut : Except Interruption β × Scene σ} (hfirst : Whole stream s early first)
    (hroom : early.length ≤ room)
    (h : Short stream first.2 late (room - early.length) full cut) :
    Short stream s (early ++ late) room full cut where
  outcome := h.outcome
  contents := by
    rw [h.contents, hfirst.contents, List.take_append, List.take_of_length_le hroom,
      List.append_assoc]
  continues := hfirst.continues.trans h.continues
  calls := h.calls

end Short

/-- A write stores what there is room for, and fails unless there is room for all. -/
theorem run_write_withRoom {stream : Stream} (h : stream.Private) (text : List Char)
    (room : Option Nat) (s : Scene σ) :
    (write stream text).run.run (s.withRoom stream room) =
      (if Sink.fits { room } (Text.bytes text) then .ok () else .error (.failure .sinkFull),
        (s.store stream (Sink.stored { room } (Text.bytes text))).withRoom stream
          (room.map (· - (Text.bytes text).length))) := by
  rw [run_write, Scene.withRoom, World.write_withRoom h]
  rfl

/-- A full sink cuts an activity short. If all bytes fit, then limited room makes no difference but for
the room that is left; else the activity ends when no room is left. -/
def Curtailed [Host σ] (stream : Stream) (s : Scene σ) (activity : Act σ α) : Prop :=
  ∃ content : List UInt8,
    let full := activity.run.run (s.withRoom stream none)
    Whole stream s content full ∧ ∀ room,
      let cut := activity.run.run (s.withRoom stream (some room))
      (content.length ≤ room →
        cut = (full.1, full.2.withRoom stream (some (room - content.length)))) ∧
      (room < content.length → Short stream s content room full cut)

namespace Curtailed

variable [Host σ] {stream : Stream} {s : Scene σ}

/-- An activity that stores nothing on the stream and does not see its room. -/
theorem of_storesNothing (hstream : stream.Private) {activity : Act σ α}
    {outcome : Except Interruption α} {after : Scene σ}
    (hrun : ∀ room, activity.run.run (s.withRoom stream room) = (outcome, after.withRoom stream room))
    (hcontents : after.world.contents stream = s.world.contents stream)
    (hcontinues : s.world.Continues after.world)
    (hrefused : ∀ cause, outcome = .error (.failure cause) → after.RefusesTotals cause) :
    Curtailed stream s activity := by
  refine ⟨[], ?_, fun room ↦ ⟨fun _ ↦ ?_, fun h ↦ absurd h (Nat.not_lt_zero room)⟩⟩
  · rw [hrun]
    exact ⟨Scene.withRoom_withRoom hstream _ _ _, hcontents.trans (List.append_nil _).symm,
      hcontinues, hrefused⟩
  · rw [hrun, hrun, Scene.withRoom_withRoom hstream]
    rfl

/-- An activity that makes a single move, and stores nothing by it. -/
theorem of_move (hstream : stream.Private) {activity : Act σ α} {a : α} (m : Move) (hm : m.StoresNothing)
    (hrun : ∀ room, activity.run.run (s.withRoom stream room) =
      (.ok a, (s.withRoom stream room).move m)) : Curtailed stream s activity := by
  have hmove : ∀ room, activity.run.run (s.withRoom stream room) =
      (.ok a, (s.move m).withRoom stream room) := by
    intro room
    rw [hrun, Scene.move_withRoom hm]
  exact of_storesNothing hstream hmove (s.contents_move hm hstream) (s.continues_move hm)
    fun _ h ↦ nomatch h

theorem pure (hstream : stream.Private) (a : α) :
    Curtailed stream s (Pure.pure a : Act σ α) :=
  of_storesNothing hstream (fun _ ↦ rfl) rfl (.refl _) fun _ h ↦ nomatch h

theorem crash (hstream : stream.Private) : Curtailed stream s (throw .crash : Act σ α) :=
  of_storesNothing hstream (fun _ ↦ rfl) rfl (.refl _) fun _ h ↦ nomatch h

/-- Of two activities in a row, the first that does not fit ends both. -/
theorem bind {first : Act σ α} {second : α → Act σ β} (hfirst : Curtailed stream s first)
    (hsecond : ∀ a next, first.run.run (s.withRoom stream none) = (.ok a, next) →
      Curtailed stream next (second a)) : Curtailed stream s (first >>= second) := by
  obtain ⟨early, hwhole, hpart⟩ := hfirst
  rcases hrun : first.run.run (s.withRoom stream none) with ⟨cause | a, next⟩
  · -- What fails onto an unlimited sink has no continuation, whatever the room.
    rw [hrun] at hwhole hpart
    have hfull : (first >>= second).run.run (s.withRoom stream none) = (.error cause, next) := by
      rw [run_bind, hrun]
    refine ⟨early, ?_, fun room ↦ ⟨fun hfits ↦ ?_, fun hshort ↦ ?_⟩⟩
    · rw [hfull]
      exact ⟨hwhole.unlimited, hwhole.contents, hwhole.continues, fun other hother ↦
        hwhole.refused other (congrArg Except.error (Except.error.inj hother))⟩
    · rw [hfull, run_bind, (hpart room).1 hfits]
    · rw [hfull, ← List.append_nil early]
      exact ((hpart room).2 hshort).bind hshort second (.refl next.world) []
  · obtain ⟨late, hrest, hlater⟩ := hsecond a next hrun
    rw [hrun] at hwhole hpart
    have hnext : next.withRoom stream none = next := hwhole.unlimited
    rw [hnext] at hrest hlater
    have hfull : (first >>= second).run.run (s.withRoom stream none) =
        (second a).run.run next := by
      rw [run_bind, hrun]
    refine ⟨early ++ late, ?_, fun room ↦ ⟨fun hfits ↦ ?_, fun hshort ↦ ?_⟩⟩
    · rw [hfull]
      exact ⟨hrest.unlimited, by rw [hrest.contents, hwhole.contents, List.append_assoc],
        hwhole.continues.trans hrest.continues, hrest.refused⟩
    · rw [List.length_append] at hfits
      have hleft : late.length ≤ room - early.length := by omega
      rw [hfull, run_bind, (hpart room).1 (by omega)]
      dsimp only
      rw [(hlater (room - early.length)).1 hleft, List.length_append, Nat.sub_sub]
    · by_cases hearly : room < early.length
      · rw [hfull]
        exact ((hpart room).2 hearly).bind hearly second hrest.continues late
      · rw [List.length_append] at hshort
        have hleft : room - early.length < late.length := by omega
        have hstopped := (hlater (room - early.length)).2 hleft
        rw [hfull, run_bind, (hpart room).1 (by omega)]
        exact .after hwhole (Nat.not_lt.1 hearly) hstopped

/-- What is done after a look at the scene, if the room cannot be seen. -/
theorem look {next : Scene σ → Act σ α}
    (hblind : ∀ room, next (s.withRoom stream room) = next s) (h : Curtailed stream s (next s)) :
    Curtailed stream s (get >>= next) := by
  have hrun : ∀ room, (get >>= next).run.run (s.withRoom stream room) =
      (next s).run.run (s.withRoom stream room) := by
    intro room
    rw [run_bind, run_get]
    dsimp only
    rw [hblind]
  unfold Curtailed
  simp only [hrun]
  exact h

theorem write (hstream : stream.Private) (text : List Char) :
    Curtailed stream s (Act.write stream text) := by
  have hrun := fun room ↦ run_write_withRoom hstream text room s
  generalize Text.bytes text = content at hrun
  have hfull : (Act.write stream text).run.run (s.withRoom stream none) =
      (.ok (), (s.store stream content).withRoom stream none) := hrun none
  refine ⟨content, ?_, fun room ↦ ⟨fun hfits ↦ ?_, fun hshort ↦ ?_⟩⟩
  · rw [hfull]
    exact ⟨Scene.withRoom_withRoom hstream _ _ _, World.contents_store content s.world,
      .store stream content s.world, fun _ h ↦ nomatch h⟩
  · have hkept : Sink.stored { room := some room } content = content :=
      List.take_of_length_le hfits
    have hfit : Sink.fits { room := some room } content = true := decide_eq_true hfits
    rw [hfull, hrun, hkept, hfit, Scene.withRoom_withRoom hstream]
    rfl
  · have hnot : Sink.fits { room := some room } content = false :=
      decide_eq_false (Nat.not_le.2 hshort)
    have hcalls : ∀ kept, (s.world.store stream kept).selected isHostCall =
        s.world.selected isHostCall := fun kept ↦ World.selected_store kept s.world
    have hsame : (s.world.store stream (content.take room)).selected isHostCall =
        (s.world.store stream content).selected isHostCall := by
      rw [hcalls, hcalls]
    rw [hfull, hrun, hnot]
    exact ⟨rfl, World.contents_store (content.take room) s.world,
      .store stream (content.take room) s.world, hsame ▸ List.prefix_refl _⟩

theorem noteReturn (hstream : stream.Private) :
    Curtailed stream s (modify ({ · with lineReset := true })) :=
  of_move hstream .returnLine trivial fun _ ↦ rfl

theorem elapsed (hstream : stream.Private) : Curtailed stream s (Act.elapsed (σ := σ)) :=
  of_move (a := (Host.measure s.world.passed s.host).1) hstream .askElapsed trivial fun _ ↦ rfl

theorem totals (hstream : stream.Private) (labels : Labels) (separator : Char) :
    Curtailed stream s (Act.totals stream labels separator) := by
  have hasked : Curtailed stream s (Act.record (σ := σ) (.askTotals labels separator)) :=
    of_move hstream (.askTotals labels separator) trivial fun _ ↦ rfl
  refine bind hasked fun _ next hnext ↦ look (fun _ ↦ rfl) ?_
  obtain rfl : (s.withRoom stream none).move (.askTotals labels separator) = next :=
    congrArg Prod.snd hnext
  split
  · exact bind (write hstream _) fun _ _ _ ↦ pure hstream _
  · rename_i cause hrefused
    -- The question has only just been asked, and this is the answer to it.
    refine of_storesNothing hstream (fun _ ↦ rfl) rfl (.refl _) fun other hother ↦ ?_
    obtain rfl : cause = other := Interruption.failure.inj (Except.error.inj hother)
    refine ⟨labels, separator, ?_, hrefused⟩
    have hevents : ((s.withRoom stream none).move (.askTotals labels separator)).world.events =
        s.world.events ++ [.askTotals labels separator] := World.events_record _ _
    rw [hevents, List.getLast?_concat]

theorem reportError (hstream : stream.Private) (message : String) :
    Curtailed stream s (Act.reportError message) :=
  of_move hstream (.reportError message) trivial fun _ ↦ run_reportError message _

/-- A full sink cuts short all that text is rendered by. -/
theorem of_textual (hstream : stream.Private) {returns : Prop} {reports : String → Prop}
    {activity : Act σ α} (h : Textual stream returns reports activity) (s : Scene σ) :
    Curtailed stream s activity := by
  induction h generalizing s with
  | pure a => exact pure hstream a
  | crash => exact crash hstream
  | bind _ _ hfirst hsecond => exact bind (hfirst s) fun a next _ ↦ hsecond a next
  | look hview _ hnext =>
    exact look (fun room ↦ hview s _ (s.sameView_withRoom hstream room)) (hnext s s)
  | write text => exact write hstream text
  | noteReturn _ => exact noteReturn hstream
  | elapsed => exact elapsed hstream
  | totals labels separator => exact totals hstream labels separator
  | reportError _ => exact reportError hstream _

/-- However much room there is, the activity stores the beginning of what it stores without a limit,
and asks its host for no more. -/
theorem cut {activity : Act σ α} (h : Curtailed stream s activity) :
    ∃ content : List UInt8,
      let full := activity.run.run (s.withRoom stream none)
      Whole stream s content full ∧ ∀ room,
        let cut := activity.run.run (s.withRoom stream (some room))
        cut.1 = (if room < content.length then .error (.failure .sinkFull) else full.1) ∧
          cut.2.world.contents stream = s.world.contents stream ++ content.take room ∧
          s.world.Continues cut.2.world ∧
          cut.2.world.selected isHostCall <+: full.2.world.selected isHostCall := by
  obtain ⟨content, hwhole, hpart⟩ := h
  refine ⟨content, hwhole, fun room ↦ ?_⟩
  by_cases hshort : room < content.length
  · have hstopped := (hpart room).2 hshort
    rw [if_pos hshort]
    exact ⟨hstopped.outcome, hstopped.contents, hstopped.continues, hstopped.calls⟩
  · have hfits : content.length ≤ room := Nat.not_lt.1 hshort
    dsimp only
    rw [if_neg hshort, (hpart room).1 hfits, List.take_of_length_le hfits]
    exact ⟨rfl, hwhole.contents, hwhole.continues, List.prefix_refl _⟩

end Curtailed

end Act

/-! ## Flushes that work -/

namespace Act

/-- A run after which, if it succeeds, a stream is flushed. -/
def thenFlushed (stream : Stream) (run : Except Interruption α × Scene σ) :
    Except Interruption α × Scene σ :=
  if run.1.isOk then (run.1, { run.2 with world := run.2.world.record (.flush stream) }) else run

section

variable (stream : Stream) (run : Except Interruption α × Scene σ)

@[simp] theorem fst_thenFlushed : (thenFlushed stream run).1 = run.1 := by
  unfold thenFlushed
  split <;> rfl

@[simp] theorem contents_thenFlushed (other : Stream) :
    (thenFlushed stream run).2.world.contents other = run.2.world.contents other := by
  unfold thenFlushed
  split
  · exact (World.contents_record _ _ _).trans (List.append_nil _)
  · rfl

@[simp] theorem calls_thenFlushed :
    (thenFlushed stream run).2.world.selected isHostCall = run.2.world.selected isHostCall := by
  unfold thenFlushed
  split
  · exact World.selected_record_of_not rfl _
  · rfl

/-- The last flush is the only event that a success adds. -/
theorem events_thenFlushed :
    (thenFlushed stream run).2.world.events =
      run.2.world.events ++ if run.1.isOk then [.flush stream] else [] := by
  unfold thenFlushed
  split
  · exact World.events_record _ _
  · exact (List.append_nil _).symm

end

/-- A run onto a sink that takes everything, and without a fault, succeeds if its host refuses
nothing. -/
theorem Whole.ends [Host σ] {stream : Stream} {s : Scene σ} {content : List UInt8}
    {run : Except Interruption α × Scene σ} (h : Whole stream s content run)
    (hcrash : run.1 ≠ .error .crash) :
    let full := thenFlushed stream run
    (∃ a, full.1 = .ok a ∧ ∀ cause, ¬full.2.RefusesTotals cause) ∨
      ∃ cause, full.1 = .error (.failure cause) ∧ full.2.RefusesTotals cause := by
  obtain ⟨outcome | a, next⟩ := run
  · cases outcome with
    | crash => exact absurd rfl hcrash
    | failure cause => exact .inr ⟨cause, rfl, h.refused cause rfl⟩
  · refine .inl ⟨a, rfl, fun cause ⟨labels, separator, hlast, _⟩ ↦ ?_⟩
    -- The last event is the flush, and no question.
    have hevents : (thenFlushed stream (.ok a, next)).2.world.events =
        next.world.events ++ [.flush stream] := World.events_record _ _
    rw [hevents, List.getLast?_concat] at hlast
    cases hlast

end Act

/-! ## Renderings -/

namespace Template

variable [Host σ]

/-- A run flushes its stream exactly once, after all else, if it succeeds, and never if it fails. -/
def FlushedLast (stream : Stream) (s : Scene σ) (run : Except Interruption α × Scene σ) : Prop :=
  ∃ body, body.all (!·.isFlush) = true ∧
    run.2.world.events = s.world.events ++ body ++ if run.1.isOk then [.flush stream] else []

/-- A rendering onto a sink with limited room, beside the same one onto a sink that takes everything. -/
structure CutShort (stream : Stream) (s : Scene σ) (content : List UInt8) (room : Nat)
    (full cut : Except Interruption Nat × Scene σ) : Prop where
  /-- What the unlimited sink stores. -/
  written : full.2.world.contents stream = s.world.contents stream ++ content
  /-- What the limited sink stores is the beginning of that. -/
  stored : cut.2.world.contents stream = s.world.contents stream ++ content.take room
  /-- The sink's error ends the rendering if not all bytes fit, and makes no difference otherwise. -/
  outcome : cut.1 = if room < content.length then .error (.failure .sinkFull) else full.1
  /-- So the rendering ends with this error just then, unless its host has one like it. -/
  sinkFull : full.1 ≠ .error (.failure .sinkFull) →
    (cut.1 = .error (.failure .sinkFull) ↔ room < content.length)
  /-- Without a limit the rendering succeeds, or its host refuses to show totals. -/
  unlimited : (∃ last, full.1 = .ok last) ∨
    ∃ cause, full.1 = .error (.failure cause) ∧ full.2.RefusesTotals cause
  /-- The rendering succeeds if all bytes fit and the host refuses nothing. -/
  succeeds : cut.1.isOk = true ↔ content.length ≤ room ∧ ∀ cause, ¬full.2.RefusesTotals cause
  calls : cut.2.world.selected isHostCall <+: full.2.world.selected isHostCall
  lineReset : cut.2.lineReset = true → s.lineReset = true ∨ returnByte ∈ content.take room
  flushed : FlushedLast stream s cut

/-- Where flushes work, a rendering is its text and then a flush. -/
theorem run_render_of_works (job : Job) (template : List Char) (column : Nat) (s : Scene σ)
    (h : (s.world.sinks.get job.stream).flushFails = false) :
    (render job template column).run.run s =
      Act.thenFlushed job.stream ((renderText job template column).run.run s) := by
  have hkept := Act.Within.renderText (fun _ _ ↦ rfl)
    (Scene.admits_flushFails (σ := σ) job.stream) template column s job.stream
  rw [h] at hkept
  unfold render
  rw [Act.run_bind]
  rcases hrun : (renderText job template column).run.run s with ⟨cause | last, next⟩
  · rfl
  · rw [hrun] at hkept
    have hworks : (next.world.flush job.stream).1 = true := by
      rw [World.flush, hkept]
      rfl
    dsimp only
    rw [Act.run_bind, Act.run_flush, hworks]
    rfl

/-- What a carriage return is noted for is stored, whatever the sink. -/
theorem returnByte_mem_of_lineReset (job : Job) (template : List Char) (column : Nat)
    {s : Scene σ} {content : List UInt8}
    (hcontents : ((render job template column).run.run s).2.world.contents job.stream =
      s.world.contents job.stream ++ content)
    (h : ((render job template column).run.run s).2.lineReset = true) :
    s.lineReset = true ∨ returnByte ∈ content := by
  obtain ⟨hstored, hreset⟩ := run_render job template column s
  have hcontent : content = (accountText job template column s).flatMap Entry.stored :=
    List.append_cancel_left (hcontents.symm.trans hstored)
  rw [h, eq_comm, Bool.or_eq_true] at hreset
  refine hreset.imp_right fun hany ↦ ?_
  obtain ⟨entry, hentry, hreturn⟩ := List.any_eq_true.1 hany
  rw [Entry.isReturn, Bool.and_eq_true, List.contains_iff_mem] at hreturn
  rw [hcontent]
  exact List.mem_flatMap.2 ⟨entry, hentry, hreturn.2⟩

/-- What is known of the text of a rendering, and of the note of a carriage return, is all that there is
to know. -/
theorem CutShort.of_text {stream : Stream} {s : Scene σ} {content : List UInt8} {room : Nat}
    {full cut : Except Interruption Nat × Scene σ} (hwhole : Act.Whole stream s content full)
    (hcrash : full.1 ≠ .error .crash)
    (houtcome : cut.1 = if room < content.length then .error (.failure .sinkFull) else full.1)
    (hstored : cut.2.world.contents stream = s.world.contents stream ++ content.take room)
    (hcontinues : s.world.Continues cut.2.world)
    (hcalls : cut.2.world.selected isHostCall <+: full.2.world.selected isHostCall)
    (hreset : (Act.thenFlushed stream cut).2.lineReset = true →
      s.lineReset = true ∨ returnByte ∈ content.take room) :
    CutShort stream s content room (Act.thenFlushed stream full) (Act.thenFlushed stream cut) := by
  have hends := hwhole.ends hcrash
  obtain ⟨body, hbody, hevents⟩ := hcontinues
  constructor
  case written => exact (Act.contents_thenFlushed _ _ _).trans hwhole.contents
  case stored => exact (Act.contents_thenFlushed _ _ _).trans hstored
  case outcome => rw [Act.fst_thenFlushed, Act.fst_thenFlushed, houtcome]
  case sinkFull =>
    rw [Act.fst_thenFlushed, Act.fst_thenFlushed, houtcome]
    intro hown
    split <;> simp [*]
  case unlimited => exact hends.imp_left fun ⟨last, hlast, _⟩ ↦ ⟨last, hlast⟩
  case succeeds =>
    rw [Act.fst_thenFlushed, houtcome]
    by_cases hshort : room < content.length
    · rw [if_pos hshort]
      exact ⟨(nomatch ·), fun h ↦ absurd hshort (Nat.not_lt.2 h.1)⟩
    · rw [if_neg hshort]
      obtain ⟨last, hlast, hnone⟩ | ⟨cause, hcause, hrefuses⟩ := hends
      · rw [Act.fst_thenFlushed] at hlast
        rw [hlast]
        exact ⟨fun _ ↦ ⟨Nat.not_lt.1 hshort, hnone⟩, fun _ ↦ rfl⟩
      · rw [Act.fst_thenFlushed] at hcause
        rw [hcause]
        exact ⟨(nomatch ·), fun h ↦ absurd hrefuses (h.2 cause)⟩
  case calls =>
    rw [Act.calls_thenFlushed, Act.calls_thenFlushed]
    exact hcalls
  case lineReset => exact hreset
  case flushed => exact ⟨body, hbody, by rw [Act.events_thenFlushed, Act.fst_thenFlushed, hevents]⟩

/-- A rendering onto a full sink is cut short: whatever the template, the host and the room, the sink
stores the beginning of what the same rendering stores on a sink that takes everything. -/
theorem cutShort_render (job : Job) (hstream : job.stream.Private) (template : List Char)
    (column : Nat) (s : Scene σ) (hworks : (s.world.sinks.get job.stream).flushFails = false)
    (hfull : ((render job template column).run.run (s.withRoom job.stream none)).1 ≠ .error .crash)
    (room : Nat) :
    ∃ content, CutShort job.stream s content room
      ((render job template column).run.run (s.withRoom job.stream none))
      ((render job template column).run.run (s.withRoom job.stream (some room))) := by
  have hflush : ∀ room, (render job template column).run.run (s.withRoom job.stream room) =
      Act.thenFlushed job.stream
        ((renderText job template column).run.run (s.withRoom job.stream room)) := by
    intro room
    refine run_render_of_works job template column _ ?_
    rw [Scene.withRoom, World.get_withRoom hstream]
    exact hworks
  have htext : Act.Textual job.stream True (fun _ ↦ True) (renderText (σ := σ) job template column) :=
    .renderText trivial (fun _ _ ↦ trivial) column
  obtain ⟨content, hwhole, hcut⟩ := (Act.Curtailed.of_textual hstream htext s).cut
  obtain ⟨houtcome, hstored, hcontinues, hcalls⟩ := hcut room
  have hlast : ((render job template column).run.run
      (s.withRoom job.stream (some room))).2.world.contents job.stream =
        (s.withRoom job.stream (some room)).world.contents job.stream ++ content.take room := by
    rw [hflush, Act.contents_thenFlushed]
    exact hstored
  have hreset := returnByte_mem_of_lineReset job template column hlast
  rw [hflush, Act.fst_thenFlushed] at hfull
  rw [hflush] at hreset
  rw [hflush, hflush]
  exact ⟨content, .of_text hwhole hfull houtcome hstored hcontinues hcalls hreset⟩

/-- The room ends in the totals of a status line, behind a character of two bytes. -/
theorem cutShort_of_status_line :
    let template := "\u00e9%c".toList
    let job : Job := { stream := .out, isWrite := true, checkpoint := 7 }
    let s : Scene ScriptedHost := { world := {}, host := {} }
    let full := (render job template 0).run.run (s.withRoom .out none)
    let cut := (render job template 0).run.run (s.withRoom .out (some 30))
    job.stream.Private ∧ (s.world.sinks.get .out).flushFails = false ∧
      full.1 ≠ .error .crash ∧ cut.1 = .error (.failure .sinkFull) ∧
      ∃ content, CutShort .out s content 30 full cut := by
  intro template job s full cut
  have hstream : job.stream.Private := ⟨by decide, by decide⟩
  have hworks : (s.world.sinks.get .out).flushFails = false := rfl
  have hfull : full.1 ≠ .error .crash := by decide +kernel
  have hcut : cut.1 = .error (.failure .sinkFull) := by decide +kernel
  exact ⟨hstream, hworks, hfull, hcut, cutShort_render job hstream template 0 s hworks hfull 30⟩

end Template

end ProgressActions
