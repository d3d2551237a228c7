import Mathlib.Data.List.Chain
import SeriesQuery.Proofs.Journal
import SeriesQuery.Proofs.Rrd.Answers
import SeriesQuery.Proofs.Rrd.Calls

/-!
Which reply belongs to which command. The calls on a session are put down with what each did with the
child and what came of it. With a child in order, a command never reads what was printed about
another one, an error that the tool tells leaves the session ready, and a stopped session stays
without a child.
-/

set_option autoImplicit false

namespace SeriesQuery.Rrd

variable {World : Type}

/-! ## Notes of what is done with a child -/

inductive Deed where
  | start (result : Except String Unit)
  | send (line : String) (result : Except String Answer)
  | quit (result : Except String Unit)

def Deed.sent? : Deed → Option (String × Except String Answer)
  | .send line result => some (line, result)
  | _ => none

/-- The same child in a world with a journal of what is done with it. -/
def Child.noted (child : Child (StateM World)) : Child (StateM (World × List Deed)) where
  start := noting .start child.start
  send line := noting (.send line) (child.send line)
  quit := noting .quit child.quit

/-- A child that answers every single line in order, if writing the line does not fail. -/
def Child.Orderly (child : Child (StateM World)) : Prop :=
  ∀ (line : String) (world : World) (answer : Answer), '\n' ∉ line.toList →
    ((child.send line).run world).1 = .ok answer → answer.Orderly

/-! ## Transcripts -/

def Call.perform (child : Child (StateM World)) : Call → Session.Step (StateM World) String
  | .run line => Session.run child line
  | .ensureStarted => do Session.ensureStarted child; return ""
  | .stop => do Session.stop child; return ""

structure Entry where
  call : Call
  deeds : List Deed
  result : Except Failure String
  /-- The session after the call. -/
  session : Session

def Entry.of (child : Child (StateM World)) (call : Call) (session : Session) (world : World) :
    Entry × World :=
  let (result, after, later, deeds) :=
    Session.outcome (call.perform child.noted) session (world, [])
  (⟨call, deeds, result, after⟩, later)

def transcript (child : Child (StateM World)) : List Call → Session → World → List Entry
  | [], _, _ => []
  | call :: calls, session, world =>
    let (entry, later) := Entry.of child call session world
    entry :: transcript child calls entry.session later

theorem transcript_cons (child : Child (StateM World)) (call : Call) (calls : List Call)
    (session : Session) (world : World) :
    transcript child (call :: calls) session world =
      (Entry.of child call session world).1 ::
        transcript child calls (Entry.of child call session world).1.session
          (Entry.of child call session world).2 := rfl

/-- A failure that the tool itself tells. -/
def Failure.isTold : Failure → Bool
  | .pipe _ | .system _ => false
  | _ => true

theorem isTold_ofMessage (printed : String) : (Failure.ofMessage printed).isTold = true := by
  unfold Failure.ofMessage
  dsimp only
  split
  · rfl
  · split <;> rfl

/-- In the course of a call this very line was sent and no other, and the child printed these lines
about it. -/
def Replied (deeds : List Deed) (line : String) (lines : List (List Char)) (last : List Char) :
    Prop :=
  ∃ answer : Answer, deeds.filterMap Deed.sent? = [(line, .ok answer)] ∧ answer.Shows lines last

/-- A command failed with an error of the tool. -/
def Entry.Refused (entry : Entry) (failure : Failure) : Prop :=
  (∃ line, entry.call = .run line) ∧ entry.result = .error failure ∧ failure.isTold = true

/-- Each command has its own reply, in every one of these calls. -/
structure Paired (entries : List Entry) : Prop where
  /-- The output of a command is what the child printed about it before a line of success. -/
  outputs : ∀ entry ∈ entries, ∀ line, entry.call = .run line → ∀ text,
    entry.result = .ok text ↔ ∃ lines last, Replied entry.deeds line lines last ∧
      successMark <+: last ∧ text = String.ofList (written lines)
  /-- An error of the tool is the one that the child printed about the command. -/
  refusals : ∀ entry ∈ entries, ∀ line, entry.call = .run line → ∀ failure,
    entry.Refused failure ↔ ∃ lines last, Replied entry.deeds line lines last ∧
      errorMark <+: last ∧ failure = .ofMessage (String.ofList last)
  /-- After such an error the session runs, and has nothing left to read. -/
  ready : ∀ entry ∈ entries, ∀ failure, entry.Refused failure → entry.session = .holding []
  /-- The command after it goes to the same child. -/
  served : entries.IsChain fun entry next => ∀ failure, entry.Refused failure →
    ∀ line, next.call = .run line → ∃ result, next.deeds = [.send line result]
  /-- Nothing is done with a child once the session is stopped. -/
  final : entries.Pairwise fun entry next => entry.session.state = .stopped →
    next.deeds = [] ∧ (next.call ≠ .stop → next.result = .error (.pipe .stopped))

/-! ## Sessions between calls -/

/-- How a session with a child in order can stand between calls. It has nothing to read. -/
inductive Session.Settled : Session → Prop where
  | new : Settled .new
  | idle : Settled (.holding [])
  | stopped : Settled ⟨.stopped, none⟩
  | stranded : Settled .stranded

theorem Session.Settled.eq_of_stopped {session : Session} (settled : session.Settled)
    (stopped : session.state = .stopped) : session = ⟨.stopped, none⟩ := by
  cases settled with
  | stopped => rfl
  | new => cases stopped
  | idle => cases stopped
  | stranded => cases stopped

theorem Concluded.settled {answer : Answer} {outcome : Except Failure String × Session}
    (concluded : Concluded answer outcome) : outcome.2.Settled := by
  cases concluded with
  | output => exact .idle
  | refusal => exact .idle
  | exited => exact .stopped
  | fault => exact .new

/-! ## One command -/

/-- What is done before a line is sent. -/
inductive Opened : Session → List Deed → Prop where
  | already : Opened (.holding []) []
  | anew : Opened .new [.start (.ok ())]

/-- All that a command can come to. -/
inductive Ran (line : String) : Session → List Deed → Except Failure String × Session → Prop where
  | stopped : Ran line ⟨.stopped, none⟩ [] (.error (.pipe .stopped), ⟨.stopped, none⟩)
  | stranded : Ran line .stranded [] (.error (.pipe .notRunning), .stranded)
  | noChild (reason : String) :
      Ran line .new [.start (.error reason)] (.error (.system reason), .new)
  | unsent {session : Session} {deeds : List Deed} (opened : Opened session deeds)
      (reason : String) :
      Ran line session (deeds ++ [.send line (.error reason)]) (.error (.system reason), .new)
  | answered {session : Session} {deeds : List Deed} (opened : Opened session deeds)
      {answer : Answer} (orderly : answer.Orderly) :
      Ran line session (deeds ++ [.send line (.ok answer)]) (conclude answer)

section
variable (child : Child (StateM World)) (world : World)

/-- What a command does once the child has answered. -/
def afterSend (result : Except String Answer) : Session.Step (StateM World) String :=
  match result with
  | .error reason => throw (.system reason)
  | .ok answer =>
    match exchange answer.fault? (keptLines answer.fault?.isSome answer.text) with
    | (.output text, rest) => do
      set (Session.holding rest.flatten)
      return String.ofList text
    | (.refusal message, rest) => do
      set (Session.holding rest.flatten)
      throw (Failure.ofMessage (String.ofList message))
    | (.exited, _) => do
      set (⟨.stopped, none⟩ : Session)
      throw (.pipe .exited)
    | (.fault reason, _) => throw (.system reason)

theorem outcome_afterSend (answer : Answer) :
    Session.outcome (afterSend (.ok answer)) .new world =
      ((conclude answer).1, (conclude answer).2, world) := by
  simp only [afterSend, conclude]
  obtain ⟨outcome, rest⟩ := exchange answer.fault? (keptLines answer.fault?.isSome answer.text)
  cases outcome <;> rfl

/-- A session with nothing to read makes its reply of what the child prints now. -/
theorem outcome_sendLine_idle (line : String) :
    Session.outcome (Session.sendLine child line) (.holding []) world =
      match (child.send line).run world with
      | (.error reason, later) => (.error (.system reason), .new, later)
      | (.ok answer, later) => ((conclude answer).1, (conclude answer).2, later) := by
  have sent : Session.outcome (Session.sendLine child line) (.holding []) world =
      Session.outcome ((monadLift (child.send line) :
        Session.Step (StateM World) (Except String Answer)) >>= afterSend) .new world := rfl
  rw [sent, Session.outcome_bind, Session.outcome_lift]
  obtain ⟨result, later⟩ := (child.send line).run world
  cases result with
  | error reason => rfl
  | ok answer => exact outcome_afterSend later answer

theorem outcome_start (session : Session) :
    Session.outcome (Session.start child) session world =
      match child.start.run world with
      | (.error reason, later) => (.error (.system reason), session, later)
      | (.ok (), later) => (.ok (), .holding [], later) := by
  refine (Session.outcome_bind session world (monadLift child.start) _).trans ?_
  rw [Session.outcome_lift]
  obtain ⟨result, later⟩ := child.start.run world
  cases result <;> rfl

end

theorem ran_sendLine {child : Child (StateM World)} (orderly : child.Orderly) {line : String}
    (unbroken : '\n' ∉ line.toList) {session : Session} {deeds : List Deed}
    (opened : Opened session deeds) (world : World) :
    let (result, after, _, deeds) :=
      Session.outcome (Session.sendLine child.noted line) (.holding []) (world, deeds)
    Ran line session deeds (result, after) := by
  rw [outcome_sendLine_idle]
  have noted : (child.noted.send line).run (world, deeds) =
      (((child.send line).run world).1, ((child.send line).run world).2,
        deeds ++ [.send line ((child.send line).run world).1]) := rfl
  have answers := orderly line world
  rw [noted]
  -- What the child does in this world is one result, which the note and the session share.
  generalize (child.send line).run world = found at answers
  obtain ⟨result, later⟩ := found
  cases result with
  | error reason => exact .unsent opened reason
  | ok answer => exact .answered opened (answers answer unbroken rfl)

theorem ran_run {child : Child (StateM World)} (orderly : child.Orderly) {line : String}
    (unbroken : '\n' ∉ line.toList) {session : Session} (settled : session.Settled)
    (world : World) :
    let (result, after, _, deeds) :=
      Session.outcome (Session.run child.noted line) session (world, [])
    Ran line session deeds (result, after) := by
  cases settled with
  | stopped => exact .stopped
  | stranded => exact .stranded
  | idle => exact ran_sendLine orderly unbroken .already world
  | new =>
    have started : Session.outcome (Session.run child.noted line) .new (world, []) =
        Session.outcome (Session.start child.noted >>= fun _ => Session.sendLine child.noted line)
          .new (world, []) := rfl
    have noted : child.noted.start.run (world, []) =
        ((child.start.run world).1, (child.start.run world).2,
          [.start (child.start.run world).1]) := rfl
    rw [started, Session.outcome_bind, outcome_start, noted]
    obtain ⟨result, later⟩ := child.start.run world
    cases result with
    | error reason => exact .noChild reason
    | ok _ => exact ran_sendLine orderly unbroken .anew later

/-! ## What a command comes to -/

namespace Ran

variable {line : String} {session : Session} {deeds : List Deed}
  {outcome : Except Failure String × Session}

theorem settled (ran : Ran line session deeds outcome) : outcome.2.Settled := by
  cases ran with
  | stopped => exact .stopped
  | stranded => exact .stranded
  | noChild => exact .new
  | unsent => exact .new
  | answered _ orderly => exact orderly.concluded.settled

/-- Nothing is started for a line when the child of the one before is still there. -/
theorem sent_of_idle (ran : Ran line (.holding []) deeds outcome) :
    ∃ result, deeds = [.send line result] := by
  cases ran with
  | unsent opened reason =>
    cases opened
    exact ⟨_, rfl⟩
  | answered opened orderly =>
    cases opened
    exact ⟨_, rfl⟩

theorem answered_or (ran : Ran line session deeds outcome) :
    (∃ answer, deeds.filterMap Deed.sent? = [(line, .ok answer)] ∧ answer.Orderly ∧
      outcome = conclude answer) ∨
    ((∀ answer, deeds.filterMap Deed.sent? ≠ [(line, .ok answer)]) ∧
      ∃ failure, outcome.1 = .error failure ∧ failure.isTold = false) := by
  cases ran with
  | stopped => exact .inr ⟨by simp, _, rfl, rfl⟩
  | stranded => exact .inr ⟨by simp, _, rfl, rfl⟩
  | noChild reason => exact .inr ⟨by simp [List.filterMap_cons, Deed.sent?], _, rfl, rfl⟩
  | unsent opened reason =>
    exact .inr ⟨by cases opened <;> simp [List.filterMap_cons, Deed.sent?], _, rfl, rfl⟩
  | @answered session deeds opened answer orderly =>
    exact .inl ⟨answer, by cases opened <;> rfl, orderly, rfl⟩

theorem of_replied (ran : Ran line session deeds outcome)
    {lines : List (List Char)} {last : List Char}
    (replied : Replied deeds line lines last) :
    (successMark <+: last → outcome = (.ok (String.ofList (written lines)), .holding [])) ∧
      (errorMark <+: last →
        outcome = (.error (.ofMessage (String.ofList last)), .holding [])) := by
  obtain ⟨answer, sent, shows⟩ := replied
  rcases ran.answered_or with ⟨other, sentOther, -, rfl⟩ | ⟨unanswered, -⟩
  · have same : answer = other := by simpa [sentOther] using sent.symm
    subst same
    exact ⟨conclude_success shows, conclude_error shows⟩
  · exact absurd sent (unanswered answer)

theorem outputs (ran : Ran line session deeds outcome) (text : String) :
    outcome.1 = .ok text ↔ ∃ lines last,
      Replied deeds line lines last ∧ successMark <+: last ∧
        text = String.ofList (written lines) := by
  constructor
  · intro returned
    rcases ran.answered_or with ⟨answer, sent, orderly, same⟩ | ⟨-, failure, failed, -⟩
    · have concluded := orderly.concluded
      rw [← same] at concluded
      cases concluded with
      | output shows success =>
        cases returned
        exact ⟨_, _, ⟨answer, sent, shows⟩, success, rfl⟩
      | refusal => cases returned
      | exited => cases returned
      | fault => cases returned
    · rw [failed] at returned
      cases returned
  · rintro ⟨lines, last, replied, success, rfl⟩
    rw [(ran.of_replied replied).1 success]

/-- An error of the tool is in the answer, and leaves the session ready for the next command. -/
theorem refusals (ran : Ran line session deeds outcome) {failure : Failure}
    (failed : outcome.1 = .error failure) (told : failure.isTold = true) :
    outcome.2 = .holding [] ∧ ∃ lines last,
      Replied deeds line lines last ∧ errorMark <+: last ∧
        failure = .ofMessage (String.ofList last) := by
  -- Without an orderly answer, the failure is of the session and not the tool's own.
  rcases ran.answered_or with ⟨answer, sent, orderly, same⟩ | ⟨-, other, failedOther, untold⟩
  · have concluded := orderly.concluded
    rw [← same] at concluded
    cases concluded with
    | refusal shows error =>
      cases failed
      exact ⟨rfl, _, _, ⟨answer, sent, shows⟩, error, rfl⟩
    | output => cases failed
    | exited =>
      cases failed
      cases told
    | fault =>
      cases failed
      cases told
  · rw [failedOther] at failed
    cases failed
    rw [untold] at told
    cases told

end Ran

/-! ## One call -/

section
variable {child : Child (StateM World)}

theorem outcome_discard (step : Session.Step (StateM World) Unit) (session : Session)
    (world : World) :
    (Session.outcome (do step; return "") session world).2 =
      (Session.outcome step session world).2 := by
  rw [Session.outcome_bind]
  obtain ⟨result, after, later⟩ := Session.outcome step session world
  cases result <;> rfl

theorem settled_ensureStarted (child : Child (StateM World)) {session : Session}
    (settled : session.Settled) (world : World) :
    (Session.outcome (Session.ensureStarted child) session world).2.1.Settled := by
  cases settled with
  | stopped => exact .stopped
  | stranded => exact .stranded
  | idle => exact .idle
  | new =>
    have starts : Session.outcome (Session.ensureStarted child) .new world =
        Session.outcome (Session.start child) .new world := rfl
    rw [starts, outcome_start]
    obtain ⟨result, later⟩ := child.start.run world
    cases result with
    | error reason => exact .new
    | ok _ => exact .idle

theorem settled_stop (child : Child (StateM World)) {session : Session}
    (settled : session.Settled) (world : World) :
    (Session.outcome (Session.stop child) session world).2.1.Settled := by
  cases settled with
  | new => exact .stopped
  | stopped => exact .stopped
  | stranded => exact .stopped
  | idle =>
    rw [Session.outcome_stop_of_pipes child rfl]
    obtain ⟨result, later⟩ := child.quit.run world
    cases result with
    | error reason => exact .stranded
    | ok _ => exact .stopped

theorem ran_entry (orderly : child.Orderly) {line : String} (unbroken : '\n' ∉ line.toList)
    {session : Session} (settled : session.Settled) (world : World) :
    Ran line session (Entry.of child (.run line) session world).1.deeds
      ((Entry.of child (.run line) session world).1.result,
        (Entry.of child (.run line) session world).1.session) :=
  ran_run orderly unbroken settled world

theorem settled_entry (orderly : child.Orderly) {call : Call}
    (oneLine : ∀ line, call = .run line → '\n' ∉ line.toList) {session : Session}
    (settled : session.Settled) (world : World) :
    (Entry.of child call session world).1.session.Settled := by
  cases call with
  | run line => exact (ran_entry orderly (oneLine line rfl) settled world).settled
  | ensureStarted =>
    have kept := settled_ensureStarted child.noted settled (world, [])
    rw [← outcome_discard] at kept
    exact kept
  | stop =>
    have kept := settled_stop child.noted settled (world, [])
    rw [← outcome_discard] at kept
    exact kept

theorem stopped_entry (child : Child (StateM World)) (call : Call) (world : World) :
    (Entry.of child call ⟨.stopped, none⟩ world).1.session = ⟨.stopped, none⟩ ∧
      (Entry.of child call ⟨.stopped, none⟩ world).1.deeds = [] ∧
      (call ≠ .stop →
        (Entry.of child call ⟨.stopped, none⟩ world).1.result = .error (.pipe .stopped)) := by
  cases call with
  | run line => exact ⟨rfl, rfl, fun _ => rfl⟩
  | ensureStarted => exact ⟨rfl, rfl, fun _ => rfl⟩
  | stop => exact ⟨rfl, rfl, fun other => absurd rfl other⟩

/-! ## All calls -/

theorem transcript_stopped (calls : List Call) (world : World) :
    ∀ entry ∈ transcript child calls ⟨.stopped, none⟩ world,
      entry.deeds = [] ∧ (entry.call ≠ .stop → entry.result = .error (.pipe .stopped)) := by
  induction calls generalizing world with
  | nil => simp [transcript]
  | cons call calls ih =>
    have ⟨stays, idle⟩ := stopped_entry child call world
    rw [transcript_cons, stays]
    exact List.forall_mem_cons.2 ⟨idle, ih _⟩

theorem refused_entry (orderly : child.Orderly) {call : Call}
    (oneLine : ∀ line, call = .run line → '\n' ∉ line.toList) {session : Session}
    (settled : session.Settled) (world : World) {failure : Failure}
    (refused : (Entry.of child call session world).1.Refused failure) :
    (Entry.of child call session world).1.session = .holding [] := by
  obtain ⟨⟨line, same⟩, failed, told⟩ := refused
  obtain rfl : call = .run line := same
  exact ((ran_entry orderly (oneLine line rfl) settled world).refusals failed told).1

theorem refused_entry_iff (orderly : child.Orderly) {line : String} (unbroken : '\n' ∉ line.toList)
    {session : Session} (settled : session.Settled) (world : World) (failure : Failure) :
    (Entry.of child (.run line) session world).1.Refused failure ↔ ∃ lines last,
      Replied (Entry.of child (.run line) session world).1.deeds line lines last ∧
        errorMark <+: last ∧ failure = .ofMessage (String.ofList last) := by
  have ran := ran_entry orderly unbroken settled world
  constructor
  · rintro ⟨-, failed, told⟩
    exact (ran.refusals failed told).2
  · rintro ⟨lines, last, replied, error, rfl⟩
    have outcome := (ran.of_replied replied).2 error
    exact ⟨⟨line, rfl⟩, congrArg Prod.fst outcome, isTold_ofMessage _⟩

/-- Nothing is started for the first command of an idle session. -/
theorem sent_of_transcript (orderly : child.Orderly) {calls : List Call}
    (oneLine : ∀ line, .run line ∈ calls → '\n' ∉ line.toList) (world : World) :
    ∀ entry ∈ (transcript child calls (.holding []) world).head?, ∀ line, entry.call = .run line →
      ∃ result, entry.deeds = [.send line result] := by
  intro entry member line same
  cases calls with
  | nil => cases member
  | cons call calls =>
    obtain rfl : (Entry.of child call (.holding []) world).1 = entry := Option.some.inj member
    obtain rfl : call = .run line := same
    exact (ran_entry orderly (oneLine line List.mem_cons_self) .idle world).sent_of_idle

theorem paired_transcript (orderly : child.Orderly) (calls : List Call)
    (oneLine : ∀ line, .run line ∈ calls → '\n' ∉ line.toList) {session : Session}
    (settled : session.Settled) (world : World) :
    Paired (transcript child calls session world) := by
  -- What the induction carries from call to call is that the session has nothing to read.
  induction calls generalizing session world with
  | nil =>
    exact ⟨by simp [transcript], by simp [transcript], by simp [transcript], .nil, .nil⟩
  | cons call calls ih =>
    have first : ∀ line, call = .run line → '\n' ∉ line.toList :=
      fun line same => oneLine line (same ▸ List.mem_cons_self)
    have others : ∀ line, .run line ∈ calls → '\n' ∉ line.toList :=
      fun line member => oneLine line (List.mem_cons_of_mem call member)
    have left := settled_entry orderly first settled world
    have rest := ih others left (Entry.of child call session world).2
    rw [transcript_cons]
    refine ⟨List.forall_mem_cons.2 ⟨?outputs, rest.outputs⟩,
      List.forall_mem_cons.2 ⟨?refusals, rest.refusals⟩,
      List.forall_mem_cons.2 ⟨?ready, rest.ready⟩,
      List.isChain_cons.2 ⟨?served, rest.served⟩,
      List.pairwise_cons.2 ⟨?final, rest.final⟩⟩
    case outputs =>
      intro line same text
      obtain rfl : call = .run line := same
      exact (ran_entry orderly (first line rfl) settled world).outputs text
    case refusals =>
      intro line same failure
      obtain rfl : call = .run line := same
      exact refused_entry_iff orderly (first line rfl) settled world failure
    case ready => exact fun failure => refused_entry orderly first settled world
    case served =>
      intro next member failure refused
      -- After the error the session is idle.
      rw [refused_entry orderly first settled world refused] at member
      exact sent_of_transcript orderly others _ next member
    case final =>
      intro next member stopped
      rw [left.eq_of_stopped stopped] at member
      exact transcript_stopped calls _ next member

/-- Whatever the child does, as long as it answers in order, and whichever calls are made one after
the other on a new session, each command has its own reply. -/
theorem replies_paired (orderly : child.Orderly) (calls : List Call)
    (oneLine : ∀ line, .run line ∈ calls → '\n' ∉ line.toList) (world : World) :
    Paired (transcript child calls .new world) :=
  paired_transcript orderly calls oneLine .new world

end

/-- A child that prints every line back, has no file called missing and exits when told so. -/
def echoing : Child (StateM Unit) where
  start := return .ok ()
  send line := return .ok <|
    if line = "quit" then ⟨[], none⟩
    else if line = "info missing.rrd" then
      ⟨written [errorMark ++ "opening 'missing.rrd': No such file or directory".toList], none⟩
    else ⟨written [' ' :: line.toList, successMark ++ "0.00 s:0.00 r:0.00".toList], none⟩
  quit := return .ok ()

theorem orderly_echoing : echoing.Orderly := by
  intro line _ answer unbroken printed
  obtain rfl := Except.ok.inj printed
  split
  · exact .brokenOff [] [] none (by simp) (by simp)
  · split
    · exact .finished [] _ none (by simp) ⟨by decide, .inr (List.prefix_append _ _)⟩
    · have plain : Plain (' ' :: line.toList) :=
        plain_cons (by simpa using unbroken) (by decide) (by decide)
      exact .finished [' ' :: line.toList] _ none (by simpa using plain)
        ⟨by decide, .inl (List.prefix_append _ _)⟩

def lifecycle : List Call :=
  [.run "info cpu.rrd", .run "info missing.rrd", .run "last cpu.rrd", .ensureStarted, .run "quit",
    .run "info cpu.rrd", .ensureStarted, .stop]

theorem replies_paired_lifecycle :
    echoing.Orderly ∧ (∀ line, .run line ∈ lifecycle → '\n' ∉ line.toList) ∧
      Paired (transcript echoing lifecycle .new ()) := by
  have oneLine : ∀ line, .run line ∈ lifecycle → '\n' ∉ line.toList := by
    intro line member
    simp only [lifecycle, List.mem_cons, Call.run.injEq, List.not_mem_nil, reduceCtorEq, or_false,
      false_or] at member
    rcases member with rfl | rfl | rfl | rfl | rfl <;> decide
  exact ⟨orderly_echoing, oneLine, replies_paired orderly_echoing lifecycle oneLine ()⟩

example : (transcript echoing lifecycle .new ()).map (·.session.state) =
    [.running, .running, .running, .running, .stopped, .stopped, .stopped, .stopped] := by
  decide

end SeriesQuery.Rrd
