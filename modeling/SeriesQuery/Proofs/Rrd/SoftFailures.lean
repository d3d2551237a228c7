import SeriesQuery.Proofs.Journal
import SeriesQuery.Proofs.Rrd.Replies
import SeriesQuery.Proofs.Text.Stretches
import SeriesQuery.Rrd.Store

/-!
When a read finds nothing and when it fails. A read looks at its file and then reads from it; of a
file that is missing in either step there is nothing to read, and every other failure is one of the
read. How the tool is run makes no difference.
-/

set_option autoImplicit false

namespace SeriesQuery

namespace Rrd

variable {World : Type}

/-! ## The two commands of a read -/

/-- What comes of the two commands of a read. The second one is for what the first one finds. -/
inductive Told where
  | unknown (failure : Failure)
  | unread (resolved : Compiled) (failure : Failure)
  | read (resolved : Compiled) (output : String)

namespace Told

def problem? : Told → Option ResponseProblem
  | .read resolved output =>
    match resolved.result output with
    | .ok _ => none
    | .error problem => some problem
  | _ => none

def issued (path : String) : Told → List Command
  | .unknown _ => [.info path]
  | .unread resolved _ | .read resolved _ => [.info path, resolved.command]

def answered : Told → Except SeriesQuery.Failure SeriesResult
  | .unknown failure => .error (.rrd failure)
  | .unread resolved failure =>
    .error (.execution .rrdtool (resolved.command.line none) (.rrd failure))
  | .read resolved output =>
    match resolved.result output with
    | .ok result => .ok (result.note "query" (.string (resolved.command.line none)))
    | .error problem => .error (.response .rrdtool problem)

end Told

/-- What the commands of a read come to, and how things stand after them. -/
def told (run : Run (StateT Session (StateM World))) (compiled : Compiled) (session : Session)
    (world : World) : Told × Session × World :=
  match Session.outcome (run (.info compiled.path)) session world with
  | (.error failure, session, world) => (.unknown failure, session, world)
  | (.ok info, session, world) =>
    let resolved := compiled.resolve (FileInfo.read info).dataSources
    match Session.outcome (run resolved.command) session world with
    | (.error failure, session, world) => (.unread resolved failure, session, world)
    | (.ok output, session, world) => (.read resolved output, session, world)

section
variable {ε α β : Type} (session : Session) (world : World)

variable (run : Run (StateT Session (StateM World))) (compiled : Compiled)

end

/-- How a run of its own tells that a line is about an error. -/
def errorWord : List Char := "ERROR".toList

theorem splitOn_written {lines : List (List Char)} (unbroken : ∀ line ∈ lines, '\n' ∉ line)
    (rest : List Char) : (written lines ++ rest).splitOn '\n' = lines ++ rest.splitOn '\n' :=
  splitOn_ended unbroken rest

theorem dropReturn_eq (line : List Char) :
    Text.dropReturn line = line ∨ line = Text.dropReturn line ++ ['\r'] := by
  unfold Text.dropReturn
  split
  next last =>
    right
    exact (List.dropLast_append_getLast? '\r' last).symm
  next => exact .inl rfl

theorem ofMessage_dropReturn (line : List Char) :
    Failure.ofMessage (String.ofList (Text.dropReturn line)) =
      Failure.ofMessage (String.ofList line) := by
  rcases dropReturn_eq line with same | same
  · rw [same]
  · conv_rhs => rw [same]
    exact (ofMessage_concat (by decide) _).symm

theorem errorWord_prefix_dropReturn {line : List Char} :
    errorWord <+: Text.dropReturn line ↔ errorWord <+: line := by
  rcases dropReturn_eq line with same | same
  · rw [same]
  · refine ⟨fun starts => same ▸ starts.trans (List.prefix_append _ _), fun starts => ?_⟩
    rw [same] at starts
    rcases List.prefix_concat_iff.1 starts with whole | starts
    · exact absurd (congrArg List.getLast? whole) (by simp [errorWord])
    · exact starts

/-- What a run prints about its failure: this line is the first one about an error. -/
structure ErrorsShow (errors : String) (earlier : List (List Char)) (line rest : List Char) :
    Prop where
  unbroken : ∀ line ∈ earlier, '\n' ∉ line
  silent : ∀ line ∈ earlier, ¬errorWord <+: line
  single : '\n' ∉ line
  text : errors.toList = written earlier ++ line ++ rest
  ends : rest = [] ∨ ∃ more, rest = '\n' :: more

theorem lines_eq {text : String} {ended : List (List Char)} {last : List Char}
    (split : text.toList.splitOn '\n' = ended ++ [last]) :
    Text.lines text = ended.map Text.dropReturn ++ if last.isEmpty then [] else [last] := by
  unfold Text.lines
  rw [split, List.reverse_concat]
  dsimp only
  rw [List.reverse_reverse]
  cases last.isEmpty <;> simp

theorem find?_silent {earlier : List (List Char)} (silent : ∀ line ∈ earlier, ¬errorWord <+: line)
    (rest : List (List Char)) :
    (earlier.map Text.dropReturn ++ rest).find? (fun line => errorWord.isPrefixOf line) =
      rest.find? fun line => errorWord.isPrefixOf line := by
  have none : (earlier.map Text.dropReturn).find? (fun line => errorWord.isPrefixOf line) = none := by
    refine List.find?_eq_none.2 fun line member starts => ?_
    obtain ⟨kept, printed, rfl⟩ := List.mem_map.1 member
    exact silent kept printed (errorWord_prefix_dropReturn.1 (List.isPrefixOf_iff_prefix.1 starts))
  rw [List.find?_append, none]
  rfl

theorem find?_of_errorsShow {errors : String} {earlier : List (List Char)} {line rest : List Char}
    (shows : ErrorsShow errors earlier line rest) (starts : errorWord <+: line) :
    ∃ found, (Text.lines errors).find? (fun line => errorWord.isPrefixOf line) = some found ∧
      (found = line ∨ found = Text.dropReturn line) := by
  have split := shows.text
  rcases shows.ends with rfl | ⟨more, rfl⟩
  · -- The text breaks off behind the line, which keeps what it ends with.
    rw [List.append_nil] at split
    have last := splitOn_written shows.unbroken line
    rw [← split, splitOn_apart shows.single] at last
    have some : line.isEmpty = false := by
      obtain ⟨more, rfl⟩ := starts
      rfl
    refine ⟨line, ?_, .inl rfl⟩
    rw [lines_eq last, find?_silent shows.silent, some]
    exact List.find?_cons_of_pos (List.isPrefixOf_iff_prefix.2 starts)
  · rw [List.append_assoc] at split
    -- The line is ended, and may lose a return character before its end.
    have all := splitOn_written shows.unbroken (line ++ '\n' :: more)
    rw [← split, List.splitOn_append_cons_self, splitOn_apart shows.single] at all
    obtain ⟨others, last, same⟩ : ∃ others last, more.splitOn '\n' = others ++ [last] :=
      ⟨_, _, (List.dropLast_append_getLast (List.splitOn_ne_nil _ _)).symm⟩
    rw [same] at all
    have all : errors.toList.splitOn '\n' = (earlier ++ line :: others) ++ [last] := by
      rw [all]
      simp
    refine ⟨Text.dropReturn line, ?_, .inr rfl⟩
    rw [lines_eq all, List.map_append, List.append_assoc, find?_silent shows.silent]
    exact List.find?_cons_of_pos (List.isPrefixOf_iff_prefix.2 (errorWord_prefix_dropReturn.2 starts))

/-- The line alone says how the run failed. -/
theorem failure_of_errorsShow {output : Output} {earlier : List (List Char)}
    {line rest : List Char} (shows : ErrorsShow output.errors earlier line rest)
    (starts : errorWord <+: line) (name : String) :
    output.failure name = .ofMessage (String.ofList line) := by
  obtain ⟨found, first, same⟩ := find?_of_errorsShow shows starts
  have told : Failure.ofMessage (String.ofList found) = .ofMessage (String.ofList line) := by
    rcases same with rfl | rfl
    · rfl
    · exact ofMessage_dropReturn line
  have visible : (String.ofList found).isEmpty = false := by
    obtain ⟨more, rfl⟩ := List.isPrefixOf_iff_prefix.1 (List.find?_some first)
    simp [errorWord]
  have first : (Text.lines output.errors).find? (fun line => "ERROR".toList.isPrefixOf line) =
    some found := first
  unfold Output.failure
  rw [first]
  dsimp only
  rw [visible, told]
  rfl

/-! ## The tool, run either way -/

/-- A way to run the tool, as things stand. -/
structure Tool (World : Type) where
  runner : Runner
  shell : Shell (StateM World)
  session : Session
  world : World

namespace Tool

def run (tool : Tool World) : Run (StateT Session (StateM World)) := tool.runner.run tool.shell

def child (tool : Tool World) : Child (StateM World) := tool.shell.child tool.runner.binary

def outcome (tool : Tool World) (command : Command) : Except Failure String × Session × World :=
  Session.outcome (tool.run command) tool.session tool.world

def execute (tool : Tool World) (compiled : Compiled) : Except SeriesQuery.Failure QueryResult :=
  (((Rrd.execute tool.run compiled).run.run tool.session).run tool.world).1.1

/-- The tool refuses the command with this line, which a run of its own prints among its errors and
a running child in its answer. -/
inductive Refuses (tool : Tool World) (command : Command) (line : List Char) : Prop where
  | ofRun (single : tool.runner.persistent = false) {output : Output} {later : World}
      (ran : (tool.shell.run tool.runner.binary (command.arguments tool.runner.daemon?)).run
        tool.world = (.ok output, later))
      (failed : output.exit ≠ 0) {earlier : List (List Char)} {rest : List Char}
      (shows : ErrorsShow output.errors earlier line rest)
  | ofChild (persistent : tool.runner.persistent = true) {ready later : World} {answer : Answer}
      (started : Session.outcome (Session.ensureStarted tool.child) tool.session tool.world =
        (.ok (), .holding [], ready))
      (sent : (tool.child.send (command.line tool.runner.daemon?)).run ready = (.ok answer, later))
      {lines : List (List Char)} (shows : answer.Shows lines line)

/-- Both ways make the same failure of the line. -/
theorem Refuses.outcome {tool : Tool World} {command : Command} {line : List Char}
    (refuses : tool.Refuses command line) (starts : errorMark <+: line) :
    (tool.outcome command).1 = .error (.ofMessage (String.ofList line)) := by
  unfold Tool.outcome run Runner.run
  cases refuses with
  | ofRun single ran failed shows =>
    have word : errorWord <+: line := .trans ⟨": ".toList, rfl⟩ starts
    rw [if_neg (by simp [single]), Session.outcome_bind, Session.outcome_lift, ran]
    simp only [Output.result, if_neg failed, failure_of_errorsShow shows word]
    rfl
  | ofChild persistent started sent shows =>
    change (Session.outcome (if _ then Session.run tool.child _ else _) _ _).1 = _
    rw [if_pos persistent, Session.run_eq, Session.outcome_bind, started]
    dsimp only
    rw [outcome_sendLine_idle, sent]
    exact congrArg Prod.fst (conclude_error shows starts)

/-- Where a read fails: in its first command, or in its second one after this information about the
file. -/
inductive Fails (tool : Tool World) (compiled : Compiled) : Option String → List Char → Prop where
  | first {line : List Char} (refuses : tool.Refuses (.info compiled.path) line) :
      Fails tool compiled none line
  | second {info : String} {line : List Char} {after : Session} {later : World}
      (found : tool.outcome (.info compiled.path) = (.ok info, after, later))
      (refuses : { tool with session := after, world := later }.Refuses
        (compiled.resolve (FileInfo.read info).dataSources).command line) :
      Fails tool compiled (some info) line

def toldAt (compiled : Compiled) (failure : Failure) : Option String → Told
  | none => .unknown failure
  | some info => .unread (compiled.resolve (FileInfo.read info).dataSources) failure

theorem Fails.told {tool : Tool World} {compiled : Compiled} {info? : Option String}
    {line : List Char} (fails : tool.Fails compiled info? line) (starts : errorMark <+: line) :
    (told tool.run compiled tool.session tool.world).1 =
      toldAt compiled (.ofMessage (String.ofList line)) info? := by
  unfold Rrd.told
  -- The read stops at the first command that fails, with what was told before.
  cases fails with
  | first refuses =>
    have refused := refuses.outcome starts
    unfold Tool.outcome at refused
    generalize Session.outcome (tool.run (.info compiled.path)) tool.session tool.world = looked
      at refused ⊢
    obtain ⟨result, after, later⟩ := looked
    cases refused
    rfl
  | @second info line after later found refuses =>
    have refused := refuses.outcome starts
    unfold Tool.outcome at found refused
    rw [found]
    change (Session.outcome (tool.run _) after later).1 = _ at refused
    dsimp only
    generalize Session.outcome (tool.run
      (compiled.resolve (FileInfo.read info).dataSources).command) after later = read at refused ⊢
    obtain ⟨result, after, later⟩ := read
    cases refused
    rfl

end Tool

/-! ## Reads -/

/-- What a read of a missing file gives. -/
def nothing : Except SeriesQuery.Failure QueryResult := .ok (.series (backendNote .empty))

end Rrd

end SeriesQuery
