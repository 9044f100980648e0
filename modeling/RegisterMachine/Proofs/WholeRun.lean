import RegisterMachine.Proofs.Arguments
import RegisterMachine.Proofs.Loading
import RegisterMachine.Proofs.Logging

set_option autoImplicit false

namespace RegisterMachine

theorem Session.restart_quiet {κ : Type} (s : Session κ) (quiet : Quiet s.host.log.toList) :
    Quiet (s.restart true).host.log.toList := by
  rw [restart_log, Array.toList_append]
  exact quiet_append _ _ quiet (restarted_quiet _ true)

theorem Session.load_quiet {κ : Type} (p : Program) (s : Session κ)
    (quiet : Quiet s.host.log.toList) : Quiet (s.load p).2.host.log.toList := by
  have cleared := s.restart_quiet quiet
  cases loaded : (s.restart true).machine.load p with
  | mk result machine =>
      simp only [load, loaded]
      cases result with
      | error e => exact cleared
      | ok count =>
          have noted := quiet_append _ _ cleared (loaded_quiet count)
          rw [← Array.toList_push] at noted
          exact noted

theorem Session.load_source_quiet {κ : Type} (source : String) (s : Session κ)
    (quiet : Quiet s.host.log.toList) : Quiet (s.loadSource source).2.host.log.toList := by
  have cleared := s.restart_quiet quiet
  rw [loadSource]
  cases Program.parse source with
  | ok p => exact load_quiet p (s.restart true) cleared
  | error e => exact cleared

inductive CausedBy : LoadError → List String → Prop
  | tooLarge (length capacity : Nat) :
      CausedBy (.tooLarge length capacity) [LoadError.message (.tooLarge length capacity)]
  | instruction (number : Nat) (line tokens : String) :
      CausedBy (.decode number line (.invalidInstruction tokens))
        [LoadError.message (.decode number line (.invalidInstruction tokens)),
          DecodeError.message (.invalidInstruction tokens)]
  | opcode (number : Nat) (line token : String) :
      CausedBy (.decode number line (.invalidOpcode token))
        [LoadError.message (.decode number line (.invalidOpcode token)),
          DecodeError.message (.invalidOpcode token)]
  | arguments (number : Nat) (line : String) (op : Opcode) (operands : String)
      (reason : OperandError) :
      CausedBy (.decode number line (.invalidArguments op operands reason))
        [LoadError.message (.decode number line (.invalidArguments op operands reason)),
          DecodeError.message (.invalidArguments op operands reason), reason.message]

theorem LoadError.caused_by (e : LoadError) : CausedBy e e.causes := by
  cases e with
  | tooLarge length capacity => exact .tooLarge length capacity
  | decode number line cause =>
      cases cause with
      | invalidInstruction tokens => exact .instruction number line tokens
      | invalidOpcode token => exact .opcode number line token
      | invalidArguments op operands reason => exact .arguments number line op operands reason

namespace CommandLine

inductive Explained (headline : String) : List String → String → Prop
  | alone : Explained headline [] ("Error: " ++ headline ++ "\n")
  | one (cause : String) :
      Explained headline [cause]
        ("Error: " ++ headline ++ "\n\nCaused by:\n    " ++ cause ++ "\n")
  | two (first second : String) :
      Explained headline [first, second]
        ("Error: " ++ headline ++ "\n\nCaused by:\n    0: " ++ first ++
          "\n    1: " ++ second ++ "\n")
  | three (first second third : String) :
      Explained headline [first, second, third]
        ("Error: " ++ headline ++ "\n\nCaused by:\n    0: " ++ first ++
          "\n    1: " ++ second ++ "\n    2: " ++ third ++ "\n")

inductive Unreadable : File → String → Prop
  | missing : Unreadable .missing "No such file or directory (os error 2)"
  | refused (error : String) : Unreadable (.unreadable error) error
  | foreign (bytes : List UInt8) (foreign : ¬ Reading.IsText bytes) :
      Unreadable (.content bytes) "stream did not contain valid UTF-8"

def Options.session (options : Options) (capacity : Capacity) (source : String)
    (stdin : List UInt8) : Except LoadError Nat × Session Terminal :=
  let (result, s) := (Session.start capacity ({ unread := stdin } : Terminal)).loadSource source
  (result, s.setTrace options.trace)

structure Heard (subscriber : Subscriber) (directives? : Option String) (text : String)
    (events : List Event) (stdout : String) : Prop where
  off : directives? = some "off" → stdout = text
  standard : directives? = none → Quiet events → stdout = text
  mixed : ∃ logger, subscriber.Installs directives? logger ∧ Interleaved logger text events stdout

structure Composes (subscriber : Subscriber) (directives? : Option String) (options : Options)
    (file : File) (stdin : List UInt8) : Prop where
  understood : ∀ arguments environment?,
    Options.parse? arguments environment? = some options ↔
      ∃ said, Saying.Arranged said arguments ∧ Saying.Chosen said environment? options
  -- Whatever the file is.
  badCapacity : (options.size = 0 ∨ 2147483647 < options.size) → ∀ limit,
    executeUnder subscriber directives? limit options file stdin = some
      { exitCode := 1
        stdout := ""
        stderr := "Error: memory capacity must be between 1 and 2147483647, got " ++
          options.size.repr ++ "\n" }
  unreadable : ∀ (capacity : Capacity) (cause : String), capacity.size = options.size →
    Unreadable file cause →
    ∃ stderr, Explained ("reading program from " ++ options.path) [cause] stderr ∧ ∀ limit,
      executeUnder subscriber directives? limit options file stdin =
        some { exitCode := 1, stdout := "", stderr }
  -- No step is taken: the limit can be zero.
  unloadable : ∀ (capacity : Capacity) (source : String) (e : LoadError),
    capacity.size = options.size → file = .content (Text.utf8 source.toList) →
    (options.session capacity source stdin).1 = .error e →
    ∃ causes stderr stdout, CausedBy e causes ∧
      Explained ("loading program from " ++ options.path) causes stderr ∧
      Heard subscriber directives? ("Reading program from " ++ options.path ++ "\n")
        (options.session capacity source stdin).2.host.log.toList stdout ∧
      (directives? = none → stdout = "Reading program from " ++ options.path ++ "\n") ∧
      ∀ limit, executeUnder subscriber directives? limit options file stdin =
        some { exitCode := 1, stdout, stderr }
  ends : ∀ (capacity : Capacity) (source : String) (count : Nat) (status : Status)
    (final : Session Terminal), capacity.size = options.size →
    file = .content (Text.utf8 source.toList) →
    (options.session capacity source stdin).1 = .ok count →
    (options.session capacity source stdin).2.Runs status final →
    ∃ steps stdout, Heard subscriber directives?
        ("Reading program from " ++ options.path ++ "\n" ++ final.host.console.written ++
          registerLine final.machine.registers ++ "\n")
        final.host.log.toList stdout ∧
      ∀ limit, executeUnder subscriber directives? limit options file stdin =
        if steps ≤ limit then some { exitCode := 0, stdout, stderr := "" } else none
  runsOn : ∀ (capacity : Capacity) (source : String) (count : Nat),
    capacity.size = options.size → file = .content (Text.utf8 source.toList) →
    (options.session capacity source stdin).1 = .ok count →
    (∀ status final, ¬ (options.session capacity source stdin).2.Runs status final) →
    ∀ limit, executeUnder subscriber directives? limit options file stdin = none
  unlogged : directives? = some "off" → ∀ limit,
    executeUnder subscriber directives? limit options file stdin =
      execute limit options file stdin

theorem logger_off (subscriber : Subscriber) (documented : subscriber.Documented) :
    subscriber.logger (some "off") = .silent := by
  rw [Subscriber.logger, Option.filter_some_pos documented.accepted]
  exact funext documented.off

theorem heard_of_interleaved (subscriber : Subscriber) (directives? : Option String)
    (text stdout : String) (events : List Event) (documented : subscriber.Documented)
    (mixed : Interleaved (subscriber.logger directives?) text events stdout) :
    Heard subscriber directives? text events stdout where
  off silenced := by
    subst silenced
    rw [logger_off subscriber documented] at mixed
    exact interleaved_silent _ text stdout events mixed fun _ _ => rfl
  standard unset quiet := by
    subst unset
    exact interleaved_silent _ text stdout events mixed
      fun event noted => documented.warn event (quiet event noted)
  mixed := ⟨_, logger_installed subscriber directives?, mixed⟩

theorem explained_respelled (headline text other : String) (causes : List String)
    (explained : Explained headline causes text) (same : text.toList = other.toList) :
    Explained headline causes other :=
  String.toList_inj.mp same ▸ explained

theorem Failure.text_explained (failure : Failure) (few : failure.causes.length ≤ 3) :
    Explained failure.headline failure.causes failure.text := by
  have one : Nat.toDigits 10 1 = ['1'] := by decide
  have two : Nat.toDigits 10 2 = ['2'] := by decide
  rw [text]
  generalize failure.headline = headline
  match failure.causes, few with
  | [], _ => exact .alone
  | [cause], _ =>
      apply explained_respelled _ _ _ _ (.one cause)
      simp [causeLines, String.join]
  | [first, second], _ =>
      apply explained_respelled _ _ _ _ (.two first second)
      simp [causeLines, String.join, one]
  | [first, second, third], _ =>
      apply explained_respelled _ _ _ _ (.three first second third)
      simp [causeLines, String.join, one, two]

theorem causes_few (e : LoadError) (causes : List String) (caused : CausedBy e causes) :
    causes.length ≤ 3 := by
  cases caused <;> simp

theorem read_of_unreadable (file : File) (cause : String) (unreadable : Unreadable file cause) :
    file.read = .error cause := by
  cases unreadable with
  | missing => rfl
  | refused error => rfl
  | foreign bytes foreign => rw [File.read, (Reading.from_utf8_none_iff bytes).mpr foreign]

theorem read_of_text (source : String) :
    File.read (.content (Text.utf8 source.toList)) = .ok source := by
  rw [File.read, Text.from_utf8, String.ofList_toList]

theorem Options.session_console (options : Options) (capacity : Capacity) (source : String)
    (stdin : List UInt8) :
    (options.session capacity source stdin).2.host.console = { unread := stdin } :=
  Session.load_source_console source (Session.start capacity ({ unread := stdin } : Terminal))

theorem Options.session_quiet (options : Options) (capacity : Capacity) (source : String)
    (stdin : List UInt8) : Quiet (options.session capacity source stdin).2.host.log.toList :=
  Session.load_source_quiet source (Session.start capacity ({ unread := stdin } : Terminal))
    (restarted_quiet capacity.size true)

-- A session of no console does the load; what it logs is shown after the greeting.
theorem prepare_of_text (logger : Logger) (options : Options) (capacity : Capacity)
    (source : String) (stdin : List UInt8) (size : capacity.size = options.size) :
    ∃ p, Process.Follows logger ("Reading program from " ++ options.path ++ "\n")
        (options.session capacity source stdin).2 p ∧
      prepare logger options (.content (Text.utf8 source.toList)) stdin =
        match (options.session capacity source stdin).1 with
        | .error cause => .error (.loading options.path cause, p.terminal.written)
        | .ok _ => .ok p := by
  have accepted := (Capacity.of_nat_ok_iff options.size capacity).mpr size
  let fresh := Session.start capacity ({ unread := stdin } : Terminal)
  let bare := fresh.bare.loadSource source
  let greeted := (({ unread := stdin } : Terminal).log logger fresh.host.log.toList).reportLogging
    logger (greeting options.path)
  let p : Process :=
    { machine := bare.2.machine.setTrace options.trace
      terminal := greeted.log logger bare.2.host.log.toList }
  have shown : p.terminal.Mixed logger ("" ++ (greeting options.path ++ "\n"))
      ([] ++ fresh.host.log.toList ++ bare.2.host.log.toList) stdin := by
    apply Terminal.log_mixed
    apply Terminal.report_mixed
    apply Terminal.log_mixed
    exact ⟨rfl, rfl, .nothing⟩
  have console := options.session_console capacity source stdin
  have log : (options.session capacity source stdin).2.host.log =
      fresh.host.log ++ bare.2.host.log :=
    Session.load_source_log source fresh
  have whole := (Session.load_source_eq_machine source fresh).trans
    (Session.load_source_eq_machine source fresh.bare).symm
  have result : (options.session capacity source stdin).1 = bare.1 := congrArg Prod.fst whole
  refine ⟨p, ⟨?_, ?_, ?_⟩, ?_⟩
  · exact congrArg (Machine.setTrace options.trace) (congrArg Prod.snd whole).symm
  · exact congrArg Terminal.output console
  · rw [console, log, Array.toList_append, String.append_empty]
    exact shown
  · rw [prepare, accepted, read_of_text, result]
    rfl

theorem prepare_loaded (logger : Logger) (options : Options) (capacity : Capacity)
    (source : String) (stdin : List UInt8) (count : Nat) (size : capacity.size = options.size)
    (loaded : (options.session capacity source stdin).1 = .ok count) :
    ∃ p, Process.Follows logger ("Reading program from " ++ options.path ++ "\n")
        (options.session capacity source stdin).2 p ∧
      prepare logger options (.content (Text.utf8 source.toList)) stdin = .ok p := by
  obtain ⟨p, follows, prepared⟩ := prepare_of_text logger options capacity source stdin size
  rw [loaded] at prepared
  exact ⟨p, follows, prepared⟩

theorem execute_failed (logger : Logger) (options : Options) (file : File) (stdin : List UInt8)
    (failure : Failure) (stdout : String) (few : failure.causes.length ≤ 3)
    (failed : prepare logger options file stdin = .error (failure, stdout)) :
    ∃ stderr, Explained failure.headline failure.causes stderr ∧ ∀ limit,
      executeLogging logger limit options file stdin =
        some { exitCode := 1, stdout, stderr } := by
  refine ⟨failure.text, failure.text_explained few, ?_⟩
  intro limit
  rw [executeLogging, failed]

theorem finish_interleaved (logger : Logger) (opening : String) (s : Session Terminal) (p : Process)
    (follows : Process.Follows logger opening s p) :
    ∃ stdout, Interleaved logger
        (opening ++ s.host.console.written ++ registerLine s.machine.registers ++ "\n")
        s.host.log.toList stdout ∧
      finish logger p = { exitCode := 0, stdout, stderr := "" } := by
  have shown := Terminal.report_mixed (registerLine s.machine.registers) _ follows.overheard.mixed
  rw [← String.append_assoc] at shown
  rw [finish, follows.machine]
  exact ⟨_, shown.written, rfl⟩

theorem execute_ended (logger : Logger) (options : Options) (file : File) (stdin : List UInt8)
    (opening : String) (s final : Session Terminal) (p : Process) (status : Status)
    (prepared : prepare logger options file stdin = .ok p)
    (follows : Process.Follows logger opening s p) (runs : s.Runs status final) :
    ∃ steps stdout, Interleaved logger
        (opening ++ final.host.console.written ++ registerLine final.machine.registers ++ "\n")
        final.host.log.toList stdout ∧
      ∀ limit, executeLogging logger limit options file stdin =
        if steps ≤ limit then some { exitCode := 0, stdout, stderr := "" } else none := by
  obtain ⟨steps, stops, -, same⟩ := Session.stops_after_of_runs s final status runs
  subst same
  obtain ⟨last, ended, run⟩ := Process.run_follows steps s p follows stops
  obtain ⟨stdout, interleaved, finished⟩ := finish_interleaved logger opening _ last ended
  refine ⟨steps, stdout, interleaved, ?_⟩
  intro limit
  rw [executeLogging, prepared]
  show (p.runFor logger limit).map (finish logger) = _
  rw [run limit, ← finished]
  by_cases within : steps ≤ limit
  · rw [if_pos within, if_pos within, Option.map_some]
  · rw [if_neg within, if_neg within, Option.map_none]

theorem command_line_composes_library (subscriber : Subscriber) (documented : subscriber.Documented)
    (directives? : Option String) (options : Options) (file : File) (stdin : List UInt8) :
    Composes subscriber directives? options file stdin where
  understood arguments environment? := Saying.parse_iff arguments environment? options
  badCapacity outside := by
    have refused : Capacity.ofNat options.size = .error { requested := options.size } :=
      (Capacity.of_nat_error_iff _ _).mpr ⟨outside, rfl⟩
    obtain ⟨stderr, explained, ended⟩ := execute_failed (subscriber.logger directives?) options file
      stdin (.capacity { requested := options.size }) "" (Nat.zero_le 3) (by rw [prepare, refused])
    cases explained
    exact ended
  unreadable capacity cause size unreadable := by
    have accepted := (Capacity.of_nat_ok_iff options.size capacity).mpr size
    have refused := read_of_unreadable file cause unreadable
    apply execute_failed _ options file stdin (.reading options.path cause) ""
    · exact Nat.le_add_left 1 2
    · rw [prepare, accepted, refused]
  unloadable capacity source e size content failed := by
    subst content
    obtain ⟨p, follows, prepared⟩ := prepare_of_text (subscriber.logger directives?) options
      capacity source stdin size
    have console := options.session_console capacity source stdin
    have interleaved := follows.overheard.mixed.written
    rw [console, String.append_empty] at interleaved
    have heard := heard_of_interleaved subscriber directives? _ _ _ documented interleaved
    rw [failed] at prepared
    have caused := e.caused_by
    obtain ⟨stderr, explained, ended⟩ := execute_failed _ options _ stdin (.loading options.path e)
      _ (causes_few e _ caused) prepared
    refine ⟨e.causes, stderr, _, caused, explained, heard, ?_, ended⟩
    intro unset
    exact heard.standard unset (options.session_quiet capacity source stdin)
  ends capacity source count status final size content loaded runs := by
    subst content
    obtain ⟨p, follows, prepared⟩ := prepare_loaded (subscriber.logger directives?) options
      capacity source stdin count size loaded
    obtain ⟨steps, stdout, interleaved, ended⟩ := execute_ended _ options _ stdin _ _ final p status
      prepared follows runs
    exact ⟨steps, stdout,
      heard_of_interleaved subscriber directives? _ _ _ documented interleaved, ended⟩
  runsOn capacity source count size content loaded endless := by
    subst content
    obtain ⟨p, follows, prepared⟩ := prepare_loaded (subscriber.logger directives?) options
      capacity source stdin count size loaded
    have unending : ∀ n, ¬ (options.session capacity source stdin).2.StopsAfter n :=
      fun n stops => endless _ _ (Session.runs_of_stops_after n _ stops)
    intro limit
    rw [executeUnder, executeLogging, prepared]
    exact Option.map_eq_none_iff.mpr (Process.run_endless limit _ p follows unending)
  unlogged silenced := by
    subst silenced
    intro limit
    rw [executeUnder, logger_off subscriber documented, execute]

theorem Options.session_of_parse (options : Options) (capacity : Capacity) (source : String)
    (p : Program) (stdin : List UInt8) (parsed : Program.parse source = .ok p) :
    options.session capacity source stdin =
      let loaded := ((Session.start capacity ({ unread := stdin } : Terminal)).restart true).load p
      (loaded.1, loaded.2.setTrace options.trace) := by
  rw [Options.session, Session.load_source_of_parse _ p _ parsed]

def straying : Program := [
  .registers .input .first .first .first,
  .registers .output .first .first .first,
  .offset .load .first (-1) .first]

def strayingSession : Session Terminal :=
  (((Session.start { size := 3 } ({ unread := [55, 10] } : Terminal)).restart true).load
    straying).2.setTrace false

theorem straying_session (options : Options) (untraced : options.trace = false) :
    options.session { size := 3 } "IN 0,0,0\nOUT 0,0,0\nLD 0,-1(0)" [55, 10] =
      (.ok 3, strayingSession) := by
  have parsed : Program.parse "IN 0,0,0\nOUT 0,0,0\nLD 0,-1(0)" = .ok straying := by rfl
  rw [options.session_of_parse _ _ straying _ parsed, untraced]
  rfl

theorem straying_runs : strayingSession.Runs .dataFault (strayingSession.stepN 3) := by
  have running : ∀ i < 3, (strayingSession.stepN i).machine.status = .ok := by decide
  have status : (strayingSession.stepN 3).machine.status = .dataFault := by decide
  have stops : strayingSession.StopsAfter 3 :=
    ⟨by decide, by decide, fun i _ before => running i before⟩
  rw [← status]
  exact Session.runs_of_stops_after 3 strayingSession stops

theorem straying_written : (strayingSession.stepN 3).host.console.written =
    "Enter number to store in register 0: 7\n" ++
      "Data memory access violation. Program halted.\n" := by rfl

theorem straying_registers : registerLine (strayingSession.stepN 3).machine.registers =
    "0: 00000000007  1: 00000000000  2: 00000000000  3: 00000000000  " ++
      "4: 00000000000  5: 00000000000  6: 00000000000  7: 00000000003" := by rfl

def brief : Program := [
  .registers .output .first .first .first,
  .registers .halt .first .first .first]

def tracedSession : Session Terminal :=
  (((Session.start { size := 3 } ({ unread := [55, 10] } : Terminal)).restart true).load
    brief).2.setTrace true

theorem traced_session (options : Options) (traced : options.trace = true) :
    options.session { size := 3 } "OUT 0,0,0\nHALT 0,0,0" [55, 10] = (.ok 2, tracedSession) := by
  have parsed : Program.parse "OUT 0,0,0\nHALT 0,0,0" = .ok brief := by rfl
  rw [options.session_of_parse _ _ brief _ parsed, traced]
  rfl

theorem traced_runs : tracedSession.Runs .halted (tracedSession.stepN 2) := by
  have running : ∀ i < 2, (tracedSession.stepN i).machine.status = .ok := by decide
  have status : (tracedSession.stepN 2).machine.status = .halted := by decide
  have stops : tracedSession.StopsAfter 2 :=
    ⟨by decide, by decide, fun i _ before => running i before⟩
  rw [← status]
  exact Session.runs_of_stops_after 2 tracedSession stops

theorem traced_written : (tracedSession.stepN 2).host.console.written =
    "Executing: OUT  0,0,0\n0\n" ++ "Executing: HALT 0,0,0\nProgram halted.\n" := by rfl

theorem traced_registers : registerLine (tracedSession.stepN 2).machine.registers =
    "0: 00000000000  1: 00000000000  2: 00000000000  3: 00000000000  " ++
      "4: 00000000000  5: 00000000000  6: 00000000000  7: 00000000002" := by rfl

theorem traced_quiet : Quiet (tracedSession.stepN 2).host.log.toList := by decide

def warningsOnly : Subscriber where
  accepts _ := true
  shows directives event :=
    if directives = "off" ∨ event.level ≠ .warn then "" else event.text ++ "\n"

theorem warnings_only_documented : warningsOnly.Documented where
  accepted := rfl
  off event := by simp [warningsOnly]
  warn event low := by simp [warningsOnly, low]

-- Each stage in its turn, with nothing of the log shown: a size of zero, no file, a bad register in
-- the file, and a fault. A run that is traced and halts needs no such request.
theorem fault_and_failures_from_the_command_line :
    let options : Options := { path := "p", size := 3, trace := false }
    let stdin : List UInt8 := [55, 10]
    let broken : File := .content (Text.utf8 "HALT 0,0,0\nLD 9,x(2)".toList)
    let sound : File := .content (Text.utf8 "IN 0,0,0\nOUT 0,0,0\nLD 0,-1(0)".toList)
    let halting : File := .content (Text.utf8 "OUT 0,0,0\nHALT 0,0,0".toList)
    warningsOnly.Documented ∧
      Options.parse? ["--mem-size=3", "p"] (some "12") = some options ∧
      Options.parse? ["p", "--trace"] (some "3") = some { options with trace := true } ∧
      (∀ limit,
        executeUnder warningsOnly (some "off") limit { options with size := 0 } .missing stdin = some
        { exitCode := 1
          stdout := ""
          stderr := "Error: memory capacity must be between 1 and 2147483647, got 0\n" }) ∧
      (∀ limit, executeUnder warningsOnly (some "off") limit options .missing stdin = some
        { exitCode := 1
          stdout := ""
          stderr := "Error: reading program from p\n\nCaused by:\n" ++
            "    No such file or directory (os error 2)\n" }) ∧
      (∀ limit, executeUnder warningsOnly (some "off") limit options broken stdin = some
        { exitCode := 1
          stdout := "Reading program from p\n"
          stderr := "Error: loading program from p\n\nCaused by:\n" ++
            "    0: error parsing program at line 2: LD 9,x(2)\n" ++
            "    1: invalid arguments for opcode LD: '9,x(2)'\n" ++
            "    2: bad register: 9\n" }) ∧
      (∃ steps, ∀ limit, executeUnder warningsOnly (some "off") limit options sound stdin =
        if steps ≤ limit then some
          { exitCode := 0
            stdout := "Reading program from " ++ "p" ++ "\n" ++
              ("Enter number to store in register 0: 7\n" ++
                "Data memory access violation. Program halted.\n") ++
              ("0: 00000000007  1: 00000000000  2: 00000000000  3: 00000000000  " ++
                "4: 00000000000  5: 00000000000  6: 00000000000  7: 00000000003") ++ "\n"
            stderr := "" }
        else none) ∧
      ∃ steps, ∀ limit,
        executeUnder warningsOnly none limit { options with trace := true } halting stdin =
        if steps ≤ limit then some
          { exitCode := 0
            stdout := "Reading program from " ++ "p" ++ "\n" ++
              ("Executing: OUT  0,0,0\n0\n" ++ "Executing: HALT 0,0,0\nProgram halted.\n") ++
              ("0: 00000000000  1: 00000000000  2: 00000000000  3: 00000000000  " ++
                "4: 00000000000  5: 00000000000  6: 00000000000  7: 00000000002") ++ "\n"
            stderr := "" }
        else none := by
  intro options stdin broken sound halting
  let capacity : Capacity := { size := 3 }
  have composed := command_line_composes_library warningsOnly warnings_only_documented
  have digits := (Numeral.is_digits_iff ['3']).mpr (by decide)
  have plain : Saying.Plain "p" := by simp [Saying.Plain]
  refine ⟨warnings_only_documented, ?_, ?_, ?_, ?_, ?_, ?_, ?_⟩
  · have arranged : Saying.Arranged [.size "3", .path "p"] ["--mem-size=3", "p"] :=
      .next _ _ _ _ (.attached "3") (.next _ _ _ _ (.path "p" plain) .nothing)
    apply ((composed none options .missing stdin).understood _ _).mpr
    exact ⟨_, arranged, rfl, by decide, .option "3" _ 3 ⟨.bare _ digits, by decide⟩, rfl⟩
  · have arranged : Saying.Arranged [.path "p", .trace] ["p", "--trace"] :=
      .next _ _ _ _ (.path "p" plain) (.next _ _ _ _ .trace .nothing)
    apply ((composed none { options with trace := true } .missing stdin).understood _ _).mpr
    exact ⟨_, arranged, rfl, by decide, .environment "3" 3 ⟨.bare _ digits, by decide⟩, rfl⟩
  · have text : "Error: memory capacity must be between 1 and 2147483647, got " ++ (0).repr ++
        "\n" = "Error: memory capacity must be between 1 and 2147483647, got 0\n" := rfl
    rw [← text]
    exact (composed (some "off") { options with size := 0 } .missing stdin).badCapacity (.inl rfl)
  · obtain ⟨stderr, explained, ended⟩ :=
      (composed (some "off") options .missing stdin).unreadable capacity _ rfl .missing
    cases explained
    exact ended
  · have failed : (options.session capacity "HALT 0,0,0\nLD 9,x(2)" stdin).1 =
        .error (.decode 2 "LD 9,x(2)"
          (.invalidArguments (.onOffset .load) "9,x(2)" (.badRegister 9))) := rfl
    obtain ⟨causes, stderr, stdout, caused, explained, heard, -, ended⟩ :=
      (composed (some "off") options broken stdin).unloadable capacity _ _ rfl rfl failed
    cases heard.off rfl
    cases caused
    cases explained
    exact ended
  · have session := straying_session options rfl
    have loaded : (options.session capacity "IN 0,0,0\nOUT 0,0,0\nLD 0,-1(0)" stdin).1 =
        .ok 3 := by
      rw [session]
    have runs : (options.session capacity "IN 0,0,0\nOUT 0,0,0\nLD 0,-1(0)" stdin).2.Runs
        .dataFault (strayingSession.stepN 3) := by
      rw [session]
      exact straying_runs
    obtain ⟨steps, stdout, heard, ended⟩ :=
      (composed (some "off") options sound stdin).ends capacity _ 3 _ _ rfl rfl loaded runs
    cases heard.off rfl
    rw [straying_written, straying_registers] at ended
    exact ⟨steps, ended⟩
  · have session := traced_session { options with trace := true } rfl
    have loaded : ({ options with trace := true }.session capacity "OUT 0,0,0\nHALT 0,0,0"
        stdin).1 = .ok 2 := by
      rw [session]
    have runs : ({ options with trace := true }.session capacity "OUT 0,0,0\nHALT 0,0,0"
        stdin).2.Runs .halted (tracedSession.stepN 2) := by
      rw [session]
      exact traced_runs
    obtain ⟨steps, stdout, heard, ended⟩ :=
      (composed none { options with trace := true } halting stdin).ends capacity _ 2 _ _ rfl rfl
        loaded runs
    cases heard.standard rfl traced_quiet
    rw [traced_written, traced_registers] at ended
    exact ⟨steps, ended⟩

end CommandLine

end RegisterMachine
