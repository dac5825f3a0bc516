import FormReply.Program.Run
import FormReply.Proofs.Reply.Refusal
import FormReply.Proofs.Response
import FormReply.Proofs.Settings.Load

/-!
# All or nothing

A run writes the whole answer to its request, or it writes nothing and reports what is wrong: with
the settings, or else with the request.

* `IsFault`, `FailsFor`: what a run may fail for, and what it fails for;
* `run_of_error`, `run_of_loads`: a run ends at its settings or with what becomes of its request;
* `exists_run_of_failsFor`: **a run fails** for the fault that is found first;
* `run_congr_of_not_post`: **a run that posts nothing** depends on its method alone;
* `all_or_nothing`: **a run** writes the whole answer or nothing.
-/

namespace FormReply.Run

/-- What a run may fail for. -/
inductive Fault where
  | settings (e : Settings.LoadError)
  | request (e : Refusal)

/-- The order of the checks. -/
def Fault.rank : Fault → Nat
  | .settings _ => 0
  | .request e => e.rank

/-- What is reported. -/
def Fault.report : Fault → String
  | .settings e => errorReport "echo-cgi.conf" (some e.message)
  | .request e => errorReport e.message e.cause?

/-- What is wrong with the settings at a path, or with a request.  A body counts under the settings
that are loaded, where a form is posted. -/
inductive IsFault (path : String) (file : Settings.File) (env : Environment) (input : Input) :
    Fault → Prop where
  | settings {e : Settings.LoadError} (h : Settings.load path file = .error e) :
      IsFault path file env input (.settings e)
  | method {e : Refusal} (h : Reply.IsMethodFault env e) : IsFault path file env input (.request e)
  | body {settings : Settings} (hs : Settings.Loads file settings) (hpost : Reply.IsPost env)
      {e : Refusal} (h : Reply.IsBodyFault settings (Request.readLossy env "CONTENT_TYPE")
        (Reply.announcedLength env) input e) : IsFault path file env input (.request e)

/-- The path of the settings file, as it is reported. -/
def settingsPath (options : Options) : String :=
  String.ofList (Utf8.decodeLossy options.settingsPath)

/-- Of the faults of a run, this one is found first. -/
def FailsFor (options : Options) (files : Bytes → Settings.File) (env : Environment)
    (input : Input) (fault : Fault) : Prop :=
  MinimalFor (IsFault (settingsPath options) (files options.settingsPath) env input) Fault.rank
    fault

/-! ### Faults -/

section

variable {path : String} {file : Settings.File} {options : Options}
  {files : Bytes → Settings.File} {env : Environment} {input : Input}

/-- Under the settings that are loaded, a request has its own faults. -/
theorem isFault_request_iff {settings : Settings} (hs : Settings.Loads file settings)
    {e : Refusal} :
    IsFault path file env input (.request e) ↔ Reply.IsFault settings env input e := by
  constructor
  · intro h
    cases h with
    | method he => exact Or.inl he
    | body hs' hpost he =>
      obtain rfl := hs.unique hs'
      exact Or.inr ⟨hpost, he⟩
  · rintro (he | ⟨hpost, he⟩)
    · exact .method he
    · exact .body hs hpost he

/-- Without a fault, the settings are loaded and nothing is wrong with the request. -/
theorem exists_isAnswerable_iff (path : String) :
    (∃ settings, Settings.Loads file settings ∧ Reply.IsAnswerable settings env input) ↔
      ∀ fault, ¬ IsFault path file env input fault := by
  constructor
  · rintro ⟨settings, hs, hanswer⟩ fault hfault
    cases fault with
    | settings e =>
      cases hfault with
      | settings he => exact hs.ne_error e he
    | request e => exact Reply.isAnswerable_iff.1 hanswer e ((isFault_request_iff hs).1 hfault)
  · intro h
    rcases Settings.exists_loads_or_error path file with ⟨settings, hs⟩ | ⟨e, he⟩
    · exact ⟨settings, hs, Reply.isAnswerable_iff.2 fun e he =>
        h _ ((isFault_request_iff hs).2 he)⟩
    · exact absurd (.settings he) (h _)

/-- Under the settings that are loaded, the fault of the request that is found first counts. -/
theorem failsFor_request_iff {settings : Settings}
    (hs : Settings.Loads (files options.settingsPath) settings) {e : Refusal} :
    FailsFor options files env input (.request e) ↔
      MinimalFor (Reply.IsFault settings env input) Refusal.rank e := by
  constructor
  · intro h
    exact ⟨(isFault_request_iff hs).1 h.prop,
      fun e' he' hle => h.le_of_le ((isFault_request_iff hs).2 he') hle⟩
  · intro h
    refine ⟨(isFault_request_iff hs).2 h.prop, fun fault hfault hle => ?_⟩
    cases fault with
    | settings e' =>
      cases hfault with
      | settings he' => exact absurd he' (hs.ne_error e')
    | request e' => exact h.le_of_le ((isFault_request_iff hs).1 hfault) hle

/-- Either nothing is wrong, or some fault is found first. -/
theorem answerable_or_failsFor (options : Options) (files : Bytes → Settings.File)
    (env : Environment) (input : Input) :
    (∃ settings, Settings.Loads (files options.settingsPath) settings ∧
      Reply.IsAnswerable settings env input) ∨ ∃ fault, FailsFor options files env input fault := by
  rw [exists_isAnswerable_iff (settingsPath options)]
  by_cases h : ∃ fault, IsFault (settingsPath options) (files options.settingsPath) env input fault
  · exact Or.inr (exists_minimalFor_of_wellFoundedLT _ _ h)
  · exact Or.inl fun fault hfault => h ⟨fault, hfault⟩

end

/-! ### Runs -/

/-- An answer is written as a whole. -/
theorem ofReply_of_ok {reply : Reply} {response : Response} (h : reply.outcome = .ok response) :
    ofReply reply = ⟨0, response.bytes, logText reply.log⟩ := by
  simp only [ofReply, h, Response.writeTo_unlimited, List.nil_append]

section

variable {arguments : List Bytes} {options : Options}
  (hargs : Invocation.ofArguments arguments = .run options) {files : Bytes → Settings.File}
  {env : Environment} (elapsed : Nat) {input : Input}

include hargs

/-- Settings that cannot be loaded end a run. -/
theorem run_of_error {e : Settings.LoadError}
    (h : Settings.load (settingsPath options) (files options.settingsPath) = .error e) :
    run arguments files env elapsed input = badSettings e := by
  rw [settingsPath] at h
  simp only [run, Job.prepare, hargs, h]

/-- Otherwise a run ends with what becomes of its request. -/
theorem run_of_loads {settings : Settings}
    (h : Settings.Loads (files options.settingsPath) settings) :
    run arguments files env elapsed input =
      ofReply (Reply.handle settings env elapsed input) := by
  simp only [run, Job.prepare, hargs, Settings.load_eq_ok_iff.2 h, Reply.handle]
  cases Request.ofEnvironment env with
  | error fault => rfl
  | ok request => rfl

/-- A run with which nothing is wrong writes the answer to its request. -/
theorem exists_run_of_isAnswerable {settings : Settings}
    (hs : Settings.Loads (files options.settingsPath) settings)
    (h : Reply.IsAnswerable settings env input) :
    ∃ response, (Reply.handle settings env elapsed input).outcome = .ok response ∧
      (run arguments files env elapsed input).exitCode = 0 ∧
      (run arguments files env elapsed input).output = response.bytes := by
  obtain ⟨response, hok⟩ := Reply.exists_outcome_of_isAnswerable h elapsed
  refine ⟨response, hok, ?_⟩
  rw [run_of_loads hargs elapsed hs, ofReply_of_ok hok]
  exact ⟨rfl, rfl⟩

/-- **A run fails** for the fault that is found first; with `debug`, it also leaves the log. -/
theorem exists_run_of_failsFor {fault : Fault} (h : FailsFor options files env input fault) :
    ∃ log, run arguments files env elapsed input = ⟨1, [], logText log ++ fault.report⟩ ∧
      (log = [] ∨ ∃ settings, Settings.Loads (files options.settingsPath) settings ∧
        settings.debug = true ∧ log = (Reply.handle settings env elapsed input).log) := by
  cases fault with
  | settings e =>
    cases h.prop with
    | settings he =>
      refine ⟨[], ?_, Or.inl rfl⟩
      rw [run_of_error hargs elapsed he]
      rfl
  | request e =>
    rcases Settings.exists_loads_or_error (settingsPath options) (files options.settingsPath) with
      ⟨settings, hs⟩ | ⟨e', he'⟩
    · have houtcome := Reply.outcome_handle_of_first ((failsFor_request_iff hs).1 h) elapsed
      refine ⟨(Reply.handle settings env elapsed input).log, ?_, ?_⟩
      · rw [run_of_loads hargs elapsed hs, ofReply, houtcome]
        rfl
      · by_cases hdebug : settings.debug = true
        · exact Or.inr ⟨settings, hs, hdebug, rfl⟩
        · rw [Bool.not_eq_true] at hdebug
          exact Or.inl (Reply.log_handle_of_not_debug hdebug env elapsed input)
    · -- Settings that are not loaded would have been found before any fault of the request.
      exact absurd (IsFault.settings he') (h.not_prop_of_lt (Refusal.rank_pos e))

theorem exitCode_eq_zero_iff :
    (run arguments files env elapsed input).exitCode = 0 ↔
      ∃ settings, Settings.Loads (files options.settingsPath) settings ∧
        Reply.IsAnswerable settings env input := by
  constructor
  · intro h
    rcases answerable_or_failsFor options files env input with hanswer | ⟨fault, hfault⟩
    · exact hanswer
    · obtain ⟨log, hrun, -⟩ := exists_run_of_failsFor hargs elapsed hfault
      rw [hrun] at h
      exact absurd h (by simp)
  · rintro ⟨settings, hs, hanswer⟩
    obtain ⟨response, -, hcode, -⟩ :=
      exists_run_of_isAnswerable hargs elapsed hs hanswer
    exact hcode

end

/-! ### Runs that post nothing -/

theorem exitCode_output_ofReply {reply reply' : Reply} (h : reply.outcome = reply'.outcome) :
    (ofReply reply).exitCode = (ofReply reply').exitCode ∧
      (ofReply reply).output = (ofReply reply').output := by
  rw [ofReply, ofReply, h]
  cases reply'.outcome with
  | error e => exact ⟨rfl, rfl⟩
  | ok response => exact ⟨rfl, rfl⟩

/-- **A run that posts nothing** depends on its method, and on whether there are settings. -/
theorem run_congr_of_not_post {arguments arguments' : List Bytes} {options options' : Options}
    (hargs : Invocation.ofArguments arguments = .run options)
    (hargs' : Invocation.ofArguments arguments' = .run options')
    {files files' : Bytes → Settings.File} {env env' : Environment} (hpost : ¬ Reply.IsPost env)
    (hmethod : env' Request.methodVariable = env Request.methodVariable)
    (hquiet : Settings.IsQuiet (files options.settingsPath))
    (hquiet' : Settings.IsQuiet (files' options'.settingsPath))
    (hloads : (∃ settings, Settings.Loads (files' options'.settingsPath) settings) ↔
      ∃ settings, Settings.Loads (files options.settingsPath) settings)
    (elapsed elapsed' : Nat) (input input' : Input) :
    (run arguments' files' env' elapsed' input').exitCode =
        (run arguments files env elapsed input).exitCode ∧
      (run arguments' files' env' elapsed' input').output =
        (run arguments files env elapsed input).output := by
  have hpost' : ¬ Reply.IsPost env' := by rwa [Reply.IsPost, hmethod]
  rcases Settings.exists_loads_or_error (settingsPath options) (files options.settingsPath) with
    hsome | ⟨e, he⟩
  · obtain ⟨settings, hs⟩ := hsome
    obtain ⟨settings', hs'⟩ := hloads.2 ⟨settings, hs⟩
    rw [run_of_loads hargs elapsed hs, run_of_loads hargs' elapsed' hs']
    apply exitCode_output_ofReply
    rw [Reply.outcome_handle_of_not_post hpost (hquiet settings hs),
      Reply.outcome_handle_of_not_post hpost' (hquiet' settings' hs'),
      Reply.plainOutcome_congr hmethod]
  · rcases Settings.exists_loads_or_error (settingsPath options') (files' options'.settingsPath)
      with hsome' | ⟨e', he'⟩
    · obtain ⟨settings, hs⟩ := hloads.1 hsome'
      exact absurd he (hs.ne_error e)
    · rw [run_of_error hargs elapsed he, run_of_error hargs' elapsed' he']
      exact ⟨rfl, rfl⟩

/-- **All or nothing.**  A run with options writes the answer to its request as a whole and ends
with zero, or it writes nothing and ends with one.  It ends with zero if settings are loaded and
nothing is wrong with the request, and else it reports the fault that is found first.  Without
`debug`, a run that posts nothing depends on its method alone, once there are settings. -/
theorem all_or_nothing {arguments : List Bytes} {options : Options}
    (hargs : Invocation.ofArguments arguments = .run options) (files : Bytes → Settings.File)
    (env : Environment) (elapsed : Nat) (input : Input) :
    let file := files options.settingsPath
    let r := run arguments files env elapsed input
    ((r.exitCode = 0 ∧ ∃ settings response, Settings.Loads file settings ∧
          (Reply.handle settings env elapsed input).outcome = .ok response ∧
          r.output = response.bytes ∧
          response.writeTo { room := none } = (true, { room := none, taken := r.output })) ∨
        (r.exitCode = 1 ∧ r.output = [])) ∧
      (r.exitCode = 0 ↔
        ∃ settings, Settings.Loads file settings ∧ Reply.IsAnswerable settings env input) ∧
      (r.exitCode = 1 → ∃ fault, FailsFor options files env input fault) ∧
      (∀ fault, FailsFor options files env input fault →
        ∃ log, r = ⟨1, [], logText log ++ fault.report⟩ ∧
          (log = [] ∨ ∃ settings, Settings.Loads file settings ∧ settings.debug = true ∧
            log = (Reply.handle settings env elapsed input).log)) ∧
      (¬ Reply.IsPost env → Settings.IsQuiet file →
        ∀ arguments' options' files' env' elapsed' input',
          Invocation.ofArguments arguments' = .run options' →
          Settings.IsQuiet (files' options'.settingsPath) →
          ((∃ settings, Settings.Loads (files' options'.settingsPath) settings) ↔
            ∃ settings, Settings.Loads file settings) →
          env' Request.methodVariable = env Request.methodVariable →
          let r' := run arguments' files' env' elapsed' input'
          r'.exitCode = r.exitCode ∧ r'.output = r.output) := by
  intro file r
  have hzero : r.exitCode = 0 ↔
      ∃ settings, Settings.Loads file settings ∧ Reply.IsAnswerable settings env input :=
    exitCode_eq_zero_iff hargs elapsed
  refine ⟨?_, hzero, fun hone => ?_, fun fault h => exists_run_of_failsFor hargs elapsed h, ?_⟩
  · rcases answerable_or_failsFor options files env input with ⟨settings, hs, hanswer⟩ | ⟨fault, h⟩
    · obtain ⟨response, hok, hcode, houtput⟩ :=
        exists_run_of_isAnswerable hargs elapsed hs hanswer
      exact Or.inl ⟨hcode, settings, response, hs, hok, houtput,
        houtput ▸ response.writeTo_unlimited []⟩
    · obtain ⟨log, hrun, -⟩ := exists_run_of_failsFor hargs elapsed h
      exact Or.inr ⟨congrArg exitCode hrun, congrArg output hrun⟩
  · rcases answerable_or_failsFor options files env input with hanswer | hfault
    · have hcode : r.exitCode = 0 := hzero.2 hanswer
      omega
    · exact hfault
  · intro hpost hquiet arguments' options' files' env' elapsed' input' hargs' hquiet' hloads hmethod
    exact run_congr_of_not_post hargs hargs' hpost hmethod hquiet hquiet' hloads elapsed elapsed'
      input input'

/-- A body that is over the limit, cut short and of a type that holds no form; and a request that
posts nothing, with what its run writes, there and with another stream, no settings file and a
length. -/
theorem all_or_nothing_of_three_faults :
    let arguments := [Bytes.ofString "--config", Bytes.ofString "/conf"]
    let options : Options := { settingsPath? := some (Bytes.ofString "/conf") }
    let file := Settings.File.content (Bytes.ofString "[ECHO-CGI]\nmax-body-len = 3\n")
    let env := Environment.ofBlock
      (Bytes.ofString "REQUEST_METHOD=POST\x00CONTENT_TYPE=text/plain\x00")
    let input : Input := ⟨Bytes.ofString "a=12", .failure "gone"⟩
    let get := Environment.ofBlock (Bytes.ofString "REQUEST_METHOD=GET\x00")
    let get' := Environment.ofBlock (Bytes.ofString "CONTENT_LENGTH=4\x00REQUEST_METHOD=GET\x00")
    Invocation.ofArguments arguments = .run options ∧
      (∀ e ∈ [.bodyTooLong, .read "gone", .form (.unsupportedContentType "text/plain")],
        IsFault "/conf" file env input (.request e)) ∧
      run arguments (fun _ => file) env 0 input =
        ⟨1, [], "Error: POST body: Maximum content length exceeded.\n"⟩ ∧
      run arguments (fun _ => file) get 0 ⟨[], .done⟩ =
        ⟨0, Bytes.ofString
          "HTTP/1.1 200 OK\nContent-type: application/json\n\nRequest Method: GET\n", ""⟩ ∧
      (run [] (fun _ => .missing) get' 1 input).output =
        (run arguments (fun _ => file) get 0 ⟨[], .done⟩).output := by
  intro arguments options file env input get get'
  have hargs : Invocation.ofArguments arguments = .run options := by decide +kernel
  have hload : Settings.load "/conf" file = .ok { maxBodyLength := 3 } := by decide +kernel
  have hs := Settings.load_eq_ok_iff.1 hload
  have hpost : Reply.IsPost env := by decide +kernel
  have hlength : Reply.announcedLength env = none := by decide +kernel
  refine ⟨hargs, ?_, ?_, by decide +kernel, ?_⟩
  · intro e he
    refine (isFault_request_iff hs).2 (Or.inr ⟨hpost, ?_⟩)
    rw [hlength]
    simp only [List.mem_cons, List.not_mem_nil, or_false] at he
    rcases he with rfl | rfl | rfl
    · exact .tooLong rfl (.delivered (by decide +kernel))
    · exact .cut (.unknown rfl)
    · exact .form (by decide +kernel)
  · have houtcome : (Reply.handle { maxBodyLength := 3 } env 0 input).outcome =
        .error .bodyTooLong := by decide +kernel
    have hfails : FailsFor options (fun _ => file) env input (.request .bodyTooLong) :=
      (failsFor_request_iff hs).2 (Reply.outcome_handle_eq_error_iff.1 houtcome)
    obtain ⟨log, hrun, rfl | ⟨settings, hsettings, hdebug, -⟩⟩ :=
      (all_or_nothing hargs (fun _ => file) env 0 input).2.2.2.1 _ hfails
    · rw [hrun]
      decide +kernel
    · rw [hsettings.unique hs] at hdebug
      exact absurd hdebug (by decide)
  · have hget : ¬ Reply.IsPost get := by decide +kernel
    have hquiet : Settings.IsQuiet file := fun settings h => by rw [h.unique hs]
    have hquiet' : Settings.IsQuiet .missing := fun settings h => by rw [h.unique .missing]
    exact ((all_or_nothing hargs (fun _ => file) get 0 ⟨[], .done⟩).2.2.2.2 hget hquiet [] {}
      (fun _ => .missing) get' 1 input rfl hquiet'
      (iff_of_true ⟨_, .missing⟩ ⟨_, hs⟩) (by decide +kernel)).2

end FormReply.Run
