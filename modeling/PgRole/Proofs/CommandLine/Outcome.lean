import PgRole.Proofs.CommandLine.Password
import PgRole.Proofs.Connector.Rows

/-!
# How runs end

A command prints its whole output, or is cut short before it prints, or has printed and is then cut
short in closing the connection: `Prints`, `Fails` and `Unclosed` have a constructor for each step
where a command can end, and every command ends in one of the three ways. What cuts it short is an
error or a panic (`CutShort`).

`query` closes before it prints, so that it prints all or nothing. `ping` tells that the server
answers before it closes, and does so only as long as closing does not fail. An error is told in one
line unless its message is shown and has line breaks; a panic has a code of its own and no such
line.

* `run_outcome`: how every run of a command ends, and when it is all or nothing.
-/

namespace PgRole.CommandLine

open Call

variable {σ : Type} {w : Surroundings σ} {state : σ} {file : String} {command : Command}
  {text : String} {e : Error} {a : Abort Error}

/-! ## The ends of commands -/

section Ends

variable (w : Surroundings σ) (state : σ) (file : String)

/-- The output of a command where nothing fails. -/
inductive Prints : Command → String → Prop where
  | roles {asJson : Bool} {s : Store} (hs : store w file = .ok s) :
      Prints (.roles asJson) (rolesText asJson s ++ "\n")
  | ping {role : String} {c : Connector} {t t' : Session σ} (hc : connector w file role = .ok c)
      (hping : (Connector.ping w.server).runOn (.start c state) = (.ok (), t))
      (hclose : (Connector.close w.server).runOn t = (.ok (), t')) :
      Prints (.ping role) ("ok: " ++ c.profile.summary ++ "\n")
  | query {role sql : String} {pairs : List String} {all : Bool} {params : Sql.Params}
      {c : Connector} {j : Json} {t t' : Session σ} (hp : Pairs.read pairs = .ok params)
      (hc : connector w file role = .ok c)
      (hquery : (queried w.server sql (some params) all).runOn (.start c state) = (.ok j, t))
      (hclose : (Connector.close w.server).runOn t = (.ok (), t')) :
      Prints (.query role sql pairs all) (j.pretty ++ "\n")

/-- What cuts a command short before it prints. -/
inductive Fails : Command → Abort Error → Prop where
  | file {asJson : Bool} {a : Abort Error} (hs : store w file = .error a) :
      Fails (.roles asJson) a
  | unreachable {role : String} {a : Abort Error} (hc : connector w file role = .error a) :
      Fails (.ping role) a
  | ping {role : String} {c : Connector} {a : Abort Error} {t : Session σ}
      (hc : connector w file role = .ok c)
      (hping : (Connector.ping w.server).runOn (.start c state) = (.error a, t)) :
      Fails (.ping role) a
  | pairs {role sql : String} {pairs : List String} {all : Bool} {f : Pairs.Fault}
      (hp : Pairs.read pairs = .error f) : Fails (.query role sql pairs all) (.error f.error)
  | unqueryable {role sql : String} {pairs : List String} {all : Bool} {params : Sql.Params}
      {a : Abort Error} (hp : Pairs.read pairs = .ok params)
      (hc : connector w file role = .error a) : Fails (.query role sql pairs all) a
  | query {role sql : String} {pairs : List String} {all : Bool} {params : Sql.Params}
      {c : Connector} {a : Abort Error} {t : Session σ} (hp : Pairs.read pairs = .ok params)
      (hc : connector w file role = .ok c)
      (hquery : (queried w.server sql (some params) all).runOn (.start c state) = (.error a, t)) :
      Fails (.query role sql pairs all) a
  | close {role sql : String} {pairs : List String} {all : Bool} {params : Sql.Params}
      {c : Connector} {j : Json} {a : Abort Error} {t t' : Session σ}
      (hp : Pairs.read pairs = .ok params) (hc : connector w file role = .ok c)
      (hquery : (queried w.server sql (some params) all).runOn (.start c state) = (.ok j, t))
      (hclose : (Connector.close w.server).runOn t = (.error a, t')) :
      Fails (.query role sql pairs all) a

/-- The output of a command that is cut short in closing after it has printed, and by what. -/
inductive Unclosed : Command → String → Abort Error → Prop where
  | ping {role : String} {c : Connector} {a : Abort Error} {t t' : Session σ}
      (hc : connector w file role = .ok c)
      (hping : (Connector.ping w.server).runOn (.start c state) = (.ok (), t))
      (hclose : (Connector.close w.server).runOn t = (.error a, t')) :
      Unclosed (.ping role) ("ok: " ++ c.profile.summary ++ "\n") a

/-- What refuses a query as it is asked: a value is not given properly, the file gives no store, the
store no connector for the role, or the text and the values do not match. -/
inductive Refused : Command → Abort Error → Prop where
  | pairs {role sql : String} {pairs : List String} {all : Bool} {f : Pairs.Fault}
      (hp : Pairs.read pairs = .error f) : Refused (.query role sql pairs all) (.error f.error)
  | file {role sql : String} {pairs : List String} {all : Bool} {params : Sql.Params}
      {a : Abort Error} (hp : Pairs.read pairs = .ok params) (hs : store w file = .error a) :
      Refused (.query role sql pairs all) a
  | role {role sql : String} {pairs : List String} {all : Bool} {params : Sql.Params} {s : Store}
      {f : Credentials.Fault} (hp : Pairs.read pairs = .ok params) (hs : store w file = .ok s)
      (hc : Connector.ofStore s role = .error f) :
      Refused (.query role sql pairs all) (.error f.error)
  | placeholders {role sql : String} {pairs : List String} {all : Bool} {params : Sql.Params}
      {c : Connector} {f : Sql.Placeholder.Fault} (hp : Pairs.read pairs = .ok params)
      (hc : connector w file role = .ok c) (hsql : Sql.compile sql (some params) = .error f) :
      Refused (.query role sql pairs all) (.error f.error)

end Ends

/-! ## Steps of a command -/

theorem withConnector_of_error {role : String}
    {use : Connector → Session σ → Report × Session σ} (hc : connector w file role = .error a) :
    withConnector w file role state use = ⟨.aborted a, state, []⟩ := by
  unfold withConnector
  rw [hc]

/-- A connector that there is is used from a fresh session. -/
theorem withConnector_of_ok {role : String} {c : Connector}
    {use : Connector → Session σ → Report × Session σ} (hc : connector w file role = .ok c) :
    withConnector w file role state use = ⟨(use c (.start c state)).1,
      (use c (.start c state)).2.server, (use c (.start c state)).2.sent⟩ := by
  unfold withConnector
  rw [hc]
  rfl

section Steps

variable {role sql : String} {pairs : List String} {params : Sql.Params} {all : Bool}
  {c : Connector} {s t t' : Session σ} {j : Json}

theorem ping_of_error (hping : (Connector.ping w.server).runOn s = (.error a, t)) :
    ping w c s = (.aborted a, t) := by
  unfold ping
  rw [hping]

theorem ping_of_closed (hping : (Connector.ping w.server).runOn s = (.ok (), t))
    (hclose : (Connector.close w.server).runOn t = (.ok (), t')) :
    ping w c s = (.line ("ok: " ++ c.profile.summary), t') := by
  unfold ping
  rw [hping]
  dsimp only
  rw [hclose]

/-- What was told stays told if closing fails. -/
theorem ping_of_unclosed (hping : (Connector.ping w.server).runOn s = (.ok (), t))
    (hclose : (Connector.close w.server).runOn t = (.error a, t')) :
    ping w c s = (⟨"ok: " ++ c.profile.summary ++ "\n", some a⟩, t') := by
  unfold ping
  rw [hping]
  dsimp only
  rw [hclose]
  rfl

/-- No values at all are the same as an empty table of them. -/
theorem compile_given (sql : String) (params : Sql.Params) :
    Sql.compile sql (if params.isEmpty then none else some params) =
      Sql.compile sql (some params) := by
  unfold Sql.compile
  split_ifs with h
  · dsimp only
    rw [if_pos h]
  · rfl

theorem queried_given (srv : Server σ) (sql : String) (params : Sql.Params) (all : Bool) :
    queried srv sql (if params.isEmpty then none else some params) all =
      queried srv sql (some params) all := by
  unfold queried Connector.fetchAll Connector.fetchOne Connector.compile
  rw [compile_given]

/-- A query gives its result, closes, and prints only then. -/
theorem query_eq (w : Surroundings σ) (sql : String) (params : Sql.Params) (all : Bool)
    (s : Session σ) : query w sql params all s =
      match (queried w.server sql (some params) all).runOn s with
      | (.error a, t) => (.aborted a, t)
      | (.ok j, t) =>
        match (Connector.close w.server).runOn t with
        | (.error a, t') => (.aborted a, t')
        | (.ok (), t') => (.line j.pretty, t') := by
  unfold query
  rw [queried_given]
  dsimp only
  rw [runOn_bind]
  rcases (queried w.server sql (some params) all).runOn s with ⟨a | j, t⟩
  · rfl
  · dsimp only
    rw [runOn_bind]
    rcases (Connector.close w.server).runOn t with ⟨a | ⟨⟨⟩⟩, t'⟩ <;> rfl

theorem query_of_error
    (hquery : (queried w.server sql (some params) all).runOn s = (.error a, t)) :
    query w sql params all s = (.aborted a, t) := by
  rw [query_eq, hquery]

theorem query_of_closed (hquery : (queried w.server sql (some params) all).runOn s = (.ok j, t))
    (hclose : (Connector.close w.server).runOn t = (.ok (), t')) :
    query w sql params all s = (.line j.pretty, t') := by
  rw [query_eq, hquery]
  dsimp only
  rw [hclose]

/-- A query that gives its result but cannot close prints nothing. -/
theorem query_of_unclosed (hquery : (queried w.server sql (some params) all).runOn s = (.ok j, t))
    (hclose : (Connector.close w.server).runOn t = (.error a, t')) :
    query w sql params all s = (.aborted a, t') := by
  rw [query_eq, hquery]
  dsimp only
  rw [hclose]

/-- A text that does not compile fails before anything is sent. -/
theorem runOn_queried_of_fault {f : Sql.Placeholder.Fault}
    (hsql : Sql.compile sql (some params) = .error f) :
    (queried w.server sql (some params) all).runOn s = (.error (.error f.error), s) := by
  unfold queried Connector.fetchAll Connector.fetchOne Connector.compile
  rw [hsql]
  cases all <;> rfl

theorem perform_roles (asJson : Bool) :
    perform w state file (.roles asJson) = ⟨roles w file asJson, state, []⟩ := rfl

theorem perform_ping (role : String) :
    perform w state file (.ping role) = withConnector w file role state (ping w) := rfl

theorem perform_query_of_fault {f : Pairs.Fault} (hp : Pairs.read pairs = .error f) :
    perform w state file (.query role sql pairs all) = ⟨.aborted (.error f.error), state, []⟩ := by
  unfold perform
  dsimp only
  rw [hp]

/-- A query whose values are read is a step of a connector. -/
theorem perform_query (hp : Pairs.read pairs = .ok params) :
    perform w state file (.query role sql pairs all) =
      withConnector w file role state fun _ => query w sql params all := by
  unfold perform
  dsimp only
  rw [hp]

end Steps

/-! ## Reports -/

/-- A command that is refused sends nothing. -/
theorem perform_of_refused (h : Refused w file command a) :
    perform w state file command = ⟨.aborted a, state, []⟩ := by
  cases h with
  | pairs hp => exact perform_query_of_fault hp
  | file hp hs =>
    rw [perform_query hp]
    refine withConnector_of_error ?_
    unfold connector
    rw [hs]
    rfl
  | role hp hs hc =>
    rw [perform_query hp]
    refine withConnector_of_error ?_
    rw [connector_eq hs, hc]
    rfl
  | placeholders hp hc hsql =>
    rw [perform_query hp, withConnector_of_ok hc, query_of_error (runOn_queried_of_fault hsql)]
    rfl

theorem Prints.report (h : Prints w state file command text) :
    (perform w state file command).report = ⟨text, none⟩ := by
  cases h with
  | roles hs =>
    rw [perform_roles, CommandLine.roles, hs]
    rfl
  | ping hc hping hclose =>
    rw [perform_ping, withConnector_of_ok hc, ping_of_closed hping hclose]
    rfl
  | query hp hc hquery hclose =>
    rw [perform_query hp, withConnector_of_ok hc, query_of_closed hquery hclose]
    rfl

/-- What cuts a command short before it prints is all that its report has. -/
theorem Fails.report (h : Fails w state file command a) :
    (perform w state file command).report = ⟨"", some a⟩ := by
  cases h with
  | file hs =>
    rw [perform_roles, CommandLine.roles, hs]
    rfl
  | unreachable hc =>
    rw [perform_ping, withConnector_of_error hc]
    rfl
  | ping hc hping =>
    rw [perform_ping, withConnector_of_ok hc, ping_of_error hping]
    rfl
  | pairs hp =>
    rw [perform_query_of_fault hp]
    rfl
  | unqueryable hp hc =>
    rw [perform_query hp, withConnector_of_error hc]
    rfl
  | query hp hc hquery =>
    rw [perform_query hp, withConnector_of_ok hc, query_of_error hquery]
    rfl
  | close hp hc hquery hclose =>
    rw [perform_query hp, withConnector_of_ok hc, query_of_unclosed hquery hclose]
    rfl

theorem Unclosed.report (h : Unclosed w state file command text a) :
    (perform w state file command).report = ⟨text, some a⟩ := by
  cases h with
  | ping hc hping hclose =>
    rw [perform_ping, withConnector_of_ok hc, ping_of_unclosed hping hclose]

theorem Unclosed.text_ne (h : Unclosed w state file command text a) : text ≠ "" := by
  cases h with
  | ping =>
    intro htext
    have := congrArg String.toList htext
    rw [String.append_assoc, String.toList_append] at this
    cases this

/-- Every command ends in one of the ways. -/
theorem exists_end (w : Surroundings σ) (state : σ) (file : String) (command : Command) :
    (∃ text, Prints w state file command text) ∨ (∃ a, Fails w state file command a) ∨
      ∃ text a, Unclosed w state file command text a := by
  -- a command runs to its end or stops at the first step that fails, in the order of its steps
  cases command with
  | roles asJson =>
    cases hs : store w file with
    | error a => exact .inr (.inl ⟨a, .file hs⟩)
    | ok s => exact .inl ⟨_, .roles hs⟩
  | ping role =>
    cases hc : connector w file role with
    | error a => exact .inr (.inl ⟨a, .unreachable hc⟩)
    | ok c =>
      rcases hping : (Connector.ping w.server).runOn (.start c state) with ⟨a | ⟨⟨⟩⟩, t⟩
      · exact .inr (.inl ⟨a, .ping hc hping⟩)
      · -- only `ping` has printed before it closes
        rcases hclose : (Connector.close w.server).runOn t with ⟨a | ⟨⟨⟩⟩, t'⟩
        · exact .inr (.inr ⟨_, a, .ping hc hping hclose⟩)
        · exact .inl ⟨_, .ping hc hping hclose⟩
  | query role sql pairs all =>
    cases hp : Pairs.read pairs with
    | error f => exact .inr (.inl ⟨_, .pairs hp⟩)
    | ok params =>
      cases hc : connector w file role with
      | error a => exact .inr (.inl ⟨a, .unqueryable hp hc⟩)
      | ok c =>
        rcases hquery : (queried w.server sql (some params) all).runOn (.start c state)
          with ⟨a | j, t⟩
        · exact .inr (.inl ⟨a, .query hp hc hquery⟩)
        · rcases hclose : (Connector.close w.server).runOn t with ⟨a | ⟨⟨⟩⟩, t'⟩
          · exact .inr (.inl ⟨a, .close hp hc hquery hclose⟩)
          · exact .inl ⟨_, .query hp hc hquery hclose⟩

/-! ## Lines of errors -/

/-- A text is one line that tells of an error. -/
def IsErrorLine (line : String) : Prop :=
  ∃ told : String, line = "Error: " ++ told ++ "\n" ∧ '\n' ∉ told.toList

/-- The line of an error does not tell its message. -/
def Hides (verbose : Bool) (e : Error) : Prop :=
  verbose = false ∧ (e.kind = .connection ∨ e.kind = .internal)

theorem isErrorLine_iff (told : String) :
    IsErrorLine ("Error: " ++ told ++ "\n") ↔ '\n' ∉ told.toList := by
  constructor
  · rintro ⟨told', heq, htold⟩
    rwa [(String.append_right_inj _).1 ((String.append_left_inj _).1 heq)]
  · exact fun h => ⟨told, rfl, h⟩

theorem not_mem_label (k : Error.Kind) : '\n' ∉ k.label.toList := by
  cases k <;> decide

theorem mem_text_iff (e : Error) : '\n' ∈ e.text.toList ↔ '\n' ∈ e.message.toList := by
  unfold Error.text
  rw [String.toList_append, List.mem_append, or_iff_right (not_mem_label e.kind)]

/-- An error is told in one line unless its message is told and has line breaks. -/
theorem isErrorLine_line_iff (verbose : Bool) (e : Error) :
    IsErrorLine (e.line verbose ++ "\n") ↔ Hides verbose e ∨ '\n' ∉ e.message.toList := by
  unfold Error.line Hides
  rw [isErrorLine_iff]
  cases verbose with
  | true =>
    rw [if_pos rfl, mem_text_iff]
    simp
  | false =>
    rw [if_neg Bool.false_ne_true]
    unfold Error.sanitized
    cases hk : e.kind with
    | connection => simp
    | internal => simp
    | configuration => simp [mem_text_iff]
    | query => simp [mem_text_iff]
    | invalidArgument => simp [mem_text_iff]

/-- A line of an error ends with its only line break. -/
theorem IsErrorLine.count {line : String} (h : IsErrorLine line) : line.toList.count '\n' = 1 := by
  obtain ⟨told, rfl, htold⟩ := h
  rw [String.toList_append, String.toList_append, List.count_append, List.count_append,
    List.count_eq_zero_of_not_mem htold]
  decide

theorem line_of_connection (hk : e.kind = .connection) :
    e.line false = "Error: Database connection error" := by
  unfold Error.line Error.sanitized
  rw [hk]
  rfl

theorem line_of_internal (hk : e.kind = .internal) : e.line false = "Error: Internal error" := by
  unfold Error.line Error.sanitized
  rw [hk]
  rfl

/-! ## All or nothing -/

/-- A run prints the whole output of its command, or nothing but one line for an error. -/
inductive AllOrNothing (w : Surroundings σ) (state : σ) (i : Invocation) : Output → Prop where
  | all {text : String} (h : Prints w state i.file i.command text) :
      AllOrNothing w state i ⟨0, text, ""⟩
  | nothing {line : String} (h : IsErrorLine line) : AllOrNothing w state i ⟨1, "", line⟩

variable {i : Invocation} {args : List String}

theorem AllOrNothing.of_failed {o : Output} (h : AllOrNothing w state i o) (hcode : o.code ≠ 0) :
    o.code = 1 ∧ o.stdout = "" ∧ IsErrorLine o.stderr := by
  cases h with
  | all => exact absurd rfl hcode
  | nothing h => exact ⟨rfl, rfl, h⟩

/-- The output of a run that is cut short after it has printed a text. An error is told in its line;
of what is told of a panic nothing is said. -/
inductive CutShort (verbose : Bool) (text : String) : Abort Error → Output → Prop where
  | error (e : Error) : CutShort verbose text (.error e) ⟨1, text, e.line verbose ++ "\n"⟩
  | panic (told : String) : CutShort verbose text .panic ⟨101, text, told⟩

theorem CutShort.eq_of_error {verbose : Bool} {o : Output}
    (h : CutShort verbose text (.error e) o) : o = ⟨1, text, e.line verbose ++ "\n"⟩ := by
  cases h with
  | error => rfl

/-- A report that was cut short is put out as what cut it short asks for. -/
theorem cutShort_output (verbose : Bool) (text : String) (a : Abort Error) :
    CutShort verbose text a (Report.output verbose ⟨text, some a⟩) := by
  cases a with
  | error e => exact .error e
  | panic => exact .panic ""

/-- A run that is cut short prints nothing but one line only if nothing was printed before, and an
error is told in one line. -/
theorem CutShort.allOrNothing_iff {o : Output} (h : CutShort i.verbose text a o) :
    AllOrNothing w state i o ↔
      text = "" ∧ ∃ e, a = .error e ∧ (Hides i.verbose e ∨ '\n' ∉ e.message.toList) := by
  cases h with
  | error e =>
    constructor
    · intro hall
      obtain ⟨-, htext, hline⟩ := hall.of_failed Nat.one_ne_zero
      exact ⟨htext, e, rfl, (isErrorLine_line_iff i.verbose e).1 hline⟩
    · rintro ⟨rfl, e', he, htold⟩
      cases he
      exact .nothing ((isErrorLine_line_iff i.verbose e).2 htold)
  | panic told =>
    constructor
    · intro hall
      have hcode : 101 = 1 := (hall.of_failed (Nat.succ_ne_zero 100)).1
      omega
    · rintro ⟨-, e, he, -⟩
      cases he

theorem run_eq (h : Invocation.ofArguments args = .ok i) :
    run w state args = ((perform w state i.file i.command).report.output i.verbose,
      (perform w state i.file i.command).sent) := by
  unfold run
  rw [h]

/-- A run of a command prints the output of the command with code zero; or it is cut short and
prints only the line of the error, with code one, or nothing in a panic, with a code of its own; or
it prints and is then cut short in closing. It is all or nothing exactly if it is not cut short in
closing after something was printed, and not by a panic, and no message that is told has line
breaks. A query that is refused sends nothing. Without details, errors of connections and internal
errors are told in the same words whatever their messages. -/
theorem run_outcome (w : Surroundings σ) (state : σ) (h : Invocation.ofArguments args = .ok i) :
    (∀ text, Prints w state i.file i.command text → (run w state args).1 = ⟨0, text, ""⟩) ∧
    (∀ a, Fails w state i.file i.command a → CutShort i.verbose "" a (run w state args).1) ∧
    (∀ text a, Unclosed w state i.file i.command text a →
      CutShort i.verbose text a (run w state args).1) ∧
    ((∃ text, Prints w state i.file i.command text) ∨ (∃ a, Fails w state i.file i.command a) ∨
      ∃ text a, Unclosed w state i.file i.command text a) ∧
    (AllOrNothing w state i (run w state args).1 ↔
      (∀ text a, ¬Unclosed w state i.file i.command text a) ∧
      ∀ a, Fails w state i.file i.command a →
        ∃ e, a = .error e ∧ (Hides i.verbose e ∨ '\n' ∉ e.message.toList)) ∧
    (∀ a, Refused w i.file i.command a →
      CutShort i.verbose "" a (run w state args).1 ∧ (run w state args).2 = []) ∧
    (i.verbose = false → ∀ e, (Fails w state i.file i.command (.error e) ∨
        ∃ text, Unclosed w state i.file i.command text (.error e)) →
      (e.kind = .connection → (run w state args).1.stderr = "Error: Database connection error\n") ∧
      (e.kind = .internal → (run w state args).1.stderr = "Error: Internal error\n")) := by
  have hprints : ∀ text, Prints w state i.file i.command text →
      (run w state args).1 = ⟨0, text, ""⟩ := by
    intro text ht
    rw [run_eq h, ht.report]
    rfl
  have hfails : ∀ a, Fails w state i.file i.command a →
      CutShort i.verbose "" a (run w state args).1 := by
    intro a ha
    rw [run_eq h, ha.report]
    exact cutShort_output i.verbose "" a
  have hunclosed : ∀ text a, Unclosed w state i.file i.command text a →
      CutShort i.verbose text a (run w state args).1 := by
    intro text a ha
    rw [run_eq h, ha.report]
    exact cutShort_output i.verbose text a
  refine ⟨hprints, hfails, hunclosed, exists_end w state i.file i.command, ?_, ?_, ?_⟩
  · -- a run that is cut short is all or nothing if it printed nothing and its error is one line
    constructor
    · intro hall
      refine ⟨fun text a ha => ?_, fun a ha => ((hfails a ha).allOrNothing_iff.1 hall).2⟩
      exact ha.text_ne ((hunclosed text a ha).allOrNothing_iff.1 hall).1
    · rintro ⟨hclosed, htold⟩
      rcases exists_end w state i.file i.command with ⟨text, ht⟩ | ⟨a, ha⟩ | ⟨text, a, ha⟩
      · rw [hprints text ht]
        exact .all ht
      · exact (hfails a ha).allOrNothing_iff.2 ⟨rfl, htold a ha⟩
      · exact absurd ha (hclosed text a)
  · intro a ha
    rw [run_eq h, perform_of_refused ha]
    exact ⟨cutShort_output i.verbose "" a, rfl⟩
  · -- in both cases of an error, the line is a constant of its kind
    intro hverbose e he
    have hline : (run w state args).1.stderr = e.line false ++ "\n" := by
      rw [← hverbose]
      rcases he with he | ⟨text, he⟩
      · rw [(hfails _ he).eq_of_error]
      · rw [(hunclosed text _ he).eq_of_error]
    refine ⟨fun hk => ?_, fun hk => ?_⟩
    · rw [hline, line_of_connection hk]
      decide
    · rw [hline, line_of_internal hk]
      decide

/-- A query with a pair that is none is refused in one line, and nothing is sent. -/
theorem run_outcome_refused :
    Invocation.ofArguments ["query", "-r", "r", "-s", "SELECT 1", "-p", "a"] =
      .ok ⟨"credentials.json", false, .query "r" "SELECT 1" ["a"] false⟩ ∧
    run (.singleWith "p") (some .quiet) ["query", "-r", "r", "-s", "SELECT 1", "-p", "a"] =
      (⟨1, "", "Error: Invalid argument: param 'a' is not KEY=VALUE\n"⟩, []) := by
  have hargs : Invocation.ofArguments ["query", "-r", "r", "-s", "SELECT 1", "-p", "a"] =
      .ok ⟨"credentials.json", false, .query "r" "SELECT 1" ["a"] false⟩ :=
    toOption_eq_some_iff.1 (by decide +kernel)
  obtain ⟨-, -, -, -, -, hrefused, -⟩ := run_outcome (.singleWith "p") (some .quiet) hargs
  obtain ⟨hcut, hsent⟩ := hrefused _ (.pairs rfl)
  exact ⟨hargs, Prod.ext (hcut.eq_of_error.trans (by decide +kernel)) hsent⟩

/-- A server that lets anyone in and is lost when the connection is closed. -/
def Surroundings.unclosing : Surroundings (Option Script) :=
  { Surroundings.singleWith "p" with
    server := { Script.server with terminate := fun s => (.error (.error .lost), s) } }

/-- A run that has told that the server answers before closing fails, one whose error has a line
break in the name of the role, and one that panics over a date that is later than all others. -/
theorem not_allOrNothing :
    (Invocation.ofArguments ["-f", "f.json", "ping", "-r", "r"] =
      .ok ⟨"f.json", false, .ping "r"⟩ ∧
    (run .unclosing (some .quiet) ["-f", "f.json", "ping", "-r", "r"]).1 =
      ⟨1, "ok: u@h:5432/db\n", "Error: Database connection error\n"⟩ ∧
    ¬AllOrNothing .unclosing (some .quiet) ⟨"f.json", false, .ping "r"⟩
      (run .unclosing (some .quiet) ["-f", "f.json", "ping", "-r", "r"]).1) ∧
    (Invocation.ofArguments ["-f", "f.json", "ping", "-r", "x\nError: y"] =
      .ok ⟨"f.json", false, .ping "x\nError: y"⟩ ∧
    (run (.singleWith "p") (some .quiet) ["-f", "f.json", "ping", "-r", "x\nError: y"]).1 =
      ⟨1, "", "Error: Configuration error: Role 'x\nError: y' " ++
        "is not found in the credentials file\n"⟩ ∧
    ¬AllOrNothing (.singleWith "p") (some .quiet) ⟨"f.json", false, .ping "x\nError: y"⟩
      (run (.singleWith "p") (some .quiet) ["-f", "f.json", "ping", "-r", "x\nError: y"]).1) ∧
    Invocation.ofArguments ["-f", "f.json", "query", "-r", "r", "-s", "SELECT d FROM t"] =
      .ok ⟨"f.json", false, .query "r" "SELECT d FROM t" [] false⟩ ∧
    (run (.singleWith "p") (some .infinite)
      ["-f", "f.json", "query", "-r", "r", "-s", "SELECT d FROM t"]).1.code = 101 ∧
    ¬AllOrNothing (.singleWith "p") (some .infinite)
      ⟨"f.json", false, .query "r" "SELECT d FROM t" [] false⟩
      (run (.singleWith "p") (some .infinite)
        ["-f", "f.json", "query", "-r", "r", "-s", "SELECT d FROM t"]).1 := by
  have hfirst : (run .unclosing (some .quiet) ["-f", "f.json", "ping", "-r", "r"]).1 =
      ⟨1, "ok: u@h:5432/db\n", "Error: Database connection error\n"⟩ := by decide +kernel
  have hsecond :
      (run (.singleWith "p") (some .quiet) ["-f", "f.json", "ping", "-r", "x\nError: y"]).1 =
      ⟨1, "", "Error: Configuration error: Role 'x\nError: y' " ++
        "is not found in the credentials file\n"⟩ := by decide +kernel
  have hthird : (run (.singleWith "p") (some .infinite)
      ["-f", "f.json", "query", "-r", "r", "-s", "SELECT d FROM t"]).1.code = 101 := by
    decide +kernel
  refine ⟨⟨toOption_eq_some_iff.1 (by decide +kernel), hfirst, ?_⟩,
    ⟨toOption_eq_some_iff.1 (by decide +kernel), hsecond, ?_⟩,
    toOption_eq_some_iff.1 (by decide +kernel), hthird, ?_⟩
  · -- what fails prints nothing, and this run has printed
    rw [hfirst]
    intro h
    exact absurd (h.of_failed Nat.one_ne_zero).2.1 (by decide)
  · -- an error is told in one line, and the name has a line break
    rw [hsecond]
    intro h
    exact absurd (h.of_failed Nat.one_ne_zero).2.2.count (by decide +kernel)
  · -- what fails has code one, and a panic has another
    intro h
    have hcode := (h.of_failed (by rw [hthird]; decide)).1
    rw [hthird] at hcode
    omega

end PgRole.CommandLine
