import Preflight.Client
import Preflight.Proofs.Wait.Stages
import Preflight.Proofs.Wait.View

/-!
What sending a call does, through any client: it asks for one simulation, sends the call at most once
and only if the simulation has no objection, checks what was sent and nothing else, and reports the
success last. The client is asked what the trace says, which a client that keeps a record shows.
-/

namespace Preflight

/-! ## 1. Actions -/

/-- Whether an effect is more than a line about the course of events. -/
def Effect.isAction : Effect → Bool
  | .line entry => entry.level = .info
  | _ => true

def Trace.actions (t : Trace) : List Effect :=
  (t.map Event.effect).filter Effect.isAction

theorem Trace.actions_append (a b : Trace) :
    Trace.actions (a ++ b) = Trace.actions a ++ Trace.actions b := by
  rw [actions, List.map_append, List.filter_append]
  rfl

theorem Trace.actions_logged (time : Nat) (entries : List Log.Entry)
    (h : ∀ entry ∈ entries, entry.level ≠ .info) :
    Trace.actions (entries.map fun entry => ⟨time, .line entry⟩) = [] := by
  apply List.filter_eq_nil_iff.mpr
  intro effect heffect
  rcases List.mem_map.mp heffect with ⟨event, hevent, rfl⟩
  rcases List.mem_map.mp hevent with ⟨entry, hentry, rfl⟩
  rw [Effect.isAction, decide_eq_true_eq]
  exact h entry hentry

theorem Trace.actions_cons (event : Event) (t : Trace) :
    Trace.actions (event :: t)
      = (if event.effect.isAction then [event.effect] else []) ++ Trace.actions t := by
  rw [actions, List.map_cons, List.filter_cons]
  split
  · rfl
  · rfl

theorem Trace.length_checkTimes (t : Trace) : t.checkTimes.length = t.actions.count .check := by
  induction t with
  | nil => rfl
  | cons event t ih =>
    rcases event with ⟨time, effect⟩
    rw [actions_cons, List.count_append, ← ih]
    cases effect with
    | check => exact Nat.add_comm _ _
    | query call => exact (Nat.zero_add _).symm
    | submit call options => exact (Nat.zero_add _).symm
    | line entry =>
      have hother :
          (if Effect.isAction (.line entry) then [Effect.line entry] else []).count .check = 0 := by
        split
        · rfl
        · rfl
      rw [hother, Nat.zero_add]
      rfl

def Effect.line? : Effect → Option Log.Entry
  | .line entry => some entry
  | _ => none

theorem Trace.filter_lines (t : Trace) :
    t.lines.filter (·.level = .info) = t.actions.filterMap Effect.line? := by
  induction t with
  | nil => rfl
  | cons event t ih =>
    rcases event with ⟨time, effect⟩
    rw [actions_cons, List.filterMap_append, ← ih]
    cases effect with
    | check => rfl
    | query call => rfl
    | submit call options => rfl
    | line entry =>
      show (entry :: Trace.lines t).filter _ = _
      rw [List.filter_cons, Effect.isAction]
      split
      · rfl
      · rfl

namespace Wait.Schedule

variable {σ : Type} (s : Schedule σ)

theorem actions_eventsOf (n : Nat) (lines : List Log.Entry)
    (h : ∀ entry ∈ lines, entry.level ≠ .info) :
    Trace.actions (s.eventsOf n lines) = [.check] := by
  have hlines := Trace.actions_logged (s.ends n) lines h
  show Effect.check :: Trace.actions (lines.map fun entry => ⟨s.ends n, .line entry⟩) = _
  rw [hlines]

theorem actions_eventsBefore (n : Nat) :
    Trace.actions (s.eventsBefore n) = List.replicate n .check := by
  induction n with
  | zero => rfl
  | succ n ih =>
    have hline : ∀ entry ∈ [s.goingOn n], entry.level ≠ .info := by
      intro entry hentry
      rw [List.mem_singleton.mp hentry]
      show Log.Level.debug ≠ .info
      decide
    rw [eventsBefore_succ, Trace.actions_append, ih, s.actions_eventsOf n _ hline,
      List.replicate_succ']

-- What a wait logs is for debugging, or a warning when it gives up.
theorem level_closing (n : Nat) : ∀ entry ∈ s.closing n, entry.level ≠ .info := by
  intro entry hentry
  rw [closing] at hentry
  split at hentry
  · cases hentry
  · rw [List.mem_singleton.mp hentry]
    show Log.Level.debug ≠ .info
    decide
  · rw [List.mem_singleton.mp hentry]
    show Log.Level.warn ≠ .info
    decide

theorem actions_outcome (n : Nat) :
    Trace.actions (s.outcome n).trace = List.replicate (n + 1) .check := by
  rw [outcome, Trace.actions_append, actions_eventsBefore,
    s.actions_eventsOf n _ (s.level_closing n), List.replicate_succ']

end Wait.Schedule

/-- A wait only checks, and what it leaves behind is what that many checks leave behind. -/
theorem Wait.exists_checks {σ : Type} (checks : Nat) (config : Config) (watch : Watch σ)
    (state : σ) :
    ∃ made, (config.mode = .test → made = 0) ∧
      (stage checks config none watch state).trace.actions = List.replicate made .check ∧
      (stage checks config none watch state).state
        = (Schedule.mk config.finalization watch state).stateAt made := by
  match config with
  | ⟨.test, finalization⟩ => exact ⟨0, fun _ => rfl, rfl, rfl⟩
  | ⟨.live, finalization⟩ =>
    have hlive : ∀ made : Nat, Mode.live = .test → made = 0 := by
      intro made h
      cases h
    let s : Schedule σ := ⟨finalization, watch, state⟩
    show ∃ made, _ ∧ (s.stage none checks).trace.actions = _ ∧ (s.stage none checks).state = _
    rcases s.stage_none_cases checks with ⟨-, hstage⟩ | ⟨k, -, -, -, hstage⟩
    · rw [hstage]
      exact ⟨checks, hlive checks, s.actions_eventsBefore checks, rfl⟩
    · rw [hstage]
      exact ⟨k + 1, hlive (k + 1), s.actions_outcome k, rfl⟩

namespace Client

variable {World Handle : Type} (client : Client World Handle) (checks : Nat) (call : Call)
  (options : CallOptions) (config : Config) (world : World)

/-! ## 2. The three ways through a call -/

/-- Why a call is not sent behind a simulation with some answer, if it is not: the message of a
fault, or the reported error without the blanks around it, unless that says that there is none. -/
def objection (answer : Except Fault DryRun) : Option String :=
  match answer with
  | .error fault => some fault.message
  | .ok outcome =>
    match outcome.error with
    | none => none
    | some error =>
      let shown := String.ofList (Text.trim error.toList)
      if shown = "" ∨ shown = "\x7b\x7d" ∨ shown = "null" ∨ shown = "()" then none else some shown

theorem errorPayload_eq_objection (outcome : DryRun) :
    outcome.errorPayload = objection (.ok outcome) := by
  rw [DryRun.errorPayload, objection]
  match outcome.error with
  | none => rfl
  | some error =>
    have hempty : ∀ shown : String, DryRun.emptyPayloads.contains shown = true ↔
        shown = "" ∨ shown = "\x7b\x7d" ∨ shown = "null" ∨ shown = "()" := by
      intro shown
      simp [DryRun.emptyPayloads]
    simp only [hempty]

theorem judge_eq (answer : Except Fault DryRun) :
    client.judge call answer =
      match objection answer with
      | none => (answer, [])
      | some reason => client.refuse call reason := by
  cases answer with
  | error fault => rfl
  | ok outcome =>
    rw [← errorPayload_eq_objection]
    cases h : outcome.errorPayload with
    | none => simp only [judge, h]
    | some reason => simp only [judge, h]

theorem progress_of_objection {reason : String}
    (h : objection (client.query call world).1 = some reason) :
    client.progress checks call options config world =
      .done ⟨.error (.refused (client.refusal call reason)), 0,
        [⟨0, .query call⟩, ⟨0, .line (client.refusalLine call reason)⟩],
        (client.query call world).2⟩ := by
  have hjudge := client.judge_eq call (client.query call world).1
  rw [h] at hjudge
  rw [progress, preview]
  simp only [hjudge, refuse]
  rfl

theorem progress_of_no_objection (h : objection (client.query call world).1 = none) :
    client.progress checks call options config world =
      match (client.submit call options (client.query call world).2).1 with
      | .error fault =>
        .done ⟨.error fault, 0, [⟨0, .query call⟩, ⟨0, .submit call options⟩],
          (client.submit call options (client.query call world).2).2⟩
      | .ok handle =>
        (client.settle call (Wait.stage checks config none client.watch
          (handle, (client.submit call options (client.query call world).2).2))).behind
          [⟨0, .query call⟩, ⟨0, .submit call options⟩] := by
  have hok : ∃ outcome, (client.query call world).1 = .ok outcome := by
    cases hanswer : (client.query call world).1 with
    | error fault => rw [hanswer] at h; cases h
    | ok outcome => exact ⟨outcome, rfl⟩
  rcases hok with ⟨outcome, hanswer⟩
  rw [hanswer] at h
  have hjudge := client.judge_eq call (.ok outcome)
  rw [h] at hjudge
  rw [progress, preview]
  simp only [hanswer, hjudge]
  rfl

theorem progress_of_submit_error {fault : Fault}
    (h : objection (client.query call world).1 = none)
    (hsent : (client.submit call options (client.query call world).2).1 = .error fault) :
    client.progress checks call options config world =
      .done ⟨.error fault, 0, [⟨0, .query call⟩, ⟨0, .submit call options⟩],
        (client.submit call options (client.query call world).2).2⟩ := by
  rw [client.progress_of_no_objection checks call options config world h, hsent]

theorem progress_of_submit_ok {handle : Handle}
    (h : objection (client.query call world).1 = none)
    (hsent : (client.submit call options (client.query call world).2).1 = .ok handle) :
    client.progress checks call options config world =
      (client.settle call (Wait.stage checks config none client.watch
        (handle, (client.submit call options (client.query call world).2).2))).behind
        [⟨0, .query call⟩, ⟨0, .submit call options⟩] := by
  rw [client.progress_of_no_objection checks call options config world h, hsent]

/-! ## 3. Views of a client -/

theorem Progress.sending?_eq_some {progress : Progress World Handle}
    {s : Sending World Handle} (h : progress.sending? = some s) : progress = .done s := by
  cases progress with
  | waiting trace handle world => cases h
  | done sending => rw [Option.some.inj h]

def Progress.map {World' : Type} (view : World → World') :
    Progress World Handle → Progress World' Handle
  | .waiting trace handle world => .waiting trace handle (view world)
  | .done sending => .done ⟨sending.result, sending.time, sending.trace, view sending.world⟩

/-- The client `seen` answers as `client` does, though all that it has of a world is a view. -/
structure IsView {World' : Type} (view : World → World') (client : Client World Handle)
    (seen : Client World' Handle) : Prop where
  name_eq : seen.name = client.name
  query_eq : ∀ call world, seen.query call (view world)
    = ((client.query call world).1, view (client.query call world).2)
  submit_eq : ∀ call options world, seen.submit call options (view world)
    = ((client.submit call options world).1, view (client.submit call options world).2)
  watch_eq : Wait.IsView (fun state => (state.1, view state.2)) client.watch seen.watch

section Views

variable {World' : Type} {view : World → World'} {client : Client World Handle}
  {seen : Client World' Handle}

theorem settle_map (h : IsView view client seen) (stage : Wait.Stage (Handle × World))
    (before : Trace) :
    ((client.settle call stage).behind before).map view
      = (seen.settle call (stage.map fun state => (state.1, view state.2))).behind before := by
  have hline : seen.successLine call = client.successLine call := by
    rw [successLine, successLine, h.name_eq]
  rcases stage with ⟨pos, trace, state⟩ | ⟨⟨fault | _, time, trace, state⟩⟩
  · rfl
  · rfl
  · show _ = Progress.behind before (.done ⟨.ok state.1, time,
      trace ++ [⟨time, .line (seen.successLine call)⟩], view state.2⟩)
    rw [hline]
    rfl

/-- Nothing of a call depends on what the view leaves out. -/
theorem progress_map (h : IsView view client seen) :
    (client.progress checks call options config world).map view
      = seen.progress checks call options config (view world) := by
  have hquery := h.query_eq call world
  have hanswer : (seen.query call (view world)).1 = (client.query call world).1 := by
    rw [hquery]
  cases hobjection : objection (client.query call world).1 with
  | some reason =>
    rw [client.progress_of_objection checks call options config world hobjection,
      seen.progress_of_objection checks call options config (view world)
        (by rw [hanswer, hobjection]),
      hquery, refusal, refusal, refusalLine, refusalLine, h.name_eq]
    rfl
  | none =>
    rw [client.progress_of_no_objection checks call options config world hobjection,
      seen.progress_of_no_objection checks call options config (view world)
        (by rw [hanswer, hobjection]),
      hquery, h.submit_eq]
    cases (client.submit call options (client.query call world).2).1 with
    | error fault => rfl
    | ok handle =>
      dsimp only
      rw [settle_map call h, Wait.stage_map h.watch_eq]

theorem judge_eq_judge (h : IsView view client seen) (answer : Except Fault DryRun) :
    seen.judge call answer = client.judge call answer := by
  simp only [judge_eq, refuse, refusal, refusalLine, h.name_eq]

theorem preview_map (h : IsView view client seen) :
    seen.preview call (view world) =
      { client.preview call world with world := view (client.preview call world).world } := by
  rw [preview, h.query_eq]
  dsimp only
  rw [judge_eq_judge call h]
  rfl

theorem previewAndSend_map (h : IsView view client seen) :
    seen.previewAndSend checks call options config (view world) =
      (client.previewAndSend checks call options config world).map
        fun s => ⟨s.result, s.time, s.trace, view s.world⟩ := by
  rw [previewAndSend, previewAndSend, ← progress_map checks call options config world h]
  cases client.progress checks call options config world with
  | waiting trace handle world => rfl
  | done sending => rfl

end Views

/-! ## 4. What the client is asked -/

/-- What a client is asked. -/
inductive Request (Handle : Type) where
  | query (call : Call)
  | submit (call : Call) (options : CallOptions)
  -- whether what was sent is final, in the state that it is in then
  | check (handle : Handle)

/-- The client with a record of everything that it is asked. -/
def recorded : Client (World × List (Request Handle)) Handle where
  name := client.name
  query call state :=
    let answer := client.query call state.1
    (answer.1, (answer.2, state.2 ++ [.query call]))
  submit call options state :=
    let sent := client.submit call options state.1
    (sent.1, (sent.2, state.2 ++ [.submit call options]))
  watch state time :=
    let seen := client.watch (state.1, state.2.1) time
    (seen.1, (seen.2.1, (seen.2.2, state.2.2 ++ [.check state.1])))

-- Keeping a record changes nothing else.
theorem isView_recorded : IsView Prod.fst client.recorded client where
  name_eq := rfl
  query_eq _ _ := rfl
  submit_eq _ _ _ := rfl
  watch_eq _ _ := rfl

theorem progress_recorded (record : List (Request Handle)) :
    (client.recorded.progress checks call options config (world, record)).map Prod.fst
      = client.progress checks call options config world :=
  progress_map checks call options config (world, record) client.isView_recorded

-- The checks of the record are of what `submit` returned, as the checks before left it.
theorem entry_recorded (p : Policy) (handle : Handle) (record : List (Request Handle)) (n : Nat) :
    (Wait.Schedule.mk p client.recorded.watch (handle, world, record)).entry n =
      let s := Wait.Schedule.mk p client.watch (handle, world)
      (s.begins n, (s.stateAt n).1, (s.stateAt n).2,
        record ++ (List.range n).map fun i => .check (s.stateAt i).1) := by
  induction n with
  | zero =>
    show (0, handle, world, record) = (0, handle, world, record ++ [])
    rw [List.append_nil]
  | succ n ih =>
    rw [Wait.Schedule.entry, ih]
    dsimp only
    rw [List.range_succ, List.map_append, ← List.append_assoc]
    rfl

-- A wait under a record tells the number of checks; the other wait has the same trace.
theorem exists_checks_recorded (handle : Handle) (record : List (Request Handle)) :
    ∃ made, (config.mode = .test → made = 0) ∧
      (Wait.stage checks config none client.recorded.watch (handle, world, record)).state.2.2
        = record ++ (List.range made).map (fun i =>
          .check ((Wait.Schedule.mk config.finalization client.watch (handle, world)).stateAt i).1) ∧
      (Wait.stage checks config none client.watch (handle, world)).trace.actions
        = List.replicate made .check := by
  rcases Wait.exists_checks checks config client.recorded.watch (handle, world, record) with
    ⟨made, htest, hactions, hstate⟩
  have hentry := client.entry_recorded world config.finalization handle record made
  have hview := Wait.stage_map client.isView_recorded.watch_eq checks config none (handle, world, record)
  refine ⟨made, htest, ?_, ?_⟩
  · rw [hstate, Wait.Schedule.stateAt, hentry]
  · rw [← hactions, ← hview, Wait.Stage.trace_map]

/-! ## 5. What a call does -/

def reported (result : Option (Except Fault Handle)) : List Effect :=
  match result with
  | some (.ok _) => [.line (client.successLine call)]
  | _ => []

-- Where a call succeeded, its wait ended and left the handle that the call hands out.
theorem fst_state_of_settle {stage : Wait.Stage (Handle × World)} {before : Trace}
    {s : Sending World Handle} {handle : Handle}
    (hs : ((client.settle call stage).behind before).sending? = some s)
    (hok : s.result = .ok handle) : stage.state.1 = handle := by
  rcases stage with ⟨pos, trace, state⟩ | ⟨⟨fault | _, time, trace, state⟩⟩
  · cases hs
  · cases hs
    cases hok
  · cases hs
    cases hok
    rfl

theorem settle_result (stage : Wait.Stage (Handle × World)) (before : Trace) :
    ((client.settle call stage).behind before).sending?.map Sending.result
      = stage.outcome?.map fun outcome => outcome.verdict.map fun _ => outcome.state.1 := by
  rcases stage with ⟨pos, trace, state⟩ | ⟨⟨fault | _, time, trace, state⟩⟩
  · rfl
  · rfl
  · rfl

theorem settle_actions (stage : Wait.Stage (Handle × World)) (before : Trace) :
    ((client.settle call stage).behind before).trace.actions
      = before.actions ++ stage.trace.actions ++ client.reported call
        (((client.settle call stage).behind before).sending?.map Sending.result) := by
  rcases stage with ⟨pos, trace, state⟩ | ⟨⟨fault | _, time, trace, state⟩⟩
  · show Trace.actions (before ++ trace) = before.actions ++ trace.actions ++ []
    rw [Trace.actions_append, List.append_nil]
  · show Trace.actions (before ++ trace) = before.actions ++ trace.actions ++ []
    rw [Trace.actions_append, List.append_nil]
  · -- the success line is the only line of a call that is an action
    show Trace.actions (before ++ (trace ++ [⟨time, .line (client.successLine call)⟩]))
      = before.actions ++ trace.actions ++ [.line (client.successLine call)]
    rw [Trace.actions_append, Trace.actions_append, List.append_assoc]
    rfl

theorem settle_world (stage : Wait.Stage (Handle × World)) (before : Trace) :
    ((client.settle call stage).behind before).world = stage.state.2 := by
  rcases stage with ⟨pos, trace, state⟩ | ⟨⟨fault | _, time, trace, state⟩⟩
  · rfl
  · rfl
  · rfl

/-- The only line of its level that a call logs is the one that reports its success. -/
theorem filter_lines_progress :
    (client.progress checks call options config world).trace.lines.filter (·.level = .info)
      = (client.reported call ((client.previewAndSend checks call options config world).map
          Sending.result)).filterMap Effect.line? := by
  rw [Trace.filter_lines, previewAndSend]
  cases h : objection (client.query call world).1 with
  | some reason =>
    rw [client.progress_of_objection checks call options config world h]
    rfl
  | none =>
    cases hsent : (client.submit call options (client.query call world).2).1 with
    | error fault =>
      rw [client.progress_of_submit_error checks call options config world h hsent]
      rfl
    | ok handle =>
      rw [client.progress_of_submit_ok checks call options config world h hsent, settle_actions]
      rcases Wait.exists_checks checks config client.watch
        (handle, (client.submit call options (client.query call world).2).2) with
        ⟨made, -, hactions, -⟩
      rw [hactions, List.filterMap_append, List.filterMap_append,
        List.filterMap_replicate_of_none rfl]
      rfl

/-- Everything that previewing and sending a call does, for any client and however far it comes. The
client is asked for one simulation of the call. If that has an objection, it is asked nothing else,
and the call is refused with it. Otherwise the client is asked once to send this call with these
options. If sending fails, that is all, and its fault is the result. Otherwise what was sent is
checked, never under a test configuration, and the result is that of the wait. The success is
reported once, behind the last check, if and only if the call succeeded; the line shows all
arguments but the last. -/
theorem previewAndSend_effects :
    let answer := client.query call world
    let sent := client.submit call options answer.2
    let progress := client.progress checks call options config world
    let record := (client.recorded.progress checks call options config (world, [])).world.2
    let result := (client.previewAndSend checks call options config world).map Sending.result
    let shown := Json.textArray call.args.dropLast
    let success : Log.Entry :=
      ⟨.info, "pop_tx", s!"Transaction succeeded: {client.name}.{call.method}({shown})"⟩
    (client.recorded.progress checks call options config (world, [])).map Prod.fst = progress ∧
    match objection answer.1, sent.1 with
    | some reason, _ =>
      record = [.query call] ∧ progress.trace.actions = [.query call] ∧
      result = some (.error (.refused
        { contract := client.name, method := call.method, args := call.argsText, reason }))
    | none, .error fault =>
      record = [.query call, .submit call options] ∧
      progress.trace.actions = [.query call, .submit call options] ∧
      result = some (.error fault)
    | none, .ok handle =>
      let s : Wait.Schedule (Handle × World) :=
        ⟨config.finalization, client.watch, (handle, sent.2)⟩
      ∃ made, (config.mode = .test → made = 0) ∧
        record = [.query call, .submit call options]
          ++ (List.range made).map (fun i => .check (s.stateAt i).1) ∧
        progress.trace.actions = [.query call, .submit call options]
          ++ List.replicate made .check
          ++ (match result with | some (.ok _) => [.line success] | _ => []) ∧
        result = (Wait.run checks config none client.watch (handle, sent.2)).map
          fun outcome => outcome.verdict.map fun _ => outcome.state.1 := by
  intro answer sent progress record result shown success
  refine ⟨client.progress_recorded checks call options config world [], ?_⟩
  cases h : objection answer.1 with
  | some reason =>
    have hprogress := client.progress_of_objection checks call options config world h
    have hrecorded := client.recorded.progress_of_objection checks call options config
      (world, []) h
    refine ⟨?_, ?_, ?_⟩
    · exact congrArg (fun p => (Progress.world p).2) hrecorded
    · exact congrArg (fun p => (Progress.trace p).actions) hprogress
    · exact congrArg (fun p => (Progress.sending? p).map Sending.result) hprogress
  | none =>
    cases hsent : sent.1 with
    | error fault =>
      have hprogress := client.progress_of_submit_error checks call options config world h hsent
      have hrecorded := client.recorded.progress_of_submit_error checks call options config
        (world, []) h hsent
      refine ⟨?_, ?_, ?_⟩
      · exact congrArg (fun p => (Progress.world p).2) hrecorded
      · exact congrArg (fun p => (Progress.trace p).actions) hprogress
      · exact congrArg (fun p => (Progress.sending? p).map Sending.result) hprogress
    | ok handle =>
      have hprogress := client.progress_of_submit_ok checks call options config world h hsent
      have hrecorded := client.recorded.progress_of_submit_ok checks call options config
        (world, []) h hsent
      rcases client.exists_checks_recorded checks config sent.2 handle
        [.query call, .submit call options] with ⟨made, htest, hrecord, hactions⟩
      refine ⟨made, htest, ?_, ?_, ?_⟩
      · have hworld := congrArg (fun p => (Progress.world p).2) hrecorded
        rw [settle_world] at hworld
        exact hworld.trans hrecord
      · have hdone := congrArg (fun p => (Progress.trace p).actions) hprogress
        rw [settle_actions, hactions, ← hprogress] at hdone
        exact hdone
      · have hresult := congrArg (fun p => (Progress.sending? p).map Sending.result) hprogress
        rw [settle_result] at hresult
        exact hresult

end Client

end Preflight
