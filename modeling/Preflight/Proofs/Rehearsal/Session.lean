import Preflight.Proofs.Client.Effects
import Preflight.Rehearsal.Contract

/-!
Sessions on a contract in memory. What the contract recorded after some of the requests is read off
the requests, and everything else that is known after a request is what the same request gives on a
contract that was not asked anything before. So it is enough to know what one request does.
-/

namespace Preflight.Rehearsal

/-! ## 1. Histories -/

namespace History

instance : Append History where
  append before after := ⟨before.queries ++ after.queries, before.sent ++ after.sent⟩

theorem append_empty (h : History) : h ++ ({} : History) = h := by
  show History.mk (h.queries ++ []) (h.sent ++ []) = h
  rw [List.append_nil, List.append_nil]

theorem append_assoc (a b c : History) : a ++ b ++ c = a ++ (b ++ c) := by
  show History.mk (a.queries ++ b.queries ++ c.queries) (a.sent ++ b.sent ++ c.sent)
    = History.mk (a.queries ++ (b.queries ++ c.queries)) (a.sent ++ (b.sent ++ c.sent))
  rw [List.append_assoc, List.append_assoc]

end History

namespace Request

def call : Request → Call
  | .preview call => call
  | .send call _ _ => call
  | .sendWithDefaults call _ => call

/-- What is asked to be sent, if anything is. -/
def sending? : Request → Option (Call × CallOptions)
  | .preview _ => none
  | .send call options _ => some (call, options)
  | .sendWithDefaults call _ => some (call, .standard)

end Request

/-- Something was to be sent, and that succeeded. -/
def Report.isSuccessOf (report : Report) (request : Request) : Bool :=
  request.sending?.isSome && report.result.isOk

namespace Contract

variable (c : Contract)

/-- Nothing keeps a call from being sent: neither the simulation nor the sending fails, and the
simulation reports no error. -/
def Accepts : Prop :=
  c.queryError = none ∧ c.submitError = none ∧ c.dryRun.errorPayload = none

instance : Decidable c.Accepts := inferInstanceAs (Decidable (_ ∧ _ ∧ _))

/-- What the contract records of some requests. -/
def historyOf (requests : List Request) : History where
  queries := requests.map Request.call
  sent := if c.Accepts then requests.filterMap Request.sending? else []

theorem historyOf_nil : c.historyOf [] = {} := by
  show History.mk [] (if c.Accepts then [] else []) = History.mk [] []
  rw [ite_self]

theorem historyOf_append (before after : List Request) :
    c.historyOf (before ++ after) = c.historyOf before ++ c.historyOf after := by
  refine congrArg₂ History.mk List.map_append ?_
  by_cases haccepts : c.Accepts
  · simp only [historyOf, if_pos haccepts, List.filterMap_append]
  · simp only [historyOf, if_neg haccepts, List.append_nil]

theorem accepts_iff :
    c.Accepts ↔ Client.objection c.answer = none ∧ c.submitError = none := by
  rw [Accepts, answer]
  cases c.queryError with
  | some error => simp [Client.objection]
  | none => simp [Client.errorPayload_eq_objection, and_comm]

/-! ## 2. What is sent -/

-- No wait changes what the contract recorded, and each begins with a count of zero.
theorem stateAt_client (p : Policy) (h : History) (n : Nat) :
    (Wait.Schedule.mk p c.client.watch (.finalizedAfter c.pendingPolls, h)).stateAt n
      = ({ Transaction.finalizedAfter c.pendingPolls with polls := n % Transaction.pollLimit },
        h) := by
  induction n with
  | zero => rfl
  | succ n ih =>
    rw [Wait.Schedule.stateAt_succ, ih, ← Nat.mod_add_mod n]
    rfl

variable (checks : Nat) (call : Call) (options : CallOptions) (config : Config) (h : History)

theorem query_client : c.client.query call h = (c.answer, h ++ ⟨[call], []⟩) :=
  congrArg (fun sent => (c.answer, History.mk _ sent)) (List.append_nil h.sent).symm

theorem submit_client :
    c.client.submit call options h =
      match c.submitError with
      | some error => (.error (.transaction error), h)
      | none => (.ok (.finalizedAfter c.pendingPolls), h ++ ⟨[], [(call, options)]⟩) := by
  show (match c.submitError with | some error => _ | none => _) = _
  cases c.submitError with
  | some error => rfl
  | none =>
    show (_, History.mk h.queries _) = (_, History.mk (h.queries ++ []) _)
    rw [List.append_nil]

theorem progress_of_accepts (haccepts : c.Accepts) :
    c.client.progress checks call options config h =
      (c.client.settle call (Wait.stage checks config none c.client.watch
        (.finalizedAfter c.pendingPolls, h ++ ⟨[call], [(call, options)]⟩))).behind
        [⟨0, .query call⟩, ⟨0, .submit call options⟩] := by
  rcases c.accepts_iff.mp haccepts with ⟨hobjection, hsubmit⟩
  have hsent : c.client.submit call options (c.client.query call h).2
      = (.ok (.finalizedAfter c.pendingPolls), h ++ ⟨[call], [(call, options)]⟩) := by
    rw [query_client, submit_client, hsubmit]
    dsimp only
    rw [History.append_assoc]
    rfl
  rw [c.client.progress_of_submit_ok checks call options config h hobjection
    (congrArg Prod.fst hsent), hsent]

theorem progress_of_not_accepts (hrefuses : ¬ c.Accepts) :
    ∃ fault trace, c.client.progress checks call options config h
      = .done ⟨.error fault, 0, trace, h ++ ⟨[call], []⟩⟩ := by
  cases hobjection : Client.objection c.answer with
  | some reason =>
    rw [c.client.progress_of_objection checks call options config h hobjection, query_client]
    exact ⟨_, _, rfl⟩
  | none =>
    cases hsubmit : c.submitError with
    | some error =>
      have hsent : c.client.submit call options (c.client.query call h).2
          = (.error (.transaction error), h ++ ⟨[call], []⟩) := by
        rw [submit_client, hsubmit, query_client]
      rw [c.client.progress_of_submit_error checks call options config h hobjection
        (congrArg Prod.fst hsent), hsent]
      exact ⟨_, _, rfl⟩
    | none => exact absurd (c.accepts_iff.mpr ⟨hobjection, hsubmit⟩) hrefuses

theorem world_progress :
    (c.client.progress checks call options config h).world
      = h ++ ⟨[call], if c.Accepts then [(call, options)] else []⟩ := by
  by_cases haccepts : c.Accepts
  · rw [if_pos haccepts, c.progress_of_accepts checks call options config h haccepts,
      Client.settle_world]
    rcases Wait.exists_checks checks config c.client.watch
      (.finalizedAfter c.pendingPolls, h ++ ⟨[call], [(call, options)]⟩) with ⟨made, -, -, hstate⟩
    rw [hstate, stateAt_client]
  · rcases c.progress_of_not_accepts checks call options config h haccepts with
      ⟨fault, trace, hprogress⟩
    rw [if_neg haccepts, hprogress]
    rfl

-- What a call hands out was checked as often as its trace says, from a count of zero on.
theorem polls_of_sent {s : Client.Sending History Transaction} {t : Transaction}
    (hs : c.client.previewAndSend checks call options config h = some s) (ht : s.result = .ok t) :
    t.polls = s.trace.checkTimes.length % Transaction.pollLimit := by
  rw [Client.previewAndSend] at hs
  by_cases haccepts : c.Accepts
  · rw [c.progress_of_accepts checks call options config h haccepts] at hs
    rcases Wait.exists_checks checks config c.client.watch
      (.finalizedAfter c.pendingPolls, h ++ ⟨[call], [(call, options)]⟩) with
      ⟨made, -, hactions, hstate⟩
    have hhandle := c.client.fst_state_of_settle call hs ht
    have htrace := c.client.settle_actions call (Wait.stage checks config none c.client.watch
      (.finalizedAfter c.pendingPolls, h ++ ⟨[call], [(call, options)]⟩))
      [⟨0, .query call⟩, ⟨0, .submit call options⟩]
    rw [hs, Client.Progress.sending?_eq_some hs, hactions] at htrace
    have hmade : s.trace.checkTimes.length = made := by
      rw [Trace.length_checkTimes, show s.trace.actions = _ from htrace, List.count_append,
        List.count_append, List.count_replicate_self, Option.map_some, ht]
      exact Nat.zero_add made
    rw [← hhandle, hstate, stateAt_client, hmade]
  · rcases c.progress_of_not_accepts checks call options config h haccepts with
      ⟨fault, trace, hprogress⟩
    rw [hprogress] at hs
    cases hs
    cases ht

-- A wait ends at the latest with the check that is final.
theorem run_isSome (hlimit : c.pendingPolls < Transaction.pollLimit)
    (hchecks : c.pendingPolls < checks) :
    (Wait.run checks config none c.client.watch (.finalizedAfter c.pendingPolls, h)).isSome := by
  match config with
  | ⟨.test, finalization⟩ => rfl
  | ⟨.live, finalization⟩ =>
    let s : Wait.Schedule (Transaction × History) :=
      ⟨finalization, c.client.watch, (.finalizedAfter c.pendingPolls, h)⟩
    have hlast : s.IsLast c.pendingPolls := by
      left
      left
      show (c.client.watch (s.stateAt c.pendingPolls) (s.begins c.pendingPolls)).1.reply = .ok true
      rw [c.stateAt_client finalization h]
      exact congrArg Except.ok (decide_eq_true (Nat.mod_eq_of_lt hlimit).ge)
    rcases s.exists_first_isLast hlast with ⟨k, hk, hreaches, hfirst⟩
    have hrun := s.run_eq_some_iff.mpr ⟨k, Nat.lt_of_le_of_lt hk hchecks, hreaches, hfirst, rfl⟩
    exact Option.isSome_of_eq_some hrun

/-! ## 3. One request -/

-- What was recorded before stays in front, and nothing else depends on it.
theorem isView_append : Client.IsView (h ++ ·) c.client c.client where
  name_eq := rfl
  query_eq call world := by
    rw [query_client, query_client, History.append_assoc]
  submit_eq call options world := by
    rw [submit_client, submit_client]
    cases c.submitError with
    | some error => rfl
    | none =>
      dsimp only
      rw [History.append_assoc]
  watch_eq _ _ := rfl

/-- The same request on a contract that was asked other things before. -/
theorem serve_append (request : Request) (later : History) :
    c.serve checks (h ++ later) request =
      (c.serve checks later request).map fun report =>
        { report with history := h ++ report.history } := by
  have hsend : ∀ call options config,
      c.serve checks (h ++ later) (.send call options config) =
        (c.serve checks later (.send call options config)).map fun report =>
          { report with history := h ++ report.history } := by
    intro call options config
    rw [serve, serve, Client.previewAndSend_map checks call options config later (c.isView_append h),
      Option.map_map, Option.map_map]
    rfl
  cases request with
  | preview call =>
    rw [serve, serve, Client.preview_map call later (c.isView_append h)]
    rfl
  | send call options config => exact hsend call options config
  | sendWithDefaults call config => exact hsend call .standard config

-- So a contract that was asked anything else answers the same.
theorem exists_serve {request : Request} {report : Report}
    (hserve : c.serve checks h request = some report) (before : History) :
    ∃ again, c.serve checks before request = some again ∧
      again.result = report.result ∧ again.time = report.time ∧ again.trace = report.trace := by
  rw [← History.append_empty h, serve_append] at hserve
  rcases Option.map_eq_some_iff.mp hserve with ⟨alone, halone, rfl⟩
  refine ⟨{ alone with history := before ++ alone.history }, ?_, rfl, rfl, rfl⟩
  rw [← History.append_empty before, serve_append, halone, History.append_empty]
  rfl

/-- What a report says about the request that it is for, whatever was recorded before. -/
structure Tells (request : Request) (report : Report) : Prop where
  history_eq : report.history = h ++ c.historyOf [request]
  polls_eq : ∀ t, report.result = .ok (.sent t) →
    t.polls = report.trace.checkTimes.length % Transaction.pollLimit
  info_eq : report.trace.lines.filter (·.level = .info)
    = if report.isSuccessOf request then [c.client.successLine request.call] else []

theorem tells_of_preview : c.Tells h (.preview call)
    ⟨(c.client.preview call h).result.map .previewed, (c.client.preview call h).world, 0,
      (c.client.preview call h).trace⟩ where
  history_eq := by
    show (c.client.query call h).2 = h ++ History.mk [call] (if c.Accepts then [] else [])
    rw [query_client, ite_self]
  polls_eq t ht := by
    cases hresult : (c.client.preview call h).result with
    | error fault =>
      rw [hresult] at ht
      cases ht
    | ok outcome =>
      rw [hresult] at ht
      cases ht
  info_eq := by
    show (Trace.lines ((c.client.judge call (c.client.query call h).1).2.map
      fun entry => ⟨0, .line entry⟩)).filter _ = []
    rw [Trace.lines_logged, Client.judge_eq]
    cases Client.objection (c.client.query call h).1 with
    | none => rfl
    | some reason => rfl

theorem tells_of_sending {s : Client.Sending History Transaction}
    (hs : c.client.previewAndSend checks call options config h = some s) :
    c.Tells h (.send call options config) (reportOf s) where
  history_eq := by
    have hworld := c.world_progress checks call options config h
    rw [Client.Progress.sending?_eq_some hs] at hworld
    exact hworld
  polls_eq t ht := by
    cases hresult : s.result with
    | error fault =>
      rw [reportOf, hresult] at ht
      cases ht
    | ok handle =>
      rw [reportOf, hresult] at ht
      cases ht
      exact c.polls_of_sent checks call options config h hs hresult
  info_eq := by
    have hlines := c.client.filter_lines_progress checks call options config h
    rw [hs, Client.Progress.sending?_eq_some hs] at hlines
    show (Trace.lines s.trace).filter _ = _
    rw [show (Trace.lines s.trace).filter _ = _ from hlines, Option.map_some, reportOf]
    cases s.result with
    | error fault => rfl
    | ok handle => rfl

theorem tells_of_serve {request : Request} {report : Report}
    (hserve : c.serve checks h request = some report) : c.Tells h request report := by
  cases request with
  | preview call =>
    cases hserve
    exact c.tells_of_preview call h
  | send call options config =>
    rcases Option.map_eq_some_iff.mp hserve with ⟨s, hs, rfl⟩
    exact c.tells_of_sending checks call options config h hs
  | sendWithDefaults call config =>
    rcases Option.map_eq_some_iff.mp hserve with ⟨s, hs, rfl⟩
    rcases c.tells_of_sending checks call .standard config h hs with ⟨hhistory, hpolls, hinfo⟩
    exact ⟨hhistory, hpolls, hinfo⟩

/-- A contract answers every request, if a wait may come to the check that is final. -/
theorem serve_isSome (hlimit : c.pendingPolls < Transaction.pollLimit)
    (hchecks : c.pendingPolls < checks) (request : Request) :
    (c.serve checks h request).isSome := by
  have hsend : ∀ call options config,
      (c.serve checks h (.send call options config)).isSome := by
    intro call options config
    rw [serve, Option.isSome_map]
    by_cases haccepts : c.Accepts
    · rw [Client.previewAndSend, c.progress_of_accepts checks call options config h haccepts,
        ← Option.isSome_map (f := Client.Sending.result), Client.settle_result, Option.isSome_map]
      exact c.run_isSome checks config _ hlimit hchecks
    · rcases c.progress_of_not_accepts checks call options config h haccepts with
        ⟨fault, trace, hprogress⟩
      rw [Client.previewAndSend, hprogress]
      rfl
  cases request with
  | preview call => rfl
  | send call options config => exact hsend call options config
  | sendWithDefaults call config => exact hsend call .standard config

/-! ## 4. Sessions -/

variable {c} {checks} {h}

theorem session_cons {request : Request} {rest : List Request} {reports : List Report}
    (hsession : c.session checks h (request :: rest) = some reports) :
    ∃ report later, reports = report :: later ∧ c.serve checks h request = some report ∧
      c.session checks report.history rest = some later := by
  rw [session] at hsession
  cases hserve : c.serve checks h request with
  | none =>
    rw [hserve] at hsession
    cases hsession
  | some report =>
    rw [hserve] at hsession
    rcases Option.map_eq_some_iff.mp hsession with ⟨later, hlater, rfl⟩
    exact ⟨report, later, rfl, rfl, hlater⟩

theorem length_session {requests : List Request} {reports : List Report}
    (hsession : c.session checks h requests = some reports) :
    reports.length = requests.length := by
  induction requests generalizing h reports with
  | nil =>
    cases hsession
    rfl
  | cons request rest ih =>
    rcases session_cons hsession with ⟨report, later, rfl, -, hlater⟩
    exact congrArg Nat.succ (ih hlater)

-- Each request is served on what the ones before it left behind.
theorem serve_of_session {requests : List Request} {reports : List Report}
    (hsession : c.session checks h requests = some reports) {n : Nat} {request : Request}
    {report : Report} (hrequest : requests[n]? = some request) (hreport : reports[n]? = some report) :
    c.serve checks (h ++ c.historyOf (requests.take n)) request = some report := by
  induction requests generalizing h reports n with
  | nil => cases hrequest
  | cons first rest ih =>
    rcases session_cons hsession with ⟨firstReport, later, rfl, hserve, hlater⟩
    have htells := c.tells_of_serve checks h hserve
    cases n with
    | zero =>
      cases hrequest
      cases hreport
      rw [List.take_zero, historyOf_nil, History.append_empty]
      exact hserve
    | succ n =>
      have hrest := ih hlater hrequest hreport
      rw [htells.history_eq, History.append_assoc, ← historyOf_append] at hrest
      exact hrest

theorem countP_lines_session {requests : List Request} {reports : List Report}
    (hsession : c.session checks h requests = some reports) :
    (reports.flatMap (·.trace.lines)).countP (·.level = .info)
      = (requests.zip reports).countP fun (request, report) => report.isSuccessOf request := by
  induction requests generalizing h reports with
  | nil =>
    cases hsession
    rfl
  | cons request rest ih =>
    rcases session_cons hsession with ⟨report, later, rfl, hserve, hlater⟩
    have htells := c.tells_of_serve checks h hserve
    have hlines : report.trace.lines.countP (·.level = .info)
        = if report.isSuccessOf request then 1 else 0 := by
      rw [List.countP_eq_length_filter, htells.info_eq]
      split
      · rfl
      · rfl
    rw [List.flatMap_cons, List.countP_append, ih hlater, hlines, List.zip_cons_cons,
      List.countP_cons, Nat.add_comm]

/-- A session comes to an end, if a wait may come to the check that is final. -/
theorem session_isSome (hlimit : c.pendingPolls < Transaction.pollLimit)
    (hchecks : c.pendingPolls < checks) (requests : List Request) :
    (c.session checks h requests).isSome := by
  induction requests generalizing h with
  | nil => rfl
  | cons request rest ih =>
    rcases Option.isSome_iff_exists.mp (c.serve_isSome checks h hlimit hchecks request) with
      ⟨report, hserve⟩
    rw [session, hserve]
    show (Option.map _ _).isSome
    rw [Option.isSome_map]
    exact ih

/-- Everything that is known after each request of a session on a new contract. The contract
recorded the simulated calls of the requests so far and, if it accepts calls, the sent ones too,
whether they became final or not. The rest is what the same request gives behind any others, and a
transaction that is handed out was checked as often as the trace says, from a count of zero on. A
success is logged for each call that succeeded, and for nothing else. -/
theorem session_history (requests : List Request) (reports : List Report)
    (hsession : c.session checks {} requests = some reports) :
    reports.length = requests.length ∧
    (∀ n request report, requests[n]? = some request → reports[n]? = some report →
      report.history.queries = (requests.take (n + 1)).map Request.call ∧
      report.history.sent
        = (if c.Accepts then (requests.take (n + 1)).filterMap Request.sending? else []) ∧
      (∀ before, ∃ again, c.serve checks before request = some again ∧
        again.result = report.result ∧ again.time = report.time ∧ again.trace = report.trace) ∧
      (∀ t, report.result = .ok (.sent t) →
        t.polls = report.trace.checkTimes.length % Transaction.pollLimit) ∧
      report.trace.lines.filter (·.level = .info)
        = if report.isSuccessOf request then [c.client.successLine request.call] else []) ∧
    (reports.flatMap (·.trace.lines)).countP (·.level = .info)
      = (requests.zip reports).countP fun (request, report) => report.isSuccessOf request := by
  refine ⟨length_session hsession, ?_, countP_lines_session hsession⟩
  intro n request report hrequest hreport
  have hserve := serve_of_session hsession hrequest hreport
  rcases c.tells_of_serve checks _ hserve with ⟨hhistory, hpolls, hinfo⟩
  have hsofar : report.history = c.historyOf (requests.take (n + 1)) := by
    rw [hhistory, List.take_add_one, hrequest, historyOf_append]
    rfl
  refine ⟨?_, ?_, c.exists_serve checks _ hserve, hpolls, hinfo⟩
  · rw [hsofar, historyOf]
  · rw [hsofar, historyOf]

end Contract

/-! ## 5. An example -/

/-- A fountain whose drops are final with the third check. -/
def fountain : Contract := { name := "fountain", pendingPolls := 2 }

def drip : Call := { method := "drip", args := ["2", "null"] }

def dripLimits : CallOptions := { gasLimit := ⟨5, 5⟩ }

/-- One wait with too few attempts, and one with enough. -/
def threeDrips : List Request :=
  [.preview drip,
    .send drip dripLimits (.live { maxAttempts := some 2 }),
    .sendWithDefaults drip (.live {})]

/-- The drop whose wait ran out of attempts was sent too, and left no count behind. -/
theorem session_history_threeDrips :
    ∃ reports, fountain.session 3 {} threeDrips = some reports ∧
      (∃ late, reports[1]? = some late ∧ late.result = .error (.timedOut 2 10000000000) ∧
        late.history.sent = [(drip, dripLimits)]) ∧
      (∃ last, reports[2]? = some last ∧
        last.result = .ok (.sent { Transaction.finalizedAfter 2 with polls := 3 }) ∧
        last.history.queries = [drip, drip, drip] ∧
        last.history.sent = [(drip, dripLimits), (drip, .standard)]) ∧
      (reports.flatMap (·.trace.lines)).countP (·.level = .info) = 1 := by
  have hsession : fountain.session 3 {} threeDrips = some _ := rfl
  rcases Contract.session_history threeDrips _ hsession with ⟨-, heach, hlines⟩
  rcases heach 1 _ _ rfl rfl with ⟨-, hlate, -⟩
  rcases heach 2 _ _ rfl rfl with ⟨hqueries, hlast, -⟩
  exact ⟨_, hsession, ⟨_, rfl, rfl, hlate.trans rfl⟩, ⟨_, rfl, rfl, hqueries, hlast.trans rfl⟩,
    hlines.trans rfl⟩

end Preflight.Rehearsal
